/-
Byte strings, the form of every text the machine reads or writes.

* `utf8`: the bytes of a written text;
* `decimal` / `integer`: numbers in base ten;
* `hexadecimal`: numbers in base sixteen, padded with zeros;
* `Bytes.padLeft` / `Bytes.padRight`: columns of a table;
* `Bytes.before`: the lexicographic order.
-/

namespace RegisterMachine

/-- A text is a list of bytes, which need not be valid UTF-8. -/
abbrev Bytes := List UInt8

/-- The UTF-8 bytes of a text. -/
def utf8 (s : String) : Bytes :=
  s.toUTF8.data.toList

/-- The line feed, as a text of its own. -/
def newline : Bytes := [10]

/-- A natural number in base ten, without leading zeros. -/
def decimal (n : Nat) : Bytes :=
  (Nat.toDigits 10 n).map Char.toUInt8

/-- An integer in base ten, with a minus sign when it is negative. -/
def integer : Int → Bytes
  | .ofNat n => decimal n
  | .negSucc n => 45 :: decimal (n + 1)

namespace Bytes

/-- `s` with `c` before it until it has `width` bytes. -/
def padLeft (c : UInt8) (width : Nat) (s : Bytes) : Bytes :=
  List.replicate (width - s.length) c ++ s

/-- `s` with `c` after it until it has `width` bytes. -/
def padRight (c : UInt8) (width : Nat) (s : Bytes) : Bytes :=
  s ++ List.replicate (width - s.length) c

/-- `a` comes before `b` in the lexicographic order of bytes, or is `b`. -/
def before (a b : Bytes) : Bool :=
  !List.lex b a (· < ·)

/-- The texts with `separator` between them. -/
def joined (separator : Bytes) (parts : List Bytes) : Bytes :=
  List.intercalate separator parts

/-- The small letter of an ASCII capital, and every other byte itself. -/
def lower (c : UInt8) : UInt8 :=
  if 65 ≤ c ∧ c ≤ 90 then c + 32 else c

/-- `s` without `ending`, or `s` itself when it does not end so. -/
def dropEnding (ending s : Bytes) : Bytes :=
  if ending.isSuffixOf s then s.take (s.length - ending.length) else s

end Bytes

/-- A natural number in base sixteen with digits `0-9a-f`, padded with zeros
to `width` digits. -/
def hexadecimal (width n : Nat) : Bytes :=
  Bytes.padLeft 48 width ((Nat.toDigits 16 n).map Char.toUInt8)

/-- A natural number in base sixteen with digits `0-9A-F`, padded with zeros
to `width` digits. -/
def hexadecimalCapital (width n : Nat) : Bytes :=
  Bytes.padLeft 48 width ((Nat.toDigits 16 n).map fun c => c.toUpper.toUInt8)

end RegisterMachine
