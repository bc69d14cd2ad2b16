/-
Reading whole numbers from text.

* `Numeral.readNatural`: an unsigned numeral of a given number of bits;
* `Numeral.readInteger`: a numeral with an optional sign, of 64 bits.

With `Spelling.literal` the base is told by the start of the text (`0x`, `0b`,
`0o` or a leading `0`) and an underscore may stand between two digits; with
`Spelling.plain` the base is given and only digits are read.  Digits are read
from the left and the first one that leads out of range ends the reading, so
what follows it is not looked at.
-/
import RegisterMachine.Text.Quoted

namespace RegisterMachine.Numeral

/-- Why a text is not a numeral of the wanted kind. -/
inductive Error where
  /-- The text is not spelled as a numeral. -/
  | malformed
  /-- The number is too large, or too small. -/
  | outOfRange
deriving DecidableEq, Repr

/-- How a numeral is spelled. -/
inductive Spelling where
  /-- Digits of the given base only. -/
  | plain (base : Nat)
  /-- The base is told by the start of the text; underscores may divide digits. -/
  | literal
deriving DecidableEq, Repr

/-- The value of a digit or letter, with `a` and `A` for ten. -/
def digit? (c : UInt8) : Option Nat :=
  let c := Bytes.lower c
  if 48 ≤ c ∧ c ≤ 57 then some (c.toNat - 48)
  else if 97 ≤ c ∧ c ≤ 122 then some (c.toNat - 87)
  else none

/-- The base of a literal and the digits after the mark of the base. -/
def split : Bytes → Nat × Bytes
  | 48 :: mark :: first :: rest =>
    if Bytes.lower mark = 98 then (2, first :: rest)
    else if Bytes.lower mark = 111 then (8, first :: rest)
    else if Bytes.lower mark = 120 then (16, first :: rest)
    else (8, mark :: first :: rest)
  | 48 :: rest => (8, rest)
  | s => (10, s)

/-- Reads digits of `base` onto the number `n`, up to `bound`; underscores are
passed over when `dividers` says so. -/
def accumulate (dividers : Bool) (base bound : Nat) : Nat → Bytes → Except Error Nat
  | n, [] => .ok n
  | n, c :: rest =>
    if dividers && c == 95 then accumulate dividers base bound n rest
    else match digit? c with
      | none => .error .malformed
      | some d =>
        if base ≤ d then .error .malformed
        else if bound < n * base + d then .error .outOfRange
        else accumulate dividers base bound (n * base + d) rest

/-- What the last byte of a literal was, as far as underscores ask. -/
inductive Last where
  | start
  | digit
  | divider
  | other
deriving DecidableEq, Repr

/-- Every underscore stands between two digits, after `last`. -/
def dividedFrom (hex : Bool) : Last → Bytes → Bool
  | last, [] => last != .divider
  | last, c :: rest =>
    if (48 ≤ c && c ≤ 57) || (hex && 97 ≤ Bytes.lower c && Bytes.lower c ≤ 102) then
      dividedFrom hex .digit rest
    else if c == 95 then last == .digit && dividedFrom hex .divider rest
    else last != .divider && dividedFrom hex .other rest

/-- Every underscore of a literal stands between two digits, where the mark of
the base counts as a digit. -/
def divided : Bytes → Bool
  | 48 :: mark :: rest =>
    if Bytes.lower mark = 98 ∨ Bytes.lower mark = 111 then dividedFrom false .digit rest
    else if Bytes.lower mark = 120 then dividedFrom true .digit rest
    else dividedFrom false .start (48 :: mark :: rest)
  | s => dividedFrom false .start s

/-- Reads an unsigned numeral below `2 ^ bits`. -/
def readNatural (spelling : Spelling) (bits : Nat) (s : Bytes) : Except Error Nat :=
  if s.isEmpty then .error .malformed
  else match spelling with
    | .plain base => accumulate false base (Nat.pow 2 bits - 1) 0 s
    | .literal =>
      match accumulate true (split s).1 (Nat.pow 2 bits - 1) 0 (split s).2 with
      | .error e => .error e
      | .ok n => if s.contains 95 && !divided s then .error .malformed else .ok n

/-- The sign of a numeral and what follows it; true for a minus sign. -/
def sign : Bytes → Bool × Bytes
  | 43 :: rest => (false, rest)
  | 45 :: rest => (true, rest)
  | s => (false, s)

/-- Reads a numeral with an optional sign, between `-2 ^ 63` and `2 ^ 63 - 1`. -/
def readInteger (spelling : Spelling) (s : Bytes) : Except Error Int :=
  match readNatural spelling 64 (sign s).2 with
  | .error e => .error e
  | .ok n =>
    if (sign s).1 then
      if Nat.pow 2 63 < n then .error .outOfRange else .ok (-(n : Int))
    else
      if Nat.pow 2 63 ≤ n then .error .outOfRange else .ok n

/-- What is wrong with a numeral. -/
def Error.reason : Error → Bytes
  | .malformed => utf8 "invalid syntax"
  | .outOfRange => utf8 "value out of range"

/-- The report that `reader` could not read the text `s`. -/
def Error.message (reader s : Bytes) (e : Error) : Bytes :=
  reader ++ utf8 ": parsing " ++ Quoted.double s ++ utf8 ": " ++ e.reason

end RegisterMachine.Numeral
