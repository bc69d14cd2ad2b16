/-
The characters of a document.

* `Yaml.characters`: the characters that the bytes of a document write, in
  UTF-8 or, after a byte order mark, in UTF-16.
-/
import RegisterMachine.Yaml.Problem

namespace RegisterMachine.Yaml

/-- A character that may stand in a document. -/
def isAllowed (n : Nat) : Bool :=
  n = 9 || n = 10 || n = 13 || (0x20 ≤ n && n ≤ 0x7E) || n = 0x85
    || (0xA0 ≤ n && n ≤ 0xD7FF) || (0xE000 ≤ n && n ≤ 0xFFFD) || 0x10000 ≤ n

/-- The character with a code, if it may stand in a document. -/
def character (code : Nat) : Except Problem Char :=
  if isAllowed code then .ok (Char.ofNat code) else .error .controlCharacter

/-- How many bytes a character in UTF-8 has, and the high bits in its first
byte. -/
def announced (a : UInt8) : Option (Nat × Nat) :=
  if a < 0x80 then some (1, a.toNat)
  else if a < 0xC0 then none
  else if a < 0xE0 then some (2, a.toNat % 32)
  else if a < 0xF0 then some (3, a.toNat % 16)
  else if a < 0xF8 then some (4, a.toNat % 8)
  else none

/-- The least code that is written with so many bytes. -/
def leastCode : Nat → Nat
  | 2 => 0x80
  | 3 => 0x800
  | 4 => 0x10000
  | _ => 0

/-- The character that `a :: rest` starts with in UTF-8, and the number of its
bytes in `rest`. -/
def headOctets (a : UInt8) (rest : Bytes) : Except Problem (Char × Nat) :=
  match announced a with
  | none => .error .leadingOctet
  | some (width, high) =>
    let tail := rest.take (width - 1)
    let code := tail.foldl (fun v b => v * 64 + b.toNat % 64) high
    if tail.length < width - 1 then .error .incompleteSequence
    else if tail.any fun b => b < 0x80 || 0xC0 ≤ b then .error .trailingOctet
    else if code < leastCode width then .error .sequenceLength
    else if !code.isValidChar then .error .invalidCharacter
    else match character code with
      | .ok c => .ok (c, width - 1)
      | .error p => .error p

/-- The characters of a text in UTF-8 whose first `skip` bytes belong to a
character already read. -/
def octets : Nat → Bytes → Except Problem (List Char)
  | _, [] => .ok []
  | skip + 1, _ :: rest => octets skip rest
  | 0, a :: rest => do
    let (c, count) ← headOctets a rest
    return c :: (← octets count rest)

/-- The sixteen-bit units of a text, the less significant byte first when
`little` says so. -/
def units (little : Bool) : Bytes → Except Problem (List Nat)
  | [] => .ok []
  | [_] => .error .incompleteUnit
  | a :: b :: rest => do
    let unit := if little then a.toNat + 256 * b.toNat else 256 * a.toNat + b.toNat
    return unit :: (← units little rest)

/-- The characters of a text in sixteen-bit units. -/
def pairs : List Nat → Except Problem (List Char)
  | [] => .ok []
  | a :: rest =>
    if 0xDC00 ≤ a ∧ a ≤ 0xDFFF then .error .unexpectedLowSurrogate
    else if 0xD800 ≤ a ∧ a ≤ 0xDBFF then
      match rest with
      | [] => .error .incompletePair
      | b :: rest =>
        if b < 0xDC00 ∨ 0xDFFF < b then .error .expectedLowSurrogate
        else do
          let c ← character (0x10000 + (a - 0xD800) * 0x400 + (b - 0xDC00))
          return c :: (← pairs rest)
    else do
      let c ← character a
      return c :: (← pairs rest)

/-- The characters of a document. -/
def characters : Bytes → Except Problem (List Char)
  | 0xFF :: 0xFE :: rest => do pairs (← units true rest)
  | 0xFE :: 0xFF :: rest => do pairs (← units false rest)
  | 0xEF :: 0xBB :: 0xBF :: rest => octets 0 rest
  | s => octets 0 s

end RegisterMachine.Yaml
