/-
Bytes written with sixty-four letters.

* `Base64.encode`: three bytes as four letters, filled up with `=`;
* `Base64.decode`: the bytes of such a text, with line breaks passed over.
-/
import RegisterMachine.Bytes

namespace RegisterMachine.Base64

/-- The letter of a number below sixty-four. -/
def letter (n : Nat) : UInt8 :=
  if n < 26 then (65 + n).toUInt8
  else if n < 52 then (71 + n).toUInt8
  else if n < 62 then (n - 4).toUInt8
  else if n = 62 then 43
  else 47

/-- The number of a letter. -/
def value? (c : UInt8) : Option Nat :=
  let n := c.toNat
  if 65 ≤ n ∧ n ≤ 90 then some (n - 65)
  else if 97 ≤ n ∧ n ≤ 122 then some (n - 71)
  else if 48 ≤ n ∧ n ≤ 57 then some (n + 4)
  else if n = 43 then some 62
  else if n = 47 then some 63
  else none

/-- Three bytes as four letters, and the rest filled up with `=`. -/
def encode : Bytes → Bytes
  | a :: b :: c :: rest =>
    let n := a.toNat * 65536 + b.toNat * 256 + c.toNat
    letter (n / 262144) :: letter (n / 4096 % 64) :: letter (n / 64 % 64) :: letter (n % 64)
      :: encode rest
  | [a, b] =>
    let n := a.toNat * 65536 + b.toNat * 256
    [letter (n / 262144), letter (n / 4096 % 64), letter (n / 64 % 64), 61]
  | [a] =>
    let n := a.toNat * 65536
    [letter (n / 262144), letter (n / 4096 % 64), 61, 61]
  | [] => []

/-- The bytes written by groups of four letters. -/
def groups : Bytes → Option Bytes
  | [] => some []
  | [a, b, 61, 61] => do
    return [((← value? a) * 4 + (← value? b) / 16).toUInt8]
  | [a, b, c, 61] => do
    let n := (← value? a) * 4096 + (← value? b) * 64 + (← value? c)
    return [(n / 1024).toUInt8, (n / 4 % 256).toUInt8]
  | a :: b :: c :: d :: rest => do
    let n := (← value? a) * 262144 + (← value? b) * 4096 + (← value? c) * 64 + (← value? d)
    return (n / 65536).toUInt8 :: (n / 256 % 256).toUInt8 :: (n % 256).toUInt8 :: (← groups rest)
  | _ => none

/-- The bytes of a text in groups of four letters, with line breaks passed
over. -/
def decode (s : Bytes) : Option Bytes :=
  groups (s.filter fun c => c ≠ 10 ∧ c ≠ 13)

end RegisterMachine.Base64
