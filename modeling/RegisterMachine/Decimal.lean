/-
Decimal fractions as they are written.

* `Decimal.parse`: a numeral with an optional sign, point and exponent;
* `Decimal.positional`: the digits of a decimal fraction without an exponent.
-/
import RegisterMachine.Bytes

namespace RegisterMachine

/-- The fraction `digits * 10 ^ exponent`. -/
structure Decimal where
  digits : Nat
  exponent : Int
deriving DecidableEq, Repr

namespace Decimal

/-- An ASCII digit. -/
def isDigit (c : UInt8) : Bool :=
  48 ≤ c && c ≤ 57

/-- The number that digits write. -/
def natural (ds : Bytes) : Nat :=
  ds.foldl (fun n c => n * 10 + (c.toNat - 48)) 0

/-- The sign at the start of a text, true for a minus sign, and what follows. -/
def sign : Bytes → Bool × Bytes
  | 43 :: rest => (false, rest)
  | 45 :: rest => (true, rest)
  | s => (false, s)

/-- The exponent that is the whole of `s`, which is zero when nothing is
written. -/
def exponentPart : Bytes → Option Int
  | [] => some 0
  | mark :: s =>
    let (negative, ds) := sign s
    if Bytes.lower mark = 101 ∧ !ds.isEmpty ∧ ds.all isDigit then
      some (if negative then -(natural ds : Int) else natural ds)
    else none

/-- Reads a numeral: an optional sign, digits with an optional point, and an
optional exponent.  The first component tells a minus sign. -/
def parse (s : Bytes) : Option (Bool × Decimal) :=
  let (negative, s) := sign s
  let whole := s.takeWhile isDigit
  let (fraction, rest) := match s.dropWhile isDigit with
    | 46 :: t => (t.takeWhile isDigit, t.dropWhile isDigit)
    | t => ([], t)
  if whole.isEmpty && fraction.isEmpty then none
  else (exponentPart rest).map fun e =>
    (negative, ⟨natural (whole ++ fraction), e - fraction.length⟩)

/-- The digits of a fraction without an exponent, and with a point only where
it has decimal places. -/
def positional (d : Decimal) : Bytes :=
  let ds := decimal d.digits
  match d.exponent with
  | .ofNat n => if d.digits = 0 then ds else ds ++ List.replicate n 48
  | .negSucc n =>
    let places := n + 1
    let ds := Bytes.padLeft 48 (places + 1) ds
    ds.take (ds.length - places) ++ 46 :: ds.drop (ds.length - places)

end Decimal

end RegisterMachine
