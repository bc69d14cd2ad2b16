/-
Fractions in binary with fifty-three significant digits.

* `Binary.nearest`: the binary fraction closest to a decimal one;
* `Binary.shortest`: the decimal fraction with the fewest digits whose closest
  binary fraction is the given one.

All comparisons are made on natural numbers, so nothing is rounded on the way.
-/
import RegisterMachine.Decimal

namespace RegisterMachine

/-- The fraction `significand * 2 ^ exponent`. -/
structure Binary where
  significand : Nat
  exponent : Int
deriving DecidableEq, Repr

namespace Binary

/-- The number of significant binary digits. -/
def precision : Nat := 53

/-- The least exponent. -/
def leastExponent : Int := -1074

/-- The greatest exponent. -/
def greatestExponent : Int := 971

/-- The quotient `n / d` rounded to the nearest whole number, and to the even
one halfway between two. -/
def roundedQuotient (n d : Nat) : Nat :=
  let q := n / d
  let twice := 2 * (n % d)
  if twice < d then q
  else if d < twice then q + 1
  else q + q % 2

/-- A decimal fraction as a quotient of natural numbers. -/
def quotient (d : Decimal) : Nat × Nat :=
  match d.exponent with
  | .ofNat n => (d.digits * Nat.pow 10 n, 1)
  | .negSucc n => (d.digits, Nat.pow 10 (n + 1))

/-- The quotient `n / d` divided by `2 ^ e`. -/
def scaled (n d : Nat) : Int → Nat × Nat
  | .ofNat e => (n, d * Nat.pow 2 e)
  | .negSucc e => (n * Nat.pow 2 (e + 1), d)

/-- The binary fraction closest to the positive quotient `n / d`, or nothing
when it is out of range. -/
def ofQuotient (n d : Nat) : Option Binary :=
  let guess := max ((Nat.log2 n : Int) - Nat.log2 d - precision) leastExponent
  let fits := fun e => let (n', d') := scaled n d e; n' / d' < Nat.pow 2 precision
  let e := if fits guess then guess else guess + 1
  let (n', d') := scaled n d e
  let m := roundedQuotient n' d'
  let b : Binary := if m = Nat.pow 2 precision then ⟨Nat.pow 2 (precision - 1), e + 1⟩ else ⟨m, e⟩
  if greatestExponent < b.exponent then none else some b

/-- The binary fraction closest to a decimal one, or nothing when it is out of
range. -/
def nearest (d : Decimal) : Option Binary :=
  let size := (decimal d.digits).length + d.exponent
  if d.digits = 0 ∨ size < -330 then some ⟨0, leastExponent⟩
  else if 310 < size then none
  else
    let (n, d) := quotient d
    ofQuotient n d

/-- Some decimal fraction with the unit `10 ^ k` closest to `b`, among the
decimal fractions for which `b` is the closest binary one. -/
def onGrid? (b : Binary) (k : Int) : Option Decimal :=
  -- Four times the fraction and the distances to the ends of its interval,
  -- over a common denominator with the unit of the grid.
  let up : Nat := if 0 ≤ b.exponent then Nat.pow 2 b.exponent.toNat else 1
  let down : Nat := if 0 ≤ b.exponent then 1 else Nat.pow 2 (-b.exponent).toNat
  let (value, unit) :=
    if 0 ≤ k then (4 * b.significand * up, 4 * Nat.pow 10 k.toNat * down)
    else (4 * b.significand * up * Nat.pow 10 (-k).toNat, 4 * down)
  let quarter := if 0 ≤ k then up else up * Nat.pow 10 (-k).toNat
  let above := 2 * quarter
  let below :=
    if b.significand = Nat.pow 2 (precision - 1) ∧ leastExponent < b.exponent then quarter
    else 2 * quarter
  let low := value / unit
  let closed := b.significand % 2 = 0
  let lowGap := value - low * unit
  let highGap := (low + 1) * unit - value
  let lowFits := lowGap < below ∨ (closed ∧ lowGap = below)
  let highFits := highGap < above ∨ (closed ∧ highGap = above)
  if lowFits ∧ (¬ highFits ∨ lowGap < highGap ∨ (lowGap = highGap ∧ low % 2 = 0)) then
    some ⟨low, k⟩
  else if highFits then some ⟨low + 1, k⟩
  else none

/-- Tries grids of `n` sizes, each ten times finer than the one before. -/
def finer (b : Binary) : Nat → Int → Decimal
  | 0, k => (b.onGrid? k).getD ⟨0, 0⟩
  | n + 1, k => (b.onGrid? k).getD (finer b n (k - 1))

/-- The decimal fraction with the fewest digits whose closest binary fraction
is `b`, and the closest to it of those. -/
def shortest (b : Binary) : Decimal :=
  if b.significand = 0 then ⟨0, 0⟩
  else
    -- `10 ^ 3 < 2 ^ 10`, so this grid is coarser than the fraction.
    let size : Int := Nat.log2 b.significand + b.exponent
    finer b 400 ((if 0 ≤ size then size / 3 else size * 3 / 10) + 1)

end Binary

end RegisterMachine
