/-
Masks, logarithms and shift amounts as arithmetic.

* `Bits.toNat_allOnes`: a mask of `n` bits is `2 ^ n - 1`, and never more than the
  width has room for;
* `Bits.toNat_truncate`, `Bits.truncate_truncate`: keeping the low bits is taking a
  remainder, so that of two cuts the shorter one counts;
* `Bits.halved` / `Bits.StopsAfter`: a number that is halved round by round until it is
  at most one;
* `Bits.stopsAfter_log2`, `Bits.log2_eq_iff`: the logarithm is the number of these
  rounds, and the exponent of the greatest power of two that is not above the number;
* `toNat_shiftAmount`: a shift is by the remainder modulo 32;
* `Bits.arithmetic_of_width`: **all of it, for numbers of 8, 16, 32 and 64 bits.**
-/
import Mathlib.Tactic.Common
import RegisterMachine.Word

namespace RegisterMachine

namespace Bits

variable {w : Nat}

/-! ### Masks -/

/-- A mask of fewer bits than the width is a power of two less one; one of as many bits
or more has all bits set. -/
lemma toNat_allOnes (w n : Nat) : (allOnes w n).toNat = Nat.pow 2 (min n w) - 1 := by
  rw [allOnes]
  split_ifs with hfull
  · rw [Nat.min_eq_right hfull, BitVec.toNat_allOnes, Nat.pow_eq]
  · have hn : n < w := by omega
    have hpower : (1#w <<< n).toNat = Nat.pow 2 n := BitVec.toNat_twoPow_of_lt hn
    have hone : (1#w).toNat = 1 := BitVec.toNat_one (by omega)
    have hle : 1#w ≤ 1#w <<< n := by
      rw [BitVec.le_def, hpower, hone]
      exact Nat.one_le_two_pow
    rw [Nat.min_eq_left (by omega), BitVec.toNat_sub_of_le hle, hpower, hone]

/-! ### Low bits -/

/-- Keeping the low bits of a number is taking its remainder. -/
lemma toNat_truncate (v : BitVec w) (n : Nat) :
    (truncate v n).toNat = v.toNat % Nat.pow 2 (min n w) := by
  rw [truncate, BitVec.toNat_and, toNat_allOnes, Nat.pow_eq, Nat.and_two_pow_sub_one_eq_mod]

/-- Where the bits that are kept are not more than the width, that is the remainder
modulo a power of two. -/
lemma toNat_truncate_of_le {n : Nat} (v : BitVec w) (h : n ≤ w) :
    (truncate v n).toNat = v.toNat % Nat.pow 2 n := by
  rw [toNat_truncate, Nat.min_eq_left h]

/-- Of two remainders modulo powers of two, the one by the smaller power counts. -/
lemma mod_pow_mod_pow (x a b : Nat) :
    x % Nat.pow 2 a % Nat.pow 2 b = x % Nat.pow 2 (min a b) := by
  rcases Nat.le_total a b with hab | hba
  · have hlt : x % Nat.pow 2 a < Nat.pow 2 b :=
      Nat.lt_of_lt_of_le (Nat.mod_lt _ (Nat.two_pow_pos a)) (Nat.pow_le_pow_right (by omega) hab)
    rw [Nat.min_eq_left hab, Nat.mod_eq_of_lt hlt]
  · rw [Nat.min_eq_right hba]
    exact Nat.mod_mod_of_dvd x (Nat.pow_dvd_pow 2 hba)

/-- Of two cuts the shorter one counts. -/
lemma truncate_truncate (v : BitVec w) (n m : Nat) :
    truncate (truncate v n) m = truncate v (min n m) := by
  apply BitVec.eq_of_toNat_eq
  have hmin : min (min n w) (min m w) = min (min n m) w := by omega
  calc (truncate (truncate v n) m).toNat
      = v.toNat % Nat.pow 2 (min n w) % Nat.pow 2 (min m w) := by
        rw [toNat_truncate, toNat_truncate]
    _ = v.toNat % Nat.pow 2 (min (min n m) w) := by rw [mod_pow_mod_pow, hmin]
    _ = (truncate v (min n m)).toNat := (toNat_truncate v _).symm

/-! ### Halving -/

/-- What is left of a number after some rounds of halving. -/
def halved (v : BitVec w) : Nat → BitVec w
  | 0 => v
  | k + 1 => halved v k >>> 1

/-- Halving a number stops after `k` rounds: before each of them it is greater than one,
and then it no longer is. -/
def StopsAfter (v : BitVec w) (k : Nat) : Prop :=
  (∀ j < k, 1 < (halved v j).toNat) ∧ (halved v k).toNat ≤ 1

lemma toNat_half (v : BitVec w) : (v >>> 1).toNat = v.toNat / 2 := by
  rw [BitVec.toNat_ushiftRight, Nat.shiftRight_eq_div_pow]

lemma toNat_halved (v : BitVec w) (k : Nat) : (halved v k).toNat = v.toNat / Nat.pow 2 k := by
  induction k with
  | zero => rw [halved, Nat.pow_eq, Nat.pow_zero, Nat.div_one]
  | succ k ih =>
      rw [halved, toNat_half, ih, Nat.div_div_eq_div_mul]
      rfl

/-- A number other than zero lies between two powers of two, and the logarithm is the
exponent of the lower one. -/
lemma pow_log2_le (v : BitVec w) (h : 1 ≤ v.toNat) :
    Nat.pow 2 (log2 v) ≤ v.toNat ∧ v.toNat < Nat.pow 2 (log2 v + 1) := by
  fun_induction log2 v with
  | case1 v hmore ih =>
      -- What holds of the half holds of the whole, one power further.
      rw [toNat_half] at ih
      obtain ⟨hle, hlt⟩ := ih (by omega)
      simp only [Nat.pow_eq, Nat.pow_succ] at hle hlt ⊢
      omega
  | case2 v hone =>
      simp only [Nat.pow_eq]
      omega

/-- There is only one such exponent. -/
lemma log2_eq_iff {v : BitVec w} (h : 1 ≤ v.toNat) (k : Nat) :
    log2 v = k ↔ Nat.pow 2 k ≤ v.toNat ∧ v.toNat < Nat.pow 2 (k + 1) := by
  obtain ⟨hle, hlt⟩ := pow_log2_le v h
  constructor
  · rintro rfl
    exact ⟨hle, hlt⟩
  · rintro ⟨hle', hlt'⟩
    have hbelow : log2 v < k + 1 :=
      (Nat.pow_lt_pow_iff_right (by omega)).mp (Nat.lt_of_le_of_lt hle hlt')
    have habove : k < log2 v + 1 :=
      (Nat.pow_lt_pow_iff_right (by omega)).mp (Nat.lt_of_le_of_lt hle' hlt)
    omega

/-- **Halving ends for every number**, and the logarithm counts the rounds. -/
lemma stopsAfter_log2 (v : BitVec w) : StopsAfter v (log2 v) := by
  by_cases hzero : v.toNat = 0
  · have hlog : log2 v = 0 := by
      rw [log2, if_neg (by omega)]
    rw [hlog]
    exact ⟨fun j hj => absurd hj (by omega), by rw [halved]; omega⟩
  · obtain ⟨hle, hlt⟩ := pow_log2_le v (by omega)
    refine ⟨fun j hj => ?_, ?_⟩
    · rw [toNat_halved]
      refine (Nat.le_div_iff_mul_le (Nat.two_pow_pos j)).mpr ?_
      calc 2 * Nat.pow 2 j = Nat.pow 2 (j + 1) := (Nat.pow_succ').symm
        _ ≤ Nat.pow 2 (log2 v) := Nat.pow_le_pow_right (by omega) hj
        _ ≤ v.toNat := hle
    · rw [toNat_halved]
      refine Nat.le_of_lt_succ ((Nat.div_lt_iff_lt_mul (Nat.two_pow_pos _)).mpr ?_)
      calc v.toNat < Nat.pow 2 (log2 v + 1) := hlt
        _ = 2 * Nat.pow 2 (log2 v) := Nat.pow_succ'

/-- There are fewer rounds than bits. -/
lemma log2_lt (hw : 0 < w) (v : BitVec w) : log2 v < w := by
  by_cases hzero : v.toNat = 0
  · rw [log2, if_neg (by omega)]
    exact hw
  · obtain ⟨hle, -⟩ := pow_log2_le v (by omega)
    exact (Nat.pow_lt_pow_iff_right (by omega)).mp (Nat.lt_of_le_of_lt hle v.isLt)

lemma Width.bits_pos (w : Width) : 0 < w.bits := by
  cases w <;> decide

end Bits

/-! ### Words -/

lemma shiftAmountBits_eq : shiftAmountBits = 5 :=
  (Bits.log2_eq_iff (by decide) 5).mpr (by decide)

/-- The lowest 32 bits of a number of 64 bits. -/
lemma setWidth_truncate (v : BitVec 64) : (Bits.truncate v 32).setWidth 32 = v.setWidth 32 := by
  apply BitVec.eq_of_toNat_eq
  rw [BitVec.toNat_setWidth, BitVec.toNat_setWidth, Bits.toNat_truncate_of_le v (by omega),
    Nat.pow_eq, Nat.mod_mod]

/-- A shift is by at most 31 places. -/
lemma toNat_shiftAmount (v : Word) : (shiftAmount v).toNat = v.toNat % 32 := by
  rw [shiftAmount, shiftAmountBits_eq, Bits.toNat_truncate_of_le v (by omega)]

namespace Bits

/-- **Masks, remainders and logarithms at every width.**  A mask of `n` bits is
`2 ^ n - 1` up to the width and stays there beyond it; keeping `n` bits is taking the
remainder modulo that power of two, so that it may be repeated and of two cuts the shorter
one counts.  Halving ends for every number, after fewer rounds than there are bits, and
the logarithm counts them: it is the one exponent between whose powers of two the number
lies.  A shift is by the remainder modulo 32, which never reaches the width of a word. -/
theorem arithmetic_of_width (w : Width) (v : BitVec w.bits) (n m : Nat) :
    (allOnes w.bits n).toNat = Nat.pow 2 (min n w.bits) - 1
      ∧ (truncate v n).toNat = v.toNat % Nat.pow 2 (min n w.bits)
      ∧ truncate (truncate v n) n = truncate v n
      ∧ truncate (truncate v n) m = truncate v (min n m)
      ∧ StopsAfter v (log2 v)
      ∧ log2 v < w.bits
      ∧ (1 ≤ v.toNat →
        ∀ k, log2 v = k ↔ Nat.pow 2 k ≤ v.toNat ∧ v.toNat < Nat.pow 2 (k + 1))
      ∧ ∀ word : Word,
        (shiftAmount word).toNat = word.toNat % 32 ∧ (shiftAmount word).toNat < Width.w32.bits := by
  refine ⟨toNat_allOnes _ n, toNat_truncate v n, ?_, truncate_truncate v n m, stopsAfter_log2 v,
    log2_lt w.bits_pos v, log2_eq_iff, fun word => ⟨toNat_shiftAmount word, ?_⟩⟩
  · rw [truncate_truncate, Nat.min_self]
  · rw [toNat_shiftAmount]
    exact Nat.mod_lt _ (by decide)

end Bits

end RegisterMachine
