/-
The names of the registers.

* `Register.Names`: a token is the letter of the registers and a numeral;
* `Register.Outside`: it names a register that there is not, and
  `Register.Overlong`: its numeral is of more than 64 bits, whatever follows it;
* `Register.parse_iff_names`: **a token is read exactly if it names one of the sixteen
  registers**, and the name that is written for a register is one of these tokens;
* `Register.rejection_of_token`: **which complaint a rejected token meets**, and for
  which tokens it is the one that their spelling asks for.
-/
import RegisterMachine.Proofs.Store.Slot
import RegisterMachine.Proofs.Text.Numeral

namespace RegisterMachine

open Numeral (Digits Spells Excessive Fits)

/-! ### Written numbers -/

lemma digits_decimal (n : Nat) : Digits (decimal n) where
  ne_nil := by simp [decimal]
  isDigit := fun _ hc => of_mem_decimal hc

/-- Digits as characters and as bytes count the same. -/
lemma ofDigitChars_eq_extend {cs : List Char} (h : ∀ c ∈ cs, c.isDigit = true) (n : Nat) :
    Nat.ofDigitChars 10 cs n = Numeral.extend n (cs.map Char.toUInt8) := by
  induction cs generalizing n with
  | nil => simp [Nat.ofDigitChars, Numeral.extend, Numeral.value]
  | cons c cs ih =>
      rw [Nat.ofDigitChars_cons, ih fun c hc => h c (by simp [hc]), List.map_cons,
        Numeral.extend_cons, toNat_toUInt8_of_isDigit (h c (by simp)), Nat.mul_comm]
      rfl

lemma value_decimal (n : Nat) : Numeral.value (decimal n) = n := by
  have hdigits : ∀ c ∈ Nat.toDigits 10 n, c.isDigit = true :=
    fun _ hc => Nat.isDigit_of_mem_toDigits (by decide) (by decide) hc
  rw [← Numeral.extend_zero, decimal, ← ofDigitChars_eq_extend hdigits]
  exact Nat.ofDigitChars_ten_toDigits

/-- The text of an integer is a numeral with its value. -/
lemma spells_integer (i : Int) : Spells (integer i) i := by
  cases i with
  | ofNat n =>
      have h := Spells.unsigned (digits_decimal n)
      rwa [value_decimal] at h
  | negSucc n =>
      have h := Spells.minus (digits_decimal (n + 1))
      rwa [value_decimal] at h

namespace Register

/-- The token is the letter of the registers and a numeral with the value `v`. -/
def Names (token : Bytes) (v : Int) : Prop :=
  ∃ s, token = letter ++ s ∧ Spells s v

/-- The token names a register that there is not. -/
def Outside (token : Bytes) : Prop :=
  ∃ v, Names token v ∧ ¬ (0 ≤ v ∧ v ≤ 15)

/-- Behind the letter the token starts with a numeral of more than 64 bits. -/
def Overlong (token : Bytes) : Prop :=
  ∃ s, token = letter ++ s ∧ Excessive s

variable {token s : Bytes} {v : Int}

lemma inRange_iff : InRange v ↔ 0 ≤ v ∧ v ≤ 15 := by
  rw [InRange, count]
  omega

lemma fits_of_inRange (h : InRange v) : Fits v := by
  have hpow : Nat.pow 2 63 = 9223372036854775808 := by decide
  rw [Fits, hpow]
  rw [inRange_iff] at h
  omega

/-! ### Reading a token -/

lemma names_letter_iff : Names (letter ++ s) v ↔ Spells s v := by
  simp [Names]

lemma overlong_letter_iff : Overlong (letter ++ s) ↔ Excessive s := by
  simp [Overlong]

lemma parse_of_malformed (h : Numeral.readInteger (.plain 10) s = .error .malformed) :
    parse (letter ++ s) = .error (.invalidRegister (letter ++ s)) := by
  change parse (120 :: s) = _
  rw [parse, h]
  rfl

lemma parse_of_outOfRange (h : Numeral.readInteger (.plain 10) s = .error .outOfRange) :
    parse (letter ++ s) = .error (.registerOutOfRange (letter ++ s)) := by
  change parse (120 :: s) = _
  rw [parse, h]
  rfl

lemma parse_of_ok (h : Numeral.readInteger (.plain 10) s = .ok v) :
    parse (letter ++ s)
      = if InRange v then .ok v else .error (.registerOutOfRange (letter ++ s)) := by
  change parse (120 :: s) = _
  rw [parse, h]
  rfl

lemma parse_of_not_letter (h : ∀ s, token ≠ letter ++ s) :
    parse token = .error (.invalidRegister token) := by
  unfold parse
  split
  · exact absurd rfl (h _)
  · rfl

/-- A token is read as the value of its numeral. -/
lemma parse_eq_ok_iff : parse token = .ok v ↔ Names token v ∧ InRange v := by
  by_cases hletter : ∃ s, token = letter ++ s
  · obtain ⟨s, rfl⟩ := hletter
    rw [names_letter_iff]
    constructor
    · intro h
      cases hread : Numeral.readInteger (.plain 10) s with
      | error e =>
          cases e with
          | malformed => exact absurd (h.symm.trans (parse_of_malformed hread)) (by simp)
          | outOfRange => exact absurd (h.symm.trans (parse_of_outOfRange hread)) (by simp)
      | ok i =>
          rw [parse_of_ok hread] at h
          split_ifs at h with hi
          obtain rfl := Except.ok.inj h
          exact ⟨(Numeral.readInteger_eq_ok_iff.mp hread).1, hi⟩
    · rintro ⟨hspells, hv⟩
      have hread := Numeral.readInteger_eq_ok_iff.mpr ⟨hspells, fits_of_inRange hv⟩
      rw [parse_of_ok hread, if_pos hv]
  · rw [not_exists] at hletter
    rw [parse_of_not_letter hletter]
    refine ⟨fun h => absurd h (by simp), ?_⟩
    rintro ⟨⟨s, hs, -⟩, -⟩
    exact absurd hs (hletter s)

/-- A token is out of range if it names no register of the bank, and also if its
numeral is of more than 64 bits. -/
lemma parse_eq_outOfRange_iff :
    parse token = .error (.registerOutOfRange token) ↔ Outside token ∨ Overlong token := by
  simp only [Outside, ← inRange_iff]
  by_cases hletter : ∃ s, token = letter ++ s
  · obtain ⟨s, rfl⟩ := hletter
    simp only [names_letter_iff, overlong_letter_iff]
    constructor
    · intro h
      cases hread : Numeral.readInteger (.plain 10) s with
      | error e =>
          cases e with
          | malformed => exact absurd (h.symm.trans (parse_of_malformed hread)) (by simp)
          | outOfRange =>
              obtain hexcess | ⟨v, hspells, hfits⟩ :=
                Numeral.readInteger_eq_outOfRange_iff.mp hread
              · exact .inr hexcess
              · exact .inl ⟨v, hspells, fun hv => hfits (fits_of_inRange hv)⟩
      | ok i =>
          rw [parse_of_ok hread] at h
          split_ifs at h with hi
          exact .inl ⟨i, (Numeral.readInteger_eq_ok_iff.mp hread).1, hi⟩
    · rintro (⟨v, hspells, hv⟩ | hexcess)
      · by_cases hfits : Fits v
        · rw [parse_of_ok (Numeral.readInteger_eq_ok_iff.mpr ⟨hspells, hfits⟩), if_neg hv]
        · exact parse_of_outOfRange
            (Numeral.readInteger_eq_outOfRange_iff.mpr (.inr ⟨v, hspells, hfits⟩))
      · exact parse_of_outOfRange (Numeral.readInteger_eq_outOfRange_iff.mpr (.inl hexcess))
  · rw [not_exists] at hletter
    rw [parse_of_not_letter hletter]
    refine ⟨fun h => absurd h (by simp), ?_⟩
    rintro (⟨v, ⟨s, hs, -⟩, -⟩ | ⟨s, hs, -⟩)
    · exact absurd hs (hletter s)
    · exact absurd hs (hletter s)

/-- A name that stands for no register is complained about in one of two ways,
and the complaint repeats it. -/
lemma eq_of_parse_error {token : Bytes} {e : Cause} (h : parse token = .error e) :
    e = .invalidRegister token ∨ e = .registerOutOfRange token := by
  unfold parse at h
  split at h
  · split at h
    · exact .inl (Except.error.inj h).symm
    · exact .inr (Except.error.inj h).symm
    · split_ifs at h
      exact .inr (Except.error.inj h).symm
  · exact .inl (Except.error.inj h).symm

lemma names_name (i : Int) : Names (name i) i :=
  ⟨integer i, rfl, spells_integer i⟩

/-- **A token is read exactly if it names one of the sixteen registers.**  Such a token
is the letter, an optional sign and digits of that value, with any number of zeros in
front; the name written for an index is read back, unless there is no such register. -/
theorem parse_iff_names :
    (∀ (token : Bytes) (n : Int), parse token = .ok n ↔ Names token n ∧ 0 ≤ n ∧ n ≤ 15)
      ∧ ∀ i : Int, parse (name i)
        = if 0 ≤ i ∧ i ≤ 15 then .ok i else .error (.registerOutOfRange (name i)) := by
  refine ⟨fun token n => ?_, fun i => ?_⟩
  · rw [parse_eq_ok_iff, inRange_iff]
  · split_ifs with hi
    · exact parse_eq_ok_iff.mpr ⟨names_name i, inRange_iff.mpr hi⟩
    · exact parse_eq_outOfRange_iff.mpr (.inl ⟨i, names_name i, hi⟩)

/-- **Which complaint a rejected token meets.**  It is out of range exactly if it names
a register that there is not, or starts like one with a numeral of more than 64 bits;
every other token is invalid.  So the complaint is what the spelling of the token asks
for, unless more follows such a numeral than digits. -/
theorem rejection_of_token (token : Bytes) (e : Cause) (h : parse token = .error e) :
    (e = .registerOutOfRange token ↔ Outside token ∨ Overlong token)
      ∧ (e = .invalidRegister token ↔ ¬ Outside token ∧ ¬ Overlong token)
      ∧ (((e = .registerOutOfRange token ↔ Outside token)
          ∧ (e = .invalidRegister token ↔ ¬ Outside token))
        ↔ (Overlong token → Outside token)) := by
  have hrange : e = .registerOutOfRange token ↔ Outside token ∨ Overlong token := by
    rw [← parse_eq_outOfRange_iff, h]
    exact ⟨fun he => congrArg Except.error he, fun he => Except.error.inj he⟩
  have hinvalid : e = .invalidRegister token ↔ ¬ (Outside token ∨ Overlong token) := by
    rw [← hrange]
    obtain rfl | rfl := eq_of_parse_error h
    · simp
    · simp
  rw [hinvalid, hrange, not_or]
  tauto

/-- Twenty nines are too many for 64 bits, so the letter behind them is not looked at
and the token counts as out of range, although it is not an integer. -/
theorem rejection_of_token_past_digits :
    let token := utf8 "x99999999999999999999a"
    parse token = .error (.registerOutOfRange token) ∧ ¬ Outside token ∧ Overlong token := by
  intro token
  have hparse : parse token = .error (.registerOutOfRange token) := by decide
  have houtside : ¬ Outside token := by
    rintro ⟨v, ⟨s, hs, hspells⟩, -⟩
    obtain rfl : s = utf8 "99999999999999999999a" := List.append_cancel_left hs.symm
    have hletter := (Numeral.spells_iff.mp hspells).1.isDigit 97 (by decide)
    exact absurd hletter (by decide)
  have hcause := (rejection_of_token token _ hparse).1.mp rfl
  exact ⟨hparse, houtside, hcause.resolve_left houtside⟩

end Register

end RegisterMachine
