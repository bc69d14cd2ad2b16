/-
Numerals in base ten, and what reading them comes to.

* `Numeral.Digits`, `Numeral.value`: one or more digits, and the number they stand
  for by their places;
* `Numeral.Spells`: a numeral with an optional sign and its value, of any length;
* `Numeral.Excessive`: a text that starts with a numeral of more than 64 bits;
* `Numeral.accumulate_append`: digits are taken in one after the other until the
  number leaves the range, and then **what follows has no influence**;
* `Numeral.readInteger_eq_ok_iff`, `Numeral.readInteger_eq_outOfRange_iff`: which
  texts are read, and which are too large.
-/
import Mathlib.Tactic.Common
import RegisterMachine.Numeral

namespace RegisterMachine.Numeral

/-- One of the digits `0` to `9`. -/
def IsDigit (c : UInt8) : Prop :=
  48 ≤ c.toNat ∧ c.toNat ≤ 57

instance (c : UInt8) : Decidable (IsDigit c) :=
  inferInstanceAs (Decidable (48 ≤ c.toNat ∧ c.toNat ≤ 57))

/-- One or more digits. -/
structure Digits (s : Bytes) : Prop where
  ne_nil : s ≠ []
  isDigit : ∀ c ∈ s, IsDigit c

/-- The number that digits stand for: each one counts as often as the power of ten
of its place says. -/
def value : Bytes → Nat
  | [] => 0
  | c :: rest => (c.toNat - 48) * Nat.pow 10 rest.length + value rest

/-- The text is a numeral of base ten with this value: an optional sign and then one
or more digits, with any number of zeros among the first. -/
inductive Spells : Bytes → Int → Prop where
  | unsigned {s : Bytes} (h : Digits s) : Spells s (value s)
  | plus {s : Bytes} (h : Digits s) : Spells (43 :: s) (value s)
  | minus {s : Bytes} (h : Digits s) : Spells (45 :: s) (-(value s : Int))

/-- The text starts with a numeral whose digits alone do not fit into 64 bits. -/
def Excessive (s : Bytes) : Prop :=
  ∃ t v, t <+: s ∧ Spells t v ∧ Nat.pow 2 64 ≤ v.natAbs

/-- The value fits into 64 bits with a sign. -/
def Fits (v : Int) : Prop :=
  -(Nat.pow 2 63 : Nat) ≤ v ∧ v < (Nat.pow 2 63 : Nat)

variable {c : UInt8} {s ds rest : Bytes} {n bound bits : Nat} {v : Int}

/-! ### Single digits -/

lemma lower_of_isDigit (h : IsDigit c) : Bytes.lower c = c := by
  rw [Bytes.lower, if_neg]
  rw [UInt8.le_iff_toNat_le, UInt8.le_iff_toNat_le]
  rintro ⟨h65, -⟩
  have hc := h.2
  change 65 ≤ c.toNat at h65
  omega

lemma digit?_of_isDigit (h : IsDigit c) : digit? c = some (c.toNat - 48) := by
  rw [digit?, lower_of_isDigit h, if_pos]
  rw [UInt8.le_iff_toNat_le, UInt8.le_iff_toNat_le]
  exact h

/-- What is no digit is nothing in base ten: letters count from ten. -/
lemma ten_le_of_digit? (h : ¬ IsDigit c) {d : Nat} (hd : digit? c = some d) : 10 ≤ d := by
  rw [digit?] at hd
  split_ifs at hd with hdigit hletter
  · -- a capital letter does not become a digit
    refine absurd ?_ h
    have hsame : Bytes.lower c = c := by
      rw [Bytes.lower] at hdigit ⊢
      split_ifs at hdigit ⊢ with hcapital
      · simp only [UInt8.le_iff_toNat_le, UInt8.toNat_add, UInt8.reduceToNat] at hdigit hcapital
        omega
      · rfl
    rw [hsame, UInt8.le_iff_toNat_le, UInt8.le_iff_toNat_le] at hdigit
    exact hdigit
  · have h97 : 97 ≤ (Bytes.lower c).toNat := UInt8.le_iff_toNat_le.mp hletter.1
    have hvalue := Option.some.inj hd
    omega

lemma accumulate_cons (h : IsDigit c) (bound n : Nat) (s : Bytes) :
    accumulate false 10 bound n (c :: s)
      = if bound < n * 10 + (c.toNat - 48) then .error .outOfRange
        else accumulate false 10 bound (n * 10 + (c.toNat - 48)) s := by
  have hd : ¬ 10 ≤ c.toNat - 48 := by
    have hc := h.2
    omega
  rw [accumulate, digit?_of_isDigit h]
  simp only [Bool.false_and, Bool.false_eq_true, if_false, if_neg hd]

lemma accumulate_cons_of_not_isDigit (h : ¬ IsDigit c) (bound n : Nat) (s : Bytes) :
    accumulate false 10 bound n (c :: s) = .error .malformed := by
  rw [accumulate]
  simp only [Bool.false_and, Bool.false_eq_true, if_false]
  cases hd : digit? c with
  | none => rfl
  | some d => simp only [if_pos (ten_le_of_digit? h hd)]

/-- Numbers that are read stay up to the bound. -/
lemma le_of_accumulate {dividers : Bool} {base : Nat} (hn : n ≤ bound) {m : Nat}
    (h : accumulate dividers base bound n s = .ok m) : m ≤ bound := by
  induction s generalizing n with
  | nil =>
      rw [accumulate] at h
      exact Except.ok.inj h ▸ hn
  | cons c s ih =>
      rw [accumulate] at h
      split at h
      · exact ih hn h
      · split at h
        · exact absurd h (by simp)
        · split_ifs at h with hdigit hout
          exact ih (Nat.not_lt.mp hout) h

/-! ### Digits one after the other -/

/-- The number that `n` becomes when digits are written behind it. -/
def extend (n : Nat) (ds : Bytes) : Nat :=
  n * Nat.pow 10 ds.length + value ds

lemma extend_zero (ds : Bytes) : extend 0 ds = value ds := by
  rw [extend, Nat.zero_mul, Nat.zero_add]

lemma extend_cons (n : Nat) (c : UInt8) (ds : Bytes) :
    extend n (c :: ds) = extend (n * 10 + (c.toNat - 48)) ds := by
  have hpow : Nat.pow 10 (ds.length + 1) = 10 * Nat.pow 10 ds.length := by
    rw [Nat.mul_comm]
    rfl
  rw [extend, extend, value, List.length_cons, hpow, Nat.add_mul, Nat.mul_assoc, Nat.add_assoc]

lemma le_extend (n : Nat) (ds : Bytes) : n ≤ extend n ds :=
  Nat.le_trans (Nat.le_mul_of_pos_right n (Nat.pow_pos (by decide))) (Nat.le_add_right _ _)

/-- Digits are taken in until the number leaves the range.  Then what follows has no
influence. -/
lemma accumulate_append (hds : ∀ c ∈ ds, IsDigit c) (hn : n ≤ bound) (rest : Bytes) :
    accumulate false 10 bound n (ds ++ rest)
      = if bound < extend n ds then .error .outOfRange
        else accumulate false 10 bound (extend n ds) rest := by
  induction ds generalizing n with
  | nil =>
      have hextend : extend n [] = n := by simp [extend, value]
      rw [hextend, if_neg (Nat.not_lt.mpr hn), List.nil_append]
  | cons c ds ih =>
      rw [List.cons_append, accumulate_cons (hds c (by simp)), extend_cons]
      by_cases hout : bound < n * 10 + (c.toNat - 48)
      · rw [if_pos hout, if_pos (Nat.lt_of_lt_of_le hout (le_extend _ _))]
      · rw [if_neg hout, ih (fun c hc => hds c (by simp [hc])) (Nat.not_lt.mp hout)]

/-- A text goes on with digits up to its end, or up to something else. -/
lemma exists_digits_append (s : Bytes) :
    ∃ ds rest, s = ds ++ rest ∧ (∀ c ∈ ds, IsDigit c)
      ∧ (rest = [] ∨ ∃ c tail, rest = c :: tail ∧ ¬ IsDigit c) := by
  induction s with
  | nil => exact ⟨[], [], rfl, by simp, .inl rfl⟩
  | cons c s ih =>
      by_cases hc : IsDigit c
      · obtain ⟨ds, rest, rfl, hds, hrest⟩ := ih
        exact ⟨c :: ds, rest, rfl, List.forall_mem_cons.mpr ⟨hc, hds⟩, hrest⟩
      · exact ⟨[], c :: s, rfl, by simp, .inr ⟨c, s, rfl, hc⟩⟩

/-! ### Numerals without a sign -/

lemma pred_lt_iff : Nat.pow 2 bits - 1 < n ↔ Nat.pow 2 bits ≤ n := by
  have hpos : 0 < Nat.pow 2 bits := Nat.pow_pos (by decide)
  omega

/-- What is read is below the power of two that was asked for, in whatever spelling. -/
lemma lt_of_readNatural {spelling : Spelling} (h : readNatural spelling bits s = .ok n) :
    n < Nat.pow 2 bits := by
  have hle {dividers : Bool} {base : Nat} {t : Bytes} {m : Nat}
      (hread : accumulate dividers base (Nat.pow 2 bits - 1) 0 t = .ok m) : m < Nat.pow 2 bits :=
    Nat.not_le.mp fun hge =>
      absurd (le_of_accumulate (Nat.zero_le _) hread) (Nat.not_le.mpr (pred_lt_iff.mpr hge))
  cases spelling with
  | plain base =>
      rw [readNatural] at h
      split_ifs at h
      exact hle h
  | literal =>
      rw [readNatural] at h
      cases hread : accumulate true (split s).1 (Nat.pow 2 bits - 1) 0 (split s).2 with
      | error e =>
          rw [hread] at h
          split_ifs at h
      | ok m =>
          rw [hread] at h
          dsimp only at h
          split_ifs at h
          exact Except.ok.inj h ▸ hle hread

lemma readNatural_append (hds : Digits ds) (bits : Nat) (rest : Bytes) :
    readNatural (.plain 10) bits (ds ++ rest)
      = if Nat.pow 2 bits ≤ value ds then .error .outOfRange
        else accumulate false 10 (Nat.pow 2 bits - 1) (value ds) rest := by
  have hne : (ds ++ rest).isEmpty = false := by simp [hds.ne_nil]
  rw [readNatural, hne]
  simp only [Bool.false_eq_true, if_false]
  rw [accumulate_append hds.isDigit (Nat.zero_le _), extend_zero]
  simp only [pred_lt_iff]

/-- Digits are read as their number, if that is in range. -/
lemma readNatural_of_digits (h : Digits s) (bits : Nat) :
    readNatural (.plain 10) bits s
      = if Nat.pow 2 bits ≤ value s then .error .outOfRange else .ok (value s) := by
  have hread := readNatural_append h bits []
  rwa [List.append_nil, accumulate] at hread

/-- Nothing is read but digits, and the complaint about another text tells whether its
digits at the start are too many. -/
lemma readNatural_cases (s : Bytes) (bits : Nat) :
    Digits s
      ∨ (∃ ds rest, s = ds ++ rest ∧ Digits ds ∧ Nat.pow 2 bits ≤ value ds)
      ∨ readNatural (.plain 10) bits s = .error .malformed := by
  obtain ⟨ds, rest, rfl, hds, hrest⟩ := exists_digits_append s
  by_cases hnil : ds = []
  · obtain rfl | ⟨c, tail, rfl, hc⟩ := hrest
    · exact .inr (.inr (by rw [hnil]; rfl))
    · refine .inr (.inr ?_)
      rw [hnil, List.nil_append, readNatural]
      exact accumulate_cons_of_not_isDigit hc _ _ _
  · have hdigits : Digits ds := ⟨hnil, hds⟩
    obtain rfl | ⟨c, tail, rfl, hc⟩ := hrest
    · exact .inl (by rwa [List.append_nil])
    · by_cases hout : Nat.pow 2 bits ≤ value ds
      · exact .inr (.inl ⟨ds, _, rfl, hdigits, hout⟩)
      · refine .inr (.inr ?_)
        rw [readNatural_append hdigits, if_neg hout]
        exact accumulate_cons_of_not_isDigit hc _ _ _

lemma readNatural_eq_ok_iff :
    readNatural (.plain 10) bits s = .ok n ↔ Digits s ∧ value s = n ∧ n < Nat.pow 2 bits := by
  constructor
  · intro h
    obtain hs | ⟨ds, rest, rfl, hds, hout⟩ | herror := readNatural_cases s bits
    · rw [readNatural_of_digits hs] at h
      split_ifs at h with hout
      obtain rfl := Except.ok.inj h
      exact ⟨hs, rfl, Nat.not_le.mp hout⟩
    · rw [readNatural_append hds, if_pos hout] at h
      exact absurd h (by simp)
    · exact absurd (h.symm.trans herror) (by simp)
  · rintro ⟨hs, rfl, hlt⟩
    rw [readNatural_of_digits hs, if_neg (Nat.not_le.mpr hlt)]

lemma readNatural_eq_outOfRange_iff :
    readNatural (.plain 10) bits s = .error .outOfRange
      ↔ ∃ ds rest, s = ds ++ rest ∧ Digits ds ∧ Nat.pow 2 bits ≤ value ds := by
  constructor
  · intro h
    obtain hs | hexcess | herror := readNatural_cases s bits
    · rw [readNatural_of_digits hs] at h
      split_ifs at h with hout
      exact ⟨s, [], (List.append_nil s).symm, hs, hout⟩
    · exact hexcess
    · exact absurd (h.symm.trans herror) (by simp)
  · rintro ⟨ds, rest, rfl, hds, hout⟩
    rw [readNatural_append hds, if_pos hout]

/-! ### Numerals with a sign -/

lemma sign_of_digits (h : Digits ds) (rest : Bytes) : sign (ds ++ rest) = (false, ds ++ rest) := by
  cases ds with
  | nil => exact absurd rfl h.ne_nil
  | cons c ds =>
      have hc : 48 ≤ c.toNat := (h.isDigit c (by simp)).1
      rw [List.cons_append, sign]
      · intro tail heq
        rw [(List.cons.inj heq).1] at hc
        exact absurd hc (by decide)
      · intro tail heq
        rw [(List.cons.inj heq).1] at hc
        exact absurd hc (by decide)

/-- The value of digits behind a sign, which is true for minus. -/
def signed (minus : Bool) (n : Nat) : Int :=
  if minus then -(n : Int) else n

lemma natAbs_signed (minus : Bool) (n : Nat) : (signed minus n).natAbs = n := by
  cases minus <;> simp [signed]

/-- A text is spelled as its digits behind the sign say. -/
lemma spells_iff : Spells s v ↔ Digits (sign s).2 ∧ v = signed (sign s).1 (value (sign s).2) := by
  constructor
  · intro h
    cases h with
    | unsigned h =>
        have hsign := sign_of_digits h []
        rw [List.append_nil] at hsign
        rw [hsign]
        exact ⟨h, rfl⟩
    | plus h => exact ⟨h, rfl⟩
    | minus h => exact ⟨h, rfl⟩
  · rintro ⟨h, rfl⟩
    unfold sign at h ⊢
    split at h
    · exact .plus h
    · exact .minus h
    · exact .unsigned h

lemma excessive_iff :
    Excessive s ↔ ∃ ds rest, (sign s).2 = ds ++ rest ∧ Digits ds ∧ Nat.pow 2 64 ≤ value ds := by
  constructor
  · rintro ⟨t, v, ⟨rest, rfl⟩, ht, hv⟩
    cases ht with
    | unsigned h => exact ⟨t, rest, by rw [sign_of_digits h], h, by simpa using hv⟩
    | @plus ds h => exact ⟨ds, rest, rfl, h, by simpa using hv⟩
    | @minus ds h => exact ⟨ds, rest, rfl, h, by simpa using hv⟩
  · rintro ⟨ds, rest, hs, hds, hv⟩
    unfold sign at hs
    split at hs
    · exact ⟨43 :: ds, _, ⟨rest, congrArg (43 :: ·) hs.symm⟩, .plus hds, by simpa using hv⟩
    · exact ⟨45 :: ds, _, ⟨rest, congrArg (45 :: ·) hs.symm⟩, .minus hds, by simpa using hv⟩
    · exact ⟨ds, _, ⟨rest, hs.symm⟩, .unsigned hds, by simpa using hv⟩

/-- Behind a sign only numbers of 63 bits are in range, and one more behind a minus. -/
lemma readInteger_of_ok (h : readNatural (.plain 10) 64 (sign s).2 = .ok n) :
    (Fits (signed (sign s).1 n) ∧ readInteger (.plain 10) s = .ok (signed (sign s).1 n))
      ∨ (¬ Fits (signed (sign s).1 n) ∧ readInteger (.plain 10) s = .error .outOfRange) := by
  have hpos : 0 < Nat.pow 2 63 := Nat.pow_pos (by decide)
  rw [readInteger, h]
  dsimp only
  cases (sign s).1 with
  | true =>
      simp only [if_true, signed, Fits]
      by_cases hout : Nat.pow 2 63 < n
      · exact .inr ⟨by omega, if_pos hout⟩
      · exact .inl ⟨by omega, if_neg hout⟩
  | false =>
      simp only [Bool.false_eq_true, if_false, signed, Fits]
      by_cases hout : Nat.pow 2 63 ≤ n
      · exact .inr ⟨by omega, if_pos hout⟩
      · exact .inl ⟨by omega, if_neg hout⟩

lemma readInteger_of_error {e : Error} (h : readNatural (.plain 10) 64 (sign s).2 = .error e) :
    readInteger (.plain 10) s = .error e := by
  rw [readInteger, h]

lemma lt_of_fits {minus : Bool} (h : Fits (signed minus n)) : n < Nat.pow 2 64 := by
  have hpow : Nat.pow 2 64 = 2 * Nat.pow 2 63 := by decide
  have hpos : 0 < Nat.pow 2 63 := Nat.pow_pos (by decide)
  rw [Fits] at h
  have habs := natAbs_signed minus n
  omega

/-- **A text is read as an integer exactly if it is a numeral with that value**, and
the value fits. -/
theorem readInteger_eq_ok_iff : readInteger (.plain 10) s = .ok v ↔ Spells s v ∧ Fits v := by
  rw [spells_iff]
  constructor
  · intro h
    cases hread : readNatural (.plain 10) 64 (sign s).2 with
    | error e =>
        rw [readInteger_of_error hread] at h
        exact absurd h (by simp)
    | ok n =>
        obtain ⟨hs, rfl, -⟩ := readNatural_eq_ok_iff.mp hread
        obtain ⟨hfits, hok⟩ | ⟨-, herror⟩ := readInteger_of_ok hread
        · obtain rfl := Except.ok.inj (h.symm.trans hok)
          exact ⟨⟨hs, rfl⟩, hfits⟩
        · exact absurd (h.symm.trans herror) (by simp)
  · rintro ⟨⟨hs, rfl⟩, hfits⟩
    have hread := readNatural_eq_ok_iff.mpr ⟨hs, rfl, lt_of_fits hfits⟩
    obtain ⟨-, hok⟩ | ⟨hfits', -⟩ := readInteger_of_ok hread
    · exact hok
    · exact absurd hfits hfits'

/-- **A text is too large exactly if it starts with a numeral of more than 64 bits**,
whatever follows that, or is a numeral whose value does not fit. -/
theorem readInteger_eq_outOfRange_iff :
    readInteger (.plain 10) s = .error .outOfRange
      ↔ Excessive s ∨ ∃ v, Spells s v ∧ ¬ Fits v := by
  rw [excessive_iff, ← readNatural_eq_outOfRange_iff]
  constructor
  · intro h
    cases hread : readNatural (.plain 10) 64 (sign s).2 with
    | error e =>
        rw [readInteger_of_error hread] at h
        exact .inl (congrArg Except.error (Except.error.inj h))
    | ok n =>
        obtain ⟨hs, rfl, -⟩ := readNatural_eq_ok_iff.mp hread
        obtain ⟨-, hok⟩ | ⟨hfits, -⟩ := readInteger_of_ok hread
        · exact absurd (h.symm.trans hok) (by simp)
        · exact .inr ⟨_, spells_iff.mpr ⟨hs, rfl⟩, hfits⟩
  · rintro (hread | ⟨v, hspells, hfits⟩)
    · exact readInteger_of_error hread
    · obtain ⟨hs, rfl⟩ := spells_iff.mp hspells
      have hread := readNatural_of_digits hs 64
      split_ifs at hread
      · exact readInteger_of_error hread
      · obtain ⟨hfits', -⟩ | ⟨-, herror⟩ := readInteger_of_ok hread
        · exact absurd hfits' hfits
        · exact herror

end RegisterMachine.Numeral
