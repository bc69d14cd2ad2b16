/-
Literals, whose base is told by their start.

* `Numeral.valueIn`: the number that the digits of a base stand for by their places, and
  `Numeral.accumulate_of_digits`: they are read as that number, if it is in range;
* `Numeral.literalValue?`: what a literal of digits alone stands for: behind a zero they
  count in base eight, in which there is no eight and no nine;
* `Numeral.readNatural_literal_eq_ok_iff`: **such a literal is read as that number, or not at
  all**;
* `Numeral.literalValue?_eq_value_iff`: that is the number in base ten where no zero stands
  in front, or where it is below eight;
* `Numeral.readNatural_decimal`, `Numeral.readNatural_hexadecimal`: **numbers that are
  written in base ten or sixteen can be read**.
-/
import Mathlib.Data.List.Basic
import RegisterMachine.Proofs.Instruction.Names

namespace RegisterMachine.Numeral

variable {c : UInt8} {s t : Bytes} {base bound bits n : Nat}

/-! ### Digits of a base -/

/-- A digit or letter that stands for a number below the base. -/
def IsDigitIn (base : Nat) (c : UInt8) : Prop :=
  ∃ d < base, digit? c = some d

/-- The number that digits stand for: each one counts as often as the power of the base of
its place says. -/
def valueIn (base : Nat) : Bytes → Nat
  | [] => 0
  | c :: rest => (digit? c).getD 0 * Nat.pow base rest.length + valueIn base rest

lemma isDigitIn_of_isDigit (h : IsDigit c) (hc : c.toNat < 48 + base) : IsDigitIn base c := by
  have hlow := h.1
  exact ⟨c.toNat - 48, by omega, digit?_of_isDigit h⟩

lemma isDigitIn_ten (h : IsDigit c) : IsDigitIn 10 c := by
  have hhigh := h.2
  exact isDigitIn_of_isDigit h (by omega)

lemma IsDigitIn.ne_divider (h : IsDigitIn base c) : c ≠ 95 := by
  rintro rfl
  obtain ⟨d, -, hd⟩ := h
  have hnone : digit? 95 = none := by decide
  exact absurd (hnone.symm.trans hd) (by simp)

lemma contains_divider (h : ∀ c ∈ s, IsDigitIn base c) : s.contains 95 = false := by
  rw [Bool.eq_false_iff, Ne, List.contains_iff_mem]
  exact fun hmem => (h 95 hmem).ne_divider rfl

lemma valueIn_ten (h : ∀ c ∈ s, IsDigit c) : valueIn 10 s = value s := by
  induction s with
  | nil => rfl
  | cons c s ih =>
      rw [valueIn, value, digit?_of_isDigit (h c (by simp)), ih fun c hc => h c (by simp [hc])]
      rfl

lemma valueIn_append (base : Nat) (s t : Bytes) :
    valueIn base (s ++ t) = valueIn base s * Nat.pow base t.length + valueIn base t := by
  induction s with
  | nil => simp [valueIn]
  | cons c s ih =>
      have hpow : Nat.pow base (s.length + t.length)
          = Nat.pow base s.length * Nat.pow base t.length := Nat.pow_add base s.length t.length
      rw [List.cons_append, valueIn, valueIn, ih, List.length_append, hpow, Nat.add_mul,
        Nat.mul_assoc, Nat.add_assoc]

/-- Digits are read as the number that they stand for, if it is in range. -/
lemma accumulate_of_digits (hs : ∀ c ∈ s, IsDigitIn base c) (hn : n ≤ bound) :
    accumulate true base bound n s
      = if bound < n * Nat.pow base s.length + valueIn base s then .error .outOfRange
        else .ok (n * Nat.pow base s.length + valueIn base s) := by
  induction s generalizing n with
  | nil =>
      have hvalue : n * Nat.pow base ([] : Bytes).length + valueIn base [] = n := by
        simp [valueIn]
      rw [hvalue, if_neg (Nat.not_lt.mpr hn), accumulate]
  | cons c s ih =>
      obtain ⟨d, hd, hc⟩ := hs c (by simp)
      have hdivider : (true && c == 95) = false := by
        simpa using (hs c (by simp)).ne_divider
      have hpow : Nat.pow base (s.length + 1) = base * Nat.pow base s.length := by
        rw [Nat.mul_comm]
        rfl
      have hvalue : n * Nat.pow base (c :: s).length + valueIn base (c :: s)
          = (n * base + d) * Nat.pow base s.length + valueIn base s := by
        rw [List.length_cons, hpow, valueIn, hc, Option.getD_some, Nat.add_mul, Nat.mul_assoc,
          Nat.add_assoc]
      have hgrow : n * base + d ≤ (n * base + d) * Nat.pow base s.length + valueIn base s :=
        Nat.le_trans (Nat.le_mul_of_pos_right _ (Nat.pow_pos (by omega))) (Nat.le_add_right _ _)
      rw [accumulate, hdivider, hc, hvalue]
      simp only [Bool.false_eq_true, if_false, if_neg (Nat.not_le.mpr hd)]
      by_cases hout : bound < n * base + d
      · rw [if_pos hout, if_pos (Nat.lt_of_lt_of_le hout hgrow)]
      · rw [if_neg hout, ih (fun c hc => hs c (by simp [hc])) (Nat.not_lt.mp hout)]

/-- A text with something else in it is not read. -/
lemma exists_error_of_mem (hmem : c ∈ s) (hc : ¬ IsDigitIn base c) (hdivider : c ≠ 95)
    (bound n : Nat) : ∃ e, accumulate true base bound n s = .error e := by
  induction s generalizing n with
  | nil => exact absurd hmem (by simp)
  | cons c' s ih =>
      rw [accumulate]
      by_cases hdividers : (true && c' == 95) = true
      · have hne : c ≠ c' := by
          rintro rfl
          exact hdivider (by simpa using hdividers)
        rw [if_pos hdividers]
        exact ih ((List.mem_cons.mp hmem).resolve_left hne) n
      · rw [if_neg hdividers]
        cases hd : digit? c' with
        | none => exact ⟨_, rfl⟩
        | some d =>
            dsimp only
            by_cases hbase : base ≤ d
            · exact ⟨_, if_pos hbase⟩
            · have hne : c ≠ c' := by
                rintro rfl
                exact hc ⟨d, Nat.not_le.mp hbase, hd⟩
              rw [if_neg hbase]
              split_ifs
              · exact ⟨_, rfl⟩
              · exact ih ((List.mem_cons.mp hmem).resolve_left hne) _

/-! ### Literals of digits alone -/

/-- What a literal of digits stands for: behind a zero they count in base eight, in which
there is no eight and no nine. -/
def literalValue? (s : Bytes) : Option Nat :=
  if s.head? = some 48 then
    if s.all fun c => c.toNat < 56 then some (valueIn 8 s) else none
  else some (value s)

lemma split_of_head?_ne (h : s.head? ≠ some 48) : split s = (10, s) := by
  unfold split
  split
  · exact absurd rfl h
  · exact absurd rfl h
  · rfl

/-- A digit is not the mark of a base. -/
lemma split_zero_cons (h : ∀ c ∈ s, IsDigit c) : split (48 :: s) = (8, s) := by
  unfold split
  split
  · rename_i mark first rest heq
    obtain ⟨-, rfl⟩ := List.cons.inj heq
    have hmark := h mark (by simp)
    have hne {m : UInt8} (hm : 57 < m.toNat) : Bytes.lower mark ≠ m := by
      rw [lower_of_isDigit hmark]
      rintro rfl
      exact absurd hmark.2 (by omega)
    rw [if_neg (hne (by decide)), if_neg (hne (by decide)), if_neg (hne (by decide))]
  · rename_i heq
    rw [(List.cons.inj heq).2]
  · rename_i hno
    exact absurd rfl (hno s)

/-- Digits are read as the digits behind the mark of the base are, since no underscores are
among them. -/
lemma readNatural_literal (h : Digits s) :
    readNatural .literal bits s
      = accumulate true (split s).1 (Nat.pow 2 bits - 1) 0 (split s).2 := by
  have hdivider : s.contains 95 = false :=
    contains_divider fun c hc => isDigitIn_ten (h.isDigit c hc)
  rw [readNatural, if_neg (by simpa using h.ne_nil), hdivider]
  cases accumulate true (split s).1 (Nat.pow 2 bits - 1) 0 (split s).2 <;> rfl

lemma accumulate_eq_ok_iff (hs : ∀ c ∈ s, IsDigitIn base c) :
    accumulate true base (Nat.pow 2 bits - 1) 0 s = .ok n
      ↔ valueIn base s = n ∧ n < Nat.pow 2 bits := by
  rw [accumulate_of_digits hs (Nat.zero_le _), Nat.zero_mul, Nat.zero_add]
  simp only [pred_lt_iff]
  by_cases hout : Nat.pow 2 bits ≤ valueIn base s
  · rw [if_pos hout]
    constructor
    · exact fun hbad => absurd hbad (by simp)
    · rintro ⟨rfl, hlt⟩
      exact absurd hout (Nat.not_le.mpr hlt)
  · rw [if_neg hout, Except.ok.injEq]
    exact ⟨fun heq => ⟨heq, heq ▸ Nat.not_le.mp hout⟩, And.left⟩

/-- An eight or a nine is not read in base eight. -/
lemma accumulate_eight_eq_ok_iff (h : ∀ c ∈ s, IsDigit c) :
    accumulate true 8 (Nat.pow 2 bits - 1) 0 s = .ok n
      ↔ (∀ c ∈ s, c.toNat < 56) ∧ valueIn 8 s = n ∧ n < Nat.pow 2 bits := by
  by_cases hall : ∀ c ∈ s, c.toNat < 56
  · have hdigits : ∀ c ∈ s, IsDigitIn 8 c := fun c hc => isDigitIn_of_isDigit (h c hc) (hall c hc)
    rw [accumulate_eq_ok_iff hdigits]
    exact ⟨fun hn => ⟨hall, hn⟩, And.right⟩
  · obtain ⟨c, hc, hnine⟩ : ∃ c ∈ s, 56 ≤ c.toNat := by simpa using hall
    have hno : ¬ IsDigitIn 8 c := by
      rintro ⟨d, hd, heq⟩
      rw [digit?_of_isDigit (h c hc)] at heq
      have hvalue := Option.some.inj heq
      omega
    obtain ⟨e, he⟩ := exists_error_of_mem hc hno (isDigitIn_ten (h c hc)).ne_divider
      (Nat.pow 2 bits - 1) 0
    rw [he]
    exact ⟨fun hbad => absurd hbad (by simp), fun hn => absurd hn.1 hall⟩

/-- **Digits are read as the literal that they are, or not at all.** -/
theorem readNatural_literal_eq_ok_iff (h : Digits s) :
    readNatural .literal bits s = .ok n ↔ literalValue? s = some n ∧ n < Nat.pow 2 bits := by
  rw [readNatural_literal h, literalValue?]
  by_cases hzero : s.head? = some 48
  · obtain ⟨rest, rfl⟩ : ∃ rest, s = 48 :: rest := by
      cases s with
      | nil => exact absurd hzero (by simp)
      | cons c rest => exact ⟨rest, by rw [Option.some.inj hzero]⟩
    have hrest : ∀ c ∈ rest, IsDigit c := fun c hc => h.isDigit c (by simp [hc])
    have hvalue : valueIn 8 (48 :: rest) = valueIn 8 rest := by
      rw [valueIn, show digit? 48 = some 0 by decide, Option.getD_some, Nat.zero_mul, Nat.zero_add]
    have hall : ((48 :: rest).all fun c => c.toNat < 56) = true ↔ ∀ c ∈ rest, c.toNat < 56 := by
      simp
    rw [split_zero_cons hrest, accumulate_eight_eq_ok_iff hrest, if_pos hzero, hvalue]
    by_cases hsmall : ∀ c ∈ rest, c.toNat < 56
    · rw [if_pos (hall.mpr hsmall), Option.some.injEq]
      exact ⟨And.right, fun hn => ⟨hsmall, hn⟩⟩
    · rw [if_neg (hsmall ∘ hall.mp)]
      exact ⟨fun hn => absurd hn.1 hsmall, fun hbad => absurd hbad.1 (by simp)⟩
  · have hten : ∀ c ∈ s, IsDigitIn 10 c := fun c hc => isDigitIn_ten (h.isDigit c hc)
    rw [split_of_head?_ne hzero, if_neg hzero, accumulate_eq_ok_iff hten, valueIn_ten h.isDigit,
      Option.some.injEq]

/-! ### Base eight and base ten -/

/-- Digits below eight stand for less in base eight than in base ten, unless only the last
one counts. -/
lemma valueIn_eight_cases (h : ∀ c ∈ s, 48 ≤ c.toNat ∧ c.toNat < 56) :
    (value s < 8 ∧ valueIn 8 s = value s) ∨ (8 ≤ value s ∧ valueIn 8 s < value s) := by
  induction s with
  | nil => exact .inl ⟨by decide, rfl⟩
  | cons c s ih =>
      have hc := h c (by simp)
      have hrest := ih fun c hc => h c (by simp [hc])
      rw [valueIn, value, digit?_of_isDigit ⟨hc.1, by omega⟩, Option.getD_some]
      generalize hd : c.toNat - 48 = d
      by_cases hzero : d = 0
      · rw [hzero, Nat.zero_mul, Nat.zero_mul, Nat.zero_add, Nat.zero_add]
        exact hrest
      · cases s with
        | nil =>
            refine .inl ⟨?_, rfl⟩
            simp only [value, List.length_nil, Nat.pow_eq, Nat.pow_zero]
            omega
        | cons c' s =>
            -- The first digit alone makes the difference.
            have hpower : Nat.pow 8 (s.length + 1) < Nat.pow 10 (s.length + 1) :=
              Nat.pow_lt_pow_left (by decide) (by omega)
            have hten : 10 ≤ Nat.pow 10 (s.length + 1) :=
              Nat.le_self_pow (by omega) 10
            have hfirst : d * Nat.pow 8 (s.length + 1) < d * Nat.pow 10 (s.length + 1) :=
              Nat.mul_lt_mul_of_pos_left hpower (by omega)
            have hcount : Nat.pow 10 (s.length + 1) ≤ d * Nat.pow 10 (s.length + 1) :=
              Nat.le_mul_of_pos_left _ (by omega)
            rw [List.length_cons]
            omega

/-- No digit counts more than all of them. -/
lemma digit_le_value (h : c ∈ s) : c.toNat - 48 ≤ value s := by
  induction s with
  | nil => exact absurd h (by simp)
  | cons c' s ih =>
      rw [value]
      obtain rfl | hmem := List.mem_cons.mp h
      · have hpos : 0 < Nat.pow 10 s.length := Nat.pow_pos (by decide)
        exact Nat.le_trans (Nat.le_mul_of_pos_right _ hpos) (Nat.le_add_right _ _)
      · exact Nat.le_trans (ih hmem) (Nat.le_add_left _ _)

/-- **A literal of digits stands for their number in base ten** where no zero stands in front,
or where that number is below eight. -/
theorem literalValue?_eq_value_iff (h : Digits s) :
    literalValue? s = some (value s) ↔ (s.head? = some 48 → value s < 8) := by
  rw [literalValue?]
  by_cases hzero : s.head? = some 48
  · have hoctal (hall : (s.all fun c => c.toNat < 56) = true) :
        ∀ c ∈ s, 48 ≤ c.toNat ∧ c.toNat < 56 := fun c hc =>
      ⟨(h.isDigit c hc).1, by simpa using List.all_eq_true.mp hall c hc⟩
    rw [if_pos hzero]
    constructor
    · intro heq _
      split_ifs at heq with hall
      obtain ⟨hlt, -⟩ | ⟨-, hlt⟩ := valueIn_eight_cases (hoctal hall)
      · exact hlt
      · exact absurd (Option.some.inj heq) (Nat.ne_of_lt hlt)
    · intro hsmall
      have hall : (s.all fun c => c.toNat < 56) = true := by
        rw [List.all_eq_true]
        intro c hc
        have hle := digit_le_value hc
        have hlt := hsmall hzero
        simp only [decide_eq_true_eq]
        omega
      rw [if_pos hall]
      obtain ⟨-, heq⟩ | ⟨hge, -⟩ := valueIn_eight_cases (hoctal hall)
      · rw [heq]
      · exact absurd (hsmall hzero) (Nat.not_lt.mpr hge)
  · rw [if_neg hzero]
    exact iff_of_true rfl fun hbad => absurd hbad hzero

/-! ### Written numbers -/

/-- Only zero is written with a zero in front. -/
lemma head?_decimal (h : (decimal n).head? = some 48) : n = 0 := by
  induction n using Nat.strongRecOn with
  | ind n ih =>
      rw [decimal] at h
      by_cases hn : n < 10
      · rw [Nat.toDigits_of_lt_base hn] at h
        revert h
        have hall : ∀ n < 10, ([Nat.digitChar n].map Char.toUInt8).head? = some 48 → n = 0 := by
          decide
        exact hall n hn
      · rw [Nat.toDigits_of_base_le (by decide) (Nat.not_lt.mp hn), List.map_append,
          List.head?_append_of_ne_nil _ (by simp)] at h
        have hfront := ih (n / 10) (by omega) h
        omega

/-- **A number that is written in base ten can be read.** -/
theorem readNatural_decimal (h : n < Nat.pow 2 bits) :
    readNatural .literal bits (decimal n) = .ok n := by
  refine (readNatural_literal_eq_ok_iff (digits_decimal n)).mpr ⟨?_, h⟩
  have hvalue := (literalValue?_eq_value_iff (digits_decimal n)).mpr fun hzero => by
    rw [value_decimal, head?_decimal hzero]
    decide
  rwa [value_decimal] at hvalue

lemma digit?_capital {d : Nat} (h : d < 16) :
    digit? (Nat.digitChar d).toUpper.toUInt8 = some d := by
  have hall : ∀ d < 16, digit? (Nat.digitChar d).toUpper.toUInt8 = some d := by decide
  exact hall d h

/-- The digits of a number stand for it in base sixteen, and all of them are such. -/
lemma valueIn_toDigits (n : Nat) :
    valueIn 16 ((Nat.toDigits 16 n).map fun c => c.toUpper.toUInt8) = n
      ∧ ∀ c ∈ (Nat.toDigits 16 n).map fun c => c.toUpper.toUInt8, IsDigitIn 16 c := by
  have hsingle {d : Nat} (hd : d < 16) :
      valueIn 16 [(Nat.digitChar d).toUpper.toUInt8] = d := by
    simp [valueIn, digit?_capital hd]
  induction n using Nat.strongRecOn with
  | ind n ih =>
      by_cases hn : n < 16
      · rw [Nat.toDigits_of_lt_base hn, List.map_singleton]
        refine ⟨hsingle hn, fun c hc => ?_⟩
        rw [List.mem_singleton.mp hc]
        exact ⟨n, hn, digit?_capital hn⟩
      · have hlt : n % 16 < 16 := Nat.mod_lt _ (by decide)
        obtain ⟨hvalue, hdigits⟩ := ih (n / 16) (by omega)
        rw [Nat.toDigits_of_base_le (by decide) (Nat.not_lt.mp hn), List.map_append,
          List.map_singleton]
        refine ⟨?_, fun c hc => ?_⟩
        · rw [valueIn_append, hvalue, hsingle hlt, List.length_singleton]
          simp only [Nat.pow_eq, Nat.pow_one]
          omega
        · obtain hc | hc := List.mem_append.mp hc
          · exact hdigits c hc
          · rw [List.mem_singleton.mp hc]
            exact ⟨n % 16, hlt, digit?_capital hlt⟩

/-- Zeros in front do not count. -/
lemma valueIn_hexadecimalCapital (width n : Nat) :
    valueIn 16 (hexadecimalCapital width n) = n
      ∧ ∀ c ∈ hexadecimalCapital width n, IsDigitIn 16 c := by
  have hzeros (k : Nat) : valueIn 16 (List.replicate k 48) = 0 := by
    induction k with
    | zero => rfl
    | succ k ih =>
        rw [List.replicate_succ, valueIn, ih, show digit? 48 = some 0 by decide, Option.getD_some,
          Nat.zero_mul]
  obtain ⟨hvalue, hdigits⟩ := valueIn_toDigits n
  rw [hexadecimalCapital, Bytes.padLeft]
  refine ⟨?_, fun c hc => ?_⟩
  · rw [valueIn_append, hzeros, hvalue, Nat.zero_mul, Nat.zero_add]
  · obtain hc | hc := List.mem_append.mp hc
    · rw [List.eq_of_mem_replicate hc]
      exact ⟨0, by decide, by decide⟩
    · exact hdigits c hc

/-- **A number that is written in base sixteen can be read**, with any number of zeros in
front. -/
theorem readNatural_hexadecimal (width : Nat) (h : n < Nat.pow 2 bits) :
    readNatural .literal bits (48 :: 120 :: hexadecimalCapital width n) = .ok n := by
  obtain ⟨hvalue, hdigits⟩ := valueIn_hexadecimalCapital width n
  have hne : hexadecimalCapital width n ≠ [] := by simp [hexadecimalCapital, Bytes.padLeft]
  generalize hexadecimalCapital width n = s at hvalue hdigits hne ⊢
  have hsplit : split (48 :: 120 :: s) = (16, s) := by
    cases s with
    | nil => exact absurd rfl hne
    | cons c s => rfl
  have hdivider : (48 :: 120 :: s).contains 95 = false := by
    simpa using contains_divider hdigits
  rw [readNatural, hsplit, (accumulate_eq_ok_iff hdigits).mpr ⟨hvalue, h⟩, hdivider]
  rfl

end RegisterMachine.Numeral
