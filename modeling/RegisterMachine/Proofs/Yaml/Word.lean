/-
Words of letters and digits as values of a document.

* `IsAlphanumeric`: an ASCII letter or digit, and `Yaml.letters`: the characters of a
  text of such bytes;
* `Yaml.styleOf_eq`: a text of letters and digits needs no quotes but for what it reads
  as;
* `Yaml.renderText_eq`: **it is written as it is where it reads as a text, and in
  double quotes else**;
* `Yaml.readsAsText_of_integer`, `Yaml.readsAsText_of_x`: what reads as a whole number
  does not read as a text, and what starts with an `x` does.
-/
import Mathlib.Data.List.Basic
import RegisterMachine.Proofs.Text.Fields
import RegisterMachine.Yaml.Printer

namespace RegisterMachine

/-! ### ASCII -/

namespace Utf8

lemma head?_of_ascii {a : UInt8} (h : a.toNat < 128) (rest : Bytes) :
    head? a rest = some (Char.ofNat a.toNat, 0) := by
  have hlead : lead? a = some (0, a.toNat, 0) := by
    rw [lead?, if_pos (by rw [UInt8.lt_iff_toNat_lt]; exact h)]
  have hvalid : a.toNat.isValidChar := .inl (by omega)
  rw [head?, hlead]
  exact if_pos ⟨rfl, rfl, Nat.zero_le _, hvalid⟩

/-- ASCII characters are pieces of their own. -/
lemma pieces_of_ascii {s : Bytes} (h : ∀ a ∈ s, a.toNat < 128) :
    pieces s = s.map fun a => .char (Char.ofNat a.toNat) := by
  induction s with
  | nil => rfl
  | cons a s ih =>
      rw [List.forall_mem_cons] at h
      rw [pieces_cons_char (head?_of_ascii h.1 s), List.drop_zero, ih h.2]
      rfl

end Utf8

/-- An ASCII letter or digit. -/
def IsAlphanumeric (a : UInt8) : Prop :=
  48 ≤ a.toNat ∧ a.toNat ≤ 57 ∨ 65 ≤ a.toNat ∧ a.toNat ≤ 90 ∨ 97 ≤ a.toNat ∧ a.toNat ≤ 122

instance (a : UInt8) : Decidable (IsAlphanumeric a) :=
  inferInstanceAs (Decidable (_ ∨ _ ∨ _))

lemma IsAlphanumeric.visible {a : UInt8} (h : IsAlphanumeric a) : 33 ≤ a.toNat ∧ a.toNat < 128 := by
  rw [IsAlphanumeric] at h
  omega

lemma IsAlphanumeric.isAlphanum {a : UInt8} (h : IsAlphanumeric a) :
    (Char.ofNat a.toNat).isAlphanum = true := by
  have hall : ∀ n < 123, 48 ≤ n ∧ n ≤ 57 ∨ 65 ≤ n ∧ n ≤ 90 ∨ 97 ≤ n ∧ n ≤ 122 →
      (Char.ofNat n).isAlphanum = true := by decide
  rw [IsAlphanumeric] at h
  exact hall a.toNat (by omega) h

namespace Yaml

/-! ### Letters and digits -/

/-- The characters of a text of ASCII characters. -/
def letters (s : Bytes) : List Char :=
  s.map fun a => Char.ofNat a.toNat

variable {s : Bytes} {c d : Char} {cs : List Char}

lemma ne_of_isAlphanum (hc : c.isAlphanum = true) (hd : d.isAlphanum = false) : c ≠ d := by
  rintro rfl
  exact absurd (hc.symm.trans hd) (by decide)

/-- Letters and digits lie between the first digit and the last small letter. -/
lemma code_of_isAlphanum (h : c.isAlphanum = true) : 48 ≤ c.toNat ∧ c.toNat ≤ 122 := by
  delta Char.isAlphanum Char.isAlpha Char.isUpper Char.isLower Char.isDigit at h
  simp only [Bool.or_eq_true, Bool.and_eq_true, decide_eq_true_eq, ge_iff_le,
    UInt32.le_iff_toNat_le] at h
  change ((65 ≤ c.toNat ∧ c.toNat ≤ 90) ∨ (97 ≤ c.toNat ∧ c.toNat ≤ 122))
    ∨ (48 ≤ c.toNat ∧ c.toNat ≤ 57) at h
  omega

lemma isWritable_of_isAlphanum (h : c.isAlphanum = true) : isWritable c = true := by
  have hcode := code_of_isAlphanum h
  simp only [isWritable, Bool.or_eq_true, Bool.and_eq_true, decide_eq_true_eq]
  omega

lemma isBreak_of_isAlphanum (h : c.isAlphanum = true) : isBreak c = false := by
  simp only [isBreak, Bool.or_eq_false_iff, decide_eq_false_iff_not]
  exact ⟨⟨⟨⟨ne_of_isAlphanum h (by decide), ne_of_isAlphanum h (by decide)⟩,
    ne_of_isAlphanum h (by decide)⟩, ne_of_isAlphanum h (by decide)⟩,
    ne_of_isAlphanum h (by decide)⟩

/-- A character that is neither letter nor digit does not occur among letters and digits. -/
lemma not_mem_of_isAlphanum (h : ∀ c ∈ cs, c.isAlphanum = true) (hd : d.isAlphanum = false) :
    d ∉ cs :=
  fun hmem => ne_of_isAlphanum (h d hmem) hd rfl

/-! ### Tests of the printer -/

lemma hasIndicatorAfter_eq (h : ∀ c ∈ cs, c.isAlphanum = true) (previous : Char) :
    hasIndicatorAfter previous cs = false := by
  induction cs generalizing previous with
  | nil => rfl
  | cons c cs ih =>
      rw [List.forall_mem_cons] at h
      rw [hasIndicatorAfter, ih h.2, decide_eq_false (ne_of_isAlphanum h.1 (by decide)),
        decide_eq_false (ne_of_isAlphanum h.1 (by decide))]
      rfl

lemma hasIndicator_eq (h : ∀ c ∈ cs, c.isAlphanum = true) : hasIndicator cs = false := by
  unfold hasIndicator
  split
  · exact absurd (h '-' (by simp)) (by decide)
  · exact absurd (h '.' (by simp)) (by decide)
  · rfl
  · rename_i c rest _ _
    rw [List.forall_mem_cons] at h
    have hmarks : ("#,[]\x7b\x7d&*!|>'\"%@`".toList.all fun d => !d.isAlphanum) = true := by decide
    have hmark : c ∉ "#,[]\x7b\x7d&*!|>'\"%@`".toList := by
      intro hmem
      have hother := List.all_eq_true.mp hmarks c hmem
      simp [h.1] at hother
    rw [String.contains_char_eq, decide_eq_false hmark, hasIndicatorAfter_eq h.2,
      decide_eq_false (ne_of_isAlphanum h.1 (by decide)),
      decide_eq_false (ne_of_isAlphanum h.1 (by decide)),
      decide_eq_false (ne_of_isAlphanum h.1 (by decide))]
    rfl

/-- A text of letters and digits needs no quotes but for what it reads as. -/
lemma styleOf_eq (h : ∀ c ∈ cs, c.isAlphanum = true) (s : Bytes) :
    styleOf s cs = if readsAsText s cs then .plain else .doubleQuoted := by
  have hspace : ' ' ∉ cs := not_mem_of_isAlphanum h (by decide)
  have hfeed : cs.contains '\n' = false := by
    simpa using not_mem_of_isAlphanum h (d := '\n') (by decide)
  have htab : cs.contains '\t' = false := by
    simpa using not_mem_of_isAlphanum h (d := '\t') (by decide)
  have hspecial : cs.any isSpecial = false := by
    rw [List.any_eq_false]
    intro c hc
    simp [isSpecial, isWritable_of_isAlphanum (h c hc)]
  have hbreak : cs.any isBreak = false := by
    rw [List.any_eq_false]
    intro c hc
    simp [isBreak_of_isAlphanum (h c hc)]
  have hbefore : hasSpaceBeforeBreak cs = false := by
    rw [hasSpaceBeforeBreak, List.any_eq_false]
    rintro ⟨a, b⟩ hab
    have ha : a ≠ ' ' := fun heq => hspace (heq ▸ (List.of_mem_zip hab).1)
    simp [ha]
  have hafter : hasBreakBeforeSpace cs = false := by
    rw [hasBreakBeforeSpace, List.any_eq_false]
    rintro ⟨a, b⟩ hab
    simp [isBreak_of_isAlphanum (h a (List.of_mem_zip hab).1)]
  have hhead : (cs.head? == some ' ') = false :=
    beq_false_of_ne fun heq => hspace (List.mem_of_mem_head? heq)
  have hlast : (cs.getLast? == some ' ') = false :=
    beq_false_of_ne fun heq => hspace (List.mem_of_getLast? heq)
  simp only [styleOf, hfeed, hspecial, hbefore, hafter, htab, hhead, hlast, hbreak,
    hasIndicator_eq h, Bool.or_self, Bool.false_eq_true, if_false, Bool.not_eq_true']
  cases readsAsText s cs <;> rfl

/-! ### Written words -/

section

variable (h : ∀ a ∈ s, IsAlphanumeric a)

include h

lemma isAlphanum_of_mem_letters (hc : c ∈ letters s) : c.isAlphanum = true := by
  obtain ⟨a, ha, rfl⟩ := List.mem_map.mp hc
  exact (h a ha).isAlphanum

lemma chars?_eq_letters : Utf8.chars? s = some (letters s) := by
  rw [Utf8.chars?, Utf8.pieces_of_ascii fun a ha => (h a ha).visible.2, List.mapM_map]
  exact List.mapM_pure

lemma doubleQuoted_eq : doubleQuoted (letters s) = 34 :: s ++ [34] := by
  have hmark : ((letters s).head? == some '\ufeff') = false := by
    refine beq_false_of_ne fun heq => ?_
    exact absurd (isAlphanum_of_mem_letters h (List.mem_of_mem_head? heq)) (by decide)
  have hwritten : ∀ a ∈ s, (if ((letters s).head? == some '\ufeff')
        || !isWritable (Char.ofNat a.toNat) || isBreak (Char.ofNat a.toNat)
        || Char.ofNat a.toNat = '"' || Char.ofNat a.toNat = '\\' then escaped (Char.ofNat a.toNat)
      else String.utf8EncodeChar (Char.ofNat a.toNat)) = [a] := by
    intro a ha
    have hletter := (h a ha).isAlphanum
    rw [hmark, isWritable_of_isAlphanum hletter, isBreak_of_isAlphanum hletter,
      decide_eq_false (ne_of_isAlphanum hletter (by decide)),
      decide_eq_false (ne_of_isAlphanum hletter (by decide))]
    exact (Utf8.encode_of_head? (Utf8.head?_of_ascii (h a ha).visible.2 [])).1
  rw [doubleQuoted, letters, List.flatMap_map]
  rw [letters] at hwritten
  rw [List.flatMap_congr hwritten, List.flatMap_singleton']

/-- **A text of letters and digits is written as it is where it reads as a text**, and in
double quotes else. -/
theorem renderText_eq :
    renderText s = (if readsAsText s (letters s) then s else 34 :: s ++ [34]) ++ newline := by
  have hwritten : renderChars s (letters s) (styleOf s (letters s))
      = if readsAsText s (letters s) then s else 34 :: s ++ [34] := by
    rw [styleOf_eq fun c hc => isAlphanum_of_mem_letters h hc]
    split_ifs
    · rfl
    · exact doubleQuoted_eq h
  have hlast : (if readsAsText s (letters s) then s else 34 :: s ++ [34]).getLast? ≠ some 10 := by
    intro heq
    split_ifs at heq
    · exact absurd (h 10 (List.mem_of_getLast? heq)).isAlphanum (by decide)
    · rw [List.getLast?_concat] at heq
      exact absurd heq (by decide)
  simp only [renderText, chars?_eq_letters h, hwritten, beq_eq_false_iff_ne.mpr hlast,
    Bool.false_eq_true, if_false]

end

/-! ### What a word reads as -/

/-- What reads as a whole number does not read as a text. -/
lemma readsAsText_of_integer {a : UInt8} {n : Int} (hdigit : Decimal.isDigit a = true)
    (h : integer? ((a :: s).filter (· ≠ 95)) = some n) (cs : List Char) :
    readsAsText (a :: s) cs = false := by
  have hwords : ∀ e ∈ words, e.2.tag ≠ textTag := by decide
  have hpoint : a ≠ 46 := by
    rintro rfl
    exact absurd hdigit (by decide)
  have htag : (Scalar.ofPlain true (a :: s)).tag ≠ textTag := by
    rw [Scalar.ofPlain]
    cases hword : words.lookup (a :: s) with
    | some v =>
        obtain ⟨before, after, heq, -⟩ := List.lookup_eq_some_iff.mp hword
        exact hwords (a :: s, v) (by rw [heq]; simp)
    | none =>
        dsimp only
        rw [if_neg hpoint, hdigit, Bool.true_or, Bool.true_or, if_pos rfl, if_pos rfl, number?, h]
        cases Timestamp.parse (a :: s) with
        | some t => exact show timeTag ≠ textTag by decide
        | none => exact show integerTag ≠ textTag by decide
  rw [readsAsText, decide_eq_false htag]
  rfl

/-- What starts with an `x` reads as a text. -/
lemma readsAsText_of_x (s : Bytes) (cs : List Char) :
    readsAsText (120 :: s) ('x' :: cs) = true := by
  have hwords : ∀ e ∈ words, e.1.head? ≠ some 120 := by decide
  have hformer : ∀ w ∈ formerFlags, w.head? ≠ some 120 := by decide
  have hlookup : words.lookup (120 :: s) = none := by
    refine List.lookup_eq_none_iff.mpr fun e he => ?_
    refine bne_iff_ne.mpr fun heq => hwords e he ?_
    rw [← heq]
    rfl
  have hplain : Scalar.ofPlain true (120 :: s) = .text (120 :: s) := by
    rw [Scalar.ofPlain, hlookup]
    rfl
  have hflags : formerFlags.contains (120 :: s) = false := by
    rw [List.contains_eq_mem, decide_eq_false_iff_not]
    exact fun hmem => hformer _ hmem rfl
  have hsexagesimal : isSexagesimal ('x' :: cs) = false := by
    simp [isSexagesimal]
  rw [readsAsText, hplain, hflags, hsexagesimal]
  rfl

end Yaml

end RegisterMachine
