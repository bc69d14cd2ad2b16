/-
Stores on two file systems side by side.

* `Slot.read_parallel`, `Slot.write_parallel`: reading and writing a register;
* `Store.load_parallel`: **loading gives the same bank on both sides**, and as many
  errors;
* `Store.save_parallel`, `Store.clear_parallel`: saving and clearing have the same
  results.

No place with `D` is on the way to the registers or among their files, and a log is
longer than the file of a register.
-/
import RegisterMachine.Proofs.FileSystem.Parallel

namespace RegisterMachine

open FileSystem (Parallel)

variable {D : Location → Prop} {T : Location → Bytes → Prop} {fs fs' : FileSystem} {d : Bytes}

namespace Slot

variable {i : Int}

lemma parents_path (d : Bytes) (i : Int) :
    Path.parents (Path.resolve (path d i)) = Path.prefixes (Path.resolve d) := by
  rw [resolve_path, place, Path.parents_concat]

lemma parents_scratch (d : Bytes) (i : Int) :
    Path.parents (Path.resolve (scratch d i)) = Path.prefixes (Path.resolve d) := by
  rw [resolve_scratch, scratchPlace, Path.parents_concat]

/-- Reading a register gives the same word on both sides, or errors. -/
lemma read_parallel (h : Parallel D T fs fs')
    (hway : ∀ q ∈ Path.prefixes (Path.resolve d), ¬ D q)
    (hslot : ¬ D (place (Path.resolve d) i)) (hT : ∀ q c, T q c → size < c.length) :
    (∃ v, read d i fs = (.ok v, fs) ∧ read d i fs' = (.ok v, fs'))
      ∨ ∃ e e', read d i fs = (.error e, fs) ∧ read d i fs' = (.error e', fs') := by
  rw [← resolve_path] at hslot
  rw [← parents_path d i] at hway
  rw [read, read]
  obtain ⟨e, e', hread, hread', herror⟩ | ⟨c, hread, hread'⟩ | ⟨c, x, x', hc, hread, hread'⟩ :=
    h.read_cases hslot
  · rw [hread, hread', herror hway]
    dsimp only
    split_ifs
    · exact .inl ⟨_, rfl, rfl⟩
    · exact .inr ⟨_, _, rfl, rfl⟩
  · rw [hread, hread']
    dsimp only
    cases decode c with
    | ok v => exact .inl ⟨v, rfl, rfl⟩
    | error e => exact .inr ⟨_, _, rfl, rfl⟩
  · have hlong := hT _ c hc
    have hdecode (y : Bytes) : ∃ e, decode (c ++ y) = .error e :=
      exists_decode_error (by rw [List.length_append]; omega)
    obtain ⟨e, hdecode₁⟩ := hdecode x
    obtain ⟨e', hdecode₂⟩ := hdecode x'
    rw [hread, hread']
    dsimp only
    rw [hdecode₁, hdecode₂]
    exact .inr ⟨_, _, rfl, rfl⟩

/-- Writing a register has the same result on both sides. -/
lemma write_parallel (h : Parallel D T fs fs')
    (hway : ∀ q ∈ Path.prefixes (Path.resolve d), ¬ D q)
    (hslot : ¬ D (place (Path.resolve d) i)) (hscratch : ¬ D (scratchPlace (Path.resolve d) i))
    (v : Word) :
    ∃ r fs₁ fs₁', write d i v fs = (r, fs₁) ∧ write d i v fs' = (r, fs₁')
      ∧ Parallel D T fs₁ fs₁' := by
  have hway' := hway
  rw [← resolve_path] at hslot
  rw [← resolve_scratch] at hscratch
  rw [← parents_scratch d i] at hway
  rw [← parents_path d i] at hway'
  rw [write, write]
  obtain ⟨errno, errno', hwrite, hwrite', herrno⟩ | ⟨fs₁, fs₁', m, hwrite, hwrite', h₁, hget, hget'⟩
      := h.write_cases hscratch mode (encode v)
  · rw [hwrite, hwrite', herrno hway]
    exact ⟨_, fs, fs', rfl, rfl, h⟩
  · rw [hwrite, hwrite']
    dsimp only
    obtain ⟨e, hrename, hrename'⟩ | ⟨fs₂, fs₂', hrename, hrename', h₂⟩ :=
      h₁.rename_cases hscratch hslot hway hway' (hget'.trans hget.symm)
    · have hremove := h₁.remove hscratch hway fun hdirectory =>
        absurd (hget.symm.trans hdirectory) (by simp)
      rw [hrename, hrename']
      exact ⟨_, _, _, rfl, rfl, hremove.2⟩
    · rw [hrename, hrename']
      exact ⟨_, _, _, rfl, rfl, h₂⟩

end Slot

namespace Store

/-- Reading registers gives the same words on both sides, and as many errors. -/
lemma readAll_parallel (h : Parallel D T fs fs')
    (hway : ∀ q ∈ Path.prefixes (Path.resolve d), ¬ D q) {is : List Nat}
    (hslots : ∀ i ∈ is, ¬ D (Slot.place (Path.resolve d) (i : Nat)))
    (hT : ∀ q c, T q c → Slot.size < c.length) :
    ∃ words errors errors', readAll d is fs = ((words, errors), fs)
      ∧ readAll d is fs' = ((words, errors'), fs') ∧ errors'.length = errors.length := by
  induction is with
  | nil => exact ⟨_, _, _, rfl, rfl, rfl⟩
  | cons i is ih =>
      obtain ⟨words, errors, errors', hrest, hrest', hlength⟩ :=
        ih fun j hj => hslots j (by simp [hj])
      rw [readAll, readAll]
      obtain ⟨v, hread, hread'⟩ | ⟨e, e', hread, hread'⟩ :=
        Slot.read_parallel h hway (hslots i (by simp)) hT
      · rw [hread, hread']
        dsimp only
        rw [hrest, hrest']
        exact ⟨_, _, _, rfl, rfl, hlength⟩
      · rw [hread, hread']
        dsimp only
        rw [hrest, hrest']
        exact ⟨_, _, _, rfl, rfl, congrArg (· + 1) hlength⟩

/-- **Loading** gives the same bank on both sides, and as many errors. -/
lemma load_parallel (h : Parallel D T fs fs')
    (hway : ∀ q ∈ Path.prefixes (Path.resolve d), ¬ D q)
    (hslots : ∀ i ∈ registers, ¬ D (Slot.place (Path.resolve d) (i : Nat)))
    (hT : ∀ q c, T q c → Slot.size < c.length) :
    ∃ b errors errors', load d fs = ((b, errors), fs) ∧ load d fs' = ((b, errors'), fs')
      ∧ errors'.length = errors.length := by
  obtain ⟨words, errors, errors', hread, hread', hlength⟩ := readAll_parallel h hway hslots hT
  rw [load, load, hread, hread']
  exact ⟨_, _, _, rfl, rfl, hlength⟩

/-- Writing registers has the same result on both sides. -/
lemma writeAll_parallel (h : Parallel D T fs fs')
    (hway : ∀ q ∈ Path.prefixes (Path.resolve d), ¬ D q) {is : List Nat}
    (hslots : ∀ i ∈ is, ∀ q, Slot.Own (Path.resolve d) i q → ¬ D q) (b : Bank) :
    ∃ errors fs₁ fs₁', writeAll d b is fs = (errors, fs₁) ∧ writeAll d b is fs' = (errors, fs₁')
      ∧ Parallel D T fs₁ fs₁' := by
  induction is generalizing fs fs' with
  | nil => exact ⟨_, _, _, rfl, rfl, h⟩
  | cons i is ih =>
      obtain ⟨r, fs₁, fs₁', hwrite, hwrite', h₁⟩ := Slot.write_parallel h hway
        (hslots i (by simp) _ (.inl rfl)) (hslots i (by simp) _ (.inr rfl))
        (b.toList.getD i 0#32)
      obtain ⟨errors, fs₂, fs₂', hrest, hrest', h₂⟩ := ih h₁ fun j hj => hslots j (by simp [hj])
      rw [writeAll, writeAll, hwrite, hwrite']
      cases r with
      | ok => exact ⟨_, _, _, hrest, hrest', h₂⟩
      | error e =>
          dsimp only
          rw [hrest, hrest']
          exact ⟨_, _, _, rfl, rfl, h₂⟩

/-- **Saving** has the same result on both sides. -/
lemma save_parallel (h : Parallel D T fs fs') (hstore : ∀ q, Guarded (Path.resolve d) q → ¬ D q)
    (b : Bank) :
    ∃ saving fs₁ fs₁', save d b fs = (saving, fs₁) ∧ save d b fs' = (saving, fs₁')
      ∧ Parallel D T fs₁ fs₁' := by
  have hway : ∀ q ∈ Path.prefixes (Path.resolve d), ¬ D q := fun q hq => hstore q (.inl hq)
  have hmade := h.makeDirectories hway
  rw [save, save]
  generalize fs.makeDirectories d = x at hmade ⊢
  generalize fs'.makeDirectories d = x' at hmade ⊢
  obtain ⟨r, fs₁⟩ := x
  obtain ⟨r', fs₁'⟩ := x'
  obtain ⟨rfl, h₁⟩ : r' = r ∧ Parallel D T fs₁ fs₁' := hmade
  cases r' with
  | error e => exact ⟨_, _, _, rfl, rfl, h₁⟩
  | ok =>
      have hslots : ∀ i ∈ registers, ∀ q, Slot.Own (Path.resolve d) i q → ¬ D q :=
        fun i hi q hq => hstore q (.inr ⟨i, List.mem_range.mp hi, hq⟩)
      obtain ⟨errors, fs₂, fs₂', hwrite, hwrite', h₂⟩ := writeAll_parallel h₁ hway hslots b
      dsimp only
      rw [hwrite, hwrite']
      exact ⟨_, _, _, rfl, rfl, h₂⟩

/-- Removing the files of registers has the same result on both sides. -/
lemma removeAll_parallel (h : Parallel D T fs fs')
    (hway : ∀ q ∈ Path.prefixes (Path.resolve d), ¬ D q) {is : List Nat}
    (hslots : ∀ i ∈ is, ¬ D (Slot.place (Path.resolve d) (i : Nat))
      ∧ ∀ n, ¬ D (Slot.place (Path.resolve d) i ++ [n])) :
    ∃ errors fs₁ fs₁', removeAll d is fs = (errors, fs₁) ∧ removeAll d is fs' = (errors, fs₁')
      ∧ Parallel D T fs₁ fs₁' := by
  induction is generalizing fs fs' with
  | nil => exact ⟨_, _, _, rfl, rfl, h⟩
  | cons i is ih =>
      have hslot := hslots i (by simp)
      rw [← Slot.resolve_path] at hslot
      have hremove := h.remove hslot.1 (by rwa [Slot.parents_path]) fun _ => hslot.2
      rw [removeAll, removeAll]
      generalize fs.remove (Slot.path d i) = x at hremove ⊢
      generalize fs'.remove (Slot.path d i) = x' at hremove ⊢
      obtain ⟨r, fs₁⟩ := x
      obtain ⟨r', fs₁'⟩ := x'
      obtain ⟨rfl, h₁⟩ : r' = r ∧ Parallel D T fs₁ fs₁' := hremove
      obtain ⟨errors, fs₂, fs₂', hrest, hrest', h₂⟩ := ih h₁ fun j hj => hslots j (by simp [hj])
      cases r' with
      | ok => exact ⟨_, _, _, hrest, hrest', h₂⟩
      | error e =>
          dsimp only
          rw [hrest, hrest']
          exact ⟨_, _, _, rfl, rfl, h₂⟩

/-- **Clearing** has the same result on both sides, where no place with `D` is inside a
directory that stands at the place of a register. -/
lemma clear_parallel (h : Parallel D T fs fs')
    (hway : ∀ q ∈ Path.prefixes (Path.resolve d), ¬ D q)
    (hslots : ∀ i ∈ registers, ¬ D (Slot.place (Path.resolve d) (i : Nat))
      ∧ ∀ n, ¬ D (Slot.place (Path.resolve d) i ++ [n])) :
    ∃ errors fs₁ fs₁', clear d fs = (errors, fs₁) ∧ clear d fs' = (errors, fs₁')
      ∧ Parallel D T fs₁ fs₁' :=
  removeAll_parallel h hway hslots

end Store

end RegisterMachine
