/-
The bank that a directory of files holds.

* `Store.Guarded`: the places of a store;
* `Store.Orderly`: its files can be read and replaced, and `Store.Legible`: they
  can be read;
* `Store.bank`: the bank that they stand for;
* `Store.Holds`: an orderly store with a given bank;
* `Store.Holds.spares`: what spares the places of a store keeps its bank;
* `Store.Holds.load`, `Store.Holds.save`, `Store.Holds.clear`: **loading tells
  the bank, saving replaces it and clearing makes it zero**, without errors.
-/
import RegisterMachine.Proofs.FileSystem.Operations
import RegisterMachine.Proofs.Instruction.Meaning
import RegisterMachine.Proofs.Store.Slot
import RegisterMachine.Store

namespace RegisterMachine.Store

open FileSystem (Safe Spares Made Confined)

/-- The places of a store: the directories on the way to its own and this one
itself, the files of the registers, and the files still to be moved. -/
def Guarded (loc p : Location) : Prop :=
  p ∈ Path.prefixes loc
    ∨ ∃ i : Nat, i < Register.count ∧ (p = Slot.place loc i ∨ p = Slot.scratchPlace loc i)

/-- The files of a store can be read and replaced: no failure is due, the file
held open is none of them, the directory is there or can be made, the file of a
register is missing or has the size of a word, and no directory stands where it
is written first. -/
structure Orderly (loc : Location) (fs : FileSystem) : Prop where
  safe : fs.Safe (Guarded loc)
  way : ∀ p ∈ Path.prefixes loc, fs.file? p = none
  slot : ∀ i : Nat, i < Register.count → fs.get? (Slot.place loc i) = none
    ∨ ∃ m c, fs.get? (Slot.place loc i) = some (.file m c) ∧ c.length = Slot.size
  scratch : ∀ i : Nat, i < Register.count → fs.get? (Slot.scratchPlace loc i) ≠ some .directory

/-- The file of a register is missing or has the size of a word. -/
def Whole (loc : Location) (fs : FileSystem) (i : Nat) : Prop :=
  fs.get? (Slot.place loc i) = none
    ∨ ∃ m c, fs.get? (Slot.place loc i) = some (.file m c) ∧ c.length = Slot.size

/-- The files of a store can be read: no failure is due, no file is on the way to
the directory, and the files of the registers are whole. -/
structure Legible (loc : Location) (fs : FileSystem) : Prop where
  failures : fs.failures = []
  way : ∀ p ∈ Path.prefixes loc, fs.file? p = none
  slot : ∀ i : Nat, i < Register.count → Whole loc fs i

/-- The word of a register: what its file stands for if it can be reached, and
zero otherwise. -/
def word (loc : Location) (fs : FileSystem) (i : Nat) : Word :=
  match fs.obstacle? (Slot.place loc i), fs.file? (Slot.place loc i) with
  | none, some (_, c) => (Slot.decode c).toOption.getD 0#32
  | _, _ => 0#32

/-- The bank that the files of a store stand for. -/
def bank (loc : Location) (fs : FileSystem) : Bank :=
  Bank.ofList (registers.map (word loc fs))

/-- The store at `loc` is orderly and its files stand for `b`. -/
structure Holds (loc : Location) (b : Bank) (fs : FileSystem) : Prop where
  orderly : Orderly loc fs
  bank_eq : bank loc fs = b

variable {loc : Location} {fs fs' : FileSystem} {d : Bytes} {b b' : Bank} {i j : Nat}

lemma guarded_of_mem {p : Location} (h : p ∈ Path.prefixes loc) : Guarded loc p :=
  .inl h

lemma guarded_place (h : i < Register.count) : Guarded loc (Slot.place loc i) :=
  .inr ⟨i, h, .inl rfl⟩

lemma guarded_scratchPlace (h : i < Register.count) : Guarded loc (Slot.scratchPlace loc i) :=
  .inr ⟨i, h, .inr rfl⟩

lemma Orderly.legible (h : Orderly loc fs) : Legible loc fs :=
  ⟨h.safe.failures, h.way, h.slot⟩

lemma Orderly.slot_ne_directory (h : Orderly loc fs) (hi : i < Register.count) :
    fs.get? (Slot.place loc i) ≠ some .directory := by
  obtain hnone | ⟨m, c, hget, -⟩ := h.slot i hi
  · simp [hnone]
  · simp [hget]

/-! ### The words of a store -/

lemma word_of_obstacle {errno : Errno} (h : fs.obstacle? (Slot.place loc i) = some errno) :
    word loc fs i = 0#32 := by
  rw [word, h]

lemma word_of_missing (h : fs.get? (Slot.place loc i) = none) : word loc fs i = 0#32 := by
  have hfile : fs.file? (Slot.place loc i) = none := by rw [FileSystem.file?, h]
  rw [word, hfile]
  split
  · rename_i hsome
    exact absurd hsome (by simp)
  · rfl

lemma word_of_file {m : Nat} {c : Bytes} {v : Word} (hmade : fs.Made loc)
    (hget : fs.get? (Slot.place loc i) = some (.file m c)) (hc : Slot.decode c = .ok v) :
    word loc fs i = v := by
  have hway : fs.obstacle? (Slot.place loc i) = none := FileSystem.obstacle?_of_made hmade _
  rw [word, hway, FileSystem.file?_of_get? hget]
  dsimp only
  rw [hc]
  rfl

/-- The word of a register depends on its file and on the way to it. -/
lemma word_congr (hway : ∀ p ∈ Path.prefixes loc, fs'.get? p = fs.get? p)
    (hslot : fs'.get? (Slot.place loc i) = fs.get? (Slot.place loc i)) :
    word loc fs' i = word loc fs i := by
  have hobstacle : fs'.obstacle? (Slot.place loc i) = fs.obstacle? (Slot.place loc i) := by
    apply FileSystem.obstacle?_congr
    rw [Slot.place, Path.parents_concat]
    exact fun p hp => congrArg _ (hway p hp)
  rw [word, word, hobstacle, FileSystem.file?, FileSystem.file?, hslot]

/-- The words of a bank that is given register by register. -/
lemma word_ofList_map (w : Nat → Word) (r : Fin 16) :
    (Bank.ofList (registers.map w)).word r = w r := by
  simp [Bank.ofList, Bank.word_eq_getElem, registers, Register.count]

lemma word_bank (loc : Location) (fs : FileSystem) (r : Fin 16) :
    (bank loc fs).word r = word loc fs r :=
  word_ofList_map (word loc fs) r

lemma value_eq_word (b : Bank) (r : Fin 16) : b.value r = b.word r := by
  rw [Bank.value_eq_word b (by simp)]
  rfl

/-- A bank is told by its words. -/
lemma bank_eq_of_words (h : ∀ i < Register.count, word loc fs i = b.value i) :
    bank loc fs = b := by
  apply Bank.ext_word
  intro r
  rw [word_bank, h r.val r.isLt, value_eq_word]

lemma Holds.word_eq (h : Holds loc b fs) (hi : i < Register.count) : word loc fs i = b.value i := by
  rw [← h.bank_eq]
  exact (word_bank loc fs ⟨i, hi⟩).symm.trans (value_eq_word _ ⟨i, hi⟩).symm

/-! ### Sparing a store -/

/-- What spares the places of a store keeps it legible. -/
lemma Legible.spares (h : Legible loc fs) (hs : Spares (Guarded loc) fs fs') :
    Legible loc fs' where
  failures := hs.safe.failures
  way := by
    intro p hp
    rw [FileSystem.file?, hs.get?_eq p (guarded_of_mem hp)]
    exact h.way p hp
  slot := by
    intro i hi
    rw [Whole, hs.get?_eq _ (guarded_place hi)]
    exact h.slot i hi

/-- What spares the places of a store keeps it orderly. -/
lemma Orderly.spares (h : Orderly loc fs) (hs : Spares (Guarded loc) fs fs') :
    Orderly loc fs' where
  safe := hs.safe
  way := (h.legible.spares hs).way
  slot := (h.legible.spares hs).slot
  scratch := by
    intro i hi
    rw [hs.get?_eq _ (guarded_scratchPlace hi)]
    exact h.scratch i hi

/-- What spares the places of a store keeps its bank. -/
lemma Holds.spares (h : Holds loc b fs) (hs : Spares (Guarded loc) fs fs') : Holds loc b fs' where
  orderly := h.orderly.spares hs
  bank_eq := by
    apply bank_eq_of_words
    intro i hi
    rw [word_congr (fun p hp => hs.get?_eq p (guarded_of_mem hp))
      (hs.get?_eq _ (guarded_place hi)), h.word_eq hi]

/-! ### Loading -/

/-- The file of a register is found and holds a word, or it is missing and stands
for zero. -/
lemma locate_path (h : Legible loc fs) (hd : Path.resolve d = loc) (hi : i < Register.count) :
    (∃ m c v, fs.Made loc ∧ fs.get? (Slot.place loc i) = some (.file m c)
        ∧ Slot.decode c = .ok v ∧ fs.locate (Slot.path d i) = .ok (.file m c))
      ∨ (word loc fs i = 0#32 ∧ fs.locate (Slot.path d i) = .error .notFound) := by
  have hpath : Path.resolve (Slot.path d i) = Slot.place loc i := by
    rw [Slot.resolve_path, hd]
  have hne := Slot.path_ne_nil d i
  by_cases hmade : fs.Made loc
  · have hway : fs.obstacle? (Slot.place loc i) = none := FileSystem.obstacle?_of_made hmade _
    obtain hnone | ⟨m, c, hget, hlength⟩ := h.slot i hi
    · exact .inr ⟨word_of_missing hnone,
        FileSystem.locate_of_missing hne (by rw [hpath, hway]) (by rw [hpath, hnone])⟩
    · obtain ⟨v, hv⟩ := Slot.exists_decode hlength
      exact .inl ⟨m, c, v, hmade, hget, hv,
        FileSystem.locate_of_get? hne (by rw [hpath, hway]) (by rw [hpath, hget])⟩
  · have hway : fs.obstacle? (Slot.place loc i) = some .notFound :=
      FileSystem.obstacle?_of_not_made h.way hmade _
    exact .inr ⟨word_of_obstacle hway, FileSystem.locate_of_obstacle hne (by rw [hpath, hway])⟩

/-- Reading a register of a legible store gives its word. -/
lemma read_slot (h : Legible loc fs) (hd : Path.resolve d = loc) (hi : i < Register.count) :
    Slot.read d i fs = (.ok (word loc fs i), fs) := by
  obtain ⟨m, c, v, hmade, hget, hv, hlocate⟩ | ⟨hword, hlocate⟩ := locate_path h hd hi
  · rw [Slot.read, FileSystem.read_eq h.failures, hlocate]
    dsimp only
    rw [hv, word_of_file hmade hget hv]
  · rw [Slot.read, FileSystem.read_eq h.failures, hlocate, hword]
    rfl

/-- Registers that can all be read are read one after the other. -/
lemma readAll_of_ok {is : List Nat} {w : Nat → Word}
    (h : ∀ i ∈ is, Slot.read d i fs = (.ok (w i), fs)) :
    readAll d is fs = ((is.map w, []), fs) := by
  induction is with
  | nil => rfl
  | cons i is ih =>
      rw [readAll, h i (by simp)]
      dsimp only
      rw [ih fun j hj => h j (by simp [hj])]
      rfl

lemma readAll_eq (h : Legible loc fs) (hd : Path.resolve d = loc) {is : List Nat}
    (his : ∀ i ∈ is, i < Register.count) :
    readAll d is fs = ((is.map (word loc fs), []), fs) :=
  readAll_of_ok fun i hi => read_slot h hd (his i hi)

lemma lt_of_mem_registers (h : i ∈ registers) : i < Register.count :=
  List.mem_range.mp h

/-- Loading a legible store tells the bank that its files stand for. -/
lemma Legible.load (h : Legible loc fs) (hd : Path.resolve d = loc) :
    Store.load d fs = ((bank loc fs, []), fs) := by
  rw [Store.load, readAll_eq h hd fun i => lt_of_mem_registers]
  rfl

/-- **Loading an orderly store tells its bank** and changes nothing. -/
theorem Holds.load (h : Holds loc b fs) (hd : Path.resolve d = loc) :
    Store.load d fs = ((b, []), fs) := by
  rw [h.orderly.legible.load hd, h.bank_eq]

/-! ### Changing single files -/

/-- Entries differ at most at the file of one register and where it is written
first. -/
abbrev Touches (loc : Location) (i : Nat) (fs fs' : FileSystem) : Prop :=
  Confined [Slot.place loc i, Slot.scratchPlace loc i] fs fs'

lemma get?_way (h : Touches loc i fs fs') {p : Location} (hp : p ∈ Path.prefixes loc) :
    fs'.get? p = fs.get? p := by
  apply h.get?_eq
  rw [List.mem_pair]
  rintro (rfl | rfl)
  · exact Path.concat_not_mem_prefixes loc _ hp
  · exact Path.concat_not_mem_prefixes loc _ hp

lemma get?_slot (h : Touches loc i fs fs') (hj : j ≠ i) :
    fs'.get? (Slot.place loc j) = fs.get? (Slot.place loc j) := by
  apply h.get?_eq
  rw [List.mem_pair]
  rintro (hplace | hplace)
  · exact hj (by exact_mod_cast Slot.place_injective hplace)
  · exact Slot.place_ne_scratchPlace loc j i hplace

lemma get?_scratch (h : Touches loc i fs fs') (hj : j ≠ i) :
    fs'.get? (Slot.scratchPlace loc j) = fs.get? (Slot.scratchPlace loc j) := by
  apply h.get?_eq
  rw [List.mem_pair]
  rintro (hplace | hplace)
  · exact Slot.place_ne_scratchPlace loc i j hplace.symm
  · exact hj (by exact_mod_cast Slot.scratchPlace_injective hplace)

lemma made_of_touches (h : Touches loc i fs fs') (hmade : fs.Made loc) : fs'.Made loc := by
  intro p hp
  rw [get?_way h hp, hmade p hp]

/-- The words of other registers stay. -/
lemma word_of_touches (h : Touches loc i fs fs') (hj : j ≠ i) : word loc fs' j = word loc fs j :=
  word_congr (fun _ hp => get?_way h hp) (get?_slot h hj)

/-- A store stays orderly when a single file of it is put in order. -/
lemma Orderly.touches (h : Orderly loc fs) (ht : Touches loc i fs fs')
    (hslot : fs'.get? (Slot.place loc i) = none
      ∨ ∃ m c, fs'.get? (Slot.place loc i) = some (.file m c) ∧ c.length = Slot.size)
    (hscratch : fs'.get? (Slot.scratchPlace loc i) ≠ some .directory) : Orderly loc fs' where
  safe := ⟨ht.failures.trans h.safe.failures, by rw [ht.appender]; exact h.safe.appender⟩
  way := by
    intro p hp
    rw [FileSystem.file?, get?_way ht hp]
    exact h.way p hp
  slot := by
    intro j hj
    by_cases hji : j = i
    · rw [hji]
      exact hslot
    · rw [get?_slot ht hji]
      exact h.slot j hj
  scratch := by
    intro j hj
    by_cases hji : j = i
    · rw [hji]
      exact hscratch
    · rw [get?_scratch ht hji]
      exact h.scratch j hj

/-- Writing a register of a store whose directory is there replaces its word. -/
lemma exists_write_slot (h : Orderly loc fs) (hmade : fs.Made loc) (hd : Path.resolve d = loc)
    (hi : i < Register.count) (v : Word) :
    ∃ fs', Slot.write d i v fs = (.ok (), fs') ∧ Touches loc i fs fs' ∧ Orderly loc fs'
      ∧ word loc fs' i = v := by
  have hscratch : Path.resolve (Slot.scratch d i) = Slot.scratchPlace loc i := by
    rw [Slot.resolve_scratch, hd]
  have hpath : Path.resolve (Slot.path d i) = Slot.place loc i := by
    rw [Slot.resolve_path, hd]
  have hne : Slot.place loc i ≠ Slot.scratchPlace loc i := Slot.place_ne_scratchPlace loc i i
  have hwritten := FileSystem.exists_write h.safe.failures (Slot.scratch_ne_nil d i)
    (by rw [hscratch]; exact FileSystem.obstacle?_of_made hmade _)
    (by rw [hscratch]; exact h.scratch i hi) Slot.mode (Slot.encode v)
  rw [hscratch] at hwritten
  obtain ⟨m, fs₁, hwrite, hconfined₁, hget₁⟩ := hwritten
  have htouches₁ : Touches loc i fs fs₁ := hconfined₁.mono (by simp)
  have hslot₁ : fs₁.get? (Slot.place loc i) = fs.get? (Slot.place loc i) :=
    hconfined₁.get?_eq _ (by simpa using hne)
  have hmade₁ := made_of_touches htouches₁ hmade
  have horderly₁ : Orderly loc fs₁ :=
    h.touches htouches₁ (by rw [hslot₁]; exact h.slot i hi) (by simp [hget₁])
  have hmoved := FileSystem.exists_rename horderly₁.safe.failures
    (FileSystem.locate_of_get? (Slot.scratch_ne_nil d i)
      (by rw [hscratch]; exact FileSystem.obstacle?_of_made hmade₁ _) (by rw [hscratch, hget₁]))
    (by rw [hpath]; exact FileSystem.obstacle?_of_made hmade₁ _)
    (by rw [hpath]; exact horderly₁.slot_ne_directory hi)
    (by simp [hscratch, Slot.scratchPlace]) (by rw [hscratch, hpath]; exact hne.symm)
    (by rw [hscratch, hpath, FileSystem.map_follow_eq horderly₁.safe (guarded_scratchPlace hi)
      (guarded_place hi)])
  rw [hscratch, hpath] at hmoved
  obtain ⟨fs₂, hrename, hconfined₂, hslot₂, hscratch₂⟩ := hmoved
  have htouches : Touches loc i fs fs₂ := htouches₁.trans (hconfined₂.mono (by simp))
  refine ⟨fs₂, ?_, htouches, ?_, ?_⟩
  · rw [Slot.write, hwrite]
    dsimp only
    rw [hrename]
  · exact h.touches htouches (.inr ⟨m, _, hslot₂, Slot.length_encode v⟩) (by simp [hscratch₂])
  · exact word_of_file (made_of_touches htouches hmade) hslot₂ (Slot.decode_encode v)

/-- Removing the file of a register makes its word zero.  Only a missing file is
an error. -/
lemma exists_remove_slot (h : Orderly loc fs) (hd : Path.resolve d = loc)
    (hi : i < Register.count) :
    ∃ fs', (fs.remove (Slot.path d i) = (.ok (), fs')
        ∨ fs.remove (Slot.path d i) = (.error ⟨.remove, Slot.path d i, none, .notFound⟩, fs'))
      ∧ Touches loc i fs fs' ∧ Orderly loc fs' ∧ word loc fs' i = 0#32 := by
  have hpath : Path.resolve (Slot.path d i) = Slot.place loc i := by
    rw [Slot.resolve_path, hd]
  obtain ⟨m, c, v, hmade, -, -, hlocate⟩ | ⟨hword, hlocate⟩ := locate_path h.legible hd hi
  · have hremoved := FileSystem.exists_remove h.safe.failures hlocate
      (by simp [hpath, Slot.place])
      (by rw [hpath, FileSystem.map_detach_eq h.safe (guarded_place hi)])
    rw [hpath] at hremoved
    obtain ⟨fs', hremove, hconfined, hget⟩ := hremoved
    have hscratch : fs'.get? (Slot.scratchPlace loc i) = fs.get? (Slot.scratchPlace loc i) :=
      hconfined.get?_eq _ (by simpa using (Slot.place_ne_scratchPlace loc i i).symm)
    have htouches : Touches loc i fs fs' := hconfined.mono (by simp)
    exact ⟨fs', .inl hremove, htouches,
      h.touches htouches (.inl hget) (by rw [hscratch]; exact h.scratch i hi),
      word_of_missing hget⟩
  · exact ⟨fs, .inr (FileSystem.remove_error h.safe.failures hlocate), ⟨rfl, rfl, fun _ _ => rfl⟩,
      h, hword⟩

/-! ### Saving and clearing -/

/-- The words of the given registers have become those of `b`, and the others are
as they were. -/
structure Rewrites (loc : Location) (b : Bank) (is : List Nat) (fs fs' : FileSystem) : Prop where
  orderly : Orderly loc fs'
  word_eq : ∀ i ∈ is, word loc fs' i = b.value i
  other : ∀ j, j ∉ is → word loc fs' j = word loc fs j

variable {is : List Nat}

lemma Rewrites.nil (h : Orderly loc fs) : Rewrites loc b [] fs fs :=
  ⟨h, by simp, fun _ _ => rfl⟩

lemma Rewrites.cons {fs₁ : FileSystem} (ht : Touches loc i fs fs₁)
    (hword : word loc fs₁ i = b.value i) (h : Rewrites loc b is fs₁ fs') :
    Rewrites loc b (i :: is) fs fs' where
  orderly := h.orderly
  word_eq := by
    intro j hj
    by_cases hrest : j ∈ is
    · exact h.word_eq j hrest
    · obtain rfl : j = i := (List.mem_cons.mp hj).resolve_right hrest
      rw [h.other j hrest, hword]
  other := by
    intro j hj
    rw [List.mem_cons, not_or] at hj
    rw [h.other j hj.2, word_of_touches ht hj.1]

/-- When all registers have been rewritten, the store holds a new bank. -/
lemma Rewrites.holds (h : Rewrites loc b registers fs fs') : Holds loc b fs' :=
  ⟨h.orderly, bank_eq_of_words fun i hi => h.word_eq i (List.mem_range.mpr hi)⟩

lemma exists_writeAll (h : Orderly loc fs) (hmade : fs.Made loc) (hd : Path.resolve d = loc)
    (b : Bank) (his : ∀ i ∈ is, i < Register.count) :
    ∃ fs', writeAll d b is fs = ([], fs') ∧ Rewrites loc b is fs fs' := by
  induction is generalizing fs with
  | nil => exact ⟨fs, rfl, .nil h⟩
  | cons i is ih =>
      obtain ⟨fs₁, hwrite, htouches, horderly, hword⟩ :=
        exists_write_slot h hmade hd (his i (by simp)) (b.value i)
      obtain ⟨fs', hrest, hrewrites⟩ := ih horderly (made_of_touches htouches hmade)
        fun j hj => his j (by simp [hj])
      refine ⟨fs', ?_, .cons htouches hword hrewrites⟩
      rw [Bank.value, Int.toNat_natCast] at hwrite
      rw [writeAll, hwrite]
      exact hrest

lemma exists_removeAll (h : Orderly loc fs) (hd : Path.resolve d = loc)
    (his : ∀ i ∈ is, i < Register.count) :
    ∃ fs', removeAll d is fs = ([], fs') ∧ Rewrites loc .zero is fs fs' := by
  induction is generalizing fs with
  | nil => exact ⟨fs, rfl, .nil h⟩
  | cons i is ih =>
      obtain ⟨fs₁, hremove, htouches, horderly, hword⟩ := exists_remove_slot h hd (his i (by simp))
      obtain ⟨fs', hrest, hrewrites⟩ := ih horderly fun j hj => his j (by simp [hj])
      refine ⟨fs', ?_, .cons htouches (hword.trans (Bank.value_zero i).symm) hrewrites⟩
      rw [removeAll]
      obtain hremove | hremove := hremove
      · rw [hremove]
        exact hrest
      · rw [hremove]
        dsimp only
        rw [hrest]
        rfl

/-- Making the directory of a store keeps it orderly. -/
lemma Orderly.fill (h : Orderly loc fs) : Orderly loc (fs.fill (Path.prefixes loc)) := by
  have hfill := FileSystem.confined_fill fs (Path.prefixes loc)
  have hentry (n : Bytes) : (fs.fill (Path.prefixes loc)).get? (loc ++ [n])
      = fs.get? (loc ++ [n]) :=
    hfill.get?_eq _ (Path.concat_not_mem_prefixes loc n)
  refine ⟨⟨hfill.failures.trans h.safe.failures, ?_⟩, ?_, ?_, ?_⟩
  · rw [hfill.appender]
    exact h.safe.appender
  · intro p hp
    rw [FileSystem.file?, FileSystem.made_fill h.way p hp]
  · intro i hi
    rw [Slot.place, hentry]
    exact h.slot i hi
  · intro i hi
    rw [Slot.scratchPlace, hentry]
    exact h.scratch i hi

/-- **Saving a bank replaces the one that the store holds**, without errors. -/
theorem Holds.save (h : Holds loc b fs) (hne : d ≠ []) (hd : Path.resolve d = loc) (b' : Bank) :
    ∃ fs', Store.save d b' fs = (.tried [], fs') ∧ Holds loc b' fs' := by
  have hdirectory := FileSystem.makeDirectories_eq h.orderly.safe.failures hne
    (by rw [hd]; exact h.orderly.way)
  rw [hd] at hdirectory
  obtain ⟨fs', hwrite, hrewrites⟩ := exists_writeAll h.orderly.fill
    (FileSystem.made_fill h.orderly.way) hd b' fun i => lt_of_mem_registers
  refine ⟨fs', ?_, hrewrites.holds⟩
  rw [Store.save, hdirectory]
  dsimp only
  rw [hwrite]

/-- **Clearing a store makes its bank zero**, without errors. -/
theorem Holds.clear (h : Holds loc b fs) (hd : Path.resolve d = loc) :
    ∃ fs', Store.clear d fs = ([], fs') ∧ Holds loc .zero fs' := by
  obtain ⟨fs', hremove, hrewrites⟩ := exists_removeAll h.orderly hd fun i => lt_of_mem_registers
  exact ⟨fs', hremove, hrewrites.holds⟩

end RegisterMachine.Store
