/-
Which entries operations change while a file is held open, whatever failures are due.

* `FileSystem.AppendsTo.perform`: the file held open stays where it is, or goes to a
  place that a move is about;
* `FileSystem.AppendsTo.logged_run`: **moves at certain places change entries there
  only**, and neither the file held open nor what is added to it leaves them;
* `FileSystem.Grown`: besides, missing directories may have been made;
* `FileSystem.AppendsTo.grown_save`, `FileSystem.AppendsTo.logged_clear`: saving and
  clearing a store;
* `FileSystem.AppendsTo.save`: where saving a store may move the file held open.
-/
import RegisterMachine.Proofs.FileSystem.Agreement
import RegisterMachine.Proofs.Store.Saving

namespace RegisterMachine

variable {L : Location → Prop} {fs fs' fs'' : FileSystem} {ds : List Location}

namespace FileSystem

/-! ### The file held open -/

lemma AppendsTo.of_appender_eq (h : fs.AppendsTo L) (heq : fs'.appender = fs.appender) :
    fs'.AppendsTo L := by
  rw [AppendsTo, heq]
  exact h

lemma AppendsTo.attempt {α : Type} (h : fs.AppendsTo L)
    {action : FileSystem → Except Errno α × FileSystem} (haction : (action fs).2.AppendsTo L)
    (op : Operation) (path : Bytes) (target : Option Bytes) :
    (attempt op path target action fs).2.AppendsTo L := by
  obtain ⟨errno, fs', hspent, heq⟩ | heq := attempt_cases op path target action fs
  · rw [heq]
    exact h.of_appender_eq hspent.appender_eq
  · rw [heq]
    exact haction

/-- A file held open that goes along with a move was at the source of it, and is at the
target. -/
lemma AppendsTo.follow (h : fs.AppendsTo L) {source target : Location}
    (hmove : L source → L target) :
    ∀ a ∈ fs.appender.map (FileSystem.follow source target), ∀ p ∈ a.place, L p := by
  intro a ha p hp
  obtain ⟨a₀, ha₀, rfl⟩ := Option.map_eq_some_iff.mp ha
  rw [FileSystem.follow, detach] at hp
  split_ifs at hp with hsource
  · exact Option.some.inj hp ▸ hmove (h a₀ ha₀ source hsource)
  · exact absurd hp (by simp)
  · exact h a₀ ha₀ p hp

lemma AppendsTo.detach (h : fs.AppendsTo L) (loc : Location) :
    ∀ a ∈ fs.appender.map (FileSystem.detach loc), ∀ p ∈ a.place, L p := by
  intro a ha p hp
  obtain ⟨a₀, ha₀, rfl⟩ := Option.map_eq_some_iff.mp ha
  rw [FileSystem.detach] at hp
  split_ifs at hp
  · exact absurd hp (by simp)
  · exact h a₀ ha₀ p hp

lemma AppendsTo.makeDirectories (h : fs.AppendsTo L) (path : Bytes) :
    (fs.makeDirectories path).2.AppendsTo L := by
  apply h.attempt
  dsimp only
  split_ifs
  · exact h
  · exact h
  · exact h.of_appender_eq (confined_fill fs _).appender

lemma AppendsTo.rename (h : fs.AppendsTo L) {source target : Bytes}
    (hmove : L (Path.resolve source) → L (Path.resolve target)) :
    (fs.rename source target).2.AppendsTo L := by
  apply h.attempt
  dsimp only
  cases fs.locate source with
  | error errno => exact h
  | ok e =>
      cases e with
      | directory => exact h
      | file m c =>
          dsimp only
          split
          · exact h
          · exact h
          · exact h.follow hmove

lemma AppendsTo.remove (h : fs.AppendsTo L) (path : Bytes) :
    (fs.remove path).2.AppendsTo L := by
  apply h.attempt
  dsimp only
  cases fs.locate path with
  | error errno => exact h
  | ok e =>
      cases e with
      | directory =>
          dsimp only
          split_ifs
          · exact h
          · exact h
      | file m c => exact h.detach _

/-- Writing a file leaves the one held open where it is. -/
lemma AppendsTo.write (h : fs.AppendsTo L) (mode : Nat) (path content : Bytes) :
    (fs.write mode path content).2.AppendsTo L := by
  have hready : (fs.prepare mode false path).2.AppendsTo L := by
    obtain ⟨errno, hprepare⟩ | ⟨-, hprepare | ⟨e, hprepare⟩⟩ := prepare_cases fs mode false path
    · rw [hprepare]
      exact h
    · rw [hprepare]
      exact h
    · rw [hprepare]
      exact h
  have hopened := h.attempt hready .openToWrite path none
  rw [FileSystem.write]
  generalize FileSystem.attempt .openToWrite path none (prepare mode false path) fs = x at hopened ⊢
  obtain ⟨r, fs₁⟩ := x
  cases r with
  | error e => exact hopened
  | ok loc => exact hopened.attempt (hopened.of_appender_eq (appender_setContent fs₁ _ _)) _ _ _

/-- The file held open stays where it is, or goes to a place that a move is about. -/
lemma AppendsTo.perform (h : fs.AppendsTo L) {m : Move} (hm : ∀ p ∈ m.places, L p) :
    (m.perform fs).2.AppendsTo L := by
  cases m with
  | makeDirectories path => exact h.makeDirectories path
  | create mode path =>
      refine (h.logged_attempt (h.logged_prepare ?_ mode false) .openToWrite path none).appendsTo
      exact hm _ (by simp [Move.places])
  | fill path content =>
      refine h.attempt ?_ .write path none
      exact h.of_appender_eq (appender_setContent fs _ content)
  | rename source target => exact h.rename fun _ => hm _ (by simp [Move.places])
  | remove path => exact h.remove path

/-- **Moves at certain places change entries there only.** -/
theorem AppendsTo.logged_run {α : Type} {x : Script α} (h : fs.AppendsTo L)
    (hx : x.Touches L) : Logged L fs (x.run fs).2 := by
  induction x generalizing fs with
  | done a => exact h.logged_refl
  | move m next ih =>
      have hm : Logged L fs (m.perform fs).2 :=
        ⟨(m.within_perform fs).mono hx.1, h.perform hx.1⟩
      exact hm.trans (ih _ hm.appendsTo (hx.2 _))

lemma AppendsTo.logged_write (h : fs.AppendsTo L) {path : Bytes} (hpath : L (Path.resolve path))
    (mode : Nat) (content : Bytes) : Logged L fs (fs.write mode path content).2 := by
  rw [← Script.run_writeFile]
  exact h.logged_run ((Script.touches_writeFile mode path content).mono fun p hp => hp ▸ hpath)

lemma AppendsTo.logged_remove (h : fs.AppendsTo L) {path : Bytes}
    (hpath : L (Path.resolve path)) : Logged L fs (fs.remove path).2 := by
  refine ⟨((Move.remove path).within_perform fs).mono fun p hp => ?_, h.remove path⟩
  rw [List.mem_singleton.mp hp]
  exact hpath

/-! ### Directories that are made -/

/-- Entries differ at most at places with `L`, where the file held open is, and in that
missing ones of the directories `ds` have been made. -/
structure Grown (L : Location → Prop) (ds : List Location) (fs fs' : FileSystem) : Prop where
  entries : ∀ p, ¬ L p → fs'.get? p = fs.get? p
    ∨ p ∈ ds ∧ fs.get? p = none ∧ fs'.get? p = some .directory
  appendsTo : fs'.AppendsTo L

lemma Logged.grown (h : Logged L fs fs') (ds : List Location) : Grown L ds fs fs' :=
  ⟨fun p hp => .inl (h.within p hp), h.appendsTo⟩

lemma AppendsTo.grown_refl (h : fs.AppendsTo L) (ds : List Location) : Grown L ds fs fs :=
  h.logged_refl.grown ds

lemma Grown.trans (h : Grown L ds fs fs') (h' : Grown L ds fs' fs'') : Grown L ds fs fs'' := by
  refine ⟨fun p hp => ?_, h'.appendsTo⟩
  obtain heq | ⟨hmem, hnone, hmade⟩ := h.entries p hp
  · rw [← heq]
    exact h'.entries p hp
  · obtain heq' | ⟨-, hnone', -⟩ := h'.entries p hp
    · exact .inr ⟨hmem, hnone, heq'.trans hmade⟩
    · exact absurd (hmade.symm.trans hnone') (by simp)

/-- An entry that has changed is at a place with `L` or a directory that was made. -/
lemma Grown.cases_of_ne (h : Grown L ds fs fs') {p : Location} (hp : fs'.get? p ≠ fs.get? p) :
    L p ∨ p ∈ ds ∧ fs.get? p = none ∧ fs'.get? p = some .directory := by
  by_cases hL : L p
  · exact .inl hL
  · exact .inr ((h.entries p hL).resolve_left hp)

lemma AppendsTo.grown_makeDirectories (h : fs.AppendsTo L) (path : Bytes) :
    Grown L (Path.prefixes (Path.resolve path)) fs (fs.makeDirectories path).2 := by
  refine ⟨fun p _ => ?_, h.makeDirectories path⟩
  obtain ⟨e, fs', hspent, heq⟩ | ⟨fs', ⟨-, rfl⟩, heq⟩ :=
    (Move.makeDirectories path).perform_cases fs
  · rw [show fs.makeDirectories path = _ from heq]
    exact .inl (hspent.get?_eq p)
  · rw [show fs.makeDirectories path = _ from heq, get?_fill]
    split_ifs with hnew
    · exact .inr ⟨hnew.1, hnew.2, rfl⟩
    · exact .inl rfl

/-! ### Stores -/

variable {d : Bytes}

/-- The places of the registers at `loc` and those beside them are among `L`. -/
def Covers (L : Location → Prop) (loc : Location) : Prop :=
  ∀ i ∈ Store.registers, ∀ p, Slot.Own loc i p → L p

/-- Saving changes the files of the registers and those beside them, and makes the
missing directories on the way. -/
theorem AppendsTo.grown_save (h : fs.AppendsTo L) (hL : Covers L (Path.resolve d)) (b : Bank) :
    Grown L (Path.prefixes (Path.resolve d)) fs (Store.save d b fs).2 := by
  have hmade := h.grown_makeDirectories d
  rw [Store.save]
  generalize fs.makeDirectories d = x at hmade ⊢
  obtain ⟨r, made⟩ := x
  cases r with
  | error e => exact hmade
  | ok =>
      have hwritten : Logged L made (Store.writeAll d b Store.registers made).2 := by
        rw [← Store.run_writeAllScript]
        refine hmade.appendsTo.logged_run ((Store.touches_writeAllScript d b _).mono ?_)
        rintro p ⟨i, hi, hp⟩
        exact hL i hi p hp
      exact hmade.trans (hwritten.grown _)

/-- With the place beside the file of a register, that of the file itself is among
`L`. -/
def Follows (L : Location → Prop) (loc : Location) : Prop :=
  ∀ i ∈ Store.registers, L (Slot.scratchPlace loc i) → L (Slot.place loc i)

/-- Writing a register moves the file held open at most if it was beside that of the
register. -/
lemma AppendsTo.writeSlot (h : fs.AppendsTo L) {i : Int}
    (hmove : L (Slot.scratchPlace (Path.resolve d) i) → L (Slot.place (Path.resolve d) i))
    (v : Word) : (Slot.write d i v fs).2.AppendsTo L := by
  rw [← Slot.resolve_scratch, ← Slot.resolve_path] at hmove
  have hwritten := h.write Slot.mode (Slot.scratch d i) (Slot.encode v)
  rw [Slot.write]
  generalize fs.write Slot.mode (Slot.scratch d i) (Slot.encode v) = x at hwritten ⊢
  obtain ⟨r, fs₁⟩ := x
  cases r with
  | error e => exact hwritten
  | ok =>
      have hmoved := hwritten.rename hmove
      dsimp only at hmoved ⊢
      generalize fs₁.rename (Slot.scratch d i) (Slot.path d i) = y at hmoved ⊢
      obtain ⟨r, fs₂⟩ := y
      cases r with
      | error e => exact hmoved.remove _
      | ok => exact hmoved

lemma AppendsTo.writeAll (h : fs.AppendsTo L) (b : Bank) {is : List Nat}
    (hL : ∀ i ∈ is, L (Slot.scratchPlace (Path.resolve d) (i : Nat)) →
      L (Slot.place (Path.resolve d) (i : Nat))) :
    (Store.writeAll d b is fs).2.AppendsTo L := by
  induction is generalizing fs with
  | nil => exact h
  | cons i is ih =>
      have hwritten := h.writeSlot (hL i (by simp)) (b.toList.getD i 0#32)
      have hrest (fs₁ : FileSystem) (h₁ : fs₁.AppendsTo L) :=
        @ih fs₁ h₁ fun j hj => hL j (by simp [hj])
      rw [Store.writeAll]
      generalize Slot.write d i (b.toList.getD i 0#32) fs = x at hwritten ⊢
      obtain ⟨r, fs₁⟩ := x
      cases r with
      | error e => exact hrest fs₁ hwritten
      | ok => exact hrest fs₁ hwritten

/-- Saving moves the file held open at most from beside the file of a register to that
file. -/
lemma AppendsTo.save (h : fs.AppendsTo L) (hL : Follows L (Path.resolve d)) (b : Bank) :
    (Store.save d b fs).2.AppendsTo L := by
  have hmade := h.makeDirectories d
  rw [Store.save]
  generalize fs.makeDirectories d = x at hmade ⊢
  obtain ⟨r, fs₁⟩ := x
  cases r with
  | error e => exact hmade
  | ok => exact hmade.writeAll b hL

lemma AppendsTo.logged_removeAll (h : fs.AppendsTo L) {is : List Nat}
    (hL : ∀ i ∈ is, L (Path.resolve (Slot.path d i))) :
    Logged L fs (Store.removeAll d is fs).2 := by
  induction is generalizing fs with
  | nil => exact h.logged_refl
  | cons i is ih =>
      have hremoved := h.logged_remove (hL i (by simp))
      have hrest (fs₁ : FileSystem) (h₁ : fs₁.AppendsTo L) :=
        @ih fs₁ h₁ fun j hj => hL j (by simp [hj])
      rw [Store.removeAll]
      generalize fs.remove (Slot.path d i) = x at hremoved ⊢
      obtain ⟨r, fs₁⟩ := x
      cases r with
      | error e => exact hremoved.trans (hrest fs₁ hremoved.appendsTo)
      | ok => exact hremoved.trans (hrest fs₁ hremoved.appendsTo)

/-- Clearing changes the files of the registers only. -/
theorem AppendsTo.logged_clear (h : fs.AppendsTo L)
    (hL : ∀ i ∈ Store.registers, L (Path.resolve (Slot.path d i))) :
    Logged L fs (Store.clear d fs).2 :=
  h.logged_removeAll hL

end FileSystem

end RegisterMachine
