/-
Stores that can be loaded.

* `FileSystem.obstacle?_of_file`: a file on the way to a place is the first thing in the way;
* `Store.Unblocked`: no directory stands where a register is written first, and
  `Store.unblocked_of_save`: or a bank cannot be saved;
* `Store.Loadable`: no failure is due, no file is held open, and the bank can be loaded;
* `Store.Loadable.legible`: its files are whole and nothing is in the way to them;
* `Store.Loadable.holds`: **such a store holds what is loaded from it**, if it is not blocked.
-/
import Mathlib.Data.List.Induction
import RegisterMachine.Proofs.Store.Files

namespace RegisterMachine

variable {fs : FileSystem} {d : Bytes} {loc p : Location} {b : Bank} {i : Nat} {v : Word}

/-- A file on the way to a place is the first thing in the way to it, since it stands inside
directories itself. -/
lemma FileSystem.obstacle?_of_file (h : fs.Rooted) (hp : p ∈ Path.prefixes loc)
    (hfile : fs.file? p ≠ none) (n : Bytes) :
    fs.obstacle? (loc ++ [n]) = some .notDirectory := by
  rw [obstacle?, Path.parents_concat]
  -- The induction goes along the way, from its end.
  induction loc using List.reverseRecOn with
  | nil => exact absurd hp (by simp [Path.prefixes])
  | append_singleton loc m ih =>
      rw [Path.prefixes_concat, List.mem_append, List.mem_singleton] at hp
      rw [Path.prefixes_concat, List.findSome?_append]
      by_cases hbefore : p ∈ Path.prefixes loc
      · rw [ih hbefore]
        rfl
      · obtain rfl := hp.resolve_left hbefore
        obtain ⟨mode, c, hget⟩ : ∃ mode c, fs.get? (loc ++ [m]) = some (.file mode c) := by
          rw [file?] at hfile
          split at hfile
          · exact ⟨_, _, ‹_›⟩
          · exact absurd rfl hfile
        have hclear : fs.obstacle? (loc ++ [m]) = none :=
          obstacle?_eq_none_iff.mpr (h _ (by simp [hget]))
        rw [obstacle?, Path.parents_concat] at hclear
        rw [hclear, List.findSome?_singleton, hget]
        rfl

/-- No directory stands where a file could be written. -/
lemma FileSystem.ne_directory_of_write {mode : Nat} {path content : Bytes}
    (h : (fs.write mode path content).1 = .ok ()) :
    fs.get? (Path.resolve path) ≠ some .directory := by
  rw [write] at h
  obtain ⟨errno, fs', -, heq⟩ | heq :=
    attempt_cases .openToWrite path none (prepare mode false path) fs
  · rw [heq] at h
    exact absurd h (by simp)
  · obtain ⟨errno, herror⟩ | ⟨hget, -⟩ := emptied_cases fs mode path
    · rw [heq, herror] at h
      exact absurd h (by simp [Except.mapError])
    · exact hget

lemma Slot.ne_directory_of_write (h : (write d i v fs).1 = .ok ()) :
    fs.get? (scratchPlace (Path.resolve d) i) ≠ some .directory := by
  have hwritten := @FileSystem.ne_directory_of_write fs mode (scratch d i) (encode v)
  rw [resolve_scratch] at hwritten
  apply hwritten
  rw [write] at h
  generalize fs.write mode (scratch d i) (encode v) = x at h ⊢
  obtain ⟨r, fs₁⟩ := x
  cases r with
  | error e => exact absurd h (by simp)
  | ok => rfl

namespace Store

/-- No directory stands where a register is written first. -/
def Unblocked (loc : Location) (fs : FileSystem) : Prop :=
  ∀ i : Nat, i < Register.count → fs.get? (Slot.scratchPlace loc i) ≠ some .directory

/-- Where a bank could be saved, nothing stood in the way of a register. -/
lemma unblocked_of_save (h : (save d b fs).1.errors = []) : Unblocked (Path.resolve d) fs := by
  intro i hi
  obtain ⟨made, -, hwriting, hsame⟩ := exists_writing h hi
  rw [← hsame]
  exact Slot.ne_directory_of_write hwriting

/-- No failure is due and no file is held open, every entry stands inside a directory, and
the bank in the directory `d` can be loaded. -/
structure Loadable (d : Bytes) (fs : FileSystem) : Prop where
  failures : fs.failures = []
  closed : fs.appender = none
  rooted : fs.Rooted
  loads : (load d fs).1.2 = []

namespace Loadable

lemma way (h : Loadable d fs) (hp : p ∈ Path.prefixes (Path.resolve d)) : fs.file? p = none := by
  by_contra hfile
  have herrors : (readAll d registers fs).1.2 = [] := h.loads
  obtain ⟨v, hv⟩ := exists_read_of_readAll h.failures herrors
    (List.mem_range.mpr (by decide : 0 < Register.count))
  have hlocate : fs.locate (Slot.path d (0 : Nat)) = .error .notDirectory := by
    refine FileSystem.locate_of_obstacle (Slot.path_ne_nil d _) ?_
    rw [Slot.resolve_path]
    exact FileSystem.obstacle?_of_file h.rooted hp hfile _
  rw [Slot.read, FileSystem.read_eq h.failures, hlocate] at hv
  exact absurd hv (by simp)

lemma legible (h : Loadable d fs) : Legible (Path.resolve d) fs :=
  ⟨h.failures, fun _ => h.way, fun _ => whole_of_load h.failures h.rooted h.loads⟩

lemma load_eq (h : Loadable d fs) : load d fs = ((bank (Path.resolve d) fs, []), fs) :=
  h.legible.load rfl

lemma safe (h : Loadable d fs) : fs.Safe (Guarded loc) :=
  ⟨h.failures, by simp [h.closed]⟩

/-- **A store holds what is loaded from it**, if no directory stands where a register is
written first. -/
theorem holds (h : Loadable d fs) (hscratch : Unblocked (Path.resolve d) fs) :
    Holds (Path.resolve d) (load d fs).1.1 fs := by
  refine ⟨⟨h.safe, h.legible.way, h.legible.slot, hscratch⟩, ?_⟩
  rw [h.load_eq]

end Loadable

end Store

end RegisterMachine
