/-
What stands beside the file of a register when it could not be written.

* `FileSystem.Clear.rename`: moving a file leaves the failures for other operations
  as they are;
* `Slot.get?_scratch_of_unmoved`: where the move into place has failed, the file
  beside it is removed, unless it cannot be reached;
* `Slot.leftover_of_failed_write`: **a register that could not be written leaves a
  new file beside its own just when the writing itself has failed**: where the file
  could not be opened none was made, and where it could not be moved it is removed.
-/
import RegisterMachine.Proofs.FileSystem.Failures
import RegisterMachine.Proofs.Store.Files

namespace RegisterMachine

variable {fs : FileSystem}

lemma FileSystem.Clear.rename {op : Operation} {path : Bytes} (h : fs.Clear op path)
    (hne : op ≠ .rename) (source target : Bytes) :
    (fs.rename source target).2.Clear op path := by
  apply h.attempt hne
  dsimp only
  split
  · rfl
  · rfl
  · split <;> rfl

namespace Slot

variable {d : Bytes} {i : Int} {m : Nat} {c : Bytes}

/-- Where the file beside that of a register could not be moved into place, it is
removed, unless something is in the way to it. -/
lemma get?_scratch_of_unmoved {e : FileError} (hremove : fs.Clear .remove (scratch d i))
    (hget : fs.get? (Path.resolve (scratch d i)) = some (.file m c))
    (hway : fs.obstacle? (Path.resolve (scratch d i)) = none)
    (h : (fs.rename (scratch d i) (path d i)).1 = .error e) :
    ((fs.rename (scratch d i) (path d i)).2.remove (scratch d i)).2.get?
      (Path.resolve (scratch d i)) = none := by
  have hclear := hremove.rename (by simp) (scratch d i) (path d i)
  have hroot : Path.resolve (scratch d i) ≠ [] := by simp [resolve_scratch, scratchPlace]
  obtain ⟨e', fs₁, ⟨failures, -, rfl⟩, heq⟩ | ⟨fs₁, -, heq⟩ :=
    (Move.rename (scratch d i) (path d i)).perform_cases fs
  · rw [show fs.rename _ _ = _ from heq] at hclear ⊢
    have hlocate : ({ fs with failures } : FileSystem).locate (scratch d i) = .ok (.file m c) :=
      FileSystem.locate_of_get? (scratch_ne_nil d i) hway hget
    rw [FileSystem.remove_of_clear hclear hlocate]
    exact FileSystem.get?_erase_self hroot
  · rw [show fs.rename _ _ = _ from heq] at h
    exact absurd h (by simp)

/-- What stands beside the file of a register after the operation `op` has failed. -/
def Left (before after : FileSystem) (beside : Location) (op : Operation) : Prop :=
  op = .openToWrite ∧ after.get? beside = before.get? beside
    ∨ op = .write ∧ (∃ m, after.get? beside = some (.file m [])
      ∧ (before.get? beside = none → m = mode))
    ∨ op = .rename ∧ (after.get? beside = none
      ∨ before.get? beside ≠ none ∧ before.obstacle? beside ≠ none)

/-- Only a write that fails leaves something where nothing was. -/
lemma Left.new_iff {before after : FileSystem} {beside : Location} {op : Operation}
    (h : Left before after beside op) :
    (after.get? beside ≠ none ∧ before.get? beside = none)
      ↔ op = .write ∧ before.get? beside = none := by
  obtain ⟨rfl, hget⟩ | ⟨rfl, m, hget, -⟩ | ⟨rfl, hget | ⟨hget, -⟩⟩ := h
  · simp [hget]
  · simp [hget]
  · simp [hget]
  · simp [hget]

/-- The error of a failed write names the operation that failed. -/
lemma exists_left {v : Word} {e : StoreError} (hremove : fs.Clear .remove (scratch d i))
    (h : (write d i v fs).1 = .error e) :
    ∃ op target errno, e = .file ⟨op, scratch d i, target, errno⟩
      ∧ Left fs (write d i v fs).2 (Path.resolve (scratch d i)) op := by
  have hwithin := fs.within_write mode (scratch d i) (encode v)
  have hfailures := @FileSystem.of_write_eq_ok fs (scratch d i) mode (encode v)
  have hwritten := fs.write_cases mode (scratch d i) (encode v)
  rw [write] at h ⊢
  generalize fs.write mode (scratch d i) (encode v) = x at hwithin hfailures hwritten h ⊢
  obtain ⟨r, fs₁⟩ := x
  obtain ⟨errno, rfl, hspent⟩ | ⟨hway, ⟨errno, rfl, hget⟩ | ⟨rfl, hget⟩⟩ := hwritten
  · exact ⟨_, _, errno, (Except.error.inj h).symm, .inl ⟨rfl, hspent.get?_eq _⟩⟩
  · refine ⟨_, _, errno, (Except.error.inj h).symm, .inr (.inl ⟨rfl, _, hget, fun hnone => ?_⟩)⟩
    rw [FileSystem.file?, hnone]
    rfl
  · dsimp only at hwithin hget h ⊢
    -- the way to the file is not touched by writing it
    have hobstacle : fs₁.obstacle? (Path.resolve (scratch d i))
        = fs.obstacle? (Path.resolve (scratch d i)) := by
      refine FileSystem.obstacle?_congr fun q hq => congrArg _ (hwithin q fun heq => ?_)
      exact (Path.mem_parents_iff.mp hq).2 heq
    have hclear : fs₁.Clear .remove (scratch d i) :=
      hremove.of_failures_eq (hfailures rfl).2.2
    have hunmoved {e' : FileError} := @get?_scratch_of_unmoved fs₁ d i _ _ e' hclear hget
    have hnamed {e' : FileError} (h' : (fs₁.rename (scratch d i) (path d i)).1 = .error e') :
        ∃ errno, e' = ⟨.rename, scratch d i, some (path d i), errno⟩ :=
      FileSystem.exists_of_attempt_eq_error h'
    generalize fs₁.rename (scratch d i) (path d i) = y at hunmoved hnamed h ⊢
    obtain ⟨r, fs₂⟩ := y
    cases r with
    | ok => exact absurd h (by simp)
    | error e' =>
        obtain ⟨errno, rfl⟩ := hnamed rfl
        refine ⟨_, _, errno, (Except.error.inj h).symm, .inr (.inr ⟨rfl, ?_⟩)⟩
        by_cases hfree : fs.obstacle? (Path.resolve (scratch d i)) = none
        · exact .inl (hunmoved (hobstacle.trans hfree) rfl)
        · exact .inr ⟨fun hnone => hfree (hway hnone), hfree⟩

/-- **What a failed write leaves beside the file of a register.**  The error names the
operation that failed.  Where the file beside it could not be opened, nothing has
changed there; where it could not be written, an empty file stays, with the usual mode
if it is new; and where it could not be moved into place it is removed, unless it was
there before and something is in the way to it.  So a file is there that was not there
before just when the writing has failed. -/
theorem leftover_of_failed_write (d : Bytes) (i : Int) (v : Word) (fs : FileSystem)
    (e : StoreError) (hremove : fs.Clear .remove (scratch d i))
    (h : (write d i v fs).1 = .error e) :
    let beside := Path.resolve (scratch d i)
    let after := (write d i v fs).2
    ∃ op target errno, e = .file ⟨op, scratch d i, target, errno⟩
      ∧ Left fs after beside op
      ∧ ((after.get? beside ≠ none ∧ fs.get? beside = none)
        ↔ op = .write ∧ fs.get? beside = none) := by
  obtain ⟨op, target, errno, he, hleft⟩ := exists_left hremove h
  exact ⟨op, target, errno, he, hleft, hleft.new_iff⟩

/-- On a full disk the file beside that of a register is opened but not written, and
stays there, empty. -/
theorem leftover_of_failed_write_on_full_disk :
    let d := utf8 "r"
    let beside : Location := [utf8 "r", utf8 "x0.bin.tmp"]
    let fs : FileSystem := { entries := [([utf8 "r"], .directory)],
                             failures := [⟨.write, some beside, .noSpace, none⟩] }
    let e : FileError := ⟨.write, utf8 "r/x0.bin.tmp", none, .noSpace⟩
    fs.Clear .remove (scratch d 0) ∧ (write d 0 5#32 fs).1 = .error (.file e)
      ∧ (write d 0 5#32 fs).2.get? beside = some (.file mode [])
      ∧ fs.get? beside = none := by
  intro d beside fs e
  have hremove : fs.Clear .remove (scratch d 0) := by
    rw [FileSystem.Clear]
    decide +kernel
  have herror : (write d 0 5#32 fs).1 = .error (.file e) := by decide +kernel
  have hbeside : Path.resolve (scratch d 0) = beside := by decide +kernel
  have hnone : fs.get? beside = none := by decide +kernel
  refine ⟨hremove, herror, ?_, hnone⟩
  obtain ⟨op, target, errno, he, hleft, -⟩ :=
    leftover_of_failed_write d 0 5#32 fs _ hremove herror
  obtain rfl : .write = op := congrArg FileError.operation (StoreError.file.inj he)
  rw [hbeside] at hleft
  obtain ⟨m, hget, hmode⟩ := (hleft.resolve_left (by simp)).resolve_right (by simp) |>.2
  rw [hget, hmode hnone]

end Slot

end RegisterMachine
