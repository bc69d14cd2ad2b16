/-
The files that a save leaves behind, with their modes.

* `FileSystem.write_cases`: how far the writing of a file has come when it fails, and
  what stands there; a file that was there keeps its mode;
* `Slot.modeAt`: the mode that the file of a register will have: that of the file
  beside it, if one was left there;
* `Store.get?_save_of_ok`: **after a save without errors every register has its file,
  and nothing is left beside it**.
-/
import RegisterMachine.Proofs.Store.Saving

namespace RegisterMachine

variable {fs made : FileSystem} {loc p : Location} {d : Bytes} {b : Bank} {i j n : Nat} {v : Word}

/-- A file made ready for writing is empty; it has the mode that it had before, or that
it is made with, and where it was missing nothing is in the way to it. -/
lemma FileSystem.emptied_cases (fs : FileSystem) (mode : Nat) (path : Bytes) :
    (∃ errno, fs.prepare mode false path = (.error errno, fs))
      ∨ fs.get? (Path.resolve path) ≠ some .directory
        ∧ (fs.get? (Path.resolve path) = none → fs.obstacle? (Path.resolve path) = none)
        ∧ fs.prepare mode false path = (.ok (Path.resolve path), fs.put (Path.resolve path)
          (.file (((fs.file? (Path.resolve path)).map Prod.fst).getD mode) [])) := by
  rw [prepare, file?]
  by_cases hpath : path = []
  · exact .inl ⟨_, if_pos hpath⟩
  · rw [if_neg hpath]
    dsimp only
    cases fs.get? (Path.resolve path) with
    | none =>
        dsimp only
        cases fs.obstacle? (Path.resolve path) with
        | some errno => exact .inl ⟨_, rfl⟩
        | none => exact .inr ⟨by simp, fun _ => rfl, rfl⟩
    | some e =>
        cases e with
        | directory => exact .inl ⟨_, rfl⟩
        | file m c => exact .inr ⟨by simp, by simp, rfl⟩

/-- Writing a file leaves everything else alone. -/
lemma FileSystem.within_write (fs : FileSystem) (mode : Nat) (path content : Bytes) :
    Within (· = Path.resolve path) fs (fs.write mode path content).2 := by
  rw [← Script.run_writeFile]
  exact Script.within_of_mem_states (Script.touches_writeFile mode path content)
    (Script.mem_states_run _ fs)

/-- Writing a file fails before anything has happened, or when the file is there and
empty; or the file holds what was written.  It has the mode that it had before, or that
it was made with. -/
lemma FileSystem.write_cases (fs : FileSystem) (mode : Nat) (path content : Bytes) :
    let after := (fs.write mode path content).2
    let m := ((fs.file? (Path.resolve path)).map Prod.fst).getD mode
    (∃ errno, (fs.write mode path content).1 = .error ⟨.openToWrite, path, none, errno⟩
        ∧ Spent fs after)
      ∨ (fs.get? (Path.resolve path) = none → fs.obstacle? (Path.resolve path) = none)
        ∧ ((∃ errno, (fs.write mode path content).1 = .error ⟨.write, path, none, errno⟩
            ∧ after.get? (Path.resolve path) = some (.file m []))
          ∨ (fs.write mode path content).1 = .ok ()
            ∧ after.get? (Path.resolve path) = some (.file m content)) := by
  intro after m
  simp only [after]
  rw [write]
  obtain ⟨errno, fs', hspent, heq⟩ | heq :=
    attempt_cases .openToWrite path none (prepare mode false path) fs
  · rw [heq]
    exact .inl ⟨errno, rfl, hspent⟩
  · rw [heq]
    obtain ⟨errno, herror⟩ | ⟨hget, hway, hok⟩ := emptied_cases fs mode path
    · rw [herror]
      exact .inl ⟨errno, rfl, .refl fs⟩
    · have hroot := ne_nil_of_get? hget
      have hempty : (fs.put (Path.resolve path) (.file m [])).get? (Path.resolve path)
          = some (.file m []) := get?_put_self hroot _
      rw [hok]
      simp only [Except.mapError]
      obtain ⟨errno, fs', hspent, heq'⟩ | heq' := attempt_cases .write path none
        (fun fs => (.ok (), fs.setContent (Path.resolve path) content))
        (fs.put (Path.resolve path) (.file m []))
      · rw [heq']
        exact .inr ⟨hway, .inl ⟨errno, rfl, (hspent.get?_eq _).trans hempty⟩⟩
      · rw [heq', setContent, file?_of_get? hempty]
        exact .inr ⟨hway, .inr ⟨rfl, get?_put_self hroot _⟩⟩

/-- A file that was written holds what was written; it has the mode that it had before,
or that it was made with. -/
lemma FileSystem.get?_write_of_ok {mode : Nat} {path content : Bytes}
    (h : (fs.write mode path content).1 = .ok ()) :
    (fs.write mode path content).2.get? (Path.resolve path)
      = some (.file (((fs.file? (Path.resolve path)).map Prod.fst).getD mode) content) := by
  obtain ⟨errno, herror, -⟩ | ⟨-, ⟨errno, herror, -⟩ | ⟨-, hget⟩⟩ :=
    write_cases fs mode path content
  · exact absurd (h.symm.trans herror) (by simp)
  · exact absurd (h.symm.trans herror) (by simp)
  · exact hget

namespace Slot

/-- The mode of the file beside that of a register, if there is one, and the usual mode
otherwise. -/
def modeAt (loc : Location) (fs : FileSystem) (i : Nat) : Nat :=
  ((fs.file? (scratchPlace loc i)).map Prod.fst).getD mode

lemma modeAt_congr {fs' : FileSystem}
    (h : fs'.get? (scratchPlace loc i) = fs.get? (scratchPlace loc i)) :
    modeAt loc fs' i = modeAt loc fs i := by
  rw [modeAt, modeAt, FileSystem.file?, FileSystem.file?, h]

/-- A place belongs to a single register. -/
lemma not_own_of_ne (h : j ≠ i) (hp : Own loc i p) : ¬ Own loc j p := by
  rintro (hj | hj) <;> obtain rfl | rfl := hp
  · exact h (by exact_mod_cast (place_injective hj).symm)
  · exact place_ne_scratchPlace loc j i hj.symm
  · exact place_ne_scratchPlace loc i j hj
  · exact h (by exact_mod_cast (scratchPlace_injective hj).symm)

/-- The file of a register that could be written is the one that was written beside
it. -/
lemma get?_own_write_of_ok (h : (write d i v fs).1 = .ok ()) :
    (write d i v fs).2.get? (place (Path.resolve d) i)
        = some (.file (modeAt (Path.resolve d) fs i) (encode v))
      ∧ (write d i v fs).2.get? (scratchPlace (Path.resolve d) i) = none := by
  have hwritten := @FileSystem.get?_write_of_ok fs mode (scratch d i) (encode v)
  rw [resolve_scratch, ← modeAt] at hwritten
  rw [write] at h ⊢
  generalize fs.write mode (scratch d i) (encode v) = x at hwritten h ⊢
  obtain ⟨r, fs₁⟩ := x
  cases r with
  | error e => exact absurd h (by simp)
  | ok =>
      dsimp only at h ⊢
      have hmoved := (Move.rename (scratch d i) (path d i)).perform_cases fs₁
      obtain ⟨e, fs₂, -, heq⟩ | ⟨fs₂, ⟨-, -, m, c, appender, hsource, rfl⟩, heq⟩ := hmoved
      · rw [show fs₁.rename _ _ = _ from heq] at h
        exact absurd h (by simp)
      · rw [show fs₁.rename _ _ = _ from heq]
        rw [resolve_scratch, hwritten rfl] at hsource
        obtain ⟨rfl, rfl⟩ := Entry.file.inj (Option.some.inj hsource)
        rw [resolve_scratch, resolve_path]
        refine ⟨FileSystem.get?_put_self (by simp [place]) _, ?_⟩
        refine (FileSystem.get?_put_of_ne (place_ne_scratchPlace _ _ _).symm _).trans ?_
        exact FileSystem.get?_erase_self (by simp [scratchPlace])

end Slot

namespace Store

/-- The entries of a register stay as they are after the register itself was tried. -/
lemma get?_own_writeAll_range (hp : Slot.Own (Path.resolve d) i p) (h : i < n) :
    (writeAll d b (List.range n) made).2.get? p = (writing d b made i).2.get? p := by
  induction n with
  | zero => exact absurd h (by simp)
  | succ n ih =>
      rw [writeAll_range_succ]
      by_cases hin : i = n
      · rw [hin]
      · rw [← ih (by omega)]
        exact Slot.within_write d n _ _ _ (Slot.not_own_of_ne (Ne.symm hin) hp)

/-- The entries of a register stay as they are until it is tried. -/
lemma get?_own_of_not_mem {is : List Nat} (hp : Slot.Own (Path.resolve d) i p) (h : i ∉ is) :
    (writeAll d b is made).2.get? p = made.get? p := by
  apply Script.within_of_mem_states (touches_writeAllScript d b is)
    (writeAll_mem_states d b is made)
  rintro ⟨j, hj, hown⟩
  have hne : j ≠ i := by
    rintro rfl
    exact h hj
  exact Slot.not_own_of_ne hne hp hown

/-- In a save without errors every register could be written, and nothing had changed beside
it until then. -/
lemma exists_writing (h : (save d b fs).1.errors = []) (hi : i < Register.count) :
    ∃ made, fs.makeDirectories d = (.ok (), made) ∧ (writing d b made i).1 = .ok ()
      ∧ (writeAll d b (List.range i) made).2.get? (Slot.scratchPlace (Path.resolve d) i)
        = fs.get? (Slot.scratchPlace (Path.resolve d) i) := by
  obtain ⟨made, hmade, hok, hfill, -⟩ := exists_made h
  refine ⟨made, hmade, ?_, ?_⟩
  · rw [registers, errors_writeAll_range, List.filterMap_eq_nil_iff] at hok
    exact failure?_eq_none_iff.mp (hok i (List.mem_range.mpr hi))
  · rw [get?_own_of_not_mem (.inr rfl) (by simp), hfill]
    exact (FileSystem.confined_fill fs _).get?_eq _ (Path.concat_not_mem_prefixes _ _)

/-- **After a save without errors every register has its file**, and nothing is left
beside it. -/
theorem get?_save_of_ok (h : (save d b fs).1.errors = []) (hi : i < Register.count) :
    (save d b fs).2.get? (Slot.place (Path.resolve d) i)
        = some (.file (Slot.modeAt (Path.resolve d) fs i) (Slot.encode (b.value i)))
      ∧ (save d b fs).2.get? (Slot.scratchPlace (Path.resolve d) i) = none := by
  obtain ⟨made, hmade, hwriting, hsame⟩ := exists_writing h hi
  rw [save_of_ok hmade, registers]
  dsimp only
  rw [get?_own_writeAll_range (.inl rfl) hi, get?_own_writeAll_range (.inr rfl) hi,
    ← Slot.modeAt_congr hsame]
  exact Slot.get?_own_write_of_ok hwriting

end Store

end RegisterMachine
