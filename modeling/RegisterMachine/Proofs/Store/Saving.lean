/-
Saving a bank, move by move.

* `Slot.writeScript`, `Store.saveScript`: the moves of a save, and
  `Store.run_saveScript`: performing them is saving;
* `Slot.moveScript_cases`, `Slot.writeScript_cases`: while a register is written
  its file is the old one, until the last move puts the new one in its place;
* `Store.save_by_register`: **whatever failures are due, the file of each register
  is replaced or left as it was**, and the errors are those of the registers that
  were left;
* `Store.load_between_moves`: **between any two moves of a save the store can be
  loaded**, and what is loaded are new words up to some register and old words
  from there on.
-/
import RegisterMachine.Proofs.FileSystem.Script
import RegisterMachine.Proofs.Store.Stored

namespace RegisterMachine

open FileSystem (Within Rooted)

namespace Slot

variable {loc : Location} {fs s : FileSystem} {d : Bytes} {i j : Nat} {v : Word}

/-! ### Reading a single register -/

lemma read_snd (h : fs.failures = []) (d : Bytes) (i : Nat) : (read d i fs).2 = fs := by
  have hkept := FileSystem.read_snd h (path d i)
  rw [read]
  generalize fs.read (path d i) = x at hkept ⊢
  obtain ⟨r, fs'⟩ := x
  obtain rfl : fs' = fs := hkept
  cases r with
  | error e => rfl
  | ok data =>
      dsimp only
      cases decode data <;> rfl

lemma exists_decode_error {data : Bytes} (h : data.length ≠ size) :
    ∃ e, decode data = .error e :=
  ⟨_, decode_of_length_ne h⟩

/-! ### Writing a single register -/

/-- The places that writing a register is about. -/
def Own (loc : Location) (i : Nat) (p : Location) : Prop :=
  p = place loc i ∨ p = scratchPlace loc i

lemma not_own_place (h : j ≠ i) : ¬ Own loc i (place loc j) := by
  rintro (hplace | hplace)
  · exact h (by exact_mod_cast place_injective hplace)
  · exact place_ne_scratchPlace loc j i hplace

lemma not_own_of_mem_prefixes {p : Location} (hp : p ∈ Path.prefixes loc) : ¬ Own loc i p := by
  rintro (rfl | rfl)
  · exact Path.concat_not_mem_prefixes loc _ hp
  · exact Path.concat_not_mem_prefixes loc _ hp

/-- Moving the file of a register into its place, or removing it where that fails. -/
def moveScript (d : Bytes) (i : Nat) : Script (Except StoreError Unit) :=
  .move (.rename (scratch d i) (path d i)) fun
    | .error e => .move (.remove (scratch d i)) fun _ => .done (.error (.file e))
    | .ok () => .done (.ok ())

/-- Writing a register, move by move. -/
def writeScript (d : Bytes) (i : Nat) (v : Word) : Script (Except StoreError Unit) :=
  (Script.writeFile mode (scratch d i) (encode v)).bind fun
    | .error e => .done (.error (.file e))
    | .ok () => moveScript d i

lemma run_writeScript (d : Bytes) (i : Nat) (v : Word) (fs : FileSystem) :
    (writeScript d i v).run fs = write d i v fs := by
  rw [writeScript, Script.run_bind, Script.run_writeFile, write]
  obtain ⟨r, fs₁⟩ := fs.write mode (scratch d i) (encode v)
  cases r with
  | error e => rfl
  | ok _ =>
      dsimp only
      rw [moveScript, Script.run, Move.perform]
      obtain ⟨r₂, fs₂⟩ := fs₁.rename (scratch d i) (path d i)
      cases r₂ <;> rfl

lemma touches_writeScript (d : Bytes) (i : Nat) (v : Word) :
    (writeScript d i v).Touches (Own (Path.resolve d) i) := by
  have hscratch : Own (Path.resolve d) i (Path.resolve (scratch d i)) :=
    .inr (resolve_scratch d i)
  have hpath : Own (Path.resolve d) i (Path.resolve (path d i)) := .inl (resolve_path d i)
  refine .bind ((Script.touches_writeFile _ _ _).mono fun p hp => hp ▸ hscratch) ?_
  rintro (e | ⟨⟨⟩⟩)
  · trivial
  · refine ⟨?_, ?_⟩
    · simpa [Move.places] using ⟨hscratch, hpath⟩
    · rintro (e | ⟨⟨⟩⟩)
      · exact ⟨by simpa [Move.places] using hscratch, fun _ => trivial⟩
      · trivial

/-- The course of moving a file into place.  It fails and the file of the register is
the old one all the time, or its only move puts the other one there. -/
lemma moveScript_cases (d : Bytes) (i : Nat) (fs : FileSystem) :
    (∃ e, ((moveScript d i).run fs).1 = .error e ∧ ∀ s ∈ (moveScript d i).states fs,
        s.get? (place (Path.resolve d) i) = fs.get? (place (Path.resolve d) i))
      ∨ (((moveScript d i).run fs).1 = .ok ()
        ∧ (∃ m c, fs.get? (Path.resolve (scratch d i)) = some (.file m c)
          ∧ ((moveScript d i).run fs).2.get? (place (Path.resolve d) i) = some (.file m c))
        ∧ ∀ s ∈ (moveScript d i).states fs, s = fs ∨ s = ((moveScript d i).run fs).2) := by
  have hne : place (Path.resolve d) i ≠ Path.resolve (scratch d i) := by
    rw [resolve_scratch]
    exact place_ne_scratchPlace _ _ _
  rw [moveScript, Script.run, Script.states]
  obtain ⟨e, fs₁, hspent, heq⟩ | ⟨fs₁, ⟨-, -, m, c, appender, hsource, rfl⟩, heq⟩ :=
    (Move.rename (scratch d i) (path d i)).perform_cases fs
  · have hkept := hspent.get?_eq (place (Path.resolve d) i)
    have hremoved := Move.within_perform (.remove (scratch d i)) fs₁ _
      (by simpa [Move.places] using hne)
    rw [heq]
    refine .inl ⟨_, rfl, fun s hs => ?_⟩
    simp only [Script.states, List.mem_cons, List.not_mem_nil, or_false] at hs
    rcases hs with rfl | rfl | rfl
    · rfl
    · exact hkept
    · exact hremoved.trans hkept
  · rw [heq]
    refine .inr ⟨rfl, ⟨m, c, hsource, ?_⟩, fun s hs => ?_⟩
    · rw [← resolve_path]
      exact FileSystem.get?_put_self (by simp [resolve_path, place]) _
    · simpa only [Script.states, Script.run, List.mem_cons, List.not_mem_nil, or_false] using hs

/-- The course of writing a register.  Either it fails and the file of the register
is the old one all the time, or it succeeds, and then the file is the old one until
the last move puts the new one in its place. -/
lemma writeScript_cases (d : Bytes) (i : Nat) (v : Word) (fs : FileSystem) :
    (∃ e, (write d i v fs).1 = .error e ∧ ∀ s ∈ (writeScript d i v).states fs,
        s.get? (place (Path.resolve d) i) = fs.get? (place (Path.resolve d) i))
      ∨ ((write d i v fs).1 = .ok ()
        ∧ (∃ m, (write d i v fs).2.get? (place (Path.resolve d) i) = some (.file m (encode v)))
        ∧ ∀ s ∈ (writeScript d i v).states fs,
          s.get? (place (Path.resolve d) i) = fs.get? (place (Path.resolve d) i)
            ∨ s = (write d i v fs).2) := by
  -- up to the move into place only the file beside it is touched
  have hbefore : ∀ s ∈ (Script.writeFile mode (scratch d i) (encode v)).states fs,
      s.get? (place (Path.resolve d) i) = fs.get? (place (Path.resolve d) i) := by
    intro s hs
    apply Script.within_of_mem_states (Script.touches_writeFile _ _ _) hs
    rw [resolve_scratch]
    exact place_ne_scratchPlace _ _ _
  have hwritten := hbefore _ (Script.mem_states_run _ fs)
  have hcontent := @Script.get?_writeFile fs mode (scratch d i) (encode v)
  rw [← run_writeScript, writeScript, Script.run_bind]
  simp only [Script.mem_states_bind, or_imp, forall_and]
  generalize (Script.writeFile mode (scratch d i) (encode v)).run fs = x at hwritten hcontent ⊢
  obtain ⟨r, fs₁⟩ := x
  cases r with
  | error e =>
      refine .inl ⟨_, rfl, hbefore, fun s hs => ?_⟩
      obtain rfl := List.mem_singleton.mp hs
      exact hwritten
  | ok _ =>
      dsimp only at hwritten hcontent ⊢
      obtain ⟨e, herror, hstates⟩ | ⟨hok, ⟨m, c, hsource, hget⟩, hstates⟩ :=
        moveScript_cases d i fs₁
      · exact .inl ⟨e, herror, hbefore, fun s hs => (hstates s hs).trans hwritten⟩
      · obtain ⟨m', hm'⟩ := hcontent rfl
        rw [hsource] at hm'
        obtain ⟨rfl, rfl⟩ := Entry.file.inj (Option.some.inj hm')
        refine .inr ⟨hok, ⟨m, hget⟩, fun s hs => .inl (hbefore s hs), fun s hs => ?_⟩
        exact (hstates s hs).imp_left fun heq => by rw [heq, hwritten]

/-- A register that could be written has a new file. -/
lemma get?_write_of_ok (h : (write d i v fs).1 = .ok ()) :
    ∃ m, (write d i v fs).2.get? (place (Path.resolve d) i) = some (.file m (encode v)) := by
  obtain ⟨e, herror, -⟩ | ⟨-, hget, -⟩ := writeScript_cases d i v fs
  · exact absurd (h.symm.trans herror) (by simp)
  · exact hget

/-- A register that could not be written has its old file. -/
lemma get?_write_of_error {e : StoreError} (h : (write d i v fs).1 = .error e) :
    (write d i v fs).2.get? (place (Path.resolve d) i) = fs.get? (place (Path.resolve d) i) := by
  obtain ⟨e, -, hget⟩ | ⟨hok, -⟩ := writeScript_cases d i v fs
  · rw [← run_writeScript]
    exact hget _ (Script.mem_states_run _ fs)
  · exact absurd (h.symm.trans hok) (by simp)

/-- Writing a register changes entries at its own places only. -/
lemma within_write (d : Bytes) (i : Nat) (v : Word) (fs : FileSystem) :
    Within (Own (Path.resolve d) i) fs (write d i v fs).2 := by
  rw [← run_writeScript]
  exact Script.within_of_mem_states (touches_writeScript d i v) (Script.mem_states_run _ fs)

end Slot

namespace Store

variable {loc : Location} {fs s made : FileSystem} {d : Bytes} {b : Bank} {i n : Nat}
  {is : List Nat}

/-! ### Writing one register after another -/

/-- The error of a write, if there was one. -/
def failure? : Except StoreError Unit → Option StoreError
  | .ok () => none
  | .error e => some e

lemma failure?_eq_none_iff {r : Except StoreError Unit} : failure? r = none ↔ r = .ok () := by
  cases r <;> simp [failure?]

lemma writeAll_cons (d : Bytes) (b : Bank) (i : Nat) (is : List Nat) (fs : FileSystem) :
    writeAll d b (i :: is) fs
      = ((failure? (Slot.write d i (b.value i) fs).1).toList
            ++ (writeAll d b is (Slot.write d i (b.value i) fs).2).1,
          (writeAll d b is (Slot.write d i (b.value i) fs).2).2) := by
  rw [writeAll, show b.toList.getD i 0#32 = b.value i from rfl]
  obtain ⟨r, fs'⟩ := Slot.write d i (b.value i) fs
  cases r <;> rfl

lemma writeAll_append (d : Bytes) (b : Bank) (is js : List Nat) (fs : FileSystem) :
    writeAll d b (is ++ js) fs
      = ((writeAll d b is fs).1 ++ (writeAll d b js (writeAll d b is fs).2).1,
          (writeAll d b js (writeAll d b is fs).2).2) := by
  induction is generalizing fs with
  | nil => rfl
  | cons i is ih => simp only [List.cons_append, writeAll_cons, ih, List.append_assoc]

/-- Writing registers one after another, move by move. -/
def writeAllScript (d : Bytes) (b : Bank) : List Nat → Script (List StoreError)
  | [] => .done []
  | i :: rest =>
    (Slot.writeScript d i (b.value i)).bind fun r =>
      (writeAllScript d b rest).bind fun errors => .done ((failure? r).toList ++ errors)

lemma run_writeAllScript (d : Bytes) (b : Bank) (is : List Nat) (fs : FileSystem) :
    (writeAllScript d b is).run fs = writeAll d b is fs := by
  induction is generalizing fs with
  | nil => rfl
  | cons i is ih =>
      rw [writeAllScript, Script.run_bind, Slot.run_writeScript, Script.run_bind, ih, writeAll_cons]
      rfl

lemma touches_writeAllScript (d : Bytes) (b : Bank) (is : List Nat) :
    (writeAllScript d b is).Touches fun p => ∃ i ∈ is, Slot.Own (Path.resolve d) i p := by
  induction is with
  | nil => trivial
  | cons i is ih =>
      refine .bind ((Slot.touches_writeScript d i _).mono fun p hp => ⟨i, by simp, hp⟩) fun r => ?_
      refine .bind (ih.mono ?_) fun _ => trivial
      rintro p ⟨j, hj, hp⟩
      exact ⟨j, by simp [hj], hp⟩

lemma get?_slot_of_mem_states (hs : s ∈ (writeAllScript d b is).states fs) (hi : i ∉ is) :
    s.get? (Slot.place (Path.resolve d) i) = fs.get? (Slot.place (Path.resolve d) i) := by
  apply Script.within_of_mem_states (touches_writeAllScript d b is) hs
  rintro ⟨j, hj, hp⟩
  have hij : i ≠ j := by
    rintro rfl
    exact hi hj
  exact Slot.not_own_place hij hp

lemma get?_way_of_mem_states (hs : s ∈ (writeAllScript d b is).states fs) {p : Location}
    (hp : p ∈ Path.prefixes (Path.resolve d)) : s.get? p = fs.get? p := by
  apply Script.within_of_mem_states (touches_writeAllScript d b is) hs
  rintro ⟨j, -, hown⟩
  exact Slot.not_own_of_mem_prefixes hp hown

lemma writeAll_mem_states (d : Bytes) (b : Bank) (is : List Nat) (fs : FileSystem) :
    (writeAll d b is fs).2 ∈ (writeAllScript d b is).states fs := by
  rw [← run_writeAllScript]
  exact Script.mem_states_run _ fs

/-- What comes of writing register `i` when the registers before it have been
tried. -/
def writing (d : Bytes) (b : Bank) (made : FileSystem) (i : Nat) :
    Except StoreError Unit × FileSystem :=
  Slot.write d i (b.value i) (writeAll d b (List.range i) made).2

lemma writeAll_range_succ (d : Bytes) (b : Bank) (made : FileSystem) (n : Nat) :
    writeAll d b (List.range (n + 1)) made
      = ((writeAll d b (List.range n) made).1 ++ (failure? (writing d b made n).1).toList,
          (writing d b made n).2) := by
  rw [List.range_succ, writeAll_append, writeAll_cons]
  simp only [writeAll, List.append_nil, writing]

/-- The errors are those of the single registers, in order. -/
lemma errors_writeAll_range (d : Bytes) (b : Bank) (made : FileSystem) (n : Nat) :
    (writeAll d b (List.range n) made).1
      = (List.range n).filterMap fun i => failure? (writing d b made i).1 := by
  induction n with
  | zero => rfl
  | succ n ih =>
      rw [writeAll_range_succ, ih, List.range_succ, List.filterMap_append]
      cases hn : failure? (writing d b made n).1 with
      | none => simp [hn]
      | some e => simp [hn]

/-- The file of a register stays as it is after the register itself was tried. -/
lemma get?_writeAll_range (h : i < n) :
    (writeAll d b (List.range n) made).2.get? (Slot.place (Path.resolve d) i)
      = (writing d b made i).2.get? (Slot.place (Path.resolve d) i) := by
  induction n with
  | zero => exact absurd h (by simp)
  | succ n ih =>
      rw [writeAll_range_succ]
      by_cases hin : i = n
      · rw [hin]
      · rw [← ih (by omega)]
        exact Slot.within_write d n _ _ _ (Slot.not_own_place hin)

/-- A register that could be written has a new file in the end. -/
lemma get?_writeAll_of_ok (h : i < n) (hok : (writing d b made i).1 = .ok ()) :
    ∃ m, (writeAll d b (List.range n) made).2.get? (Slot.place (Path.resolve d) i)
      = some (.file m (Slot.encode (b.value i))) := by
  rw [get?_writeAll_range h]
  exact Slot.get?_write_of_ok hok

/-- A register that could not be written has its old file in the end. -/
lemma get?_writeAll_of_error (h : i < n) {e : StoreError}
    (herror : (writing d b made i).1 = .error e) :
    (writeAll d b (List.range n) made).2.get? (Slot.place (Path.resolve d) i)
      = made.get? (Slot.place (Path.resolve d) i) := by
  rw [get?_writeAll_range h, writing, Slot.get?_write_of_error herror]
  exact get?_slot_of_mem_states (writeAll_mem_states d b _ made) (by simp)

/-! ### Saving -/

/-- A save, move by move. -/
def saveScript (d : Bytes) (b : Bank) : Script Saving :=
  .move (.makeDirectories d) fun
    | .error e => .done (.refused (.directory d e))
    | .ok () => (writeAllScript d b registers).bind fun errors => .done (.tried errors)

/-- Performing the moves of a save is saving. -/
lemma run_saveScript (d : Bytes) (b : Bank) (fs : FileSystem) :
    (saveScript d b).run fs = save d b fs := by
  rw [saveScript, Script.run, Move.perform, save]
  obtain ⟨r, made⟩ := fs.makeDirectories d
  cases r with
  | error e => rfl
  | ok _ =>
      dsimp only
      rw [Script.run_bind, run_writeAllScript]
      rfl

lemma save_of_ok (h : fs.makeDirectories d = (.ok (), made)) (b : Bank) :
    save d b fs = (.tried (writeAll d b registers made).1, (writeAll d b registers made).2) := by
  rw [save, h]

/-- Making the directory of a store leaves the files of the registers alone. -/
lemma get?_slot_of_makeDirectories (h : fs.makeDirectories d = (.ok (), made)) (i : Nat) :
    made.get? (Slot.place (Path.resolve d) i) = fs.get? (Slot.place (Path.resolve d) i) := by
  have hwithin := Move.within_perform (.makeDirectories d) fs
  rw [Move.perform, h] at hwithin
  exact hwithin _ (Path.concat_not_mem_prefixes _ _)

/-- Entries that a save changes are missing directories on the way, or belong to
a register. -/
lemma changed_by_save {p : Location} (h : (save d b fs).2.get? p ≠ fs.get? p) :
    (p ∈ Path.prefixes (Path.resolve d) ∧ fs.get? p = none
        ∧ (save d b fs).2.get? p = some .directory)
      ∨ ∃ i ∈ registers, Slot.Own (Path.resolve d) i p := by
  obtain ⟨e, fs', hspent, heq⟩ | ⟨made, ⟨-, hmade⟩, heq⟩ :=
    (Move.makeDirectories d).perform_cases fs
  · rw [save, show fs.makeDirectories d = _ from heq] at h
    exact absurd (hspent.get?_eq p) h
  · rw [save_of_ok heq] at h ⊢
    by_cases hown : ∃ i ∈ registers, Slot.Own (Path.resolve d) i p
    · exact .inr hown
    · have hkept : (writeAll d b registers made).2.get? p = made.get? p :=
        Script.within_of_mem_states (touches_writeAllScript d b registers)
          (writeAll_mem_states d b registers made) p hown
      rw [hkept, hmade, FileSystem.get?_fill] at h ⊢
      split_ifs at h ⊢ with hnew
      · exact .inl ⟨hnew.1, hnew.2, rfl⟩
      · exact absurd rfl h

/-- **Saving by register.**  A save whose directory cannot be made is refused and
changes nothing.  Otherwise each register is tried on its own: its file is new
where that succeeds and the old one where it does not, and the errors of the save
are those of the single registers in order.  No other entry changes but the missing
directories on the way and the files beside those of the registers. -/
theorem save_by_register (d : Bytes) (b : Bank) (fs : FileSystem) :
    (∀ e fs', fs.makeDirectories d = (.error e, fs') →
        save d b fs = (.refused (.directory d e), fs') ∧ ∀ p, fs'.get? p = fs.get? p)
      ∧ (∀ made, fs.makeDirectories d = (.ok (), made) →
        (save d b fs).1 = .tried (registers.filterMap fun i => failure? (writing d b made i).1)
          ∧ ((save d b fs).1.errors = [] ↔ ∀ r : Fin 16, (writing d b made r).1 = .ok ())
          ∧ ∀ r : Fin 16,
            ((writing d b made r).1 = .ok () →
                ∃ m, (save d b fs).2.get? (Path.resolve (Slot.path d r))
                  = some (.file m (Slot.encode (b.word r))))
              ∧ ∀ e, (writing d b made r).1 = .error e →
                (save d b fs).2.get? (Path.resolve (Slot.path d r))
                  = fs.get? (Path.resolve (Slot.path d r)))
      ∧ ∀ p, (save d b fs).2.get? p ≠ fs.get? p →
        (p ∈ Path.prefixes (Path.resolve d) ∧ fs.get? p = none
            ∧ (save d b fs).2.get? p = some .directory)
          ∨ ∃ r : Fin 16, p = Path.resolve (Slot.path d r)
            ∨ p = Path.resolve (Slot.scratch d r) := by
  simp only [Slot.resolve_path, Slot.resolve_scratch]
  refine ⟨fun e fs' hrefused => ?_, fun made hmade => ?_, fun p hp => ?_⟩
  · obtain ⟨e', fs'', hspent, heq⟩ | ⟨fs'', -, heq⟩ := (Move.makeDirectories d).perform_cases fs
    · obtain ⟨-, rfl⟩ := Prod.mk.inj (hrefused.symm.trans heq)
      exact ⟨by rw [save, hrefused], hspent.get?_eq⟩
    · exact absurd (Prod.mk.inj (hrefused.symm.trans heq)).1 (by simp)
  · have herrors := errors_writeAll_range d b made Register.count
    rw [save_of_ok hmade]
    refine ⟨congrArg Saving.tried herrors, ?_, fun r => ⟨fun hok => ?_, fun e herror => ?_⟩⟩
    · rw [Saving.errors, registers, herrors, List.filterMap_eq_nil_iff]
      simp only [failure?_eq_none_iff, List.mem_range]
      exact ⟨fun h r => h r r.isLt, fun h i hi => h ⟨i, hi⟩⟩
    · rw [← value_eq_word]
      exact get?_writeAll_of_ok r.isLt hok
    · exact (get?_writeAll_of_error r.isLt herror).trans (get?_slot_of_makeDirectories hmade r)
  · obtain hway | ⟨i, hi, hown⟩ := changed_by_save hp
    · exact .inl hway
    · exact .inr ⟨⟨i, lt_of_mem_registers hi⟩, hown⟩

/-! ### Between the moves of a save -/

/-- The registers in `done` have the files of the bank `b`, and all others those that
they had. -/
def Replaced (d : Bytes) (b : Bank) (done : List Nat) (fs s : FileSystem) : Prop :=
  (∀ i ∈ done, ∃ m, s.get? (Slot.place (Path.resolve d) i)
      = some (.file m (Slot.encode (b.value i))))
    ∧ ∀ i, i ∉ done →
      s.get? (Slot.place (Path.resolve d) i) = fs.get? (Slot.place (Path.resolve d) i)

/-- A register that is written before others is replaced as well. -/
lemma Replaced.cons {done : List Nat} (hok : (Slot.write d i (b.value i) fs).1 = .ok ())
    (h : Replaced d b done (Slot.write d i (b.value i) fs).2 s) :
    Replaced d b (i :: done) fs s := by
  refine ⟨fun j hj => ?_, fun j hj => ?_⟩
  · by_cases hdone : j ∈ done
    · exact h.1 j hdone
    · obtain rfl : j = i := by simpa [hdone] using hj
      rw [h.2 j hdone]
      exact Slot.get?_write_of_ok hok
  · rw [List.mem_cons, not_or] at hj
    rw [h.2 j hj.2]
    exact Slot.within_write d i _ fs _ (Slot.not_own_place hj.1)

/-- While the first register of several is written, no other one is touched. -/
lemma replaced_of_mem_states (hs : s ∈ (Slot.writeScript d i (b.value i)).states fs)
    (hold : s.get? (Slot.place (Path.resolve d) i) = fs.get? (Slot.place (Path.resolve d) i)) :
    Replaced d b [] fs s := by
  refine ⟨by simp, fun j _ => ?_⟩
  by_cases hji : j = i
  · rw [hji, hold]
  · exact Script.within_of_mem_states (Slot.touches_writeScript d i _) hs _
      (Slot.not_own_place hji)

/-- While registers are written without errors, those up to some point have been
replaced. -/
lemma exists_taken (hok : (writeAll d b is fs).1 = [])
    (hs : s ∈ (writeAllScript d b is).states fs) :
    ∃ k ≤ is.length, Replaced d b (is.take k) fs s := by
  induction is generalizing fs with
  | nil =>
      obtain rfl := List.mem_singleton.mp hs
      exact ⟨0, Nat.le_refl 0, by simp, fun _ _ => rfl⟩
  | cons i is ih =>
      rw [writeAll_cons, List.append_eq_nil_iff, Option.toList_eq_nil_iff,
        failure?_eq_none_iff] at hok
      obtain ⟨hwritten, hrest⟩ := hok
      -- once the first register is written, what is left goes on from there
      have hlater (hs : s ∈ (writeAllScript d b is).states (Slot.write d i (b.value i) fs).2) :
          ∃ k ≤ (i :: is).length, Replaced d b ((i :: is).take k) fs s := by
        obtain ⟨k, hk, hreplaced⟩ := ih hrest hs
        exact ⟨k + 1, by simpa using hk, hreplaced.cons hwritten⟩
      rw [writeAllScript, Script.mem_states_bind, Slot.run_writeScript] at hs
      obtain hs | hs := hs
      · obtain ⟨e, herror, -⟩ | ⟨-, -, hstates⟩ := Slot.writeScript_cases d i (b.value i) fs
        · exact absurd (hwritten.symm.trans herror) (by simp)
        · obtain hold | rfl := hstates s hs
          · exact ⟨0, by simp, replaced_of_mem_states hs hold⟩
          · exact hlater (Script.mem_states_self _ _)
      · obtain hs | hs := Script.mem_states_bind.mp hs
        · exact hlater hs
        · obtain rfl := List.mem_singleton.mp hs
          exact hlater (Script.mem_states_run _ _)

/-- A save starts by making the directory, and goes on with the registers. -/
lemma mem_states_saveScript (hmade : fs.makeDirectories d = (.ok (), made))
    (hs : s ∈ (saveScript d b).states fs) :
    s = fs ∨ s ∈ (writeAllScript d b registers).states made := by
  rw [saveScript, Script.states, Move.perform, hmade, List.mem_cons] at hs
  refine hs.imp id fun hs => ?_
  obtain hs | hs := Script.mem_states_bind.mp hs
  · exact hs
  · obtain rfl := List.mem_singleton.mp hs
    exact Script.mem_states_run _ _

/-- A save without errors makes its directory and writes every register. -/
lemma exists_made (h : (save d b fs).1.errors = []) :
    ∃ made, fs.makeDirectories d = (.ok (), made) ∧ (writeAll d b registers made).1 = []
      ∧ made = fs.fill (Path.prefixes (Path.resolve d))
      ∧ ∀ p ∈ Path.prefixes (Path.resolve d), fs.file? p = none := by
  obtain ⟨e, fs', -, heq⟩ | ⟨made, ⟨hway, hfill⟩, heq⟩ := (Move.makeDirectories d).perform_cases fs
  · rw [save, show fs.makeDirectories d = _ from heq] at h
    exact absurd h (by simp [Saving.errors])
  · rw [save_of_ok heq] at h
    exact ⟨made, heq, h, hfill, hway⟩

/-- Between the moves of a save without errors, the registers below some `k` have
been replaced. -/
lemma exists_boundary (hsave : (save d b fs).1.errors = [])
    (hs : s ∈ (saveScript d b).states fs) :
    ∃ k ≤ Register.count, Replaced d b (List.range k) fs s := by
  obtain ⟨made, hmade, hok, -⟩ := exists_made hsave
  obtain rfl | hs := mem_states_saveScript hmade hs
  · exact ⟨0, by simp, by simp, fun _ _ => rfl⟩
  · obtain ⟨k, hk, hnew, hold⟩ := exists_taken hok hs
    rw [registers, List.length_range] at hk
    rw [registers, List.take_range, Nat.min_eq_left hk] at hnew hold
    exact ⟨k, hk, hnew, fun i hi => (hold i hi).trans (get?_slot_of_makeDirectories hmade i)⟩

/-! ### Loading between the moves -/

/-- A register can be read only if its file is whole. -/
lemma whole_of_read (hfs : fs.failures = []) (hrooted : fs.Rooted) {v : Word}
    (hread : (Slot.read d i fs).1 = .ok v) : Whole (Path.resolve d) fs i := by
  cases hget : fs.get? (Slot.place (Path.resolve d) i) with
  | none => exact .inl hget
  | some e =>
      have hway : fs.obstacle? (Path.resolve (Slot.path d i)) = none := by
        rw [Slot.resolve_path]
        exact FileSystem.obstacle?_eq_none_iff.mpr (hrooted _ (by simp [hget]))
      have hlocate : fs.locate (Slot.path d i) = .ok e :=
        FileSystem.locate_of_get? (Slot.path_ne_nil d i) hway (by rw [Slot.resolve_path, hget])
      rw [Slot.read, FileSystem.read_eq hfs, hlocate] at hread
      cases e with
      | directory => exact absurd hread (by simp)
      | file m c =>
          refine .inr ⟨m, c, hget, ?_⟩
          by_contra hlength
          obtain ⟨e, he⟩ := Slot.exists_decode_error hlength
          dsimp only at hread
          rw [he] at hread
          exact absurd hread (by simp)

/-- Where loading meets no error every register can be read. -/
lemma exists_read_of_readAll (hfs : fs.failures = []) (h : (readAll d is fs).1.2 = [])
    (hi : i ∈ is) : ∃ v, (Slot.read d i fs).1 = .ok v := by
  induction is with
  | nil => exact absurd hi (by simp)
  | cons j is ih =>
      have hkept := Slot.read_snd hfs d j
      rw [readAll] at h
      generalize hread : Slot.read d j fs = x at h hkept
      obtain ⟨r, fs'⟩ := x
      obtain rfl : fs' = fs := hkept
      cases r with
      | error e => exact absurd h (by simp)
      | ok v =>
          rcases List.mem_cons.mp hi with rfl | hi
          · exact ⟨v, congrArg Prod.fst hread⟩
          · exact ih h hi

lemma whole_of_load (hfs : fs.failures = []) (hrooted : fs.Rooted) (h : (load d fs).1.2 = [])
    (hi : i < Register.count) : Whole (Path.resolve d) fs i := by
  have herrors : (readAll d registers fs).1.2 = [] := h
  obtain ⟨v, hv⟩ := exists_read_of_readAll hfs herrors (List.mem_range.mpr hi)
  exact whole_of_read hfs hrooted hv

/-- The word of a file is read off it, since the way to it is there. -/
lemma word_of_rooted (h : fs.Rooted) {m : Nat} {c : Bytes} {v : Word}
    (hget : fs.get? (Slot.place loc i) = some (.file m c)) (hc : Slot.decode c = .ok v) :
    word loc fs i = v := by
  have hmade : fs.Made loc := by
    intro p hp
    apply h (Slot.place loc i) (by simp [hget])
    rwa [Slot.place, Path.parents_concat]
  exact word_of_file hmade hget hc

/-- A register with its old file has its old word. -/
lemma word_of_old (h : fs.Rooted) (h' : s.Rooted) (hwhole : Whole loc fs i)
    (hold : s.get? (Slot.place loc i) = fs.get? (Slot.place loc i)) :
    word loc s i = word loc fs i := by
  obtain hnone | ⟨m, c, hget, hlength⟩ := hwhole
  · rw [word_of_missing hnone, word_of_missing (hold.trans hnone)]
  · obtain ⟨v, hv⟩ := Slot.exists_decode hlength
    rw [word_of_rooted h hget hv, word_of_rooted h' (hold.trans hget) hv]

/-- No file is on the way to the directory at any time. -/
lemma way_of_mem_states (hsave : (save d b fs).1.errors = [])
    (hs : s ∈ (saveScript d b).states fs) {p : Location}
    (hp : p ∈ Path.prefixes (Path.resolve d)) : s.file? p = none := by
  obtain ⟨made, hmade, -, rfl, hway⟩ := exists_made hsave
  obtain rfl | hs := mem_states_saveScript hmade hs
  · exact hway p hp
  · rw [FileSystem.file?, get?_way_of_mem_states hs hp, FileSystem.made_fill hway p hp]

/-- A store that can be loaded and saved is legible at any time of a save. -/
lemma legible_of_mem_states (hfs : fs.failures = []) (hrooted : fs.Rooted)
    (hload : (load d fs).1.2 = []) (hsave : (save d b fs).1.errors = [])
    (hs : s ∈ (saveScript d b).states fs) : Legible (Path.resolve d) s where
  failures := Script.failures_of_mem_states hfs hs
  way := fun p hp => way_of_mem_states hsave hs hp
  slot := by
    intro i hi
    obtain ⟨k, -, hnew, hold⟩ := exists_boundary hsave hs
    by_cases hik : i ∈ List.range k
    · obtain ⟨m, hm⟩ := hnew i hik
      exact .inr ⟨m, _, hm, Slot.length_encode _⟩
    · rw [Whole, hold i hik]
      exact whole_of_load hfs hrooted hload hi

/-- **Between any two moves of a save the store can be loaded.**  The files are those
of a tree, in which every entry stands inside a directory.  Where no failure is due,
loading meets no error and the save succeeds, there is a register at each time such
that the ones below it have their new files and all others their old ones; no file of
a register is ever incomplete, and loading gives new words below and old words from
there on. -/
theorem load_between_moves (d : Bytes) (b : Bank) (fs : FileSystem) (hfs : fs.failures = [])
    (hrooted : fs.Rooted) (hload : (load d fs).1.2 = []) (hsave : (save d b fs).1.errors = []) :
    (saveScript d b).run fs = save d b fs
      ∧ ∀ s ∈ (saveScript d b).states fs, ∃ k ≤ 16,
        (∀ r : Fin 16, r.val < k → ∃ m, s.get? (Path.resolve (Slot.path d r))
            = some (.file m (Slot.encode (b.word r))))
          ∧ (∀ r : Fin 16, k ≤ r.val →
            s.get? (Path.resolve (Slot.path d r)) = fs.get? (Path.resolve (Slot.path d r)))
          ∧ (∀ r : Fin 16, s.get? (Path.resolve (Slot.path d r)) = none
            ∨ ∃ m c, s.get? (Path.resolve (Slot.path d r)) = some (.file m c)
              ∧ c.length = Slot.size)
          ∧ ∃ b', load d s = ((b', []), s) ∧ ∀ r : Fin 16,
            b'.word r = if r.val < k then b.word r else (load d fs).1.1.word r := by
  refine ⟨run_saveScript d b fs, fun s hs => ?_⟩
  simp only [Slot.resolve_path]
  have hlegible := legible_of_mem_states hfs hrooted hload hsave hs
  have hstart := legible_of_mem_states hfs hrooted hload hsave (Script.mem_states_self _ fs)
  have hrooted' : s.Rooted := Script.rooted_of_mem_states hrooted hs
  obtain ⟨k, hk, hnew, hold⟩ := exists_boundary hsave hs
  simp only [List.mem_range, Nat.not_lt] at hnew hold
  refine ⟨k, hk, fun r hr => ?_, fun r => hold r, fun r => hlegible.slot r r.isLt, _,
    hlegible.load rfl, fun r => ?_⟩
  · rw [← value_eq_word]
    exact hnew r hr
  · rw [hstart.load rfl, word_bank, word_bank]
    split_ifs with hr
    · obtain ⟨m, hm⟩ := hnew r hr
      rw [word_of_rooted hrooted' hm (Slot.decode_encode _), value_eq_word]
    · exact word_of_old hrooted hrooted' (hstart.slot r r.isLt) (hold r (Nat.le_of_not_lt hr))

/-- A save over one register that is there already: at any time its word is the
old one or the new one. -/
theorem load_between_moves_over_seven :
    let fs : FileSystem :=
      { entries := [([utf8 "r"], .directory),
          ([utf8 "r", utf8 "x1.bin"], .file 0o644 [0, 0, 0, 7])] }
    let b : Bank := Bank.zero.update 1 9#32
    fs.failures = [] ∧ fs.Rooted ∧ (load (utf8 "r") fs).1.2 = []
      ∧ (save (utf8 "r") b fs).1.errors = []
      ∧ ∀ s ∈ (saveScript (utf8 "r") b).states fs,
        (load (utf8 "r") s).1.2 = []
          ∧ ((load (utf8 "r") s).1.1.word 1 = 7#32 ∨ (load (utf8 "r") s).1.1.word 1 = 9#32) := by
  intro fs b
  have hrooted : fs.Rooted := FileSystem.rooted_of_entries (by decide)
  have hload : load (utf8 "r") fs = ((Bank.zero.update 1 7#32, []), fs) := by decide +kernel
  have hsave : (save (utf8 "r") b fs).1.errors = [] := by decide +kernel
  refine ⟨rfl, hrooted, congrArg (fun x => x.1.2) hload, hsave, fun s hs => ?_⟩
  obtain ⟨k, -, -, -, -, b', hb', hword⟩ :=
    (load_between_moves _ b fs rfl hrooted (congrArg (fun x => x.1.2) hload) hsave).2 s hs
  rw [hb']
  refine ⟨rfl, ?_⟩
  dsimp only
  rw [hword, hload]
  split_ifs
  · exact .inr (by decide)
  · exact .inl (by decide)

end Store

end RegisterMachine
