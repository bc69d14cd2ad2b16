/-
Which entries the commands change, whatever failures are due.

* `Run.grown_perform`, `Registers.grown_set`: a program and an assignment change the
  files of the registers and make the directory of them;
* `Run.appendsTo_deliver`: where a run may move the log;
* `Registers.logged_reset`: a reset changes the files of the registers;
* `Registers.logged_show`, `Password.logged_check`: these change nothing themselves;
* `Password.logged_store`, `Documentation.logged_show`: these write a single file.

In all of them `L` holds at the places of the log and of what the command writes.
-/
import RegisterMachine.Command.Password
import RegisterMachine.Command.Registers
import RegisterMachine.Invocation
import RegisterMachine.Proofs.Command.Course
import RegisterMachine.Proofs.FileSystem.Confinement

namespace RegisterMachine

open FileSystem (Covers Follows Grown Spent AppendsTo)

variable {L : Location → Prop} {ds : List Location} {w : World} {d : Bytes} {settings : Settings}

lemma World.logged_logOption (h : w.files.AppendsTo L) (r : Option Log.Record) :
    FileSystem.Logged L w.files ((r.map w.log).getD w).files := by
  cases r with
  | none => exact h.logged_refl
  | some r => exact (World.logged_log h r).files

lemma World.grown_logOption (h : w.files.AppendsTo L) (r : Option Log.Record)
    (ds : List Location) : Grown L ds w.files ((r.map w.log).getD w).files :=
  (logged_logOption h r).grown ds

/-! ### Programs -/

namespace Run

lemma grown_save (hL : Covers L (Path.resolve d)) (h : w.files.AppendsTo L) (b : Bank) :
    Grown L (Path.prefixes (Path.resolve d)) w.files (save d b w).2.files := by
  have hsaved := h.grown_save hL b
  rw [save]
  generalize Store.save d b w.files = x at hsaved ⊢
  obtain ⟨saving, files⟩ := x
  exact hsaved.trans (World.grown_logOption (w := w.withFiles files) hsaved.appendsTo _ _)

lemma grown_deliverEvent (hL : Covers L (Path.resolve d)) (h : w.files.AppendsTo L)
    (colours : Palette) (e : Event) :
    Grown L (Path.prefixes (Path.resolve d)) w.files (deliverEvent colours d e w).2.files := by
  have hlogged := World.grown_logOption (w := w.print (e.output colours)) h e.record?
    (Path.prefixes (Path.resolve d))
  cases e with
  | save b => exact hlogged.trans (grown_save hL hlogged.appendsTo b)
  | _ => exact hlogged

/-- The events of a run change the files of the registers and make the directory of
them. -/
lemma grown_deliver (hL : Covers L (Path.resolve d)) (h : w.files.AppendsTo L)
    (colours : Palette) (es : List Event) :
    Grown L (Path.prefixes (Path.resolve d)) w.files (deliver colours d es w).2.files := by
  induction es generalizing w with
  | nil => exact h.grown_refl _
  | cons e es ih =>
      have hevent := grown_deliverEvent hL h colours e
      exact hevent.trans (ih hevent.appendsTo)

/-- After a bank has been saved there is at most a record of that. -/
lemma logged_save (hL : Follows L (Path.resolve d)) (h : w.files.AppendsTo L) (b : Bank) :
    FileSystem.Logged L (Store.save d b w.files).2 (save d b w).2.files := by
  have hsaved := h.save hL b
  rw [save]
  generalize Store.save d b w.files = x at hsaved ⊢
  obtain ⟨saving, files⟩ := x
  exact World.logged_logOption (w := w.withFiles files) hsaved _

lemma appendsTo_save (hL : Follows L (Path.resolve d)) (h : w.files.AppendsTo L) (b : Bank) :
    (save d b w).2.files.AppendsTo L :=
  (logged_save hL h b).appendsTo

/-- The events of a run move the log at most from beside the file of a register to that
file. -/
lemma appendsTo_deliver (hL : Follows L (Path.resolve d)) (h : w.files.AppendsTo L)
    (colours : Palette) (es : List Event) : (deliver colours d es w).2.files.AppendsTo L := by
  induction es generalizing w with
  | nil => exact h
  | cons e es ih =>
      have hlogged := (World.grown_logOption (w := w.print (e.output colours)) h e.record?
        []).appendsTo
      have hevent : (deliverEvent colours d e w).2.files.AppendsTo L := by
        cases e with
        | save b => exact appendsTo_save hL hlogged b
        | _ => exact hlogged
      exact ih hevent

lemma grown_execute (hL : Covers L (Path.resolve settings.registersDirectory))
    (h : w.files.AppendsTo L) (colours : Palette) (path : Bytes) (p : Program) (b : Bank) :
    Grown L (Path.prefixes (Path.resolve settings.registersDirectory)) w.files
      (execute settings colours path p b w).2.files := by
  have hdelivered := grown_deliver hL h colours (({ bank := b } : Machine).run p).2
  rw [execute]
  dsimp only
  split_ifs
  · exact hdelivered.trans ((World.logged_log hdelivered.appendsTo _).files.grown _)
  · exact hdelivered.trans ((World.logged_log hdelivered.appendsTo _).files.grown _)

/-- Running a program changes the files of the registers and makes the directory of
them. -/
theorem grown_perform (hL : Covers L (Path.resolve settings.registersDirectory))
    (h : w.files.AppendsTo L) (path : Bytes) :
    Grown L (Path.prefixes (Path.resolve settings.registersDirectory)) w.files
      (perform settings path w).2.files := by
  cases hcolours : palette settings with
  | error e =>
      rw [perform, hcolours]
      exact h.grown_refl _
  | ok colours =>
      cases hfetch : (Program.fetch path w.files).1 with
      | error e =>
          rw [perform_of_unread hcolours hfetch]
          exact (h.logged_of_spent (Program.spent_fetch path w.files)).grown _
      | ok p =>
          have hfetched := logged_fetched h path p
          have hloaded := hfetched.trans
            (logged_load hfetched.files.appendsTo settings.registersDirectory)
          cases hload : (load settings.registersDirectory (fetched path p w)).1 with
          | error e =>
              rw [perform_of_unloaded hcolours hfetch hload]
              exact hloaded.files.grown _
          | ok b =>
              rw [perform_of_loaded hcolours hfetch hload]
              exact (hloaded.files.grown _).trans
                (grown_execute hL hloaded.files.appendsTo colours path p b)

end Run

/-! ### The commands on the stored registers -/

namespace Registers

/-- Showing the registers changes nothing itself. -/
lemma logged_show (h : w.files.AppendsTo L) (settings : Settings) (format : Bytes) :
    FileSystem.Logged L w.files (Registers.show settings format w).2.files := by
  have hloaded := Run.logged_load h settings.registersDirectory
  rw [Registers.show]
  split
  · exact h.logged_refl
  · generalize Run.load settings.registersDirectory w = x at hloaded ⊢
    obtain ⟨r, w₁⟩ := x
    cases r with
    | error e => exact hloaded.files
    | ok b =>
        dsimp only
        cases Format.ofName? format with
        | none => exact hloaded.files
        | some f => exact hloaded.files

lemma grown_store (hL : Covers L (Path.resolve settings.registersDirectory))
    (h : w.files.AppendsTo L) (token : Bytes) (i : Int) (n : Nat) :
    Grown L (Path.prefixes (Path.resolve settings.registersDirectory)) w.files
      (store settings token i n w).2.files := by
  have hloaded := Run.logged_load h settings.registersDirectory
  rw [store]
  generalize Run.load settings.registersDirectory w = x at hloaded ⊢
  obtain ⟨r, w₁⟩ := x
  cases r with
  | error e => exact hloaded.files.grown _
  | ok b =>
      dsimp only
      cases b.set i (BitVec.ofNat 64 n) with
      | error cause => exact hloaded.files.grown _
      | ok b' =>
          have hsaved := (hloaded.files.grown _).trans
            (Run.grown_save hL hloaded.files.appendsTo b')
          dsimp only at hsaved ⊢
          generalize Run.save settings.registersDirectory b' w₁ = y at hsaved ⊢
          obtain ⟨errors, w₂⟩ := y
          cases errors with
          | nil => exact hsaved.trans ((World.logged_log hsaved.appendsTo _).files.grown _)
          | cons e errors => exact hsaved

/-- An assignment changes the files of the registers and makes the directory of
them. -/
theorem grown_set (hL : Covers L (Path.resolve settings.registersDirectory))
    (h : w.files.AppendsTo L) (token text : Bytes) :
    Grown L (Path.prefixes (Path.resolve settings.registersDirectory)) w.files
      (set settings token text w).2.files := by
  rw [set]
  cases assignment token text with
  | error e => exact h.grown_refl _
  | ok a => exact grown_store hL h token a.1 a.2

/-- A reset changes the files of the registers. -/
theorem logged_reset (h : w.files.AppendsTo L) (hL : ∀ i ∈ Store.registers,
      L (Path.resolve (Slot.path settings.registersDirectory i))) :
    FileSystem.Logged L w.files (reset settings w).2.files := by
  have hcleared := h.logged_clear hL
  rw [reset]
  generalize Store.clear settings.registersDirectory w.files = x at hcleared ⊢
  obtain ⟨errors, files⟩ := x
  cases errors with
  | nil =>
      exact hcleared.trans (World.logged_log (w := w.withFiles files) hcleared.appendsTo _).files
  | cons e errors => exact hcleared

end Registers

/-! ### The other commands -/

lemma PasswordFile.spent_verify (path password : Bytes) (fs : FileSystem) :
    Spent fs (PasswordFile.verify path password fs).2 := by
  have hread := FileSystem.spent_read fs path
  rw [verify, read]
  generalize fs.read path = x at hread ⊢
  obtain ⟨r, fs₁⟩ := x
  cases r with
  | error e => exact hread
  | ok data =>
      dsimp only
      split_ifs <;> exact hread

/-- Checking a password changes nothing itself. -/
lemma Password.logged_check (h : w.files.AppendsTo L) (settings : Settings) (input : Bytes) :
    FileSystem.Logged L w.files (Password.check settings input w).2.files := by
  rw [check]
  split
  · exact h.logged_refl
  · rename_i password _
    have hread := h.logged_of_spent
      (PasswordFile.spent_verify settings.hashFile password w.files)
    generalize PasswordFile.verify settings.hashFile password w.files = x at hread ⊢
    obtain ⟨r, files⟩ := x
    cases r with
    | error e => exact hread
    | ok isMatch =>
        have hlogged := hread.trans (World.logged_log (w := w.withFiles files) hread.appendsTo
          (checkedRecord settings.hashFile isMatch)).files
        dsimp only
        split_ifs
        · exact hlogged
        · exact hlogged

/-- Storing a password writes its file. -/
lemma Password.logged_store (h : w.files.AppendsTo L)
    (hL : L (Path.resolve settings.hashFile)) (cost : Int) (input salt : Bytes) :
    FileSystem.Logged L w.files (Password.store settings cost input salt w).2.files := by
  rw [store]
  split
  · exact h.logged_refl
  · rename_i password _
    rw [PasswordFile.write]
    cases PasswordFile.hash password cost salt with
    | error e => exact h.logged_refl
    | ok text =>
        have hwritten := h.logged_write hL PasswordFile.mode text
        dsimp only
        generalize w.files.write PasswordFile.mode settings.hashFile text = x at hwritten ⊢
        obtain ⟨r, files⟩ := x
        cases r with
        | error e => exact hwritten
        | ok =>
            exact hwritten.trans
              (World.logged_log (w := w.withFiles files) hwritten.appendsTo _).files

/-- Showing the manual writes the file that is asked for, if there is one. -/
lemma Documentation.logged_show (h : w.files.AppendsTo L) (t : Manual.Topic) {path : Bytes}
    (hL : path ≠ [] → L (Path.resolve path)) :
    FileSystem.Logged L w.files (Documentation.show t path w).2.files := by
  rw [Documentation.show]
  split_ifs with hempty
  · exact h.logged_refl
  · have hwritten := h.logged_write (hL (by simpa using hempty)) mode (page t)
    rw [write]
    generalize w.files.write mode path (page t) = x at hwritten ⊢
    obtain ⟨r, files⟩ := x
    cases r with
    | error e => exact hwritten
    | ok => exact hwritten

end RegisterMachine
