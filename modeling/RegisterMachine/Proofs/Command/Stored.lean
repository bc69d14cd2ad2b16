/-
What the commands do to the stored bank.

* `World.spares_log`: logging spares all places at which the log is not;
* `Run.load_eq`, `Run.exists_save`: loading and saving with their records;
* `Run.exists_deliver`: the events of a run leave the bank that is saved among
  them;
* `Run.exists_execute`, `Registers.exists_store`, `Registers.exists_reset`: a
  program, an assignment and a reset on a store that holds a bank always succeed;
* `Password.spares_store`, `Documentation.spares_show`: the other commands spare
  the store.
-/
import RegisterMachine.Command.Password
import RegisterMachine.Command.Registers
import RegisterMachine.Invocation
import RegisterMachine.Proofs.Machine.Session
import RegisterMachine.Proofs.Store.Stored

namespace RegisterMachine

open FileSystem (Safe Spares)
open Store (Holds)

variable {P : Location → Prop} {loc : Location} {b : Bank} {w : World} {d : Bytes}

/-! ### Logging -/

namespace World

@[simp] lemma withFiles_files (w : World) : w.withFiles w.files = w := rfl

@[simp] lemma output_log (w : World) (r : Log.Record) : (w.log r).output = w.output := by
  rw [log]
  split
  · rfl
  · dsimp only
    split_ifs <;> rfl

/-- Logging spares all places at which the log is not. -/
lemma spares_log (h : w.files.Safe P) (r : Log.Record) : Spares P w.files (w.log r).files := by
  rw [log]
  split
  · exact .refl h
  · dsimp only
    split_ifs
    · exact FileSystem.spares_append h _
    · exact FileSystem.spares_append h _

end World

/-- Logging keeps the stored bank. -/
lemma Store.Holds.log (h : Holds loc b w.files) (r : Log.Record) : Holds loc b (w.log r).files :=
  h.spares (World.spares_log h.orderly.safe r)

lemma Store.Holds.logOption (h : Holds loc b w.files) (r : Option Log.Record) :
    Holds loc b ((r.map w.log).getD w).files := by
  cases r with
  | none => exact h
  | some r => exact h.log r

/-! ### Loading, saving and running -/

namespace Run

/-- Loading the stored bank changes nothing but the log. -/
lemma load_eq (h : Holds loc b w.files) (hd : Path.resolve d = loc) :
    load d w = (.ok b, w.log (Store.loadRecord d b [])) := by
  rw [load, h.load hd]
  rfl

/-- Saving a bank succeeds. -/
lemma exists_save (h : Holds loc b w.files) (hne : d ≠ []) (hd : Path.resolve d = loc)
    (b' : Bank) : ∃ w', save d b' w = ([], w') ∧ Holds loc b' w'.files := by
  obtain ⟨files, hsave, hfiles⟩ := h.save hne hd b'
  refine ⟨(w.withFiles files).log (Store.record (utf8 "registers saved") d b' []), ?_, ?_⟩
  · rw [save, hsave]
    rfl
  · exact Holds.log hfiles _

/-- Printing and logging an event keeps the stored bank. -/
lemma holds_announced (h : Holds loc b w.files) (colours : Palette) (e : Event) :
    Holds loc b ((e.record?.map (w.print (e.output colours)).log).getD
      (w.print (e.output colours))).files :=
  Holds.logOption (w := w.print (e.output colours)) h _

lemma exists_deliver_of_banks_nil (h : Holds loc b w.files) (colours : Palette) (d : Bytes)
    {es : List Event} (hes : es.filterMap Event.bank? = []) :
    ∃ w', deliver colours d es w = ([], w') ∧ Holds loc b w'.files := by
  induction es generalizing w with
  | nil => exact ⟨w, rfl, h⟩
  | cons e es ih =>
      have hannounced := holds_announced h colours e
      cases e with
      | save b' => simp [Event.bank?] at hes
      | _ => exact ih hannounced hes

/-- **The events of a run leave the bank that is saved among them.** -/
theorem exists_deliver (h : Holds loc b w.files) (hne : d ≠ []) (hd : Path.resolve d = loc)
    (colours : Palette) {es : List Event} {b' : Bank} (hes : es.filterMap Event.bank? = [b']) :
    ∃ w', deliver colours d es w = ([], w') ∧ Holds loc b' w'.files := by
  induction es generalizing w with
  | nil => simp at hes
  | cons e es ih =>
      have hannounced := holds_announced h colours e
      cases e with
      | save b'' =>
          obtain ⟨rfl, hrest⟩ := List.cons.inj hes
          obtain ⟨w₁, hsave, hw₁⟩ := exists_save hannounced hne hd b''
          obtain ⟨w₂, hdeliver, hw₂⟩ := exists_deliver_of_banks_nil hw₁ colours d hrest
          refine ⟨w₂, ?_, hw₂⟩
          rw [deliver, deliverEvent]
          dsimp only
          rw [hsave]
          dsimp only
          rw [hdeliver]
          rfl
      | _ => exact ih hannounced hes

/-- Running a program on the stored bank succeeds, also where the program is at
fault, and leaves the bank after the program. -/
lemma exists_execute (h : Holds loc b w.files) {settings : Settings}
    (hne : settings.registersDirectory ≠ [])
    (hd : Path.resolve settings.registersDirectory = loc) (colours : Palette) (path : Bytes)
    (p : Program) :
    ∃ w', execute settings colours path p b w = (.ok (), w')
      ∧ Holds loc (p.result b) w'.files := by
  have hbanks := Machine.banks_run p { bank := b }
  rw [Machine.run_eq] at hbanks
  obtain ⟨w', hdeliver, hw'⟩ := exists_deliver h hne hd colours hbanks
  refine ⟨w'.log (finishedRecord path (Machine.reference p b)), ?_, hw'.log _⟩
  rw [execute, Machine.run_eq]
  dsimp only
  rw [hdeliver]
  rfl

end Run

lemma Program.fetch_snd {fs : FileSystem} (h : fs.failures = []) (path : Bytes) :
    (Program.fetch path fs).2 = fs := by
  have hsnd := FileSystem.read_snd h path
  rw [Program.fetch]
  generalize fs.read path = answer at hsnd ⊢
  obtain ⟨result, files⟩ := answer
  cases result with
  | error e => exact hsnd
  | ok text => exact hsnd

/-! ### The commands on the stored registers -/

namespace Registers

/-- A register keeps the lower half of what it is set to. -/
lemma bank_set_ofNat (b : Bank) {i : Int} (hi : Register.InRange i) (n : Nat) :
    b.set i (BitVec.ofNat 64 n) = .ok (b.put i n) := by
  have hput : b.put i (BitVec.ofNat 64 n).toNat = b.put i n := by
    apply Bank.ext_word
    intro r
    rw [Bank.word_put, Bank.word_put, BitVec.toNat_ofNat]
    congr 1
    apply BitVec.eq_of_toNat_eq
    rw [BitVec.toNat_ofNat, BitVec.toNat_ofNat, Nat.mod_mod_of_dvd _ (by decide)]
  rw [Bank.set_of_inRange b _ hi, hput]

/-- Storing a value in a register succeeds and changes that register only. -/
lemma exists_store (h : Holds loc b w.files) {settings : Settings}
    (hne : settings.registersDirectory ≠ [])
    (hd : Path.resolve settings.registersDirectory = loc) (token : Bytes) {i : Int}
    (hi : Register.InRange i) (n : Nat) :
    ∃ w', store settings token i n w = (.ok (), w') ∧ Holds loc (b.put i n) w'.files := by
  obtain ⟨w', hsave, hw'⟩ := Run.exists_save (h.log _) hne hd (b.put i n)
  refine ⟨w'.log (updatedRecord token n), ?_, hw'.log _⟩
  rw [store, Run.load_eq h hd]
  dsimp only
  rw [bank_set_ofNat b hi]
  dsimp only
  rw [hsave]

/-- A reset succeeds and makes all registers zero. -/
lemma exists_reset (h : Holds loc b w.files) {settings : Settings}
    (hd : Path.resolve settings.registersDirectory = loc) :
    ∃ w', reset settings w = (.ok (), w') ∧ Holds loc .zero w'.files := by
  obtain ⟨files, hclear, hfiles⟩ := h.clear hd
  refine ⟨(w.withFiles files).log (resetRecord settings.registersDirectory), ?_, ?_⟩
  · rw [reset, hclear]
  · exact Holds.log hfiles _

lemma assignment_eq_ok_iff {token text : Bytes} {i : Int} {n : Nat} :
    assignment token text = .ok (i, n)
      ↔ Register.parse token = .ok i ∧ Numeral.readNatural .literal 32 text = .ok n := by
  rw [assignment]
  cases Register.parse token with
  | error cause => simp
  | ok j => cases Numeral.readNatural .literal 32 text <;> simp

lemma inRange_of_assignment {token text : Bytes} {i : Int} {n : Nat}
    (h : assignment token text = .ok (i, n)) : Register.InRange i :=
  Register.inRange_of_parse (assignment_eq_ok_iff.mp h).1

end Registers

/-! ### The other commands -/

section

variable {fs : FileSystem} (h : fs.failures = [])

include h

lemma PasswordFile.verify_snd (path password : Bytes) :
    (PasswordFile.verify path password fs).2 = fs := by
  rw [verify, read, FileSystem.read_eq h]
  cases fs.locate path with
  | error errno => rfl
  | ok e =>
      cases e with
      | directory => rfl
      | file m c =>
          dsimp only
          split_ifs <;> rfl

end

/-- Storing a password spares all places but that of its file. -/
lemma Password.spares_store (h : w.files.Safe P) {settings : Settings}
    (hfree : P (Path.resolve settings.hashFile) →
      w.files.get? (Path.resolve settings.hashFile) = some .directory)
    (cost : Int) (input salt : Bytes) :
    Spares P w.files (Password.store settings cost input salt w).2.files := by
  rw [store]
  split
  · exact .refl h
  · rename_i password _
    rw [PasswordFile.write]
    cases PasswordFile.hash password cost salt with
    | error e => exact .refl h
    | ok text =>
        have hspares := FileSystem.spares_write hfree h PasswordFile.mode text
        dsimp only
        generalize w.files.write PasswordFile.mode settings.hashFile text = written at hspares ⊢
        obtain ⟨result, files⟩ := written
        cases result with
        | error e => exact hspares
        | ok => exact hspares.trans (World.spares_log (w := w.withFiles files) hspares.safe _)

/-- Checking a password spares all places at which the log is not. -/
lemma Password.spares_check (h : w.files.Safe P) (settings : Settings) (input : Bytes) :
    Spares P w.files (Password.check settings input w).2.files := by
  rw [check]
  split
  · exact .refl h
  · rename_i password _
    have hsnd := PasswordFile.verify_snd h.failures settings.hashFile password
    generalize PasswordFile.verify settings.hashFile password w.files = verdict at hsnd ⊢
    obtain ⟨result, files⟩ := verdict
    obtain rfl : files = w.files := hsnd
    cases result with
    | error e => exact .refl h
    | ok isMatch =>
        cases isMatch with
        | true => exact World.spares_log (w := w) h _
        | false => exact World.spares_log (w := w) h _

/-- Showing the manual spares all places but that of the file it is written
to. -/
lemma Documentation.spares_show (h : w.files.Safe P) (t : Manual.Topic) {path : Bytes}
    (hfree : P (Path.resolve path) → w.files.get? (Path.resolve path) = some .directory) :
    Spares P w.files (Documentation.show t path w).2.files := by
  rw [Documentation.show]
  split_ifs
  · exact .refl h
  · have hspares := FileSystem.spares_write hfree h mode (page t)
    rw [write]
    generalize w.files.write mode path (page t) = written at hspares ⊢
    obtain ⟨result, files⟩ := written
    cases result with
    | error e => exact hspares
    | ok => exact hspares

end RegisterMachine
