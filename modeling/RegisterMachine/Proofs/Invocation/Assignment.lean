/-
Setting a register changes that register or nothing.

* `Store.load_fst_of_lengthened`: a log that is none of the registers takes nothing from
  what is loaded, and `Store.load_of_lengthened`: nor from what was saved;
* `Run.load_of_saved`: what was saved is loaded once the log has been closed;
* `Registers.set_of_rejected`, `Registers.set_of_unloaded`, `Registers.set_of_loaded`: the
  courses that an assignment can take;
* `Call.Assigns`: a call comes to an assignment, and its log can be set up;
* `Plan.LogApart`, `Plan.LogClear`: where its log is not;
* `outcome_of_assignment`: **such a call changes one register, or nothing but the log, or it
  fails since the bank cannot be saved**;
* `value_lost_in_log`: the log must not be where a register is written first.
-/
import RegisterMachine.Proofs.Invocation.ProgramName
import RegisterMachine.Proofs.Store.RoundTrip
import RegisterMachine.Proofs.Text.Numeral

namespace RegisterMachine

open FileSystem (Follows Lengthened)

variable {L : Location → Prop} {fs fs' : FileSystem} {w : World} {d token text : Bytes} {b : Bank}

/-! ### Loading beside a log -/

/-- A file that has stayed as it is can be read as before, or it was missing and now there
is a file in the way. -/
lemma FileSystem.Lengthened.read_cases (h : Lengthened fs fs') (hfs : fs.failures = [])
    {path : Bytes} (hget : fs'.get? (Path.resolve path) = fs.get? (Path.resolve path)) :
    (fs'.read path).1 = (fs.read path).1
      ∨ ∃ e e', (fs.read path).1 = .error e ∧ e.errno = .notFound
        ∧ (fs'.read path).1 = .error e' ∧ e'.errno = .notDirectory := by
  rw [FileSystem.read_eq hfs, FileSystem.read_eq h.failures]
  obtain hsame | ⟨hmissing, hway⟩ := h.locate_cases hget
  · rw [hsame]
    exact .inl rfl
  · rw [hmissing, hway]
    exact .inr ⟨_, _, rfl, rfl, rfl, rfl⟩

namespace Store

/-- Registers whose files have stayed as they are have the same words.  A complaint about
one of them stays, but there may be others. -/
lemma answer_of_lengthened (h : Lengthened fs fs') (hfs : fs.failures = []) {i : Nat}
    (hslot : fs'.get? (Slot.place (Path.resolve d) i) = fs.get? (Slot.place (Path.resolve d) i)) :
    Slot.wordOf (answer d fs' i) = Slot.wordOf (answer d fs i)
      ∧ (Slot.complaint? (Slot.path d i) (answer d fs' i) = none →
        Slot.complaint? (Slot.path d i) (answer d fs i) = none) := by
  have hget : fs'.get? (Path.resolve (Slot.path d i)) = fs.get? (Path.resolve (Slot.path d i)) := by
    rw [Slot.resolve_path, hslot]
  have halone (fs : FileSystem) (hfs : fs.failures = []) :
      answer d fs i = (fs.read (Slot.path d i)).1 := answer_eq_read (by simp [hfs]) d i
  rw [halone fs hfs, halone fs' h.failures]
  obtain hsame | ⟨e, e', he, herrno, he', -⟩ := h.read_cases hfs hget
  · rw [hsame]
    exact ⟨rfl, id⟩
  · rw [he, he']
    exact ⟨rfl, fun _ => if_pos herrno⟩

/-- **A bank that is loaded beside a log is the one that was stored before.** -/
lemma load_fst_of_lengthened (h : Lengthened fs fs') (hfs : fs.failures = [])
    (hslots : ∀ i ∈ registers, fs'.get? (Slot.place (Path.resolve d) i)
      = fs.get? (Slot.place (Path.resolve d) i))
    (hload : (load d fs').1.2 = []) : (load d fs).1 = (load d fs').1 := by
  have hanswer (r : Fin 16) := answer_of_lengthened h hfs (hslots r (List.mem_range.mpr r.isLt))
  have hbank : (load d fs).1.1 = (load d fs').1.1 := by
    apply Bank.ext_word
    intro r
    rw [word_load, word_load, (hanswer r).1]
  have herrors : (load d fs).1.2 = [] :=
    errors_load_eq_nil_iff.mpr fun r => (hanswer r).2 (errors_load_eq_nil_iff.mp hload r)
  exact Prod.ext hbank (herrors.trans hload.symm)

/-- What was saved without errors is loaded beside a log. -/
lemma load_of_lengthened (h : Lengthened (save d b fs).2 fs')
    (hslots : ∀ i ∈ registers, fs'.get? (Slot.place (Path.resolve d) i)
      = (save d b fs).2.get? (Slot.place (Path.resolve d) i))
    (hsave : (save d b fs).1.errors = []) : load d fs' = ((b, []), fs') := by
  refine load_of_encoded (fun q hq => ?_) (fun i hi => ?_) fun i _ =>
    ⟨FileSystem.clear_of_nil h.failures _ _, FileSystem.clear_of_nil h.failures _ _⟩
  · exact (h.directory_iff q).mpr ((ready_of_save hsave).made q hq)
  · rw [hslots i (List.mem_range.mpr hi)]
    exact ⟨_, (get?_save_of_ok hsave hi).1⟩

end Store

/-! ### Assignments -/

namespace Run

lemma load_snd_eq (h : w.files.failures = []) (d : Bytes) :
    (load d w).2
      = w.log (Store.loadRecord d (Store.load d w.files).1.1 (Store.load d w.files).1.2) := by
  have hsnd := Store.load_snd h d
  rw [load]
  generalize Store.load d w.files = x at hsnd ⊢
  obtain ⟨⟨b, errors⟩, files⟩ := x
  obtain rfl : files = w.files := hsnd
  rfl

/-- What was saved without errors is followed by a record at most. -/
lemma lengthened_save (h : w.files.failures = []) (hsave : (save d b w).1 = []) :
    Lengthened (Store.save d b w.files).2 (save d b w).2.files := by
  have hfailures := (Store.failures_save_of_ok hsave).trans h
  exact World.lengthened_logOption (w := w.withFiles (Store.save d b w.files).2) hfailures _

/-- **What was saved is loaded once the log has been closed**, if the log is neither a
register nor where one is written first. -/
lemma load_of_saved (hfs : w.files.failures = []) (hheld : w.files.AppendsTo L)
    (hL : ∀ i ∈ Store.registers, ¬ L (Slot.place (Path.resolve d) i)
      ∧ ¬ L (Slot.scratchPlace (Path.resolve d) i))
    (hsave : (save d b w).1 = []) (r : Log.Record) :
    Store.load d ((save d b w).2.log r).files.closeAppender
      = ((b, []), ((save d b w).2.log r).files.closeAppender) := by
  have hfollows : Follows L (Path.resolve d) := fun i hi hscratch => absurd hscratch (hL i hi).2
  have hsaved := lengthened_save hfs hsave
  have hrecorded := hsaved.trans (World.lengthened_log hsaved.failures r)
  have hclosed : Lengthened (Store.save d b w.files).2
      ((save d b w).2.log r).files.closeAppender :=
    ⟨hrecorded.failures, hrecorded.directory_iff, hrecorded.file⟩
  have hlogged := logged_save hfollows hheld b
  have hwithin := (hlogged.trans (World.logged_log hlogged.appendsTo r).files).within
  exact Store.load_of_lengthened hclosed (fun i hi => hwithin _ (hL i hi).1) hsave

end Run

namespace Registers

variable {settings : Settings} {i : Int} {n : Nat}

/-- Words that name no register or no value are wrong usage. -/
lemma exitCode_of_assignment {e : CommandError} (h : assignment token text = .error e) :
    e.exitCode = 1 := by
  rw [assignment] at h
  cases hparse : Register.parse token with
  | error cause =>
      rw [hparse] at h
      exact Except.error.inj h ▸ rfl
  | ok j =>
      rw [hparse] at h
      dsimp only at h
      cases hread : Numeral.readNatural .literal 32 text with
      | error e' =>
          rw [hread] at h
          exact Except.error.inj h ▸ rfl
      | ok m => simp [hread] at h

lemma set_of_rejected {e : CommandError} (h : assignment token text = .error e) (w : World) :
    set settings token text w = (.error e, w) := by
  rw [set, h]

lemma set_of_unloaded (h : assignment token text = .ok (i, n))
    (hload : (Store.load settings.registersDirectory w.files).1.2 ≠ []) :
    set settings token text w
      = (.error (.load settings.registersDirectory
          (Store.load settings.registersDirectory w.files).1.2),
        (Run.load settings.registersDirectory w).2) := by
  have herror := Run.load_of_ne_nil hload
  rw [set, h]
  dsimp only
  rw [store]
  generalize Run.load settings.registersDirectory w = x at herror ⊢
  obtain ⟨r, w'⟩ := x
  obtain rfl : r = _ := herror
  rfl

/-- The bank with the value in the register is saved, and a record tells of that. -/
lemma set_of_loaded (h : assignment token text = .ok (i, n))
    (hload : (Store.load settings.registersDirectory w.files).1 = (b, [])) :
    let saved := Run.save settings.registersDirectory (b.put i n)
      (Run.load settings.registersDirectory w).2
    set settings token text w
      = if saved.1 = [] then (.ok (), saved.2.log (updatedRecord token n))
        else (.error (.store saved.1), saved.2) := by
  have hok := Run.load_of_nil hload
  rw [set, h]
  dsimp only
  rw [store]
  generalize Run.load settings.registersDirectory w = x at hok ⊢
  obtain ⟨r, w'⟩ := x
  obtain rfl : r = .ok b := hok
  dsimp only
  rw [bank_set_ofNat b (inRange_of_assignment h)]
  dsimp only
  generalize Run.save settings.registersDirectory (b.put i n) w' = saved
  obtain ⟨errors, w''⟩ := saved
  cases errors with
  | nil => rfl
  | cons e errors => rfl

end Registers

/-! ### Calls -/

/-- No failure is due and no file is held open, the call comes to an assignment with two
words, and its log can be set up. -/
structure Call.Assigns (c : Call) (fs : FileSystem) (p : Plan) (token text : Bytes) : Prop where
  failures : fs.failures = []
  closed : fs.appender = none
  intent : c.intent? fs = some p
  command : p.command = .registersSet
  noHelp : p.flags.wantsHelp = false
  words : p.flags.words = [token, text]
  setUp : (p.setUp fs).1 = .ok ()

/-- The log is not the file of a register. -/
def Plan.LogApart (p : Plan) : Prop :=
  ∀ i ∈ Store.registers, ¬ p.IsLog (Slot.place (Path.resolve p.settings.registersDirectory) i)

/-- The log is not where a register is written first. -/
def Plan.LogClear (p : Plan) : Prop :=
  ∀ i ∈ Store.registers,
    ¬ p.IsLog (Slot.scratchPlace (Path.resolve p.settings.registersDirectory) i)

/-- Saves the stored bank with `n` in register `i`, once the log has been set up and the
bank has been loaded. -/
def Plan.assign (p : Plan) (fs : FileSystem) (i : Int) (n : Nat) : List StoreError × World :=
  Run.save p.settings.registersDirectory
    ((Store.load p.settings.registersDirectory fs).1.1.put i n)
    (Run.load p.settings.registersDirectory (p.setUp fs).2).2

/-- The bank is loaded once the log has been set up only if it could be loaded before. -/
lemma Plan.load_fst {p : Plan} (hfs : fs.failures = []) (hclosed : fs.appender = none)
    (hapart : p.LogApart)
    (hload : (Store.load p.settings.registersDirectory (p.setUp fs).2.files).1.2 = []) :
    (Store.load p.settings.registersDirectory fs).1
      = (Store.load p.settings.registersDirectory (p.setUp fs).2.files).1 := by
  have hlogged : World.Logged p.IsLog { files := fs } (p.setUp fs).2 :=
    p.logged_setUp hclosed fun _ => id
  exact Store.load_fst_of_lengthened
    (Invocation.lengthened_setUpLogging (w := { files := fs }) hfs _ _ _ _) hfs
    (fun i hi => hlogged.files.within _ (hapart i hi)) hload

namespace Call.Assigns

variable {c : Call} {p : Plan}

lemma perform_eq (h : c.Assigns fs p token text) :
    c.perform fs = Invocation.finish (Registers.set p.settings token text (p.setUp fs).2).1
      (Registers.set p.settings token text (p.setUp fs).2).2 := by
  have hrun : Invocation.runCommand c.surroundings p.settings p.flags p.command (p.setUp fs).2
      = Registers.set p.settings token text (p.setUp fs).2 := by
    unfold Invocation.runCommand
    rw [h.command, h.words]
  rw [Call.perform_of_setUp h.failures h.intent h.noHelp (by rw [h.command]; rfl)
    (by rw [h.command, h.words]; rfl) h.setUp, hrun]

lemma lengthened (h : c.Assigns fs p token text) : Lengthened fs (p.setUp fs).2.files :=
  Invocation.lengthened_setUpLogging (w := { files := fs }) h.failures _ _ _ _

lemma logged (h : c.Assigns fs p token text) :
    World.Logged p.IsLog { files := fs } (p.setUp fs).2 :=
  p.logged_setUp h.closed fun _ => id

lemma load_fst (h : c.Assigns fs p token text) (hapart : p.LogApart)
    (hload : (Store.load p.settings.registersDirectory (p.setUp fs).2.files).1.2 = []) :
    (Store.load p.settings.registersDirectory fs).1
      = (Store.load p.settings.registersDirectory (p.setUp fs).2.files).1 :=
  Plan.load_fst h.failures h.closed hapart hload

variable {i : Int} {n : Nat}

/-- What is only logged changes nothing else. -/
lemma get?_finish (h : c.Assigns fs p token text) (hw : World.Logged p.IsLog (p.setUp fs).2 w)
    (r : Except CommandError Unit) {q : Location} (hq : ¬ p.IsLog q) :
    (Invocation.finish r w).files.get? q = fs.get? q := by
  rw [Invocation.get?_finish]
  exact (h.logged.trans hw).files.within q hq

/-- Words that name no register or no value end the call before anything is loaded. -/
lemma outcome_of_rejected (h : c.Assigns fs p token text) {e : CommandError}
    (he : Registers.assignment token text = .error e) :
    (c.perform fs).error = some e ∧ (c.perform fs).status = 1
      ∧ ∀ q, ¬ p.IsLog q → (c.perform fs).files.get? q = fs.get? q := by
  have hperform : c.perform fs = Invocation.finish (.error e) (p.setUp fs).2 := by
    rw [h.perform_eq, Registers.set_of_rejected he]
  have herror : (c.perform fs).error = some e := by rw [hperform, Invocation.finish]
  refine ⟨herror, ?_, fun q hq => ?_⟩
  · rw [Outcome.status_of_some herror, Registers.exitCode_of_assignment he]
  · rw [hperform]
    exact h.get?_finish ⟨rfl, h.logged.files.appendsTo.logged_refl⟩ _ hq

/-- A bank that cannot be loaded ends the call before anything is saved. -/
lemma outcome_of_unloaded (h : c.Assigns fs p token text)
    (hok : Registers.assignment token text = .ok (i, n))
    (hload : (Store.load p.settings.registersDirectory (p.setUp fs).2.files).1.2 ≠ []) :
    (c.perform fs).error
        = some (.load p.settings.registersDirectory
          (Store.load p.settings.registersDirectory (p.setUp fs).2.files).1.2)
      ∧ (c.perform fs).status = 2
      ∧ ∀ q, ¬ p.IsLog q → (c.perform fs).files.get? q = fs.get? q := by
  have hperform : c.perform fs
      = Invocation.finish (.error (.load p.settings.registersDirectory
          (Store.load p.settings.registersDirectory (p.setUp fs).2.files).1.2))
        (Run.load p.settings.registersDirectory (p.setUp fs).2).2 := by
    rw [h.perform_eq, Registers.set_of_unloaded hok hload]
  have herror := congrArg Outcome.error hperform
  rw [Invocation.finish] at herror
  refine ⟨herror, ?_, fun q hq => ?_⟩
  · rw [Outcome.status_of_some herror, CommandError.exitCode]
  · rw [hperform]
    exact h.get?_finish (Run.logged_load h.logged.files.appendsTo _) _ hq

/-- Otherwise the bank is saved. -/
lemma set_eq (h : c.Assigns fs p token text) (hapart : p.LogApart)
    (hok : Registers.assignment token text = .ok (i, n))
    (hload : (Store.load p.settings.registersDirectory (p.setUp fs).2.files).1.2 = []) :
    Registers.set p.settings token text (p.setUp fs).2
      = if (p.assign fs i n).1 = [] then
          (.ok (), (p.assign fs i n).2.log (Registers.updatedRecord token n))
        else (.error (.store (p.assign fs i n).1), (p.assign fs i n).2) := by
  have hbank : (Store.load p.settings.registersDirectory (p.setUp fs).2.files).1
      = ((Store.load p.settings.registersDirectory fs).1.1, []) :=
    Prod.ext (congrArg Prod.fst (h.load_fst hapart hload)).symm hload
  rw [Plan.assign]
  exact Registers.set_of_loaded hok hbank

lemma perform_of_saved (h : c.Assigns fs p token text) (hapart : p.LogApart)
    (hok : Registers.assignment token text = .ok (i, n))
    (hload : (Store.load p.settings.registersDirectory (p.setUp fs).2.files).1.2 = [])
    (hsave : (p.assign fs i n).1 = []) :
    c.perform fs
      = Invocation.finish (.ok ()) ((p.assign fs i n).2.log (Registers.updatedRecord token n)) := by
  rw [h.perform_eq, h.set_eq hapart hok hload, if_pos hsave]

/-- A bank that cannot be saved makes the call fail. -/
lemma outcome_of_unsaved (h : c.Assigns fs p token text) (hapart : p.LogApart)
    (hok : Registers.assignment token text = .ok (i, n))
    (hload : (Store.load p.settings.registersDirectory (p.setUp fs).2.files).1.2 = [])
    (hsave : (p.assign fs i n).1 ≠ []) :
    (c.perform fs).error = some (.store (p.assign fs i n).1) ∧ (c.perform fs).status = 3 := by
  have herror : (c.perform fs).error = some (.store (p.assign fs i n).1) := by
    rw [h.perform_eq, h.set_eq hapart hok hload, if_neg hsave, Invocation.finish]
  refine ⟨herror, ?_⟩
  rw [Outcome.status_of_some herror, CommandError.exitCode]

/-- A call that succeeds was given a register and a value, and the bank could be loaded and
saved. -/
lemma exists_of_status (h : c.Assigns fs p token text) (hapart : p.LogApart)
    (hstatus : (c.perform fs).status = 0) :
    ∃ i n, Registers.assignment token text = .ok (i, n)
      ∧ (Store.load p.settings.registersDirectory (p.setUp fs).2.files).1.2 = []
      ∧ (p.assign fs i n).1 = [] := by
  cases hassignment : Registers.assignment token text with
  | error e =>
      obtain ⟨-, hone, -⟩ := h.outcome_of_rejected hassignment
      exact absurd (hstatus.symm.trans hone) (by decide)
  | ok a =>
      obtain ⟨i, n⟩ := a
      refine ⟨i, n, rfl, ?_⟩
      by_cases hload : (Store.load p.settings.registersDirectory (p.setUp fs).2.files).1.2 = []
      · by_cases hsave : (p.assign fs i n).1 = []
        · exact ⟨hload, hsave⟩
        · obtain ⟨-, hthree⟩ := h.outcome_of_unsaved hapart hassignment hload hsave
          exact absurd (hstatus.symm.trans hthree) (by decide)
      · obtain ⟨-, htwo, -⟩ := h.outcome_of_unloaded hassignment hload
        exact absurd (hstatus.symm.trans htwo) (by decide)

/-- After a call that succeeds the bank that is loaded differs in one register. -/
lemma load_perform (h : c.Assigns fs p token text) (hapart : p.LogApart) (hclear : p.LogClear)
    (hok : Registers.assignment token text = .ok (i, n))
    (hload : (Store.load p.settings.registersDirectory (p.setUp fs).2.files).1.2 = [])
    (hsave : (p.assign fs i n).1 = []) :
    Store.load p.settings.registersDirectory (c.perform fs).files
      = (((Store.load p.settings.registersDirectory fs).1.1.put i n, []),
        (c.perform fs).files) := by
  have hloaded := Run.logged_load h.logged.files.appendsTo p.settings.registersDirectory
  have hfailures : (Run.load p.settings.registersDirectory (p.setUp fs).2).2.files.failures
      = [] := by
    rw [Run.load_snd_eq h.lengthened.failures]
    exact (World.lengthened_log h.lengthened.failures _).failures
  rw [h.perform_of_saved hapart hok hload hsave, Invocation.finish]
  rw [Plan.assign] at hsave ⊢
  exact Run.load_of_saved hfailures hloaded.files.appendsTo
    (fun j hj => ⟨hapart j hj, hclear j hj⟩) hsave _

end Call.Assigns

/-- **Setting a register changes that register or nothing.**  Where the log can be set up and
is not a register: if the words name no register or no value the call fails with status 1,
whatever the files hold; if the bank cannot be loaded it fails with status 2; both times
nothing has changed but the log.  Otherwise it fails with status 3 exactly if the bank
cannot be saved.  If it ends with status 0, and the log is not where a register is written
first either, the bank that is loaded afterwards has the value in the register, which is
below `2 ^ 32`, and the words from before in all others, whether they had files or not. -/
theorem outcome_of_assignment {c : Call} {p : Plan} {fs : FileSystem} {token text : Bytes}
    (h : c.Assigns fs p token text) (hapart : p.LogApart) :
    let d := p.settings.registersDirectory
    let o := c.perform fs
    (∀ e, Registers.assignment token text = .error e →
        o.error = some e ∧ o.status = 1 ∧ ∀ q, ¬ p.IsLog q → o.files.get? q = fs.get? q)
      ∧ (∀ i n, Registers.assignment token text = .ok (i, n) →
        (Store.load d fs).1.2 ≠ [] ∨ (Store.load d (p.setUp fs).2.files).1.2 ≠ [] →
        o.error = some (.load d (Store.load d (p.setUp fs).2.files).1.2) ∧ o.status = 2
          ∧ ∀ q, ¬ p.IsLog q → o.files.get? q = fs.get? q)
      ∧ (∀ i n, Registers.assignment token text = .ok (i, n) →
        (Store.load d (p.setUp fs).2.files).1.2 = [] →
        ((p.assign fs i n).1 ≠ [] → o.error = some (.store (p.assign fs i n).1) ∧ o.status = 3)
          ∧ ((p.assign fs i n).1 = [] → o.error = none ∧ o.status = 0))
      ∧ (p.LogClear → o.status = 0 → ∃ r : Fin 16, ∃ n b b',
        Register.parse token = .ok (r.val : Int)
          ∧ Numeral.readNatural .literal 32 text = .ok n ∧ n < Nat.pow 2 32
          ∧ Store.load d fs = ((b, []), fs) ∧ Store.load d o.files = ((b', []), o.files)
          ∧ (b'.word r).toNat = n ∧ ∀ r' ≠ r, b'.word r' = b.word r') := by
  refine ⟨fun e he => h.outcome_of_rejected he, fun i n hok hload => ?_, fun i n hok hload =>
    ⟨h.outcome_of_unsaved hapart hok hload, fun hsave => ?_⟩, fun hclear hstatus => ?_⟩
  · refine h.outcome_of_unloaded hok fun hnil => ?_
    obtain hbefore | hnow := hload
    · rw [h.load_fst hapart hnil] at hbefore
      exact hbefore hnil
    · exact hnow hnil
  · have herror : (c.perform fs).error = none := by
      rw [h.perform_of_saved hapart hok hload hsave, Invocation.finish]
    exact ⟨herror, Outcome.status_of_none herror⟩
  · obtain ⟨i, n, hok, hload, hsave⟩ := h.exists_of_status hapart hstatus
    obtain ⟨hparse, hread⟩ := Registers.assignment_eq_ok_iff.mp hok
    have hlt := Numeral.lt_of_readNatural hread
    obtain ⟨hnonneg, hcount⟩ := Registers.inRange_of_assignment hok
    obtain ⟨k, rfl⟩ := Int.eq_ofNat_of_zero_le hnonneg
    have hk : k < 16 := by exact_mod_cast hcount
    have hbefore : (Store.load p.settings.registersDirectory fs).1.2 = [] := by
      rw [h.load_fst hapart hload, hload]
    refine ⟨⟨k, hk⟩, n, (Store.load p.settings.registersDirectory fs).1.1, _, hparse, hread, hlt,
      Prod.ext (Prod.ext rfl hbefore) (Store.load_snd h.failures _),
      h.load_perform hapart hclear hok hload hsave, ?_, fun r' hr' => ?_⟩
    · rw [Bank.word_put, if_pos rfl, BitVec.toNat_ofNat]
      exact Nat.mod_eq_of_lt hlt
    · have hne : (r'.val : Int) ≠ k := fun heq => hr' (Fin.ext (by exact_mod_cast heq))
      rw [Bank.word_put, if_neg hne]

/-- Assignments with a log in the directory of the registers.  The largest value is stored in
a register that has no file, only one left beside it; the register with a file and those
without keep their words.  Where a file is cut short, a word that names no register is
reported first. -/
theorem outcome_of_assignment_largest :
    let settings : Settings :=
      { registersDirectory := utf8 "/r", logLevel := utf8 "error", logFile := utf8 "/r/log"
        hashFile := utf8 "/p", colour := utf8 "never" }
    let call (token text : Bytes) : Call :=
      { words := settings.spelled ++ [utf8 "registers", utf8 "set", token, text] }
    let fs : FileSystem :=
      { entries := [([utf8 "r"], .directory),
          ([utf8 "r", utf8 "x14.bin"], .file 0o644 [0, 0, 0, 7]),
          ([utf8 "r", utf8 "x15.bin.tmp"], .file 0o600 [1])] }
    let fs' := fs.put [utf8 "r", utf8 "x3.bin"] (.file 0o644 [0, 0, 0])
    let o := (call (utf8 "x15") (utf8 "0xFFFF_FFFF")).perform fs
    (o.status = 0 ∧ ∃ b, Store.load (utf8 "/r") o.files = ((b, []), o.files)
        ∧ (b.word 15).toNat = 4294967295 ∧ b.word 14 = 7#32 ∧ b.word 3 = 0#32)
      ∧ ((call (utf8 "x16") (utf8 "1")).perform fs').status = 1
      ∧ ((call (utf8 "x1") (utf8 "1")).perform fs').status = 2 := by
  intro settings call fs fs' o
  let flags (token text : Bytes) : Flag.Parsed := ⟨settings.given, [token, text]⟩
  let plan (token text : Bytes) (fs : FileSystem) : Plan :=
    ⟨.registersSet, flags token text,
      ((call token text).settingsFile (flags token text) fs).1, settings⟩
  have hassigns (token text : Bytes) (fs : FileSystem) (hfailures : fs.failures = [])
      (hclosed : fs.appender = none)
      (hfind : Command.find [utf8 "registers", utf8 "set", token, text]
        = (.registersSet, [token, text]))
      (hplain : ∀ w ∈ [token, text], w.head? ≠ some 45)
      (hsetUp : ((plan token text fs).setUp fs).1 = .ok ()) :
      (call token text).Assigns fs (plan token text fs) token text :=
    ⟨hfailures, hclosed, Call.intent?_spelled rfl hfind (Flag.parse_words _ hplain) fs, rfl,
      show Flag.Parsed.wantsHelp ⟨settings.given, []⟩ = false by decide, rfl, hsetUp⟩
  have hslots : ∀ i ∈ Store.registers,
      Slot.place (Path.resolve (utf8 "/r")) i ≠ Path.resolve (utf8 "/r/log")
        ∧ Slot.scratchPlace (Path.resolve (utf8 "/r")) i ≠ Path.resolve (utf8 "/r/log") := by
    decide +kernel
  have hapart (token text : Bytes) (fs : FileSystem) : (plan token text fs).LogApart :=
    fun i hi hlog => (hslots i hi).1 hlog.2
  have hclear : (plan (utf8 "x15") (utf8 "0xFFFF_FFFF") fs).LogClear :=
    fun i hi hlog => (hslots i hi).2 hlog.2
  have hset := hassigns (utf8 "x15") (utf8 "0xFFFF_FFFF") fs rfl rfl (by decide) (by decide)
    (by decide +kernel)
  have hstatus : o.status = 0 := by
    have ho : o = _ := Call.perform_of_intent rfl hset.intent
    rw [ho]
    decide +kernel
  obtain ⟨-, -, -, hvalue⟩ := outcome_of_assignment hset (hapart _ _ _)
  obtain ⟨hrejected, -⟩ := outcome_of_assignment
    (hassigns (utf8 "x16") (utf8 "1") fs' rfl rfl (by decide) (by decide) (by decide +kernel))
    (hapart _ _ _)
  obtain ⟨-, hunloaded, -⟩ := outcome_of_assignment
    (hassigns (utf8 "x1") (utf8 "1") fs' rfl rfl (by decide) (by decide) (by decide +kernel))
    (hapart _ _ _)
  refine ⟨⟨hstatus, ?_⟩, (hrejected (.register (.registerOutOfRange (utf8 "x16"))) ?_).2.1,
    (hunloaded 1 1 ?_ (.inl ?_)).2.1⟩
  · obtain ⟨r, n, b, b', hparse, hread, -, hload, hload', hword, hothers⟩ := hvalue hclear hstatus
    have hfifteen : Register.parse (utf8 "x15") = .ok 15 := by decide +kernel
    have hlargest : Numeral.readNatural .literal 32 (utf8 "0xFFFF_FFFF") = .ok 4294967295 := by
      decide +kernel
    have hbefore : (Store.load (utf8 "/r") fs).1.1.word 14 = 7#32
        ∧ (Store.load (utf8 "/r") fs).1.1.word 3 = 0#32 := by decide +kernel
    have hr : r = 15 := by
      apply Fin.ext
      exact_mod_cast Except.ok.inj (hparse.symm.trans hfifteen)
    have hn : n = 4294967295 := Except.ok.inj (hread.symm.trans hlargest)
    rw [show Store.load (utf8 "/r") fs = _ from hload] at hbefore
    rw [hr, hn] at hword
    rw [hr] at hothers
    refine ⟨b', hload', hword, ?_, ?_⟩
    · rw [hothers 14 (by decide), hbefore.1]
    · rw [hothers 3 (by decide), hbefore.2]
  · have hsixteen : Register.parse (utf8 "x16") = .error (.registerOutOfRange (utf8 "x16")) := by
      decide +kernel
    rw [Registers.assignment, hsixteen]
  · exact Registers.assignment_eq_ok_iff.mpr (by decide +kernel)
  · decide +kernel

/-- **The value is lost where the log stands at the place that its register is written to
first**: the log is moved with the file, and what is logged from then on is added to that. -/
theorem value_lost_in_log :
    let settings : Settings :=
      { registersDirectory := utf8 "/r", logLevel := utf8 "error", logFile := utf8 "/r/x0.bin.tmp"
        hashFile := utf8 "/p", colour := utf8 "never" }
    let c : Call :=
      { words := settings.spelled ++ [utf8 "registers", utf8 "set", utf8 "x0", utf8 "10"] }
    let fs : FileSystem := { entries := [([utf8 "r"], .directory)] }
    let o := c.perform fs
    (∃ p, c.Assigns fs p (utf8 "x0") (utf8 "10") ∧ p.settings = settings ∧ p.LogApart)
      ∧ o.status = 0 ∧ (Store.load (utf8 "/r") fs).1.2 = []
      ∧ (Store.load (utf8 "/r") o.files).1.2 ≠ []
      ∧ (Store.load (utf8 "/r") o.files).1.1.word 0 = 0#32 := by
  intro settings c fs o
  let flags : Flag.Parsed := ⟨settings.given, [utf8 "x0", utf8 "10"]⟩
  let p : Plan := ⟨.registersSet, flags, (c.settingsFile flags fs).1, settings⟩
  have hintent : c.intent? fs = some p :=
    Call.intent?_spelled rfl
      (show Command.find [utf8 "registers", utf8 "set", utf8 "x0", utf8 "10"] = _ by decide)
      (Flag.parse_words _ (by decide)) fs
  have hslots : ∀ i ∈ Store.registers,
      Slot.place (Path.resolve (utf8 "/r")) i ≠ Path.resolve (utf8 "/r/x0.bin.tmp") := by
    decide +kernel
  have hapart : p.LogApart := fun i hi hlog => hslots i hi hlog.2
  have hassigns : c.Assigns fs p (utf8 "x0") (utf8 "10") :=
    ⟨rfl, rfl, hintent, rfl, by decide, rfl, by decide +kernel⟩
  have ho : o = Invocation.finish (p.perform c.surroundings fs).1 (p.perform c.surroundings fs).2 :=
    Call.perform_of_intent rfl hintent
  refine ⟨⟨p, hassigns, rfl, hapart⟩, ?_⟩
  rw [ho]
  decide +kernel

end RegisterMachine
