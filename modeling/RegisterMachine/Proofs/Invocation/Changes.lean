/-
What a call changes, whatever its words, the files and the failures that are due.

* `Plan.targets`, `Plan.directories`: the files that a command writes, and the
  directories that it makes;
* `Plan.grown_perform`: it changes nothing else but the log;
* `Begun`: a result that is not about the words of a command;
* `changes_of_call`: **the changes of a call are confined to the log and what its
  command is for**.
-/
import RegisterMachine.Footprint
import RegisterMachine.Proofs.Command.Changes
import RegisterMachine.Proofs.Invocation.Status

namespace RegisterMachine

open FileSystem (Covers Grown Spent AppendsTo)

variable {fs : FileSystem} {w : World}

/-! ### What a command changes -/

namespace Plan

/-- The place is that of the log. -/
def IsLog (p : Plan) (q : Location) : Prop :=
  p.settings.logFile ≠ [] ∧ q = Path.resolve p.settings.logFile

/-- The files that the command itself writes or removes. -/
def targets (p : Plan) : List Bytes :=
  match p.command with
  | .run | .registersSet => Footprint.slots p.settings.registersDirectory
  | .registersReset =>
    Store.registers.map fun (i : Nat) => Slot.path p.settings.registersDirectory i
  | .passwdHash => [p.settings.hashFile]
  | .toolsDocs => if p.flags.value .output = [] then [] else [p.flags.value .output]
  | _ => []

/-- The directories that the command makes where they are missing. -/
def directories (p : Plan) : List Location :=
  match p.command with
  | .run | .registersSet => Path.prefixes (Path.resolve p.settings.registersDirectory)
  | _ => []

/-- The place is that of the log or of a file that the command writes. -/
def Writes (p : Plan) (q : Location) : Prop :=
  p.IsLog q ∨ ∃ path ∈ p.targets, q = Path.resolve path

lemma writes_of_mem {p : Plan} {path : Bytes} (h : path ∈ p.targets) :
    p.Writes (Path.resolve path) :=
  .inr ⟨path, h, rfl⟩

lemma covers_of_targets {p : Plan}
    (h : p.targets = Footprint.slots p.settings.registersDirectory) :
    Covers p.Writes (Path.resolve p.settings.registersDirectory) := by
  have hmem {path : Bytes} {i : Nat} (hi : i ∈ Store.registers)
      (hpath : path ∈ [Slot.path p.settings.registersDirectory i,
        Slot.scratch p.settings.registersDirectory i]) : path ∈ p.targets := by
    rw [h]
    exact List.mem_flatMap.mpr ⟨i, hi, hpath⟩
  rintro i hi q (rfl | rfl)
  · rw [← Slot.resolve_path]
    exact writes_of_mem (hmem hi (by simp))
  · rw [← Slot.resolve_scratch]
    exact writes_of_mem (hmem hi (by simp))

/-- A command changes the files that it writes and the log, and makes directories. -/
lemma grown_runCommand {p : Plan} (h : w.files.AppendsTo p.Writes) (s : Surroundings) :
    Grown p.Writes p.directories w.files
      (Invocation.runCommand s p.settings p.flags p.command w).2.files := by
  obtain ⟨c, ⟨given, ws⟩, file, settings⟩ := p
  cases c with
  | run =>
      match ws with
      | [] => exact h.grown_refl _
      | [path] => exact Run.grown_perform (covers_of_targets rfl) h path
      | _ :: _ :: _ => exact h.grown_refl _
  | registersShow => exact (Registers.logged_show h settings _).grown _
  | registersSet =>
      match ws with
      | [] => exact h.grown_refl _
      | [_] => exact h.grown_refl _
      | [token, text] => exact Registers.grown_set (covers_of_targets rfl) h token text
      | _ :: _ :: _ :: _ => exact h.grown_refl _
  | registersReset =>
      refine (Registers.logged_reset h fun i hi => writes_of_mem ?_).grown _
      exact List.mem_map.mpr ⟨i, hi, rfl⟩
  | passwdCheck => exact (Password.logged_check h settings s.input).grown _
  | passwdHash =>
      have hhash : settings.hashFile ∈ targets ⟨.passwdHash, ⟨given, ws⟩, file, settings⟩ :=
        List.mem_singleton.mpr rfl
      exact (Password.logged_store h (writes_of_mem hhash) _ s.input s.salt).grown _
  | toolsDocs =>
      match ws with
      | [] => exact h.grown_refl _
      | [topic] =>
          unfold Invocation.runCommand
          dsimp only
          cases Manual.Topic.ofName? topic with
          | none => exact h.grown_refl _
          | some t =>
              refine (Documentation.logged_show h t fun hne => writes_of_mem ?_).grown _
              rw [targets, if_neg hne]
              exact List.mem_singleton.mpr rfl
      | _ :: _ :: _ => exact h.grown_refl _
  | _ => exact h.grown_refl _

/-- What a call comes to changes the files that its command writes and the log, and
makes directories. -/
theorem grown_perform (p : Plan) (h : fs.appender = none) (s : Surroundings) :
    Grown p.Writes p.directories fs (p.perform s fs).2.files := by
  have hnone : fs.AppendsTo p.Writes := by simp [AppendsTo, h]
  have hsetUp : World.Logged p.Writes { files := fs } (p.setUp fs).2 :=
    Invocation.logged_setUpLogging hnone (fun hne => .inl ⟨hne, rfl⟩) p.file p.command
      p.flags.words
  rw [perform]
  split_ifs
  · exact hnone.grown_refl _
  · cases p.command.checkArguments p.flags.words with
    | error e => exact hnone.grown_refl _
    | ok =>
        dsimp only
        generalize p.setUp fs = x at hsetUp ⊢
        obtain ⟨r, w⟩ := x
        cases r with
        | error e => exact hsetUp.files.grown _
        | ok => exact (hsetUp.files.grown _).trans (grown_runCommand hsetUp.files.appendsTo s)

end Plan

/-! ### Errors about the words of a command -/

/-- The result is not about the words of a command. -/
def Begun {α : Type} (r : Except CommandError α) : Prop :=
  ∀ e, r ≠ .error (.argument e)

lemma begun_ok {α : Type} (a : α) : Begun (.ok a) := by
  simp [Begun]

lemma Begun.error {α β : Type} {e : CommandError} (h : Begun (.error e : Except CommandError α)) :
    Begun (.error e : Except CommandError β) :=
  fun e' he => h e' (congrArg _ (Except.error.inj he))

lemma Invocation.begun_setUpLogging (settings : Settings) (file : Settings.File) (c : Command)
    (ws : List Bytes) (w : World) : Begun (setUpLogging settings file c ws w).1 := by
  rw [setUpLogging]
  split
  · simp [Begun]
  · rw [openLog]
    split_ifs
    · exact begun_ok ()
    · obtain ⟨r, files⟩ := w.files.openAppender logMode settings.logFile
      cases r with
      | error e => simp [Begun]
      | ok => exact begun_ok ()

namespace Run

lemma begun_palette (settings : Settings) : Begun (palette settings) := by
  rw [palette]
  split_ifs <;> simp [Begun]

lemma begun_load (d : Bytes) (w : World) : Begun (load d w).1 := by
  rw [load]
  dsimp only
  split_ifs <;> simp [Begun]

lemma begun_execute (settings : Settings) (colours : Palette) (path : Bytes) (p : Program)
    (b : Bank) (w : World) : Begun (execute settings colours path p b w).1 := by
  rw [execute]
  dsimp only
  split_ifs <;> simp [Begun]

lemma begun_perform (settings : Settings) (path : Bytes) (w : World) :
    Begun (perform settings path w).1 := by
  have hpalette := begun_palette settings
  cases hcolours : palette settings with
  | error e =>
      rw [hcolours] at hpalette
      rw [perform, hcolours]
      exact hpalette.error
  | ok colours =>
      cases hfetch : (Program.fetch path w.files).1 with
      | error e =>
          rw [perform_of_unread hcolours hfetch]
          simp [Begun]
      | ok p =>
          have hload := begun_load settings.registersDirectory (fetched path p w)
          cases hloaded : (load settings.registersDirectory (fetched path p w)).1 with
          | error e =>
              rw [hloaded] at hload
              rw [perform_of_unloaded hcolours hfetch hloaded]
              exact hload.error
          | ok b =>
              rw [perform_of_loaded hcolours hfetch hloaded]
              exact begun_execute settings colours path p b _

end Run

namespace Registers

lemma begun_show (settings : Settings) (format : Bytes) (w : World) :
    Begun (Registers.show settings format w).1 := by
  have hpalette := Run.begun_palette settings
  have hload := Run.begun_load settings.registersDirectory w
  rw [Registers.show]
  cases hcolours : Run.palette settings with
  | error e =>
      rw [hcolours] at hpalette
      exact hpalette.error
  | ok colours =>
      dsimp only
      generalize Run.load settings.registersDirectory w = x at hload ⊢
      obtain ⟨r, w₁⟩ := x
      cases r with
      | error e => exact hload.error
      | ok b =>
          dsimp only
          cases Format.ofName? format <;> simp [Begun]

lemma begun_assignment (token text : Bytes) : Begun (assignment token text) := by
  rw [assignment]
  cases Register.parse token with
  | error cause => simp [Begun]
  | ok i =>
      dsimp only
      cases Numeral.readNatural .literal 32 text <;> simp [Begun]

lemma begun_store (settings : Settings) (token : Bytes) (i : Int) (n : Nat) (w : World) :
    Begun (store settings token i n w).1 := by
  have hload := Run.begun_load settings.registersDirectory w
  rw [store]
  generalize Run.load settings.registersDirectory w = x at hload ⊢
  obtain ⟨r, w₁⟩ := x
  cases r with
  | error e => exact hload.error
  | ok b =>
      dsimp only
      cases b.set i (BitVec.ofNat 64 n) with
      | error cause => simp [Begun]
      | ok b' =>
          dsimp only
          obtain ⟨errors, w₂⟩ := Run.save settings.registersDirectory b' w₁
          cases errors <;> simp [Begun]

lemma begun_set (settings : Settings) (token text : Bytes) (w : World) :
    Begun (set settings token text w).1 := by
  have hassignment := begun_assignment token text
  rw [set]
  cases hassigned : assignment token text with
  | error e =>
      rw [hassigned] at hassignment
      exact hassignment.error
  | ok a => exact begun_store settings token a.1 a.2 w

lemma begun_reset (settings : Settings) (w : World) : Begun (reset settings w).1 := by
  rw [reset]
  obtain ⟨errors, files⟩ := Store.clear settings.registersDirectory w.files
  cases errors <;> simp [Begun]

end Registers

namespace Password

lemma begun_firstLine (input : Bytes) : Begun (firstLine input) := by
  rw [firstLine]
  split_ifs <;> simp [Begun]

lemma begun_check (settings : Settings) (input : Bytes) (w : World) :
    Begun (check settings input w).1 := by
  have hline := begun_firstLine input
  rw [check]
  cases hread : firstLine input with
  | error e =>
      rw [hread] at hline
      exact hline.error
  | ok password =>
      dsimp only
      obtain ⟨r, files⟩ := PasswordFile.verify settings.hashFile password w.files
      cases r with
      | error e => simp [Begun]
      | ok isMatch => cases isMatch <;> simp [Begun]

lemma begun_store (settings : Settings) (cost : Int) (input salt : Bytes) (w : World) :
    Begun (store settings cost input salt w).1 := by
  have hline := begun_firstLine input
  rw [store]
  cases hread : firstLine input with
  | error e =>
      rw [hread] at hline
      exact hline.error
  | ok password =>
      dsimp only
      obtain ⟨r, files⟩ := PasswordFile.write settings.hashFile password cost salt w.files
      cases r <;> simp [Begun]

end Password

lemma Documentation.begun_show (t : Manual.Topic) (path : Bytes) (w : World) :
    Begun (Documentation.show t path w).1 := by
  rw [Documentation.show, write]
  split_ifs
  · exact begun_ok ()
  · obtain ⟨r, files⟩ := w.files.write mode path (page t)
    cases r with
    | error e =>
        dsimp only
        split_ifs <;> simp [Begun]
    | ok => exact begun_ok ()

/-- A command that has begun does not fail because of its words. -/
lemma Invocation.begun_runCommand (s : Surroundings) (settings : Settings) (flags : Flag.Parsed)
    (c : Command) (w : World) : Begun (runCommand s settings flags c w).1 := by
  unfold runCommand
  split
  · exact Run.begun_perform settings _ w
  · exact Registers.begun_show settings _ w
  · exact Registers.begun_set settings _ _ w
  · exact Registers.begun_reset settings w
  · exact Password.begun_check settings s.input w
  · exact Password.begun_store settings _ s.input s.salt w
  · split
    · exact Documentation.begun_show _ _ w
    · exact begun_ok ()
  · exact begun_ok ()
  · exact begun_ok ()

/-- What a call comes to fails because of its words only before anything is done. -/
lemma Plan.snd_of_argument {p : Plan} {s : Surroundings} {e : Command.ArgumentError}
    (h : (p.perform s fs).1 = .error (.argument e)) :
    (p.perform s fs).2 = { files := fs } := by
  have hsetUp := Invocation.begun_setUpLogging p.settings p.file p.command p.flags.words
    { files := fs }
  rw [← setUp] at hsetUp
  rw [perform] at h ⊢
  split_ifs at h ⊢
  cases hwords : p.command.checkArguments p.flags.words with
  | error e' => rfl
  | ok =>
      rw [hwords] at h
      dsimp only at h
      generalize p.setUp fs = x at hsetUp h
      obtain ⟨r, w⟩ := x
      cases r with
      | error e' => exact absurd (congrArg _ (Except.error.inj h)) (hsetUp e)
      | ok => exact absurd h (Invocation.begun_runCommand s p.settings p.flags p.command w e)

/-! ### Calls -/

/-- The command has nothing to write: it shows the registers, checks a password, or
prints the manual. -/
def Plan.WritesNothing (p : Plan) : Prop :=
  p.command = .registersShow ∨ p.command = .passwdCheck
    ∨ p.command = .toolsDocs ∧ p.flags.value .output = []

lemma Plan.targets_of_writesNothing {p : Plan} (h : p.WritesNothing) :
    p.targets = [] ∧ p.directories = [] := by
  obtain ⟨c, flags, file, settings⟩ := p
  obtain rfl | rfl | ⟨rfl, houtput⟩ : c = _ ∨ c = _ ∨ c = _ ∧ flags.value .output = [] := h
  · exact ⟨rfl, rfl⟩
  · exact ⟨rfl, rfl⟩
  · exact ⟨if_pos houtput, rfl⟩

lemma Invocation.get?_finish (r : Except CommandError Unit) (w : World) (q : Location) :
    (finish r w).files.get? q = w.files.get? q := by
  cases r <;> rfl

lemma Invocation.appender_finish (r : Except CommandError Unit) (w : World) :
    (finish r w).files.appender = none := by
  cases r <;> rfl

lemma Invocation.error_finish {r : Except CommandError Unit} {w : World} {e : CommandError}
    (h : (finish r w).error = some e) : r = .error e := by
  cases r with
  | error e' => exact congrArg _ (Option.some.inj h)
  | ok => exact absurd h (by simp [finish])

/-- A call whose flags cannot be read changes nothing. -/
lemma Call.get?_perform_of_none {c : Call} (hintent : c.intent? fs = none) (q : Location) :
    (c.perform fs).files.get? q = fs.get? q := by
  obtain ⟨fs₁, hspent, ⟨-, e, heq⟩ | ⟨p, hp, -⟩⟩ := c.perform_cases fs
  · rw [heq]
    exact hspent.get?_eq q
  · exact absurd (hintent.symm.trans hp) (by simp)

/-- A call changes the files that its command writes and the log, and makes
directories. -/
lemma Call.grown_perform {c : Call} {p : Plan} (h : fs.appender = none)
    (hintent : c.intent? fs = some p) :
    Grown p.Writes p.directories fs (c.perform fs).files := by
  obtain ⟨fs₁, hspent, ⟨hnone, -⟩ | ⟨p', hp', heq⟩⟩ := c.perform_cases fs
  · exact absurd (hintent.symm.trans hnone) (by simp)
  · obtain rfl := Option.some.inj (hintent.symm.trans hp')
    have hgrown := p.grown_perform (hspent.appender_eq.trans h) c.surroundings
    rw [heq]
    refine ⟨fun q hq => ?_, ?_⟩
    · rw [Invocation.get?_finish, ← hspent.get?_eq]
      exact hgrown.entries q hq
    · simp [AppendsTo, Invocation.appender_finish]

/-- **The changes of a call are confined.**  Whatever its words, the input, the
environment, the files and the failures that are due, an entry that differs
afterwards is the log, or one of the files that the command itself writes, or a
directory on the way to the registers that was missing.  So commands that have nothing
to write change nothing but the log.  A call that fails since a program is not run on
one word changes nothing at all; it prints the usage and its status is one.  No file is
held open when the call begins. -/
theorem changes_of_call (c : Call) (fs : FileSystem) (h : fs.appender = none) :
    (∀ q, (c.perform fs).files.get? q ≠ fs.get? q → ∃ p, c.intent? fs = some p
        ∧ (p.IsLog q ∨ (∃ path ∈ p.targets, q = Path.resolve path)
          ∨ q ∈ p.directories ∧ fs.get? q = none
            ∧ (c.perform fs).files.get? q = some .directory))
      ∧ (∀ p, c.intent? fs = some p → p.WritesNothing →
        ∀ q, (c.perform fs).files.get? q ≠ fs.get? q → p.IsLog q)
      ∧ ∀ n, (c.perform fs).error = some (.argument (.usage n)) →
        (∀ q, (c.perform fs).files.get? q = fs.get? q)
          ∧ (c.perform fs).output = utf8 "Usage: cpx pseudo_assembly_file\n"
          ∧ (c.perform fs).status = 1 := by
  have hchanges : ∀ q, (c.perform fs).files.get? q ≠ fs.get? q → ∃ p, c.intent? fs = some p
      ∧ (p.IsLog q ∨ (∃ path ∈ p.targets, q = Path.resolve path)
        ∨ q ∈ p.directories ∧ fs.get? q = none
          ∧ (c.perform fs).files.get? q = some .directory) := by
    intro q hq
    cases hintent : c.intent? fs with
    | none => exact absurd (Call.get?_perform_of_none hintent q) hq
    | some p => exact ⟨p, rfl, or_assoc.mp ((Call.grown_perform h hintent).cases_of_ne hq)⟩
  refine ⟨hchanges, fun p hintent hnothing q hq => ?_, fun n herror => ?_⟩
  · obtain ⟨p', hintent', hp⟩ := hchanges q hq
    obtain rfl : p = p' := Option.some.inj (hintent.symm.trans hintent')
    obtain ⟨htargets, hdirectories⟩ := Plan.targets_of_writesNothing hnothing
    simpa [htargets, hdirectories] using hp
  · obtain ⟨fs₁, hspent, ⟨hintent, e, heq⟩ | ⟨p, hintent, heq⟩⟩ := c.perform_cases fs
    · rw [heq] at herror
      exact absurd herror (by simp [Invocation.finish])
    · rw [heq] at herror ⊢
      have hresult := Invocation.error_finish herror
      rw [hresult, Plan.snd_of_argument hresult]
      have husage : ([] : Bytes) ++ (Command.usage ++ newline)
          = utf8 "Usage: cpx pseudo_assembly_file\n" := by decide
      exact ⟨hspent.get?_eq, husage, rfl⟩

/-- A call without words, one that resets the registers while removing a file fails, and
one that shows them, on files that hold two registers. -/
theorem changes_of_usage_reset_show :
    let fs : FileSystem :=
      { entries := [([utf8 "registers"], .directory),
          ([utf8 "registers", utf8 "x0.bin"], .file 0o644 [0, 0, 0, 1]),
          ([utf8 "registers", utf8 "x1.bin"], .file 0o644 [0, 0, 0, 2])]
        failures := [⟨.remove, none, .inputOutput, some 1⟩] }
    let usage : Call := { words := [] }
    let reset : Call := { words := [utf8 "registers", utf8 "reset"] }
    let shown : Call := { words := [utf8 "registers", utf8 "show"] }
    fs.appender = none
      ∧ (usage.perform fs).error = some (.argument (.usage 0))
      ∧ (usage.perform fs).output = utf8 "Usage: cpx pseudo_assembly_file\n"
      ∧ (usage.perform fs).status = 1
      ∧ (∀ q, (usage.perform fs).files.get? q = fs.get? q)
      ∧ (∀ q, (reset.perform fs).files.get? q ≠ fs.get? q →
        ∃ i ∈ Store.registers, q = Path.resolve (Slot.path (utf8 "registers/") (i : Nat)))
      ∧ ∀ q, (shown.perform fs).files.get? q = fs.get? q := by
  intro fs usage reset shown
  have husage : usage.intent? fs = some ⟨.run, { words := [] }, {}, .silent⟩ :=
    Call.intent?_silent (show Command.find [] = _ by decide) (Flag.parse_words _ (by simp))
  have hreset : reset.intent? fs = some ⟨.registersReset, { words := [] }, {}, .silent⟩ :=
    Call.intent?_silent (show Command.find reset.words = _ by decide)
      (Flag.parse_words _ (by simp))
  have hshown : shown.intent? fs = some ⟨.registersShow, { words := [] }, {}, .silent⟩ :=
    Call.intent?_silent (show Command.find shown.words = _ by decide)
      (Flag.parse_words _ (by simp))
  have hnoLog (command : Command) (q : Location) :
      ¬ Plan.IsLog ⟨command, { words := [] }, {}, .silent⟩ q := fun hlog => hlog.1 rfl
  have herror : (usage.perform fs).error = some (.argument (.usage 0)) := by
    obtain ⟨fs₁, -, ⟨hnone, -⟩ | ⟨p, hp, heq⟩⟩ := usage.perform_cases fs
    · exact absurd (husage.symm.trans hnone) (by simp)
    · obtain rfl := Option.some.inj (husage.symm.trans hp)
      rw [heq]
      rfl
  obtain ⟨-, -, hfails⟩ := changes_of_call usage fs rfl
  obtain ⟨hchanges, -, -⟩ := changes_of_call reset fs rfl
  obtain ⟨-, hquiet, -⟩ := changes_of_call shown fs rfl
  obtain ⟨hsame, houtput, hstatus⟩ := hfails 0 herror
  refine ⟨rfl, herror, houtput, hstatus, hsame, fun q hq => ?_, fun q => ?_⟩
  · obtain ⟨p, hp, hplace⟩ := hchanges q hq
    obtain rfl := Option.some.inj (hreset.symm.trans hp)
    obtain hlog | ⟨path, hpath, rfl⟩ | ⟨hmem, -⟩ := hplace
    · exact absurd hlog (hnoLog _ q)
    · obtain ⟨i, hi, rfl⟩ := List.mem_map.mp hpath
      exact ⟨i, hi, rfl⟩
    · exact absurd hmem (by simp [Plan.directories])
  · by_contra hq
    exact hnoLog _ q (hquiet _ hshown (.inl rfl) q hq)

end RegisterMachine
