/-
The status of a call that runs a program.

* `Launch`: a call that runs a program with settings that are in order, up to the
  point at which the program is read;
* `Launch.perform_eq`: the call goes on as a run;
* `Launch.looks`: the files that are looked at up to then, and
  `Launch.DiffersInSlots`: files that differ from those of the call at most in the
  registers;
* `status_of_launch`: **the status tells how far the call came**; it changes nothing
  but the log if it does not run the program, and if the program cannot be read
  then whatever the registers hold has no influence.
-/
import RegisterMachine.Proofs.Command.Course
import RegisterMachine.Proofs.Invocation.Intent

namespace RegisterMachine

open FileSystem (Spent Agree Twins AppendsTo)

variable {L P : Location → Prop} {fs fs' : FileSystem} {w w' : World}

/-! ### Words -/

/-- The command above all others is found only where no other is named, and then all
words are left. -/
lemma Command.snd_of_findFrom {c : Command} {depth : Nat} {ws : List Bytes}
    (h : (findFrom c depth ws).1 = .run) : c = .run ∧ (findFrom c depth ws).2 = ws := by
  induction depth generalizing c ws with
  | zero => exact ⟨h, rfl⟩
  | succ depth ih =>
      rw [findFrom] at h ⊢
      cases hfirst : firstWord? ws with
      | none =>
          rw [hfirst] at h
          exact ⟨h, rfl⟩
      | some w =>
          rw [hfirst] at h
          dsimp only at h ⊢
          cases hchild : c.children.find? (·.name = w) with
          | none =>
              rw [hchild] at h
              exact ⟨h, rfl⟩
          | some child =>
              rw [hchild] at h
              have hmem := List.mem_of_find?_eq_some hchild
              rw [(ih h).1] at hmem
              exact absurd hmem (by cases c <;> decide)

namespace Invocation

lemma twins_words (h : Agree P fs fs') {ws : List Bytes}
    (hws : ∀ word, ws = [word] → word.head? ≠ some 45 → P (Path.resolve word)) :
    Twins P (words ws fs) (words ws fs') := by
  unfold words
  split
  · rename_i word
    split_ifs with hdash
    · exact ⟨rfl, h⟩
    · have hlook := FileSystem.twins_isDirectory h (hws word rfl (by simpa using hdash))
      obtain ⟨r, fs₁, fs₁', hx, hx', hagree⟩ := hlook.exists_pair
      rw [hx, hx']
      cases r with
      | ok isDirectory => cases isDirectory <;> exact ⟨rfl, hagree⟩
      | error e => exact ⟨rfl, hagree⟩
  · exact ⟨rfl, h⟩

/-- A single word that is no flag is read as such. -/
lemma parse_words_single {word : Bytes} (hdash : word.head? ≠ some 45) (known : List Flag)
    (fs : FileSystem) : Flag.parse known (words [word] fs).1 = .ok { words := [word] } := by
  obtain heq | heq := words_single word fs
  · rw [heq]
    exact Flag.parse_words known (by simpa using hdash)
  · rw [heq]
    exact Flag.parse_dashes known [word]

/-! ### Setting up -/

variable {settings : Settings}

lemma logged_openLog (h : w.files.AppendsTo L)
    (hlog : settings.logFile ≠ [] → L (Path.resolve settings.logFile)) :
    World.Logged L w (openLog settings w).2 := by
  rw [openLog]
  split_ifs with hempty
  · exact ⟨rfl, h.logged_refl⟩
  · have hopened := h.logged_openAppender (hlog (by simpa using hempty)) logMode
    generalize w.files.openAppender logMode settings.logFile = x at hopened ⊢
    obtain ⟨r, files⟩ := x
    cases r with
    | error e => exact ⟨rfl, hopened⟩
    | ok => exact ⟨rfl, hopened⟩

/-- Setting up logging prints nothing and changes nothing but the log. -/
lemma logged_setUpLogging (h : w.files.AppendsTo L)
    (hlog : settings.logFile ≠ [] → L (Path.resolve settings.logFile)) (file : Settings.File)
    (c : Command) (ws : List Bytes) :
    World.Logged L w (setUpLogging settings file c ws w).2 := by
  rw [setUpLogging]
  split
  · exact ⟨rfl, h.logged_refl⟩
  · rename_i level _
    have hopened := logged_openLog h hlog
    generalize openLog settings w = x at hopened ⊢
    obtain ⟨r, w₁⟩ := x
    cases r with
    | error e => exact hopened
    | ok =>
        have hlevel : World.Logged L w { w₁ with threshold := some level } :=
          ⟨hopened.output_eq, hopened.files⟩
        have hstarted := hlevel.trans (World.logged_log hlevel.files.appendsTo (startedRecord c ws))
        dsimp only
        cases settingsRecord? file with
        | none => exact hstarted
        | some r => exact hstarted.trans (World.logged_log hstarted.files.appendsTo r)

lemma alike_openLog (h : World.Alike P w w') (hlog : P (Path.resolve settings.logFile)) :
    (openLog settings w').1 = (openLog settings w).1
      ∧ World.Alike P (openLog settings w).2 (openLog settings w').2 := by
  rw [openLog, openLog]
  split_ifs
  · exact ⟨rfl, h⟩
  · obtain ⟨r, files, files', hx, hx', hagree⟩ :=
      (FileSystem.twins_openAppender h.files hlog logMode).exists_pair
    rw [hx, hx']
    cases r with
    | error e => exact ⟨rfl, h.output_eq, h.errors_eq, h.threshold_eq, hagree⟩
    | ok => exact ⟨rfl, h.output_eq, h.errors_eq, h.threshold_eq, hagree⟩

/-- Setting up logging depends on the place of the log only. -/
lemma alike_setUpLogging (h : World.Alike P w w') (hlog : P (Path.resolve settings.logFile))
    (file : Settings.File) (c : Command) (ws : List Bytes) :
    (setUpLogging settings file c ws w').1 = (setUpLogging settings file c ws w).1
      ∧ World.Alike P (setUpLogging settings file c ws w).2
        (setUpLogging settings file c ws w').2 := by
  rw [setUpLogging, setUpLogging]
  split
  · exact ⟨rfl, h⟩
  · rename_i level _
    have hopened := alike_openLog h hlog
    generalize openLog settings w = x at hopened ⊢
    generalize openLog settings w' = x' at hopened ⊢
    obtain ⟨r, w₁⟩ := x
    obtain ⟨r', w₁'⟩ := x'
    obtain ⟨rfl, halike⟩ : r' = r ∧ World.Alike P w₁ w₁' := hopened
    cases r' with
    | error e => exact ⟨rfl, halike⟩
    | ok =>
        have hlevel : World.Alike P { w₁ with threshold := some level }
            { w₁' with threshold := some level } :=
          ⟨halike.output_eq, halike.errors_eq, rfl, halike.files⟩
        have hstarted := hlevel.log (startedRecord c ws)
        dsimp only
        cases settingsRecord? file with
        | none => exact ⟨rfl, hstarted⟩
        | some r => exact ⟨rfl, hstarted.log r⟩

end Invocation

/-! ### Calls that run a program -/

/-- A call that runs the program at `path`: its words name no other command and
leave this single word, the log can be set up, and the colours are known. -/
structure Launch (c : Call) (fs : FileSystem) where
  flags : Flag.Parsed
  path : Bytes
  colours : Palette
  /-- The world when the program is to be read. -/
  world : World
  root : (Command.find (Invocation.words c.words fs).1).1 = .run
  parsed : Flag.parse Command.run.flags (Command.find (Invocation.words c.words fs).1).2
    = .ok flags
  noHelp : flags.wantsHelp = false
  single : flags.words = [path]
  ready : Invocation.setUpLogging (c.settings flags fs) (c.settingsFile flags fs).1 .run flags.words
    { files := (c.settingsFile flags fs).2 } = (.ok (), world)
  known : Run.palette (c.settings flags fs) = .ok colours

namespace Launch

variable {c : Call}

/-- The settings of the call. -/
def settings (l : Launch c fs) : Settings :=
  c.settings l.flags fs

/-- The directory of the registers. -/
def directory (l : Launch c fs) : Bytes :=
  l.settings.registersDirectory

/-- What comes of reading the program. -/
def reading (l : Launch c fs) : Except Program.ReadError Program :=
  (Program.fetch l.path l.world.files).1

/-- What comes of loading the bank, once the program `p` has been read. -/
def loading (l : Launch c fs) (p : Program) : Bank × List StoreError :=
  (Store.load l.directory (Run.fetched l.path p l.world).files).1

/-- What comes of saving the bank, once the program `p` has run on the bank `b`. -/
def saving (l : Launch c fs) (p : Program) (b : Bank) : Store.Saving :=
  (Store.save l.directory (p.result b)
    (Run.announced l.colours l.directory p b (Run.fetched l.path p l.world)).files).1

/-- The files that are looked at until the program has been read. -/
def looks (l : Launch c fs) : List Bytes :=
  l.path :: l.settings.logFile :: Settings.File.sources (l.flags.value .config) c.home

/-- The place is that of the file of a register. -/
def IsSlot (l : Launch c fs) (p : Location) : Prop :=
  ∃ r : Fin 16, p = Path.resolve (Slot.path l.directory r)

/-- The files differ from those of the call at most in the registers.  The file of a
register may also be missing in one of them, unless some file is looked for below it
as if it were a directory. -/
structure DiffersInSlots (l : Launch c fs) (fs' : FileSystem) : Prop where
  failures : fs'.failures = fs.failures
  appender : fs'.appender = fs.appender
  entries : ∀ p, fs'.get? p = fs.get? p
    ∨ l.IsSlot p ∧ ((fs'.get? p).map Entry.isDirectory = (fs.get? p).map Entry.isDirectory
      ∨ ∀ path ∈ l.looks, p ∉ Path.parents (Path.resolve path))

lemma execute_eq (l : Launch c fs) :
    Invocation.execute c.surroundings l.flags .run { files := (Invocation.words c.words fs).2 }
      = Run.perform l.settings l.path l.world := by
  have harguments : Command.run.checkArguments l.flags.words = .ok () := by
    rw [l.single]
    rfl
  have hready := l.ready
  rw [Call.settings, Call.settingsFile, Call.home] at hready
  rw [Invocation.execute]
  dsimp only
  rw [harguments, World.withFiles]
  dsimp only
  rw [hready]
  dsimp only
  unfold Invocation.runCommand
  rw [l.single]
  rfl

/-- The call goes on as a run of the program. -/
lemma perform_eq (l : Launch c fs) :
    c.perform fs = Invocation.finish (Run.perform l.settings l.path l.world).1
      (Run.perform l.settings l.path l.world).2 := by
  have hroot := l.root
  have hparsed := l.parsed
  have hexecute := l.execute_eq
  have hdispatch : Invocation.dispatch c.surroundings (Invocation.words c.words fs).1
      { files := (Invocation.words c.words fs).2 } = Run.perform l.settings l.path l.world := by
    rw [Invocation.dispatch]
    generalize Command.find (Invocation.words c.words fs).1 = x at hroot hparsed ⊢
    obtain ⟨command, rest⟩ := x
    obtain rfl : command = .run := hroot
    dsimp only at hparsed ⊢
    rw [hparsed]
    dsimp only
    rw [l.noHelp, hexecute]
    rfl
  rw [Call.perform, Invocation.perform]
  dsimp only
  rw [hdispatch]

/-- A single word that is no flag is the program. -/
lemma path_eq (l : Launch c fs) {word : Bytes} (hwords : c.words = [word])
    (hdash : word.head? ≠ some 45) : l.path = word := by
  have hparsed := l.parsed
  have hrest : (Command.find (Invocation.words c.words fs).1).2 = (Invocation.words c.words fs).1 :=
    (Command.snd_of_findFrom l.root).2
  rw [hrest, hwords, Invocation.parse_words_single hdash] at hparsed
  have hsingle := l.single
  rw [← Except.ok.inj hparsed] at hsingle
  exact (List.cons.inj hsingle).1.symm

/-! ### What a call changes -/

/-- The place is that of the log. -/
def IsLog (l : Launch c fs) (p : Location) : Prop :=
  l.settings.logFile ≠ [] ∧ p = Path.resolve l.settings.logFile

/-- Up to the point at which the program is read, nothing is printed and nothing
changes but the log. -/
lemma logged_world (l : Launch c fs) (h : fs.appender = none) :
    World.Logged l.IsLog { files := fs } l.world := by
  have hnone : fs.AppendsTo l.IsLog := by simp [AppendsTo, h]
  have hread : Spent fs (c.settingsFile l.flags fs).2 :=
    (Invocation.spent_words c.words fs).trans (Settings.File.spent_load _ _ _ _)
  have hfiles := hnone.logged_of_spent hread
  have hready : World.Logged l.IsLog { files := (c.settingsFile l.flags fs).2 }
      (Invocation.setUpLogging l.settings (c.settingsFile l.flags fs).1 .run l.flags.words
        { files := (c.settingsFile l.flags fs).2 }).2 :=
    Invocation.logged_setUpLogging hfiles.appendsTo (fun hne => ⟨hne, rfl⟩) _ _ _
  rw [settings, l.ready] at hready
  exact ⟨hready.output_eq, hfiles.trans hready.files⟩

/-! ### Two calls on different registers -/

/-- The place is that of a file that is looked at. -/
def IsLook (l : Launch c fs) (p : Location) : Prop :=
  ∃ path ∈ l.looks, p = Path.resolve path

/-- Files that differ in the registers cannot be told apart until the program has
been read. -/
lemma agree_of_differsInSlots (l : Launch c fs) (h : fs.appender = none)
    (hpath : ¬ l.IsSlot (Path.resolve l.path))
    (hlog : ¬ l.IsSlot (Path.resolve l.settings.logFile)) (hfs' : l.DiffersInSlots fs') :
    Agree l.IsLook fs fs' where
  failures := hfs'.failures
  appender := hfs'.appender
  appendsTo := by simp [AppendsTo, h]
  get?_eq := by
    rintro p ⟨path, hlook, rfl⟩
    have hslot : ¬ l.IsSlot (Path.resolve path) := by
      rcases List.mem_cons.mp hlook with rfl | hlook
      · exact hpath
      rcases List.mem_cons.mp hlook with rfl | hlook
      · exact hlog
      · rintro ⟨r, hr⟩
        rw [Slot.resolve_path] at hr
        exact Settings.File.source_ne_place hlook _ _ hr
    exact (hfs'.entries _).resolve_right fun h => hslot h.1
  way := by
    rintro p ⟨path, hlook, rfl⟩ q hq
    obtain heq | ⟨-, hkind | hnone⟩ := hfs'.entries q
    · rw [heq]
    · exact hkind
    · exact absurd hq (hnone path hlook)

/-- The same call on files that cannot be told apart comes equally far. -/
lemma exists_relaunch (l : Launch c fs) (h : Agree l.IsLook fs fs') :
    ∃ l' : Launch c fs', l'.settings = l.settings ∧ l'.path = l.path
      ∧ World.Alike l.IsLook l.world l'.world := by
  obtain ⟨hwords, hagree⟩ : Twins l.IsLook (Invocation.words c.words fs)
      (Invocation.words c.words fs') := by
    refine Invocation.twins_words h fun word hword hdash => ?_
    rw [← l.path_eq hword hdash]
    exact ⟨l.path, by simp [looks], rfl⟩
  obtain ⟨hfile, hagree⟩ : Twins l.IsLook (c.settingsFile l.flags fs)
      (c.settingsFile l.flags fs') :=
    Settings.File.twins_load hagree _ fun path hpath => ⟨path, by simp [looks, hpath], rfl⟩
  have hsettings : c.settings l.flags fs' = c.settings l.flags fs := by
    rw [Call.settings, Call.settings, hfile]
  have hstart : World.Alike l.IsLook { files := (c.settingsFile l.flags fs).2 }
      { files := (c.settingsFile l.flags fs').2 } := ⟨rfl, rfl, rfl, hagree⟩
  have hlog : l.IsLook (Path.resolve l.settings.logFile) := ⟨_, by simp [looks], rfl⟩
  obtain ⟨hresult, halike⟩ := Invocation.alike_setUpLogging hstart hlog
    (c.settingsFile l.flags fs).1 .run l.flags.words
  rw [settings, l.ready] at hresult halike
  refine ⟨⟨l.flags, l.path, l.colours, _, ?_, ?_, l.noHelp, l.single, ?_, ?_⟩, hsettings, rfl,
    halike⟩
  · rw [hwords]
    exact l.root
  · rw [hwords]
    exact l.parsed
  · rw [hsettings, hfile]
    exact Prod.ext hresult rfl
  · rw [hsettings]
    exact l.known

/-! ### How a call ends -/

variable {p : Program} {b : Bank}

/-- How far a call comes, with its error and what it prints when it runs the
program. -/
lemma outcome_cases (l : Launch c fs) (h : fs.appender = none) :
    (∃ e, l.reading = .error e ∧ (c.perform fs).error = some (.program e))
      ∨ (∃ p, l.reading = .ok p ∧ (l.loading p).2 ≠ []
        ∧ (c.perform fs).error = some (.load l.directory (l.loading p).2))
      ∨ ∃ p b, l.reading = .ok p ∧ l.loading p = (b, [])
        ∧ (c.perform fs).output = p.console l.colours b
        ∧ (c.perform fs).error = if (l.saving p b).errors = [] then none
          else some (.persistence (l.saving p b).errors) := by
  have houtput : l.world.output = [] := (l.logged_world h).output_eq
  have hknown : Run.palette l.settings = .ok l.colours := l.known
  rw [l.perform_eq]
  obtain ⟨e, hread, hrun⟩ | ⟨p, errors, hread, rfl, hload, hrun⟩
      | ⟨p, b, hread, hload, hprint, hrun⟩ := Run.perform_cases hknown l.path l.world
  · refine .inl ⟨e, hread, ?_⟩
    rw [hrun]
    rfl
  · refine .inr (.inl ⟨p, hread, ?_⟩)
    rw [loading, directory, hrun]
    exact ⟨hload, rfl⟩
  · refine .inr (.inr ⟨p, b, hread, ?_⟩)
    rw [houtput, List.nil_append] at hprint
    rw [Run.savingErrors] at hrun
    rw [loading, saving, directory, ← hprint]
    refine ⟨hload, ?_⟩
    generalize Run.perform l.settings l.path l.world = x at hrun ⊢
    obtain ⟨r, w'⟩ := x
    obtain rfl : r = _ := hrun
    split_ifs
    · exact ⟨rfl, rfl⟩
    · exact ⟨List.append_nil _, rfl⟩

/-- A call that does not come to run its program prints nothing and changes nothing
but the log. -/
lemma quiet_of_stopped (l : Launch c fs) (h : fs.appender = none)
    (hstop : (∃ e, l.reading = .error e) ∨ ∃ p, l.reading = .ok p ∧ (l.loading p).2 ≠ []) :
    (c.perform fs).output = [] ∧ ∀ q, (c.perform fs).files.get? q ≠ fs.get? q → l.IsLog q := by
  have hknown : Run.palette l.settings = .ok l.colours := l.known
  have hworld := l.logged_world h
  -- what is left to show of the world that the run ends with
  have hend {e : CommandError} {w : World} (hw : World.Logged l.IsLog l.world w)
      (hreport : e.report.1 = [])
      (hrun : Run.perform l.settings l.path l.world = (.error e, w)) :
      (c.perform fs).output = []
        ∧ ∀ q, (c.perform fs).files.get? q ≠ fs.get? q → l.IsLog q := by
    have hall := hworld.trans hw
    rw [l.perform_eq, hrun]
    refine ⟨?_, fun q hq => ?_⟩
    · change w.output ++ e.report.1 = []
      rw [hreport, hall.output_eq]
      rfl
    · by_contra hlog
      exact hq (hall.files.within q hlog)
  obtain ⟨e, hread⟩ | ⟨p, hread, hload⟩ := hstop
  · exact hend (World.logged_withFiles (hworld.files.appendsTo.logged_of_spent
      (Program.spent_fetch l.path _))) rfl (Run.perform_of_unread hknown hread)
  · have hfetched := Run.logged_fetched hworld.files.appendsTo l.path p
    rw [loading, directory] at hload
    exact hend (hfetched.trans (Run.logged_load hfetched.files.appendsTo _)) rfl
      (Run.perform_of_unloaded hknown hread (Run.load_of_ne_nil hload))

/-- Where the program cannot be read, what the registers hold has no influence. -/
lemma same_of_unread (l : Launch c fs) (h : fs.appender = none)
    (hpath : ¬ l.IsSlot (Path.resolve l.path))
    (hlog : ¬ l.IsSlot (Path.resolve l.settings.logFile)) (hfs' : l.DiffersInSlots fs')
    {e : Program.ReadError} (hread : l.reading = .error e) :
    (c.perform fs').output = (c.perform fs).output
      ∧ (c.perform fs').errors = (c.perform fs).errors
      ∧ (c.perform fs').status = (c.perform fs).status := by
  obtain ⟨l', hsettings, hpath', halike⟩ :=
    l.exists_relaunch (l.agree_of_differsInSlots h hpath hlog hfs')
  have hlook : l.IsLook (Path.resolve l.path) := ⟨l.path, by simp [looks], rfl⟩
  have hread' : (Program.fetch l'.path l'.world.files).1 = .error e := by
    rw [hpath', (Program.twins_fetch halike.files hlook).1]
    exact hread
  have hknown : Run.palette l.settings = .ok l.colours := l.known
  have hknown' : Run.palette l'.settings = .ok l.colours := by
    rw [hsettings]
    exact hknown
  rw [l.perform_eq, l'.perform_eq, Run.perform_of_unread hknown hread,
    Run.perform_of_unread hknown' hread']
  exact ⟨congrArg (· ++ _) halike.output_eq, congrArg (· ++ _) halike.errors_eq, rfl⟩

end Launch

/-- **The status tells how far a call came.**  It is one if the program cannot be
read, two if it can and the registers cannot be loaded, three if both can and the
registers cannot be saved in the end, and zero otherwise, whatever is wrong with the
program.  With one and two nothing is printed and nothing changes but the log; with
one, moreover, the call does not depend on what the registers hold.  With zero and
three the text of the program is printed and nothing else.  No file is held open when
the call begins. -/
theorem status_of_launch {c : Call} {fs : FileSystem} (l : Launch c fs)
    (h : fs.appender = none) :
    ((c.perform fs).status = 1 ↔ ∃ e, l.reading = .error e)
      ∧ ((c.perform fs).status = 2 ↔ ∃ p, l.reading = .ok p ∧ (l.loading p).2 ≠ [])
      ∧ ((c.perform fs).status = 3
        ↔ ∃ p b, l.reading = .ok p ∧ l.loading p = (b, []) ∧ (l.saving p b).errors ≠ [])
      ∧ ((c.perform fs).status = 0
        ↔ ∃ p b, l.reading = .ok p ∧ l.loading p = (b, []) ∧ (l.saving p b).errors = [])
      ∧ ((c.perform fs).status = 1 ∨ (c.perform fs).status = 2 →
        (c.perform fs).output = []
          ∧ ∀ q, (c.perform fs).files.get? q ≠ fs.get? q → l.IsLog q)
      ∧ ((c.perform fs).status = 1 → ¬ l.IsSlot (Path.resolve l.path) →
        ¬ l.IsSlot (Path.resolve l.settings.logFile) → ∀ fs', l.DiffersInSlots fs' →
          (c.perform fs').output = (c.perform fs).output
            ∧ (c.perform fs').errors = (c.perform fs).errors
            ∧ (c.perform fs').status = (c.perform fs).status)
      ∧ ((c.perform fs).status = 0 ∨ (c.perform fs).status = 3 →
        ∃ p b, l.reading = .ok p ∧ l.loading p = (b, [])
          ∧ (c.perform fs).output = p.console l.colours b) := by
  obtain ⟨e, hread, herror⟩ | ⟨p, hread, hload, herror⟩ | ⟨p, b, hread, hload, hprint, herror⟩ :=
    l.outcome_cases h
  · have hstatus : (c.perform fs).status = 1 := by
      rw [Outcome.status, herror]
      rfl
    have hquiet := l.quiet_of_stopped h (.inl ⟨e, hread⟩)
    refine ⟨by simp [hstatus, hread], by simp [hstatus, hread], by simp [hstatus, hread],
      by simp [hstatus, hread], fun _ => hquiet, fun _ hpath hlog fs' hfs' => ?_, by simp [hstatus]⟩
    exact l.same_of_unread h hpath hlog hfs' hread
  · have hstatus : (c.perform fs).status = 2 := by
      rw [Outcome.status, herror]
      rfl
    have hquiet := l.quiet_of_stopped h (.inr ⟨p, hread, hload⟩)
    have hnot (b : Bank) : l.loading p ≠ (b, []) := fun heq => hload (by rw [heq])
    refine ⟨by simp [hstatus, hread], by simp [hstatus, hread, hload],
      by simp [hstatus, hread, hnot], by simp [hstatus, hread, hnot], fun _ => hquiet,
      by simp [hstatus], by simp [hstatus]⟩
  · have hstatus : (c.perform fs).status = if (l.saving p b).errors = [] then 0 else 3 := by
      rw [Outcome.status, herror]
      split_ifs <;> rfl
    by_cases hsave : (l.saving p b).errors = []
    · rw [if_pos hsave] at hstatus
      refine ⟨by simp [hstatus, hread], by simp [hstatus, hread, hload],
        by simp [hstatus, hread, hload, hsave], by simp [hstatus, hread, hload, hsave],
        by simp [hstatus], by simp [hstatus], fun _ => ⟨p, b, hread, hload, hprint⟩⟩
    · rw [if_neg hsave] at hstatus
      refine ⟨by simp [hstatus, hread], by simp [hstatus, hread, hload],
        by simp [hstatus, hread, hload, hsave], by simp [hstatus, hread, hload, hsave],
        by simp [hstatus], by simp [hstatus], fun _ => ⟨p, b, hread, hload, hprint⟩⟩

/-- A call with a single word that is no flag, and says nothing about settings. -/
def Launch.silent {word : Bytes} (hdash : word.head? ≠ some 45)
    (hroot : (Command.find (Invocation.words [word] fs).1).1 = .run) :
    Launch { words := [word] } fs where
  flags := { words := [word] }
  path := word
  colours := .plain
  world := (Invocation.setUpLogging .silent {} .run [word]
    { files := (Invocation.words [word] fs).2 }).2
  root := hroot
  parsed := by
    have hrest : (Command.find (Invocation.words [word] fs).1).2 = (Invocation.words [word] fs).1 :=
      (Command.snd_of_findFrom hroot).2
    rw [hrest]
    exact Invocation.parse_words_single hdash _ fs
  noHelp := rfl
  single := rfl
  ready := by
    rw [Call.settings_silent, Call.settingsFile_silent]
    exact Prod.ext (Invocation.setUpLogging_silent .run [word] _) rfl
  known := by
    rw [Call.settings_silent]
    decide

namespace Launch

variable {word : Bytes} {hdash : word.head? ≠ some 45}
  {hroot : (Command.find (Invocation.words [word] fs).1).1 = .run}

lemma settings_silent : (silent hdash hroot).settings = .silent :=
  Call.settings_silent _ _ _

lemma directory_silent : (silent hdash hroot).directory = Store.defaultDirectory := by
  rw [directory, settings_silent]
  rfl

end Launch

/-- A program that is missing, with a register whose file is not in order and without
it; and a program that is at fault on its third line, without failures and with no space
for the file of a register. -/
theorem status_of_launch_missing_or_faulty :
    let c : Call := { words := [utf8 "prog"] }
    let fs : FileSystem := { entries := [([utf8 "registers"], .directory)] }
    let fs' := fs.put [utf8 "registers", utf8 "x1.bin"] (.file 0o644 [7])
    let stored : FileSystem :=
      { entries := [([utf8 "prog"], .file 0o644 (utf8 "add x1 x1\nshw x1\nbad")),
          ([utf8 "registers"], .directory),
          ([utf8 "registers", utf8 "x1.bin"], .file 0o644 [0, 0, 0, 7])] }
    let full := { stored with
      failures := [⟨.write, some [utf8 "registers", utf8 "x2.bin.tmp"], .noSpace, none⟩] }
    let printed := utf8 "14\nERROR at line 3: 'bad' -> Unknown instruction: bad\n"
    (fs.appender = none ∧ (c.perform fs).status = 1 ∧ (c.perform fs).output = []
        ∧ (c.perform fs').output = (c.perform fs).output
        ∧ (c.perform fs').errors = (c.perform fs).errors
        ∧ (c.perform fs').status = (c.perform fs).status)
      ∧ ((c.perform stored).status = 0 ∧ (c.perform stored).output = printed)
      ∧ (c.perform full).status = 3 ∧ (c.perform full).output = printed := by
  intro c fs fs' stored full printed
  let launch {files : FileSystem}
      (hroot : (Command.find (Invocation.words [utf8 "prog"] files).1).1 = .run) :
      Launch c files := .silent (by decide) hroot
  let p : Program := Program.parse (utf8 "add x1 x1\nshw x1\nbad")
  let b : Bank := .ofList [0, 7]
  have hconsole {files : FileSystem} {l : Launch c files} {output : Bytes}
      (hread : l.reading = .ok p) (hload : l.loading p = (b, []))
      (h : ∃ p b, l.reading = .ok p ∧ l.loading p = (b, []) ∧ output = p.console .plain b) :
      output = printed := by
    obtain ⟨p', b', hread', hload', hshown⟩ := h
    obtain rfl := Except.ok.inj (hread.symm.trans hread')
    obtain rfl := congrArg Prod.fst (hload.symm.trans hload')
    rw [hshown]
    decide +kernel
  refine ⟨?_, ?_, ?_⟩
  · let l : Launch c fs := launch (by decide)
    have hread : l.reading = .error (.unopened ⟨.openToRead, utf8 "prog", none, .notFound⟩) := by
      rw [Launch.reading]
      decide +kernel
    have hpath : ¬ l.IsSlot (Path.resolve (utf8 "prog")) := by
      rw [Launch.IsSlot, Launch.directory_silent]
      decide
    have hlog : ¬ l.IsSlot (Path.resolve l.settings.logFile) := by
      rw [Launch.IsSlot, Launch.directory_silent, Launch.settings_silent]
      decide
    have hlooks : l.looks = [utf8 "prog", []] := by
      rw [Launch.looks, Launch.settings_silent]
      rfl
    have hdiffers : l.DiffersInSlots fs' := by
      refine ⟨rfl, rfl, fun p => ?_⟩
      by_cases hp : p = [utf8 "registers", utf8 "x1.bin"]
      · refine .inr ⟨⟨1, ?_⟩, .inr ?_⟩
        · rw [hp, Launch.directory_silent]
          decide
        · rw [hlooks, hp]
          decide
      · exact .inl (FileSystem.get?_put_of_ne hp _)
    obtain ⟨hone, -, -, -, hquiet, hsame, -⟩ := status_of_launch l rfl
    have hstatus := hone.mpr ⟨_, hread⟩
    exact ⟨rfl, hstatus, (hquiet (.inl hstatus)).1, hsame hstatus hpath hlog fs' hdiffers⟩
  · let l : Launch c stored := launch (by decide)
    have hread : l.reading = .ok p := by
      rw [Launch.reading]
      decide +kernel
    have hload : l.loading p = (b, []) := by
      rw [Launch.loading, Launch.directory_silent]
      decide +kernel
    have hsave : (l.saving p b).errors = [] := by
      rw [Launch.saving, Launch.directory_silent]
      decide +kernel
    obtain ⟨-, -, -, hzero, -, -, hshown⟩ := status_of_launch l rfl
    have hstatus := hzero.mpr ⟨p, b, hread, hload, hsave⟩
    exact ⟨hstatus, hconsole hread hload (hshown (.inl hstatus))⟩
  · let l : Launch c full := launch (by decide)
    have hread : l.reading = .ok p := by
      rw [Launch.reading]
      decide +kernel
    have hload : l.loading p = (b, []) := by
      rw [Launch.loading, Launch.directory_silent]
      decide +kernel
    have hsave : (l.saving p b).errors ≠ [] := by
      rw [Launch.saving, Launch.directory_silent]
      decide +kernel
    obtain ⟨-, -, hthree, -, -, -, hshown⟩ := status_of_launch l rfl
    have hstatus := hthree.mpr ⟨p, b, hread, hload, hsave⟩
    exact ⟨hstatus, hconsole hread hload (hshown (.inr hstatus))⟩

end RegisterMachine
