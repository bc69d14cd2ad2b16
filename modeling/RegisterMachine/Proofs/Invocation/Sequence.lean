/-
Two programs, run by one call after another and by a single call.

* `Store.Filed`: every register has its file, with the word of a given bank;
* `Run.exists_execute_filed`: the files that running a program on a stored bank leaves;
* `Launch.Runs`: a call runs a program on the store at a given place;
* `Launch.Runs.outcome`: it succeeds, prints what the program prints, and leaves the
  bank after the program;
* `outcome_of_concatenation`: **running one program and then another is running both
  as one**;
* `outcome_of_concatenation_disturbed`: the log of a call and the files left beside those
  of the registers make a difference.
-/
import RegisterMachine.Proofs.Command.Sequence
import RegisterMachine.Proofs.Invocation.Changes
import RegisterMachine.Proofs.Invocation.History
import RegisterMachine.Proofs.Store.Files

namespace RegisterMachine

open FileSystem (Safe Spares)
open Store (Holds Guarded Orderly)

variable {P : Location → Prop} {loc : Location} {b : Bank} {fs fs' : FileSystem} {w : World}
  {d : Bytes}

/-! ### The files of the registers -/

/-- Every register has its file with the word of `b`, and nothing is left beside it.
The mode of the file is that of the file which was beside it in `fs`, if there was
one. -/
def Store.Filed (loc : Location) (fs : FileSystem) (b : Bank) (fs' : FileSystem) : Prop :=
  ∀ i < Register.count, fs'.get? (Slot.place loc i)
      = some (.file (Slot.modeAt loc fs i) (Slot.encode (b.value i)))
    ∧ fs'.get? (Slot.scratchPlace loc i) = none

lemma Store.Filed.spares {fs'' : FileSystem} (h : Store.Filed loc fs b fs')
    (hs : Spares (Guarded loc) fs' fs'') : Store.Filed loc fs b fs'' := by
  intro i hi
  rw [hs.get?_eq _ (Store.guarded_place hi), hs.get?_eq _ (Store.guarded_scratchPlace hi)]
  exact h i hi

lemma Store.Filed.of_spares (h : Store.Filed loc fs b fs') {fs₀ : FileSystem}
    (hs : Spares (Guarded loc) fs₀ fs) : Store.Filed loc fs₀ b fs' := by
  intro i hi
  rw [← Slot.modeAt_congr (hs.get?_eq _ (Store.guarded_scratchPlace hi))]
  exact h i hi

/-- After a save without errors every register has its file. -/
lemma Store.filed_save (hd : Path.resolve d = loc) (h : (Store.save d b fs).1.errors = []) :
    Store.Filed loc fs b (Store.save d b fs).2 := by
  intro i hi
  rw [← hd]
  exact Store.get?_save_of_ok h hi

lemma World.spares_logOption (h : w.files.Safe P) (r : Option Log.Record) :
    Spares P w.files ((r.map w.log).getD w).files := by
  cases r with
  | none => exact .refl h
  | some r => exact World.spares_log h r

namespace Run

/-- Events other than saves spare all places at which the log is not. -/
lemma spares_deliver_of_banks_nil (h : w.files.Safe P) (colours : Palette) (d : Bytes)
    {es : List Event} (hes : es.filterMap Event.bank? = []) :
    Spares P w.files (deliver colours d es w).2.files := by
  induction es generalizing w with
  | nil => exact .refl h
  | cons e es ih =>
      have hlogged := World.spares_logOption (w := w.print (e.output colours)) h e.record?
      cases e with
      | save b => simp [Event.bank?] at hes
      | _ => exact hlogged.trans (ih hlogged.safe hes)

lemma filed_save (h : Holds loc b w.files) (hne : d ≠ []) (hd : Path.resolve d = loc)
    (b' : Bank) : Store.Filed loc w.files b' (save d b' w).2.files := by
  obtain ⟨files, hsave, hfiles⟩ := h.save hne hd b'
  have hfiled : Store.Filed loc w.files b' (Store.save d b' w.files).2 :=
    Store.filed_save hd (by rw [hsave]; rfl)
  rw [hsave] at hfiled
  rw [save, hsave]
  exact hfiled.spares (World.spares_logOption (w := w.withFiles files) hfiles.orderly.safe _)

/-- Events that end with a save leave the files of the bank that is saved. -/
lemma filed_deliver (h : Holds loc b w.files) (hne : d ≠ []) (hd : Path.resolve d = loc)
    (colours : Palette) {front : List Event} (hfront : front.filterMap Event.bank? = [])
    (b' : Bank) :
    Store.Filed loc w.files b' (deliver colours d (front ++ [.save b']) w).2.files := by
  have hspares := spares_deliver_of_banks_nil h.orderly.safe colours d hfront
  have hlogged := World.spares_logOption
    (w := (deliver colours d front w).2.print (Event.output colours (.save b')))
    hspares.safe (Event.record? (.save b'))
  rw [deliver_append]
  exact (filed_save (h.spares (hspares.trans hlogged)) hne hd b').of_spares
    (hspares.trans hlogged)

/-- Running a program on the stored bank leaves the files of the bank after it. -/
lemma exists_execute_filed (h : Holds loc b w.files) {settings : Settings}
    (hne : settings.registersDirectory ≠ [])
    (hd : Path.resolve settings.registersDirectory = loc) (colours : Palette) (path : Bytes)
    (p : Program) :
    ∃ w', execute settings colours path p b w = (.ok (), w') ∧ Holds loc (p.result b) w'.files
      ∧ Store.Filed loc w.files (p.result b) w'.files := by
  obtain ⟨front, hrun, hfront, -⟩ := Machine.exists_front p b
  have hbanks : (front ++ [Event.save (p.result b)]).filterMap Event.bank? = [p.result b] := by
    rw [List.filterMap_append, hfront]
    rfl
  obtain ⟨w₁, hdeliver, hw₁⟩ := exists_deliver h hne hd colours hbanks
  have hfiled := filed_deliver h hne hd colours hfront (p.result b)
  rw [hdeliver] at hfiled
  refine ⟨w₁.log (finishedRecord path (({ bank := b } : Machine).run p).1), ?_, hw₁.log _,
    hfiled.spares (World.spares_log hw₁.orderly.safe _)⟩
  rw [execute]
  dsimp only
  rw [hrun, hdeliver]
  rfl

end Run

/-! ### Calls that run a program on a store -/

namespace Launch

variable {c : Call} {colours : Palette} {text : Bytes}

/-- The call runs the program with the given text, in the given colours, on the store
at `loc`, and logs neither to a file of that store nor to a place on the way there. -/
structure Runs (l : Launch c fs) (loc : Location) (colours : Palette) (text : Bytes) : Prop where
  read_eq : (l.world.files.read l.path).1 = .ok text
  colours_eq : l.colours = colours
  directory_ne_nil : l.directory ≠ []
  resolve_directory : Path.resolve l.directory = loc
  log : ¬ Guarded loc (Path.resolve l.settings.logFile)

/-- Up to the point at which the program is read, the store is spared. -/
lemma spares_world (l : Launch c fs) (h : fs.Safe P)
    (hlog : ¬ P (Path.resolve l.settings.logFile)) : Spares P fs l.world.files := by
  have hread : (c.settingsFile l.flags fs).2 = fs := by
    rw [Call.settingsFile, Invocation.words_snd h.failures, Settings.File.load_snd h.failures]
  have hspares := (Invocation.spares_setUpLogging (w := { files := (c.settingsFile l.flags fs).2 })
    (by rw [hread]; exact h) (fun hP => absurd hP hlog) (c.settingsFile l.flags fs).1 .run
    l.flags.words).1
  rw [settings, l.ready, hread] at hspares
  exact hspares

/-- A call that runs a program on a store succeeds.  It prints what the program prints
and leaves the bank after the program. -/
lemma Runs.outcome {l : Launch c fs} (hl : l.Runs loc colours text) (hfs : Orderly loc fs)
    (h : fs.appender = none) :
    (c.perform fs).error = none
      ∧ (c.perform fs).output = (Program.parse text).console colours (Store.bank loc fs)
      ∧ Holds loc ((Program.parse text).result (Store.bank loc fs)) (c.perform fs).files
      ∧ Store.Filed loc fs ((Program.parse text).result (Store.bank loc fs))
        (c.perform fs).files := by
  have hspares := l.spares_world hfs.safe hl.log
  have hholds : Holds loc (Store.bank loc fs) l.world.files := Holds.spares ⟨hfs, rfl⟩ hspares
  have hknown : Run.palette l.settings = .ok colours := by
    rw [← hl.colours_eq]
    exact l.known
  have hfetch : (Program.fetch l.path l.world.files).1 = .ok (Program.parse text) := by
    have hread := hl.read_eq
    rw [Program.fetch]
    generalize l.world.files.read l.path = x at hread ⊢
    obtain ⟨r, files⟩ := x
    obtain rfl : r = .ok text := hread
    rfl
  have hfetched : Spares (Guarded loc) l.world.files
      (Run.fetched l.path (Program.parse text) l.world).files := by
    rw [Run.fetched, Program.fetch_snd hspares.safe.failures]
    exact World.spares_log (w := l.world) hspares.safe _
  have hloaded := hholds.spares hfetched
  have hload := Run.load_eq hloaded hl.resolve_directory
  have hlogged := hfetched.trans (World.spares_log hloaded.orderly.safe
    (Store.loadRecord l.directory (Store.bank loc fs) []))
  obtain ⟨w', hexecute, hw', hfiled⟩ := Run.exists_execute_filed
    (hloaded.log (Store.loadRecord l.directory (Store.bank loc fs) []))
    (show l.settings.registersDirectory ≠ [] from hl.directory_ne_nil) hl.resolve_directory
    colours l.path (Program.parse text)
  have hrun : Run.perform l.settings l.path l.world = (.ok (), w') := by
    rw [Run.perform_of_loaded hknown hfetch (congrArg Prod.fst hload)]
    rw [directory] at hload hexecute
    rw [hload]
    exact hexecute
  have houtput : w'.output = (Program.parse text).console colours (Store.bank loc fs) := by
    have hprinted := Run.output_execute l.settings colours l.path (Program.parse text)
      (Store.bank loc fs) ((Run.fetched l.path (Program.parse text) l.world).log
        (Store.loadRecord l.directory (Store.bank loc fs) []))
    rw [hexecute, World.output_log, Run.fetched, World.output_log] at hprinted
    exact hprinted.trans (congrArg (· ++ _) (l.logged_world h).output_eq)
  have hclosed := FileSystem.spares_closeAppender hw'.orderly.safe
  rw [l.perform_eq, hrun]
  exact ⟨rfl, houtput, hw'.spares hclosed,
    (hfiled.of_spares (hspares.trans hlogged)).spares hclosed⟩

end Launch

/-! ### Calls that say nothing about settings -/

lemma Store.not_guarded_nil (loc : Location) : ¬ Guarded loc [] := by
  rintro (hway | ⟨i, -, hplace | hplace⟩)
  · exact Path.ne_nil_of_mem_prefixes hway rfl
  · exact absurd hplace (by simp [Slot.place])
  · exact absurd hplace (by simp [Slot.scratchPlace])

lemma World.files_log (h : w.files.appender = none) (r : Log.Record) :
    (w.log r).files = w.files := by
  rw [log]
  split
  · rfl
  · dsimp only
    split_ifs <;> simp [FileSystem.append, printError, h]

/-- Without a log, setting up logging changes no file. -/
lemma Invocation.files_setUpLogging_silent (h : w.files.appender = none) (c : Command)
    (ws : List Bytes) : (setUpLogging .silent {} c ws w).2.files = w.files := by
  have hlevel : Log.readLevel (Blank.trim Settings.silent.logLevel) = .ok 4 := by decide
  rw [setUpLogging, hlevel]
  exact World.files_log (w := { w with threshold := some 4 }) h _

/-- A call with a single word that is no flag and no name of a command runs the program
of that name on the default store. -/
lemma Launch.runs_silent {word text : Bytes} {m : Nat} (hdash : word.head? ≠ some 45)
    (hroot : (Command.find (Invocation.words [word] fs).1).1 = .run) (hfs : fs.failures = [])
    (h : fs.appender = none) (hword : fs.locate word = .ok (.file m text)) :
    (Launch.silent hdash hroot).Runs [utf8 "registers"] .plain text := by
  have hfiles : (Launch.silent hdash hroot).world.files = fs := by
    have hwords := Invocation.words_snd hfs [word]
    refine (Invocation.files_setUpLogging_silent ?_ _ _).trans hwords
    rw [hwords]
    exact h
  refine ⟨?_, rfl, ?_, ?_, ?_⟩
  · have hpath : (Launch.silent hdash hroot).path = word := rfl
    rw [hfiles, hpath, FileSystem.read_eq hfs, hword]
  · rw [Launch.directory_silent]
    decide
  · rw [Launch.directory_silent]
    decide
  · rw [Launch.settings_silent]
    exact Store.not_guarded_nil _

/-! ### Two calls as one -/

/-- No file is held open when a call has ended. -/
lemma Call.appender_perform (c : Call) (fs : FileSystem) :
    (c.perform fs).files.appender = none := by
  rw [perform, Invocation.perform]
  exact Invocation.appender_finish _ _

lemma Outcome.status_of_none {o : Outcome} (h : o.error = none) : o.status = 0 := by
  rw [status, h]
  rfl

lemma Outcome.status_of_some {o : Outcome} {e : CommandError} (h : o.error = some e) :
    o.status = e.exitCode := by
  rw [status, h]
  rfl

lemma Machine.state_run (p : Program) (b : Bank) :
    (({ bank := b } : Machine).run p).1.state = p.ending := by
  rw [run_eq]
  rfl

/-- The mode is the usual one where no file of another mode is beside that of the
register. -/
lemma Slot.modeAt_eq {i : Nat}
    (h : ∀ m c, fs.get? (scratchPlace loc i) = some (.file m c) → m = mode) :
    modeAt loc fs i = mode := by
  rw [modeAt, FileSystem.file?]
  split
  · rename_i m c hget
    exact h m c hget
  · rfl

/-- **Running one program and then another is running both as one.**  Let the store at
`loc` be orderly, let no call log to a file of that store or to a place on the way there,
and let the first text consist of whole lines and be executed to its end on the stored
bank.  Then a call on the first text and one on the second text leave the same words in
the files of the registers as a single call on both texts, and the same files altogether
unless one of another mode was left beside them before.  All calls succeed.  The single
call prints what the others print one after the other, but for the line of a fault, to
which as many are added as the first text has line feeds. -/
theorem outcome_of_concatenation {loc : Location} {fs : FileSystem} {colours : Palette}
    {text text' : Bytes} {c c' both : Call} (hfs : Orderly loc fs) (h : fs.appender = none)
    (l : Launch c fs) (l' : Launch c' (c.perform fs).files) (lboth : Launch both fs)
    (hl : l.Runs loc colours text) (hl' : l'.Runs loc colours text')
    (hboth : lboth.Runs loc colours (text ++ text'))
    (hwhole : text = [] ∨ text.getLast? = some 10)
    (hcompleted : (({ bank := (Store.load l.directory fs).1.1 } : Machine).run
      (Program.parse text)).1.state = .completed) :
    let first := c.perform fs
    let second := c'.perform first.files
    let single := both.perform fs
    let fault := (Program.parse text').fault?
    (first.status = 0 ∧ second.status = 0 ∧ single.status = 0)
      ∧ (∃ b : Bank, ∀ r : Fin 16,
        (∃ m, second.files.get? (Path.resolve (Slot.path l.directory r))
            = some (.file m (Slot.encode (b.word r))))
          ∧ ∃ m, single.files.get? (Path.resolve (Slot.path l.directory r))
            = some (.file m (Slot.encode (b.word r))))
      ∧ ((∀ (r : Fin 16) m c, fs.get? (Path.resolve (Slot.scratch l.directory r))
            = some (.file m c) → m = Slot.mode) →
        ∀ r : Fin 16, second.files.get? (Path.resolve (Slot.path l.directory r))
          = single.files.get? (Path.resolve (Slot.path l.directory r)))
      ∧ ∃ shown, second.output = shown ++ Fault.report colours fault
        ∧ single.output = first.output ++ shown
          ++ Fault.report colours (fault.map (Fault.later (text.count 10))) := by
  intro first second single fault
  have hload : Store.load l.directory fs = ((Store.bank loc fs, []), fs) :=
    Holds.load ⟨hfs, rfl⟩ hl.resolve_directory
  rw [hload, Machine.state_run] at hcompleted
  have hpasses := Program.passes_of_completed hcompleted
  obtain ⟨herror, houtput, hholds, hfiled⟩ := hl.outcome hfs h
  have hclosed : first.files.appender = none := Call.appender_perform c fs
  obtain ⟨herror', houtput', -, hfiled'⟩ := hl'.outcome hholds.orderly hclosed
  obtain ⟨herror'', houtput'', -, hfiled''⟩ := hboth.outcome hfs h
  rw [hholds.bank_eq] at houtput' hfiled'
  rw [Program.console_eq] at houtput'
  rw [Program.parse_append hwhole] at houtput'' hfiled''
  rw [Program.console_append hpasses, Program.length_parse hwhole] at houtput''
  rw [Program.result_append hpasses] at hfiled''
  simp only [Slot.resolve_path, Slot.resolve_scratch, hl.resolve_directory]
  refine ⟨⟨Outcome.status_of_none herror, Outcome.status_of_none herror',
    Outcome.status_of_none herror''⟩,
    ⟨(Program.parse text').result ((Program.parse text).result (Store.bank loc fs)), fun r => ?_⟩,
    fun hmodes r => ?_, ⟨_, houtput', ?_⟩⟩
  · rw [← Store.value_eq_word]
    exact ⟨⟨_, (hfiled' r r.isLt).1⟩, ⟨_, (hfiled'' r r.isLt).1⟩⟩
  · -- nothing is left beside the files after the first call
    have hmode : Slot.modeAt loc first.files r = Slot.mode :=
      Slot.modeAt_eq fun m c hget => absurd ((hfiled r r.isLt).2.symm.trans hget) (by simp)
    rw [(hfiled' r r.isLt).1, (hfiled'' r r.isLt).1, hmode, Slot.modeAt_eq (hmodes r)]
  · rw [houtput'', houtput]

set_option maxRecDepth 4000 in
/-- A program that shows a register and one that is at fault on its second line, and
both as one program. -/
theorem outcome_of_concatenation_fault :
    let text := utf8 "shw x1\n\nadd x1 x1\n"
    let text' := utf8 "shw x1\nbad"
    let fs : FileSystem :=
      { entries := [([utf8 "a"], .file 0o644 text), ([utf8 "b"], .file 0o644 text'),
          ([utf8 "ab"], .file 0o644 (text ++ text')), ([utf8 "registers"], .directory),
          ([utf8 "registers", utf8 "x1.bin"], .file 0o600 [0, 0, 0, 7]),
          ([utf8 "registers", utf8 "x2.bin.tmp"], .file 0o644 [])] }
    let first := Call.perform { words := [utf8 "a"] } fs
    let second := Call.perform { words := [utf8 "b"] } first.files
    let single := Call.perform { words := [utf8 "ab"] } fs
    Orderly [utf8 "registers"] fs
      ∧ (first.status = 0 ∧ second.status = 0 ∧ single.status = 0)
      ∧ (∀ r : Fin 16, second.files.get? (Path.resolve (Slot.path (utf8 "registers/") r))
        = single.files.get? (Path.resolve (Slot.path (utf8 "registers/") r)))
      ∧ ∃ shown,
        second.output = shown
          ++ utf8 "ERROR at line 2: 'bad' -> Unknown instruction: bad\n"
        ∧ single.output = first.output ++ shown
          ++ utf8 "ERROR at line 5: 'bad' -> Unknown instruction: bad\n" := by
  intro text text' fs first second single
  have hfs : Orderly [utf8 "registers"] fs := by
    refine ⟨⟨rfl, by simp [fs]⟩, by decide, fun i hi => ?_, by decide⟩
    by_cases hone : i = 1
    · subst hone
      exact .inr ⟨0o600, [0, 0, 0, 7], by decide, rfl⟩
    · exact .inl (by revert i; decide)
  have hroot {word : Bytes} (hword : (Command.find [word]).1 = .run
      ∧ (Command.find [utf8 "--", word]).1 = .run) (fs : FileSystem) :
      (Command.find (Invocation.words [word] fs).1).1 = .run := by
    obtain heq | heq := Invocation.words_single word fs
    · rw [heq]
      exact hword.1
    · rw [heq]
      exact hword.2
  let l : Launch { words := [utf8 "a"] } fs := .silent (by decide) (hroot (by decide) fs)
  let l' : Launch { words := [utf8 "b"] } first.files :=
    .silent (by decide) (hroot (by decide) first.files)
  let lboth : Launch { words := [utf8 "ab"] } fs := .silent (by decide) (hroot (by decide) fs)
  have hl : l.Runs [utf8 "registers"] .plain text :=
    Launch.runs_silent (m := 0o644) _ _ rfl rfl (by decide)
  have hboth : lboth.Runs [utf8 "registers"] .plain (text ++ text') :=
    Launch.runs_silent (m := 0o644) _ _ rfl rfl (by decide)
  -- the first call does not write the second program
  have hintent : Call.intent? { words := [utf8 "a"] } fs
      = some ⟨.run, { words := [utf8 "a"] }, {}, .silent⟩ :=
    Call.intent?_silent (show _ = (_, [utf8 "--", utf8 "a"]) by decide) (Flag.parse_dashes _ _)
  have hkept : first.files.get? [utf8 "b"] = some (.file 0o644 text') := by
    have hentry := (Call.grown_perform (c := { words := [utf8 "a"] }) rfl hintent).entries
      [utf8 "b"] ?_
    · obtain heq | ⟨hmem, -⟩ := hentry
      · exact heq
      · exact absurd hmem (by decide)
    · rintro (⟨hlog, -⟩ | ⟨path, hpath, heq⟩)
      · exact hlog rfl
      · revert path
        decide
  obtain ⟨-, -, hholds, -⟩ := hl.outcome hfs rfl
  have hl' : l'.Runs [utf8 "registers"] .plain text' :=
    Launch.runs_silent (m := 0o644) _ _ hholds.orderly.safe.failures (Call.appender_perform _ _)
      (FileSystem.locate_of_get? (by decide) rfl hkept)
  have hdirectory : l.directory = utf8 "registers/" := Launch.directory_silent
  have hbeside (r : Fin 16) : fs.get? (Path.resolve (Slot.scratch (utf8 "registers/") r)) = none
      ∨ fs.get? (Path.resolve (Slot.scratch (utf8 "registers/") r)) = some (.file 0o644 []) := by
    revert r
    decide
  have hmodes (r : Fin 16) (m : Nat) (c : Bytes)
      (hget : fs.get? (Path.resolve (Slot.scratch (utf8 "registers/") r)) = some (.file m c)) :
      m = Slot.mode := by
    obtain hnone | hsome := hbeside r
    · exact absurd (hnone.symm.trans hget) (by simp)
    · exact (Entry.file.inj (Option.some.inj (hget.symm.trans hsome))).1
  have hfault : Fault.report .plain (Program.parse text').fault?
      = utf8 "ERROR at line 2: 'bad' -> Unknown instruction: bad\n" := by decide +kernel
  have hlater : Fault.report .plain ((Program.parse text').fault?.map
      (Fault.later (text.count 10)))
        = utf8 "ERROR at line 5: 'bad' -> Unknown instruction: bad\n" := by decide +kernel
  obtain ⟨hstatus, -, hfiles, shown, hsecond, hsingle⟩ :=
    outcome_of_concatenation hfs rfl l l' lboth hl hl' hboth (.inr (by decide))
      (by rw [Machine.state_run]; decide +kernel)
  rw [hdirectory] at hfiles
  exact ⟨hfs, hstatus, hfiles hmodes, shown, hsecond.trans (congrArg (shown ++ ·) hfault),
    hsingle.trans (congrArg (first.output ++ shown ++ ·) hlater)⟩

/-- **Two calls may differ from one where a log or a file left behind meets the registers**,
though the store is orderly and the first text is executed to its end.  A log beside the
file of a register is moved there with it, so that the register cannot be loaded any more.
A log at the place of the directory is in the way of both calls, but not of a single one
that logs nothing.  A file left beside that of a register hands its mode on to it, which
only a second call makes up for. -/
theorem outcome_of_concatenation_disturbed :
    let text := utf8 "add x0 x1\n"
    let text' := utf8 "shw x0\n"
    let a := utf8 "a"
    let b := utf8 "b"
    let ab := utf8 "ab"
    let call (log path : Bytes) : Call :=
      { words := Settings.spelled { Settings.silent with logFile := log } ++ [path] }
    let run (log path : Bytes) (fs : FileSystem) : Outcome := (call log path).perform fs
    let seen (o : Outcome) : Nat × Bytes := (o.status, o.output)
    let fs : FileSystem :=
      { entries := [([a], .file 0o644 text), ([b], .file 0o644 text'),
          ([ab], .file 0o644 (text ++ text'))] }
    let fs₁ := fs.put [utf8 "registers"] .directory
    let fs₂ := fs₁.put [utf8 "registers", utf8 "x0.bin.tmp"] (.file 0o600 [])
    let beside := utf8 "registers/x0.bin.tmp"
    let above := utf8 "registers"
    let place : Location := [utf8 "registers", utf8 "x0.bin"]
    (∀ files ∈ [fs, fs₁, fs₂], Orderly [utf8 "registers"] files)
      ∧ (∀ bank, (({ bank } : Machine).run (Program.parse text)).1.state = .completed)
      ∧ (seen (run beside a fs₁) = (0, [])
        ∧ seen (run beside b (run beside a fs₁).files) = (2, [])
        ∧ seen (run beside ab fs₁) = (0, utf8 "0\n"))
      ∧ (seen (run above a fs) = (2, []) ∧ seen (run [] b (run above a fs).files) = (2, [])
        ∧ seen (run [] ab fs) = (0, utf8 "0\n"))
      ∧ (run [] b (run [] a fs₂).files).files.get? place = some (.file 0o644 [0, 0, 0, 0])
      ∧ (run [] ab fs₂).files.get? place = some (.file 0o600 [0, 0, 0, 0]) := by
  intro text text' a b ab call run seen fs fs₁ fs₂ beside above place
  let plan (log path : Bytes) (files : FileSystem) : Plan :=
    let settings : Settings := { Settings.silent with logFile := log }
    let flags : Flag.Parsed := ⟨settings.given, [path]⟩
    ⟨.run, flags, ((call log path).settingsFile flags files).1, settings⟩
  have hwords : ∀ path ∈ [a, b, ab],
      Command.find [path] = (.run, [path]) ∧ ∀ w ∈ [path], w.head? ≠ some 45 := by decide
  have hrun {path : Bytes} (hpath : path ∈ [a, b, ab]) {log : Bytes} {files : FileSystem}
      (hfiles : files.failures = []) :
      run log path files = Invocation.finish ((plan log path files).perform {} files).1
        ((plan log path files).perform {} files).2 := by
    obtain ⟨hfind, hplain⟩ := hwords path hpath
    exact Call.perform_of_intent hfiles
      (Call.intent?_spelled rfl hfind (Flag.parse_words _ hplain) files)
  have horderly : ∀ files ∈ [fs, fs₁, fs₂], Orderly [utf8 "registers"] files := by
    intro files hfiles
    simp only [List.mem_cons, List.not_mem_nil, or_false] at hfiles
    obtain rfl | rfl | rfl := hfiles
    · exact ⟨⟨rfl, by simp [fs]⟩, by decide, fun i hi => .inl (by revert i; decide), by decide⟩
    · exact ⟨⟨rfl, by simp [fs₁, fs, FileSystem.put, FileSystem.erase]⟩, by decide,
        fun i hi => .inl (by revert i; decide), by decide⟩
    · exact ⟨⟨rfl, by simp [fs₂, fs₁, fs, FileSystem.put, FileSystem.erase]⟩, by decide,
        fun i hi => .inl (by revert i; decide), by decide⟩
  have hcompleted (bank : Bank) :
      (({ bank } : Machine).run (Program.parse text)).1.state = .completed := by
    rw [Machine.state_run]
    decide
  have ha : a ∈ [a, b, ab] := by decide
  have hb : b ∈ [a, b, ab] := by decide
  have hab : ab ∈ [a, b, ab] := by decide
  refine ⟨horderly, hcompleted, ⟨?_, ?_, ?_⟩, ⟨?_, ?_, ?_⟩, ?_, ?_⟩
  · rw [hrun ha rfl]
    decide +kernel
  · rw [hrun ha rfl, hrun hb (by decide +kernel)]
    decide +kernel
  · rw [hrun hab rfl]
    decide +kernel
  · rw [hrun ha rfl]
    decide +kernel
  · rw [hrun ha rfl, hrun hb (by decide +kernel)]
    decide +kernel
  · rw [hrun hab rfl]
    decide +kernel
  · rw [hrun ha rfl, hrun hb (by decide +kernel)]
    decide +kernel
  · rw [hrun hab rfl]
    decide +kernel

end RegisterMachine
