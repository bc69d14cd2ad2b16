/-
Programs under other names.

* `Plan.ofProgram`: what a call without flags comes to that runs a program;
* `IsProgram`: a path leads to a program, and it is not the log;
* `Plan.MayHoldLog`: where a log may stand when a program has been run;
* `Plan.setUp_cases`: logs that are set up for other words start alike;
* `Run.matched_perform_path`: **a program does the same under any name**;
* `outcome_of_program_name`: so do calls of it, even if the name is that of a command;
* `slot_depends_on_program_name`: a log that is the file of a register holds the name.
-/
import RegisterMachine.Proofs.Invocation.Concerns
import RegisterMachine.Proofs.Invocation.Logging
import RegisterMachine.Proofs.Invocation.Precedence

namespace RegisterMachine

open FileSystem (AppendsTo Follows)
open FileSystem.Parallel (Loose)

variable {L : Location → Prop} {T : Location → Bytes → Prop} {fs : FileSystem} {w w' : World}
  {s : Surroundings} {a b text : Bytes}

/-! ### Calls without flags -/

/-- What is read from the file with the settings where no flags are given. -/
def Surroundings.settingsFile (s : Surroundings) (fs : FileSystem) : Settings.File :=
  (Settings.File.load s.reader Flag.config.default
    (s.environment.get Invocation.homeVariable) fs).1

/-- The settings where no flags are given. -/
def Surroundings.settings (s : Surroundings) (fs : FileSystem) : Settings :=
  Settings.resolve s.display {} s.environment (s.settingsFile fs).entries

/-- What a call without flags comes to that runs the program at `path`. -/
def Plan.ofProgram (s : Surroundings) (fs : FileSystem) (path : Bytes) : Plan :=
  ⟨.run, { words := [path] }, s.settingsFile fs, s.settings fs⟩

/-- The path leads to a file with the text of a program.  It is not read as a flag, and
the file is not the log. -/
structure IsProgram (s : Surroundings) (fs : FileSystem) (path text : Bytes) : Prop where
  noFlag : path.head? ≠ some 45
  file : ∃ m, fs.locate path = .ok (.file m text)
  notLog : ¬ (Plan.ofProgram s fs path).IsLog (Path.resolve path)

namespace Invocation

/-- A single word that leads to a file is marked as no command. -/
lemma words_of_file {m : Nat} {c : Bytes} (hfs : fs.failures = []) (hdash : a.head? ≠ some 45)
    (hfile : fs.locate a = .ok (.file m c)) : words [a] fs = ([utf8 "--", a], fs) := by
  rw [words, if_neg (by simpa using hdash), FileSystem.isDirectory, FileSystem.attempt_eq hfs,
    hfile]
  rfl

/-- Any other single word is passed on. -/
lemma words_of_no_file (hfs : fs.failures = []) (h : ∀ m c, fs.locate a ≠ .ok (.file m c)) :
    words [a] fs = ([a], fs) := by
  rw [words]
  split_ifs
  · rfl
  · rw [FileSystem.isDirectory, FileSystem.attempt_eq hfs]
    cases hlocate : fs.locate a with
    | error errno => rfl
    | ok e =>
        cases e with
        | directory => rfl
        | file m c => exact absurd hlocate (h m c)

end Invocation

/-- A call whose only word leads to a program comes to running it. -/
lemma IsProgram.intent?_eq (h : IsProgram s fs a text) (hfs : fs.failures = []) :
    Call.intent? ⟨s, [a]⟩ fs = some (Plan.ofProgram s fs a) := by
  obtain ⟨m, hfile⟩ := h.file
  have hwords := Invocation.words_of_file hfs h.noFlag hfile
  have hfind : Command.find [utf8 "--", a] = (.run, [utf8 "--", a]) := rfl
  have hread : Call.settingsFile ⟨s, [a]⟩ { words := [a] } fs
      = Settings.File.load s.reader Flag.config.default
        (s.environment.get Invocation.homeVariable) fs := by
    rw [Call.settingsFile, hwords]
    rfl
  rw [Call.intent?, hwords, hfind]
  dsimp only
  rw [Flag.parse_dashes]
  simp only [Except.toOption, Option.map_some, Call.settings, hread]
  rfl

/-! ### Logs -/

namespace Plan

/-- Where the log may stand when a program has been run: at its place, or in place of a
register if it was the file beside it. -/
def MayHoldLog (p : Plan) (q : Location) : Prop :=
  p.IsLog q ∨ ∃ i ∈ Store.registers,
    p.IsLog (Slot.scratchPlace (Path.resolve p.settings.registersDirectory) i)
      ∧ q = Slot.place (Path.resolve p.settings.registersDirectory) i

lemma follows_mayHoldLog (p : Plan) :
    Follows p.MayHoldLog (Path.resolve p.settings.registersDirectory) := by
  rintro i hi (hlog | ⟨j, -, -, hplace⟩)
  · exact .inr ⟨i, hi, hlog, rfl⟩
  · exact absurd hplace.symm (Slot.place_ne_scratchPlace _ _ _)

/-- The log is at a place, and its text starts with more than a register has. -/
def LongLog (p : Plan) (q : Location) (c : Bytes) : Prop :=
  p.IsLog q ∧ Slot.size < c.length

end Plan

/-- What is logged about the start of a command does not depend on its words at first. -/
lemma Invocation.exists_start (c : Command) :
    ∃ start, Slot.size < start.length
      ∧ ∀ ws, ∃ x, (startedRecord c ws).object = start ++ x := by
  refine ⟨utf8 "\x7b" ++ (Log.jsonString false (utf8 "level") ++ utf8 ":"
    ++ (Log.Value.text Log.Severity.debug.name).json), by decide +kernel, fun ws => ?_⟩
  rw [Log.Record.object, Bytes.joined, startedRecord]
  simp only [List.map_cons, List.intercalate_cons_cons, List.append_assoc]
  exact ⟨_, rfl⟩

/-- Different texts that start alike may be added to a log on both sides, and from then on
what else is added is of no account. -/
lemma FileSystem.parallel_append_start {start : Bytes} (hfs : fs.failures = [])
    (hheld : ∀ a ∈ fs.appender, ∀ q ∈ a.place,
      ∃ m c, fs.get? q = some (.file m c) ∧ T q (c ++ start)) (x x' : Bytes) :
    Parallel (fun _ => False) T (fs.append (start ++ x)) (fs.append (start ++ x'))
      ∧ Loose (fun _ => False) T (fs.append (start ++ x)) (fs.append (start ++ x')) := by
  have hget (y : Bytes) (q : Location) :
      (fs.append (start ++ y)).get? q = fs.extended (start ++ y) q :=
    get?_append_of_take (by simp [hfs, Failure.take]) _ q
  have hlog {a : Appender} {q : Location} (ha : a ∈ fs.appender) (hq : a.place = some q) :
      ∃ c m, T q c ∧ ∀ y, (fs.append (start ++ y)).get? q = some (.file m (c ++ y)) := by
    obtain ⟨m, c, hfile, hT⟩ := hheld a ha q hq
    refine ⟨c ++ start, m, hT, fun y => ?_⟩
    rw [hget, extended, if_pos ⟨a, ha, hq⟩, hfile, List.append_assoc]
    rfl
  have hharmless (y : Bytes) : Harmless (fun _ => False) (fs.append (start ++ y)) :=
    harmless_of_nil (lengthened_append hfs _).failures
  refine ⟨⟨hharmless x, hharmless x', fun q => ?_, .inr ⟨?_, fun _ _ => id⟩⟩, fun a ha q hq => ?_⟩
  · by_cases hplace : ∃ a ∈ fs.appender, a.place = some q
    · obtain ⟨a, ha, hq⟩ := hplace
      obtain ⟨c, m, hT, hc⟩ := hlog ha hq
      rw [hc, hc]
      exact .logged hT m x x'
    · rw [hget, hget, extended, extended, if_neg hplace, if_neg hplace]
      exact .same _
  · rw [appender_append, appender_append]
  · rw [appender_append] at ha
    obtain ⟨c, m, hT, hc⟩ := hlog ha hq
    exact .inr ⟨c, m, x, x', hT, hc x, hc x'⟩

/-- Different records that start alike may be logged in two copies of a world. -/
lemma World.parallel_log_start {start x x' : Bytes} {r r' : Log.Record}
    (hthreshold : w.threshold.isSome = true) (hfs : w.files.failures = [])
    (hheld : ∀ a ∈ w.files.appender, ∀ q ∈ a.place,
      ∃ m c, w.files.get? q = some (.file m c) ∧ T q (c ++ start))
    (hr : r.object = start ++ x) (hr' : r'.object = start ++ x') :
    World.Parallel (fun _ => False) T True (w.log r) (w.log r')
      ∧ Loose (fun _ => False) T (w.log r).files (w.log r').files := by
  have hboth := FileSystem.parallel_append_start hfs hheld x x'
  have hfiles : (w.log r).files = w.files.append (start ++ x) := by
    rw [files_log_eq, if_pos hthreshold, hr]
  have hfiles' : (w.log r').files = w.files.append (start ++ x') := by
    rw [files_log_eq, if_pos hthreshold, hr']
  rw [← hfiles, ← hfiles'] at hboth
  refine ⟨⟨hboth.1, fun _ => ?_, ?_⟩, hboth.2⟩
  · rw [output_log, output_log]
  · rw [threshold_log, threshold_log]

/-- Logging is set up for other words with the same result.  The logs start alike, and
what else is added to them is of no account. -/
lemma Plan.setUp_cases (p : Plan) (flags : Flag.Parsed) (hfs : fs.failures = [])
    (happender : fs.appender = none) :
    (∃ e w, p.setUp fs = (.error e, w) ∧ { p with flags }.setUp fs = (.error e, w)
        ∧ w.files.failures = [])
      ∨ ∃ w w', p.setUp fs = (.ok (), w) ∧ { p with flags }.setUp fs = (.ok (), w')
        ∧ World.Parallel (fun _ => False) p.LongLog True w w'
        ∧ Loose (fun _ => False) p.LongLog w.files w'.files
        ∧ w'.files.appender = w.files.appender := by
  have hstart : World.Parallel (fun _ => False) (fun _ _ => False) True { files := fs }
      { files := fs } := ⟨.refl hfs, fun _ => rfl, rfl⟩
  have hcalm := (Invocation.lengthened_openLog (w := { files := fs }) hfs p.settings).failures
  rw [setUp, setUp, Invocation.setUpLogging, Invocation.setUpLogging]
  cases Log.readLevel (Blank.trim p.settings.logLevel) with
  | error e => exact .inl ⟨_, _, rfl, rfl, hfs⟩
  | ok level =>
      dsimp only
      obtain ⟨e, -, -, hopen, -⟩ | ⟨w₁, w₁', hopen, hopen', -, -, hheld⟩ :=
        openLog_cases (p := p) hstart (fun _ => False.elim) happender happender
      · rw [hopen]
        exact .inl ⟨_, _, rfl, rfl, hfs⟩
      · obtain rfl : w₁' = w₁ := congrArg Prod.snd (hopen'.symm.trans hopen)
        obtain ⟨start, hlong, hrecord⟩ := Invocation.exists_start p.command
        obtain ⟨x, hx⟩ := hrecord p.flags.words
        obtain ⟨x', hx'⟩ := hrecord flags.words
        have hlogs : ∀ a ∈ w₁'.files.appender, ∀ q ∈ a.place,
            ∃ m c, w₁'.files.get? q = some (.file m c) ∧ p.LongLog q (c ++ start) := by
          intro a ha q hq
          obtain ⟨hlog, m, c, hget, -⟩ := (hheld a ha q hq).resolve_left id
          exact ⟨m, c, hget, hlog, by rw [List.length_append]; omega⟩
        rw [hopen] at hcalm ⊢
        obtain ⟨hstarted, hloose⟩ := World.parallel_log_start
          (w := { w₁' with threshold := some level }) rfl hcalm hlogs hx hx'
        have hsame : ({ w₁' with threshold := some level }.log
              (Invocation.startedRecord p.command flags.words)).files.appender
            = ({ w₁' with threshold := some level }.log
              (Invocation.startedRecord p.command p.flags.words)).files.appender := by
          rw [World.appender_log, World.appender_log]
        obtain ⟨hboth, hloose⟩ := hstarted.logOptions hloose hsame
          (Invocation.settingsRecord? p.file) (Invocation.settingsRecord? p.file)
        refine .inr ⟨_, _, rfl, rfl, hboth, hloose, ?_⟩
        rw [World.appender_logOption, World.appender_logOption, hsame]

/-! ### Programs -/

lemma World.Parallel.widen {D D' : Location → Prop} {S : Prop} (h : World.Parallel D T S w w')
    (hD : ∀ q, D q → D' q) (hheld : w.files.AppendsTo D') (hheld' : w'.files.AppendsTo D') :
    World.Parallel D' T S w w' :=
  ⟨h.files.widen hD hheld hheld', h.output, h.threshold⟩

namespace Run

variable {settings : Settings} {colours : Palette}

/-- A program has the same effects under any name, but where the log stands in the
end. -/
lemma matched_execute_path (h : World.Parallel (fun _ => False) T True w w')
    (hheld : w.files.AppendsTo L) (hheld' : w'.files.AppendsTo L)
    (hL : Follows L (Path.resolve settings.registersDirectory)) (a b : Bytes) (p : Program)
    (bank : Bank) :
    Matched L T True (execute settings colours a p bank w)
      (execute settings colours b p bank w') := by
  have hcolours : True → colours = colours := fun _ => rfl
  have hdelivered := appendsTo_deliver hL hheld colours (({ bank := bank } : Machine).run p).2
  have hdelivered' := appendsTo_deliver hL hheld' colours (({ bank := bank } : Machine).run p).2
  obtain ⟨errors, w₁, w₁', hdeliver, hdeliver', h₁⟩ :=
    deliver_parallel h (fun _ _ => id) hcolours (({ bank := bank } : Machine).run p).2
  rw [hdeliver] at hdelivered
  rw [hdeliver'] at hdelivered'
  have h₂ := h₁.widen (fun _ => False.elim) hdelivered hdelivered'
  rw [execute, execute]
  dsimp only
  rw [hdeliver, hdeliver']
  dsimp only
  split_ifs
  · -- the names are in the last records, and those are added where `L` holds
    have hloose : ∀ fs, Loose L T w₁.files fs := fun _ held hmem q hq =>
      .inl (hdelivered held hmem q hq)
    have hloose' : ∀ fs, Loose L T w₁'.files fs := fun _ held hmem q hq =>
      .inl (hdelivered' held hmem q hq)
    have hleft := (h₂.logOption_left (hloose _)
      (some (finishedRecord a (({ bank := bank } : Machine).run p).1))).1
    have hright := (hleft.symm.logOption_left (hloose' _)
      (some (finishedRecord b (({ bank := bank } : Machine).run p).1))).1
    exact hright.symm.matched _
  · exact (h₂.log _).matched _

/-- **A program does the same under any name**, but where the log stands in the end. -/
theorem matched_perform_path (h : World.Parallel (fun _ => False) T True w w')
    (hloose : Loose (fun _ => False) T w.files w'.files)
    (hsame : w'.files.appender = w.files.appender) (hheld : w.files.AppendsTo L)
    (hheld' : w'.files.AppendsTo L) (hL : Follows L (Path.resolve settings.registersDirectory))
    (hT : ∀ q c, T q c → Slot.size < c.length) (hread : w.files.read a = (.ok text, w.files))
    (hread' : w'.files.read b = (.ok text, w'.files)) :
    Matched L T True (perform settings a w) (perform settings b w') := by
  rw [perform, perform]
  cases palette settings with
  | error e => exact (h.widen (fun _ => False.elim) hheld hheld').matched _
  | ok colours =>
      dsimp only
      rw [Program.fetch, Program.fetch, hread, hread']
      dsimp only
      generalize Program.parse text = p
      have h₁ : World.Parallel (fun _ => False) T True (w.log (loadedRecord a p))
          (w'.log (loadedRecord b p)) :=
        (h.logOptions hloose hsame (some (loadedRecord a p)) (some (loadedRecord b p))).1
      have hloaded := logged_load (World.logged_log hheld (loadedRecord a p)).files.appendsTo
        settings.registersDirectory
      have hloaded' := logged_load (World.logged_log hheld' (loadedRecord b p)).files.appendsTo
        settings.registersDirectory
      rw [World.withFiles_files, World.withFiles_files]
      obtain ⟨w₂, w₂', h₂, ⟨bank, hload, hload'⟩ | ⟨errors, errors', hload, hload'⟩⟩ :=
        load_cases (d := settings.registersDirectory) h₁ (fun _ _ => id) (fun _ _ => id) hT
      · rw [hload] at hloaded ⊢
        rw [hload'] at hloaded' ⊢
        exact matched_execute_path h₂ hloaded.files.appendsTo hloaded'.files.appendsTo hL a b p bank
      · rw [hload] at hloaded ⊢
        rw [hload'] at hloaded' ⊢
        exact (h₂.widen (fun _ => False.elim) hloaded.files.appendsTo
          hloaded'.files.appendsTo).matched_error rfl

end Run

/-! ### Calls -/

namespace Plan

/-- Setting up the log changes nothing but the log. -/
lemma logged_setUp (p : Plan) (happender : fs.appender = none) (hL : ∀ q, p.IsLog q → L q) :
    World.Logged L { files := fs } (p.setUp fs).2 := by
  have hnone : fs.AppendsTo L := by simp [AppendsTo, happender]
  exact Invocation.logged_setUpLogging hnone (fun hne => hL _ ⟨hne, rfl⟩) p.file p.command
    p.flags.words

lemma perform_of_setUp_error {e : CommandError}
    (h : (ofProgram s fs a).setUp fs = (.error e, w)) :
    (ofProgram s fs a).perform s fs = (.error e, w) := by
  rw [perform, h]
  rfl

lemma perform_of_setUp (h : (ofProgram s fs a).setUp fs = (.ok (), w)) :
    (ofProgram s fs a).perform s fs = Run.perform (s.settings fs) a w := by
  rw [perform, h]
  rfl

end Plan

/-- A program that is not the log is read as it was, once logging has been set up. -/
lemma IsProgram.read_eq (h : IsProgram s fs a text) (hfs : fs.failures = [])
    (happender : fs.appender = none) (hsetUp : (Plan.ofProgram s fs a).setUp fs = (.ok (), w)) :
    w.files.read a = (.ok text, w.files) := by
  obtain ⟨m, hfile⟩ := h.file
  have hlengthened : FileSystem.Lengthened fs ((Plan.ofProgram s fs a).setUp fs).2.files :=
    Invocation.lengthened_setUpLogging (w := { files := fs }) hfs _ _ _ _
  have hlogged := (Plan.ofProgram s fs a).logged_setUp happender fun _ => id
  rw [hsetUp] at hlengthened hlogged
  have hlocate := hlengthened.locate_eq hfile (hlogged.files.within _ h.notLog)
  rw [FileSystem.read_eq hlengthened.failures, hlocate]

/-- Calls of one program under two names do the same, but where the log stands in the
end. -/
lemma Plan.matched_ofProgram (hfs : fs.failures = []) (happender : fs.appender = none)
    (ha : IsProgram s fs a text) (hb : IsProgram s fs b text) :
    Matched (ofProgram s fs a).MayHoldLog (ofProgram s fs a).LongLog True
      ((ofProgram s fs a).perform s fs) ((ofProgram s fs b).perform s fs) := by
  have hheld : World.Logged (ofProgram s fs a).MayHoldLog { files := fs }
      ((ofProgram s fs a).setUp fs).2 :=
    (ofProgram s fs a).logged_setUp happender fun _ => .inl
  have hheld' : World.Logged (ofProgram s fs a).MayHoldLog { files := fs }
      ((ofProgram s fs b).setUp fs).2 :=
    (ofProgram s fs b).logged_setUp happender fun _ => .inl
  obtain ⟨e, w, hsetUp, hsetUp', hcalm⟩ | ⟨w, w', hsetUp, hsetUp', h, hloose, hsame⟩ :=
    (ofProgram s fs a).setUp_cases { words := [b] } hfs happender
  · rw [perform_of_setUp_error hsetUp, perform_of_setUp_error (a := b) hsetUp']
    rw [hsetUp] at hheld
    have hsame : World.Parallel (fun _ => False) (ofProgram s fs a).LongLog True w w :=
      ⟨.refl hcalm, fun _ => rfl, rfl⟩
    exact (hsame.widen (fun _ => False.elim) hheld.files.appendsTo hheld.files.appendsTo).matched _
  · have hread := ha.read_eq hfs happender hsetUp
    have hread' := hb.read_eq hfs happender hsetUp'
    rw [perform_of_setUp hsetUp, perform_of_setUp (a := b) hsetUp']
    rw [hsetUp] at hheld
    rw [show (ofProgram s fs b).setUp fs = _ from hsetUp'] at hheld'
    exact Run.matched_perform_path h hloose hsame hheld.files.appendsTo hheld'.files.appendsTo
      (follows_mayHoldLog _) (fun _ _ hlong => hlong.2) hread hread'

/-- **The name of a program does not matter.**  Where no failures are due and no file is
held open, a single word that leads to a program runs it, even if it is the name of a
command.  Under two names the same program has the same status, the same output and the
same changes, but for the log; that may stand in place of a register if it was the file
beside it.  Any other single word is passed on as it is. -/
theorem outcome_of_program_name (s : Surroundings) {fs : FileSystem} (hfs : fs.failures = [])
    (happender : fs.appender = none) :
    (∀ a text, IsProgram s fs a text →
        Call.intent? ⟨s, [a]⟩ fs = some (Plan.ofProgram s fs a))
      ∧ (∀ a b text, IsProgram s fs a text → IsProgram s fs b text →
        let o := Call.perform ⟨s, [a]⟩ fs
        let o' := Call.perform ⟨s, [b]⟩ fs
        o'.status = o.status ∧ o'.output = o.output
          ∧ ∀ q, ¬ (Plan.ofProgram s fs a).MayHoldLog q →
            fs.change? o'.files q = fs.change? o.files q)
      ∧ ∀ word, (∀ m c, fs.locate word ≠ .ok (.file m c)) →
        Invocation.words [word] fs = ([word], fs) := by
  refine ⟨fun a text ha => ha.intent?_eq hfs, ?_, fun word => Invocation.words_of_no_file hfs⟩
  intro a b text ha hb o o'
  have hmatched := Plan.matched_ofProgram hfs happender ha hb
  obtain ⟨hstatus, houtput⟩ := hmatched.finish
  have ho : o = Invocation.finish ((Plan.ofProgram s fs a).perform s fs).1
      ((Plan.ofProgram s fs a).perform s fs).2 :=
    Call.perform_of_intent hfs (ha.intent?_eq hfs)
  have ho' : o' = Invocation.finish ((Plan.ofProgram s fs b).perform s fs).1
      ((Plan.ofProgram s fs b).perform s fs).2 :=
    Call.perform_of_intent hfs (hb.intent?_eq hfs)
  rw [ho, ho']
  refine ⟨hstatus, houtput trivial, fun q hq => FileSystem.change?_congr rfl ?_⟩
  rw [Invocation.get?_finish, Invocation.get?_finish]
  exact (hmatched.world.files.entry q).eq hq fun c hlong => hq (.inl hlong.1)

/-- A program that shows a register and is at fault, under the name of a command and under
another one.  The log is the file beside the first register and is moved to the place of
that; the other registers do not depend on the name.  A directory is passed on as it
is. -/
theorem outcome_of_program_name_passwd :
    let s : Surroundings := { environment := [(utf8 "CPX_LOG_FILE", utf8 "registers/x0.bin.tmp")] }
    let text := utf8 "add x1 x2\nshw x1\nbad\n"
    let fs : FileSystem :=
      { entries := [([utf8 "passwd"], .file 0o644 text), ([utf8 "p"], .file 0o600 text),
          ([utf8 "registers"], .directory),
          ([utf8 "registers", utf8 "x2.bin"], .file 0o600 [0, 0, 0, 7])] }
    let o := Call.perform ⟨s, [utf8 "passwd"]⟩ fs
    let o' := Call.perform ⟨s, [utf8 "p"]⟩ fs
    Call.intent? ⟨s, [utf8 "passwd"]⟩ fs = some (Plan.ofProgram s fs (utf8 "passwd"))
      ∧ o'.status = o.status ∧ o'.output = o.output
      ∧ fs.change? o'.files [utf8 "registers", utf8 "x1.bin"]
        = fs.change? o.files [utf8 "registers", utf8 "x1.bin"]
      ∧ Invocation.words [utf8 "registers"] fs = ([utf8 "registers"], fs) := by
  intro s text fs o o'
  have hfile : fs.locate (utf8 "passwd") = .ok (.file 0o644 text) := by decide +kernel
  have hfile' : fs.locate (utf8 "p") = .ok (.file 0o600 text) := by decide +kernel
  have hdirectory : fs.locate (utf8 "registers") = .ok .directory := by decide +kernel
  -- the log goes to the place of the first register, which is another one
  have hmoved : ∀ i ∈ Store.registers,
      [utf8 "registers", utf8 "x1.bin"]
          = Slot.place (Path.resolve (s.settings fs).registersDirectory) i →
        Slot.scratchPlace (Path.resolve (s.settings fs).registersDirectory) i
          ≠ Path.resolve (s.settings fs).logFile := by decide +kernel
  have hnamed : IsProgram s fs (utf8 "passwd") text :=
    ⟨by decide, ⟨_, hfile⟩, fun hlog => absurd hlog.2 (by decide +kernel)⟩
  have hplain : IsProgram s fs (utf8 "p") text :=
    ⟨by decide, ⟨_, hfile'⟩, fun hlog => absurd hlog.2 (by decide +kernel)⟩
  have hfs : fs.failures = [] := rfl
  obtain ⟨hintent, houtcome, hwords⟩ := outcome_of_program_name s hfs rfl
  obtain ⟨hstatus, houtput, hchange⟩ := houtcome _ _ _ hnamed hplain
  refine ⟨hintent _ _ hnamed, hstatus, houtput, hchange _ ?_, hwords _ ?_⟩
  · rintro (⟨-, hplace⟩ | ⟨i, hi, hscratch, hplace⟩)
    · exact absurd hplace (by decide +kernel)
    · exact hmoved i hi hplace hscratch.2
  · intro m c hfound
    exact absurd (hdirectory.symm.trans hfound) (by simp)

/-- **A log that is the file of a register holds the name of the program**, so that this
file depends on the name, even if the program is not run since there are no such colours. -/
theorem slot_depends_on_program_name :
    let s : Surroundings :=
      { environment := [(utf8 "CPX_LOG_FILE", utf8 "registers/x0.bin"),
          (utf8 "CPX_COLOR", utf8 "sometimes")] }
    let fs : FileSystem :=
      { entries := [([utf8 "p"], .file 0o644 (utf8 "halt\n")),
          ([utf8 "q"], .file 0o644 (utf8 "halt\n")), ([utf8 "registers"], .directory)] }
    let slot : Location := [utf8 "registers", utf8 "x0.bin"]
    IsProgram s fs (utf8 "p") (utf8 "halt\n") ∧ IsProgram s fs (utf8 "q") (utf8 "halt\n")
      ∧ fs.failures = [] ∧ fs.appender = none
      ∧ fs.change? (Call.perform ⟨s, [utf8 "q"]⟩ fs).files slot
        ≠ fs.change? (Call.perform ⟨s, [utf8 "p"]⟩ fs).files slot := by
  intro s fs slot
  have hp : IsProgram s fs (utf8 "p") (utf8 "halt\n") :=
    ⟨by decide, ⟨0o644, by decide +kernel⟩, fun hlog => absurd hlog.2 (by decide +kernel)⟩
  have hq : IsProgram s fs (utf8 "q") (utf8 "halt\n") :=
    ⟨by decide, ⟨0o644, by decide +kernel⟩, fun hlog => absurd hlog.2 (by decide +kernel)⟩
  refine ⟨hp, hq, rfl, rfl, ?_⟩
  rw [Call.perform_of_intent rfl (hp.intent?_eq rfl),
    Call.perform_of_intent rfl (hq.intent?_eq rfl)]
  decide +kernel

end RegisterMachine
