/-
Settings that only concern the presentation of a run.

* `FileSystem.Harmless.read_eq`: failures to write a log have no influence on reading,
  and so none on the words and the settings of a call;
* `Launch.LogsApart`: the log is none of the files that a program run is about;
* `Launch.parallel_world`: two calls that differ in the log and the colours are side by
  side when the program is to be read;
* `outcome_of_presentation`: **the colours, the log and its level have no influence on
  what a program does**, even if the log cannot be written.
-/
import RegisterMachine.FileSystem.Change
import RegisterMachine.Proofs.Command.Parallel
import RegisterMachine.Proofs.Invocation.Changes

namespace RegisterMachine

open FileSystem (Harmless AppendsTo)

variable {D : Location → Prop} {T : Location → Bytes → Prop} {S : Prop} {fs fs' : FileSystem}
  {w : World}

/-! ### Reading while logs cannot be written -/

namespace FileSystem

lemma Harmless.read_eq (h : fs.Harmless D) (path : Bytes) :
    fs.read path = ((fs.calm.read path).1, fs) := by
  have hlocate : fs.calm.locate path = fs.locate path := rfl
  rw [read, read, h.attempt_eq (by simp), FileSystem.attempt_eq rfl]
  dsimp only
  rw [hlocate]
  cases fs.locate path with
  | error errno => rfl
  | ok e =>
      simp only [Except.mapError]
      rw [h.attempt_eq (by simp), FileSystem.attempt_eq rfl]
      cases e <;> rfl

lemma Harmless.isDirectory_eq (h : fs.Harmless D) (path : Bytes) :
    fs.isDirectory path = ((fs.calm.isDirectory path).1, fs) := by
  have hlocate : fs.calm.locate path = fs.locate path := rfl
  rw [isDirectory, isDirectory, h.attempt_eq (by simp), FileSystem.attempt_eq rfl]
  dsimp only
  rw [hlocate]
  cases fs.locate path <;> rfl

end FileSystem

namespace Settings.File

lemma search_eq (h : fs.Harmless D) (paths : List Bytes) :
    search paths fs = ((search paths fs.calm).1, fs) := by
  induction paths with
  | nil => rfl
  | cons path paths ih =>
      have hcalm := FileSystem.isDirectory_snd (show fs.calm.failures = [] from rfl) path
      rw [search, search, h.isDirectory_eq]
      generalize fs.calm.isDirectory path = x at hcalm ⊢
      obtain ⟨r, fs₁⟩ := x
      obtain rfl : fs₁ = fs.calm := hcalm
      cases r with
      | error e => exact ih
      | ok isDirectory =>
          cases isDirectory with
          | false => rfl
          | true => exact ih

lemma read_eq (h : fs.Harmless D) (reader : Reader) (format : Format) (path : Bytes) :
    read reader format path fs = ((read reader format path fs.calm).1, fs) := by
  rw [read, read, h.read_eq]
  generalize fs.calm.read path = x
  obtain ⟨r, fs₁⟩ := x
  cases r with
  | error e => rfl
  | ok text =>
      dsimp only
      cases entriesOf reader format text <;> rfl

/-- Failures to write a log have no influence on the file with the settings. -/
lemma load_eq (h : fs.Harmless D) (reader : Reader) (given home : Bytes) :
    load reader given home fs = ((load reader given home fs.calm).1, fs) := by
  rw [load, load]
  split_ifs
  · rw [loadHome, loadHome]
    split_ifs
    · rfl
    · have hharmless : fs.calm.Harmless D := FileSystem.harmless_of_nil rfl
      have hcalm := congrArg Prod.snd (search_eq hharmless (candidates home))
      rw [search_eq h]
      generalize search (candidates home) fs.calm = x at hcalm ⊢
      obtain ⟨r, fs₁⟩ := x
      obtain rfl : fs₁ = fs.calm := hcalm
      cases r with
      | none => rfl
      | some path => exact read_eq h reader .yaml path
  · cases formatOf given with
    | ok format => exact read_eq h reader format given
    | error p => rfl

end Settings.File

/-- Failures to write a log have no influence on how the words of a call are read. -/
lemma Invocation.words_eq (h : fs.Harmless D) (ws : List Bytes) :
    words ws fs = ((words ws fs.calm).1, fs) := by
  unfold words
  split
  · split_ifs
    · rfl
    · rw [h.isDirectory_eq]
      generalize fs.calm.isDirectory _ = x
      obtain ⟨r, fs₁⟩ := x
      cases r with
      | error e => rfl
      | ok isDirectory => cases isDirectory <;> rfl
  · rfl

/-! ### Setting up a log on one side -/

lemma World.parallel_log_left (h : FileSystem.Parallel D T w.files fs')
    (hheld : w.files.AppendsTo D) (r : Log.Record) :
    FileSystem.Parallel D T (w.log r).files fs' := by
  rw [files_log_eq]
  split_ifs
  · exact (h.append_left (fun a ha q hq => .inl (hheld a ha q hq)) r.object).1
  · exact h

namespace Invocation

variable {settings : Settings}

lemma parallel_openLog_left (h : FileSystem.Parallel D T w.files fs')
    (hheld' : fs'.AppendsTo D)
    (hlog : settings.logFile ≠ [] → D (Path.resolve settings.logFile)) :
    FileSystem.Parallel D T (openLog settings w).2.files fs' := by
  rw [openLog]
  split_ifs with hempty
  · exact h
  · have hopened := h.openAppender_left (hlog (by simpa using hempty)) hheld' logMode
    generalize w.files.openAppender logMode settings.logFile = x at hopened ⊢
    obtain ⟨r, files⟩ := x
    cases r <;> exact hopened

/-- A log may be set up on one side only, at a place with `D`. -/
lemma parallel_setUpLogging_left (h : FileSystem.Parallel D T w.files fs')
    (hheld : w.files.AppendsTo D) (hheld' : fs'.AppendsTo D)
    (hlog : settings.logFile ≠ [] → D (Path.resolve settings.logFile)) (file : Settings.File)
    (c : Command) (ws : List Bytes) :
    FileSystem.Parallel D T (setUpLogging settings file c ws w).2.files fs' := by
  rw [setUpLogging]
  split
  · exact h
  · rename_i level _
    have hopened := parallel_openLog_left h hheld' hlog
    have hopen := (logged_openLog hheld hlog).files.appendsTo
    generalize openLog settings w = x at hopened hopen ⊢
    obtain ⟨r, w₁⟩ := x
    cases r with
    | error e => exact hopened
    | ok =>
        have hstarted := World.parallel_log_left (w := { w₁ with threshold := some level })
          hopened hopen (startedRecord c ws)
        have hheld₁ := (World.logged_log (w := { w₁ with threshold := some level }) hopen
          (startedRecord c ws)).files.appendsTo
        dsimp only
        cases settingsRecord? file with
        | none => exact hstarted
        | some r => exact World.parallel_log_left hstarted hheld₁ r

lemma threshold_setUpLogging {file : Settings.File} {c : Command} {ws : List Bytes} {w₁ : World}
    (h : setUpLogging settings file c ws w = (.ok (), w₁)) : w₁.threshold.isSome = true := by
  rw [setUpLogging] at h
  split at h
  · exact absurd (congrArg Prod.fst h) (by simp)
  · generalize openLog settings w = x at h
    obtain ⟨r, w₂⟩ := x
    cases r with
    | error e => exact absurd (congrArg Prod.fst h) (by simp)
    | ok =>
        obtain rfl := congrArg Prod.snd h
        dsimp only
        cases settingsRecord? file with
        | none => simp [World.threshold_log]
        | some r => simp [World.threshold_log]

end Invocation

/-! ### Ends of calls -/

/-- Calls whose results cannot be told apart have the same status, and the same output if
`S` holds. -/
lemma Matched.finish {x x' : Except CommandError Unit × World} (h : Matched D T S x x') :
    (Invocation.finish x'.1 x'.2).status = (Invocation.finish x.1 x.2).status
      ∧ (S → (Invocation.finish x'.1 x'.2).output = (Invocation.finish x.1 x.2).output) := by
  obtain ⟨r, w⟩ := x
  obtain ⟨r', w'⟩ := x'
  have hseen := h.seen
  have houtput := h.world.output
  cases r with
  | ok =>
      cases r' with
      | ok => exact ⟨rfl, houtput⟩
      | error e' => exact absurd hseen (by simp [Except.mapError])
  | error e =>
      cases r' with
      | ok => exact absurd hseen (by simp [Except.mapError])
      | error e' =>
          have heq : e'.seen = e.seen := Except.error.inj hseen
          refine ⟨congrArg Prod.fst heq, fun hS => ?_⟩
          exact congrArg₂ (· ++ ·) (houtput hS) (congrArg Prod.snd heq)

lemma FileSystem.change?_eq_none {after : FileSystem} {q : Location}
    (h : after.get? q = fs.get? q) : fs.change? after q = none := by
  rw [change?, if_pos h.symm]

lemma FileSystem.change?_congr {after after' : FileSystem} {q : Location}
    (h : fs'.get? q = fs.get? q) (h' : after'.get? q = after.get? q) :
    fs'.change? after' q = fs.change? after q := by
  rw [change?, change?, h, h']

/-! ### Calls that run a program -/

namespace Launch

variable {c c' : Call} {failures failures' : List Failure}

/-- The log is neither the program nor a file of the registers nor on the way to
them. -/
def LogsApart (l : Launch c fs) : Prop :=
  ∀ q, l.IsLog q → q ≠ Path.resolve l.path ∧ ¬ Store.Guarded (Path.resolve l.directory) q

/-- Up to failures to write the log, the file with the settings is that of the calm
files. -/
lemma settingsFile_eq (l : Launch c fs) (h : fs.Harmless D) :
    c.settingsFile l.flags fs
      = ((Settings.File.load c.surroundings.reader (l.flags.value .config) c.home fs.calm).1,
        fs) := by
  rw [Call.settingsFile, Invocation.words_eq h, Settings.File.load_eq h]

/-- The log may be set up on one side only. -/
lemma parallel_world_left (l : Launch c fs) (h : FileSystem.Parallel D T fs fs')
    (happender : fs.appender = none) (hheld' : fs'.AppendsTo D) (hlog : ∀ q, l.IsLog q → D q) :
    FileSystem.Parallel D T l.world.files fs' ∧ l.world.files.AppendsTo D := by
  have hready := l.ready
  have hfile : (c.settingsFile l.flags fs).2 = fs :=
    congrArg Prod.snd (l.settingsFile_eq h.harmless)
  have hheld : fs.AppendsTo D := by simp [AppendsTo, happender]
  have hplace : (c.settings l.flags fs).logFile ≠ [] →
      D (Path.resolve (c.settings l.flags fs).logFile) := fun hne => hlog _ ⟨hne, rfl⟩
  rw [hfile] at hready
  have hparallel := Invocation.parallel_setUpLogging_left (w := { files := fs }) h hheld hheld'
    hplace (c.settingsFile l.flags fs).1 .run l.flags.words
  have hlogged := (Invocation.logged_setUpLogging (w := { files := fs }) hheld hplace
    (c.settingsFile l.flags fs).1 .run l.flags.words).files.appendsTo
  rw [hready] at hparallel hlogged
  exact ⟨hparallel, hlogged⟩

/-- Two calls that write logs at places with `D` are side by side when the program is to
be read. -/
lemma parallel_world (l : Launch c fs) (l' : Launch c' fs') (h : FileSystem.Parallel D T fs fs')
    (happender : fs.appender = none) (happender' : fs'.appender = none)
    (hlog : ∀ q, l.IsLog q → D q) (hlog' : ∀ q, l'.IsLog q → D q) (S : Prop) :
    World.Parallel D T S l.world l'.world := by
  have hheld' : fs'.AppendsTo D := by simp [AppendsTo, happender']
  obtain ⟨hleft, hheld⟩ := l.parallel_world_left h happender hheld' hlog
  obtain ⟨hboth, -⟩ := l'.parallel_world_left hleft.symm happender' hheld hlog'
  refine ⟨hboth.symm, fun _ => ?_, ?_⟩
  · exact (l'.logged_world happender').output_eq.trans (l.logged_world happender).output_eq.symm
  · rw [Invocation.threshold_setUpLogging l.ready, Invocation.threshold_setUpLogging l'.ready]

/-- Calls with the same surroundings and flags, but for those that concern the
presentation, have the same directory of registers. -/
lemma directory_eq (l : Launch c fs) (l' : Launch c' fs') (h : fs.Harmless D)
    (h' : fs'.Harmless D) (hcalm : fs'.calm = fs.calm)
    (hsurroundings : c'.surroundings = c.surroundings)
    (hconfig : l'.flags.given? .config = l.flags.given? .config)
    (hdirectory : l'.flags.given? .registersDir = l.flags.given? .registersDir) :
    l'.directory = l.directory := by
  have hfile : (c'.settingsFile l'.flags fs').1 = (c.settingsFile l.flags fs).1 := by
    rw [l.settingsFile_eq h, l'.settingsFile_eq h', hcalm, Call.home, Call.home, hsurroundings,
      Flag.Parsed.value, Flag.Parsed.value, hconfig]
  rw [directory, directory, settings, settings, Call.settings, Call.settings, hfile,
    hsurroundings]
  change Settings.value l'.flags _ _ .registersDirectory = Settings.value l.flags _ _ _
  rw [Settings.value, Settings.value, Setting.flag, hdirectory]

end Launch

/-- **The presentation has no influence on what a program does.**  Two calls run the same
program on the same files and differ at most in the flags for the colours, the level of
the log and its file.  Neither log is the program, a file of the registers, or on the
way to them; failures may be due for writing the log, and no others.  Then the status is
the same, and so are all changes but those of the logs.  With the same colours the
output is the same, too.  No file is held open when the calls begin. -/
theorem outcome_of_presentation {c c' : Call} {fs : FileSystem}
    {failures failures' : List Failure} (l : Launch c { fs with failures := failures })
    (l' : Launch c' { fs with failures := failures' }) (happender : fs.appender = none)
    (hsurroundings : c'.surroundings = c.surroundings) (hpath : l'.path = l.path)
    (hflags : ∀ f, f ≠ .color → f ≠ .logLevel → f ≠ .logFile →
      l'.flags.given? f = l.flags.given? f)
    (hlog : l.LogsApart) (hlog' : l'.LogsApart)
    (hfailures : ∀ f ∈ failures, f.operation = .write ∧ ∃ q, l.IsLog q ∧ f.place = some q)
    (hfailures' : ∀ f ∈ failures', f.operation = .write ∧ ∃ q, l'.IsLog q ∧ f.place = some q) :
    let o := c.perform { fs with failures := failures }
    let o' := c'.perform { fs with failures := failures' }
    o'.status = o.status
      ∧ (∀ q, ¬ l.IsLog q → ¬ l'.IsLog q → fs.change? o'.files q = fs.change? o.files q)
      ∧ (l'.colours = l.colours → o'.output = o.output) := by
  intro o o'
  let D : Location → Prop := fun q => l.IsLog q ∨ l'.IsLog q
  let T : Location → Bytes → Prop := fun _ _ => False
  have hharmless : Harmless D { fs with failures := failures } := fun f hf =>
    (hfailures f hf).imp_right fun ⟨q, hq, hplace⟩ => ⟨q, .inl hq, hplace⟩
  have hharmless' : Harmless D { fs with failures := failures' } := fun f hf =>
    (hfailures' f hf).imp_right fun ⟨q, hq, hplace⟩ => ⟨q, .inr hq, hplace⟩
  have hstart : FileSystem.Parallel D T { fs with failures := failures }
      { fs with failures := failures' } :=
    ⟨hharmless, hharmless', fun q => .same _, .inr ⟨rfl, by simp [happender]⟩⟩
  have hworld : World.Parallel D T (l'.colours = l.colours) l.world l'.world :=
    l.parallel_world l' hstart happender happender (fun q => .inl) (fun q => .inr) _
  have hdirectory : l'.directory = l.directory :=
    l.directory_eq l' hharmless hharmless' rfl hsurroundings
      (hflags _ (by decide) (by decide) (by decide)) (hflags _ (by decide) (by decide) (by decide))
  have hstore : ∀ q, Store.Guarded (Path.resolve l.directory) q → ¬ D q := by
    rintro q hq (hD | hD)
    · exact (hlog q hD).2 hq
    · exact (hlog' q hD).2 (by rwa [hdirectory])
  have hprogram : ¬ D (Path.resolve l.path) := by
    rintro (hD | hD)
    · exact (hlog _ hD).1 rfl
    · exact (hlog' _ hD).1 (by rw [hpath])
  have hmatched : Matched D T (l'.colours = l.colours)
      (Run.perform l.settings l.path l.world) (Run.perform l'.settings l.path l'.world) :=
    Run.matched_perform hworld hdirectory l.known l'.known hstore (fun _ _ hT => hT.elim) id
      hprogram fun _ => id
  obtain ⟨hstatus, houtput⟩ := hmatched.finish
  have ho : o = Invocation.finish (Run.perform l.settings l.path l.world).1
      (Run.perform l.settings l.path l.world).2 := l.perform_eq
  have ho' : o' = Invocation.finish (Run.perform l'.settings l.path l'.world).1
      (Run.perform l'.settings l.path l'.world).2 := by rw [← hpath]; exact l'.perform_eq
  rw [ho, ho']
  refine ⟨hstatus, fun q hq hq' => FileSystem.change?_congr rfl ?_, houtput⟩
  rw [Invocation.get?_finish, Invocation.get?_finish]
  exact (hmatched.world.files.entry q).eq (not_or.mpr ⟨hq, hq'⟩) fun _ => id

lemma Store.not_guarded_singleton {name directory : Bytes} (h : name ≠ directory) :
    ¬ Store.Guarded [directory] [name] := by
  rintro (hway | ⟨i, -, hplace | hplace⟩)
  · exact h (List.cons.inj (List.mem_singleton.mp hway)).1
  · exact absurd hplace (by simp [Slot.place])
  · exact absurd hplace (by simp [Slot.scratchPlace])

/-- A call that runs a program, if the log can be set up. -/
def Launch.start {c : Call} (flags : Flag.Parsed) (path : Bytes) (colours : Palette)
    (root : (Command.find (Invocation.words c.words fs).1).1 = .run)
    (parsed : Flag.parse Command.run.flags (Command.find (Invocation.words c.words fs).1).2
      = .ok flags)
    (noHelp : flags.wantsHelp = false) (single : flags.words = [path])
    (ready : (Invocation.setUpLogging (c.settings flags fs) (c.settingsFile flags fs).1 .run
      flags.words { files := (c.settingsFile flags fs).2 }).1 = .ok ())
    (known : Run.palette (c.settings flags fs) = .ok colours) : Launch c fs :=
  { flags, path, colours, root, parsed, noHelp, single, known
    world := (Invocation.setUpLogging (c.settings flags fs) (c.settingsFile flags fs).1 .run
      flags.words { files := (c.settingsFile flags fs).2 }).2
    ready := Prod.ext ready rfl }

/-- A program that shows a register and is at fault, once with a log that cannot be
written, and once with another log, level and mode of colours. -/
theorem outcome_of_presentation_unwritable :
    let fs : FileSystem :=
      { entries := [([utf8 "p"], .file 0o644 (utf8 "shw x1\nbad\n")),
          ([utf8 "registers"], .directory),
          ([utf8 "registers", utf8 "x1.bin"], .file 0o600 [0, 0, 0, 7])] }
    let failures : List Failure := [⟨.write, some [utf8 "log"], .noSpace, none⟩]
    let c : Call := { words := [utf8 "--log-file=log", utf8 "p"] }
    let c' : Call := { words := [utf8 "--color=never", utf8 "--log-level=debug",
      utf8 "--log-file=events", utf8 "p"] }
    let o := c.perform { fs with failures := failures }
    let o' := c'.perform { fs with failures := [] }
    o'.status = o.status
      ∧ (∀ q, q ≠ [utf8 "log"] → q ≠ [utf8 "events"] →
        fs.change? o'.files q = fs.change? o.files q)
      ∧ o'.output = o.output := by
  intro fs failures c c' o o'
  let flags : Flag.Parsed := ⟨[(.logFile, utf8 "log")], [utf8 "p"]⟩
  let flags' : Flag.Parsed := ⟨[(.color, utf8 "never"), (.logLevel, utf8 "debug"),
    (.logFile, utf8 "events")], [utf8 "p"]⟩
  have hword {known : List Flag} : Flag.parse known [utf8 "p"] = .ok { words := [utf8 "p"] } :=
    Flag.parse_words known (by decide)
  have hparsed : Flag.parse Command.run.flags c.words = .ok flags :=
    Flag.parse_spelling (f := .logFile) (by decide) rfl (utf8 "log") hword
  have hparsed' : Flag.parse Command.run.flags c'.words = .ok flags' :=
    Flag.parse_spelling (f := .color) (by decide) rfl (utf8 "never")
      (Flag.parse_spelling (f := .logLevel) (by decide) rfl (utf8 "debug")
        (Flag.parse_spelling (f := .logFile) (by decide) rfl (utf8 "events") hword))
  have hsettings : c.settings flags { fs with failures := failures }
      = { Settings.silent with logFile := utf8 "log" } := rfl
  have hsettings' : c'.settings flags' { fs with failures := [] }
      = { Settings.silent with
          colour := utf8 "never", logLevel := utf8 "debug", logFile := utf8 "events" } := rfl
  let l : Launch c { fs with failures := failures } :=
    .start flags (utf8 "p") .plain (by decide) hparsed (by decide) rfl
      (by rw [hsettings]; decide +kernel) (by rw [hsettings]; decide)
  let l' : Launch c' { fs with failures := [] } :=
    .start flags' (utf8 "p") .plain (by decide) hparsed' (by decide) rfl
      (by rw [hsettings']; decide +kernel) (by rw [hsettings']; decide)
  have hlog (q : Location) : l.IsLog q ↔ q = [utf8 "log"] :=
    and_iff_right (show utf8 "log" ≠ [] by decide)
  have hlog' (q : Location) : l'.IsLog q ↔ q = [utf8 "events"] :=
    and_iff_right (show utf8 "events" ≠ [] by decide)
  have hapart : l.LogsApart := by
    intro q hq
    rw [(hlog q).mp hq]
    exact ⟨show [utf8 "log"] ≠ [utf8 "p"] by decide, Store.not_guarded_singleton (by decide)⟩
  have hapart' : l'.LogsApart := by
    intro q hq
    rw [(hlog' q).mp hq]
    exact ⟨show [utf8 "events"] ≠ [utf8 "p"] by decide, Store.not_guarded_singleton (by decide)⟩
  have hflags (f : Flag) (hcolor : f ≠ .color) (hlevel : f ≠ .logLevel) (hfile : f ≠ .logFile) :
      flags'.given? f = flags.given? f := by
    revert hcolor hlevel hfile
    cases f <;> decide
  obtain ⟨hstatus, hchanges, houtput⟩ := outcome_of_presentation l l' rfl rfl rfl hflags hapart
    hapart' (by simp [failures, hlog]) (by simp)
  simp only [hlog, hlog'] at hchanges
  exact ⟨hstatus, hchanges, houtput rfl⟩

end RegisterMachine
