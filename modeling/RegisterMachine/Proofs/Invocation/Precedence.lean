/-
Flags that are given come before the environment and the file with the settings.

* `Call.words_of_given`: words that give flags are read as they are, on any files;
* `Call.intent?_of_given`: where all settings are given by flags, a call comes to the
  same but for what is said about the file with the settings;
* `Call.change?_perform_of_not_concerns`: a call changes nothing that is not its concern;
* `outcome_of_given_flags`: **a call that gives all settings by flags has the same outcome
  whatever the variables and the file with the settings say**, if that file is not its
  concern;
* `outcome_depends_on_settings_file`: files that the command neither reads nor writes may
  be its concern.
-/
import RegisterMachine.Proofs.Invocation.Concerns
import RegisterMachine.Proofs.Invocation.Sequence

namespace RegisterMachine

variable {fs fs' : FileSystem}

/-! ### Calls that give all settings -/

/-- Where all settings are given by flags, nothing else has a say. -/
lemma Settings.resolve_of_given {flags : Flag.Parsed}
    (h : ∀ s : Setting, flags.given? s.flag ≠ none) (display : Display) (vs vs' : Variables)
    (entries entries' : List (Bytes × Document)) :
    resolve display flags vs' entries' = resolve display flags vs entries := by
  have hvalue (s : Setting) : value flags vs' entries' s = value flags vs entries s := by
    obtain ⟨v, hv⟩ := Option.ne_none_iff_exists'.mp (h s)
    rw [value, value, hv]
    rfl
  simp only [resolve, hvalue]

namespace Command

lemma dropWord_sublist (x : Bytes) (ws : List Bytes) : (dropWord x ws).Sublist ws := by
  fun_induction dropWord x ws with
  | case1 => exact .refl _
  | case2 => exact .refl _
  | case3 w hw hnext v rest ih => exact (ih.cons_cons v).cons_cons w
  | case4 => exact .refl _
  | case5 w rest => exact List.sublist_cons_self w rest
  | case6 w rest _ _ _ ih => exact ih.cons_cons w

lemma findFrom_sublist (c : Command) (depth : Nat) (ws : List Bytes) :
    (findFrom c depth ws).2.Sublist ws := by
  fun_induction findFrom c depth ws with
  | case1 => exact .refl _
  | case2 => exact .refl _
  | case3 => exact .refl _
  | case4 _ depth ws w _ child _ ih => exact ih.trans (dropWord_sublist w ws)

end Command

/-- Words without dashes, but for one that stands alone, give no flags. -/
lemma Flag.exists_parse_of_plain (known : List Flag) {ws : List Bytes}
    (h : ∀ w ∈ ws, w = utf8 "--" ∨ w.head? ≠ some 45) :
    ∃ words, Flag.parse known ws = .ok { words } := by
  induction ws with
  | nil => exact ⟨[], Flag.parse_words known (by simp)⟩
  | cons w ws ih =>
      obtain ⟨words, hws⟩ := ih fun v hv => h v (by simp [hv])
      obtain rfl | hw := h w (by simp)
      · exact ⟨ws, Flag.parse_dashes known ws⟩
      · refine ⟨w :: words, ?_⟩
        unfold Flag.parse
        split
        · exact absurd rfl hw
        · exact absurd rfl hw
        · exact absurd rfl hw
        · rw [hws]
          rfl

namespace Call

variable {c c' : Call}

/-- A single word without a dash gives no flags. -/
lemma exists_intent?_single {word : Bytes} (hdash : word.head? ≠ some 45)
    (hwords : c.words = [word]) : ∃ p ∈ c.intent? fs, p.flags.given = [] := by
  have hplain : ∀ w ∈ (Command.find (Invocation.words c.words fs).1).2,
      w = utf8 "--" ∨ w.head? ≠ some 45 := by
    intro w hw
    have hmem := (Command.findFrom_sublist .run 3 _).subset hw
    rw [hwords] at hmem
    obtain heq | heq := Invocation.words_single word fs
    · rw [heq, List.mem_singleton] at hmem
      exact .inr (hmem ▸ hdash)
    · rw [heq, List.mem_cons, List.mem_singleton] at hmem
      exact hmem.imp_right fun (hword : w = word) => hword ▸ hdash
  rw [intent?]
  generalize Command.find (Invocation.words c.words fs).1 = found at hplain ⊢
  obtain ⟨command, rest⟩ := found
  obtain ⟨words, hparse⟩ := Flag.exists_parse_of_plain command.flags hplain
  dsimp only
  rw [hparse]
  exact ⟨_, rfl, rfl⟩

/-- Words that give flags are read as they are, on any files. -/
lemma words_of_given (h : ∀ p ∈ c.intent? fs, p.flags.given ≠ []) (fs' : FileSystem) :
    (Invocation.words c.words fs').1 = c.words := by
  cases hwords : c.words with
  | nil => rfl
  | cons word rest =>
      cases rest with
      | cons next rest => rfl
      | nil =>
          by_cases hdash : word.head? = some 45
          · rw [Invocation.words, if_pos (by simp [hdash])]
          · obtain ⟨p, hp, hnone⟩ : ∃ p ∈ c.intent? fs, p.flags.given = [] :=
              exists_intent?_single hdash hwords
            exact absurd hnone (h p hp)

/-- Where all settings are given by flags, a call comes to the same but for what is said
about the file with the settings. -/
lemma intent?_of_given (hwords : c'.words = c.words)
    (hdisplay : c'.surroundings.display = c.surroundings.display)
    (hgiven : ∀ p ∈ c.intent? fs, ∀ s : Setting, p.flags.given? s.flag ≠ none)
    (fs' : FileSystem) :
    c'.intent? fs' = (c.intent? fs).map fun p =>
      { p with file := (c'.settingsFile p.flags fs').1 } := by
  have hsome : ∀ p ∈ c.intent? fs, p.flags.given ≠ [] := by
    intro p hp hnil
    exact hgiven p hp .colour (by simp [Flag.Parsed.given?, hnil])
  have hread := words_of_given hsome fs
  have hread' := words_of_given hsome fs'
  rw [intent?, hread] at hgiven
  rw [intent?, intent?, hwords, hread, hread']
  generalize Command.find c.words = found at hgiven ⊢
  obtain ⟨command, rest⟩ := found
  dsimp only at hgiven ⊢
  cases hparse : Flag.parse command.flags rest with
  | error e => rfl
  | ok flags =>
      rw [hparse] at hgiven
      have hsettings : c'.settings flags fs' = c.settings flags fs := by
        rw [settings, settings, hdisplay]
        exact Settings.resolve_of_given (hgiven _ rfl) _ _ _ _ _
      exact congrArg (fun settings => some (Plan.mk command flags _ settings)) hsettings

end Call

/-! ### What such calls change -/

namespace Plan

variable {p : Plan} {q : Location}

/-- What a command writes is its concern, or the log. -/
lemma concerns_of_writes (h : p.Writes q) (hlog : ¬ p.IsLog q) : p.Concerns q := by
  obtain ⟨path, hpath, rfl⟩ := h.resolve_left hlog
  refine concerns_of_mem ?_
  obtain ⟨command, flags, file, settings⟩ := p
  cases command with
  | run => exact List.mem_append_right _ hpath
  | registersSet | registersReset | passwdHash | toolsDocs => exact hpath
  | _ => exact absurd hpath (by simp [targets])

lemma concerns_of_directories (h : q ∈ p.directories) : p.Concerns q := by
  refine concerns_of_way ?_
  obtain ⟨command, flags, file, settings⟩ := p
  cases command with
  | run | registersSet => exact h
  | _ => exact absurd h (by simp [directories])

end Plan

/-- A call changes nothing that is not its concern, but for the log. -/
lemma Call.change?_perform_of_not_concerns {c : Call} {p : Plan} (happender : fs.appender = none)
    (hintent : c.intent? fs = some p) {q : Location} (hlog : ¬ p.IsLog q) (hq : ¬ p.Concerns q) :
    fs.change? (c.perform fs).files q = none := by
  obtain heq | ⟨hmem, -⟩ := (Call.grown_perform happender hintent).entries q
    fun hwrites => hq (Plan.concerns_of_writes hwrites hlog)
  · exact FileSystem.change?_eq_none heq
  · exact absurd (Plan.concerns_of_directories hmem) hq

/-- Calls whose flags cannot be read fail in the same way and change nothing. -/
lemma Call.outcome_of_unread {c c' : Call} (h : c.intent? fs = none) (h' : c'.intent? fs' = none) :
    (c'.perform fs').status = (c.perform fs).status
      ∧ (c'.perform fs').output = (c.perform fs).output
      ∧ ∀ q, fs'.change? (c'.perform fs').files q = fs.change? (c.perform fs).files q := by
  have hchange (q : Location) :
      fs'.change? (c'.perform fs').files q = fs.change? (c.perform fs).files q := by
    rw [FileSystem.change?_eq_none (Call.get?_perform_of_none h q),
      FileSystem.change?_eq_none (Call.get?_perform_of_none h' q)]
  obtain ⟨fs₁, -, ⟨-, e, heq⟩ | ⟨p, hp, -⟩⟩ := c.perform_cases fs
  · obtain ⟨fs₁', -, ⟨-, e', heq'⟩ | ⟨p, hp, -⟩⟩ := c'.perform_cases fs'
    · refine ⟨?_, ?_, hchange⟩
      · rw [heq, heq']
        rfl
      · rw [heq, heq']
        rfl
    · exact absurd (h'.symm.trans hp) (by simp)
  · exact absurd (h.symm.trans hp) (by simp)

/-! ### What a program prints -/

namespace Call

variable {c : Call} {p : Plan}

/-- A program run on a store prints what the program prints, as it is read once the log
has been set up. -/
lemma output_of_intent {path text : Bytes} {colours : Palette} (hintent : c.intent? fs = some p)
    (hcommand : p.command = .run) (hsingle : p.flags.words = [path])
    (hhelp : p.flags.wantsHelp = false) (hknown : Run.palette p.settings = .ok colours)
    (hne : p.settings.registersDirectory ≠ [])
    (hlog : ¬ Store.Guarded (Path.resolve p.settings.registersDirectory)
      (Path.resolve p.settings.logFile))
    (hfs : Store.Orderly (Path.resolve p.settings.registersDirectory) fs)
    (happender : fs.appender = none) (hready : (p.setUp fs).1 = .ok ())
    (htext : ((p.setUp fs).2.files.read path).1 = .ok text) :
    (c.perform fs).output = (Program.parse text).console colours
      (Store.bank (Path.resolve p.settings.registersDirectory) fs) := by
  obtain ⟨hroot, hparsed, hfile, hsettings⟩ := eq_of_intent hintent
  have hsnd : (c.settingsFile p.flags fs).2 = fs := by
    rw [settingsFile, Invocation.words_snd hfs.safe.failures,
      Settings.File.load_snd hfs.safe.failures]
  have hsetUp : Invocation.setUpLogging (c.settings p.flags fs) (c.settingsFile p.flags fs).1 .run
      p.flags.words { files := (c.settingsFile p.flags fs).2 } = p.setUp fs := by
    rw [hsettings, hfile, hsnd, Plan.setUp, hcommand]
  let l : Launch c fs :=
    .start p.flags path colours (hroot.trans hcommand) (by rwa [hcommand] at hparsed) hhelp
      hsingle (by rw [hsetUp]; exact hready) (by rw [hsettings]; exact hknown)
  have hworld : l.world = (p.setUp fs).2 := congrArg Prod.snd hsetUp
  have heq : l.settings = p.settings := hsettings
  have hl : l.Runs (Path.resolve p.settings.registersDirectory) colours text :=
    ⟨by rw [hworld]; exact htext, rfl, by rw [Launch.directory, heq]; exact hne,
      by rw [Launch.directory, heq], by rw [heq]; exact hlog⟩
  exact (hl.outcome hfs happender).2.1

end Call

/-! ### Precedence -/

/-- **Flags that are given come before everything else.**  Two calls with the same words,
input and salt, and with the same display at the output, give all settings by flags.  The
variables for the settings may have any values, and the calls find the same files, but for
those at some places in directories which are there in both: in particular the file with
the settings may be missing, readable or not, in any format.  Such places are not the
concern of the command, and a program that is run is not the log.  Then the status and the
output are the same, and so are all changes but those of the log.  No failures are due, and
no file is held open when the calls begin. -/
theorem outcome_of_given_flags {c c' : Call} {fs fs' : FileSystem}
    (hwords : c'.words = c.words) (hinput : c'.surroundings.input = c.surroundings.input)
    (hsalt : c'.surroundings.salt = c.surroundings.salt)
    (hdisplay : c'.surroundings.display = c.surroundings.display)
    (hfs : fs.failures = []) (hfs' : fs'.failures = [])
    (happender : fs.appender = none) (happender' : fs'.appender = none)
    (hgiven : ∀ p ∈ c.intent? fs, ∀ s : Setting, p.flags.given? s.flag ≠ none)
    (hfiles : ∀ q, fs'.get? q ≠ fs.get? q →
      (fs.get? q ≠ some .directory ∧ fs'.get? q ≠ some .directory)
        ∧ (∀ d ∈ Path.parents q, fs.get? d = some .directory)
        ∧ ∀ p ∈ c.intent? fs, ¬ p.Concerns q)
    (hprogram : ∀ p ∈ c.intent? fs, p.command = .run →
      ∀ path ∈ p.flags.words, ¬ p.IsLog (Path.resolve path)) :
    let o := c.perform fs
    let o' := c'.perform fs'
    o'.status = o.status ∧ o'.output = o.output
      ∧ ∀ q, (∀ p ∈ c.intent? fs, ¬ p.IsLog q) →
        fs'.change? o'.files q = fs.change? o.files q := by
  intro o o'
  have hintent' := Call.intent?_of_given hwords hdisplay hgiven fs'
  cases hintent : c.intent? fs with
  | none =>
      rw [hintent] at hintent'
      obtain ⟨hstatus, houtput, hchange⟩ := Call.outcome_of_unread hintent hintent'
      exact ⟨hstatus, houtput, fun q _ => hchange q⟩
  | some p =>
      rw [hintent] at hintent'
      let D : Location → Prop := fun q => fs'.get? q ≠ fs.get? q
      have hD : ∀ q, D q → ¬ p.Concerns q := fun q hq => (hfiles q hq).2.2 p hintent
      have hstart : FileSystem.Parallel D (fun _ _ => False) fs fs' :=
        FileSystem.parallel_of_differing hfs hfs' happender happender' fun q hq => (hfiles q hq).1
      have hroom : ∀ q, D q → fs.get? q ≠ some .directory ∧ fs.obstacle? q = none :=
        fun q hq => ⟨(hfiles q hq).1.1, FileSystem.obstacle?_eq_none_iff.mpr (hfiles q hq).2.1⟩
      have hmatched := Plan.matched_perform (S := True) hstart hroom
        (fun q hq hdiffers => hD q hdiffers hq) (hprogram p hintent) happender happender' hinput
        hsalt (c'.settingsFile p.flags fs').1
      have ho : o = _ := Call.perform_of_intent hfs hintent
      have ho' : o' = _ := Call.perform_of_intent hfs' hintent'
      obtain ⟨hstatus, houtput⟩ := hmatched.finish
      refine ⟨?_, ?_, fun q hlog => ?_⟩
      · rw [ho, ho']
        exact hstatus
      · rw [ho, ho']
        exact houtput trivial
      · by_cases hq : fs'.get? q = fs.get? q
        · refine FileSystem.change?_congr hq ?_
          rw [ho, ho', Invocation.get?_finish, Invocation.get?_finish]
          exact (hmatched.world.files.entry q).eq (not_not.mpr hq)
            fun _ hstarts => hlog p rfl hstarts.1
        · rw [Call.change?_perform_of_not_concerns happender hintent (hlog p rfl) (hD q hq),
            Call.change?_perform_of_not_concerns happender' hintent' (hlog p rfl) (hD q hq)]

/-- An assignment with all settings given by flags, once without any other source of
settings, and once with variables and a file that cannot be read as settings. -/
theorem outcome_of_given_flags_unreadable_file :
    let settings : Settings :=
      { registersDirectory := utf8 "/r", logLevel := utf8 "info", logFile := utf8 "/l"
        hashFile := utf8 "/p", colour := utf8 "never" }
    let words := settings.spelled ++ [utf8 "registers", utf8 "set", utf8 "x1", utf8 "7"]
    let place : Location := [utf8 "h", utf8 ".cpx.yaml"]
    let c : Call := { words }
    let c' : Call :=
      { words
        surroundings :=
          { environment := [(utf8 "HOME", utf8 "/h"), (utf8 "CPX_REGISTERS_DIR", utf8 "/s"),
              (utf8 "CPX_LOG_FILE", utf8 "/r/x1.bin")] } }
    let fs : FileSystem := { entries := [([utf8 "h"], .directory)] }
    let fs' : FileSystem := fs.put place (.file 0o644 (utf8 "log: ["))
    let o := c.perform fs
    let o' := c'.perform fs'
    (∃ p, c.intent? fs = some p ∧ p.command = .registersSet ∧ p.settings = settings)
      ∧ o'.status = o.status ∧ o'.output = o.output
      ∧ ∀ q, q ≠ [utf8 "l"] → fs'.change? o'.files q = fs.change? o.files q := by
  intro settings words place c c' fs fs' o o'
  let flags : Flag.Parsed := ⟨settings.given, [utf8 "x1", utf8 "7"]⟩
  let p : Plan := ⟨.registersSet, flags, (c.settingsFile flags fs).1, settings⟩
  have hintent : c.intent? fs = some p :=
    Call.intent?_spelled rfl
      (show Command.find [utf8 "registers", utf8 "set", utf8 "x1", utf8 "7"] = _ by decide)
      (Flag.parse_words _ (by decide)) fs
  have hconcerns : ¬ p.Concerns place := by
    rintro (⟨path, hpath, heq⟩ | hway | ⟨hreset, -⟩)
    · have hfree : ∀ path ∈ Footprint.slots (utf8 "/r"), Path.resolve path ≠ place := by decide
      exact hfree path hpath heq.symm
    · exact absurd (show place ∈ Path.prefixes (Path.resolve (utf8 "/r")) from hway) (by decide)
    · exact absurd (show Command.registersSet = .registersReset from hreset) (by decide)
  have hdiffers {q : Location} (hq : fs'.get? q ≠ fs.get? q) : q = place := by
    by_contra hne
    exact hq (FileSystem.get?_put_of_ne hne _)
  have hgiven : ∀ p ∈ c.intent? fs, ∀ s : Setting, p.flags.given? s.flag ≠ none := by
    rw [hintent]
    rintro _ ⟨⟩
    exact settings.given?_given _
  have hfiles : ∀ q, fs'.get? q ≠ fs.get? q →
      (fs.get? q ≠ some .directory ∧ fs'.get? q ≠ some .directory)
        ∧ (∀ d ∈ Path.parents q, fs.get? d = some .directory)
        ∧ ∀ p ∈ c.intent? fs, ¬ p.Concerns q := by
    intro q hq
    rw [hdiffers hq, hintent]
    refine ⟨by decide, by decide, ?_⟩
    rintro _ ⟨⟩
    exact hconcerns
  have hprogram : ∀ p ∈ c.intent? fs, p.command = .run →
      ∀ path ∈ p.flags.words, ¬ p.IsLog (Path.resolve path) := by
    rw [hintent]
    rintro _ ⟨⟩ hrun
    exact absurd (show Command.registersSet = .run from hrun) (by decide)
  obtain ⟨hstatus, houtput, hchanges⟩ :=
    outcome_of_given_flags (show c'.words = c.words from rfl) rfl rfl rfl rfl rfl rfl rfl hgiven
      hfiles hprogram
  refine ⟨⟨p, hintent, rfl, rfl⟩, hstatus, houtput, fun q hq => hchanges q ?_⟩
  rw [hintent]
  rintro _ ⟨⟩ hlog
  exact hq (hlog.2.trans (show Path.resolve (utf8 "/l") = _ by decide))

/-- **Files that a command neither reads nor writes may make a difference to it**, though
all settings are given by flags.  Showing registers fails if the file with the settings
stands on the way to them.  A reset fails if that file lies in a directory at the place of
a register.  A program that is the log as well prints something else. -/
theorem outcome_depends_on_settings_file :
    let call (home : Bytes) (settings : Settings) (ws : List Bytes) : Call :=
      { surroundings := { environment := [(utf8 "HOME", home)] }, words := settings.spelled ++ ws }
    let shown := call (utf8 "/h")
      { Settings.silent with registersDirectory := utf8 "/h/.cpx.yaml/r" }
      [utf8 "registers", utf8 "show"]
    let reset := call (utf8 "/s/x0.bin") { Settings.silent with registersDirectory := utf8 "/s" }
      [utf8 "registers", utf8 "reset"]
    let run := call (utf8 "/h")
      { Settings.silent with registersDirectory := utf8 "/r", logFile := utf8 "/p" } [utf8 "/p"]
    let fs : FileSystem :=
      { entries := [([utf8 "h"], .directory), ([utf8 "p"], .file 0o644 (utf8 "shw x0 ")),
          ([utf8 "s"], .directory), ([utf8 "s", utf8 "x0.bin"], .directory)] }
    let place : Location := [utf8 "h", utf8 ".cpx.yaml"]
    let place' : Location := [utf8 "s", utf8 "x0.bin", utf8 ".cpx.yaml"]
    let fs₁ := fs.put place (.file 0o644 [])
    let fs₂ := fs.put place' (.file 0o644 [])
    (∀ c ∈ [shown, reset, run], ∃ p, c.intent? fs = some p
        ∧ (∀ s : Setting, p.flags.given? s.flag ≠ none)
        ∧ ∀ path ∈ p.files, Path.resolve path ≠ place ∧ Path.resolve path ≠ place')
      ∧ ((shown.perform fs).status = 0 ∧ (shown.perform fs₁).status = 2)
      ∧ ((reset.perform fs).status = 0 ∧ (reset.perform fs₂).status = 3)
      ∧ (run.perform fs₁).output ≠ (run.perform fs).output := by
  intro call shown reset run fs place place' fs₁ fs₂
  let showSettings : Settings :=
    { Settings.silent with registersDirectory := utf8 "/h/.cpx.yaml/r" }
  let resetSettings : Settings := { Settings.silent with registersDirectory := utf8 "/s" }
  let runSettings : Settings :=
    { Settings.silent with registersDirectory := utf8 "/r", logFile := utf8 "/p" }
  have hshown := Call.intent?_spelled (c := shown) (s := showSettings) rfl
    (show Command.find [utf8 "registers", utf8 "show"] = (.registersShow, []) by decide)
    (Flag.parse_words _ (by decide))
  have hreset := Call.intent?_spelled (c := reset) (s := resetSettings) rfl
    (show Command.find [utf8 "registers", utf8 "reset"] = (.registersReset, []) by decide)
    (Flag.parse_words _ (by decide))
  have hrun := Call.intent?_spelled (c := run) (s := runSettings) rfl
    (show Command.find [utf8 "/p"] = (.run, [utf8 "/p"]) by decide)
    (Flag.parse_words _ (by decide))
  refine ⟨?_, ⟨?_, ?_⟩, ⟨?_, ?_⟩, ?_⟩
  · intro c hc
    simp only [List.mem_cons, List.not_mem_nil, or_false] at hc
    obtain rfl | rfl | rfl := hc
    · exact ⟨_, hshown fs, showSettings.given?_given _, by decide +kernel⟩
    · exact ⟨_, hreset fs, resetSettings.given?_given _, by decide +kernel⟩
    · exact ⟨_, hrun fs, runSettings.given?_given _, by decide +kernel⟩
  · rw [Call.perform_of_intent rfl (hshown fs)]
    decide +kernel
  · rw [Call.perform_of_intent rfl (hshown fs₁)]
    decide +kernel
  · rw [Call.perform_of_intent rfl (hreset fs)]
    decide +kernel
  · rw [Call.perform_of_intent rfl (hreset fs₂)]
    decide +kernel
  · -- the first record ends the line of the program, and the next one is a line at fault
    let flags : Flag.Parsed := ⟨runSettings.given, [utf8 "/p"]⟩
    let plan (files : FileSystem) : Plan :=
      ⟨.run, flags, (run.settingsFile flags files).1, runSettings⟩
    let text : Bytes := utf8 "shw x0 " ++ (Invocation.startedRecord .run [utf8 "/p"]).object
    let text₁ : Bytes := text
      ++ ((Invocation.settingsRecord? (plan fs₁).file).map Log.Record.object).getD []
    have hread : (((plan fs).setUp fs).2.files.read (utf8 "/p")).1 = .ok text := by
      decide +kernel
    have hread₁ : (((plan fs₁).setUp fs₁).2.files.read (utf8 "/p")).1 = .ok text₁ := by
      decide +kernel
    have hlog : ¬ Store.Guarded (Path.resolve (utf8 "/r")) (Path.resolve (utf8 "/p")) := by
      rw [show Path.resolve (utf8 "/r") = [utf8 "r"] by decide,
        show Path.resolve (utf8 "/p") = [utf8 "p"] by decide]
      exact Store.not_guarded_singleton (by decide)
    have hknown : Run.palette runSettings = .ok .plain := by decide
    have hne : utf8 "/r" ≠ [] := by decide
    have hfs : Store.Orderly (Path.resolve (utf8 "/r")) fs :=
      ⟨⟨rfl, by simp [fs]⟩, by decide, fun i hi => .inl (by revert i; decide), by decide⟩
    have hfs₁ : Store.Orderly (Path.resolve (utf8 "/r")) fs₁ :=
      ⟨⟨rfl, by simp [fs₁, fs, FileSystem.put, FileSystem.erase]⟩, by decide,
        fun i hi => .inl (by revert i; decide), by decide⟩
    rw [Call.output_of_intent (hrun fs) rfl rfl (by decide) hknown hne hlog hfs rfl
        (by decide +kernel) hread,
      Call.output_of_intent (hrun fs₁) rfl rfl (by decide) hknown hne hlog hfs₁ rfl
        (by decide +kernel) hread₁]
    decide +kernel

end RegisterMachine
