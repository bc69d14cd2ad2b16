/-
What a call of the program comes to.

* `Call`, `Plan`: a call, and what it comes to when its flags and the settings have
  been read;
* `Call.intent?`: the plan of a call, whatever failures are due, and
  `Call.eq_of_intent`: the sources that it is read off;
* `Call.perform_cases`: **a call fails because of its flags, or does what it comes
  to**; `Call.perform_of_intent` and `Call.perform_of_setUp` say the same where no
  failures are due;
* `Call.intent?_silent`: the plan of a call that says nothing about settings;
* `Settings.spelled`, `Call.intent?_spelled`: words that give all settings, and what a
  call with them comes to.
-/
import Mathlib.Data.List.Basic
import RegisterMachine.Invocation
import RegisterMachine.Proofs.Settings.Sources

namespace RegisterMachine

open FileSystem (Spent)

variable {fs : FileSystem}

/-! ### Words -/

namespace Invocation

lemma spent_words (ws : List Bytes) (fs : FileSystem) : Spent fs (words ws fs).2 := by
  unfold words
  split
  · rename_i word
    split_ifs
    · exact .refl fs
    · have hlook := FileSystem.spent_isDirectory fs word
      generalize fs.isDirectory word = x at hlook ⊢
      obtain ⟨r, fs₁⟩ := x
      cases r with
      | ok isDirectory => cases isDirectory <;> exact hlook
      | error e => exact hlook
  · exact .refl fs

/-- Looking whether a word names a file changes nothing. -/
lemma words_snd (h : fs.failures = []) (ws : List Bytes) : (words ws fs).2 = fs :=
  (spent_words ws fs).eq_of_nil h

/-- A single word is looked for among the commands, alone or behind two
dashes. -/
lemma words_single (word : Bytes) (fs : FileSystem) :
    (words [word] fs).1 = [word] ∨ (words [word] fs).1 = [utf8 "--", word] := by
  rw [words]
  split_ifs
  · exact .inl rfl
  · generalize fs.isDirectory word = x
    obtain ⟨r, fs₁⟩ := x
    cases r with
    | error e => exact .inl rfl
    | ok isDirectory =>
        cases isDirectory with
        | false => exact .inr rfl
        | true => exact .inl rfl

end Invocation

/-- Words that do not start with a dash are read as they are. -/
lemma Flag.parse_words (known : List Flag) {ws : List Bytes}
    (h : ∀ w ∈ ws, w.head? ≠ some 45) : Flag.parse known ws = .ok { words := ws } := by
  induction ws with
  | nil => rw [Flag.parse]
  | cons w ws ih =>
      have hw := h w (by simp)
      unfold Flag.parse
      split
      · exact absurd rfl hw
      · exact absurd rfl hw
      · exact absurd rfl hw
      · rw [ih fun v hv => h v (by simp [hv])]
        rfl

lemma Flag.parse_dashes (known : List Flag) (ws : List Bytes) :
    Flag.parse known (utf8 "--" :: ws) = .ok { words := ws } := by
  have hdashes : utf8 "--" = [45, 45] := by decide
  rw [hdashes]
  unfold Flag.parse
  rfl

/-! ### Calls -/

/-- A call of the program. -/
structure Call where
  surroundings : Surroundings := {}
  words : List Bytes

/-- What a call comes to when its flags and the settings have been read. -/
structure Plan where
  command : Command
  flags : Flag.Parsed
  file : Settings.File
  settings : Settings

namespace Plan

/-- Sets up logging, as the first thing a command does. -/
def setUp (p : Plan) (fs : FileSystem) : Except CommandError Unit × World :=
  Invocation.setUpLogging p.settings p.file p.command p.flags.words { files := fs }

/-- What is done once the flags and the settings have been read. -/
def perform (p : Plan) (s : Surroundings) (fs : FileSystem) : Except CommandError Unit × World :=
  if p.flags.wantsHelp || !p.command.isRunnable then
    (.ok (), World.print p.command.helpText { files := fs })
  else
    match p.command.checkArguments p.flags.words with
    | .error e => (.error (.argument e), { files := fs })
    | .ok () =>
      match p.setUp fs with
      | (.error e, w) => (.error e, w)
      | (.ok (), w) => Invocation.runCommand s p.settings p.flags p.command w

end Plan

namespace Call

/-- What the program does. -/
def perform (c : Call) (fs : FileSystem) : Outcome :=
  Invocation.perform c.surroundings c.words fs

/-- The directory in which settings are looked for. -/
def home (c : Call) : Bytes :=
  c.surroundings.environment.get Invocation.homeVariable

/-- What is read from the file with the settings. -/
def settingsFile (c : Call) (flags : Flag.Parsed) (fs : FileSystem) :
    Settings.File × FileSystem :=
  Settings.File.load c.surroundings.reader (flags.value .config) c.home
    (Invocation.words c.words fs).2

/-- The settings of the call. -/
def settings (c : Call) (flags : Flag.Parsed) (fs : FileSystem) : Settings :=
  Settings.resolve c.surroundings.display flags c.surroundings.environment
    (c.settingsFile flags fs).1.entries

/-- What the call comes to, if its flags can be read. -/
def intent? (c : Call) (fs : FileSystem) : Option Plan :=
  let (command, rest) := Command.find (Invocation.words c.words fs).1
  (Flag.parse command.flags rest).toOption.map fun flags =>
    ⟨command, flags, (c.settingsFile flags fs).1, c.settings flags fs⟩

/-- A call fails because of its flags, or does what it comes to, and then failures may
have been met before. -/
lemma perform_cases (c : Call) (fs : FileSystem) :
    ∃ fs₁, Spent fs fs₁
      ∧ ((c.intent? fs = none
          ∧ ∃ e, c.perform fs = Invocation.finish (.error (.flag e)) { files := fs₁ })
        ∨ ∃ p, c.intent? fs = some p
          ∧ c.perform fs = Invocation.finish (p.perform c.surroundings fs₁).1
            (p.perform c.surroundings fs₁).2) := by
  have hwords := Invocation.spent_words c.words fs
  rw [perform, Invocation.perform, intent?]
  dsimp only
  rw [Invocation.dispatch]
  generalize Command.find (Invocation.words c.words fs).1 = found
  obtain ⟨command, rest⟩ := found
  dsimp only
  cases Flag.parse command.flags rest with
  | error e => exact ⟨_, hwords, .inl ⟨rfl, e, rfl⟩⟩
  | ok flags =>
      have hread := hwords.trans
        (Settings.File.spent_load c.surroundings.reader (flags.value .config) c.home _)
      by_cases hhelp : (flags.wantsHelp || !command.isRunnable) = true
      · refine ⟨_, hwords, .inr ⟨_, rfl, ?_⟩⟩
        rw [Plan.perform]
        dsimp only
        rw [if_pos hhelp, if_pos hhelp]
      · refine ⟨_, hread, .inr ⟨_, rfl, ?_⟩⟩
        rw [Plan.perform]
        dsimp only
        rw [if_neg hhelp, if_neg hhelp]
        rfl

variable {c : Call} {p : Plan}

/-- What a call comes to is read off its words, its environment and the file with the
settings. -/
lemma eq_of_intent (h : c.intent? fs = some p) :
    (Command.find (Invocation.words c.words fs).1).1 = p.command
      ∧ Flag.parse p.command.flags (Command.find (Invocation.words c.words fs).1).2 = .ok p.flags
      ∧ (c.settingsFile p.flags fs).1 = p.file ∧ c.settings p.flags fs = p.settings := by
  rw [intent?] at h
  generalize Command.find (Invocation.words c.words fs).1 = found at h ⊢
  obtain ⟨command, rest⟩ := found
  dsimp only at h ⊢
  cases hparse : Flag.parse command.flags rest with
  | error e =>
      rw [hparse] at h
      exact absurd h (by simp [Except.toOption])
  | ok flags =>
      rw [hparse] at h
      obtain rfl := Option.some.inj h
      exact ⟨rfl, hparse, rfl, rfl⟩

/-- Where no failures are due, a call does what it comes to. -/
lemma perform_of_intent (hfs : fs.failures = []) (hintent : c.intent? fs = some p) :
    c.perform fs = Invocation.finish (p.perform c.surroundings fs).1
      (p.perform c.surroundings fs).2 := by
  obtain ⟨fs₁, hspent, ⟨hnone, -⟩ | ⟨p', hp', heq⟩⟩ := c.perform_cases fs
  · exact absurd (hintent.symm.trans hnone) (by simp)
  · obtain rfl := Option.some.inj (hintent.symm.trans hp')
    rw [heq, hspent.eq_of_nil hfs]

/-- A call whose words are in order does what its command is for, once the log has been
set up. -/
lemma perform_of_setUp (hfs : fs.failures = []) (hintent : c.intent? fs = some p)
    (hhelp : p.flags.wantsHelp = false) (hrunnable : p.command.isRunnable = true)
    (hwords : p.command.checkArguments p.flags.words = .ok ()) (hsetUp : (p.setUp fs).1 = .ok ()) :
    c.perform fs = Invocation.finish
      (Invocation.runCommand c.surroundings p.settings p.flags p.command (p.setUp fs).2).1
      (Invocation.runCommand c.surroundings p.settings p.flags p.command (p.setUp fs).2).2 := by
  have hperform : p.perform c.surroundings fs
      = Invocation.runCommand c.surroundings p.settings p.flags p.command (p.setUp fs).2 := by
    rw [Plan.perform, hhelp, hrunnable, if_neg (by simp), hwords]
    dsimp only
    generalize p.setUp fs = x at hsetUp ⊢
    obtain ⟨r, w⟩ := x
    obtain rfl : r = .ok () := hsetUp
    rfl
  rw [perform_of_intent hfs hintent, hperform]

end Call

/-! ### Calls that say nothing about settings -/

/-- The settings where nothing is said about them. -/
def Settings.silent : Settings where
  registersDirectory := Store.defaultDirectory
  logLevel := utf8 "warn"
  logFile := []
  hashFile := PasswordFile.defaultPath
  colour := utf8 "auto"

lemma Invocation.setUpLogging_silent (c : Command) (ws : List Bytes) (w : World) :
    (setUpLogging .silent {} c ws w).1 = .ok () := by
  have hlevel : Log.readLevel (Blank.trim Settings.silent.logLevel) = .ok 4 := by decide
  rw [setUpLogging, hlevel]
  rfl

lemma Call.settingsFile_silent (words ws : List Bytes) (fs : FileSystem) :
    Call.settingsFile { words } { words := ws } fs = ({}, (Invocation.words words fs).2) :=
  rfl

lemma Call.settings_silent (words ws : List Bytes) (fs : FileSystem) :
    Call.settings { words } { words := ws } fs = .silent := by
  rw [Call.settings, Call.settingsFile_silent]
  rfl

/-- What a call comes to that says nothing about settings. -/
lemma Call.intent?_silent {words rest ws : List Bytes} {command : Command}
    (hfind : Command.find (Invocation.words words fs).1 = (command, rest))
    (hparse : Flag.parse command.flags rest = .ok { words := ws }) :
    Call.intent? { words } fs = some ⟨command, { words := ws }, {}, .silent⟩ := by
  rw [Call.intent?]
  dsimp only
  rw [hfind]
  dsimp only
  rw [hparse]
  refine congrArg some ?_
  dsimp only
  rw [Call.settings_silent, Call.settingsFile_silent]

/-! ### Calls that give all settings by flags -/

namespace Flag

/-- The word that gives a value to a flag. -/
def spelling (f : Flag) (value : Bytes) : Bytes :=
  45 :: 45 :: (f.name ++ 61 :: value)

lemma inlineValue_append {name : Bytes} (h : 61 ∉ name) (value : Bytes) :
    inlineValue (name ++ 61 :: value) = (name, some value) := by
  induction name with
  | nil => rfl
  | cons c name ih =>
      rw [List.mem_cons, not_or] at h
      rw [List.cons_append, inlineValue, if_neg (Ne.symm h.1), ih h.2]

/-- A text that is given to a flag in one word is read. -/
lemma parse_spelling {known : List Flag} {f : Flag} (hfind : known.find? (·.name = f.name) = some f)
    (hkind : f.kind = .text) (value : Bytes) {rest : List Bytes} {p : Parsed}
    (hrest : parse known rest = .ok p) :
    parse known (f.spelling value :: rest) = .ok (p.withFlag f value) := by
  have hname : 61 ∉ f.name := by cases f <;> decide
  have hne : f.name ≠ [] := by cases f <;> decide
  have hhead : ¬ ((f.name ++ 61 :: value).head? = some 45
      ∨ (f.name ++ 61 :: value).head? = some 61) := by
    rw [List.head?_append_of_ne_nil _ hne]
    cases f <;> decide
  rw [spelling, parse, parseLong, inlineValue_append hname]
  · dsimp only
    rw [if_neg hhead, hfind, hrest]
    dsimp only
    rw [check, hkind]
    rfl
  · simp

end Flag

/-- The words that give all settings by flags. -/
def Settings.spelled (s : Settings) : List Bytes :=
  [Flag.spelling .registersDir s.registersDirectory, Flag.spelling .logLevel s.logLevel,
    Flag.spelling .logFile s.logFile, Flag.spelling .hashFile s.hashFile,
    Flag.spelling .color s.colour]

/-- The flags that give all settings. -/
def Settings.given (s : Settings) : List (Flag × Bytes) :=
  [(.registersDir, s.registersDirectory), (.logLevel, s.logLevel), (.logFile, s.logFile),
    (.hashFile, s.hashFile), (.color, s.colour)]

lemma Settings.given?_given (s : Settings) (words : List Bytes) (setting : Setting) :
    Flag.Parsed.given? ⟨s.given, words⟩ setting.flag ≠ none := by
  cases setting <;> simp [Flag.Parsed.given?, given, Setting.flag]

lemma Flag.parse_spelled (s : Settings) (c : Command) {rest words : List Bytes}
    (h : Flag.parse c.flags rest = .ok { words }) :
    Flag.parse c.flags (s.spelled ++ rest) = .ok ⟨s.given, words⟩ := by
  have hfind {f : Flag} (hf : f ∈ Flag.shared) : c.flags.find? (·.name = f.name) = some f := by
    revert f
    cases c <;> decide
  exact parse_spelling (hfind (by decide)) rfl _ (parse_spelling (hfind (by decide)) rfl _
    (parse_spelling (hfind (by decide)) rfl _ (parse_spelling (hfind (by decide)) rfl _
      (parse_spelling (hfind (by decide)) rfl _ h))))

namespace Command

lemma takesNext_spelling (f : Flag) (v : Bytes) : takesNext (f.spelling v) = false := by
  obtain ⟨c, name, hname⟩ : ∃ c name, f.name = c :: name := by
    cases f <;> exact ⟨_, _, rfl⟩
  rw [Flag.spelling, hname]
  simp [takesNext]

lemma spelling_ne_dashes (f : Flag) (v : Bytes) : f.spelling v ≠ utf8 "--" := by
  have hdashes : utf8 "--" = [45, 45] := by decide
  rw [hdashes]
  intro heq
  exact List.append_ne_nil_of_right_ne_nil f.name (List.cons_ne_nil 61 v)
    (List.cons.inj (List.cons.inj heq).2).2

lemma firstWord?_spelling (f : Flag) (v : Bytes) (ws : List Bytes) :
    firstWord? (f.spelling v :: ws) = firstWord? ws := by
  rw [firstWord?.eq_def]
  dsimp only
  rw [if_neg (spelling_ne_dashes f v), takesNext_spelling, if_neg Bool.false_ne_true,
    if_pos (by simp [Flag.spelling])]

lemma dropWord_spelling (x : Bytes) (f : Flag) (v : Bytes) (ws : List Bytes) :
    dropWord x (f.spelling v :: ws) = f.spelling v :: dropWord x ws := by
  rw [dropWord.eq_def]
  dsimp only
  rw [if_neg (spelling_ne_dashes f v), takesNext_spelling, if_neg Bool.false_ne_true,
    if_neg (by simp [Flag.spelling])]

/-- A flag with its value in one word has no influence on which command is found. -/
lemma findFrom_spelling (f : Flag) (v : Bytes) (c : Command) (depth : Nat) (ws : List Bytes) :
    findFrom c depth (f.spelling v :: ws)
      = ((findFrom c depth ws).1, f.spelling v :: (findFrom c depth ws).2) := by
  induction depth generalizing c ws with
  | zero => rfl
  | succ depth ih =>
      rw [findFrom, findFrom, firstWord?_spelling]
      cases firstWord? ws with
      | none => rfl
      | some w =>
          dsimp only
          cases c.children.find? (·.name = w) with
          | none => rfl
          | some child =>
              dsimp only
              rw [dropWord_spelling, ih]

lemma find_spelled (s : Settings) (ws : List Bytes) :
    find (s.spelled ++ ws) = ((find ws).1, s.spelled ++ (find ws).2) := by
  simp only [find, Settings.spelled, List.cons_append, List.nil_append, findFrom_spelling]

end Command

/-- A call that gives all settings by flags comes to a command with these settings. -/
lemma Call.intent?_spelled {c : Call} {s : Settings} {command : Command}
    {ws rest words : List Bytes}
    (hwords : c.words = s.spelled ++ ws) (hfind : Command.find ws = (command, rest))
    (hparse : Flag.parse command.flags rest = .ok { words }) (fs : FileSystem) :
    c.intent? fs
      = some ⟨command, ⟨s.given, words⟩, (c.settingsFile ⟨s.given, words⟩ fs).1,
        { s with display := c.surroundings.display }⟩ := by
  have hread : (Invocation.words c.words fs).1 = s.spelled ++ ws := by
    rw [hwords]
    rfl
  rw [Call.intent?, hread, Command.find_spelled, hfind]
  dsimp only
  rw [Flag.parse_spelled s command hparse]
  rfl

end RegisterMachine
