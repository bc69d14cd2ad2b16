/-
The manual, printed and written to a file.

* `Documentation.show_cases`: the three courses that the writing of a page can take;
* `Call.Documents`: a call asks for the page on a topic, and `Call.documents_words`: as one
  does whose words give the path of a file;
* `Documentation.Told`: the outcome of a call tells whether the page was written;
* `told_iff`: **the outcome tells whether the page was written, unless the writing itself
  has failed**: then the file is empty, and the call succeeds without a word.
-/
import RegisterMachine.Proofs.Invocation.Precedence

namespace RegisterMachine

variable {fs : FileSystem} {w : World} {c : Call} {p : Plan} {t : Manual.Topic} {path : Bytes}

/-! ### Pages -/

namespace Documentation

/-- A page is written, or its file cannot be opened, which is told, or the open file cannot
be written, which is not. -/
lemma show_cases (hpath : path ≠ []) (t : Manual.Topic) (w : World) :
    let written := w.files.write mode path (page t)
    (written.1 = .ok () ∧ «show» t path w = (.ok (), w.withFiles written.2)
        ∧ ∃ m, written.2.get? (Path.resolve path) = some (.file m (page t)))
      ∨ (∃ errno, written.1 = .error ⟨.openToWrite, path, none, errno⟩
        ∧ «show» t path w = (.error (.outputFile ⟨.openToWrite, path, none, errno⟩),
          w.withFiles written.2))
      ∨ ∃ errno, written.1 = .error ⟨.write, path, none, errno⟩
        ∧ «show» t path w = (.ok (), w.withFiles written.2)
        ∧ ∃ m, written.2.get? (Path.resolve path) = some (.file m []) := by
  intro written
  have hcases := w.files.write_cases mode path (page t)
  simp only [written]
  rw [«show», if_neg (by simpa using hpath), write]
  dsimp only at hcases
  generalize w.files.write mode path (page t) = x at hcases ⊢
  obtain ⟨r, files⟩ := x
  obtain ⟨errno, rfl, -⟩ | ⟨-, ⟨errno, rfl, hget⟩ | ⟨rfl, hget⟩⟩ := hcases
  · exact .inr (.inl ⟨errno, rfl, rfl⟩)
  · exact .inr (.inr ⟨errno, rfl, rfl, _, hget⟩)
  · exact .inl ⟨rfl, rfl, _, hget⟩

end Documentation

/-! ### Setting up -/

namespace Invocation

/-- Where logging cannot be set up, the error output tells why. -/
lemma report_of_setUpLogging {settings : Settings} {file : Settings.File} {command : Command}
    {ws : List Bytes} {e : CommandError}
    (h : (setUpLogging settings file command ws w).1 = .error e) :
    e.exitCode = 1 ∧ e.report = ([], utf8 "Error: " ++ e.message ++ newline) := by
  rw [setUpLogging] at h
  split at h
  · exact Except.error.inj h ▸ ⟨rfl, rfl⟩
  · rw [openLog] at h
    split_ifs at h
    generalize w.files.openAppender logMode settings.logFile = x at h
    obtain ⟨r, files⟩ := x
    cases r with
    | error e' => exact Except.error.inj h ▸ ⟨rfl, rfl⟩
    | ok => exact absurd h (by simp)

/-- A call that ends with such an error fails, and the error output tells why. -/
lemma outcome_of_reported {e : CommandError}
    (h : e.exitCode = 1 ∧ e.report = ([], utf8 "Error: " ++ e.message ++ newline))
    (hw : w.output = []) :
    (finish (.error e) w).status = 1 ∧ (finish (.error e) w).output = []
      ∧ (finish (.error e) w).errors ≠ [] := by
  rw [finish, h.2, hw]
  exact ⟨(Outcome.status_of_some rfl).trans h.1, rfl, by simp [newline]⟩

end Invocation

/-- Nothing is printed while logging is set up. -/
lemma Plan.output_setUp (p : Plan) (fs : FileSystem) : (p.setUp fs).2.output = [] := by
  have hlogged : World.Logged (fun _ => True) { files := fs } (p.setUp fs).2 :=
    Invocation.logged_setUpLogging (by simp [FileSystem.AppendsTo]) (fun _ => trivial) p.file
      p.command p.flags.words
  exact hlogged.output_eq

/-! ### Calls -/

namespace Flag

variable {known : List Flag} {rest : List Bytes} {q : Parsed}

lemma inlineValue_of_not_mem {name : Bytes} (h : 61 ∉ name) : inlineValue name = (name, none) := by
  induction name with
  | nil => rfl
  | cons c name ih =>
      rw [List.mem_cons, not_or] at h
      rw [inlineValue, if_neg (Ne.symm h.1), ih h.2]

/-- A text that is given to a flag in the next word is read. -/
lemma parse_apart {f : Flag} (hfind : known.find? (·.name = f.name) = some f)
    (hkind : f.kind = .text) (value : Bytes) (hrest : parse known rest = .ok q) :
    parse known ((45 :: 45 :: f.name) :: value :: rest) = .ok (q.withFlag f value) := by
  have hname : 61 ∉ f.name := by cases f <;> decide
  have hne : f.name ≠ [] := by cases f <;> decide
  have hhead : ¬ (f.name.head? = some 45 ∨ f.name.head? = some 61) := by cases f <;> decide
  have hswitch : f.kind ≠ .switch := by
    rw [hkind]
    decide
  rw [parse, parseLong, inlineValue_of_not_mem hname]
  · dsimp only
    rw [if_neg hhead, hfind, hrest]
    dsimp only
    rw [if_neg hswitch, check, hkind]
    rfl
  · simpa using hne

/-- A word without a dash is read as it is. -/
lemma parse_word {word : Bytes} (hdash : word.head? ≠ some 45) (hrest : parse known rest = .ok q) :
    parse known (word :: rest) = .ok (q.withWord word) := by
  unfold parse
  split
  · exact absurd rfl hdash
  · exact absurd rfl hdash
  · exact absurd rfl hdash
  · rw [hrest]
    rfl

end Flag

/-- The call asks for the page on a topic. -/
structure Call.Documents (c : Call) (fs : FileSystem) (p : Plan) (t : Manual.Topic) : Prop where
  intent : c.intent? fs = some p
  command : p.command = .toolsDocs
  noHelp : p.flags.wantsHelp = false
  words : p.flags.words = [t.name]

namespace Call

/-- A command that does something sets up logging and then does it, whatever failures are
due. -/
lemma perform_of_runnable (hintent : c.intent? fs = some p) (hhelp : p.flags.wantsHelp = false)
    (hrunnable : p.command.isRunnable = true) :
    c.perform fs
      = Invocation.finish (p.perform c.surroundings (c.settingsFile p.flags fs).2).1
        (p.perform c.surroundings (c.settingsFile p.flags fs).2).2 := by
  rw [intent?] at hintent
  rw [perform, Invocation.perform]
  dsimp only
  rw [Invocation.dispatch]
  generalize Command.find (Invocation.words c.words fs).1 = found at hintent ⊢
  obtain ⟨command, rest⟩ := found
  dsimp only at hintent ⊢
  cases hparse : Flag.parse command.flags rest with
  | error e => simp [hparse, Except.toOption] at hintent
  | ok flags =>
      rw [hparse] at hintent
      obtain rfl := Option.some.inj hintent
      dsimp only at hhelp hrunnable ⊢
      rw [Plan.perform, hhelp, hrunnable]
      rfl

/-- What a call with the words `tools docs`, the name of a topic and a path after a flag
comes to. -/
lemma documents_words (s : Surroundings) (t : Manual.Topic) (path : Bytes) (fs : FileSystem) :
    let c : Call := ⟨s, [utf8 "tools", utf8 "docs", t.name, utf8 "--output", path]⟩
    let flags : Flag.Parsed := ⟨[(.output, path)], [t.name]⟩
    c.Documents fs ⟨.toolsDocs, flags, (c.settingsFile flags fs).1, c.settings flags fs⟩ t := by
  intro c flags
  have hfind : Command.find c.words = (.toolsDocs, [t.name, utf8 "--output", path]) := by
    cases t <;> rfl
  have hparse : Flag.parse Command.toolsDocs.flags [t.name, utf8 "--output", path] = .ok flags := by
    have hname : t.name.head? ≠ some 45 := by cases t <;> decide
    have hfind : Command.toolsDocs.flags.find? (·.name = Flag.output.name) = some .output := by
      decide
    have hnone : Flag.parse Command.toolsDocs.flags [] = .ok {} := Flag.parse_words _ (by simp)
    exact Flag.parse_word hname (Flag.parse_apart hfind rfl path hnone)
  refine ⟨?_, rfl, rfl, rfl⟩
  rw [intent?, show Invocation.words c.words fs = (c.words, fs) from rfl, hfind]
  dsimp only
  rw [hparse]
  rfl

end Call

namespace Call.Documents

variable {e : CommandError}

/-- Once logging has been set up, the page is shown. -/
lemma plan_perform (h : c.Documents fs p t) (s : Surroundings) (fs' : FileSystem) :
    p.perform s fs' = match p.setUp fs' with
      | (.error e, w) => (.error e, w)
      | (.ok (), w) => Documentation.show t (p.flags.value .output) w := by
  have hwords : Command.toolsDocs.checkArguments [t.name] = .ok () := by cases t <;> rfl
  have htopic : Manual.Topic.ofName? t.name = some t := by cases t <;> rfl
  have hshow (w : World) : Invocation.runCommand s p.settings p.flags .toolsDocs w
      = Documentation.show t (p.flags.value .output) w := by
    unfold Invocation.runCommand
    rw [h.words]
    dsimp only
    rw [htopic]
  rw [Plan.perform, h.noHelp, h.command, if_neg (by decide), h.words, hwords]
  dsimp only
  generalize p.setUp fs' = x
  obtain ⟨r, w⟩ := x
  cases r with
  | error e => rfl
  | ok => exact hshow w

lemma perform_eq (h : c.Documents fs p t) :
    c.perform fs = Invocation.finish (p.perform c.surroundings (c.settingsFile p.flags fs).2).1
      (p.perform c.surroundings (c.settingsFile p.flags fs).2).2 :=
  Call.perform_of_runnable h.intent h.noHelp (by rw [h.command]; rfl)

/-- Where logging cannot be set up, no page is shown, and the error output tells why. -/
lemma outcome_of_unset (h : c.Documents fs p t)
    (he : (p.setUp (c.settingsFile p.flags fs).2).1 = .error e) :
    (c.perform fs).status = 1 ∧ (c.perform fs).output = [] ∧ (c.perform fs).errors ≠ [] := by
  have houtput := p.output_setUp (c.settingsFile p.flags fs).2
  have hreport := Invocation.report_of_setUpLogging he
  rw [h.perform_eq, h.plan_perform]
  generalize p.setUp (c.settingsFile p.flags fs).2 = x at he houtput ⊢
  obtain ⟨r, w⟩ := x
  obtain rfl : r = .error e := he
  exact Invocation.outcome_of_reported hreport houtput

/-- Without a path the page is printed. -/
lemma outcome_of_printed (h : c.Documents fs p t)
    (hset : (p.setUp (c.settingsFile p.flags fs).2).1 = .ok ())
    (hpath : p.flags.value .output = []) :
    (c.perform fs).status = 0 ∧ (c.perform fs).output = Documentation.page t := by
  have houtput := p.output_setUp (c.settingsFile p.flags fs).2
  rw [h.perform_eq, h.plan_perform]
  generalize p.setUp (c.settingsFile p.flags fs).2 = x at hset houtput ⊢
  obtain ⟨r, w⟩ := x
  obtain rfl : r = .ok () := hset
  dsimp only at houtput ⊢
  rw [hpath, Documentation.show, if_pos (by simp)]
  refine ⟨Outcome.status_of_none rfl, ?_⟩
  rw [Invocation.finish, World.print, houtput, List.nil_append]

/-- With a path the page is written, or its file cannot be opened and the call fails, or the
file cannot be written and the call succeeds. -/
lemma outcome_of_path (h : c.Documents fs p t)
    (hset : (p.setUp (c.settingsFile p.flags fs).2).1 = .ok ())
    (hpath : p.flags.value .output ≠ []) :
    let path := p.flags.value .output
    let begun := (p.setUp (c.settingsFile p.flags fs).2).2
    let written := begun.files.write Documentation.mode path (Documentation.page t)
    let o := c.perform fs
    o.output = [] ∧
      ((written.1 = .ok () ∧ o.status = 0
          ∧ ∃ m, o.files.get? (Path.resolve path) = some (.file m (Documentation.page t)))
        ∨ (∃ errno, written.1 = .error ⟨.openToWrite, path, none, errno⟩ ∧ o.status = 1
          ∧ o.errors ≠ [])
        ∨ ∃ errno, written.1 = .error ⟨.write, path, none, errno⟩ ∧ o.status = 0
          ∧ o.errors = begun.errors
          ∧ ∃ m, o.files.get? (Path.resolve path) = some (.file m [])) := by
  have houtput := p.output_setUp (c.settingsFile p.flags fs).2
  dsimp only
  rw [h.perform_eq, h.plan_perform]
  generalize p.setUp (c.settingsFile p.flags fs).2 = x at hset houtput ⊢
  obtain ⟨r, w⟩ := x
  obtain rfl : r = .ok () := hset
  dsimp only at houtput ⊢
  obtain ⟨hok, heq, hget⟩ | ⟨errno, herror, heq⟩ | ⟨errno, herror, heq, hget⟩ :=
    Documentation.show_cases hpath t w
  · rw [heq, Invocation.finish]
    exact ⟨houtput, .inl ⟨hok, Outcome.status_of_none rfl, hget⟩⟩
  · obtain ⟨hstatus, hnone, herrors⟩ := Invocation.outcome_of_reported
      (e := .outputFile ⟨.openToWrite, p.flags.value .output, none, errno⟩)
      (w := w.withFiles (w.files.write Documentation.mode (p.flags.value .output)
        (Documentation.page t)).2) ⟨rfl, rfl⟩ houtput
    rw [heq]
    exact ⟨hnone, .inr (.inl ⟨errno, herror, hstatus, herrors⟩)⟩
  · rw [heq, Invocation.finish]
    exact ⟨houtput, .inr (.inr ⟨errno, herror, Outcome.status_of_none rfl, rfl, hget⟩)⟩

end Call.Documents

/-- The outcome of a call tells whether the page on `t` was written to `path`, where `r` is
the result of writing it: a call that succeeds has written the page and printed nothing, and
where the page was not written the call fails and says so. -/
structure Documentation.Told (t : Manual.Topic) (path : Bytes) (r : Except FileError Unit)
    (o : Outcome) : Prop where
  written : o.status = 0 →
    o.output = [] ∧ ∃ m, o.files.get? (Path.resolve path) = some (.file m (page t))
  unwritten : r ≠ .ok () → o.status ≠ 0 ∧ o.errors ≠ []

/-- **The outcome tells whether the page was written, unless the writing itself has
failed.**  Then the file is there and empty, and the call succeeds without a word.  What is
written is what is printed where no path is given. -/
theorem told_iff (h : c.Documents fs p t) :
    let path := p.flags.value .output
    let begun := p.setUp (c.settingsFile p.flags fs).2
    let written := begun.2.files.write Documentation.mode path (Documentation.page t)
    let o := c.perform fs
    (path = [] → begun.1 = .ok () → o.status = 0 ∧ o.output = Documentation.page t)
      ∧ (path ≠ [] → (Documentation.Told t path written.1 o
        ↔ (begun.1 = .ok () → ∀ errno, written.1 ≠ .error ⟨.write, path, none, errno⟩)))
      ∧ (path ≠ [] → begun.1 = .ok () →
        ∀ errno, written.1 = .error ⟨.write, path, none, errno⟩ →
          o.status = 0 ∧ o.output = [] ∧ o.errors = begun.2.errors
            ∧ ∃ m, o.files.get? (Path.resolve path) = some (.file m [])) := by
  intro path begun written o
  have hlost (hpath : path ≠ []) (hset : begun.1 = .ok ()) (errno : Errno)
      (hunwritten : written.1 = .error ⟨.write, path, none, errno⟩) :
      o.status = 0 ∧ o.output = [] ∧ o.errors = begun.2.errors
        ∧ ∃ m, o.files.get? (Path.resolve path) = some (.file m []) := by
    obtain ⟨houtput, ⟨hok, -⟩ | ⟨errno', herror, -⟩ | ⟨errno', -, hstatus, herrors, hget⟩⟩ :=
      h.outcome_of_path hset hpath
    · exact absurd (hunwritten.symm.trans hok) (by simp)
    · exact absurd (hunwritten.symm.trans herror) (by simp)
    · exact ⟨hstatus, houtput, herrors, hget⟩
  refine ⟨fun hpath hset => h.outcome_of_printed hset hpath,
    fun hpath => ⟨fun htold hset errno hunwritten => ?_, fun hmet => ?_⟩, hlost⟩
  · exact (htold.unwritten (by simp [hunwritten])).1 (hlost hpath hset errno hunwritten).1
  · cases hset : begun.1 with
    | error e =>
        obtain ⟨hstatus, -, herrors⟩ := h.outcome_of_unset hset
        exact ⟨fun hzero => absurd (hstatus.symm.trans hzero) (by simp),
          fun _ => ⟨hstatus ▸ by simp, herrors⟩⟩
    | ok =>
        obtain ⟨houtput, ⟨hok, -, hget⟩ | ⟨errno, herror, hstatus, herrors⟩
          | ⟨errno, hunwritten, -⟩⟩ := h.outcome_of_path hset hpath
        · exact ⟨fun _ => ⟨houtput, hget⟩, fun hne => absurd hok hne⟩
        · exact ⟨fun hzero => absurd (hstatus.symm.trans hzero) (by simp),
            fun _ => ⟨hstatus ▸ by simp, herrors⟩⟩
        · exact absurd hunwritten (hmet hset errno)

/-- There is no space left for the page on the files of the registers, and the call
succeeds. -/
theorem untold_on_full_disk :
    let fs : FileSystem := { failures := [⟨.write, none, .noSpace, none⟩] }
    let c : Call :=
      { words := [utf8 "tools", utf8 "docs", utf8 "cpu.storage", utf8 "--output", utf8 "o"] }
    ∃ p, c.Documents fs p .storage ∧ p.flags.value .output = utf8 "o"
      ∧ (c.perform fs).status = 0 ∧ (c.perform fs).output = [] ∧ (c.perform fs).errors = []
      ∧ ∃ m, (c.perform fs).files.get? [utf8 "o"] = some (.file m []) := by
  intro fs c
  -- What the call comes to is told by few facts, which keep its definition out of the way.
  obtain ⟨p, hdocuments, hpath, hset, hquiet, hfull⟩ : ∃ p : Plan, c.Documents fs p .storage
      ∧ p.flags.value .output = utf8 "o"
      ∧ (p.setUp (c.settingsFile p.flags fs).2).1 = .ok ()
      ∧ (p.setUp (c.settingsFile p.flags fs).2).2.errors = []
      ∧ ((p.setUp (c.settingsFile p.flags fs).2).2.files.write Documentation.mode (utf8 "o")
        (Documentation.page .storage)).1 = .error ⟨.write, utf8 "o", none, .noSpace⟩ :=
    ⟨_, Call.documents_words {} .storage (utf8 "o") fs, rfl, by decide +kernel, by decide +kernel,
      by decide +kernel⟩
  obtain ⟨-, -, hlost⟩ := told_iff hdocuments
  rw [hpath] at hlost
  obtain ⟨hstatus, houtput, herrors, hget⟩ := hlost (by decide) hset .noSpace hfull
  exact ⟨p, hdocuments, hpath, hstatus, houtput, herrors.trans hquiet, hget⟩

end RegisterMachine
