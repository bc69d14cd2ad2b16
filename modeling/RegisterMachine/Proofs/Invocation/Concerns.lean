/-
What a command depends on, besides its words, its settings and the input.

* `Plan.files`, `Plan.way`, `Plan.Concerns`: the files that a command itself reads or
  writes, the directories on the way to the registers, and the places whose entries have
  an influence on it;
* `Plan.LogStarts`: how the log of a command starts, which does not depend on the file
  with the settings;
* `Plan.matched_runCommand`: **a command does the same on files that differ at other
  places**;
* `Plan.matched_perform`: so it does whatever is said about the file with the settings.
-/
import RegisterMachine.Proofs.Invocation.Presentation

namespace RegisterMachine

variable {D : Location → Prop} {T : Location → Bytes → Prop} {S : Prop} {fs fs' : FileSystem}
  {w w' : World}

/-! ### How a log starts -/

lemma Log.two_le_length_jsonString (short : Bool) (s : Bytes) :
    2 ≤ (Log.jsonString short s).length := by
  have hquote : (utf8 "\"").length = 1 := by decide
  rw [jsonString, List.length_append, List.length_append, hquote]
  omega

lemma Log.two_le_length_json_texts (l : List Bytes) : 2 ≤ (Log.Value.texts l).json.length := by
  have hopen : (utf8 "[").length = 1 := by decide
  have hclose : (utf8 "]").length = 1 := by decide
  rw [Value.json, List.length_append, List.length_append, hopen, hclose]
  omega

/-- The record of a command that starts is long. -/
lemma Invocation.length_startedRecord (c : Command) (ws : List Bytes) :
    60 ≤ (startedRecord c ws).body.length := by
  have hfixed : (Log.jsonString false (utf8 "level") ++ utf8 ":"
      ++ (Log.Value.text Log.Severity.debug.name).json ++ utf8 ","
      ++ (Log.jsonString false (utf8 "msg") ++ utf8 ":"
        ++ (Log.Value.text (utf8 "command started")).json) ++ utf8 ","
      ++ (Log.jsonString false (utf8 "command") ++ utf8 ":")
      ++ utf8 "," ++ (Log.jsonString false (utf8 "args") ++ utf8 ":")).length = 58 := by
    decide +kernel
  have hcommand : 2 ≤ (Log.Value.text c.path).json.length :=
    Log.two_le_length_jsonString false c.path
  have hwords := Log.two_le_length_json_texts ws
  rw [Log.Record.body, Bytes.joined, startedRecord]
  simp only [List.map_cons, List.map_nil, List.intercalate_cons_cons, List.intercalate_singleton,
    List.length_append] at hfixed ⊢
  omega

/-! ### What a command depends on -/

namespace Plan

/-- The files that the command itself reads or writes. -/
def files (p : Plan) : List Bytes :=
  match p.command with
  | .run => p.flags.words ++ Footprint.slots p.settings.registersDirectory
  | .registersSet => Footprint.slots p.settings.registersDirectory
  | .registersShow | .registersReset =>
    Store.registers.map fun (i : Nat) => Slot.path p.settings.registersDirectory i
  | .passwdCheck | .passwdHash => [p.settings.hashFile]
  | .toolsDocs => if p.flags.value .output = [] then [] else [p.flags.value .output]
  | _ => []

/-- The directories on the way to the registers, if the command is about them. -/
def way (p : Plan) : List Location :=
  match p.command with
  | .run | .registersShow | .registersSet | .registersReset =>
    Path.prefixes (Path.resolve p.settings.registersDirectory)
  | _ => []

/-- The command depends on what stands at a place: it is that of a file which the command
reads or writes, or on the way to the registers.  A reset depends besides on what lies in
a directory at the place of a register. -/
def Concerns (p : Plan) (q : Location) : Prop :=
  (∃ path ∈ p.files, q = Path.resolve path) ∨ q ∈ p.way
    ∨ p.command = .registersReset ∧ ∃ i ∈ Store.registers, ∃ n,
      q = Path.resolve (Slot.path p.settings.registersDirectory (i : Nat)) ++ [n]

/-- The log is at a place, and its text starts so, once the command has started. -/
def LogStarts (p : Plan) (q : Location) (c : Bytes) : Prop :=
  p.IsLog q ∧ ∃ front, c = front ++ (Invocation.startedRecord p.command p.flags.words).object

variable {p : Plan}

lemma concerns_of_mem {path : Bytes} (h : path ∈ p.files) : p.Concerns (Path.resolve path) :=
  .inl ⟨path, h, rfl⟩

lemma concerns_of_way {q : Location} (h : q ∈ p.way) : p.Concerns q :=
  .inr (.inl h)

/-- All places of the store are of concern where its files are. -/
lemma concerns_of_guarded
    (hfiles : ∀ path ∈ Footprint.slots p.settings.registersDirectory, path ∈ p.files)
    (hway : p.way = Path.prefixes (Path.resolve p.settings.registersDirectory)) {q : Location}
    (h : Store.Guarded (Path.resolve p.settings.registersDirectory) q) : p.Concerns q := by
  have hmem {path : Bytes} {i : Nat} (hi : i < Register.count)
      (hpath : path ∈ [Slot.path p.settings.registersDirectory i,
        Slot.scratch p.settings.registersDirectory i]) : path ∈ p.files :=
    hfiles path (List.mem_flatMap.mpr ⟨i, List.mem_range.mpr hi, hpath⟩)
  obtain hq | ⟨i, hi, rfl | rfl⟩ := h
  · exact concerns_of_way (by rwa [hway])
  · rw [← Slot.resolve_path]
    exact concerns_of_mem (hmem hi (by simp))
  · rw [← Slot.resolve_scratch]
    exact concerns_of_mem (hmem hi (by simp))

lemma concerns_place
    (hfiles : p.files = Store.registers.map fun (i : Nat) =>
      Slot.path p.settings.registersDirectory i) {i : Nat} (hi : i ∈ Store.registers) :
    p.Concerns (Slot.place (Path.resolve p.settings.registersDirectory) i) := by
  rw [← Slot.resolve_path]
  refine concerns_of_mem ?_
  rw [hfiles]
  exact List.mem_map.mpr ⟨i, hi, rfl⟩

/-- A log is longer than the file of a register. -/
lemma LogStarts.size_lt {q : Location} {c : Bytes} (h : p.LogStarts q c) :
    Slot.size < c.length := by
  obtain ⟨-, front, rfl⟩ := h
  have hlength := Invocation.length_startedRecord p.command p.flags.words
  rw [Log.Record.object_eq, Slot.size, List.length_append, List.length_cons, List.length_append]
  omega

/-- A log that stands in place of a hash is judged by how it starts. -/
lemma LogStarts.judge_eq {q : Location} {c : Bytes} (h : p.LogStarts q c)
    (path password x x' : Bytes) :
    PasswordFile.judge path password (c ++ x') = PasswordFile.judge path password (c ++ x) := by
  obtain ⟨-, front, rfl⟩ := h
  exact PasswordFile.judge_log (Invocation.length_startedRecord _ _) path password front x x'

/-- A program that is not the log does the same on files that differ at places which are
not the concern of running it. -/
lemma matched_run {path : Bytes} (h : World.Parallel D p.LogStarts S w w')
    (hD : ∀ q, p.Concerns q → ¬ D q) (hcommand : p.command = .run)
    (hpath : path ∈ p.flags.words) (hlog : ¬ p.IsLog (Path.resolve path)) :
    Matched D p.LogStarts S (Run.perform p.settings path w) (Run.perform p.settings path w') := by
  have hfiles : p.files = p.flags.words ++ Footprint.slots p.settings.registersDirectory := by
    rw [files, hcommand]
  have hway : p.way = Path.prefixes (Path.resolve p.settings.registersDirectory) := by
    rw [way, hcommand]
  cases hcolours : Run.palette p.settings with
  | error e =>
      rw [Run.perform, Run.perform, hcolours]
      exact h.matched _
  | ok colours =>
      refine Run.matched_perform h rfl hcolours hcolours
        (fun q hq => hD q (concerns_of_guarded (fun path hslot => ?_) hway hq))
        (fun _ _ => LogStarts.size_lt) (fun _ => rfl) (hD _ (concerns_of_mem ?_))
        fun _ hstarts => hlog hstarts.1
      · rw [hfiles]
        exact List.mem_append_right _ hslot
      · rw [hfiles]
        exact List.mem_append_left _ hpath

/-- **A command does the same** on files that differ at places which are not its
concern. -/
lemma matched_runCommand (h : World.Parallel D p.LogStarts S w w')
    (hD : ∀ q, p.Concerns q → ¬ D q)
    (hprogram : p.command = .run → ∀ path ∈ p.flags.words, ¬ p.IsLog (Path.resolve path))
    {s s' : Surroundings} (hinput : s'.input = s.input) (hsalt : s'.salt = s.salt) :
    Matched D p.LogStarts S (Invocation.runCommand s p.settings p.flags p.command w)
      (Invocation.runCommand s' p.settings p.flags p.command w') := by
  have hT : ∀ q c, p.LogStarts q c → Slot.size < c.length := fun _ _ => LogStarts.size_lt
  unfold Invocation.runCommand
  split
  · rename_i path hcommand hwords
    have hpath : path ∈ p.flags.words := by
      rw [hwords]
      exact List.mem_singleton.mpr rfl
    exact matched_run h hD hcommand hpath (hprogram hcommand path hpath)
  · rename_i hcommand
    have hfiles : p.files = Store.registers.map fun (i : Nat) =>
        Slot.path p.settings.registersDirectory i := by rw [files, hcommand]
    have hway : p.way = Path.prefixes (Path.resolve p.settings.registersDirectory) := by
      rw [way, hcommand]
    exact Registers.matched_show h (fun q hq => hD q (concerns_of_way (by rwa [hway])))
      (fun i hi => hD _ (concerns_place hfiles hi)) hT _
  · rename_i token text hcommand hwords
    have hfiles : p.files = Footprint.slots p.settings.registersDirectory := by
      rw [files, hcommand]
    have hway : p.way = Path.prefixes (Path.resolve p.settings.registersDirectory) := by
      rw [way, hcommand]
    refine Registers.matched_set h (fun q hq => hD q (concerns_of_guarded ?_ hway hq)) hT token
      text
    rw [hfiles]
    exact fun _ => id
  · rename_i hcommand
    have hfiles : p.files = Store.registers.map fun (i : Nat) =>
        Slot.path p.settings.registersDirectory i := by rw [files, hcommand]
    have hway : p.way = Path.prefixes (Path.resolve p.settings.registersDirectory) := by
      rw [way, hcommand]
    refine Registers.matched_reset h (fun q hq => hD q (concerns_of_way (by rwa [hway])))
      fun i hi => ⟨hD _ (concerns_place hfiles hi), fun n => hD _ ?_⟩
    exact .inr (.inr ⟨hcommand, i, hi, n, by rw [Slot.resolve_path]⟩)
  · rename_i hcommand
    have hhash : p.settings.hashFile ∈ p.files := by
      rw [files, hcommand]
      exact List.mem_singleton.mpr rfl
    rw [hinput]
    exact Password.matched_check h (hD _ (concerns_of_mem hhash)) s.input
      fun password c x x' hlog => hlog.judge_eq _ password x x'
  · rename_i hcommand
    have hhash : p.settings.hashFile ∈ p.files := by
      rw [files, hcommand]
      exact List.mem_singleton.mpr rfl
    rw [hinput, hsalt]
    exact Password.matched_store h (hD _ (concerns_of_mem hhash)) _ s.input s.salt
  · rename_i topic hcommand hwords
    cases Manual.Topic.ofName? topic with
    | none => exact h.matched _
    | some t =>
        refine Documentation.matched_show h (fun hne => hD _ (concerns_of_mem ?_)) t
        rw [files, hcommand]
        dsimp only
        rw [if_neg hne]
        exact List.mem_singleton.mpr rfl
  · exact (h.print fun _ => rfl).matched _
  · exact h.matched _

end Plan

/-! ### Setting up a log on both sides -/

open FileSystem.Parallel (Loose)

lemma FileSystem.Parallel.Loose.symm (h : Loose D T fs fs') (heq : fs'.appender = fs.appender) :
    Loose D T fs' fs := by
  intro a ha q hq
  rw [heq] at ha
  obtain hD | ⟨c, m, x, x', hT, hget, hget'⟩ := h a ha q hq
  · exact .inl hD
  · exact .inr ⟨c, m, x', x, hT, hget', hget⟩

namespace World

lemma appender_log (w : World) (r : Log.Record) :
    (w.log r).files.appender = w.files.appender := by
  rw [files_log_eq]
  split_ifs
  · exact FileSystem.appender_append _ _
  · rfl

lemma appender_logOption (w : World) (r : Option Log.Record) :
    ((r.map w.log).getD w).files.appender = w.files.appender := by
  cases r with
  | none => rfl
  | some r => exact appender_log w r

lemma Parallel.symm (h : World.Parallel D T S w w') : World.Parallel D T S w' w :=
  ⟨h.files.symm, fun hS => (h.output hS).symm, h.threshold.symm⟩

/-- Records may be logged on one side only, if they are of no account. -/
lemma Parallel.logOption_left (h : World.Parallel D T S w w')
    (hloose : Loose D T w.files w'.files) (r : Option Log.Record) :
    World.Parallel D T S ((r.map w.log).getD w) w'
      ∧ Loose D T ((r.map w.log).getD w).files w'.files := by
  cases r with
  | none => exact ⟨h, hloose⟩
  | some r =>
      have hadded := h.files.append_left hloose r.object
      rw [Option.map_some, Option.getD_some]
      refine ⟨⟨?_, ?_, ?_⟩, ?_⟩
      · rw [files_log_eq]
        split_ifs
        · exact hadded.1
        · exact h.files
      · rw [output_log]
        exact h.output
      · rw [threshold_log]
        exact h.threshold
      · rw [files_log_eq]
        split_ifs
        · exact hadded.2
        · exact hloose

/-- Different records may be logged on both sides, if they are of no account. -/
lemma Parallel.logOptions (h : World.Parallel D T S w w')
    (hloose : Loose D T w.files w'.files) (heq : w'.files.appender = w.files.appender)
    (r r' : Option Log.Record) :
    World.Parallel D T S ((r.map w.log).getD w) ((r'.map w'.log).getD w')
      ∧ Loose D T ((r.map w.log).getD w).files ((r'.map w'.log).getD w').files := by
  obtain ⟨hleft, hloose₁⟩ := h.logOption_left hloose r
  have hloose₂ := hloose₁.symm (by rw [appender_logOption, heq])
  obtain ⟨hright, hloose₃⟩ := hleft.symm.logOption_left hloose₂ r'
  exact ⟨hright.symm, hloose₃.symm (by rw [appender_logOption, appender_logOption, heq])⟩

end World

/-- Results that cannot be told apart are both successes or both failures. -/
lemma Matched.cases {α : Type} {x x' : Except CommandError α × World} (h : Matched D T S x x') :
    (∃ a w w', World.Parallel D T S w w' ∧ x = (.ok a, w) ∧ x' = (.ok a, w'))
      ∨ ∃ e e' w w', e'.seen = e.seen ∧ World.Parallel D T S w w' ∧ x = (.error e, w)
        ∧ x' = (.error e', w') := by
  obtain ⟨r, w⟩ := x
  obtain ⟨r', w'⟩ := x'
  have hseen := h.seen
  cases r with
  | ok a =>
      cases r' with
      | ok a' =>
          obtain rfl : a' = a := Except.ok.inj hseen
          exact .inl ⟨a', w, w', h.world, rfl, rfl⟩
      | error e' => exact absurd hseen (by simp [Except.mapError])
  | error e =>
      cases r' with
      | ok a' => exact absurd hseen (by simp [Except.mapError])
      | error e' => exact .inr ⟨e, e', w, w', Except.error.inj hseen, h.world, rfl, rfl⟩

namespace Plan

variable {p : Plan}

/-- The log of a command is open on both sides, at a place with `D` or with the same
text. -/
def LogOpen (p : Plan) (D : Location → Prop) (fs fs' : FileSystem) : Prop :=
  fs'.appender = fs.appender ∧ ∀ a ∈ fs.appender, ∀ q ∈ a.place, D q ∨ p.IsLog q
    ∧ ∃ m c, fs.get? q = some (.file m c) ∧ fs'.get? q = some (.file m c)

/-- Opening the log fails on both sides, or it is open on both.  At a place with `D` it is
opened, since nothing is in the way there. -/
lemma openLog_cases (h : World.Parallel D (fun _ _ => False) S w w')
    (hroom : ∀ q, D q → w.files.get? q ≠ some .directory ∧ w.files.obstacle? q = none)
    (happender : w.files.appender = none) (happender' : w'.files.appender = none) :
    (∃ e e', e'.seen = e.seen ∧ Invocation.openLog p.settings w = (.error e, w)
        ∧ Invocation.openLog p.settings w' = (.error e', w'))
      ∨ ∃ w₁ w₁', Invocation.openLog p.settings w = (.ok (), w₁)
        ∧ Invocation.openLog p.settings w' = (.ok (), w₁')
        ∧ World.Parallel D (fun _ _ => False) S w₁ w₁' ∧ p.LogOpen D w₁.files w₁'.files := by
  rw [Invocation.openLog, Invocation.openLog]
  split_ifs with hempty
  · refine .inr ⟨w, w', rfl, rfl, h, happender'.trans happender.symm, ?_⟩
    simp [happender]
  · have hne : p.settings.logFile ≠ [] := by simpa using hempty
    have hheld' : w'.files.AppendsTo D := by simp [FileSystem.AppendsTo, happender']
    by_cases hplace : D (Path.resolve p.settings.logFile)
    · obtain ⟨files, files', hopen, hopen', hfiles, hheld, hheld'⟩ :=
        h.files.openAppender_apart hne hplace (hroom _ hplace).1 (hroom _ hplace).2 hheld'
          Invocation.logMode
      rw [hopen, hopen']
      refine .inr ⟨_, _, rfl, rfl, h.withFiles hfiles, hheld'.trans hheld.symm, ?_⟩
      intro a ha q hq
      obtain rfl : _ = a := Option.some.inj (hheld.symm.trans ha)
      exact .inl (Option.some.inj hq ▸ hplace)
    · obtain ⟨e, e', hopen, hopen'⟩ | ⟨files, files', m, c, m', c', hopen, hopen', hfiles,
          hheld, hheld', hget, hget'⟩ := h.files.openAppender_cases hplace Invocation.logMode
      · rw [hopen, hopen']
        exact .inl ⟨.logFile e, .logFile e', rfl, rfl, rfl⟩
      · have heq := (hfiles.entry (Path.resolve p.settings.logFile)).eq hplace fun _ => id
        rw [hopen, hopen']
        refine .inr ⟨_, _, rfl, rfl, h.withFiles hfiles, hheld'.trans hheld.symm, ?_⟩
        intro a ha q hq
        obtain rfl : _ = a := Option.some.inj (hheld.symm.trans ha)
        obtain rfl := Option.some.inj hq
        exact .inr ⟨⟨hne, rfl⟩, m, c, hget, heq.trans hget⟩

/-- Once the command has started, what else is logged is of no account. -/
lemma LogOpen.loose (hopen : p.LogOpen D w.files w'.files)
    (h : World.Parallel D (fun _ _ => False) S w w') (hthreshold : w.threshold.isSome = true) :
    Loose D p.LogStarts (w.log (Invocation.startedRecord p.command p.flags.words)).files
      (w'.log (Invocation.startedRecord p.command p.flags.words)).files := by
  rw [World.files_log_eq, World.files_log_eq, h.threshold, if_pos hthreshold, if_pos hthreshold]
  intro a ha q hq
  rw [FileSystem.appender_append] at ha
  obtain hD | ⟨hlog, m, c, hget, hget'⟩ := hopen.2 a ha q hq
  · exact .inl hD
  obtain ⟨hheld, -⟩ | ⟨-, hpath⟩ := h.files.appender
  · exact .inl (hheld a ha q hq)
  · refine .inr ⟨_, m, [], [], ⟨hlog, c, rfl⟩, ?_, ?_⟩
    · rw [h.files.harmless.get?_append hpath, FileSystem.extended, if_pos ⟨a, ha, hq⟩, hget,
        List.append_nil]
      rfl
    · rw [h.files.harmless'.get?_append (by rwa [hopen.1]), FileSystem.extended, hopen.1,
        if_pos ⟨a, ha, hq⟩, hget', List.append_nil]
      rfl

/-- Logging is set up alike on both sides, whatever is said about the file with the
settings. -/
lemma matched_setUp (h : FileSystem.Parallel D (fun _ _ => False) fs fs')
    (hroom : ∀ q, D q → fs.get? q ≠ some .directory ∧ fs.obstacle? q = none)
    (happender : fs.appender = none) (happender' : fs'.appender = none)
    (file' : Settings.File) :
    Matched D p.LogStarts S (p.setUp fs) ({ p with file := file' }.setUp fs') := by
  have hmono {w w' : World} (h : World.Parallel D (fun _ _ => False) S w w') :
      World.Parallel D p.LogStarts S w w' :=
    ⟨h.files.mono fun _ _ => False.elim, h.output, h.threshold⟩
  have hstart : World.Parallel D (fun _ _ => False) S { files := fs } { files := fs' } :=
    ⟨h, fun _ => rfl, rfl⟩
  rw [setUp, setUp, Invocation.setUpLogging, Invocation.setUpLogging]
  cases Log.readLevel (Blank.trim p.settings.logLevel) with
  | error e => exact (hmono hstart).matched _
  | ok level =>
      dsimp only
      obtain ⟨e, e', heq, hopen, hopen'⟩ | ⟨w₁, w₁', hopen, hopen', h₁, hboth⟩ :=
        openLog_cases hstart hroom happender happender'
      · rw [hopen, hopen']
        exact (hmono hstart).matched_error heq
      · have h₂ : World.Parallel D (fun _ _ => False) S { w₁ with threshold := some level }
            { w₁' with threshold := some level } := ⟨h₁.files, h₁.output, rfl⟩
        have hstarted := h₂.log (Invocation.startedRecord p.command p.flags.words)
        rw [hopen, hopen']
        refine ((hmono hstarted).logOptions (LogOpen.loose hboth h₂ rfl) ?_ _ _).1.matched _
        rw [World.appender_log, World.appender_log]
        exact hboth.1

/-- **A command does the same whatever is said about the file with the settings**, on
files that differ at places which are not its concern. -/
theorem matched_perform (h : FileSystem.Parallel D (fun _ _ => False) fs fs')
    (hroom : ∀ q, D q → fs.get? q ≠ some .directory ∧ fs.obstacle? q = none)
    (hD : ∀ q, p.Concerns q → ¬ D q)
    (hprogram : p.command = .run → ∀ path ∈ p.flags.words, ¬ p.IsLog (Path.resolve path))
    (happender : fs.appender = none) (happender' : fs'.appender = none) {s s' : Surroundings}
    (hinput : s'.input = s.input) (hsalt : s'.salt = s.salt) (file' : Settings.File) :
    Matched D p.LogStarts S (p.perform s fs) ({ p with file := file' }.perform s' fs') := by
  have hstart : World.Parallel D p.LogStarts S { files := fs } { files := fs' } :=
    ⟨h.mono fun _ _ => False.elim, fun _ => rfl, rfl⟩
  have hsetUp : Matched D p.LogStarts S (p.setUp fs) ({ p with file := file' }.setUp fs') :=
    matched_setUp h hroom happender happender' file'
  rw [perform, perform]
  split_ifs
  · exact (hstart.print fun _ => rfl).matched _
  · cases p.command.checkArguments p.flags.words with
    | error e => exact hstart.matched _
    | ok =>
        dsimp only
        generalize p.setUp fs = x at hsetUp ⊢
        generalize { p with file := file' }.setUp fs' = x' at hsetUp ⊢
        obtain ⟨-, w, w', hworld, rfl, rfl⟩ | ⟨e, e', w, w', heq, hworld, rfl, rfl⟩ :=
          hsetUp.cases
        · exact matched_runCommand hworld hD hprogram hinput hsalt
        · exact hworld.matched_error heq

end Plan

end RegisterMachine
