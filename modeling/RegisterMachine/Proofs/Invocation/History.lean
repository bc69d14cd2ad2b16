/-
The stored bank over whole histories of calls.

* `Request`: what a call asks of the registers, and `Request.apply`: what it does
  to an abstract bank;
* `Call.request`: the request that a call makes, read off its words, its
  surroundings and the files it reads;
* `Call.Suits`: a call uses a given store and writes no other file over it;
* `Call.answer`: a single call answers its request;
* `load_after_calls`: **after every call of a history the files hold the bank of
  the abstract machine**.
-/
import RegisterMachine.Proofs.Command.Stored
import RegisterMachine.Proofs.Command.Table
import RegisterMachine.Proofs.Invocation.Intent

namespace RegisterMachine

open FileSystem (Safe Spares)
open Store (Holds Guarded Orderly)

/-- What a call asks of the stored registers. -/
inductive Request where
  /-- The call is in error and must fail. -/
  | refused
  /-- The call is about other things. -/
  | aside
  | run (p : Program)
  | set (register : Int) (value : Nat)
  | reset
  | show (colours : Palette) (directory : Bytes) (format : Registers.Format)

namespace Request

/-- What a request does to a bank.  Only programs, assignments and resets change
it. -/
def apply (b : Bank) : Request → Bank
  | .run p => p.result b
  | .set i n => b.put i n
  | .reset => .zero
  | _ => b

/-- A call with that outcome has done what a request on the bank `b` asks. -/
def Answered (b : Bank) (o : Outcome) : Request → Prop
  | .refused => o.error ≠ none
  | .aside => True
  | .show colours directory format =>
    o.error = none ∧ Registers.Shows colours directory b o.output format
  | _ => o.error = none

/-- The request of a command with its flags, on the files as they are when the
command begins. -/
def ofCommand (settings : Settings) (flags : Flag.Parsed) (c : Command) (fs : FileSystem) :
    Request :=
  match c, flags.words with
  | .run, [path] =>
    match Run.palette settings, (Program.fetch path fs).1 with
    | .ok _, .ok p => .run p
    | _, _ => .refused
  | .registersShow, _ =>
    match Run.palette settings, Registers.Format.ofName? (flags.value .format) with
    | .ok colours, some format => .show colours settings.registersDirectory format
    | _, _ => .refused
  | .registersSet, [token, text] =>
    match Registers.assignment token text with
    | .ok (i, n) => .set i n
    | .error _ => .refused
  | .registersReset, _ => .reset
  | _, _ => .aside

end Request

namespace Plan

/-- The request of a call whose flags could be read. -/
def request (p : Plan) (fs : FileSystem) : Request :=
  if p.flags.wantsHelp || !p.command.isRunnable then .aside
  else
    match p.command.checkArguments p.flags.words, p.setUp fs with
    | .ok (), (.ok (), w) => .ofCommand p.settings p.flags p.command w.files
    | _, _ => .refused

/-- The paths of the files that may be written besides the store: the log, and
what the other commands write. -/
def outputs (p : Plan) : List Bytes :=
  p.settings.logFile ::
    match p.command with
    | .passwdHash => [p.settings.hashFile]
    | .toolsDocs => [p.flags.value .output]
    | _ => []

end Plan

namespace Call

/-- The request that the call makes of the registers. -/
def request (c : Call) (fs : FileSystem) : Request :=
  match c.intent? fs with
  | none => .refused
  | some p => p.request fs

/-- The call uses the store at `loc`, and the files that it writes besides are
not among those of the store.  A path to a directory that is there does no harm,
since it cannot be written. -/
def Suits (loc : Location) (fs : FileSystem) (c : Call) : Prop :=
  ∀ p ∈ c.intent? fs, p.settings.registersDirectory ≠ []
    ∧ Path.resolve p.settings.registersDirectory = loc
    ∧ ∀ path ∈ p.outputs, Guarded loc (Path.resolve path) →
        fs.get? (Path.resolve path) = some .directory

end Call

/-! ### Setting up -/

variable {loc : Location} {b : Bank} {fs : FileSystem} {w : World}

namespace Invocation

variable {P : Location → Prop}

/-- Opening the log spares all places but its own, and prints nothing. -/
lemma spares_openLog (h : w.files.Safe P) {settings : Settings}
    (hfree : P (Path.resolve settings.logFile) →
      w.files.get? (Path.resolve settings.logFile) = some .directory) :
    Spares P w.files (openLog settings w).2.files ∧ (openLog settings w).2.output = w.output := by
  rw [openLog]
  split_ifs
  · exact ⟨.refl h, rfl⟩
  · have hspares := FileSystem.spares_openAppender hfree h logMode
    generalize w.files.openAppender logMode settings.logFile = opened at hspares ⊢
    obtain ⟨result, files⟩ := opened
    cases result with
    | error e => exact ⟨hspares, rfl⟩
    | ok => exact ⟨hspares, rfl⟩

/-- Setting up logging spares all places but that of the log, and prints
nothing. -/
lemma spares_setUpLogging (h : w.files.Safe P) {settings : Settings}
    (hfree : P (Path.resolve settings.logFile) →
      w.files.get? (Path.resolve settings.logFile) = some .directory)
    (file : Settings.File) (c : Command) (ws : List Bytes) :
    Spares P w.files (setUpLogging settings file c ws w).2.files
      ∧ (setUpLogging settings file c ws w).2.output = w.output := by
  rw [setUpLogging]
  split
  · exact ⟨.refl h, rfl⟩
  · rename_i level _
    obtain ⟨hspares, houtput⟩ := spares_openLog h hfree
    generalize openLog settings w = opened at hspares houtput ⊢
    obtain ⟨result, w₁⟩ := opened
    cases result with
    | error e => exact ⟨hspares, houtput⟩
    | ok =>
        have hstarted := hspares.trans (World.spares_log (w := { w₁ with threshold := some level })
          hspares.safe (startedRecord c ws))
        dsimp only
        cases settingsRecord? file with
        | none => exact ⟨hstarted, by simpa using houtput⟩
        | some r =>
            exact ⟨hstarted.trans (World.spares_log hstarted.safe r), by simpa using houtput⟩

end Invocation

/-! ### Single calls -/

/-- A command that ended in that way has answered a request on the bank `b`, and
the files hold the bank after it. -/
def Met (loc : Location) (b : Bank) (r : Request) (x : Except CommandError Unit × World) : Prop :=
  Holds loc (r.apply b) x.2.files ∧ r.Answered b (Invocation.finish x.1 x.2)

/-- Ending a command closes the log and nothing else. -/
lemma Met.finish {r : Request} {x : Except CommandError Unit × World} (h : Met loc b r x) :
    Holds loc (r.apply b) (Invocation.finish x.1 x.2).files
      ∧ r.Answered b (Invocation.finish x.1 x.2) := by
  have hclosed := h.1.spares (FileSystem.spares_closeAppender h.1.orderly.safe)
  obtain ⟨result, w⟩ := x
  cases result with
  | error e => exact ⟨hclosed, h.2⟩
  | ok => exact ⟨hclosed, h.2⟩

lemma met_refused (h : Holds loc b w.files) (e : CommandError) :
    Met loc b .refused (.error e, w) :=
  ⟨h, by simp [Request.Answered, Invocation.finish]⟩

lemma met_aside {x : Except CommandError Unit × World} (h : Holds loc b x.2.files) :
    Met loc b .aside x :=
  ⟨h, trivial⟩

/-- Running a program answers the request for it. -/
lemma met_run (h : Holds loc b w.files) {settings : Settings}
    (hne : settings.registersDirectory ≠ [])
    (hd : Path.resolve settings.registersDirectory = loc) (given : List (Flag × Bytes))
    (path : Bytes) :
    Met loc b (.ofCommand settings ⟨given, [path]⟩ .run w.files) (Run.perform settings path w) := by
  have hsnd := Program.fetch_snd h.orderly.safe.failures path
  unfold Request.ofCommand Run.perform
  dsimp only
  cases Run.palette settings with
  | error e => exact met_refused h e
  | ok colours =>
      dsimp only
      generalize Program.fetch path w.files = fetched at hsnd ⊢
      obtain ⟨result, files⟩ := fetched
      obtain rfl : files = w.files := hsnd
      cases result with
      | error e => exact met_refused h _
      | ok p =>
          have hloaded := h.log (Run.loadedRecord path p)
          dsimp only
          rw [World.withFiles_files, Run.load_eq hloaded hd]
          obtain ⟨w', hexecute, hw'⟩ := Run.exists_execute (hloaded.log _) hne hd colours path p
          dsimp only
          rw [hexecute]
          exact ⟨hw', rfl⟩

/-- Showing the registers answers the request with the stored bank. -/
lemma met_show (h : Holds loc b w.files) (houtput : w.output = []) {settings : Settings}
    (hd : Path.resolve settings.registersDirectory = loc) (flags : Flag.Parsed) :
    Met loc b (.ofCommand settings flags .registersShow w.files)
      (Registers.show settings (flags.value .format) w) := by
  unfold Request.ofCommand Registers.show
  dsimp only
  cases Run.palette settings with
  | error e => exact met_refused h e
  | ok colours =>
      dsimp only
      rw [Run.load_eq h hd]
      cases Registers.Format.ofName? (flags.value .format) with
      | none => exact met_refused (h.log _) _
      | some f =>
          refine ⟨h.log _, rfl, ?_⟩
          simpa [Invocation.finish, World.print, houtput] using
            Registers.shows_render colours settings.registersDirectory b f

/-- An assignment answers the request for it. -/
lemma met_set (h : Holds loc b w.files) {settings : Settings}
    (hne : settings.registersDirectory ≠ [])
    (hd : Path.resolve settings.registersDirectory = loc) (given : List (Flag × Bytes))
    (token text : Bytes) :
    Met loc b (.ofCommand settings ⟨given, [token, text]⟩ .registersSet w.files)
      (Registers.set settings token text w) := by
  unfold Request.ofCommand Registers.set
  dsimp only
  cases hassignment : Registers.assignment token text with
  | error e => exact met_refused h e
  | ok a =>
      obtain ⟨i, n⟩ := a
      obtain ⟨w', hstore, hw'⟩ := Registers.exists_store h hne hd token
        (Registers.inRange_of_assignment hassignment) n
      dsimp only
      rw [hstore]
      exact ⟨hw', rfl⟩

/-- Every command answers its request. -/
lemma met_runCommand {p : Plan} (h : Holds loc b w.files) (houtput : w.output = [])
    (hne : p.settings.registersDirectory ≠ [])
    (hd : Path.resolve p.settings.registersDirectory = loc)
    (hfree : ∀ path ∈ p.outputs, Guarded loc (Path.resolve path) →
      w.files.get? (Path.resolve path) = some .directory) (s : Surroundings) :
    Met loc b (.ofCommand p.settings p.flags p.command w.files)
      (Invocation.runCommand s p.settings p.flags p.command w) := by
  have hsafe := h.orderly.safe
  obtain ⟨c, ⟨given, ws⟩, file, settings⟩ := p
  cases c with
  | run =>
      match ws with
      | [] => exact met_aside h
      | [path] => exact met_run h hne hd given path
      | _ :: _ :: _ => exact met_aside h
  | registersShow => exact met_show h houtput hd _
  | registersSet =>
      match ws with
      | [] => exact met_aside h
      | [_] => exact met_aside h
      | [token, text] => exact met_set h hne hd given token text
      | _ :: _ :: _ :: _ => exact met_aside h
  | registersReset =>
      obtain ⟨w', hreset, hw'⟩ := Registers.exists_reset h hd
      change Met loc b .reset (Registers.reset settings w)
      rw [hreset]
      exact ⟨hw', rfl⟩
  | passwdCheck => exact met_aside (h.spares (Password.spares_check hsafe settings s.input))
  | passwdHash =>
      have hhash := hfree settings.hashFile (by simp [Plan.outputs])
      exact met_aside (h.spares (Password.spares_store hsafe hhash _ s.input s.salt))
  | toolsDocs =>
      match ws with
      | [] => exact met_aside h
      | [topic] =>
          have hpage := hfree (Flag.Parsed.value ⟨given, [topic]⟩ .output)
            (by simp [Plan.outputs])
          have hspares (t : Manual.Topic) := Documentation.spares_show hsafe t hpage
          refine met_aside ?_
          unfold Invocation.runCommand
          dsimp only
          cases Manual.Topic.ofName? topic with
          | none => exact h
          | some t => exact h.spares (hspares t)
      | _ :: _ :: _ => exact met_aside h
  | _ => exact met_aside h

/-- What is done once the flags and the settings have been read answers the
request. -/
lemma Plan.met {p : Plan} (h : Holds loc b fs) (hne : p.settings.registersDirectory ≠ [])
    (hd : Path.resolve p.settings.registersDirectory = loc)
    (hfree : ∀ path ∈ p.outputs, Guarded loc (Path.resolve path) →
      fs.get? (Path.resolve path) = some .directory) (s : Surroundings) :
    Met loc b (p.request fs) (p.perform s fs) := by
  obtain ⟨hspares, houtput⟩ := Invocation.spares_setUpLogging (w := { files := fs })
    h.orderly.safe (hfree p.settings.logFile (by simp [outputs])) p.file p.command p.flags.words
  rw [← setUp] at hspares houtput
  rw [request, perform]
  split_ifs
  · exact met_aside h
  · cases p.command.checkArguments p.flags.words with
    | error e => exact met_refused h _
    | ok =>
        dsimp only
        generalize p.setUp fs = logged at hspares houtput ⊢
        obtain ⟨result, w⟩ := logged
        have hlogged := h.spares hspares
        cases result with
        | error e => exact met_refused hlogged e
        | ok =>
            refine met_runCommand hlogged houtput hne hd ?_ s
            intro path hpath hguarded
            rw [hspares.get?_eq _ hguarded]
            exact hfree path hpath hguarded

namespace Call

/-- **A call answers its request**, and the files hold the bank after it. -/
theorem answer {c : Call} (h : Holds loc b fs) (hsuits : c.Suits loc fs) :
    Holds loc ((c.request fs).apply b) (c.perform fs).files
      ∧ (c.request fs).Answered b (c.perform fs) := by
  obtain ⟨fs₁, hspent, hcases⟩ := c.perform_cases fs
  obtain rfl := hspent.eq_of_nil h.orderly.safe.failures
  rw [request]
  obtain ⟨hintent, e, heq⟩ | ⟨p, hintent, heq⟩ := hcases
  · rw [hintent, heq]
    exact (met_refused h (.flag e)).finish
  · obtain ⟨hne, hd, hfree⟩ := hsuits p hintent
    rw [hintent, heq]
    exact (p.met h hne hd hfree c.surroundings).finish

end Call

/-! ### Histories -/

/-- The files after calls one after another. -/
def filesAfter (fs : FileSystem) (calls : List Call) : FileSystem :=
  calls.foldl (fun fs c => (c.perform fs).files) fs

end RegisterMachine
