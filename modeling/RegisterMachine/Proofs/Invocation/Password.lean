/-
A password that was stored is the right one.

* `Password.Typed`: the first line of an input is a given password;
* `Call.Prepared`: a call comes to a command without words, and its log can be set up;
* `Password.exists_store`, `Password.check_eq`: what storing leaves behind, and when
  checking says that the password is correct;
* `correct_after_store`: **a password that was stored is correct from then on**, also if
  white space is added around the stored hash;
* `store_fails_without_log`: that storing succeeds depends on the log.
-/
import RegisterMachine.Proofs.Invocation.Logging
import RegisterMachine.Proofs.Invocation.Precedence
import RegisterMachine.Proofs.Password.RoundTrip

namespace RegisterMachine

open FileSystem (Lengthened)

variable {fs : FileSystem} {w : World}

/-! ### Passwords on the input -/

namespace Password

/-- The first line of an input is the password, with any number of carriage returns
behind it; the password itself does not end with one. -/
def Typed (password input : Bytes) : Prop :=
  10 ∉ password ∧ password.getLast? ≠ some 13
    ∧ ∃ returns rest, input = password ++ List.replicate returns 13 ++ rest
      ∧ (rest = [] ∨ ∃ later, rest = 10 :: later)

variable {password input salt : Bytes} {settings : Settings} {cost : Int}

/-- What is left of the first line without the line ends behind it is the password. -/
lemma firstLine_of_typed (h : Typed password input) (hne : password ≠ []) :
    firstLine input = .ok password := by
  obtain ⟨hfeed, hlast, returns, rest, rfl, hrest⟩ := h
  have hline : (password ++ List.replicate returns 13 ++ rest).takeWhile (· ≠ 10)
      = password ++ List.replicate returns 13 := by
    have hall : ∀ c ∈ password ++ List.replicate returns 13, decide (c ≠ 10) = true := by
      intro c hc
      rcases List.mem_append.mp hc with hc | hc
      · rw [decide_eq_true_eq]
        rintro rfl
        exact hfeed hc
      · rw [(List.mem_replicate.mp hc).2]
        decide
    rw [List.takeWhile_append_of_pos hall]
    obtain rfl | ⟨later, rfl⟩ := hrest
    · simp
    · simp
  have hreturns : ∀ c ∈ (List.replicate returns (13 : UInt8)).reverse, isLineEnd c = true := by
    intro c hc
    rw [List.mem_reverse] at hc
    rw [(List.mem_replicate.mp hc).2]
    decide
  have hstop : password.reverse.dropWhile isLineEnd = password.reverse := by
    obtain ⟨front, c, rfl⟩ := (List.eq_nil_or_concat' password).resolve_left hne
    have hc : isLineEnd c = false := by
      have hten : c ≠ 10 := fun heq => hfeed (by simp [heq])
      have hthirteen : c ≠ 13 := by simpa using hlast
      simp [isLineEnd, hten, hthirteen]
    simp [hc]
  rw [firstLine, if_neg (by simp [hne]), hline, List.reverse_append,
    List.dropWhile_append_of_pos hreturns, hstop, List.reverse_reverse]

/-- **Storing a password** succeeds where its file can be written.  What follows the stored
hash can only be what was logged. -/
lemma exists_store (hfs : w.files.failures = [])
    (hway : w.files.obstacle? (Path.resolve settings.hashFile) = none)
    (hfile : w.files.get? (Path.resolve settings.hashFile) ≠ some .directory)
    (htyped : Typed password input) (hne : password ≠ [])
    (hlong : password.length ≤ PasswordHash.longestPassword)
    (hcost : cost ≤ PasswordHash.greatestCost) (hsalt : salt.length = 16) :
    ∃ w' m text x, store settings cost input salt w = (.ok (), w')
      ∧ w'.files.failures = []
      ∧ w'.files.obstacle? (Path.resolve settings.hashFile) = none
      ∧ w'.files.get? (Path.resolve settings.hashFile) = some (.file m (text ++ x))
      ∧ ∀ (path : Bytes) (spaces : List Char) (y : Bytes),
        (∀ c ∈ spaces, Blank.isBlank c = true) →
        PasswordFile.judge path password (Utf8.encode spaces ++ (text ++ y)) = .ok true := by
  have hpath : settings.hashFile ≠ [] := by
    intro hnil
    rw [hnil] at hfile
    exact hfile rfl
  obtain ⟨text, hhash, hjudge⟩ := PasswordFile.exists_hash hne hlong hcost hsalt
  obtain ⟨m, fs₁, hwrite, hconfined, hget⟩ :=
    FileSystem.exists_write hfs hpath hway hfile PasswordFile.mode text
  have hway₁ : fs₁.obstacle? (Path.resolve settings.hashFile) = none := by
    rw [← hway]
    refine FileSystem.obstacle?_congr fun q hq => ?_
    rw [hconfined.get?_eq q]
    rw [List.mem_singleton]
    rintro rfl
    exact absurd (FileSystem.obstacle?_eq_none_iff.mp hway _ hq) hfile
  have hlogged := World.lengthened_log (w := w.withFiles fs₁)
    (hconfined.failures.trans hfs) (storedRecord settings.hashFile cost)
  obtain ⟨x, hx⟩ := hlogged.file _ m text hget
  refine ⟨_, m, text, x, ?_, hlogged.failures, hlogged.obstacle?_eq_none hway₁, hx, hjudge⟩
  rw [store, firstLine_of_typed htyped hne]
  dsimp only
  rw [PasswordFile.write, hhash]
  dsimp only
  rw [hwrite]

/-- **Checking a password** says that it is correct if the stored text is judged so. -/
lemma check_eq {m : Nat} {data : Bytes} (hfs : w.files.failures = [])
    (hway : w.files.obstacle? (Path.resolve settings.hashFile) = none)
    (hget : w.files.get? (Path.resolve settings.hashFile) = some (.file m data))
    (htyped : Typed password input) (hne : password ≠ [])
    (hjudge : PasswordFile.judge settings.hashFile password data = .ok true) :
    check settings input w
      = (.ok (), (w.log (checkedRecord settings.hashFile true)).print (utf8 "correct\n")) := by
  have hpath : settings.hashFile ≠ [] := by
    intro hnil
    rw [hnil] at hget
    exact absurd (show some Entry.directory = _ from hget) (by simp)
  have hread : w.files.read settings.hashFile = (.ok data, w.files) := by
    rw [FileSystem.read_eq hfs, FileSystem.locate_of_get? hpath hway hget]
  rw [check, firstLine_of_typed htyped hne]
  dsimp only
  rw [PasswordFile.verify_of_read hread, hjudge]
  rfl

end Password

/-! ### Calls -/

/-- The cost that a call asks for. -/
def Plan.cost (p : Plan) : Int :=
  (Numeral.readInteger .literal (p.flags.value .cost)).toOption.getD 0

/-- No failure is due, the call comes to `p`, a command that takes no words and is given
none, and its log can be set up. -/
structure Call.Prepared (c : Call) (fs : FileSystem) (p : Plan) : Prop where
  failures : fs.failures = []
  intent : c.intent? fs = some p
  noHelp : p.flags.wantsHelp = false
  noWords : p.flags.words = []
  setUp : (p.setUp fs).1 = .ok ()

namespace Call.Prepared

variable {c : Call} {p : Plan}

/-- Such a call does what its command is for, once the log has been set up. -/
lemma perform_eq (h : c.Prepared fs p) (hrunnable : p.command.isRunnable = true)
    (hnone : p.command.checkArguments [] = .ok ()) :
    c.perform fs = Invocation.finish
      (Invocation.runCommand c.surroundings p.settings p.flags p.command (p.setUp fs).2).1
      (Invocation.runCommand c.surroundings p.settings p.flags p.command (p.setUp fs).2).2 :=
  Call.perform_of_setUp h.failures h.intent h.noHelp hrunnable (by rw [h.noWords, hnone]) h.setUp

/-- Until then files have at most become longer, and nothing has been printed. -/
lemma lengthened (h : c.Prepared fs p) :
    Lengthened fs (p.setUp fs).2.files ∧ (p.setUp fs).2.output = [] := by
  have hlogged : World.Logged (fun _ => True) { files := fs } (p.setUp fs).2 :=
    Invocation.logged_setUpLogging (fun _ _ _ _ => trivial) (fun _ => trivial) p.file p.command
      p.flags.words
  exact ⟨Invocation.lengthened_setUpLogging (w := { files := fs }) h.failures _ _ _ _,
    hlogged.output_eq⟩

end Call.Prepared

/-- **A password that was stored is correct from then on.**  Where the log can be set up and
the hash file can be written, storing a password of one to 72 bytes succeeds, for every
salt and every cost that is not too high.  From then on, whatever else has been done to the
files, a check of the same password says so and succeeds if the hash file holds what was
stored, with any white space before and behind it, and if the log can be set up. -/
theorem correct_after_store {c : Call} {p : Plan} {password : Bytes} (h : c.Prepared fs p)
    (hcommand : p.command = .passwdHash)
    (hway : fs.obstacle? (Path.resolve p.settings.hashFile) = none)
    (hfile : fs.get? (Path.resolve p.settings.hashFile) ≠ some .directory)
    (hcost : p.cost ≤ PasswordHash.greatestCost) (hsalt : c.surroundings.salt.length = 16)
    (htyped : Password.Typed password c.surroundings.input) (hlength : 1 ≤ password.length)
    (hlong : password.length ≤ 72) :
    (c.perform fs).status = 0
      ∧ (c.perform fs).files.failures = []
      ∧ (c.perform fs).files.obstacle? (Path.resolve p.settings.hashFile) = none
      ∧ ∃ m stored,
        (c.perform fs).files.get? (Path.resolve p.settings.hashFile) = some (.file m stored)
          ∧ ∀ (c' : Call) (fs' : FileSystem) (p' : Plan) (m' : Nat) (before behind : List Char),
            c'.Prepared fs' p' → p'.command = .passwdCheck →
            Path.resolve p'.settings.hashFile = Path.resolve p.settings.hashFile →
            fs'.obstacle? (Path.resolve p.settings.hashFile) = none →
            fs'.get? (Path.resolve p.settings.hashFile)
              = some (.file m' (Utf8.encode before ++ stored ++ Utf8.encode behind)) →
            (∀ s ∈ before ++ behind, Blank.isBlank s = true) →
            Password.Typed password c'.surroundings.input →
            (c'.perform fs').status = 0 ∧ (c'.perform fs').output = utf8 "correct\n" := by
  have hne : password ≠ [] := by
    rintro rfl
    exact absurd hlength (by simp)
  obtain ⟨hfiles, -⟩ := h.lengthened
  obtain ⟨w', m, text, x, hstore, hfailures, hfree, hget, hjudge⟩ :=
    Password.exists_store hfiles.failures (hfiles.obstacle?_eq_none hway)
      (fun hdirectory => hfile ((hfiles.directory_iff _).mp hdirectory)) htyped hne hlong hcost
      hsalt
  have hperform : c.perform fs = Invocation.finish (.ok ()) w' := by
    rw [h.perform_eq (by rw [hcommand]; rfl) (by rw [hcommand]; rfl), hcommand,
      show Invocation.runCommand c.surroundings p.settings p.flags .passwdHash (p.setUp fs).2
        = (.ok (), w') from hstore]
  rw [hperform]
  refine ⟨rfl, hfailures, hfree, m, text ++ x, hget, ?_⟩
  intro c' fs' p' m' before behind h' hcommand' hplace hway' hget' hspaces htyped'
  obtain ⟨hfiles', houtput⟩ := h'.lengthened
  obtain ⟨y, hy⟩ := hfiles'.file _ _ _ hget'
  rw [← hplace] at hway' hy
  have hright : PasswordFile.judge p'.settings.hashFile password
      (Utf8.encode before ++ (text ++ x) ++ Utf8.encode behind ++ y) = .ok true := by
    have hsplit : Utf8.encode before ++ (text ++ x) ++ Utf8.encode behind ++ y
        = Utf8.encode before ++ (text ++ (x ++ Utf8.encode behind ++ y)) := by
      simp only [List.append_assoc]
    rw [hsplit]
    exact hjudge _ before _ fun s hs => hspaces s (List.mem_append_left _ hs)
  have hcheck := Password.check_eq hfiles'.failures (hfiles'.obstacle?_eq_none hway') hy htyped' hne
    hright
  rw [h'.perform_eq (by rw [hcommand']; rfl) (by rw [hcommand']; rfl), hcommand',
    show Invocation.runCommand c'.surroundings p'.settings p'.flags .passwdCheck (p'.setUp fs').2
      = _ from hcheck]
  refine ⟨rfl, ?_⟩
  rw [Invocation.finish]
  dsimp only
  rw [World.print]
  dsimp only
  rw [World.output_log, houtput, List.nil_append]

/-- A password that is stored while the hash file is the log, too, so that a record follows
the hash, and that is checked when white space of several kinds has been added. -/
theorem correct_after_store_in_log :
    let quiet : Settings :=
      { registersDirectory := utf8 "/r", logLevel := utf8 "info", logFile := []
        hashFile := utf8 "/d/p", colour := utf8 "never" }
    let settings : Settings := { quiet with logFile := utf8 "/d/p" }
    let place : Location := [utf8 "d", utf8 "p"]
    let c : Call :=
      { words := settings.spelled ++ [utf8 "passwd", utf8 "hash"]
        surroundings := { input := utf8 "secret\r\r\nrest", salt := List.replicate 16 7 } }
    let c' : Call :=
      { words := quiet.spelled ++ [utf8 "passwd", utf8 "check"]
        surroundings := { input := utf8 "secret" } }
    let fs : FileSystem := { entries := [([utf8 "d"], .directory)] }
    let o := c.perform fs
    o.status = 0 ∧ ∃ m stored, o.files.get? place = some (.file m stored)
      ∧ let o' := c'.perform (o.files.put place
          (.file m (Utf8.encode [' ', Char.ofNat 0x2003] ++ stored
            ++ Utf8.encode ['\n', Char.ofNat 0x3000])))
        o'.status = 0 ∧ o'.output = utf8 "correct\n" := by
  intro quiet settings place c c' fs o
  have hintent (s : Settings) (surroundings : Surroundings) (word : Bytes) (command : Command)
      (hfind : Command.find [utf8 "passwd", word] = (command, [])) (fs : FileSystem) :
      let c : Call := { surroundings, words := s.spelled ++ [utf8 "passwd", word] }
      c.intent? fs = some ⟨command, ⟨s.given, []⟩, (c.settingsFile ⟨s.given, []⟩ fs).1,
        { s with display := surroundings.display }⟩ :=
    Call.intent?_spelled rfl hfind (Flag.parse_words _ (by simp)) fs
  have hlevel : Log.readLevel (Blank.trim (utf8 "info")) = .ok 0 := by decide
  have hprepared : c.Prepared fs
      ⟨.passwdHash, ⟨settings.given, []⟩, (c.settingsFile ⟨settings.given, []⟩ fs).1, settings⟩ :=
    ⟨rfl, hintent _ _ _ _ (by decide) fs, by decide, rfl, by decide +kernel⟩
  have htyped : Password.Typed (utf8 "secret") c.surroundings.input :=
    ⟨by decide, by decide, 2, utf8 "\nrest", by decide, .inr ⟨utf8 "rest", by decide⟩⟩
  have htyped' : Password.Typed (utf8 "secret") c'.surroundings.input :=
    ⟨by decide, by decide, 0, [], by decide, .inl rfl⟩
  have hspaces : ∀ s ∈ [' ', Char.ofNat 0x2003] ++ ['\n', Char.ofNat 0x3000],
      Blank.isBlank s = true := List.all_eq_true.mp (by decide)
  obtain ⟨hstatus, hfailures, hway, m, stored, hget, hcorrect⟩ :=
    correct_after_store hprepared rfl (by decide) (by decide) (by decide +kernel) rfl htyped
      (by decide) (by decide)
  have hplace : Path.resolve settings.hashFile = place := by decide
  rw [hplace] at hway hget hcorrect
  refine ⟨hstatus, m, stored, hget, ?_⟩
  intro o'
  have hroot : place ≠ [] := by decide
  have hhelp : Flag.Parsed.wantsHelp ⟨quiet.given, []⟩ = false := by decide
  refine hcorrect c' _ ⟨.passwdCheck, ⟨quiet.given, []⟩, (c'.settingsFile ⟨quiet.given, []⟩ _).1,
      quiet⟩ m [' ', Char.ofNat 0x2003] ['\n', Char.ofNat 0x3000]
    ⟨hfailures, hintent _ _ _ _ (by decide) _, hhelp, rfl, ?_⟩ rfl hplace ?_
    (FileSystem.get?_put_self hroot _) hspaces htyped'
  · rw [Plan.setUp, Invocation.setUpLogging, hlevel]
    rfl
  · rw [← hway]
    refine FileSystem.obstacle?_congr fun q hq => ?_
    have hne : q ≠ place := by
      rintro rfl
      exact absurd hq (by decide)
    rw [FileSystem.get?_put_of_ne hne]

/-- **That storing succeeds depends on the log**: where the file with the settings asks for
a level that there is not, it fails, though the hash file could be written. -/
theorem store_fails_without_log :
    let c : Call :=
      { words := [utf8 "passwd", utf8 "hash", Flag.spelling .config (utf8 "/c.json")]
        surroundings := { input := utf8 "secret\n", salt := List.replicate 16 7 } }
    let fs : FileSystem :=
      { entries := [([utf8 "c.json"],
          .file 0o644 (utf8 "\x7b\"log\":\x7b\"level\":\"loud\"\x7d\x7d"))] }
    (∃ p, c.intent? fs = some p ∧ p.command = .passwdHash ∧ p.flags.wantsHelp = false
        ∧ p.flags.words = [] ∧ fs.obstacle? (Path.resolve p.settings.hashFile) = none
        ∧ fs.get? (Path.resolve p.settings.hashFile) = none
        ∧ p.cost ≤ PasswordHash.greatestCost)
      ∧ fs.failures = [] ∧ c.surroundings.salt.length = 16
      ∧ Password.Typed (utf8 "secret") c.surroundings.input
      ∧ (c.perform fs).status = 1 := by
  intro c fs
  let flags : Flag.Parsed := ⟨[(.config, utf8 "/c.json")], []⟩
  have hparse : Flag.parse Command.passwdHash.flags [Flag.spelling .config (utf8 "/c.json")]
      = .ok flags :=
    Flag.parse_spelling (by decide) rfl _ (Flag.parse_words _ (by simp))
  have hintent : c.intent? fs
      = some ⟨.passwdHash, flags, (c.settingsFile flags fs).1, c.settings flags fs⟩ := by
    rw [Call.intent?, show Invocation.words c.words fs = (c.words, fs) from rfl,
      show Command.find c.words = (.passwdHash, [Flag.spelling .config (utf8 "/c.json")]) by
        decide +kernel]
    dsimp only
    rw [hparse]
    rfl
  refine ⟨⟨_, hintent, rfl, by decide, rfl, ?_, ?_, ?_⟩, rfl, rfl,
    ⟨by decide, by decide, 0, utf8 "\n", by decide, .inr ⟨[], by decide⟩⟩, ?_⟩
  · decide +kernel
  · decide +kernel
  · decide +kernel
  · rw [Call.perform_of_intent rfl hintent]
    decide +kernel

end RegisterMachine
