/-
A printed table, stored back.

* `Call.Shows`: a call prints the registers as a table without colours, and
  `Call.Shows.outcome`: that is the table of the stored bank;
* `Call.GivesBack`: a call gives a row of a table back to a store, and
  `Call.GivesBack.stored`: this changes the register of the row;
* `Replays`: calls give rows back one after another, and `replays_spelled`: as those do whose
  words take a name and a value from each row;
* `Replays.stored`: each of them succeeds, and in the end the registers of their rows have the
  words of the table;
* `stored_back_of_shown`: **what is printed can be stored back**, row by row or as a whole;
* `not_stored_back_over_directory`: a directory must not stand where a register is written
  first, nor may the path of the store be empty.
-/
import RegisterMachine.Proofs.Command.Table
import RegisterMachine.Proofs.Invocation.Documentation
import RegisterMachine.Proofs.Invocation.Storing

namespace RegisterMachine

open Registers (Offers cells hexadecimalWord)
open Store (Holds Loadable Unblocked)

variable {fs : FileSystem} {c : Call} {p : Plan} {loc : Location} {b b' : Bank} {r : Fin 16}
  {printed : Bytes}

/-! ### Printing -/

/-- No failure is due and no file is held open, the call prints the registers as a table
without colours, and its log can be set up. -/
structure Call.Shows (c : Call) (fs : FileSystem) (p : Plan) : Prop where
  failures : fs.failures = []
  closed : fs.appender = none
  intent : c.intent? fs = some p
  command : p.command = .registersShow
  noHelp : p.flags.wantsHelp = false
  noWords : p.flags.words = []
  plain : Run.palette p.settings = .ok .plain
  table : Registers.Format.ofName? (p.flags.value .format) = some .table
  setUp : (p.setUp fs).1 = .ok ()

namespace Call.Shows

lemma perform_eq (h : c.Shows fs p) :
    c.perform fs
      = Invocation.finish (Registers.show p.settings (p.flags.value .format) (p.setUp fs).2).1
        (Registers.show p.settings (p.flags.value .format) (p.setUp fs).2).2 := by
  have hrun : Invocation.runCommand c.surroundings p.settings p.flags p.command (p.setUp fs).2
      = Registers.show p.settings (p.flags.value .format) (p.setUp fs).2 := by
    unfold Invocation.runCommand
    rw [h.command]
  rw [Call.perform_of_setUp h.failures h.intent h.noHelp (by rw [h.command]; rfl)
    (by rw [h.command, h.noWords]; rfl) h.setUp, hrun]

/-- The table of the stored bank is printed. -/
lemma outcome (h : c.Shows fs p) (hapart : p.LogApart)
    (hload : (Store.load p.settings.registersDirectory (p.setUp fs).2.files).1.2 = []) :
    (c.perform fs).status = 0
      ∧ (c.perform fs).output
        = Registers.table .plain (Store.load p.settings.registersDirectory fs).1.1 := by
  have hsame := Plan.load_fst h.failures h.closed hapart hload
  have hloaded : (Store.load p.settings.registersDirectory (p.setUp fs).2.files).1
      = ((Store.load p.settings.registersDirectory fs).1.1, []) :=
    Prod.ext (by rw [hsame]) hload
  have hbank := Run.load_of_nil hloaded
  have houtput := (Run.output_load p.settings.registersDirectory _).trans (p.output_setUp fs)
  rw [h.perform_eq, Registers.show, h.plain]
  dsimp only
  generalize Run.load p.settings.registersDirectory (p.setUp fs).2 = x at hbank houtput ⊢
  obtain ⟨result, w⟩ := x
  obtain rfl : result = .ok _ := hbank
  dsimp only at houtput ⊢
  rw [h.table, Invocation.finish]
  refine ⟨Outcome.status_of_none rfl, ?_⟩
  dsimp only
  rw [World.print, houtput, List.nil_append, Registers.render]

end Call.Shows

/-- The words `registers show` ask for the table, behind words that give all settings and no
log. -/
lemma Call.shows_spelled {s : Settings} {level : Int} (hfs : fs.failures = [])
    (hclosed : fs.appender = none) (hlevel : Log.readLevel (Blank.trim s.logLevel) = .ok level)
    (hlog : s.logFile = []) (surroundings : Surroundings)
    (hplain : Run.palette { s with display := surroundings.display } = .ok .plain) :
    ∃ p : Plan, p.settings = { s with display := surroundings.display }
      ∧ Call.Shows ⟨surroundings, s.spelled ++ [utf8 "registers", utf8 "show"]⟩ fs p := by
  have hparse : Flag.parse Command.registersShow.flags [] = .ok { words := [] } :=
    Flag.parse_words _ (by simp)
  refine ⟨_, ?_, hfs, hclosed, Call.intent?_spelled rfl (by decide) hparse fs, rfl, rfl, rfl,
    hplain, rfl, ?_⟩
  · rfl
  · rw [Plan.setUp, Invocation.setUpLogging, hlevel, Invocation.openLog, hlog]
    rfl

/-! ### Storing back -/

/-- The call sets the register that the row `r` of a table names to one of the values of this
row, in the store at `loc`, and its log is none of the places of this store. -/
structure Call.GivesBack (c : Call) (fs : FileSystem) (p : Plan) (printed : Bytes) (r : Fin 16)
    (loc : Location) : Prop where
  assigns : ∃ token text, c.Assigns fs p token text ∧ Offers printed r token text
  keeps : p.Keeps loc

/-- The calls give rows of a table back one after another, each to the files that it finds,
and the path of the store is not empty. -/
def Replays (printed : Bytes) (loc : Location) (fs : FileSystem) : List (Fin 16 × Call) → Prop
  | [] => True
  | (r, c) :: rest =>
    (∃ p, c.GivesBack fs p printed r loc ∧ p.settings.registersDirectory ≠ [])
      ∧ Replays printed loc (c.perform fs).files rest

/-- The outcomes of calls one after another. -/
def outcomes (fs : FileSystem) : List Call → List Outcome
  | [] => []
  | c :: rest => c.perform fs :: outcomes (c.perform fs).files rest

/-- The words of a bank with one word of another. -/
lemma Bank.word_put_word (b b' : Bank) (r r' : Fin 16) :
    (b'.put r (b.word r).toNat).word r' = if r' = r then b.word r' else b'.word r' := by
  have hiff : ((r'.val : Int) = r.val) ↔ r' = r := by
    rw [Fin.ext_iff]
    exact_mod_cast Iff.rfl
  rw [Bank.word_put, BitVec.ofNat_toNat, BitVec.setWidth_eq]
  by_cases heq : r' = r
  · rw [if_pos (hiff.mpr heq), if_pos heq, heq]
  · rw [if_neg (hiff.not.mpr heq), if_neg heq]

/-- **A row that is given back changes the register of the row**, to its word in the table. -/
lemma Call.GivesBack.stored (h : c.GivesBack fs p (Registers.table .plain b) r loc)
    (hne : p.settings.registersDirectory ≠ []) (hb : Holds loc b' fs) :
    (c.perform fs).status = 0 ∧ Holds loc (b'.put r (b.word r).toNat) (c.perform fs).files := by
  obtain ⟨token, text, hassigns, hoffers⟩ := h.assigns
  exact hassigns.stored h.keeps hne hb (Registers.assignment_of_offers hoffers)

lemma Call.GivesBack.of_status (h : c.GivesBack fs p printed r loc)
    (hstatus : (c.perform fs).status = 0) :
    p.settings.registersDirectory ≠ [] ∧ Unblocked loc fs := by
  obtain ⟨token, text, hassigns, -⟩ := h.assigns
  exact hassigns.of_status h.keeps hstatus

/-- **Rows that are given back change the registers of the rows.**  Which of them comes first
makes no difference. -/
lemma Replays.stored {rows : List (Fin 16 × Call)}
    (h : Replays (Registers.table .plain b) loc fs rows) (hb : Holds loc b' fs) :
    (∀ o ∈ outcomes fs (rows.map Prod.snd), o.status = 0)
      ∧ ∃ b'', Holds loc b'' (filesAfter fs (rows.map Prod.snd))
        ∧ ∀ r, (r ∈ rows.map Prod.fst → b''.word r = b.word r)
          ∧ (r ∉ rows.map Prod.fst → b''.word r = b'.word r) := by
  -- The induction goes along the calls.  A register once set keeps its word, since later
  -- calls for the same row give the same word.
  induction rows generalizing fs b' with
  | nil => exact ⟨by simp [outcomes], b', hb, by simp⟩
  | cons x rows ih =>
      obtain ⟨r, c⟩ := x
      obtain ⟨⟨p, hgives, hne⟩, hrows⟩ := h
      obtain ⟨hstatus, hheld⟩ := hgives.stored hne hb
      obtain ⟨hrest, b'', hafter, hwords⟩ := ih hrows hheld
      refine ⟨?_, b'', hafter, fun r' => ?_⟩
      · rw [List.map_cons, outcomes]
        exact List.forall_mem_cons.mpr ⟨hstatus, hrest⟩
      · obtain ⟨hgiven, hother⟩ := hwords r'
        rw [Bank.word_put_word] at hother
        rw [List.map_cons, List.mem_cons, not_or]
        refine ⟨fun hmem => ?_, fun hnone => ?_⟩
        · by_cases hlater : r' ∈ rows.map Prod.fst
          · exact hgiven hlater
          · rw [hother hlater, if_pos (hmem.resolve_right hlater)]
        · rw [hother hnone.2, if_neg hnone.1]

/-- A table can be given back in any order of the rows, with either value of each, by words
that give all settings and no log. -/
lemma replays_spelled {s : Settings} {level : Int}
    (hlevel : Log.readLevel (Blank.trim s.logLevel) = .ok level) (hlog : s.logFile = [])
    (hne : s.registersDirectory ≠ []) (hclosed : fs.appender = none)
    (hb : Holds (Path.resolve s.registersDirectory) b' fs) {rows : List (Fin 16 × Call)}
    (hrows : ∀ x ∈ rows, ∃ text,
      x.2.words = s.spelled ++ [utf8 "registers", utf8 "set", Register.name x.1, text]
        ∧ (text = decimal (b.word x.1).toNat ∨ text = hexadecimalWord (b.word x.1))) :
    Replays (Registers.table .plain b) (Path.resolve s.registersDirectory) fs rows := by
  induction rows generalizing fs b' with
  | nil => trivial
  | cons x rows ih =>
      obtain ⟨r, surroundings, words⟩ := x
      obtain ⟨⟨text, hwords, htext⟩, hrest⟩ := List.forall_mem_cons.mp hrows
      dsimp only at hwords htext
      subst hwords
      have hhead : text.head? ≠ some 45 := by
        obtain rfl | rfl := htext
        · intro hdash
          have hdigit := of_mem_decimal (List.mem_of_mem_head? hdash)
          exact absurd hdigit (by decide)
        · rw [Registers.hexadecimalWord_eq]
          simp
      have hname : (Register.name r).head? ≠ some 45 :=
        fun hdash => absurd (Option.some.inj hdash) (by decide)
      obtain ⟨p, hp, hassigns⟩ := Call.assigns_spelled hb.orderly.safe.failures hclosed hlevel hlog
        hname hhead surroundings
      have hgives : Call.GivesBack _ fs p (Registers.table .plain b) r
          (Path.resolve s.registersDirectory) :=
        ⟨⟨_, _, hassigns, _, _, Registers.getElem?_cells_table b r, htext⟩,
          Plan.keeps_of_no_log (by rw [hp]) (by rw [hp, hlog])⟩
      have hnamed : p.settings.registersDirectory ≠ [] := by rwa [hp]
      exact ⟨⟨p, hgives, hnamed⟩, ih (Call.appender_perform _ _) (hgives.stored hnamed hb).2 hrest⟩

/-! ### The round trip -/

/-- **What is printed can be stored back.**  Where a bank can be loaded once the log has
been set up, a table without colours has a row for each register, with its name and its word
in two notations.  On any store that can be loaded, setting the register of that name to
either of them succeeds and makes it equal to that word, and the other registers stay as they
are, unless the path of the store is empty or a directory stands where a register is written
first.  Once all rows have been given back, in any order and each in either notation, the
store holds the whole bank. -/
theorem stored_back_of_shown (h : c.Shows fs p) (hapart : p.LogApart)
    (hload : (Store.load p.settings.registersDirectory (p.setUp fs).2.files).1.2 = []) :
    let b := (Store.load p.settings.registersDirectory fs).1.1
    let printed := (c.perform fs).output
    (c.perform fs).status = 0
      ∧ (cells printed).length = 16
      ∧ (∀ r : Fin 16, (cells printed)[r.val]?
        = some [Register.name r.val, decimal (b.word r).toNat, hexadecimalWord (b.word r)])
      ∧ ∀ d fs', Loadable d fs' →
        (∀ r (c' : Call) p', c'.GivesBack fs' p' printed r (Path.resolve d) →
          ((c'.perform fs').status = 0
              ↔ p'.settings.registersDirectory ≠ [] ∧ Unblocked (Path.resolve d) fs')
            ∧ ((c'.perform fs').status = 0 →
              ∃ b', Store.load d (c'.perform fs').files = ((b', []), (c'.perform fs').files)
                ∧ b'.word r = b.word r
                ∧ ∀ r' ≠ r, b'.word r' = (Store.load d fs').1.1.word r'))
        ∧ ∀ rows, Replays printed (Path.resolve d) fs' rows → Unblocked (Path.resolve d) fs' →
          (∀ o ∈ outcomes fs' (rows.map Prod.snd), o.status = 0)
            ∧ ((∀ r, r ∈ rows.map Prod.fst) →
              Store.load d (filesAfter fs' (rows.map Prod.snd))
                = ((b, []), filesAfter fs' (rows.map Prod.snd))) := by
  obtain ⟨hstatus, houtput⟩ := h.outcome hapart hload
  dsimp only
  rw [houtput]
  generalize (Store.load p.settings.registersDirectory fs).1.1 = b
  refine ⟨hstatus, Registers.length_cells_table b, Registers.getElem?_cells_table b,
    fun d fs' hloadable => ⟨fun r c' p' hgives => ?_, fun rows hrows hunblocked => ?_⟩⟩
  · refine ⟨⟨hgives.of_status, fun hmet => ?_⟩, fun hset => ?_⟩
    · exact (hgives.stored hmet.1 (hloadable.holds hmet.2)).1
    obtain ⟨hne, hunblocked⟩ := hgives.of_status hset
    obtain ⟨-, hheld⟩ := hgives.stored hne (hloadable.holds hunblocked)
    refine ⟨_, hheld.load rfl, ?_, fun r' hr' => ?_⟩
    · rw [Bank.word_put_word, if_pos rfl]
    · rw [Bank.word_put_word, if_neg hr']
  · obtain ⟨hset, b', hheld, hwords⟩ := hrows.stored (hloadable.holds hunblocked)
    refine ⟨hset, fun hall => ?_⟩
    have hbank : b' = b := by
      apply Bank.ext_word
      intro r
      exact (hwords r).1 (hall r)
    rw [hheld.load rfl, hbank]

/-- A bank is printed, and stored back in another place over another bank, from the last row to
the first and in base sixteen. -/
theorem stored_back_in_reverse :
    let settings (d : Bytes) : Settings :=
      { registersDirectory := d, logLevel := utf8 "error", logFile := []
        hashFile := utf8 "/p", colour := utf8 "never" }
    let shown : Call :=
      { words := (settings (utf8 "/r")).spelled ++ [utf8 "registers", utf8 "show"] }
    let fs : FileSystem :=
      { entries := [([utf8 "r"], .directory),
          ([utf8 "r", utf8 "x1.bin"], .file 0o644 [0, 0, 0, 8])] }
    let fs' : FileSystem :=
      { entries := [([utf8 "s"], .directory),
          ([utf8 "s", utf8 "x2.bin"], .file 0o644 [0, 0, 0, 5])] }
    ∃ b rows, b.word 1 = 8#32 ∧ Store.load (utf8 "/r") fs = ((b, []), fs)
      ∧ Replays (shown.perform fs).output [utf8 "s"] fs' rows
      ∧ rows.map Prod.fst = (List.finRange 16).reverse
      ∧ Store.load (utf8 "/s") (filesAfter fs' (rows.map Prod.snd))
        = ((b, []), filesAfter fs' (rows.map Prod.snd)) := by
  intro settings shown fs fs'
  let b := Bank.zero.update 1 8#32
  have hb : Store.load (utf8 "/r") fs = ((b, []), fs) := by decide +kernel
  have hlevel : Log.readLevel (Blank.trim (utf8 "error")) = .ok 8 := by decide +kernel
  have hloadable : Loadable (utf8 "/r") fs :=
    ⟨rfl, rfl, FileSystem.rooted_of_entries (by decide), congrArg (fun x => x.1.2) hb⟩
  have hloadable' : Loadable (utf8 "/s") fs' :=
    ⟨rfl, rfl, FileSystem.rooted_of_entries (by decide), by decide +kernel⟩
  have hunblocked' : Unblocked [utf8 "s"] fs' := by
    unfold Unblocked
    decide
  obtain ⟨p, hp, hshows⟩ : ∃ p : Plan, p.settings = settings (utf8 "/r") ∧ shown.Shows fs p :=
    Call.shows_spelled (s := settings (utf8 "/r")) rfl rfl hlevel rfl {} (by decide)
  have hkeeps : p.Keeps [utf8 "r"] :=
    Plan.keeps_of_no_log (by rw [hp]; decide) (by rw [hp])
  have hload := hkeeps.load_setUp hloadable.safe hloadable.legible
  obtain ⟨-, -, -, hback⟩ := stored_back_of_shown hshows hkeeps.logApart hload
  have hprinted := (hshows.outcome hkeeps.logApart hload).2
  have hdirectory : p.settings.registersDirectory = utf8 "/r" := by rw [hp]
  rw [hdirectory, hb] at hback hprinted
  let rows : List (Fin 16 × Call) := (List.finRange 16).reverse.map fun r =>
    (r, { words := (settings (utf8 "/s")).spelled
      ++ [utf8 "registers", utf8 "set", Register.name r, hexadecimalWord (b.word r)] })
  have hreplays : Replays (shown.perform fs).output [utf8 "s"] fs' rows := by
    rw [hprinted]
    exact replays_spelled (s := settings (utf8 "/s")) hlevel rfl (by decide) rfl
      (hloadable'.holds hunblocked') (by simp [rows])
  have hrows : rows.map Prod.fst = (List.finRange 16).reverse := by
    simp [rows, Function.comp_def]
  refine ⟨b, rows, by decide, hb, hreplays, hrows, ?_⟩
  refine ((hback (utf8 "/s") fs' hloadable').2 rows hreplays hunblocked').2 fun r => ?_
  simp [hrows]

/-- A directory stands where the register `x3` is written first: its row is printed, but it
cannot be stored back.  Nor can it where the path of the store is empty. -/
theorem not_stored_back_over_directory :
    let settings (d : Bytes) : Settings :=
      { registersDirectory := d, logLevel := utf8 "error", logFile := []
        hashFile := utf8 "/p", colour := utf8 "never" }
    let shown (d : Bytes) : Call :=
      { words := (settings d).spelled ++ [utf8 "registers", utf8 "show"] }
    let back (d : Bytes) : Call :=
      { words := (settings d).spelled ++ [utf8 "registers", utf8 "set", utf8 "x3", utf8 "0"] }
    let fs : FileSystem :=
      { entries := [([utf8 "r"], .directory), ([utf8 "r", utf8 "x3.bin.tmp"], .directory)] }
    let unstored (d : Bytes) : Prop := Loadable d fs
      ∧ (∃ p, (shown d).Shows fs p ∧ p.settings.registersDirectory = d ∧ p.settings.logFile = [])
      ∧ ((shown d).perform fs).status = 0
      ∧ (∃ p, (back d).GivesBack fs p ((shown d).perform fs).output 3 (Path.resolve d))
      ∧ ((back d).perform fs).status ≠ 0
    unstored (utf8 "/r") ∧ unstored [] := by
  intro settings shown back fs unstored
  have hlevel : Log.readLevel (Blank.trim (utf8 "error")) = .ok 8 := by decide +kernel
  have hplain (d : Bytes) : Run.palette (settings d) = .ok .plain := rfl
  have hunstored {d : Bytes} (hb : Store.load d fs = ((Bank.zero, []), fs))
      (hblocked : ¬ (d ≠ [] ∧ Unblocked (Path.resolve d) fs)) : unstored d := by
    have hloadable : Loadable d fs :=
      ⟨rfl, rfl, FileSystem.rooted_of_entries (by decide), congrArg (fun x => x.1.2) hb⟩
    have hkeeps {p : Plan} (hp : p.settings = settings d) : p.Keeps (Path.resolve d) :=
      Plan.keeps_of_no_log (by rw [hp]) (by rw [hp])
    obtain ⟨p, hp, hshows⟩ : ∃ p : Plan, p.settings = settings d ∧ (shown d).Shows fs p :=
      Call.shows_spelled (s := settings d) rfl rfl hlevel rfl {} (hplain d)
    obtain ⟨p', hp', hassigns⟩ : ∃ p : Plan, p.settings = settings d
        ∧ (back d).Assigns fs p (utf8 "x3") (utf8 "0") :=
      Call.assigns_spelled (s := settings d) rfl rfl hlevel rfl (by decide) (by decide) {}
    have hdirectory : p.settings.registersDirectory = d := by rw [hp]
    have hshown := hshows.outcome (hkeeps hp).logApart
      ((hkeeps hp).load_setUp hloadable.safe hloadable.legible)
    rw [hdirectory, hb] at hshown
    have hoffers : Offers ((shown d).perform fs).output 3 (utf8 "x3") (utf8 "0") := by
      rw [hshown.2]
      exact ⟨utf8 "0", utf8 "0x00000000", (Registers.getElem?_cells_table _ 3).trans (by decide),
        .inl rfl⟩
    have hgives := Call.GivesBack.mk ⟨_, _, hassigns, hoffers⟩ (hkeeps hp')
    refine ⟨hloadable, ⟨p, hshows, hdirectory, by rw [hp]⟩, hshown.1, ⟨p', hgives⟩, fun hset => ?_⟩
    have hmet := hgives.of_status hset
    rw [hp'] at hmet
    exact hblocked hmet
  constructor
  · exact hunstored (by decide +kernel) fun hmet => hmet.2 3 (by decide) (by decide)
  · exact hunstored (by decide +kernel) fun hmet => hmet.1 rfl

end RegisterMachine
