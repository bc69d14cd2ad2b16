/-
Digits as the value of a register.

* `Plan.Keeps`: a call is about the store at a place, and its log is none of its files;
* `Call.Assigns.stored`: on such a store an assignment succeeds and changes one register, and
  `Call.Assigns.of_status`: it fails where a directory stands in its way;
* `Call.assigns_spelled`: words that come to an assignment;
* `Registers.AsDecimal`: digits are taken for a number in base ten;
* `outcome_of_digits`: **digits are taken for a number in base ten, unless a zero stands in
  front**: then they are taken for one in base eight, or rejected.
-/
import RegisterMachine.Proofs.Invocation.Assignment
import RegisterMachine.Proofs.Store.Loadable
import RegisterMachine.Proofs.Text.Literal

namespace RegisterMachine

open Store (Holds Guarded)
open Numeral (Digits IsDigit value literalValue?)

variable {fs : FileSystem} {c : Call} {p : Plan} {loc : Location} {b : Bank} {token text : Bytes}
  {i : Int} {n : Nat}

/-! ### Calls beside a store -/

/-- The settings lead to the store at `loc`, and the log is none of the places of that
store. -/
structure Plan.Keeps (p : Plan) (loc : Location) : Prop where
  place : Path.resolve p.settings.registersDirectory = loc
  log : ∀ q, p.IsLog q → ¬ Guarded loc q

/-- Without a log there is nothing beside the store. -/
lemma Plan.keeps_of_no_log (hplace : Path.resolve p.settings.registersDirectory = loc)
    (hlog : p.settings.logFile = []) : p.Keeps loc :=
  ⟨hplace, fun _ hq => absurd hlog hq.1⟩

namespace Plan.Keeps

lemma logApart (h : p.Keeps loc) : p.LogApart := by
  intro i hi hlog
  rw [h.place] at hlog
  exact h.log _ hlog (Store.guarded_place (List.mem_range.mp hi))

lemma logClear (h : p.Keeps loc) : p.LogClear := by
  intro i hi hlog
  rw [h.place] at hlog
  exact h.log _ hlog (Store.guarded_scratchPlace (List.mem_range.mp hi))

/-- Setting up the log spares the store. -/
lemma spares_setUp (h : p.Keeps loc) (hfs : fs.Safe (Guarded loc)) :
    FileSystem.Spares (Guarded loc) fs (p.setUp fs).2.files := by
  have hfree : Guarded loc (Path.resolve p.settings.logFile) →
      fs.get? (Path.resolve p.settings.logFile) = some .directory := by
    intro hguarded
    by_cases hnone : p.settings.logFile = []
    · rw [hnone] at hguarded
      exact absurd hguarded (Store.not_guarded_nil loc)
    · exact absurd hguarded (h.log _ ⟨hnone, rfl⟩)
  exact (Invocation.spares_setUpLogging (w := { files := fs }) hfs hfree p.file p.command
    p.flags.words).1

lemma holds_setUp (h : p.Keeps loc) (hb : Holds loc b fs) : Holds loc b (p.setUp fs).2.files :=
  hb.spares (h.spares_setUp hb.orderly.safe)

/-- Where the bank could be loaded before the log was set up, it can be loaded afterwards. -/
lemma load_setUp (h : p.Keeps loc) (hfs : fs.Safe (Guarded loc)) (hloc : Store.Legible loc fs) :
    (Store.load p.settings.registersDirectory (p.setUp fs).2.files).1.2 = [] := by
  rw [(hloc.spares (h.spares_setUp hfs)).load h.place]

/-- A value can be stored in any register. -/
lemma assign_eq_nil (h : p.Keeps loc) (hne : p.settings.registersDirectory ≠ [])
    (hb : Holds loc b fs) (i : Int) (n : Nat) :
    (p.assign fs i n).1 = [] := by
  have hloaded := Run.load_eq (h.holds_setUp hb) h.place
  obtain ⟨w, hsave, -⟩ := Run.exists_save ((h.holds_setUp hb).log _) hne h.place
    ((Store.load p.settings.registersDirectory fs).1.1.put i n)
  rw [Plan.assign, hloaded, hsave]

end Plan.Keeps

/-- **An assignment to a stored bank succeeds and changes one register.** -/
lemma Call.Assigns.stored (h : c.Assigns fs p token text) (hp : p.Keeps loc)
    (hne : p.settings.registersDirectory ≠ []) (hb : Holds loc b fs)
    (hok : Registers.assignment token text = .ok (i, n)) :
    (c.perform fs).status = 0 ∧ Holds loc (b.put i n) (c.perform fs).files := by
  obtain ⟨w, hstore, hw⟩ := Registers.exists_store (hp.holds_setUp hb) hne hp.place token
    (Registers.inRange_of_assignment hok) n
  have hset : Registers.set p.settings token text (p.setUp fs).2 = (.ok (), w) := by
    rw [Registers.set, hok]
    exact hstore
  rw [h.perform_eq, hset, Invocation.finish]
  exact ⟨Outcome.status_of_none rfl, hw.spares (FileSystem.spares_closeAppender hw.orderly.safe)⟩

/-- Where an assignment has succeeded the path of the store is not empty, and no directory
stood where a register is written first. -/
lemma Call.Assigns.of_status (h : c.Assigns fs p token text) (hp : p.Keeps loc)
    (hstatus : (c.perform fs).status = 0) :
    p.settings.registersDirectory ≠ [] ∧ Store.Unblocked loc fs := by
  obtain ⟨i, n, -, -, hsave⟩ := h.exists_of_status hp.logApart hstatus
  have hsetUp := hp.spares_setUp ⟨h.failures, by simp [h.closed]⟩
  rw [Plan.assign, Run.load_snd_eq hsetUp.safe.failures] at hsave
  refine ⟨(Store.ready_of_save hsave).ne_nil, fun i hi => ?_⟩
  have hunblocked := Store.unblocked_of_save hsave i hi
  rwa [hp.place, (hsetUp.trans (World.spares_log hsetUp.safe _)).get?_eq _
    (Store.guarded_scratchPlace hi)] at hunblocked

/-- The words `registers set`, a register and a value come to an assignment, behind words that
give all settings and no log. -/
lemma Call.assigns_spelled {s : Settings} {level : Int} (hfs : fs.failures = [])
    (hclosed : fs.appender = none) (hlevel : Log.readLevel (Blank.trim s.logLevel) = .ok level)
    (hlog : s.logFile = []) (htoken : token.head? ≠ some 45) (htext : text.head? ≠ some 45)
    (surroundings : Surroundings) :
    ∃ p : Plan, p.settings = { s with display := surroundings.display } ∧ Call.Assigns
      ⟨surroundings, s.spelled ++ [utf8 "registers", utf8 "set", token, text]⟩ fs p token text := by
  have hfind : Command.find [utf8 "registers", utf8 "set", token, text]
      = (.registersSet, [token, text]) := by
    have hbelow : Command.findFrom .registersSet 1 [token, text]
        = (.registersSet, [token, text]) := by
      rw [Command.findFrom]
      cases Command.firstWord? [token, text] <;> rfl
    exact hbelow
  have hparse : Flag.parse Command.registersSet.flags [token, text]
      = .ok { words := [token, text] } := Flag.parse_words _ (by simpa using ⟨htoken, htext⟩)
  refine ⟨_, ?_, hfs, hclosed, Call.intent?_spelled rfl hfind hparse fs, rfl, rfl, rfl, ?_⟩
  · rfl
  · rw [Plan.setUp, Invocation.setUpLogging, hlevel, Invocation.openLog, hlog]
    rfl

/-! ### Digits -/

/-- Digits are taken for a number in base ten: a call that was to set the register `r` to them
succeeds and the register is loaded with that number, if it fits into a word; otherwise the
call fails and changes nothing but the log. -/
structure Registers.AsDecimal (p : Plan) (r : Fin 16) (s : Bytes) (fs : FileSystem) (o : Outcome) :
    Prop where
  fits : value s < Nat.pow 2 32 → o.status = 0
    ∧ ∃ b, Store.load p.settings.registersDirectory o.files = ((b, []), o.files)
      ∧ (b.word r).toNat = value s
  exceeds : Nat.pow 2 32 ≤ value s → o.status ≠ 0
    ∧ ∀ q, ¬ p.IsLog q → o.files.get? q = fs.get? q

namespace Call.Assigns

variable {r : Fin 16} {s : Bytes}

/-- Digits that stand for a word are stored, if the bank can be saved. -/
lemma outcome_of_literal (h : c.Assigns fs p token s) (hapart : p.LogApart) (hclear : p.LogClear)
    (hload : (Store.load p.settings.registersDirectory (p.setUp fs).2.files).1.2 = [])
    (hparse : Register.parse token = .ok (r.val : Int)) (hs : Digits s)
    (hn : literalValue? s = some n) (hlt : n < Nat.pow 2 32) :
    ((p.assign fs r.val n).1 = [] → (c.perform fs).status = 0
        ∧ ∃ b, Store.load p.settings.registersDirectory (c.perform fs).files
            = ((b, []), (c.perform fs).files)
          ∧ (b.word r).toNat = n
          ∧ ∀ r' ≠ r, b.word r' = (Store.load p.settings.registersDirectory fs).1.1.word r')
      ∧ ((p.assign fs r.val n).1 ≠ [] → (c.perform fs).status = 3) := by
  have hok : Registers.assignment token s = .ok (r.val, n) :=
    Registers.assignment_eq_ok_iff.mpr
      ⟨hparse, (Numeral.readNatural_literal_eq_ok_iff hs).mpr ⟨hn, hlt⟩⟩
  refine ⟨fun hsave => ⟨?_, _, h.load_perform hapart hclear hok hload hsave, ?_, fun r' hr' => ?_⟩,
    fun hsave => (h.outcome_of_unsaved hapart hok hload hsave).2⟩
  · rw [h.perform_of_saved hapart hok hload hsave, Invocation.finish]
    exact Outcome.status_of_none rfl
  · rw [Bank.word_put, if_pos rfl, BitVec.toNat_ofNat]
    exact Nat.mod_eq_of_lt hlt
  · have hne : (r'.val : Int) ≠ r.val := fun heq => hr' (Fin.ext (by exact_mod_cast heq))
    rw [Bank.word_put, if_neg hne]

/-- Digits that stand for no word are rejected. -/
lemma outcome_of_no_literal (h : c.Assigns fs p token s) (hs : Digits s)
    (hno : ∀ n, literalValue? s = some n → Nat.pow 2 32 ≤ n) :
    (c.perform fs).status = 1 ∧ ∀ q, ¬ p.IsLog q → (c.perform fs).files.get? q = fs.get? q := by
  cases hassignment : Registers.assignment token s with
  | error e => exact (h.outcome_of_rejected hassignment).2
  | ok a =>
      obtain ⟨hn, hlt⟩ := (Numeral.readNatural_literal_eq_ok_iff hs).mp
        (Registers.assignment_eq_ok_iff.mp hassignment).2
      exact absurd hlt (Nat.not_lt.mpr (hno _ hn))

/-- Behind a zero another number is stored, or none, unless it is below eight. -/
lemma asDecimal_iff (h : c.Assigns fs p token s) (hapart : p.LogApart) (hclear : p.LogClear)
    (hload : (Store.load p.settings.registersDirectory (p.setUp fs).2.files).1.2 = [])
    (hparse : Register.parse token = .ok (r.val : Int)) (hs : Digits s)
    (hsave : ∀ n, (p.assign fs r.val n).1 = []) :
    Registers.AsDecimal p r s fs (c.perform fs) ↔ (s.head? = some 48 → value s < 8
      ∨ Nat.pow 2 32 ≤ value s
        ∧ ∀ n, literalValue? s = some n → Nat.pow 2 32 ≤ n) := by
  have hstored (n : Nat) := h.outcome_of_literal (n := n) hapart hclear hload hparse hs
  have hrejected := h.outcome_of_no_literal hs
  have hvalue := Numeral.literalValue?_eq_value_iff hs
  refine ⟨fun hten hzero => ?_, fun hcases => ⟨fun hlt => ?_, fun hge => ?_⟩⟩
  · by_cases hsmall : value s < 8
    · exact .inl hsmall
    · have hother : literalValue? s ≠ some (value s) :=
        fun heq => hsmall (hvalue.mp heq hzero)
      have hall : ∀ n, literalValue? s = some n → Nat.pow 2 32 ≤ n := by
        intro n hn
        by_contra hlt
        obtain ⟨hstatus, b, hload', hread, -⟩ := (hstored n hn (Nat.not_le.mp hlt)).1 (hsave n)
        by_cases hfits : value s < Nat.pow 2 32
        · obtain ⟨-, b', hload'', hread'⟩ := hten.fits hfits
          have hbank : b = b' := congrArg (fun x => x.1.1) (hload'.symm.trans hload'')
          rw [← hread', ← hbank, hread] at hother
          exact hother hn
        · exact (hten.exceeds (Nat.not_lt.mp hfits)).1 hstatus
      refine .inr ⟨?_, hall⟩
      by_contra hlt
      have hstatus := (hten.fits (Nat.not_le.mp hlt)).1
      exact absurd (hstatus.symm.trans (hrejected hall).1) (by decide)
  · have heq : literalValue? s = some (value s) := by
      refine hvalue.mpr fun hzero => ?_
      obtain hsmall | ⟨hge, -⟩ := hcases hzero
      · exact hsmall
      · exact absurd hlt (Nat.not_lt.mpr hge)
    obtain ⟨hstatus, b, hload', hread, -⟩ := (hstored _ heq hlt).1 (hsave _)
    exact ⟨hstatus, b, hload', hread⟩
  · have hall : ∀ n, literalValue? s = some n → Nat.pow 2 32 ≤ n := by
      by_cases hzero : s.head? = some 48
      · obtain hsmall | ⟨-, hall⟩ := hcases hzero
        · exact absurd (Nat.lt_of_le_of_lt hge hsmall) (by decide)
        · exact hall
      · intro n hn
        rw [hvalue.mpr fun hbad => absurd hbad hzero] at hn
        exact Option.some.inj hn ▸ hge
    obtain ⟨hstatus, hsame⟩ := hrejected hall
    exact ⟨by rw [hstatus]; decide, hsame⟩

end Call.Assigns

/-- **Digits are taken for a number in base ten, unless a zero stands in front.**  Behind a
zero they are taken for a number in base eight, and rejected if there is an eight or a nine
among them.  This makes no difference below eight, nor where the number does not fit into a
word in base ten and is rejected all the same.  The log is no register, nor where one is
written first, and the bank can be loaded. -/
theorem outcome_of_digits {r : Fin 16} {s : Bytes} (h : c.Assigns fs p token s)
    (hapart : p.LogApart) (hclear : p.LogClear)
    (hload : (Store.load p.settings.registersDirectory (p.setUp fs).2.files).1.2 = [])
    (hparse : Register.parse token = .ok (r.val : Int)) (hs : Digits s) :
    let d := p.settings.registersDirectory
    let o := c.perform fs
    let rejected := ∀ n, literalValue? s = some n → Nat.pow 2 32 ≤ n
    (∀ n, literalValue? s = some n → n < Nat.pow 2 32 →
        ((p.assign fs r.val n).1 = [] → o.status = 0
          ∧ ∃ b, Store.load d o.files = ((b, []), o.files) ∧ (b.word r).toNat = n
            ∧ ∀ r' ≠ r, b.word r' = (Store.load d fs).1.1.word r')
        ∧ ((p.assign fs r.val n).1 ≠ [] → o.status = 3))
      ∧ (rejected → o.status = 1 ∧ ∀ q, ¬ p.IsLog q → o.files.get? q = fs.get? q)
      ∧ ((∀ n, (p.assign fs r.val n).1 = []) →
        (Registers.AsDecimal p r s fs o ↔ (s.head? = some 48 →
          value s < 8 ∨ Nat.pow 2 32 ≤ value s ∧ rejected))) := by
  exact ⟨fun n => h.outcome_of_literal hapart hclear hload hparse hs,
    h.outcome_of_no_literal hs, h.asDecimal_iff hapart hclear hload hparse hs⟩

/-- Ten with a zero in front is stored as eight, nine with a zero in front is rejected, and
ten is stored as ten. -/
theorem outcome_of_padded_digits :
    let settings : Settings :=
      { registersDirectory := utf8 "/r", logLevel := utf8 "error", logFile := []
        hashFile := utf8 "/p", colour := utf8 "never" }
    let call (text : Bytes) : Call :=
      { words := settings.spelled ++ [utf8 "registers", utf8 "set", utf8 "x1", text] }
    let fs : FileSystem := { entries := [([utf8 "r"], .directory)] }
    (∃ p, (call (utf8 "010")).Assigns fs p (utf8 "x1") (utf8 "010")
        ∧ ¬ Registers.AsDecimal p 1 (utf8 "010") fs ((call (utf8 "010")).perform fs)
        ∧ ((call (utf8 "010")).perform fs).status = 0
        ∧ ∃ b, Store.load (utf8 "/r") ((call (utf8 "010")).perform fs).files
            = ((b, []), ((call (utf8 "010")).perform fs).files)
          ∧ (b.word 1).toNat = 8)
      ∧ ((call (utf8 "09")).perform fs).status = 1
      ∧ ∃ p, (call (utf8 "10")).Assigns fs p (utf8 "x1") (utf8 "10")
        ∧ Registers.AsDecimal p 1 (utf8 "10") fs ((call (utf8 "10")).perform fs) := by
  intro settings call fs
  have hholds : Holds [utf8 "r"] (Store.bank [utf8 "r"] fs) fs :=
    ⟨⟨⟨rfl, by simp [fs]⟩, by decide, fun i hi => .inl (by revert i; decide), by decide⟩, rfl⟩
  have horderly := hholds.orderly
  have hset (text : Bytes) (htext : text.head? ≠ some 45) :
      ∃ p : Plan, p.settings = settings ∧ (call text).Assigns fs p (utf8 "x1") text :=
    Call.assigns_spelled (s := settings) rfl rfl
      (show Log.readLevel _ = .ok 8 by decide +kernel) rfl (by decide) htext {}
  have hkeeps {p : Plan} (hp : p.settings = settings) : p.Keeps [utf8 "r"] :=
    Plan.keeps_of_no_log (by rw [hp]; decide) (by rw [hp])
  have hnamed {p : Plan} (hp : p.settings = settings) : p.settings.registersDirectory ≠ [] := by
    rw [hp]
    decide
  have hone : Register.parse (utf8 "x1") = .ok (((1 : Fin 16).val : Nat) : Int) := by decide +kernel
  have hdigits (text : Bytes) (hne : text ≠ []) (hall : text.all (fun c => IsDigit c) = true) :
      Digits text := ⟨hne, by simpa using hall⟩
  refine ⟨?_, ?_, ?_⟩
  · obtain ⟨p, hp, hassigns⟩ := hset (utf8 "010") (by decide)
    have hk := hkeeps hp
    obtain ⟨hstored, -, hten⟩ := outcome_of_digits hassigns hk.logApart hk.logClear
      (hk.load_setUp horderly.safe horderly.legible) hone (hdigits _ (by decide) (by decide))
    have hsave (n : Nat) : (p.assign fs (1 : Fin 16).val n).1 = [] :=
      hk.assign_eq_nil (hnamed hp) hholds _ n
    obtain ⟨hstatus, b, hload, hword, -⟩ := (hstored 8 (by decide) (by decide)).1 (hsave 8)
    rw [hp] at hload
    refine ⟨p, hassigns, fun hbad => ?_, hstatus, b, hload, hword⟩
    exact absurd ((hten hsave).mp hbad) (by decide)
  · obtain ⟨p, hp, hassigns⟩ := hset (utf8 "09") (by decide)
    have hk := hkeeps hp
    obtain ⟨-, hrejected, -⟩ := outcome_of_digits hassigns hk.logApart hk.logClear
      (hk.load_setUp horderly.safe horderly.legible) hone (hdigits _ (by decide) (by decide))
    exact (hrejected (by simp [show literalValue? (utf8 "09") = none by decide])).1
  · obtain ⟨p, hp, hassigns⟩ := hset (utf8 "10") (by decide)
    have hk := hkeeps hp
    obtain ⟨-, -, hten⟩ := outcome_of_digits hassigns hk.logApart hk.logClear
      (hk.load_setUp horderly.safe horderly.legible) hone (hdigits _ (by decide) (by decide))
    exact ⟨p, hassigns, (hten (hk.assign_eq_nil (hnamed hp) hholds _)).mpr (by decide)⟩

end RegisterMachine
