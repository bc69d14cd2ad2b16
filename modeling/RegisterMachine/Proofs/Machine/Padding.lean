/-
Lines that do nothing, put between the lines of a program.

* `Program.Idle`: a line that is white space only, or a comment behind white
  space;
* `Program.idle_iff`: these are the lines that do nothing;
* `Padding`: a program with idle lines among its own;
* `Padding.views_padded`: both programs stop at the same line, and execute the
  same instructions before it;
* `Session.run_of_padding`: **idle lines are transparent to a run**.
-/
import RegisterMachine.Proofs.Instruction.Grammar
import RegisterMachine.Proofs.Machine.Session

namespace RegisterMachine

/-! ### Idle lines -/

/-- The first run of a text that begins with a character other than white space
begins with that character. -/
lemma Blank.exists_fields_append {c : Char} (hc : isBlank c = false) (s : Bytes) :
    ∃ t ts, fields (String.utf8EncodeChar c ++ s) = t :: ts ∧ String.utf8EncodeChar c <+: t := by
  obtain ⟨run, later, hsplit⟩ :=
    List.exists_cons_of_ne_nil (List.splitOnP_ne_nil isBlankPiece (Utf8.pieces s))
  have hruns : runs (Utf8.pieces (String.utf8EncodeChar c ++ s))
      = (.char c :: run) :: later.filter fun run => !run.isEmpty := by
    rw [Utf8.pieces_encode_append, runs, List.splitOnP_cons_eq_if_modifyHead, hsplit]
    simp [isBlankPiece, hc]
  rw [fields, hruns]
  exact ⟨_, _, rfl, List.prefix_append _ _⟩

namespace Program

/-- A line that is white space only, or whose first byte behind white space is
the comment mark. -/
inductive Idle : Bytes → Prop where
  | blank : Idle []
  | comment (text : Bytes) : Idle (Instruction.commentMark ++ text)
  | space {w line : Bytes} (hw : Blank.Space w) (h : Idle line) : Idle (w ++ line)

/-- An idle line is one that does nothing.  The two inductions are on how the line
is idle and on how it splits into runs. -/
lemma idle_iff {line : Bytes} : Idle line ↔ Instruction.decode line = .ok .nop := by
  have hdecode (l : Bytes) : Instruction.decode l = .ok .nop ↔
      Instruction.Spells (Blank.fields l) (.ok .nop) := Instruction.decodeFields_iff
  rw [hdecode]
  constructor
  · intro h
    induction h with
    | blank => exact .blank
    | comment text =>
        obtain ⟨t, ts, hfields, hmark⟩ := Blank.exists_fields_append (c := '#') rfl text
        exact Instruction.spells_nop_iff.mpr (.inr ⟨t, ts, hfields, hmark⟩)
    | space hw _ ih => rwa [Blank.fields_space_append hw]
  · rw [Instruction.spells_nop_iff]
    intro h
    have hsplits := Blank.splitsInto_fields line
    generalize Blank.fields line = ts at h hsplits
    induction hsplits with
    | nil => exact .blank
    | space hw _ ih => exact .space hw (ih h)
    | last _ =>
        obtain ⟨t, tokens, heq, text, rfl⟩ := h.resolve_left (by simp)
        rw [(List.cons.inj heq).1]
        exact .comment text
    | run _ _ _ _ =>
        obtain ⟨t, tokens, heq, text, rfl⟩ := h.resolve_left (by simp)
        rw [(List.cons.inj heq).1, List.append_assoc, List.append_assoc]
        exact .comment _

end Program

/-! ### Padded programs -/

/-- A line of a padded program: one of the program's own lines, or an idle line
put between them. -/
inductive Mark where
  | own (line : Bytes)
  | idle (line : Bytes) (h : Program.Idle line)

/-- The lines of a program together with idle lines, in their order. -/
abbrev Padding := List Mark

namespace Padding

/-- The program without the idle lines that were put in. -/
def original : Padding → Program
  | [] => []
  | .own line :: t => line :: original t
  | .idle _ _ :: t => original t

/-- The program with the idle lines that were put in. -/
def padded : Padding → Program
  | [] => []
  | .own line :: t => line :: padded t
  | .idle line _ :: t => line :: padded t

/-- The number of lines put in before the program's own line with the number `n`,
counted from zero, or of all that were put in when the program is shorter. -/
def before : Padding → Nat → Nat
  | [], _ => 0
  | .idle _ _ :: t, n => before t n + 1
  | .own _ :: _, 0 => 0
  | .own _ :: t, n + 1 => before t n

lemma length_padded (t : Padding) :
    t.padded.length = t.original.length + t.before t.original.length := by
  induction t with
  | nil => rfl
  | cons mark t ih =>
      cases mark with
      | own line =>
          rw [padded, original, List.length_cons, List.length_cons, before, ih]
          omega
      | idle line h =>
          rw [padded, original, before, List.length_cons, ih]
          omega

/-- The program that a run sees is the same: with idle lines put in it stops at the
same line, which stands further down, and executes the same instructions before
it. -/
lemma views_padded (t : Padding) :
    t.padded.stopLine = t.original.stopLine + t.before t.original.stopLine
      ∧ t.padded[t.padded.stopLine]? = t.original[t.original.stopLine]?
      ∧ t.padded.body.filter (· ≠ .nop) = t.original.body.filter (· ≠ .nop) := by
  induction t with
  | nil => exact ⟨rfl, rfl, rfl⟩
  | cons mark t ih =>
      obtain ⟨hline, hget, hbody⟩ := ih
      cases mark with
      | idle line h =>
          have hdecode := Program.idle_iff.mp h
          have hpass := Program.stopsAt_of_pass hdecode (by simp)
          rw [padded, original, before, Program.stopLine_cons_pass hpass,
            Program.body_cons_pass hdecode (by simp), List.getElem?_cons_succ]
          refine ⟨by omega, hget, ?_⟩
          rw [List.filter_cons_of_neg (by simp), hbody]
      | own line =>
          rw [padded, original]
          cases hstop : Program.stopsAt line with
          | true =>
              rw [Program.stopLine_cons_stop hstop, Program.stopLine_cons_stop hstop,
                Program.body_cons_stop hstop, Program.body_cons_stop hstop]
              exact ⟨rfl, rfl, rfl⟩
          | false =>
              obtain ⟨i, hdecode, hi⟩ := Program.exists_of_not_stopsAt hstop
              rw [Program.stopLine_cons_pass hstop, Program.stopLine_cons_pass hstop, before,
                Program.body_cons_pass hdecode hi, Program.body_cons_pass hdecode hi,
                List.getElem?_cons_succ, List.getElem?_cons_succ, List.filter_cons,
                List.filter_cons, hbody]
              exact ⟨by omega, hget, rfl⟩

end Padding

/-! ### Runs of padded programs -/

namespace Instruction

/-- Instructions that do nothing have no influence on the bank. -/
lemma foldl_apply_filter (is : List Instruction) (b : Bank) :
    (is.filter (· ≠ .nop)).foldl apply b = is.foldl apply b := by
  induction is generalizing b with
  | nil => rfl
  | cons i is ih =>
      by_cases hnop : i = .nop
      · rw [List.filter_cons_of_neg (by simp [hnop]), ih, hnop]
        rfl
      · rw [List.filter_cons_of_pos (by simp [hnop]), List.foldl_cons, ih, List.foldl_cons]

/-- Instructions that do nothing show nothing. -/
lemma showsAll_filter (is : List Instruction) (b : Bank) :
    showsAll b (is.filter (· ≠ .nop)) = showsAll b is := by
  induction is generalizing b with
  | nil => rfl
  | cons i is ih =>
      by_cases hnop : i = .nop
      · rw [List.filter_cons_of_neg (by simp [hnop]), ih, hnop]
        rfl
      · rw [List.filter_cons_of_pos (by simp [hnop]), showsAll, ih, showsAll]

end Instruction

namespace Padding

variable (t : Padding)

lemma result_padded (b : Bank) : t.padded.result b = t.original.result b := by
  obtain ⟨-, -, hbody⟩ := t.views_padded
  rw [Program.result, Program.result, ← Instruction.foldl_apply_filter, hbody,
    Instruction.foldl_apply_filter]

lemma showsAll_padded (b : Bank) :
    Instruction.showsAll b t.padded.body = Instruction.showsAll b t.original.body := by
  obtain ⟨-, -, hbody⟩ := t.views_padded
  rw [← Instruction.showsAll_filter, hbody, Instruction.showsAll_filter]

lemma ending_padded : t.padded.ending = t.original.ending := by
  obtain ⟨-, hget, -⟩ := t.views_padded
  rw [Program.ending, hget, Program.ending]

lemma weight_padded : t.padded.weight = t.original.weight := by
  obtain ⟨-, -, hbody⟩ := t.views_padded
  rw [Program.weight, Program.weight, t.ending_padded, List.countP_eq_length_filter, hbody,
    List.countP_eq_length_filter]

/-- The fault is met on the same line, which stands further down. -/
lemma fault?_padded :
    t.padded.fault? = t.original.fault?.map (Fault.later (t.before t.original.stopLine)) := by
  obtain ⟨hline, hget, -⟩ := t.views_padded
  rw [← Program.faultFrom_eq, Program.fault?, Program.faultFrom, hget, hline, Program.faultFrom]
  simp only [Nat.zero_add, Nat.add_comm]

end Padding

namespace Session

/-- **Idle lines are transparent to a run.**  A program with idle lines among its
own ends in the same state as without them, with the same bank, which is saved
once in the same way and with the same answer; it shows the same values and
executes as many instructions.  Only the line at which it stops, and with it the
line of a fault, is counted with the idle lines before it.  These are all the idle
lines when the program is executed to its end. -/
theorem run_of_padding (s : Session) (t : Padding) :
    let plain := s.perform (.run t.original)
    let mixed := s.perform (.run t.padded)
    let n := t.before plain.1.machine.line
    mixed.1.machine.state = plain.1.machine.state
      ∧ mixed.1.machine.bank = plain.1.machine.bank
      ∧ mixed.2.saves = plain.2.saves
      ∧ mixed.2.shown = plain.2.shown
      ∧ mixed.1.machine.executed = plain.1.machine.executed
      ∧ mixed.1.machine.line = plain.1.machine.line + n
      ∧ mixed.1.machine.fault = plain.1.machine.fault.map (Fault.later n)
      ∧ mixed.2.events.filter Event.isConsole
          = (plain.2.shown.map fun (i, v) => .shown i v)
            ++ (plain.1.machine.fault.map (Fault.later n)).toList.map .faulted
      ∧ mixed.2.error = plain.2.error
      ∧ mixed.1.answers = plain.1.answers
      ∧ (plain.1.machine.state = .completed → t.original.length + n = t.padded.length) := by
  intro plain mixed n
  have hplain : plain.1.machine = Machine.reference t.original s.machine.bank :=
    s.machine_run t.original
  have hmixed : mixed.1.machine = Machine.reference t.padded s.machine.bank :=
    s.machine_run t.padded
  have hn : n = t.before t.original.stopLine := by simp only [n, hplain, Machine.reference]
  have hfault : mixed.1.machine.fault = plain.1.machine.fault.map (Fault.later n) := by
    rw [hplain, hmixed, hn]
    exact t.fault?_padded
  refine ⟨?_, ?_, ?_, ?_, ?_, ?_, hfault, ?_, ?_, ?_, fun hstate => ?_⟩
  · rw [hplain, hmixed]
    exact t.ending_padded
  · rw [hplain, hmixed]
    exact t.result_padded s.machine.bank
  · rw [s.saves_run, s.saves_run, t.result_padded]
  · rw [s.shown_run, s.shown_run, t.showsAll_padded]
  · rw [hplain, hmixed]
    exact t.weight_padded
  · rw [hplain, hmixed, hn]
    exact t.views_padded.1
  · rw [← hfault, hmixed, s.shown_run, ← t.showsAll_padded]
    exact s.console_run t.padded
  · simp only [plain, mixed, perform_run]
  · simp only [plain, mixed, perform_run]
  · rw [hplain] at hstate
    rw [hn, Program.stopLine_of_completed hstate, t.length_padded]

end Session

end RegisterMachine
