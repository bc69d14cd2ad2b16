/-
What a step of the machine can do.

* `Machine.step_terminal`: nothing, when the machine has stopped;
* `Machine.step_pass`: execute the instruction on the current line and go on to
  the next;
* `Machine.step_halt`, `Machine.step_fault`, `Machine.step_end`: stop at a halt,
  at a line that cannot be decoded, or behind the last line;
* `Machine.step_cases`: one of these four, when the machine is running.

An instruction that was decoded never fails to execute, so the machine stops
with a fault only where a line cannot be decoded.
-/
import RegisterMachine.Machine
import RegisterMachine.Proofs.Instruction.Meaning
import RegisterMachine.Proofs.Text.Trim

namespace RegisterMachine

/-- The events of an instruction on the line with number `n`, counted from zero:
it is announced, and shows what it shows.  A blank line is passed over. -/
def Instruction.events (n : Nat) (b : Bank) (i : Instruction) : List Event :=
  if i = .nop then []
  else .executing (n + 1) i :: (i.shows b).map fun (r, v) => .shown r v

/-- How often a line counts as an executed instruction: a blank line never
does. -/
def Instruction.weight (i : Instruction) : Nat :=
  if i = .nop then 0 else 1

/-- The last events of a program that stops. -/
def Machine.stopEvents (s : State) (m : Machine) : List Event :=
  [.stopped s (m.line + 1) m.executed, .save m.bank]

/-- The fault of a line with number `n`, counted from zero, that cannot be
decoded. -/
def Fault.ofLine (n : Nat) (line : Bytes) (cause : Cause) : Fault where
  line := n + 1
  text := Blank.trim line
  causes := [cause]

namespace Event

/-- The console is told that a register is shown or that a line is at fault. -/
def isConsole : Event → Bool
  | .shown _ _ => true
  | .faulted _ => true
  | _ => false

/-- The bank that is to be saved. -/
def bank? : Event → Option Bank
  | .save b => some b
  | _ => none

end Event

namespace State

@[simp] lemma terminal_running : terminal .running = false := rfl

lemma terminal_iff {s : State} : s.terminal = true ↔ s ≠ .running := by
  simp [terminal]

end State

namespace Program

lemma line_eq_trim {p : Program} {n : Nat} {l : Bytes} (h : p[n]? = some l) :
    p.line n = Blank.trim l := by
  rw [line, List.getD_eq_getElem?_getD, h, Option.getD_some]

end Program

namespace Instruction

lemma events_of_ne_nop {i : Instruction} (h : i ≠ .nop) (n : Nat) (b : Bank) :
    i.events n b = .executing (n + 1) i :: (i.shows b).map fun (r, v) => .shown r v := by
  rw [events, if_neg h]

/-- An instruction shows at most one register. -/
lemma head?_shows (i : Instruction) (b : Bank) : (i.shows b).head?.toList = i.shows b := by
  cases i <;> rfl

/-- An instruction tells the console what it shows. -/
lemma console_events (i : Instruction) (n : Nat) (b : Bank) :
    (i.events n b).filter Event.isConsole = (i.shows b).map fun (r, v) => .shown r v := by
  cases i <;> rfl

/-- An instruction saves nothing. -/
lemma banks_events (i : Instruction) (n : Nat) (b : Bank) :
    (i.events n b).filterMap Event.bank? = [] := by
  cases i <;> rfl

end Instruction

namespace Machine

variable {m : Machine} {l : Bytes} {i : Instruction} {cause : Cause}

/-- A machine that has stopped does nothing. -/
lemma step_terminal (h : m.state ≠ .running) : m.step = (m, []) := by
  rw [step, if_pos (State.terminal_iff.mpr h)]

/-- A running machine behind the last line stops. -/
lemma step_end (hrun : m.state = .running) (hline : m.program.length ≤ m.line) :
    m.step = ({ m with state := .completed }, m.stopEvents .completed) := by
  rw [step, hrun, if_neg (by simp), if_pos hline]
  rfl

/-- The step of a running machine on a line that was decoded so. -/
def onLine (m : Machine) (text : Bytes) : Except Cause Instruction → Machine × List Event
  | .error cause => m.fail text [cause]
  | .ok .nop => ({ m with line := m.line + 1 }, [])
  | .ok i => m.perform text i

lemma step_on_line (hrun : m.state = .running) (hget : m.program[m.line]? = some l) :
    m.step = m.onLine (Blank.trim l) (Instruction.decode l) := by
  have hline : ¬ m.program.length ≤ m.line := by
    have := (List.getElem?_eq_some_iff.mp hget).1
    omega
  rw [step, if_neg (by simp [hrun]), if_neg hline]
  dsimp only
  rw [Program.line_eq_trim hget, Instruction.decode_trim]
  rfl

/-- A line that cannot be decoded stops the program. -/
lemma step_fault (hrun : m.state = .running) (hget : m.program[m.line]? = some l)
    (hdecode : Instruction.decode l = .error cause) :
    m.step = ({ m with state := .errored, fault := some (.ofLine m.line l cause) },
      .faulted (.ofLine m.line l cause) :: m.stopEvents .errored) := by
  rw [step_on_line hrun hget, hdecode]
  rfl

/-- Executing a well-formed instruction other than a halt goes on to the next
line. -/
lemma perform_eq (hi : i.WellFormed) (hnop : i ≠ .nop) (hhalt : i ≠ .halt) (text : Bytes) :
    m.perform text i = ({ m with
        bank := i.apply m.bank, line := m.line + 1, executed := m.executed + i.weight },
      i.events m.line m.bank) := by
  rw [perform, Instruction.execute_eq hi]
  dsimp only
  rw [if_neg (by simpa using hhalt), Instruction.head?_shows, Instruction.events_of_ne_nop hnop,
    Instruction.weight, if_neg hnop]

/-- Any other line than a halt is passed: its instruction is executed and the
next line is the current one. -/
lemma step_pass (hrun : m.state = .running) (hget : m.program[m.line]? = some l)
    (hdecode : Instruction.decode l = .ok i) (hhalt : i ≠ .halt) :
    m.step = ({ m with
        bank := i.apply m.bank, line := m.line + 1, executed := m.executed + i.weight },
      i.events m.line m.bank) := by
  rw [step_on_line hrun hget, hdecode]
  by_cases hnop : i = .nop
  · subst hnop
    rfl
  · rw [← perform_eq (Instruction.wellFormed_of_decode hdecode) hnop hhalt (Blank.trim l)]
    cases i with
    | nop => exact absurd rfl hnop
    | _ => rfl

/-- A halt stops the program, and counts as executed. -/
lemma step_halt (hrun : m.state = .running) (hget : m.program[m.line]? = some l)
    (hdecode : Instruction.decode l = .ok .halt) :
    m.step = ({ m with state := .halted, executed := m.executed + 1 },
      .executing (m.line + 1) .halt
        :: stopEvents .halted { m with executed := m.executed + 1 }) := by
  rw [step_on_line hrun hget, hdecode]
  rfl

/-- **What a running machine can do in one step**: stop behind the last line, at
a line that cannot be decoded or at a halt, or pass a line. -/
theorem step_cases (hrun : m.state = .running) :
    (m.program.length ≤ m.line
        ∧ m.step = ({ m with state := .completed }, m.stopEvents .completed))
      ∨ (∃ l cause, m.program[m.line]? = some l ∧ Instruction.decode l = .error cause
        ∧ m.step = ({ m with state := .errored, fault := some (.ofLine m.line l cause) },
          .faulted (.ofLine m.line l cause) :: m.stopEvents .errored))
      ∨ (∃ l, m.program[m.line]? = some l ∧ Instruction.decode l = .ok .halt
        ∧ m.step = ({ m with state := .halted, executed := m.executed + 1 },
          .executing (m.line + 1) .halt
            :: stopEvents .halted { m with executed := m.executed + 1 }))
      ∨ (∃ l i, m.program[m.line]? = some l ∧ Instruction.decode l = .ok i ∧ i ≠ .halt
        ∧ m.step = ({ m with
            bank := i.apply m.bank, line := m.line + 1, executed := m.executed + i.weight },
          i.events m.line m.bank)) := by
  cases hget : m.program[m.line]? with
  | none =>
      have hline := List.getElem?_eq_none_iff.mp hget
      exact .inl ⟨hline, step_end hrun hline⟩
  | some l =>
      cases hdecode : Instruction.decode l with
      | error cause => exact .inr (.inl ⟨l, cause, rfl, hdecode, step_fault hrun hget hdecode⟩)
      | ok i =>
          by_cases hhalt : i = .halt
          · subst hhalt
            exact .inr (.inr (.inl ⟨l, rfl, hdecode, step_halt hrun hget hdecode⟩))
          · exact .inr (.inr (.inr ⟨l, i, rfl, hdecode, hhalt,
              step_pass hrun hget hdecode hhalt⟩))

/-! ### Running to the end -/

/-- A machine that has stopped is finished. -/
lemma finish_terminal (h : m.state ≠ .running) : m.finish = (m, []) := by
  rw [finish, dif_pos (State.terminal_iff.mpr h)]

/-- A running machine takes a step and goes on. -/
lemma finish_running (h : m.state = .running) :
    m.finish = (m.step.1.finish.1, m.step.2 ++ m.step.1.finish.2) := by
  rw [finish, dif_neg (by simp [h])]

end Machine

end RegisterMachine
