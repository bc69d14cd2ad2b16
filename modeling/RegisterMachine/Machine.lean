/-
The machine that runs a program over a bank of registers.

* `Machine`: a bank with a program and how far it has been run;
* `Machine.step`: runs the next line;
* `Machine.run`: runs a program until it stops;
* `Event`: what happens on the way, in order.

When the machine stops, it asks once for its bank to be saved.  Whether that
succeeds does not matter to the machine, so saving is an event like the others.
-/
import RegisterMachine.Instruction
import RegisterMachine.Program

namespace RegisterMachine

/-- Whether a program is running, and how it stopped. -/
inductive State where
  /-- There are lines left to run. -/
  | running
  /-- A halt instruction was executed. -/
  | halted
  /-- A line could not be decoded or executed. -/
  | errored
  /-- The program ran past its last line. -/
  | completed
deriving DecidableEq, Repr

namespace State

/-- The states, by number. -/
def all : List State :=
  [.running, .halted, .errored, .completed]

/-- The name of a state. -/
def name : State → Bytes
  | .running => utf8 "running"
  | .halted => utf8 "halted"
  | .errored => utf8 "errored"
  | .completed => utf8 "completed"

/-- The program has stopped. -/
def terminal (s : State) : Bool :=
  s ≠ .running

/-- The state with a given number. -/
def ofNumber? (n : Int) : Option State :=
  if n < 0 then none else all[n.toNat]?

/-- The name of the state with a given number, also when there is none. -/
def nameOfNumber (n : Int) : Bytes :=
  match ofNumber? n with
  | some s => s.name
  | none => utf8 "unknown(" ++ integer n ++ utf8 ")"

/-- Only the number of the running state is not terminal. -/
def terminalNumber (n : Int) : Bool :=
  ofNumber? n ≠ some .running

end State

/-- What happens while a program runs. -/
inductive Event where
  /-- An instruction on the line with that number, counted from one, is about to
  be executed. -/
  | executing (line : Nat) (instruction : Instruction)
  /-- The value of a register is shown. -/
  | shown (register : Int) (value : Word)
  /-- A line is at fault. -/
  | faulted (fault : Fault)
  /-- The program stops at the line with that number, counted from one. -/
  | stopped (state : State) (line executed : Nat)
  /-- The bank is to be saved. -/
  | save (bank : Bank)
deriving DecidableEq, Repr

/-- A bank with a program and how far it has been run. -/
structure Machine where
  bank : Bank
  program : Program := []
  /-- The number of the next line, counted from zero, or of the line at which
  the program stopped. -/
  line : Nat := 0
  state : State := .completed
  /-- How many instructions were executed, a halt included. -/
  executed : Nat := 0
  /-- The line at fault, when there was one. -/
  fault : Option Fault := none
deriving DecidableEq, Repr

namespace Machine

/-- Puts a program before the machine, to be run from its first line. -/
def load (p : Program) (m : Machine) : Machine :=
  { bank := m.bank, program := p, line := 0, state := .running, executed := 0, fault := none }

/-- Stops the program in the given state. -/
def stop (s : State) (m : Machine) : Machine × List Event :=
  ({ m with state := s }, [.stopped s (m.line + 1) m.executed, .save m.bank])

/-- Stops the program because of a fault on the current line. -/
def fail (text : Bytes) (causes : List Cause) (m : Machine) : Machine × List Event :=
  let fault : Fault := { line := m.line + 1, text := text, causes := causes }
  let (m', events) := stop .errored { m with fault := some fault }
  (m', .faulted fault :: events)

/-- Executes the instruction on the current line. -/
def perform (text : Bytes) (i : Instruction) (m : Machine) : Machine × List Event :=
  let announced := Event.executing (m.line + 1) i
  match i.execute m.bank with
  | .error causes =>
    let (m', events) := m.fail text causes
    (m', announced :: events)
  | .ok effect =>
    let shown := effect.shown.toList.map fun (r, v) => Event.shown r v
    let m' := { m with bank := effect.bank, executed := m.executed + 1 }
    if effect.halted then
      let (m'', events) := m'.stop .halted
      (m'', announced :: shown ++ events)
    else ({ m' with line := m.line + 1 }, announced :: shown)

/-- Runs the next line.  A machine that has stopped does nothing. -/
def step (m : Machine) : Machine × List Event :=
  if m.state.terminal then (m, [])
  else if m.program.length ≤ m.line then m.stop .completed
  else
    let text := m.program.line m.line
    match Instruction.decode text with
    | .error cause => m.fail text [cause]
    | .ok .nop => ({ m with line := m.line + 1 }, [])
    | .ok i => m.perform text i

/-- How many more lines the machine looks at, at most. -/
def remaining (m : Machine) : Nat :=
  if m.state.terminal then 0 else m.program.length - m.line + 1

/-- Executing an instruction stops the program or goes on to the next line. -/
theorem remaining_perform_lt (text : Bytes) (i : Instruction) (m : Machine)
    (hline : m.line < m.program.length) (hrun : m.state = .running) :
    (m.perform text i).1.remaining < m.remaining := by
  have hm : m.remaining = m.program.length - m.line + 1 := by simp [remaining, State.terminal, hrun]
  rw [hm]
  unfold perform
  split
  · simp [fail, stop, remaining, State.terminal]
  · rename_i effect _
    by_cases h : effect.halted <;> simp [h, stop, remaining, State.terminal, hrun]
    omega

/-- Every step of a running program brings it nearer to its end. -/
theorem remaining_step_lt (m : Machine) (h : ¬ m.state.terminal = true) :
    m.step.1.remaining < m.remaining := by
  have hrun : m.state = .running := by simpa [State.terminal] using h
  have hm : m.remaining = m.program.length - m.line + 1 := by simp [remaining, h]
  rw [step, if_neg h]
  split
  · rw [hm]; simp [stop, remaining, State.terminal]
  · rename_i hline
    simp only [Nat.not_le] at hline
    dsimp only
    split
    · rw [hm]; simp [fail, stop, remaining, State.terminal]
    · rw [hm]; simp [remaining, State.terminal, hrun]; omega
    · exact remaining_perform_lt _ _ m hline hrun

/-- Runs lines until the program stops. -/
def finish (m : Machine) : Machine × List Event :=
  if _h : m.state.terminal then (m, [])
  else
    let s := m.step
    let (m', events) := s.1.finish
    (m', s.2 ++ events)
termination_by m.remaining
decreasing_by exact remaining_step_lt m _h

/-- Runs a program from its first line until it stops. -/
def run (p : Program) (m : Machine) : Machine × List Event :=
  (m.load p).finish

end Machine

end RegisterMachine
