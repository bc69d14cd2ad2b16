/-
What holds of a machine however it was brought to its state.

* `Machine.Sound`: the invariant, which ties the current line, the state, the
  count of executed instructions and the fault to the text of the program;
* `Machine.Sound.step`, `Machine.Sound.finish`: a step keeps it, and so does
  running a program to its end;
* `Session.sound_after`: **every machine that a history of actions can reach is
  sound**, whatever the store answers.
-/
import RegisterMachine.Proofs.Machine.Persistence

namespace RegisterMachine

/-- The line is decoded to the instruction that does nothing. -/
def Program.isBlank (line : Bytes) : Bool :=
  match Instruction.decode line with
  | .ok i => i = .nop
  | .error _ => false

/-- The fields of a machine agree with the text of its program. -/
structure Machine.Sound (m : Machine) : Prop where
  line_le : m.line ≤ m.program.length
  /-- The lines before the current one were decoded, and none was a halt. -/
  passed : ∀ l ∈ m.program.take m.line, ∃ i, Instruction.decode l = .ok i ∧ i ≠ .halt
  /-- Lines that are not blank count as executed, and so does a halt. -/
  executed : m.executed = (m.program.take m.line).countP (fun l => !Program.isBlank l)
    + if m.state = .halted then 1 else 0
  errored : m.fault.isSome ↔ m.state = .errored
  /-- The fault names the current line, which cannot be decoded. -/
  fault : ∀ f, m.fault = some f → ∃ l cause, m.program[m.line]? = some l
    ∧ Instruction.decode l = .error cause ∧ f = .ofLine m.line l cause
  halted : m.state = .halted →
    ∃ l, m.program[m.line]? = some l ∧ Instruction.decode l = .ok .halt
  completed : m.state = .completed → m.line = m.program.length

namespace Program

/-- A line that was decoded counts as an executed instruction unless it is
blank. -/
lemma countP_singleton_of_decode {l : Bytes} {i : Instruction} (h : Instruction.decode l = .ok i) :
    [l].countP (fun l => !isBlank l) = i.weight := by
  rw [List.countP_singleton, isBlank, h, Instruction.weight]
  by_cases hi : i = .nop <;> simp [hi]

end Program

namespace Machine

variable {m : Machine}

/-- A new machine is sound, over every bank. -/
lemma sound_new (b : Bank) : Sound { bank := b } where
  line_le := Nat.le_refl 0
  passed := by simp
  executed := rfl
  errored := by simp
  fault := by simp
  halted := by simp
  completed := fun _ => rfl

/-- A machine is sound when a program has been loaded. -/
lemma sound_load (p : Program) (m : Machine) : (m.load p).Sound where
  line_le := Nat.zero_le _
  passed := by simp [load]
  executed := by simp [load]
  errored := by simp [load]
  fault := by simp [load]
  halted := by simp [load]
  completed := by simp [load]

namespace Sound

/-- Writing registers from outside keeps a machine sound. -/
lemma withBank (h : m.Sound) (b : Bank) : Sound { m with bank := b } :=
  ⟨h.line_le, h.passed, h.executed, h.errored, h.fault, h.halted, h.completed⟩

lemma fault_eq_none (h : m.Sound) (hrun : m.state = .running) : m.fault = none := by
  have hnot : ¬ m.fault.isSome := fun hsome => by simp [h.errored.mp hsome] at hrun
  simpa using hnot

/-- A step keeps a machine sound. -/
lemma step (h : m.Sound) : m.step.1.Sound := by
  by_cases hrun : m.state = .running
  · have hnone := h.fault_eq_none hrun
    have hcount : m.executed = (m.program.take m.line).countP (fun l => !Program.isBlank l) := by
      rw [h.executed, if_neg (by simp [hrun]), Nat.add_zero]
    obtain ⟨hend, hstep⟩ | ⟨l, cause, hget, hdecode, hstep⟩ | ⟨l, hget, hdecode, hstep⟩
      | ⟨l, i, hget, hdecode, hi, hstep⟩ := step_cases hrun
    · rw [hstep]
      exact {
        line_le := h.line_le
        passed := h.passed
        executed := by simp [hcount]
        errored := by simp [hnone]
        fault := by simp [hnone]
        halted := by simp
        completed := fun _ => Nat.le_antisymm h.line_le hend }
    · rw [hstep]
      exact {
        line_le := h.line_le
        passed := h.passed
        executed := by simp [hcount]
        errored := by simp
        fault := fun f hf => ⟨l, cause, hget, hdecode, (Option.some.inj hf).symm⟩
        halted := by simp
        completed := by simp }
    · rw [hstep]
      exact {
        line_le := h.line_le
        passed := h.passed
        executed := by simp [hcount]
        errored := by simp [hnone]
        fault := by simp [hnone]
        halted := fun _ => ⟨l, hget, hdecode⟩
        completed := by simp }
    · obtain ⟨hline, hl⟩ := List.getElem?_eq_some_iff.mp hget
      have htake : m.program.take (m.line + 1) = m.program.take m.line ++ [l] := by
        rw [← hl, List.take_append_getElem hline]
      rw [hstep]
      exact {
        line_le := hline
        passed := by
          intro x hx
          rw [htake, List.mem_append, List.mem_singleton] at hx
          rcases hx with hx | rfl
          · exact h.passed x hx
          · exact ⟨i, hdecode, hi⟩
        executed := by
          dsimp only
          rw [htake, List.countP_append, Program.countP_singleton_of_decode hdecode, hcount,
            if_neg (by simp [hrun]), Nat.add_zero]
        errored := by simp [hnone, hrun]
        fault := by simp [hnone]
        halted := by simp [hrun]
        completed := by simp [hrun] }
  · rw [step_terminal hrun]
    exact h

/-- Running a program to its end keeps a machine sound. -/
lemma finish (h : m.Sound) : m.finish.1.Sound := by
  induction hn : m.remaining using Nat.strongRecOn generalizing m with
  | ind k ih =>
      subst hn
      by_cases hrun : m.state = .running
      · rw [finish_running hrun]
        exact ih _ (m.remaining_step_lt (by simp [hrun])) h.step rfl
      · rw [finish_terminal hrun]
        exact h

end Sound

end Machine

namespace Session

/-- An action keeps the machine sound. -/
lemma sound_perform {s : Session} (h : s.machine.Sound) (a : Action) :
    (s.perform a).1.machine.Sound := by
  cases a with
  | load p => exact s.machine.sound_load p
  | step =>
      rw [perform, machine_advance]
      exact h.step
  | run p =>
      rw [perform, machine_advance]
      exact (s.machine.sound_load p).finish
  | set i v =>
      rw [perform]
      split
      · exact h.withBank _
      · exact h

/-- **Every machine that a history of actions can reach is sound**, from a new
machine over any bank and whatever the store answers. -/
theorem sound_after (b : Bank) (answers : List (Option Bytes)) (actions : List Action) :
    ((Session.start b answers).after actions).machine.Sound := by
  have hrun (s : Session) (h : s.machine.Sound) : (s.after actions).machine.Sound := by
    induction actions generalizing s with
    | nil => exact h
    | cons a rest ih => exact ih _ (sound_perform h a)
  exact hrun _ (Machine.sound_new b)

end Session

end RegisterMachine
