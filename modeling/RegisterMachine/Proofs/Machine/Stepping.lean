/-
Running a program by hand, step by step.

* `Turn.AddUp`: what single turns did, put together, is a report;
* `Session.steps_of_remaining`: as many steps as lines remain, or more, do together what
  finishing the program does;
* `Session.stopped_after_steps_iff`: after how many steps the program has stopped;
* `Session.steps_eq_run`: **loading and stepping is running**, and neither depends on what
  the machine did before.
-/
import RegisterMachine.Proofs.Machine.Persistence

namespace RegisterMachine

/-! ### What turns do together -/

namespace Turn

/-- What the turns told, logged and failed with is, put together, what the report
says. -/
structure AddUp (turns : List Turn) (r : Report) : Prop where
  events : turns.flatMap (·.report.events) = r.events
  records : turns.flatMap (·.report.records) = r.records
  errors : turns.filterMap (·.report.error) = r.error.toList

namespace AddUp

variable {t : Turn} {turns : List Turn} {r : Report}

lemma nil : AddUp [] {} :=
  ⟨rfl, rfl, rfl⟩

/-- A turn without an error is put before others. -/
lemma cons (ht : t.report.error = none) (h : AddUp turns r) :
    AddUp (t :: turns) { events := t.report.events ++ r.events, error := r.error } where
  events := by rw [List.flatMap_cons, h.events]
  records := by
    rw [List.flatMap_cons, h.records, Report.records, Report.records, Report.records, ht,
      List.append_nil, List.filterMap_append, List.append_assoc]
  errors := by rw [List.filterMap_cons_none (f := fun t : Turn => t.report.error) ht, h.errors]

/-- A turn is all, when nothing happens behind it. -/
lemma single (h : AddUp turns {}) : AddUp (t :: turns) t.report where
  events := by rw [List.flatMap_cons, h.events, List.append_nil]
  records := by
    rw [List.flatMap_cons, h.records]
    exact List.append_nil _
  errors := by
    have hnone : turns.filterMap (·.report.error) = [] := h.errors
    cases herror : t.report.error with
    | none =>
        rw [List.filterMap_cons_none (f := fun t : Turn => t.report.error) herror, hnone]
        rfl
    | some e =>
        rw [List.filterMap_cons_some (f := fun t : Turn => t.report.error) herror, hnone]
        rfl

lemma output (h : AddUp turns r) : turns.flatMap (·.report.output) = r.output := by
  rw [Report.output, ← h.events, List.flatMap_assoc]
  rfl

lemma shown (h : AddUp turns r) : turns.flatMap (·.report.shown) = r.shown := by
  rw [Report.shown, ← h.events, List.filterMap_flatMap]
  rfl

lemma saves (h : AddUp turns r) : turns.flatMap (·.report.saves) = r.saves := by
  rw [Report.saves, ← h.events, List.filterMap_flatMap]
  rfl

end AddUp

end Turn

/-! ### Steps one after another -/

namespace Machine

variable {m : Machine}

/-- A step of a running machine goes on to the next line, or stops at the current one. -/
lemma line_step (hrun : m.state = .running) :
    (m.step.1.state = .running ∧ m.step.1.line = m.line + 1)
      ∨ (m.step.1.state ≠ .running ∧ m.step.1.line = m.line) := by
  obtain ⟨-, h⟩ | ⟨l, cause, -, -, h⟩ | ⟨l, -, -, h⟩ | ⟨l, i, -, -, -, h⟩ := step_cases hrun
  · exact .inr (by rw [h]; exact ⟨by simp, rfl⟩)
  · exact .inr (by rw [h]; exact ⟨by simp, rfl⟩)
  · exact .inr (by rw [h]; exact ⟨by simp, rfl⟩)
  · exact .inl (by rw [h]; exact ⟨hrun, rfl⟩)

/-- A program never goes back. -/
lemma line_le_finish (m : Machine) : m.line ≤ m.finish.1.line := by
  induction hn : m.remaining using Nat.strongRecOn generalizing m with
  | ind k ih =>
      subst hn
      by_cases hrun : m.state = .running
      · have hrest := ih _ (m.remaining_step_lt (by simp [hrun])) m.step.1 rfl
        rw [finish_running hrun]
        dsimp only
        obtain ⟨-, hline⟩ | ⟨-, hline⟩ := line_step hrun
        · omega
        · omega
      · have hstill := congrArg (fun r => r.1.line) (finish_terminal hrun)
        exact Nat.le_of_eq hstill.symm

/-- A machine of which nothing remains to be done has stopped. -/
lemma state_ne_running_of_remaining (h : m.remaining = 0) : m.state ≠ .running := by
  intro hrun
  rw [remaining, hrun] at h
  exact absurd h (by simp)

end Machine

namespace Session

lemma turns_steps_succ (s : Session) (n : Nat) :
    s.turns (List.replicate (n + 1) .step)
      = ⟨s, .step, (s.perform .step).1, (s.perform .step).2⟩
        :: (s.perform .step).1.turns (List.replicate n .step) :=
  rfl

lemma after_steps_succ (s : Session) (n : Nat) :
    s.after (List.replicate (n + 1) .step)
      = (s.perform .step).1.after (List.replicate n .step) :=
  rfl

/-- Steps of a machine that has stopped do nothing. -/
lemma steps_terminal (n : Nat) {s : Session} (h : s.machine.state ≠ .running) :
    s.after (List.replicate n .step) = s ∧ Turn.AddUp (s.turns (List.replicate n .step)) {} := by
  induction n with
  | zero => exact ⟨rfl, .nil⟩
  | succ n ih =>
      rw [after_steps_succ, turns_steps_succ, perform_step_terminal h]
      exact ⟨ih.1, ih.2.cons rfl⟩

/-- **Enough steps finish a program.**  As many steps as lines remain, or more, end in the
session that finishing the program ends in, and do together what it does.  The induction
is on the number of steps: a step leaves a machine of which less remains, and once it has
stopped, the others do nothing. -/
theorem steps_of_remaining (n : Nat) (s : Session) (h : s.machine.remaining ≤ n) :
    s.after (List.replicate n .step) = (s.advance s.machine.finish).1
      ∧ Turn.AddUp (s.turns (List.replicate n .step)) (s.advance s.machine.finish).2 := by
  induction n generalizing s with
  | zero =>
      have hstop := Machine.state_ne_running_of_remaining (Nat.le_zero.mp h)
      rw [advance_finish_terminal hstop]
      exact steps_terminal 0 hstop
  | succ n ih =>
      by_cases hrun : s.machine.state = .running
      · have hless := s.machine.remaining_step_lt (by simp [hrun])
        rw [after_steps_succ, turns_steps_succ]
        by_cases hnext : s.machine.step.1.state = .running
        · have hrest : s.machine.step.1.remaining ≤ n := by omega
          obtain ⟨hafter, hturns⟩ := ih { s with machine := s.machine.step.1 } hrest
          rw [perform_step_running hrun hnext, advance_finish_running hrun hnext]
          exact ⟨hafter, hturns.cons rfl⟩
        -- the step that stops is the one that saves, so all that is left is its report
        · have hstop : (s.perform .step).1.machine.state ≠ .running := by
            rwa [perform, machine_advance]
          obtain ⟨hafter, hturns⟩ := steps_terminal n hstop
          rw [advance_finish_stopping hrun hnext]
          exact ⟨hafter, hturns.single⟩
      · rw [advance_finish_terminal hrun]
        exact steps_terminal (n + 1) hrun

/-- A running program has stopped after as many steps as it goes through lines, and one
more, and not before. -/
lemma stopped_after_steps_iff (n : Nat) {s : Session} (hrun : s.machine.state = .running) :
    (s.after (List.replicate n .step)).machine.state ≠ .running
      ↔ s.machine.finish.1.line < s.machine.line + n := by
  induction n generalizing s with
  | zero =>
      have hle := s.machine.line_le_finish
      refine iff_of_false (fun h => h hrun) ?_
      omega
  | succ n ih =>
      rw [after_steps_succ, Machine.finish_running hrun]
      obtain ⟨hnext, hline⟩ | ⟨hnext, hline⟩ := Machine.line_step hrun
      · rw [perform_step_running hrun hnext, ih hnext]
        dsimp only
        omega
      · have hstop : (s.perform .step).1.machine.state ≠ .running := by
          rwa [perform, machine_advance]
        rw [(steps_terminal n hstop).1, Machine.finish_terminal hnext]
        refine iff_of_true hstop ?_
        dsimp only
        omega

/-- **Loading and stepping is running**, from every state that a machine can be in and
whatever the store answers.  A program has stopped after as many steps as the number of
the line at which it stops, counted from one, and not before; that line is at most the one
behind the last.  So with one step more than there are lines, or with any greater number,
the machine has stopped; it has the same bank and the same result as after a run, and the
steps together have told, printed, logged and saved the same, and failed alike.  All of it
is the same again when a new machine runs the program over the same bank. -/
theorem steps_eq_run (s : Session) (p : Program) :
    let run := s.perform (.run p)
    run.1.machine.line ≤ p.length
      ∧ (∀ n, (s.after (.load p :: List.replicate n .step)).machine.state ≠ .running
          ↔ run.1.machine.line < n)
      ∧ (∀ n, p.length + 1 ≤ n →
          let actions := .load p :: List.replicate n .step
          (s.after actions).machine.state ≠ .running
            ∧ s.after actions = run.1
            ∧ (s.turns actions).flatMap (·.report.events) = run.2.events
            ∧ (s.turns actions).flatMap (·.report.shown) = run.2.shown
            ∧ (s.turns actions).flatMap (·.report.output) = run.2.output
            ∧ (s.turns actions).flatMap (·.report.records) = run.2.records
            ∧ (s.turns actions).flatMap (·.report.saves) = run.2.saves
            ∧ (s.turns actions).filterMap (·.report.error) = run.2.error.toList)
      ∧ (Session.start s.machine.bank s.answers).perform (.run p) = run := by
  intro run
  set loaded : Session := { s with machine := s.machine.load p } with hloaded
  have hline : run.1.machine.line = loaded.machine.finish.1.line :=
    congrArg Machine.line (machine_advance _ _)
  have hle : run.1.machine.line ≤ p.length := by
    simp only [run, machine_run]
    exact List.findIdx_le_length
  have hstopped (n : Nat) :
      (s.after (.load p :: List.replicate n .step)).machine.state ≠ .running
        ↔ run.1.machine.line < n := by
    have h := stopped_after_steps_iff n (s := loaded) rfl
    rwa [← hline, hloaded, Machine.load, Nat.zero_add] at h
  refine ⟨hle, hstopped, fun n hn => ?_, rfl⟩
  intro actions
  have hremaining : loaded.machine.remaining ≤ n := hn
  obtain ⟨hafter, hturns⟩ := steps_of_remaining n loaded hremaining
  have hall : Turn.AddUp (s.turns actions) run.2 := hturns.cons rfl
  exact ⟨(hstopped n).mpr (by omega), hafter, hall.events, hall.shown, hall.output, hall.records,
    hall.saves, hall.errors⟩

end Session

end RegisterMachine
