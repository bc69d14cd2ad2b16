/-
What the actions of a session do.

* `Machine.banks_step`, `Machine.banks_run`: a machine saves its bank when it
  stops, and at no other time;
* `Session.perform_step_running`, `Session.perform_step_stopping`,
  `Session.perform_run`: stepping and running, with the answer of the store;
* `Session.machine_run`, `Session.shown_run`, `Session.saves_run`: the machine after a
  run, what it has shown and what it has saved;
* `Session.run_eq_reference`: **a run is what the reference interpreter says**,
  whatever the store answers, and whatever stands behind the line at which the
  program stops.
-/
import RegisterMachine.Machine.Session
import RegisterMachine.Proofs.Machine.Reference

namespace RegisterMachine

namespace Session

/-- The answer of the store to the next save. -/
def verdict (s : Session) : Option Bytes :=
  s.answers.headD none

/-! ### Giving events to the store -/

lemma nextAnswer_eq (s : Session) :
    s.nextAnswer = (s.verdict, { s with answers := s.answers.tail }) := by
  obtain ⟨m, answers⟩ := s
  cases answers <;> rfl

/-- Events without a save are no matter for the store. -/
lemma deliver_append {es : List Event} (h : es.filterMap Event.bank? = []) (s : Session)
    (later : List Event) : s.deliver (es ++ later) = s.deliver later := by
  induction es with
  | nil => rfl
  | cons e es ih =>
      cases e with
      | save b => simp [Event.bank?] at h
      | _ => exact ih h

lemma deliver_of_banks_nil {es : List Event} (h : es.filterMap Event.bank? = []) (s : Session) :
    s.deliver es = (none, s) := by
  have happend := deliver_append h s []
  rwa [List.append_nil] at happend

/-- The store answers the only save among events. -/
lemma deliver_of_banks_singleton {es : List Event} {b : Bank}
    (h : es.filterMap Event.bank? = [b]) (s : Session) :
    s.deliver es = (s.verdict, { s with answers := s.answers.tail }) := by
  induction es with
  | nil => simp at h
  | cons e es ih =>
      cases e with
      | save b' =>
          have hrest : es.filterMap Event.bank? = [] := (List.cons.inj h).2
          rw [deliver, nextAnswer_eq]
          dsimp only
          rw [deliver_of_banks_nil hrest]
          rfl
      | _ => exact ih h

lemma machine_deliver (s : Session) (es : List Event) : (s.deliver es).2.machine = s.machine := by
  induction es generalizing s with
  | nil => rfl
  | cons e es ih =>
      cases e with
      | save b =>
          rw [deliver, nextAnswer_eq]
          exact ih _
      | _ => exact ih s

lemma machine_advance (s : Session) (next : Machine × List Event) :
    (s.advance next).1.machine = next.1 :=
  machine_deliver _ _

lemma advance_of_banks_nil {next : Machine × List Event}
    (h : next.2.filterMap Event.bank? = []) (s : Session) :
    s.advance next = ({ s with machine := next.1 }, { events := next.2 }) := by
  rw [advance, deliver_of_banks_nil h]
  rfl

lemma advance_of_banks_singleton {next : Machine × List Event} {b : Bank}
    (h : next.2.filterMap Event.bank? = [b]) (s : Session) :
    s.advance next = (⟨next.1, s.answers.tail⟩,
      { events := next.2, error := s.verdict.map .persistence }) := by
  rw [advance, deliver_of_banks_singleton h]
  rfl

end Session

/-! ### Saves of a step and of a run -/

namespace Machine

/-- The banks that are saved by a step of a running machine: none when it goes
on, and its own bank, which the step leaves alone, when it stops. -/
lemma banks_step {m : Machine} (hrun : m.state = .running) :
    (m.step.1.state = .running ∧ m.step.2.filterMap Event.bank? = [])
      ∨ (m.step.1.state ≠ .running ∧ m.step.1.bank = m.bank
        ∧ m.step.2.filterMap Event.bank? = [m.step.1.bank]) := by
  obtain ⟨-, h⟩ | ⟨l, cause, -, -, h⟩ | ⟨l, -, -, h⟩ | ⟨l, i, -, -, -, h⟩ := step_cases hrun
  · exact .inr (by rw [h]; exact ⟨by simp, rfl, rfl⟩)
  · exact .inr (by rw [h]; exact ⟨by simp, rfl, rfl⟩)
  · exact .inr (by rw [h]; exact ⟨by simp, rfl, rfl⟩)
  · exact .inl (by rw [h]; exact ⟨hrun, Instruction.banks_events _ _ _⟩)

/-- A run saves the bank that it ends with, and nothing else. -/
lemma banks_run (p : Program) (m : Machine) :
    (m.run p).2.filterMap Event.bank? = [(m.run p).1.bank] := by
  rw [run_eq, List.filterMap_append, Instruction.banks_eventsAll, banks_closing, List.nil_append]

/-- A run ends in a terminal state. -/
lemma state_run_ne_running (p : Program) (m : Machine) : (m.run p).1.state ≠ .running := by
  rw [run_eq]
  change p.ending ≠ .running
  unfold Program.ending
  split
  · simp
  · split <;> simp

end Machine

/-- The registers that were shown can be read off what the console was told. -/
lemma Report.shown_eq {r : Report} {shows : List (Int × Word)} {faults : List Fault}
    (h : r.events.filter Event.isConsole
      = (shows.map fun (i, v) => .shown i v) ++ faults.map .faulted) : r.shown = shows := by
  have hconsole : r.shown
      = ({ r with events := r.events.filter Event.isConsole } : Report).shown := by
    rw [shown, shown, List.filterMap_filter]
    refine List.filterMap_congr fun e _ => ?_
    cases e <;> rfl
  rw [hconsole, h, shown, List.filterMap_append, List.filterMap_map, List.filterMap_map]
  simp

namespace Session

/-- Running a program: the store answers the one save. -/
lemma perform_run (s : Session) (p : Program) :
    s.perform (.run p) = (⟨(s.machine.run p).1, s.answers.tail⟩,
      { events := (s.machine.run p).2, error := s.verdict.map .persistence }) := by
  rw [perform, advance_of_banks_singleton (s.machine.banks_run p)]

/-- Stepping a machine that has stopped does nothing. -/
lemma perform_step_terminal {s : Session} (h : s.machine.state ≠ .running) :
    s.perform .step = (s, {}) := by
  rw [perform, Machine.step_terminal h]
  rfl

/-- Stepping a running machine that goes on. -/
lemma perform_step_running {s : Session} (h : s.machine.state = .running)
    (hnext : s.machine.step.1.state = .running) :
    s.perform .step = ({ s with machine := s.machine.step.1 }, { events := s.machine.step.2 }) := by
  obtain ⟨-, hbanks⟩ | ⟨hstop, -⟩ := Machine.banks_step h
  · rw [perform, advance_of_banks_nil hbanks]
  · exact absurd hnext hstop

/-- Stepping a running machine that stops: the store answers the one save. -/
lemma perform_step_stopping {s : Session} (h : s.machine.state = .running)
    (hnext : s.machine.step.1.state ≠ .running) :
    s.perform .step = (⟨s.machine.step.1, s.answers.tail⟩,
      { events := s.machine.step.2, error := s.verdict.map .persistence }) := by
  obtain ⟨hgo, -⟩ | ⟨-, -, hbanks⟩ := Machine.banks_step h
  · exact absurd hgo hnext
  · rw [perform, advance_of_banks_singleton hbanks]

/-! ### What a run shows and saves -/

/-- What the console is told in a run: the registers shown, and then the fault. -/
lemma console_run (s : Session) (p : Program) :
    (s.perform (.run p)).2.events.filter Event.isConsole
      = ((Instruction.showsAll s.machine.bank p.body).map fun (i, v) => .shown i v)
        ++ p.fault?.toList.map .faulted := by
  have hfault : (Machine.reference p s.machine.bank).state = .halted →
      (Machine.reference p s.machine.bank).fault = none := Program.fault?_of_halted
  rw [perform_run, Machine.run_eq, List.filter_append, Instruction.console_eventsAll,
    Machine.console_closing hfault]
  rfl

/-- The registers shown in a run. -/
lemma shown_run (s : Session) (p : Program) :
    (s.perform (.run p)).2.shown = Instruction.showsAll s.machine.bank p.body :=
  Report.shown_eq (s.console_run p)

/-- A run saves the bank that it ends with. -/
lemma saves_run (s : Session) (p : Program) :
    (s.perform (.run p)).2.saves = [p.result s.machine.bank] := by
  have hbanks := s.machine.banks_run p
  rw [perform_run]
  rw [Machine.run_eq] at hbanks ⊢
  exact hbanks

/-- The machine after a run. -/
lemma machine_run (s : Session) (p : Program) :
    (s.perform (.run p)).1.machine = Machine.reference p s.machine.bank := by
  rw [perform_run, Machine.run_eq]

/-! ### Runs against the reference interpreter -/

/-- **A run is what the reference interpreter says.**  The machine ends as the
interpreter ends; the console hears of the registers shown, in order, and then
of the fault, if there is one; the final bank is saved once, after all else; and
the run fails just when that save is refused, which changes nothing else.  Lines
behind the one at which the program stops have no influence. -/
theorem run_eq_reference (s : Session) (p : Program) :
    let b := s.machine.bank
    let (s', report) := s.perform (.run p)
    s'.machine = Machine.reference p b
      ∧ report.events.filter Event.isConsole
          = ((Instruction.showsAll b p.body).map fun (r, v) => .shown r v)
            ++ p.fault?.toList.map .faulted
      ∧ report.saves = [p.result b]
      ∧ report.events.getLast? = some (.save (p.result b))
      ∧ report.error = s.verdict.map .persistence
      ∧ s'.answers = s.answers.tail
      ∧ (∀ answers, (({ s with answers } : Session).perform (.run p)).1.machine = s'.machine
          ∧ (({ s with answers } : Session).perform (.run p)).2.events = report.events)
      ∧ (p.stopLine < p.length → ∀ rest,
          s.perform (.run (p.take (p.stopLine + 1) ++ rest))
            = ({ s' with machine :=
                { s'.machine with program := p.take (p.stopLine + 1) ++ rest } }, report)) := by
  intro b
  rw [perform_run]
  refine ⟨?_, ?_, ?_, ?_, rfl, rfl, fun answers => ?_, fun h rest => ?_⟩
  · rw [Machine.run_eq]
  · have hfault : (Machine.reference p b).state = .halted →
        (Machine.reference p b).fault = none := fun h => Program.fault?_of_halted h
    rw [Machine.run_eq, List.filter_append, Instruction.console_eventsAll,
      Machine.console_closing hfault]
    rfl
  · have hbanks := s.machine.banks_run p
    rw [Machine.run_eq] at hbanks ⊢
    exact hbanks
  · rw [Machine.run_eq, List.getLast?_append, Machine.getLast?_closing]
    rfl
  · rw [perform_run]
    exact ⟨rfl, rfl⟩
  · rw [perform_run, Machine.run_take_append h]

end Session

end RegisterMachine
