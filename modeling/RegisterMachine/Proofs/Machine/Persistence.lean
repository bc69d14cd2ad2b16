/-
When a machine is saved, over any history of actions.

* `Turn`, `Session.turns`: the actions of a history, each with the session
  before and after it and with its report;
* `Turn.Disciplined`: the bank is saved just when the program stops, and an action
  fails just when that save is refused;
* `Session.unroll`: a run is a load followed by steps, of which only the last
  one stops;
* `Session.saves_over_history`: **every history is disciplined**: there is at
  most one save between two loads, and a machine that has stopped stays as it is
  until the next.
-/
import RegisterMachine.Proofs.Machine.Session

namespace RegisterMachine

/-- The action puts a program before the machine. -/
def Action.loads : Action → Bool
  | .load _ => true
  | .run _ => true
  | _ => false

/-- An action of a history, with the session before and after it. -/
structure Turn where
  before : Session
  action : Action
  after : Session
  report : Report

namespace Turn

/-- The program stops: the action takes the machine from the running state to a
terminal one.  A run starts from the machine with its program loaded. -/
def stops (t : Turn) : Bool :=
  match t.action with
  | .step => t.before.machine.state = .running && t.after.machine.state ≠ .running
  | .run p => (t.before.machine.load p).state = .running && t.after.machine.state ≠ .running
  | _ => false

/-- The store is asked just when the program stops, and the action fails just
when the store refuses. -/
structure Disciplined (t : Turn) : Prop where
  /-- The bank is saved once when the program stops, and at no other time. -/
  saves : t.report.saves = if t.stops then [t.after.machine.bank] else []
  /-- An action on the program fails just when its save is refused. -/
  error : (∀ i v, t.action ≠ .set i v) →
    t.report.error = if t.stops then t.before.verdict.map .persistence else none
  /-- Every save takes one answer of the store. -/
  answers : t.after.answers = if t.stops then t.before.answers.tail else t.before.answers
  /-- A step of a machine that has stopped does nothing at all. -/
  idle : t.action = .step → t.before.machine.state ≠ .running →
    t.after = t.before ∧ t.report = {}

/-- Nothing happens but that the bank may be written from outside. -/
def Quiet (t : Turn) : Prop :=
  t.report.events = []
    ∧ t.after = { t.before with machine :=
        { t.before.machine with bank := t.after.machine.bank } }

end Turn

namespace Session

/-- The actions of a history that starts in a session, with what they did. -/
def turns (s : Session) : List Action → List Turn
  | [] => []
  | a :: rest => ⟨s, a, (s.perform a).1, (s.perform a).2⟩ :: (s.perform a).1.turns rest

/-- The session after a history. -/
def after (s : Session) (actions : List Action) : Session :=
  actions.foldl (fun s a => (s.perform a).1) s

/-- The banks that were given to the store in a history. -/
def saves (s : Session) (actions : List Action) : List Bank :=
  (s.turns actions).flatMap (·.report.saves)

/-- A running program costs one more save. -/
def due (s : Session) : Nat :=
  if s.machine.state = .running then 1 else 0

/-! ### A run as its steps -/

/-- A machine that has stopped is finished without a word. -/
lemma advance_finish_terminal {s : Session} (h : s.machine.state ≠ .running) :
    s.advance s.machine.finish = (s, {}) := by
  rw [Machine.finish_terminal h]
  rfl

/-- Finishing a program that goes on: the store has nothing to do with the first step. -/
lemma advance_finish_running {s : Session} (h : s.machine.state = .running)
    (hnext : s.machine.step.1.state = .running) :
    let rest := ({ s with machine := s.machine.step.1 } : Session).advance s.machine.step.1.finish
    s.advance s.machine.finish
      = (rest.1, { events := s.machine.step.2 ++ rest.2.events, error := rest.2.error }) := by
  intro rest
  have hbanks : s.machine.step.2.filterMap Event.bank? = [] := by
    obtain ⟨-, hnone⟩ | ⟨hstop, -⟩ := Machine.banks_step h
    · exact hnone
    · exact absurd hnext hstop
  rw [Machine.finish_running h, advance]
  dsimp only
  rw [deliver_append hbanks]
  rfl

/-- Finishing a program that stops at once is a step. -/
lemma advance_finish_stopping {s : Session} (h : s.machine.state = .running)
    (hnext : s.machine.step.1.state ≠ .running) :
    s.advance s.machine.finish = s.perform .step := by
  rw [Machine.finish_running h, Machine.finish_terminal hnext, List.append_nil]
  rfl

/-- **A running program is finished by steps**, of which only the last one
stops. -/
theorem unroll (s : Session) (hrun : s.machine.state = .running) :
    ∃ n, let steps := s.turns (List.replicate (n + 1) .step)
      s.after (List.replicate (n + 1) .step) = (s.advance s.machine.finish).1
        ∧ steps.flatMap (·.report.events) = s.machine.finish.2
        ∧ steps.getLast?.bind (·.report.error) = (s.advance s.machine.finish).2.error
        ∧ ∀ t ∈ steps.dropLast, t.after.machine.state = .running := by
  -- every step brings the program nearer to its end
  induction hn : s.machine.remaining using Nat.strongRecOn generalizing s with
  | ind k ih =>
      subst hn
      have hless : s.machine.step.1.remaining < s.machine.remaining :=
        s.machine.remaining_step_lt (by simp [hrun])
      by_cases hnext : s.machine.step.1.state = .running
      · have hstep := perform_step_running hrun hnext
        have hadvance := advance_finish_running hrun hnext
        obtain ⟨n, hafter, hevents, herror, hrunning⟩ :=
          ih _ hless { s with machine := s.machine.step.1 } hnext rfl
        refine ⟨n + 1, ?_, ?_, ?_, ?_⟩
        · rw [List.replicate_succ, after, List.foldl_cons, hstep, hadvance]
          exact hafter
        · rw [List.replicate_succ, turns, List.flatMap_cons, hstep, hevents,
            Machine.finish_running hrun]
        · rw [List.replicate_succ, turns, hstep, hadvance, ← herror, List.replicate_succ, turns,
            List.getLast?_cons_cons]
        · intro t ht
          rw [List.replicate_succ, turns, hstep, List.replicate_succ, turns,
            List.dropLast_cons_cons, List.mem_cons] at ht
          rcases ht with rfl | ht
          · exact hnext
          · exact hrunning t ht
      · have hadvance := advance_finish_stopping hrun hnext
        have hfinish : s.machine.finish = s.machine.step := by
          rw [Machine.finish_running hrun, Machine.finish_terminal hnext, List.append_nil]
        refine ⟨0, ?_, ?_, ?_, by simp [turns]⟩
        · rw [hadvance]
          rfl
        · rw [hfinish]
          simp [turns, perform_step_stopping hrun hnext]
        · rw [hadvance]
          rfl

end Session

/-! ### Single actions -/

namespace Turn

variable {t : Turn}

lemma disciplined_of_stops (h : t.stops = true) (hsaves : t.report.saves = [t.after.machine.bank])
    (herror : t.report.error = t.before.verdict.map .persistence)
    (hanswers : t.after.answers = t.before.answers.tail)
    (hbefore : t.action = .step → t.before.machine.state = .running) : t.Disciplined where
  saves := by rw [h, hsaves, if_pos rfl]
  error := fun _ => by rw [h, herror, if_pos rfl]
  answers := by rw [h, hanswers, if_pos rfl]
  idle := fun hstep hterminal => absurd (hbefore hstep) hterminal

lemma disciplined_of_not_stops (h : t.stops = false) (hsaves : t.report.saves = [])
    (herror : (∀ i v, t.action ≠ .set i v) → t.report.error = none)
    (hanswers : t.after.answers = t.before.answers)
    (hidle : t.action = .step → t.before.machine.state ≠ .running →
      t.after = t.before ∧ t.report = {}) : t.Disciplined where
  saves := by rw [h, hsaves, if_neg (by simp)]
  error := fun hset => by rw [h, herror hset, if_neg (by simp)]
  answers := by rw [h, hanswers, if_neg (by simp)]
  idle := hidle

end Turn

namespace Session

/-- A step is disciplined. -/
lemma disciplined_step (s : Session) :
    Turn.Disciplined ⟨s, .step, (s.perform .step).1, (s.perform .step).2⟩ := by
  by_cases hrun : s.machine.state = .running
  · obtain ⟨hnext, hbanks⟩ | ⟨hnext, -, hbanks⟩ := Machine.banks_step hrun
    · rw [perform_step_running hrun hnext]
      exact Turn.disciplined_of_not_stops (by simp [Turn.stops, hnext]) hbanks (fun _ => rfl) rfl
        fun _ h => absurd hrun h
    · rw [perform_step_stopping hrun hnext]
      exact Turn.disciplined_of_stops (by simp [Turn.stops, hrun, hnext]) hbanks rfl rfl
        fun _ => hrun
  · rw [perform_step_terminal hrun]
    exact Turn.disciplined_of_not_stops (by simp [Turn.stops, hrun]) rfl (fun _ => rfl) rfl
      fun _ _ => ⟨rfl, rfl⟩

/-- Every action is disciplined. -/
lemma disciplined_perform (s : Session) (a : Action) :
    Turn.Disciplined ⟨s, a, (s.perform a).1, (s.perform a).2⟩ := by
  cases a with
  | load p => exact Turn.disciplined_of_not_stops rfl rfl (fun _ => rfl) rfl (by simp)
  | step => exact s.disciplined_step
  | run p =>
      rw [perform_run]
      exact Turn.disciplined_of_stops
        (by simp [Turn.stops, Machine.load, s.machine.state_run_ne_running p])
        (s.machine.banks_run p) rfl rfl (by simp)
  | set i v =>
      rw [perform]
      split
      · exact Turn.disciplined_of_not_stops rfl rfl (fun h => absurd rfl (h i v)) rfl (by simp)
      · exact Turn.disciplined_of_not_stops rfl rfl (fun h => absurd rfl (h i v)) rfl (by simp)

/-- What holds of every single action holds of every turn of a history. -/
lemma forall_turns {P : Turn → Prop}
    (h : ∀ s a, P ⟨s, a, (s.perform a).1, (s.perform a).2⟩) (s : Session)
    (actions : List Action) : ∀ t ∈ s.turns actions, P t := by
  induction actions generalizing s with
  | nil => simp [turns]
  | cons a rest ih =>
      intro t ht
      rw [turns, List.mem_cons] at ht
      rcases ht with rfl | ht
      · exact h s a
      · exact ih _ t ht

/-- A run is a load followed by steps, of which only the last one stops. -/
lemma unroll_run (s : Session) (p : Program) :
    ∃ n, let steps := s.turns (.load p :: List.replicate (n + 1) .step)
      s.after (.load p :: List.replicate (n + 1) .step) = (s.perform (.run p)).1
        ∧ steps.flatMap (·.report.events) = (s.perform (.run p)).2.events
        ∧ steps.getLast?.bind (·.report.error) = (s.perform (.run p)).2.error
        ∧ ∀ u ∈ steps.dropLast, u.after.machine.state = .running := by
  obtain ⟨n, hafter, hevents, herror, hrunning⟩ :=
    ({ s with machine := s.machine.load p } : Session).unroll rfl
  refine ⟨n, hafter, ?_, ?_, ?_⟩
  · rw [turns, List.flatMap_cons]
    exact hevents
  · rw [turns, List.replicate_succ, turns, List.getLast?_cons_cons]
    exact herror
  · intro u hu
    rw [turns, List.replicate_succ, turns, List.dropLast_cons_cons, List.mem_cons] at hu
    rcases hu with rfl | hu
    · rfl
    · exact hrunning u hu

/-- The machine after an action does not depend on the answers of the store. -/
lemma machine_perform (s : Session) (a : Action) (answers : List (Option Bytes)) :
    (({ s with answers } : Session).perform a).1.machine = (s.perform a).1.machine := by
  cases a with
  | load p => rfl
  | step => rw [perform, perform, machine_advance, machine_advance]
  | run p => rw [perform, perform, machine_advance, machine_advance]
  | set i v =>
      rw [perform, perform]
      dsimp only
      cases s.machine.bank.set i v <;> rfl

/-- A program that stops was loaded by the same action or was running before. -/
lemma saves_perform_le (s : Session) (a : Action) :
    (s.perform a).2.saves.length + (s.perform a).1.due
      ≤ s.due + if a.loads then 1 else 0 := by
  have h := s.disciplined_perform a
  have hsaves := h.saves
  dsimp only at hsaves
  cases a with
  | load p => simp [perform, Report.saves, due, Machine.load, Action.loads]
  | step =>
      by_cases hrun : s.machine.state = .running
      · by_cases hnext : (s.perform .step).1.machine.state = .running
        · simp [hsaves, Turn.stops, due, hrun, hnext]
        · simp [hsaves, Turn.stops, due, hrun, hnext]
      · obtain ⟨hafter, hreport⟩ := h.idle rfl hrun
        dsimp only at hafter hreport
        rw [hafter, hreport]
        simp [Report.saves]
  | run p =>
      have hstopped : (s.perform (.run p)).1.machine.state ≠ .running := by
        rw [perform_run]
        exact s.machine.state_run_ne_running p
      simp [hsaves, Turn.stops, due, hstopped, Machine.load, Action.loads]
  | set i v =>
      rw [perform]
      split <;> simp [Report.saves, due]

/-- There are no more saves in a history than loads, and one for the program that
is running at its start. -/
lemma length_saves_le (s : Session) (actions : List Action) :
    (s.saves actions).length ≤ s.due + actions.countP Action.loads := by
  induction actions generalizing s with
  | nil => simp [saves, turns]
  | cons a rest ih =>
      have hfirst := s.saves_perform_le a
      have hrest := ih (s.perform a).1
      rw [saves] at hrest ⊢
      rw [turns, List.flatMap_cons, List.length_append, List.countP_cons]
      dsimp only
      omega

/-- While nothing is loaded, a machine that has stopped stays as it is. -/
lemma quiet_of_terminal {actions : List Action} (hquiet : ∀ a ∈ actions, a.loads = false)
    (s : Session) (h : s.machine.state ≠ .running) : ∀ t ∈ s.turns actions, t.Quiet := by
  induction actions generalizing s with
  | nil => simp [turns]
  | cons a rest ih =>
      have hrest : ∀ b ∈ rest, b.loads = false := fun b hb => hquiet b (by simp [hb])
      intro t ht
      rw [turns, List.mem_cons] at ht
      cases a with
      | load p => exact absurd (hquiet (.load p) List.mem_cons_self) (by simp [Action.loads])
      | run p => exact absurd (hquiet (.run p) List.mem_cons_self) (by simp [Action.loads])
      | step =>
          rw [perform_step_terminal h] at ht
          rcases ht with rfl | ht
          · exact ⟨rfl, rfl⟩
          · exact ih hrest s h t ht
      | set i v =>
          have hset : (s.perform (.set i v)).1.machine.state ≠ .running
              ∧ Turn.Quiet ⟨s, .set i v, (s.perform (.set i v)).1, (s.perform (.set i v)).2⟩ := by
            rw [perform]
            split
            · exact ⟨h, rfl, rfl⟩
            · exact ⟨h, rfl, rfl⟩
          rcases ht with rfl | ht
          · exact hset.2
          · exact ih hrest _ hset.1 t ht

/-- **The bank is saved when the program stops, and only then**, over every
history of a new session and for all answers of the store, on which the machine
itself does not depend.  A run is a load followed by steps of which only the last
one stops.  However a history goes on without loading, there is at most one more
save, and none once the program has stopped: a save that was refused is not tried
again, and one that was taken is not repeated. -/
theorem saves_over_history (b : Bank) (answers : List (Option Bytes)) (actions : List Action) :
    let s := Session.start b answers
    (∀ t ∈ s.turns actions, t.Disciplined
        ∧ ∀ other, (({ t.before with answers := other } : Session).perform t.action).1.machine
            = t.after.machine)
      ∧ (∀ t ∈ s.turns actions, ∀ p, t.action = .run p →
          ∃ n, let steps := t.before.turns (.load p :: List.replicate (n + 1) .step)
            t.before.after (.load p :: List.replicate (n + 1) .step) = t.after
              ∧ steps.flatMap (·.report.events) = t.report.events
              ∧ steps.getLast?.bind (·.report.error) = t.report.error
              ∧ ∀ u ∈ steps.dropLast, u.after.machine.state = .running)
      ∧ (s.saves actions).length ≤ actions.countP Action.loads
      ∧ (∀ later : List Action, (∀ a ∈ later, a.loads = false) →
          ((s.after actions).saves later).length ≤ 1
            ∧ ((s.after actions).machine.state ≠ .running →
                ∀ t ∈ (s.after actions).turns later, t.Quiet)) := by
  intro s
  refine ⟨?_, ?_, ?_, fun later hlater => ⟨?_, (s.after actions).quiet_of_terminal hlater⟩⟩
  · exact forall_turns (fun s a => ⟨s.disciplined_perform a, s.machine_perform a⟩) s actions
  · refine forall_turns (fun s a p ha => ?_) s actions
    subst ha
    exact s.unroll_run p
  · simpa [s, start, due] using s.length_saves_le actions
  · have hcount : later.countP Action.loads = 0 := by simpa [List.countP_eq_zero] using hlater
    have hle := (s.after actions).length_saves_le later
    have hdue : (s.after actions).due ≤ 1 := by
      unfold due
      split <;> simp
    omega

end Session

end RegisterMachine
