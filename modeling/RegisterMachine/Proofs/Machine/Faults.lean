/-
Where faults come from.

* `Cause.Concerns`: what a complaint says about the runs of a line;
* `Machine.Meets`: a running machine stands before a line that cannot be decoded,
  with the fault that this line gives rise to;
* `Machine.faulted_mem_step_iff`, `Machine.exists_meets_of_faulted`: a step
  reports a fault just when it meets one, and a run reports none but the one that
  it meets at its last step;
* `Session.faults_over_history`: **what is decoded never fails to execute**, so
  every fault of a history is the complaint of the decoder about its line, and the
  bank saved with it is the one before that line.
-/
import RegisterMachine.Proofs.Instruction.Grammar
import RegisterMachine.Proofs.Instruction.Names
import RegisterMachine.Proofs.Machine.Persistence

namespace RegisterMachine

/-- What a complaint says about the runs of the line that it is about. -/
def Cause.Concerns (ts : List Bytes) : Cause → Prop
  | .unknownInstruction name => ts.head? = some name ∧ name ∉ Opcode.names
  | .missingOperand name expected given =>
    ∃ op : Opcode, op ≠ .nop ∧ ts.head? = some name ∧ name = op.mnemonic ∧ expected = op.operands
      ∧ given = ts.tail.length ∧ given < expected
  | .invalidRegister token =>
    token ∈ ts.tail ∧ Register.parse token = .error (.invalidRegister token)
  | .registerOutOfRange token =>
    token ∈ ts.tail ∧ Register.parse token = .error (.registerOutOfRange token)

/-- The machine is running, and `f` is the fault of the line that it looks at
next, which cannot be decoded. -/
def Machine.Meets (m : Machine) (f : Fault) : Prop :=
  m.state = .running
    ∧ ∃ l cause, m.program[m.line]? = some l ∧ Instruction.decode l = .error cause
      ∧ f = .ofLine m.line l cause

/-- The machine after a number of steps. -/
def Machine.afterSteps (m : Machine) : Nat → Machine
  | 0 => m
  | n + 1 => m.step.1.afterSteps n

/-- In this turn the machine takes a step from `m`. -/
def Turn.StepsFrom (t : Turn) (m : Machine) : Prop :=
  match t.action with
  | .step => m = t.before.machine
  | .run p => ∃ n, m = (t.before.machine.load p).afterSteps n
  | _ => False

/-! ### Complaints of the decoder -/

namespace Instruction

/-- The decoder complains about what stands on the line. -/
lemma Spells.concerns {ts : List Bytes} {cause : Cause} (h : Spells ts (.error cause)) :
    cause.Concerns ts := by
  cases h with
  | unknown tokens hcomment hname => exact ⟨rfl, hname⟩
  | @missing op tokens hop hlength => exact ⟨op, hop, rfl, rfl, rfl, rfl, hlength⟩
  | @rejected op good rest bad _ hop hlength hplace hgood hbad =>
      have hmem : bad ∈ (op.mnemonic :: (good ++ bad :: rest)).tail := by simp
      rcases Register.eq_of_parse_error hbad with rfl | rfl
      · exact ⟨hmem, hbad⟩
      · exact ⟨hmem, hbad⟩

/-- What is decoded executes on every bank. -/
lemma exists_execute_of_decode {line : Bytes} {i : Instruction} (h : decode line = .ok i)
    (b : Bank) : ∃ e, i.execute b = .ok e :=
  ⟨_, execute_eq (wellFormed_of_decode h) b⟩

/-- An instruction reports no fault. -/
lemma faulted_not_mem_events (i : Instruction) (n : Nat) (b : Bank) (f : Fault) :
    .faulted f ∉ i.events n b := by
  rw [events]
  split_ifs <;> simp

end Instruction

/-! ### Faults of a step and of a run -/

namespace Machine

variable {m : Machine} {f : Fault}

/-- A machine that meets a fault stops with it. -/
lemma Meets.step_eq (h : m.Meets f) :
    m.step = ({ m with state := .errored, fault := some f },
      .faulted f :: m.stopEvents .errored) := by
  obtain ⟨hrun, l, cause, hget, hdecode, rfl⟩ := h
  exact step_fault hrun hget hdecode

/-- A step reports the fault that the machine meets, and no other. -/
lemma faulted_mem_step_iff : .faulted f ∈ m.step.2 ↔ m.Meets f := by
  constructor
  · intro h
    by_cases hrun : m.state = .running
    · obtain ⟨-, hstep⟩ | ⟨l, cause, hget, hdecode, hstep⟩ | ⟨l, -, -, hstep⟩
        | ⟨l, i, -, -, -, hstep⟩ := step_cases hrun
      · simp [hstep, stopEvents] at h
      · have hf : f = .ofLine m.line l cause := by simpa [hstep, stopEvents] using h
        exact ⟨hrun, l, cause, hget, hdecode, hf⟩
      · simp [hstep, stopEvents] at h
      · rw [hstep] at h
        exact absurd h (i.faulted_not_mem_events _ _ f)
    · simp [step_terminal hrun] at h
  · intro h
    simp [h.step_eq]

/-- A step that meets no fault leaves the recorded one alone. -/
lemma fault_step (h : m.step.1.fault = some f) : m.fault = some f ∨ m.Meets f := by
  by_cases hrun : m.state = .running
  · obtain ⟨-, hstep⟩ | ⟨l, cause, hget, hdecode, hstep⟩ | ⟨l, -, -, hstep⟩
      | ⟨l, i, -, -, -, hstep⟩ := step_cases hrun
    · exact .inl (by simpa [hstep] using h)
    · have hf : f = .ofLine m.line l cause := by simpa [hstep, eq_comm] using h
      exact .inr ⟨hrun, l, cause, hget, hdecode, hf⟩
    · exact .inl (by simpa [hstep] using h)
    · exact .inl (by simpa [hstep] using h)
  · exact .inl (by simpa [step_terminal hrun] using h)

/-- On a line that was decoded there is no fault: neither is one reported, nor
does the recorded one change. -/
lemma step_of_decode {l : Bytes} {i : Instruction} (hget : m.program[m.line]? = some l)
    (hdecode : Instruction.decode l = .ok i) :
    m.step.1.fault = m.fault ∧ ∀ f, .faulted f ∉ m.step.2 := by
  have hmeets (f : Fault) : ¬ m.Meets f := by
    rintro ⟨-, l', cause, hget', hdecode', -⟩
    obtain rfl : l = l' := Option.some.inj (hget.symm.trans hget')
    rw [hdecode] at hdecode'
    exact absurd hdecode' (by simp)
  refine ⟨?_, fun f hf => hmeets f (faulted_mem_step_iff.mp hf)⟩
  by_cases hrun : m.state = .running
  · obtain ⟨-, hstep⟩ | ⟨l', cause, hget', hdecode', hstep⟩ | ⟨l', -, -, hstep⟩
      | ⟨l', i', -, -, -, hstep⟩ := step_cases hrun
    · rw [hstep]
    · exact absurd ⟨hrun, l', cause, hget', hdecode', rfl⟩ (hmeets _)
    · rw [hstep]
    · rw [hstep]
  · rw [step_terminal hrun]

/-- A running machine that reports a fault until it is finished has met it after
some steps, and ends there. -/
lemma exists_meets_of_faulted (hrun : m.state = .running) (h : .faulted f ∈ m.finish.2) :
    ∃ n, (m.afterSteps n).Meets f ∧ m.finish.1 = (m.afterSteps n).step.1 := by
  -- every step brings the program nearer to its end
  induction hn : m.remaining using Nat.strongRecOn generalizing m with
  | ind k ih =>
      subst hn
      by_cases hnext : m.step.1.state = .running
      · have hmeets : ¬ m.Meets f := fun hm => by simp [hm.step_eq] at hnext
        have hlater : .faulted f ∈ m.step.1.finish.2 := by
          rw [finish_running hrun, List.mem_append, faulted_mem_step_iff] at h
          exact h.resolve_left hmeets
        obtain ⟨n, hmeet, hfinish⟩ :=
          ih _ (m.remaining_step_lt (by simp [hrun])) hnext hlater rfl
        refine ⟨n + 1, hmeet, ?_⟩
        rw [finish_running hrun, afterSteps, hfinish]
      · rw [finish_running hrun, finish_terminal hnext, List.append_nil] at h
        refine ⟨0, faulted_mem_step_iff.mp h, ?_⟩
        rw [finish_running hrun, finish_terminal hnext, afterSteps]

/-- What a finished machine has on record, it had before or has reported. -/
lemma fault_finish (h : m.finish.1.fault = some f) :
    m.fault = some f ∨ .faulted f ∈ m.finish.2 := by
  induction hn : m.remaining using Nat.strongRecOn generalizing m with
  | ind k ih =>
      subst hn
      by_cases hrun : m.state = .running
      · rw [finish_running hrun] at h ⊢
        rcases ih _ (m.remaining_step_lt (by simp [hrun])) h rfl with hstep | hlater
        · rcases fault_step hstep with hbefore | hmeets
          · exact .inl hbefore
          · exact .inr (List.mem_append_left _ (faulted_mem_step_iff.mpr hmeets))
        · exact .inr (List.mem_append_right _ hlater)
      · rw [finish_terminal hrun] at h
        exact .inl h

end Machine

/-! ### Faults of a history -/

namespace Session

/-- A fault that an action reports is met by the machine in a step that it takes
for this action; the bank of that machine is the one that is saved. -/
lemma exists_meets_of_perform (s : Session) (a : Action) {f : Fault}
    (h : .faulted f ∈ (s.perform a).2.events) :
    ∃ m, Turn.StepsFrom ⟨s, a, (s.perform a).1, (s.perform a).2⟩ m ∧ m.Meets f
      ∧ (s.perform a).2.saves = [m.bank]
      ∧ (s.perform a).1.machine = { m with state := .errored, fault := some f } := by
  cases a with
  | load p => simp [perform] at h
  | step =>
      have hmeets : s.machine.Meets f := Machine.faulted_mem_step_iff.mp h
      have hnext : s.machine.step.1.state ≠ .running := by simp [hmeets.step_eq]
      refine ⟨s.machine, rfl, hmeets, ?_, ?_⟩
      · rw [perform_step_stopping hmeets.1 hnext, hmeets.step_eq]
        rfl
      · rw [perform_step_stopping hmeets.1 hnext, hmeets.step_eq]
  | run p =>
      rw [perform_run] at h ⊢
      obtain ⟨n, hmeets, hfinish⟩ :=
        Machine.exists_meets_of_faulted (m := s.machine.load p) rfl h
      have hend : (s.machine.run p).1
          = { (s.machine.load p).afterSteps n with state := .errored, fault := some f } := by
        rw [Machine.run, hfinish, hmeets.step_eq]
      refine ⟨_, ⟨n, rfl⟩, hmeets, ?_, hend⟩
      have hbanks : (s.machine.run p).2.filterMap Event.bank? = [(s.machine.run p).1.bank] :=
        s.machine.banks_run p
      rw [hend] at hbanks
      exact hbanks
  | set i v =>
      rw [perform] at h
      split at h <;> simp at h

/-- What is on record after an action was so before, or the action has reported
it. -/
lemma fault_perform (s : Session) (a : Action) {f : Fault}
    (h : (s.perform a).1.machine.fault = some f) :
    s.machine.fault = some f ∨ .faulted f ∈ (s.perform a).2.events := by
  cases a with
  | load p => simp [perform, Machine.load] at h
  | step =>
      rw [perform, machine_advance] at h
      rcases Machine.fault_step h with hbefore | hmeets
      · exact .inl hbefore
      · exact .inr (Machine.faulted_mem_step_iff.mpr hmeets)
  | run p =>
      rw [perform, machine_advance] at h
      rcases Machine.fault_finish h with hbefore | hreported
      · simp [Machine.load] at hbefore
      · exact .inr hreported
  | set i v =>
      rw [perform] at h ⊢
      split at h
      · exact .inl h
      · exact .inl h

/-- What is on record after a history was so at its start, or one of its turns
has reported it. -/
lemma fault_after (s : Session) (actions : List Action) {f : Fault}
    (h : (s.after actions).machine.fault = some f) :
    s.machine.fault = some f ∨ ∃ t ∈ s.turns actions, .faulted f ∈ t.report.events := by
  induction actions generalizing s with
  | nil => exact .inl h
  | cons a rest ih =>
      rw [turns]
      rcases ih (s.perform a).1 h with hfirst | ⟨t, ht, hreported⟩
      · rcases s.fault_perform a hfirst with hbefore | hreported
        · exact .inl hbefore
        · exact .inr ⟨_, List.mem_cons_self, hreported⟩
      · exact .inr ⟨t, List.mem_cons_of_mem _ ht, hreported⟩

/-- **What is decoded never fails to execute**, on any bank, for all its operands
are registers.  So a step over a line that was decoded reports and records no
fault.  Every fault that is reported in a history carries the one complaint that
the decoder has about its line: the machine met it in a step from the state `m`,
ended there, and the bank that is saved with it is the one of `m`.  Every fault on
record was reported before. -/
theorem faults_over_history (b : Bank) (answers : List (Option Bytes)) (actions : List Action) :
    let s := Session.start b answers
    (∀ line i, Instruction.decode line = .ok i →
        (∀ r ∈ i.operands, Register.InRange r) ∧ ∀ b', ∃ e, i.execute b' = .ok e)
      ∧ (∀ (m : Machine) (l : Bytes) (i : Instruction), m.program[m.line]? = some l →
          Instruction.decode l = .ok i →
          m.step.1.fault = m.fault ∧ ∀ f, .faulted f ∉ m.step.2)
      ∧ (∀ t ∈ s.turns actions, ∀ f, .faulted f ∈ t.report.events →
          ∃ m l cause, t.StepsFrom m ∧ m.state = .running ∧ m.program[m.line]? = some l
            ∧ Instruction.decode l = .error cause ∧ cause.Concerns (Blank.fields l)
            ∧ f = { line := m.line + 1, text := Blank.trim l, causes := [cause] }
            ∧ t.report.saves = [m.bank]
            ∧ t.after.machine = { m with state := .errored, fault := some f })
      ∧ (∀ f, (s.after actions).machine.fault = some f →
          ∃ t ∈ s.turns actions, .faulted f ∈ t.report.events) := by
  intro s
  refine ⟨fun line i h => ?_, fun m l i => Machine.step_of_decode, ?_, fun f hf => ?_⟩
  · exact ⟨(Instruction.wellFormed_of_decode h).inRange, Instruction.exists_execute_of_decode h⟩
  · refine forall_turns (fun s a f hf => ?_) s actions
    obtain ⟨m, hsteps, ⟨hrun, l, cause, hget, hdecode, hfault⟩, hsaves, hafter⟩ :=
      s.exists_meets_of_perform a hf
    have hconcerns : cause.Concerns (Blank.fields l) :=
      (Instruction.decodeFields_iff.mp hdecode).concerns
    exact ⟨m, l, cause, hsteps, hrun, hget, hdecode, hconcerns, hfault, hsaves, hafter⟩
  · exact (s.fault_after actions hf).resolve_left (by simp [s, start])

end Session

end RegisterMachine
