/-
The instructions that a run announces, and running these again.

* `Program.numbered`: the instructions on lines, with the numbers of the lines;
* `Report.announcements`: the log records that announce an instruction;
* `Machine.announced_step`, `Machine.announced_run`: a step announces the instruction that
  it counts, and a run those on the lines up to the one at which it stops;
* `Program.views_render`: what a program of written instructions executes;
* `Session.replay_of_trace`: **what a run announces is what it executes**, and run as a
  program of its own it does the same again.
-/
import RegisterMachine.Proofs.Instruction.RoundTrip
import RegisterMachine.Proofs.Machine.Padding

namespace RegisterMachine

/-- The record of an instruction that is about to be executed. -/
def Log.Record.ofInstruction (line : Nat) (text : Bytes) : Log.Record where
  severity := .debug
  message := utf8 "executing instruction"
  attributes := [(utf8 "line", .number line), (utf8 "instruction", .text text)]

/-- The records of a report that announce an instruction. -/
def Report.announcements (r : Report) : List Log.Record :=
  r.records.filter fun record => record.message = utf8 "executing instruction"

/-- The instruction that an event announces, with the number of its line. -/
def Event.announced? : Event → Option (Nat × Instruction)
  | .executing line i => some (line, i)
  | _ => none

namespace Program

/-- The instruction on a line, unless there is none or it does nothing. -/
def effective? (line : Bytes) : Option Instruction :=
  (Instruction.decode line).toOption.filter (· ≠ .nop)

/-- The instructions on lines with their numbers, of which the first is `n`.  Lines that
cannot be decoded or do nothing are left out. -/
def numbered (n : Nat) (lines : List Bytes) : List (Nat × Instruction) :=
  (lines.zipIdx n).filterMap fun x => (effective? x.1).map (x.2, ·)

end Program

/-! ### What is announced -/

/-- The announcements of a report are those of its events. -/
lemma Report.announcements_eq (r : Report) :
    r.announcements
      = (r.events.filterMap Event.announced?).map fun x => .ofInstruction x.1 x.2.render := by
  have hrecord (e : Event) :
      e.record?.filter (fun record => record.message = utf8 "executing instruction")
        = e.announced?.map fun x => .ofInstruction x.1 x.2.render := by
    cases e with
    | executing line i => simp [Event.record?, Event.announced?, Log.Record.ofInstruction]
    | stopped s line executed =>
        have hmessage : utf8 "execution stopped" ≠ utf8 "executing instruction" := by decide
        simp [Event.record?, Event.announced?, hmessage]
    | _ => rfl
  have hrefusal (reason : Bytes) :
      (persistenceRecord reason).message ≠ utf8 "executing instruction" := by
    change utf8 "could not persist registers" ≠ utf8 "executing instruction"
    decide
  rw [announcements, records, List.filter_append, List.filter_filterMap, List.map_filterMap]
  simp only [hrecord]
  split
  · simp [hrefusal]
  · simp

namespace Instruction

/-- An instruction is announced unless it does nothing. -/
lemma announced_events (i : Instruction) (n : Nat) (b : Bank) :
    (i.events n b).filterMap Event.announced? = if i = .nop then [] else [(n + 1, i)] := by
  cases i <;> rfl

/-- Instructions are announced in their order. -/
lemma announced_eventsAll (n : Nat) (b : Bank) (is : List Instruction) :
    ((eventsAll n b is).filterMap Event.announced?).map Prod.snd = is.filter (· ≠ .nop) := by
  induction is generalizing n b with
  | nil => rfl
  | cons i is ih =>
      rw [eventsAll, List.filterMap_append, List.map_append, announced_events, ih]
      by_cases hnop : i = .nop
      · simp [hnop]
      · simp [hnop]

end Instruction

/-! ### Numbered lines -/

namespace Program

variable {l : Bytes} {i : Instruction} {cause : Cause}

lemma effective?_of_decode (h : Instruction.decode l = .ok i) :
    effective? l = if i = .nop then none else some i := by
  rw [effective?, h]
  by_cases hnop : i = .nop
  · simp [hnop, Except.toOption, Option.filter]
  · simp [hnop, Except.toOption, Option.filter]

lemma numbered_cons_ok (h : Instruction.decode l = .ok i) (n : Nat) (lines : List Bytes) :
    numbered n (l :: lines) = (if i = .nop then [] else [(n, i)]) ++ numbered (n + 1) lines := by
  rw [numbered, List.zipIdx_cons, List.filterMap_cons, effective?_of_decode h, ← numbered]
  split_ifs <;> rfl

lemma numbered_singleton_error (h : Instruction.decode l = .error cause) (n : Nat) :
    numbered n [l] = [] := by
  simp [numbered, effective?, h, Except.toOption]

/-- What the rest of a program announces: the instructions on its lines, up to the one at
which it stops.  The induction is on these lines. -/
lemma announced_rest (rest : List Bytes) (n : Nat) (b : Bank) :
    (Instruction.eventsAll n b (body rest)).filterMap Event.announced?
        ++ (if ending rest = .halted then [(n + stopLine rest + 1, .halt)] else [])
      = numbered (n + 1) (rest.take (stopLine rest + 1)) := by
  induction rest generalizing n b with
  | nil => rfl
  | cons l rest ih =>
      cases hdecode : Instruction.decode l with
      | error cause =>
          have hstop := stopsAt_of_error hdecode
          have hending : ending (l :: rest) = .errored := by
            simp [ending, stopLine_cons_stop hstop, hdecode]
          rw [hending, body_cons_stop hstop, stopLine_cons_stop hstop]
          exact (numbered_singleton_error hdecode (n + 1)).symm
      | ok i =>
          -- a halt is not part of the body, but it is announced
          by_cases hhalt : i = .halt
          · subst hhalt
            have hstop := stopsAt_of_halt hdecode
            have hending : ending (l :: rest) = .halted := by
              simp [ending, stopLine_cons_stop hstop, hdecode]
            rw [hending, body_cons_stop hstop, stopLine_cons_stop hstop]
            exact (numbered_cons_ok hdecode (n + 1) []).symm
          · have hpass := stopsAt_of_pass hdecode hhalt
            rw [body_cons_pass hdecode hhalt, ending_cons_pass hpass, stopLine_cons_pass hpass,
              List.take_succ_cons, numbered_cons_ok hdecode, Instruction.eventsAll,
              List.filterMap_append, Instruction.announced_events, List.append_assoc, ← ih]
            have hline : n + (stopLine rest + 1) + 1 = n + 1 + stopLine rest + 1 := by omega
            rw [hline]

end Program

namespace Machine

lemma announced_closing (m : Machine) :
    m.closing.filterMap Event.announced?
      = if m.state = .halted then [(m.line + 1, .halt)] else [] := by
  rw [closing, List.filterMap_append]
  split_ifs with hhalt
  · rfl
  · cases m.fault <;> rfl

/-- A run announces the instructions on the lines up to the one at which it stops. -/
lemma announced_run (p : Program) (m : Machine) :
    (m.run p).2.filterMap Event.announced?
      = Program.numbered 1 (p.take ((m.run p).1.line + 1)) := by
  have hrest := Program.announced_rest p 0 m.bank
  rw [Nat.zero_add, Nat.zero_add] at hrest
  rw [run_eq, List.filterMap_append, announced_closing]
  exact hrest

/-- A step announces just the instruction that it counts as executed. -/
lemma announced_step (m : Machine) :
    (m.step.2.filterMap Event.announced?).length + m.executed = m.step.1.executed := by
  by_cases hrun : m.state = .running
  · obtain ⟨-, h⟩ | ⟨l, cause, -, -, h⟩ | ⟨l, -, -, h⟩ | ⟨l, i, -, -, -, h⟩ := step_cases hrun
    · rw [h]
      exact Nat.zero_add _
    · rw [h]
      exact Nat.zero_add _
    · rw [h]
      exact Nat.add_comm 1 _
    · rw [h, Instruction.announced_events, Instruction.weight]
      split_ifs
      · exact Nat.zero_add _
      · exact Nat.add_comm 1 _
  · rw [step_terminal hrun]
    exact Nat.zero_add _

end Machine

/-! ### Running what was announced -/

namespace Program

/-- The instructions that a program executes, the halt included. -/
def executed (p : Program) : List Instruction :=
  p.body.filter (· ≠ .nop) ++ if p.ending = .halted then [.halt] else []

/-- These are the ones on the lines up to the one at which it stops. -/
lemma map_snd_numbered (p : Program) :
    (numbered 1 (p.take (p.stopLine + 1))).map Prod.snd = p.executed := by
  have hrest := congrArg (List.map Prod.snd) (announced_rest p 0 Bank.zero)
  rw [List.map_append, Instruction.announced_eventsAll, Nat.zero_add] at hrest
  rw [← hrest, executed]
  split_ifs <;> rfl

lemma length_executed (p : Program) : p.executed.length = p.weight := by
  rw [executed, weight, List.length_append, List.countP_eq_length_filter]
  split_ifs <;> rfl

/-- Written instructions before other lines are executed before these. -/
lemma views_render {is : List Instruction}
    (h : ∀ i ∈ is, i.WellFormed ∧ i ≠ .nop ∧ i ≠ .halt) (rest : List Bytes) :
    body (is.map Instruction.render ++ rest) = is ++ body rest
      ∧ ending (is.map Instruction.render ++ rest) = ending rest := by
  induction is with
  | nil => exact ⟨rfl, rfl⟩
  | cons i is ih =>
      rw [List.forall_mem_cons] at h
      obtain ⟨⟨hwf, hnop, hhalt⟩, his⟩ := h
      have hdecode := Instruction.decode_render hwf hnop
      obtain ⟨hbody, hending⟩ := ih his
      rw [List.map_cons, List.cons_append, body_cons_pass hdecode hhalt,
        ending_cons_pass (stopsAt_of_pass hdecode hhalt), hbody, hending]
      exact ⟨rfl, rfl⟩

/-- The program of the instructions that a program executes, and how it ends. -/
lemma views_executed (p : Program) :
    body (p.executed.map Instruction.render) = p.body.filter (· ≠ .nop)
      ∧ ending (p.executed.map Instruction.render)
        = if p.ending = .halted then .halted else .completed := by
  have hwritten : ∀ i ∈ p.body.filter (· ≠ .nop), i.WellFormed ∧ i ≠ .nop ∧ i ≠ .halt := by
    intro i hi
    obtain ⟨hbody, hnop⟩ := List.mem_filter.mp hi
    obtain ⟨l, -, hdecode, hhalt⟩ := exists_decode_of_mem_body hbody
    exact ⟨Instruction.wellFormed_of_decode hdecode, by simpa using hnop, hhalt⟩
  rw [executed]
  split_ifs with hend
  · have hdecode : Instruction.decode (Instruction.render .halt) = .ok .halt :=
      Instruction.decode_render ⟨rfl, by simp [Instruction.operands]⟩ (by simp)
    have hstop := stopsAt_of_halt hdecode
    obtain ⟨hbody, hending⟩ := views_render hwritten [Instruction.render .halt]
    rw [List.map_append, List.map_singleton, hbody, hending, body_cons_stop hstop,
      List.append_nil]
    refine ⟨rfl, ?_⟩
    simp [ending, stopLine_cons_stop hstop, hdecode]
  · obtain ⟨hbody, hending⟩ := views_render hwritten []
    rw [List.append_nil] at hbody hending
    rw [List.append_nil, hbody, hending]
    exact ⟨List.append_nil _, rfl⟩

lemma result_executed (p : Program) (b : Bank) :
    result (p.executed.map Instruction.render) b = p.result b := by
  rw [result, p.views_executed.1, Instruction.foldl_apply_filter, result]

lemma weight_executed (p : Program) :
    weight (p.executed.map Instruction.render) = p.weight := by
  obtain ⟨hbody, hending⟩ := p.views_executed
  rw [weight, hbody, hending, List.countP_filter, weight]
  by_cases hend : p.ending = .halted
  · simp [hend]
  · simp [hend]

end Program

namespace Session

/-- A step logs one announcement for each instruction that it counts. -/
lemma announcements_step (s : Session) :
    (s.perform .step).2.announcements.length + s.machine.executed
      = (s.perform .step).1.machine.executed := by
  rw [Report.announcements_eq, List.length_map, perform, machine_advance]
  exact s.machine.announced_step

/-- **What a run announces is what it executes.**  Every step logs one announcement for
each instruction that it counts as executed.  The announcements of a run are, in order,
the instructions on the lines up to the one at which it stops, each with the number of
its line and as text, and they are as many as it counts.  The program of these texts,
run on the same bank, shows the same values, ends with the same bank, which it saves, and
after as many instructions; it halts if the run did and is executed to its end otherwise.
For the text of every instruction that was decoded is decoded to it again. -/
theorem replay_of_trace (s s' : Session) (p : Program) :
    let run := s.perform (.run p)
    let trace := Program.numbered 1 (p.take (run.1.machine.line + 1))
    let same : Session := { s' with machine := { s'.machine with bank := s.machine.bank } }
    let again := same.perform (.run (trace.map fun x => x.2.render))
    (∀ t : Session, (t.perform .step).2.announcements.length + t.machine.executed
        = (t.perform .step).1.machine.executed)
      ∧ run.2.announcements = trace.map (fun x => .ofInstruction x.1 x.2.render)
      ∧ trace.length = run.1.machine.executed
      ∧ again.2.shown = run.2.shown
      ∧ again.1.machine.bank = run.1.machine.bank
      ∧ again.2.saves = run.2.saves
      ∧ again.1.machine.executed = run.1.machine.executed
      ∧ again.1.machine.state = (if run.1.machine.state = .halted then .halted else .completed)
      ∧ ∀ line i, Instruction.decode line = .ok i → i ≠ .nop →
          Instruction.decode i.render = .ok i := by
  intro run trace same again
  have hmachine : run.1.machine = Machine.reference p s.machine.bank := s.machine_run p
  have htrace : trace.map Prod.snd = p.executed := by
    simp only [trace, hmachine]
    exact p.map_snd_numbered
  have hlines : (trace.map fun x => x.2.render) = p.executed.map Instruction.render := by
    rw [← htrace, List.map_map]
    rfl
  have hagain : again.1.machine
      = Machine.reference (p.executed.map Instruction.render) s.machine.bank := by
    rw [← hlines]
    exact machine_run _ _
  refine ⟨announcements_step, ?_, ?_, ?_, ?_, ?_, ?_, ?_, fun line i hdecode hnop => ?_⟩
  · have hevents : run.2.events = (s.machine.run p).2 := by simp only [run, perform_run]
    have hline : run.1.machine.line = (s.machine.run p).1.line := by simp only [run, perform_run]
    simp only [trace]
    rw [Report.announcements_eq, hevents, Machine.announced_run, hline]
  · rw [← List.length_map Prod.snd, htrace, p.length_executed, hmachine]
    rfl
  · simp only [again, run]
    rw [shown_run, shown_run, hlines, p.views_executed.1]
    exact Instruction.showsAll_filter _ _
  · rw [hagain, hmachine]
    exact p.result_executed _
  · simp only [again, run]
    rw [saves_run, saves_run, hlines]
    exact congrArg ([·]) (p.result_executed _)
  · rw [hagain, hmachine]
    exact p.weight_executed
  · rw [hagain, hmachine]
    exact p.views_executed.2
  · exact Instruction.decode_render (Instruction.wellFormed_of_decode hdecode) hnop

end Session

end RegisterMachine
