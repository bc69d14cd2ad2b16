/-
A reference interpreter for whole programs, and the machine against it.

* `Program.stopLine`, `Program.body`, `Program.ending`, `Program.fault?`: where a
  program stops, what is executed before, how it stops and with which fault;
  none of them depends on the bank;
* `Machine.reference`: the machine after a program, read off these;
* `Machine.finish_eq`: running the rest of a program, with all its events;
* `Machine.run_eq`: running a whole program;
* `Machine.run_take_append`: lines behind the one at which the program stops have
  no influence.
-/
import RegisterMachine.Proofs.Machine.Step

namespace RegisterMachine

namespace Program

/-- A program stops at a halt and at a line that cannot be decoded. -/
def stopsAt (line : Bytes) : Bool :=
  match Instruction.decode line with
  | .ok i => i = .halt
  | .error _ => true

/-- The number of the first line at which the program stops, counted from zero,
or the number of all lines when there is none. -/
def stopLine (p : Program) : Nat :=
  p.findIdx stopsAt

/-- The instructions on those of the lines that can be decoded. -/
def instructions (lines : List Bytes) : List Instruction :=
  lines.filterMap fun l => (Instruction.decode l).toOption

/-- The instructions on the lines before the one at which the program stops. -/
def body (p : Program) : List Instruction :=
  instructions (p.take p.stopLine)

/-- How the program stops. -/
def ending (p : Program) : State :=
  match p[p.stopLine]? with
  | none => .completed
  | some l =>
    match Instruction.decode l with
    | .ok _ => .halted
    | .error _ => .errored

/-- The fault with which the program stops, when its lines are counted from
`n`. -/
def faultFrom (n : Nat) (p : Program) : Option Fault :=
  match p[p.stopLine]? with
  | none => none
  | some l =>
    match Instruction.decode l with
    | .ok _ => none
    | .error cause => some (.ofLine (n + p.stopLine) l cause)

/-- The fault with which the program stops. -/
def fault? (p : Program) : Option Fault :=
  p.faultFrom 0

end Program

/-- The fault when `n` lines stand before the program. -/
def Fault.later (n : Nat) (f : Fault) : Fault :=
  { f with line := f.line + n }

/-- The registers that instructions show one after another, with the values that
they have then. -/
def Instruction.showsAll (b : Bank) : List Instruction → List (Int × Word)
  | [] => []
  | i :: rest => i.shows b ++ showsAll (i.apply b) rest

/-- The events of instructions on consecutive lines, of which the first has the
number `n`, counted from zero. -/
def Instruction.eventsAll (n : Nat) (b : Bank) : List Instruction → List Event
  | [] => []
  | i :: rest => i.events n b ++ eventsAll (n + 1) (i.apply b) rest

/-- The bank after a program. -/
def Program.result (p : Program) (b : Bank) : Bank :=
  p.body.foldl Instruction.apply b

/-- The number of instructions that a program executes: the lines before its end
that are not blank, and the halt. -/
def Program.weight (p : Program) : Nat :=
  p.body.countP (· ≠ .nop) + if p.ending = .halted then 1 else 0

/-- The machine after a program. -/
def Machine.reference (p : Program) (b : Bank) : Machine where
  bank := p.result b
  program := p
  line := p.stopLine
  state := p.ending
  executed := p.weight
  fault := p.fault?

/-- The last events of a machine that has stopped. -/
def Machine.closing (m : Machine) : List Event :=
  (if m.state = .halted then [.executing (m.line + 1) .halt] else m.fault.toList.map .faulted)
    ++ m.stopEvents m.state

/-! ### Programs line by line -/

namespace Program

variable {l : Bytes} {i : Instruction} {cause : Cause}

lemma stopsAt_of_error (h : Instruction.decode l = .error cause) : stopsAt l = true := by
  rw [stopsAt, h]

lemma stopsAt_of_halt (h : Instruction.decode l = .ok .halt) : stopsAt l = true := by
  rw [stopsAt, h]
  rfl

lemma stopsAt_of_pass (h : Instruction.decode l = .ok i) (hi : i ≠ .halt) :
    stopsAt l = false := by
  rw [stopsAt, h]
  simpa using hi

/-- A line at which a program does not stop is passed. -/
lemma exists_of_not_stopsAt (h : stopsAt l = false) :
    ∃ i, Instruction.decode l = .ok i ∧ i ≠ .halt := by
  rw [stopsAt] at h
  cases hdecode : Instruction.decode l with
  | ok i =>
      rw [hdecode] at h
      exact ⟨i, rfl, by simpa using h⟩
  | error cause =>
      rw [hdecode] at h
      exact absurd h (by simp)

lemma stopLine_nil : stopLine [] = 0 := rfl

lemma stopLine_cons_stop (h : stopsAt l = true) (rest : List Bytes) :
    stopLine (l :: rest) = 0 := by
  rw [stopLine, List.findIdx_cons, h, cond_true]

lemma stopLine_cons_pass (h : stopsAt l = false) (rest : List Bytes) :
    stopLine (l :: rest) = stopLine rest + 1 := by
  rw [stopLine, List.findIdx_cons, h, cond_false, stopLine]

lemma body_cons_stop (h : stopsAt l = true) (rest : List Bytes) : body (l :: rest) = [] := by
  rw [body, stopLine_cons_stop h]
  rfl

lemma instructions_cons (h : Instruction.decode l = .ok i) (lines : List Bytes) :
    instructions (l :: lines) = i :: instructions lines := by
  rw [instructions, List.filterMap_cons, h]
  rfl

lemma body_cons_pass (h : Instruction.decode l = .ok i) (hi : i ≠ .halt) (rest : List Bytes) :
    body (l :: rest) = i :: body rest := by
  rw [body, stopLine_cons_pass (stopsAt_of_pass h hi), List.take_succ_cons, instructions_cons h,
    body]

/-- What is executed before a program stops was decoded, and is no halt. -/
lemma exists_decode_of_mem_body {p : Program} (h : i ∈ p.body) :
    ∃ l ∈ p, Instruction.decode l = .ok i ∧ i ≠ .halt := by
  induction p with
  | nil => exact absurd h (by simp [body, instructions])
  | cons l p ih =>
      cases hstop : stopsAt l with
      | true =>
          rw [body_cons_stop hstop] at h
          exact absurd h List.not_mem_nil
      | false =>
          obtain ⟨j, hdecode, hj⟩ := exists_of_not_stopsAt hstop
          rw [body_cons_pass hdecode hj, List.mem_cons] at h
          rcases h with rfl | h
          · exact ⟨l, List.mem_cons_self, hdecode, hj⟩
          · obtain ⟨l', hl', hdecode'⟩ := ih h
            exact ⟨l', List.mem_cons_of_mem l hl', hdecode'⟩

lemma ending_cons_pass (h : stopsAt l = false) (rest : List Bytes) :
    ending (l :: rest) = ending rest := by
  rw [ending, stopLine_cons_pass h, List.getElem?_cons_succ, ending]

lemma faultFrom_cons_pass (h : stopsAt l = false) (n : Nat) (rest : List Bytes) :
    faultFrom n (l :: rest) = faultFrom (n + 1) rest := by
  rw [faultFrom, stopLine_cons_pass h, List.getElem?_cons_succ, faultFrom,
    Nat.add_right_comm n 1, Nat.add_assoc]

lemma faultFrom_eq (n : Nat) (p : Program) :
    p.faultFrom n = p.fault?.map (Fault.later n) := by
  rw [fault?, faultFrom, faultFrom]
  cases p[p.stopLine]? with
  | none => rfl
  | some l =>
      dsimp only
      cases Instruction.decode l with
      | ok i => rfl
      | error cause =>
          refine congrArg some ?_
          rw [Fault.later, Fault.ofLine, Fault.ofLine]
          simp only [Fault.mk.injEq, and_true]
          omega

lemma result_cons_pass (h : Instruction.decode l = .ok i) (hi : i ≠ .halt) (rest : List Bytes)
    (b : Bank) : result (l :: rest) b = result rest (i.apply b) := by
  rw [result, body_cons_pass h hi, List.foldl_cons, result]

lemma weight_cons_pass (h : Instruction.decode l = .ok i) (hi : i ≠ .halt) (rest : List Bytes) :
    weight (l :: rest) = i.weight + weight rest := by
  rw [weight, weight, body_cons_pass h hi, ending_cons_pass (stopsAt_of_pass h hi),
    List.countP_cons, Instruction.weight]
  by_cases hnop : i = .nop
  · simp [hnop]
  · simp [hnop]
    omega

end Program

/-! ### Running the rest of a program -/

namespace Machine

/-- **Running the rest of a program.**  A running machine that stands before the
lines `rest` executes them as the reference interpreter does.  The induction is
on these lines: a line that is passed leaves a machine before the others. -/
theorem finish_eq (rest : List Bytes) (m : Machine) (passed : List Bytes)
    (hrun : m.state = .running) (hfault : m.fault = none) (hprogram : m.program = passed ++ rest)
    (hline : m.line = passed.length) :
    let m' : Machine := { m with
      bank := Program.result rest m.bank
      line := m.line + Program.stopLine rest
      state := Program.ending rest
      executed := m.executed + Program.weight rest
      fault := Program.faultFrom m.line rest }
    m.finish = (m', Instruction.eventsAll m.line m.bank (Program.body rest) ++ m'.closing) := by
  intro m'
  induction rest generalizing m passed with
  | nil =>
      have hend : m.program.length ≤ m.line := by simp [hprogram, hline]
      have hm' : m' = { m with state := .completed } := by
        cases m
        simp_all [m', Program.result, Program.body, Program.instructions, Program.stopLine_nil,
          Program.ending, Program.weight, Program.faultFrom]
      rw [finish_running hrun, step_end hrun hend, finish_terminal (by simp), hm']
      simp [closing, hfault, Instruction.eventsAll, Program.body, Program.instructions,
        Program.stopLine_nil, stopEvents]
  | cons l rest ih =>
      have hget : m.program[m.line]? = some l := by
        rw [hprogram, hline, List.getElem?_append_right (Nat.le_refl _), Nat.sub_self,
          List.getElem?_cons_zero]
      cases hdecode : Instruction.decode l with
      | error cause =>
          have hstop := Program.stopsAt_of_error hdecode
          have hm' : m' = { m with
              state := .errored, fault := some (.ofLine m.line l cause) } := by
            simp [m', Program.result, Program.body_cons_stop hstop,
              Program.stopLine_cons_stop hstop, Program.ending, Program.weight,
              Program.faultFrom, hdecode]
          rw [finish_running hrun, step_fault hrun hget hdecode, finish_terminal (by simp), hm',
            Program.body_cons_stop hstop]
          simp [closing, Instruction.eventsAll, stopEvents]
      | ok i =>
          by_cases hhalt : i = .halt
          · subst hhalt
            have hstop := Program.stopsAt_of_halt hdecode
            have hm' : m' = { m with state := .halted, executed := m.executed + 1 } := by
              cases m
              simp_all [m', Program.result, Program.body_cons_stop hstop,
                Program.stopLine_cons_stop hstop, Program.ending, Program.weight,
                Program.faultFrom]
            rw [finish_running hrun, step_halt hrun hget hdecode, finish_terminal (by simp), hm',
              Program.body_cons_stop hstop]
            simp [closing, Instruction.eventsAll, stopEvents]
          · have hpass := Program.stopsAt_of_pass hdecode hhalt
            have hstep := step_pass hrun hget hdecode hhalt
            have hnext := ih m.step.1 (passed ++ [l]) (by rw [hstep]; exact hrun)
              (by rw [hstep]; exact hfault) (by rw [hstep]; simp [hprogram])
              (by rw [hstep]; simp [hline])
            have hm' : m' = { m.step.1 with
                bank := Program.result rest m.step.1.bank
                line := m.step.1.line + Program.stopLine rest
                state := Program.ending rest
                executed := m.step.1.executed + Program.weight rest
                fault := Program.faultFrom m.step.1.line rest } := by
              simp only [m', hstep, Program.result_cons_pass hdecode hhalt,
                Program.stopLine_cons_pass hpass, Program.ending_cons_pass hpass,
                Program.weight_cons_pass hdecode hhalt, Program.faultFrom_cons_pass hpass,
                Nat.add_assoc, Nat.add_comm 1]
            rw [finish_running hrun, hnext, ← hm', hstep, Program.body_cons_pass hdecode hhalt,
              Instruction.eventsAll, List.append_assoc]

/-- Running a program is what the reference interpreter says, with all events on
the way. -/
theorem run_eq (p : Program) (m : Machine) :
    m.run p = (reference p m.bank,
      Instruction.eventsAll 0 m.bank p.body ++ (reference p m.bank).closing) := by
  have h := finish_eq p (m.load p) [] rfl rfl rfl rfl
  simp only [load, Nat.zero_add] at h
  rw [run, load, h]
  rfl

end Machine

/-! ### What the events of a run tell -/

namespace Instruction

/-- Instructions tell the console what they show. -/
lemma console_eventsAll (n : Nat) (b : Bank) (is : List Instruction) :
    (eventsAll n b is).filter Event.isConsole
      = (showsAll b is).map fun (r, v) => .shown r v := by
  induction is generalizing n b with
  | nil => rfl
  | cons i is ih =>
      rw [eventsAll, List.filter_append, console_events, ih, showsAll, List.map_append]

/-- Instructions save nothing. -/
lemma banks_eventsAll (n : Nat) (b : Bank) (is : List Instruction) :
    (eventsAll n b is).filterMap Event.bank? = [] := by
  induction is generalizing n b with
  | nil => rfl
  | cons i is ih => rw [eventsAll, List.filterMap_append, banks_events, ih, List.append_nil]

end Instruction

namespace Machine

/-- A machine that stops tells the console of its fault. -/
lemma console_closing {m : Machine} (h : m.state = .halted → m.fault = none) :
    m.closing.filter Event.isConsole = m.fault.toList.map .faulted := by
  rw [closing, List.filter_append]
  split_ifs with hhalt
  · rw [h hhalt]
    rfl
  · cases m.fault <;> rfl

/-- A machine that stops saves its bank. -/
lemma banks_closing (m : Machine) : m.closing.filterMap Event.bank? = [m.bank] := by
  rw [closing, List.filterMap_append]
  split_ifs with hhalt
  · rfl
  · cases m.fault <;> rfl

/-- Saving is the last thing a machine does. -/
lemma getLast?_closing (m : Machine) : m.closing.getLast? = some (.save m.bank) := by
  rw [closing, List.getLast?_append]
  rfl

end Machine

namespace Program

/-- A program that halts has no fault. -/
lemma fault?_of_halted {p : Program} (h : p.ending = .halted) : p.fault? = none := by
  unfold ending at h
  unfold fault? faultFrom
  split at h
  · exact absurd h (by simp)
  · split at h
    · rfl
    · exact absurd h (by simp)

lemma stopLine_append_cons {passed : List Bytes} {l : Bytes}
    (hpassed : ∀ x ∈ passed, stopsAt x = false) (hl : stopsAt l = true) (rest : List Bytes) :
    stopLine (passed ++ l :: rest) = passed.length := by
  induction passed with
  | nil => exact stopLine_cons_stop hl rest
  | cons x passed ih =>
      rw [List.cons_append, stopLine_cons_pass (hpassed x (by simp)),
        ih fun y hy => hpassed y (by simp [hy]), List.length_cons]

/-- A program that stops at one of its lines, cut at that line. -/
lemma exists_split {p : Program} (h : p.stopLine < p.length) :
    ∃ passed l rest, p = passed ++ l :: rest ∧ (∀ x ∈ passed, stopsAt x = false)
      ∧ stopsAt l = true ∧ p.take (p.stopLine + 1) = passed ++ [l] := by
  refine ⟨p.take p.stopLine, p[p.stopLine], p.drop (p.stopLine + 1), ?_, ?_, ?_, ?_⟩
  · rw [List.getElem_cons_drop, List.take_append_drop]
  · intro x hx
    obtain ⟨n, hn, rfl⟩ := List.mem_take_iff_getElem.mp hx
    exact List.not_of_lt_findIdx (Nat.lt_of_lt_of_le hn (Nat.min_le_left _ _))
  · exact List.findIdx_getElem
  · rw [List.take_append_getElem h]

variable {p : Program}

/-- A program that is executed to its end stops behind its last line. -/
lemma stopLine_of_completed (h : p.ending = .completed) : p.stopLine = p.length := by
  by_contra hne
  obtain ⟨passed, l, rest, hp, hpassed, hl, -⟩ :=
    exists_split (Nat.lt_of_le_of_ne List.findIdx_le_length hne)
  rw [ending, hp, stopLine_append_cons hpassed hl] at h
  simp only [List.getElem?_append_right (Nat.le_refl _), Nat.sub_self,
    List.getElem?_cons_zero] at h
  split at h <;> exact absurd h (by simp)

/-- Lines behind the one at which a program stops are never looked at. -/
lemma views_take_append (h : p.stopLine < p.length) (rest : List Bytes) :
    stopLine (p.take (p.stopLine + 1) ++ rest) = p.stopLine
      ∧ body (p.take (p.stopLine + 1) ++ rest) = p.body
      ∧ ending (p.take (p.stopLine + 1) ++ rest) = p.ending
      ∧ fault? (p.take (p.stopLine + 1) ++ rest) = p.fault? := by
  obtain ⟨passed, l, after, hp, hpassed, hl, htake⟩ := exists_split h
  have hcut (tail : List Bytes) : stopLine (passed ++ l :: tail) = passed.length :=
    stopLine_append_cons hpassed hl tail
  have hget (tail : List Bytes) : (passed ++ l :: tail)[passed.length]? = some l := by simp
  rw [htake, List.append_assoc, List.singleton_append]
  rw [hp]
  simp only [body, ending, fault?, faultFrom, hcut, hget, List.take_left, and_self]

end Program

namespace Machine

/-- Lines behind the one at which a program stops have no influence on a run. -/
theorem run_take_append {p : Program} (h : p.stopLine < p.length) (rest : List Bytes)
    (m : Machine) :
    m.run (p.take (p.stopLine + 1) ++ rest)
      = ({ (m.run p).1 with program := p.take (p.stopLine + 1) ++ rest }, (m.run p).2) := by
  obtain ⟨hline, hbody, hending, hfault⟩ := Program.views_take_append h rest
  have hweight : Program.weight (p.take (p.stopLine + 1) ++ rest) = p.weight := by
    rw [Program.weight, Program.weight, hbody, hending]
  have href : reference (p.take (p.stopLine + 1) ++ rest) m.bank
      = { reference p m.bank with program := p.take (p.stopLine + 1) ++ rest } := by
    simp only [reference, Program.result, hline, hbody, hending, hweight, hfault]
  rw [run_eq, run_eq, hbody, href]
  rfl

end Machine

end RegisterMachine
