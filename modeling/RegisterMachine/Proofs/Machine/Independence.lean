/-
Registers that a program does not name.

* `Bank.AgreeOff`: two banks with the same words in all registers but one;
* `Program.Omits`: no instruction of a program has this register as an operand;
* `Instruction.word_apply_of_not_mem`, `Instruction.agreeOff_apply`,
  `Instruction.events_congr`: what one instruction leaves alone, and what it does on
  two such banks;
* `Instruction.word_foldl`, `Instruction.agreeOff_foldl`, `Instruction.eventsAll_congr`:
  the same for instructions one after another;
* `Session.run_of_omitted`: **a register that a program does not name neither changes
  nor matters**.
-/
import RegisterMachine.Proofs.Instruction.Operands
import RegisterMachine.Proofs.Machine.Session

namespace RegisterMachine

/-- The banks agree in every register but `r`. -/
def Bank.AgreeOff (r : Fin 16) (b b' : Bank) : Prop :=
  ∀ q, q ≠ r → b.word q = b'.word q

instance (r : Fin 16) (b b' : Bank) : Decidable (b.AgreeOff r b') :=
  inferInstanceAs (Decidable (∀ q, q ≠ r → b.word q = b'.word q))

/-- The register `r` is not an operand of any instruction that the lines of the program
are decoded to. -/
def Program.Omits (p : Program) (r : Fin 16) : Prop :=
  ∀ i ∈ Program.instructions p, (r.val : Int) ∉ i.operands

instance (p : Program) (r : Fin 16) : Decidable (p.Omits r) :=
  inferInstanceAs (Decidable (∀ i ∈ Program.instructions p, (r.val : Int) ∉ i.operands))

/-- Banks that agree off `r` have the same value in every other register. -/
lemma Bank.AgreeOff.value_eq {r : Fin 16} {b b' : Bank} (h : b.AgreeOff r b') {x : Int}
    (hx : Register.InRange x) (hr : x ≠ r.val) : b.value x = b'.value x := by
  have hlt := toNat_lt_of_inRange hx
  rw [value_eq_word _ hlt, value_eq_word _ hlt]
  refine h ⟨x.toNat, hlt⟩ fun heq => hr ?_
  rw [← heq]
  exact (Int.toNat_of_nonneg hx.1).symm

/-! ### One instruction -/

namespace Instruction

variable {i : Instruction} {r : Fin 16} {b b' : Bank}

lemma mem_operands_of_mem_sources {x : Int} (h : x ∈ i.sources) : x ∈ i.operands := by
  cases i <;> simp [sources, operands] at h ⊢ <;> tauto

/-- An instruction leaves a register alone that is not among its operands. -/
lemma word_apply_of_not_mem (hr : (r.val : Int) ∉ i.operands) (b : Bank) :
    (i.apply b).word r = b.word r :=
  word_apply (fun htarget => hr (mem_operands_of_target? htarget)) b

/-- The result of an instruction depends on its sources only. -/
lemma result_congr (h : ∀ x ∈ i.sources, b.value x = b'.value x) : i.result b = i.result b' := by
  cases i <;> simp_all [sources, result]

/-- Banks that agree off a register have the same values in the operands of an
instruction that does not name it. -/
lemma value_eq_of_mem_operands (hi : i.WellFormed) (hr : (r.val : Int) ∉ i.operands)
    (h : b.AgreeOff r b') {x : Int} (hx : x ∈ i.operands) : b.value x = b'.value x :=
  h.value_eq (hi.inRange x hx) fun heq => hr (heq ▸ hx)

/-- An instruction that does not name the register keeps banks in agreement off it: its
target, if it has one, gets the same word in both, and nothing else changes. -/
lemma agreeOff_apply (hi : i.WellFormed) (hr : (r.val : Int) ∉ i.operands)
    (h : b.AgreeOff r b') : (i.apply b).AgreeOff r (i.apply b') := by
  intro q hq
  by_cases htarget : i.target? = some (q.val : Int)
  · have hrange := hi.inRange _ (mem_operands_of_target? htarget)
    have hresult : i.result b = i.result b' := result_congr fun x hx =>
      value_eq_of_mem_operands hi hr h (mem_operands_of_mem_sources hx)
    have hvalue : (i.apply b).value q.val = (i.apply b').value q.val := by
      apply BitVec.eq_of_toNat_eq
      rw [← Int.natCast_inj, toNat_value_apply htarget hrange, toNat_value_apply htarget hrange,
        hresult]
    have hlt := Bank.toNat_lt_of_inRange hrange
    rwa [Bank.value_eq_word _ hlt, Bank.value_eq_word _ hlt] at hvalue
  · rw [word_apply htarget, word_apply htarget, h q hq]

/-- On both banks it tells the same. -/
lemma events_congr (hi : i.WellFormed) (hr : (r.val : Int) ∉ i.operands) (h : b.AgreeOff r b')
    (n : Nat) : i.events n b = i.events n b' := by
  have hshows : i.shows b = i.shows b' := by
    cases i with
    | shw src => rw [shows, shows, value_eq_of_mem_operands hi hr h (List.mem_singleton_self src)]
    | _ => rfl
  rw [events, events, hshows]

/-! ### Instructions one after another -/

variable {is : List Instruction}

lemma word_foldl (hr : ∀ i ∈ is, (r.val : Int) ∉ i.operands) (b : Bank) :
    (is.foldl apply b).word r = b.word r := by
  induction is generalizing b with
  | nil => rfl
  | cons i is ih =>
      rw [List.forall_mem_cons] at hr
      rw [List.foldl_cons, ih hr.2, word_apply_of_not_mem hr.1]

lemma agreeOff_foldl (hwf : ∀ i ∈ is, i.WellFormed) (hr : ∀ i ∈ is, (r.val : Int) ∉ i.operands)
    (h : b.AgreeOff r b') : (is.foldl apply b).AgreeOff r (is.foldl apply b') := by
  induction is generalizing b b' with
  | nil => exact h
  | cons i is ih =>
      rw [List.forall_mem_cons] at hwf hr
      exact ih hwf.2 hr.2 (agreeOff_apply hwf.1 hr.1 h)

lemma eventsAll_congr (hwf : ∀ i ∈ is, i.WellFormed) (hr : ∀ i ∈ is, (r.val : Int) ∉ i.operands)
    (h : b.AgreeOff r b') (n : Nat) : eventsAll n b is = eventsAll n b' is := by
  induction is generalizing b b' n with
  | nil => rfl
  | cons i is ih =>
      rw [List.forall_mem_cons] at hwf hr
      rw [eventsAll, eventsAll, events_congr hwf.1 hr.1 h n,
        ih hwf.2 hr.2 (agreeOff_apply hwf.1 hr.1 h)]

end Instruction

/-! ### Whole programs -/

/-- A program that omits a register executes no instruction that names it, and all that
it executes is well formed. -/
lemma Program.Omits.body {p : Program} {r : Fin 16} (h : p.Omits r) :
    (∀ i ∈ p.body, i.WellFormed) ∧ ∀ i ∈ p.body, (r.val : Int) ∉ i.operands := by
  refine ⟨fun i hi => ?_, fun i hi => h i ?_⟩
  · obtain ⟨l, -, hdecode, -⟩ := exists_decode_of_mem_body hi
    exact Instruction.wellFormed_of_decode hdecode
  · obtain ⟨l, hl, hdecode⟩ := List.mem_filterMap.mp hi
    exact List.mem_filterMap.mpr ⟨l, List.mem_of_mem_take hl, hdecode⟩

/-- What a run on the bank `b` tells before it saves. -/
def Program.told (p : Program) (b : Bank) : List Event :=
  Instruction.eventsAll 0 b p.body
    ++ (if p.ending = .halted then [.executing (p.stopLine + 1) .halt]
      else p.fault?.toList.map .faulted)
    ++ [.stopped p.ending (p.stopLine + 1) p.weight]

/-- On banks that agree off a register that it does not name, a program tells the same. -/
lemma Program.told_congr {p : Program} {r : Fin 16} {b b' : Bank} (h : p.Omits r)
    (hbank : b.AgreeOff r b') : p.told b = p.told b' := by
  rw [told, told, Instruction.eventsAll_congr h.body.1 h.body.2 hbank]

namespace Session

/-- A run saves after it has told all else. -/
lemma events_run (s : Session) (p : Program) :
    (s.perform (.run p)).2.events
      = p.told s.machine.bank ++ [.save (p.result s.machine.bank)] := by
  rw [perform_run, Machine.run_eq, Program.told, List.append_assoc, List.append_assoc]
  rfl

/-- **A register that a program does not name neither changes nor matters.**  It keeps
its word in the bank that a run ends with, and in the one that is saved.  Two runs on
banks that differ in no other register end in the same state at the same line, after as
many instructions and with the same fault; they show, print and log the same, and fail
alike where their saves get the same answer; and the banks that they end with and save
differ in no other register. -/
theorem run_of_omitted (p : Program) (r : Fin 16) (h : p.Omits r) :
    (∀ s : Session,
        let run := s.perform (.run p)
        run.1.machine.bank.word r = s.machine.bank.word r
          ∧ run.2.saves.map (·.word r) = [s.machine.bank.word r])
      ∧ ∀ s s' : Session, s.machine.bank.AgreeOff r s'.machine.bank → s.verdict = s'.verdict →
          let run := s.perform (.run p)
          let run' := s'.perform (.run p)
          run.1.machine.state = run'.1.machine.state
            ∧ run.1.machine.line = run'.1.machine.line
            ∧ run.1.machine.executed = run'.1.machine.executed
            ∧ run.1.machine.fault = run'.1.machine.fault
            ∧ run.2.error = run'.2.error
            ∧ run.2.shown = run'.2.shown
            ∧ run.2.output = run'.2.output
            ∧ run.2.records = run'.2.records
            ∧ run.1.machine.bank.AgreeOff r run'.1.machine.bank
            ∧ List.Forall₂ (Bank.AgreeOff r) run.2.saves run'.2.saves := by
  obtain ⟨hwf, homits⟩ := h.body
  refine ⟨fun s => ?_, fun s s' hbank hverdict => ?_⟩
  · have hword : (p.result s.machine.bank).word r = s.machine.bank.word r :=
      Instruction.word_foldl homits _
    refine ⟨?_, ?_⟩
    · rw [machine_run]
      exact hword
    · rw [saves_run, List.map_singleton, hword]
  · have hresult : (p.result s.machine.bank).AgreeOff r (p.result s'.machine.bank) :=
      Instruction.agreeOff_foldl hwf homits hbank
    have herror : (s.perform (.run p)).2.error = (s'.perform (.run p)).2.error := by
      rw [perform_run, perform_run, hverdict]
    -- where and how a program stops depends on its lines alone
    have hsame : (s.perform (.run p)).1.machine
        = { (s'.perform (.run p)).1.machine with bank := p.result s.machine.bank } := by
      rw [machine_run, machine_run]
      rfl
    have hstate := congrArg Machine.state hsame
    have hline := congrArg Machine.line hsame
    have hexecuted := congrArg Machine.executed hsame
    have hfault := congrArg Machine.fault hsame
    have hevents := s.events_run p
    have hevents' := s'.events_run p
    rw [← Program.told_congr h hbank] at hevents'
    refine ⟨hstate, hline, hexecuted, hfault, herror, ?_, ?_, ?_, ?_, ?_⟩
    · rw [Report.shown, Report.shown, hevents, hevents', List.filterMap_append,
        List.filterMap_append]
      rfl
    · rw [Report.output, Report.output, hevents, hevents', List.flatMap_append,
        List.flatMap_append]
      rfl
    · rw [Report.records, Report.records, herror, hevents, hevents', List.filterMap_append,
        List.filterMap_append]
      rfl
    · rw [machine_run, machine_run]
      exact hresult
    · rw [saves_run, saves_run]
      exact .cons hresult .nil

/-- A comment and a line that cannot be decoded may mention the register. -/
theorem run_of_omitted_third :
    let p : Program := ["add x1 x2", "# x3", "shw x1", "sub x3"].map utf8
    let s := Session.start (Bank.ofList [0, 1, 2, 7]) [some (utf8 "full")]
    let s' := Session.start (Bank.ofList [0, 1, 2, 9]) [some (utf8 "full")]
    p.Omits 3 ∧ s.machine.bank.AgreeOff 3 s'.machine.bank ∧ s.machine.bank ≠ s'.machine.bank
      ∧ (s.perform (.run p)).1.machine.bank.word 3 = 7
      ∧ (s.perform (.run p)).1.machine.fault = (s'.perform (.run p)).1.machine.fault
      ∧ (s.perform (.run p)).2.output = (s'.perform (.run p)).2.output := by
  intro p s s'
  have homits : p.Omits 3 := by decide
  have hbank : s.machine.bank.AgreeOff 3 s'.machine.bank := by decide
  have hrun := run_of_omitted p 3 homits
  obtain ⟨-, -, -, hfault, -, -, houtput, -⟩ := hrun.2 s s' hbank rfl
  exact ⟨homits, hbank, by decide, (hrun.1 s).1, hfault, houtput⟩

end Session

end RegisterMachine
