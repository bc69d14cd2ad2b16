/-
What an instruction reads, writes and complains about, for operands that nobody
has checked.

* `Instruction.sources` / `Instruction.target?`: the registers that an instruction
  reads, in the order in which it looks at them, and the one that it writes;
* `Instruction.result`: the number that it writes there, before it is cut to a
  word;
* `Instruction.complaints`: what is wrong with its operands;
* `Instruction.execute_iff_operands`: **an instruction fails exactly when it has
  something to complain about**, and then nothing has happened; otherwise it
  changes its target and nothing else.
-/
import RegisterMachine.Machine
import RegisterMachine.Proofs.Instruction.Meaning

namespace RegisterMachine

/-- The complaints about those among some indices that are no registers, in
their order. -/
def Register.complaints (indices : List Int) : List Cause :=
  (indices.filter fun i => ¬ InRange i).map fun i => .registerOutOfRange (name i)

namespace Instruction

/-- The registers that an instruction reads, the left one first. -/
def sources : Instruction → List Int
  | .add dst src => [dst, src]
  | .sub dst src => [dst, src]
  | .sll src _ shift => [src, shift]
  | .srl src _ shift => [src, shift]
  | .shw src => [src]
  | _ => []

/-- The register that an instruction writes. -/
def target? : Instruction → Option Int
  | .add dst _ => some dst
  | .sub dst _ => some dst
  | .sll _ dst _ => some dst
  | .srl _ dst _ => some dst
  | _ => none

/-- The number that an instruction writes, computed from the bank before it.  A
word has room for its remainder modulo `2 ^ 32`. -/
def result (b : Bank) : Instruction → Int
  | .add dst src => (b.value dst).toNat + (b.value src).toNat
  | .sub dst src => (b.value dst).toNat - (b.value src).toNat
  | .sll src _ shift => (b.value src).toNat * Nat.pow 2 ((b.value shift).toNat % 32)
  | .srl src _ shift => (b.value src).toNat / Nat.pow 2 ((b.value shift).toNat % 32)
  | _ => 0

/-- What is wrong with an instruction.  The sources are looked at together, and
the target only when there is nothing to say about them. -/
def complaints : Instruction → List Cause
  | .foreign text => [.unknownInstruction text]
  | i =>
    if Register.complaints i.sources = [] then Register.complaints i.target?.toList
    else Register.complaints i.sources

end Instruction

/-! ### Registers that are not there -/

namespace Register

lemma complaints_eq_nil_iff {indices : List Int} :
    complaints indices = [] ↔ ∀ i ∈ indices, InRange i := by
  simp [complaints, List.filter_eq_nil_iff]

end Register

namespace Bank

lemma locate_of_not_inRange {i : Int} (h : ¬ Register.InRange i) :
    locate i = .error (.registerOutOfRange (Register.name i)) := by
  rw [locate, dif_neg h]

lemma get_of_not_inRange {i : Int} (b : Bank) (h : ¬ Register.InRange i) :
    b.get i = .error (.registerOutOfRange (Register.name i)) := by
  rw [get, locate_of_not_inRange h]

lemma set_of_not_inRange {i : Int} (b : Bank) (v : BitVec 64) (h : ¬ Register.InRange i) :
    b.set i v = .error (.registerOutOfRange (Register.name i)) := by
  rw [set, locate_of_not_inRange h]

/-- A register holds the remainder of what was put into it. -/
lemma toNat_value_put {i : Int} (b : Bank) (n : Nat) (h : Register.InRange i) :
    ((b.put i n).value i).toNat = n % Nat.pow 2 32 := by
  have hi : ((i.toNat : Nat) : Int) = i := Int.toNat_of_nonneg h.1
  rw [value_eq_word _ (toNat_lt_of_inRange h), word_put, if_pos hi, BitVec.toNat_ofNat,
    Nat.pow_eq]

end Bank

/-- A machine whose instruction fails keeps its bank and shows nothing. -/
lemma Machine.perform_of_error {m : Machine} {i : Instruction} {causes : List Cause}
    (h : i.execute m.bank = .error causes) (text : Bytes) :
    (m.perform text i).1.bank = m.bank
      ∧ ∀ r v, Event.shown r v ∉ (m.perform text i).2 := by
  rw [perform, h]
  simp [fail, stop]

namespace Instruction

/-! ### When an instruction fails -/

/-- There is nothing to complain about just when the instruction is well
formed. -/
lemma complaints_eq_nil_iff {i : Instruction} : i.complaints = [] ↔ i.WellFormed := by
  have hmem : (∀ r ∈ i.sources, Register.InRange r) ∧ (∀ r ∈ i.target?.toList, Register.InRange r)
      ↔ ∀ r ∈ i.operands, Register.InRange r := by
    cases i <;> simp [sources, target?, operands] <;> tauto
  have hknown : i.WellFormed ↔ i.opcode?.isSome ∧ ∀ r ∈ i.operands, Register.InRange r :=
    ⟨fun h => ⟨h.known, h.inRange⟩, fun h => ⟨h.1, h.2⟩⟩
  have hsplit (j : Instruction) :
      (if Register.complaints j.sources = [] then Register.complaints j.target?.toList
        else Register.complaints j.sources) = []
      ↔ (∀ r ∈ j.sources, Register.InRange r) ∧ ∀ r ∈ j.target?.toList, Register.InRange r := by
    rw [← Register.complaints_eq_nil_iff, ← Register.complaints_eq_nil_iff]
    split_ifs with h <;> simp [h]
  rw [hknown, ← hmem]
  cases i with
  | foreign text => simp [complaints, opcode?]
  | _ =>
      rw [complaints, hsplit]
      · simp [opcode?]
      · simp

/-- The complaints of an operation on two registers. -/
lemma binary_of_complaints (b : Bank) (lhs rhs dst : Int) (op : Word → Word → Word)
    (h : ¬ (Register.InRange lhs ∧ Register.InRange rhs ∧ Register.InRange dst)) :
    binary b lhs rhs dst op
      = .error (if Register.complaints [lhs, rhs] = [] then Register.complaints [dst]
          else Register.complaints [lhs, rhs]) := by
  rw [binary]
  by_cases hl : Register.InRange lhs
  · by_cases hr : Register.InRange rhs
    · have hd : ¬ Register.InRange dst := fun hd => h ⟨hl, hr, hd⟩
      rw [b.get_of_inRange hl, b.get_of_inRange hr]
      dsimp only
      rw [b.set_of_not_inRange _ hd]
      simp [Register.complaints, hl, hr, hd]
    · rw [b.get_of_inRange hl, b.get_of_not_inRange hr]
      simp [Register.complaints, hl, hr]
  · by_cases hr : Register.InRange rhs
    · rw [b.get_of_not_inRange hl, b.get_of_inRange hr]
      simp [Register.complaints, hl, hr]
    · rw [b.get_of_not_inRange hl, b.get_of_not_inRange hr]
      simp [Register.complaints, hl, hr]

/-- An instruction that is not well formed fails with its complaints. -/
lemma execute_of_not_wellFormed {i : Instruction} (h : ¬ i.WellFormed) (b : Bank) :
    i.execute b = .error i.complaints := by
  have hrange : i.opcode?.isSome → ¬ ∀ r ∈ i.operands, Register.InRange r :=
    fun hknown hall => h ⟨hknown, hall⟩
  cases i with
  | nop => exact absurd wellFormed_nop h
  | halt => exact absurd ⟨rfl, by simp [operands]⟩ h
  | foreign text => rfl
  | shw src =>
      have hsrc : ¬ Register.InRange src := by simpa [operands, opcode?] using hrange
      rw [execute, b.get_of_not_inRange hsrc]
      simp [complaints, sources, Register.complaints, hsrc]
  | add dst src =>
      rw [execute, binary_of_complaints]
      · rfl
      · rintro ⟨hdst, hsrc, -⟩
        exact hrange rfl (by simp [operands, hdst, hsrc])
  | sub dst src =>
      rw [execute, binary_of_complaints]
      · rfl
      · rintro ⟨hdst, hsrc, -⟩
        exact hrange rfl (by simp [operands, hdst, hsrc])
  | sll src dst shift =>
      rw [execute, binary_of_complaints]
      · rfl
      · rintro ⟨hsrc, hshift, hdst⟩
        exact hrange rfl (by simp [operands, hdst, hsrc, hshift])
  | srl src dst shift =>
      rw [execute, binary_of_complaints]
      · rfl
      · rintro ⟨hsrc, hshift, hdst⟩
        exact hrange rfl (by simp [operands, hdst, hsrc, hshift])

/-! ### What an instruction changes -/

/-- Registers that are not the target keep their words. -/
lemma word_apply {i : Instruction} {r : Fin 16} (h : i.target? ≠ some r) (b : Bank) :
    (i.apply b).word r = b.word r := by
  have hput {dst : Int} (n : Nat) (hdst : some dst ≠ some (r.val : Int)) :
      (b.put dst n).word r = b.word r := by
    rw [Bank.word_put, if_neg fun hr => hdst (congrArg some hr.symm)]
  cases i with
  | add dst src => exact hput _ h
  | sub dst src => exact hput _ h
  | sll src dst shift => exact hput _ h
  | srl src dst shift => exact hput _ h
  | _ => rfl

/-- The target holds the result of the instruction modulo `2 ^ 32`. -/
lemma toNat_value_apply {i : Instruction} {dst : Int} (h : i.target? = some dst)
    (hdst : Register.InRange dst) (b : Bank) :
    (((i.apply b).value dst).toNat : Int) = i.result b % Nat.pow 2 32 := by
  cases i with
  | add d src =>
      obtain rfl : d = dst := Option.some.inj h
      rw [apply, b.toNat_value_put _ hdst]
      rfl
  | sub d src =>
      obtain rfl : d = dst := Option.some.inj h
      rw [apply, b.toNat_value_put _ hdst, result]
      have := (b.value src).isLt
      simp only [Nat.pow_eq]
      omega
  | sll src d shift =>
      obtain rfl : d = dst := Option.some.inj h
      rw [apply, b.toNat_value_put _ hdst]
      rfl
  | srl src d shift =>
      obtain rfl : d = dst := Option.some.inj h
      rw [apply, b.toNat_value_put _ hdst]
      rfl
  | _ => exact absurd h (by simp [target?])

/-- The target is one of the operands. -/
lemma mem_operands_of_target? {i : Instruction} {dst : Int} (h : i.target? = some dst) :
    dst ∈ i.operands := by
  cases i <;> simp [target?] at h <;> simp [operands, h]

/-- **Executing an instruction with any operands.**  It fails just when it is
outside the set or an operand is no register.  It then reports every source that
is no register, in their order, and the target only when all sources are
registers; the machine keeps its bank and shows nothing.  Otherwise the target
holds the result, computed from the bank before the instruction and modulo
`2 ^ 32`, every other register is as it was, and a register is shown only by the
instruction that shows one. -/
theorem execute_iff_operands (b : Bank) (i : Instruction) :
    ((∃ causes, i.execute b = .error causes)
        ↔ i.opcode? = none ∨ ∃ r ∈ i.operands, ¬ Register.InRange r)
      ∧ (∀ causes, i.execute b = .error causes → causes = i.complaints
          ∧ ∀ (m : Machine) (text : Bytes), m.bank = b →
            (m.perform text i).1.bank = b ∧ ∀ r v, Event.shown r v ∉ (m.perform text i).2)
      ∧ (∀ e, i.execute b = .ok e →
          (∀ r : Fin 16, i.target? ≠ some r → e.bank.word r = b.word r)
            ∧ (∀ dst, i.target? = some dst →
                ((e.bank.value dst).toNat : Int) = i.result b % Nat.pow 2 32)
            ∧ e.shown.toList = i.shows b
            ∧ (e.halted = true ↔ i = .halt)) := by
  have hiff : i.opcode? = none ∨ (∃ r ∈ i.operands, ¬ Register.InRange r) ↔ ¬ i.WellFormed := by
    rw [← not_iff_not, not_not]
    constructor
    · intro h
      rw [not_or, not_exists] at h
      exact ⟨Option.isSome_iff_ne_none.mpr h.1, fun r hr => by_contra fun hout => h.2 r ⟨hr, hout⟩⟩
    · rintro h (hnone | ⟨r, hr, hout⟩)
      · exact absurd h.known (by simp [hnone])
      · exact hout (h.inRange r hr)
  rw [hiff]
  by_cases h : i.WellFormed
  · have hexecute := execute_eq h b
    refine ⟨by simp [hexecute, h], fun causes hcauses => ?_, fun e he => ?_⟩
    · rw [hexecute] at hcauses
      exact absurd hcauses (by simp)
    · rw [hexecute, Except.ok.injEq] at he
      subst he
      refine ⟨fun r hr => word_apply hr b, fun dst hdst => ?_, ?_, by simp⟩
      · exact toNat_value_apply hdst (h.inRange dst (mem_operands_of_target? hdst)) b
      · cases i <;> rfl
  · have hexecute := execute_of_not_wellFormed h b
    refine ⟨by simp [hexecute, h], fun causes hcauses => ⟨?_, ?_⟩, fun e he => ?_⟩
    · rw [hexecute, Except.error.injEq] at hcauses
      exact hcauses.symm
    · rintro m text rfl
      exact Machine.perform_of_error hcauses text
    · rw [hexecute] at he
      exact absurd he (by simp)

end Instruction

end RegisterMachine
