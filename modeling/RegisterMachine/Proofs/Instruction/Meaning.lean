/-
What instructions mean, as arithmetic modulo `2 ^ 32`.

* `Instruction.apply` / `Instruction.shows`: the meaning of an instruction, told
  on natural numbers and without a way to fail;
* `Instruction.wellFormed_of_decode`: what is decoded belongs to the set and
  names registers of the bank;
* `Instruction.execute_eq`: so executing it never fails, and does what it means.
-/
import Mathlib.Data.List.Forall2
import Mathlib.Data.List.GetD
import Mathlib.Tactic.Common
import RegisterMachine.Instruction
import RegisterMachine.Proofs.Word.Arithmetic

namespace RegisterMachine

namespace Bank

/-- The word of register `i`, and zero where there is no such register. -/
def value (b : Bank) (i : Int) : Word :=
  b.toList.getD i.toNat 0#32

/-- The bank with `n` modulo `2 ^ 32` in register `i`, and every other register
as it was. -/
def put (b : Bank) (i : Int) (n : Nat) : Bank :=
  ⟨Vector.ofFn fun r => if (r.val : Int) = i then BitVec.ofNat 32 n else b.word r⟩

end Bank

namespace Instruction

/-- The bank after an instruction. -/
def apply (b : Bank) : Instruction → Bank
  | .add dst src => b.put dst ((b.value dst).toNat + (b.value src).toNat)
  | .sub dst src => b.put dst ((b.value dst).toNat + (Nat.pow 2 32 - (b.value src).toNat))
  | .sll src dst shift => b.put dst ((b.value src).toNat * Nat.pow 2 ((b.value shift).toNat % 32))
  | .srl src dst shift => b.put dst ((b.value src).toNat / Nat.pow 2 ((b.value shift).toNat % 32))
  | _ => b

/-- The registers that an instruction shows, with their values. -/
def shows (b : Bank) : Instruction → List (Int × Word)
  | .shw src => [(src, b.value src)]
  | _ => []

/-- The instruction belongs to the set and its operands are registers of the
bank. -/
structure WellFormed (i : Instruction) : Prop where
  known : i.opcode?.isSome
  inRange : ∀ r ∈ i.operands, Register.InRange r

end Instruction

/-! ### Arithmetic of words -/

lemma add_eq_ofNat (x y : Word) : x + y = BitVec.ofNat 32 (x.toNat + y.toNat) := by
  apply BitVec.eq_of_toNat_eq
  rw [BitVec.toNat_add, BitVec.toNat_ofNat]

lemma sub_eq_ofNat (x y : Word) :
    x - y = BitVec.ofNat 32 (x.toNat + (Nat.pow 2 32 - y.toNat)) := by
  apply BitVec.eq_of_toNat_eq
  rw [BitVec.toNat_sub, BitVec.toNat_ofNat, Nat.pow_eq, Nat.add_comm]

lemma shiftLeft_eq_ofNat (x y : Word) :
    x <<< shiftAmount y = BitVec.ofNat 32 (x.toNat * Nat.pow 2 (y.toNat % 32)) := by
  apply BitVec.eq_of_toNat_eq
  rw [BitVec.shiftLeft_eq', toNat_shiftAmount, BitVec.toNat_shiftLeft, BitVec.toNat_ofNat,
    Nat.shiftLeft_eq, Nat.pow_eq]

lemma shiftRight_eq_ofNat (x y : Word) :
    x >>> shiftAmount y = BitVec.ofNat 32 (x.toNat / Nat.pow 2 (y.toNat % 32)) := by
  apply BitVec.eq_of_toNat_eq
  have hlt : x.toNat / Nat.pow 2 (y.toNat % 32) < 2 ^ 32 :=
    Nat.lt_of_le_of_lt (Nat.div_le_self _ _) x.isLt
  rw [BitVec.ushiftRight_eq', toNat_shiftAmount, BitVec.toNat_ushiftRight, BitVec.toNat_ofNat,
    Nat.mod_eq_of_lt hlt, Nat.shiftRight_eq_div_pow, Nat.pow_eq]

/-! ### Registers of the bank -/

namespace Bank

lemma toNat_lt_of_inRange {i : Int} (h : Register.InRange i) : i.toNat < 16 := by
  have h0 := h.1
  have h16 := h.2
  simp only [Register.count] at h16
  omega

lemma locate_of_inRange {i : Int} (h : Register.InRange i) :
    locate i = .ok ⟨i.toNat, toNat_lt_of_inRange h⟩ := by
  rw [locate, dif_pos h]

lemma word_eq_getElem (b : Bank) (r : Fin 16) : b.word r = getElem b.words r.val r.isLt :=
  rfl

lemma value_eq_word {i : Int} (b : Bank) (h : i.toNat < 16) : b.value i = b.word ⟨i.toNat, h⟩ := by
  simp [value, toList, word_eq_getElem, List.getD_eq_getElem?_getD, h]

lemma value_zero (i : Int) : zero.value i = 0#32 := by
  rw [value, toList, zero, Vector.toList_replicate, List.getD_eq_getElem?_getD,
    List.getElem?_replicate]
  split_ifs <;> rfl

/-- Reading a register of the bank gives its word. -/
lemma get_of_inRange {i : Int} (b : Bank) (h : Register.InRange i) : b.get i = .ok (b.value i) := by
  rw [get, locate_of_inRange h, value_eq_word b (toNat_lt_of_inRange h)]

/-- Two banks with the same words are the same. -/
lemma ext_word {b b' : Bank} (h : ∀ r : Fin 16, b.word r = b'.word r) : b = b' := by
  cases b with
  | mk ws =>
      cases b' with
      | mk ws' =>
          congr 1
          ext r hr : 1
          exact h ⟨r, hr⟩

lemma word_put (b : Bank) (i : Int) (n : Nat) (r : Fin 16) :
    (b.put i n).word r = if (r.val : Int) = i then BitVec.ofNat 32 n else b.word r := by
  simp [put, word_eq_getElem]

lemma word_update (b : Bank) (r r' : Fin 16) (v : Word) :
    (b.update r v).word r' = if r'.val = r.val then v else b.word r' := by
  simp [update, word_eq_getElem, Vector.getElem_set, eq_comm]

/-- Writing a register of the bank changes that register and no other. -/
lemma set_of_inRange {i : Int} (b : Bank) (v : BitVec 64) (h : Register.InRange i) :
    b.set i v = .ok (b.put i v.toNat) := by
  rw [set, locate_of_inRange h]
  refine congrArg Except.ok (ext_word fun r => ?_)
  have hiff : r.val = i.toNat ↔ (r.val : Int) = i := by
    have h0 := h.1
    omega
  rw [word_update, word_put, setWidth_truncate]
  simp only [hiff]
  rfl

end Bank

/-! ### What is decoded -/

lemma Register.inRange_of_parse {token : Bytes} {i : Int} (h : parse token = .ok i) :
    InRange i := by
  unfold parse at h
  split at h
  · split at h
    · exact absurd h (by simp)
    · exact absurd h (by simp)
    · split_ifs at h with hi
      rw [Except.ok.injEq] at h
      exact h ▸ hi
  · exact absurd h (by simp)

/-- Where every item of a list gives a result, the results stand in the order of
the items. -/
lemma forall₂_of_mapM {α β ε : Type} {f : α → Except ε β} {l : List α} {rs : List β}
    (h : l.mapM f = .ok rs) : List.Forall₂ (fun a r => f a = .ok r) l rs := by
  induction l generalizing rs with
  | nil =>
      simp only [List.mapM_nil, pure, Except.pure, Except.ok.injEq] at h
      exact h ▸ .nil
  | cons a l ih =>
      rw [List.mapM_cons] at h
      cases hfa : f a with
      | error e => simp [hfa, bind, Except.bind] at h
      | ok r =>
          cases hl : l.mapM f with
          | error e => simp [hfa, hl, bind, Except.bind] at h
          | ok rs' =>
              simp only [hfa, hl, bind, Except.bind, pure, Except.pure, Except.ok.injEq] at h
              exact h ▸ .cons hfa (ih hl)

namespace Instruction

lemma wellFormed_nop : WellFormed .nop := ⟨rfl, by simp [operands]⟩

/-- An instruction that is put together from registers of the bank is well
formed. -/
lemma wellFormed_assemble {op : Opcode} {operand : Nat → Int}
    (h : ∀ n < op.operands, Register.InRange (operand n)) : (assemble op operand).WellFormed := by
  refine ⟨by cases op <;> rfl, ?_⟩
  cases op <;> simp [assemble, operands, Opcode.operands] at h ⊢ <;>
    simp [h]

lemma wellFormed_of_decodeOperands {op : Opcode} {tokens : List Bytes} {i : Instruction}
    (h : decodeOperands op tokens = .ok i) : i.WellFormed := by
  unfold decodeOperands at h
  split_ifs at h with hlen
  split at h
  · exact absurd h (by simp)
  · rename_i registers hmap
    have hall := forall₂_of_mapM hmap
    rw [Except.ok.injEq] at h
    subst h
    refine wellFormed_assemble fun n hn => ?_
    have hregisters : registers.length = op.operands := by
      rw [← hall.length_eq, List.length_take]
      omega
    have hn' : n < registers.length := by omega
    rw [List.getD_eq_getElem _ _ hn']
    exact Register.inRange_of_parse (hall.get (by rw [hall.length_eq]; exact hn') hn')

/-- What is decoded belongs to the set and names registers of the bank. -/
lemma wellFormed_of_decode {line : Bytes} {i : Instruction} (h : decode line = .ok i) :
    i.WellFormed := by
  unfold decode decodeFields at h
  split at h
  · rw [Except.ok.injEq] at h
    exact h ▸ wellFormed_nop
  · split_ifs at h with hcomment
    · rw [Except.ok.injEq] at h
      exact h ▸ wellFormed_nop
    · split at h
      · exact absurd h (by simp)
      · exact wellFormed_of_decodeOperands h

/-! ### Executing what is decoded -/

lemma binary_of_inRange (b : Bank) {lhs rhs dst : Int} (op : Word → Word → Word)
    (hl : Register.InRange lhs) (hr : Register.InRange rhs) (hd : Register.InRange dst) :
    binary b lhs rhs dst op
      = .ok { bank := b.put dst (op (b.value lhs) (b.value rhs)).toNat } := by
  have hwide : ((op (b.value lhs) (b.value rhs)).setWidth 64).toNat
      = (op (b.value lhs) (b.value rhs)).toNat := by
    rw [BitVec.toNat_setWidth, Nat.mod_eq_of_lt]
    exact Nat.lt_trans (BitVec.isLt _) (by decide)
  rw [binary, b.get_of_inRange hl, b.get_of_inRange hr]
  dsimp only
  rw [b.set_of_inRange _ hd, hwide]

/-- A number and its remainder modulo `2 ^ 32` put the same word into a
register. -/
lemma put_toNat_ofNat (b : Bank) (i : Int) (n : Nat) :
    b.put i (BitVec.ofNat 32 n).toNat = b.put i n := by
  rw [Bank.put, BitVec.ofNat_toNat, BitVec.setWidth_eq, Bank.put]

/-- **Executing a well-formed instruction** never fails, and does what the
instruction means. -/
theorem execute_eq {i : Instruction} (h : i.WellFormed) (b : Bank) :
    i.execute b = .ok
      { bank := i.apply b, shown := (i.shows b).head?, halted := decide (i = .halt) } := by
  have hrange := h.inRange
  cases i with
  | nop => rfl
  | add dst src =>
      simp only [operands, List.forall_mem_cons] at hrange
      rw [execute, binary_of_inRange b _ hrange.1 hrange.2.1 hrange.1, add_eq_ofNat,
        put_toNat_ofNat]
      rfl
  | sub dst src =>
      simp only [operands, List.forall_mem_cons] at hrange
      rw [execute, binary_of_inRange b _ hrange.1 hrange.2.1 hrange.1, sub_eq_ofNat,
        put_toNat_ofNat]
      rfl
  | sll src dst shift =>
      simp only [operands, List.forall_mem_cons] at hrange
      rw [execute, binary_of_inRange b _ hrange.1 hrange.2.2.1 hrange.2.1, shiftLeft_eq_ofNat,
        put_toNat_ofNat]
      rfl
  | srl src dst shift =>
      simp only [operands, List.forall_mem_cons] at hrange
      rw [execute, binary_of_inRange b _ hrange.1 hrange.2.2.1 hrange.2.1, shiftRight_eq_ofNat,
        put_toNat_ofNat]
      rfl
  | shw src =>
      simp only [operands, List.forall_mem_cons] at hrange
      rw [execute, b.get_of_inRange hrange.1]
      rfl
  | halt => rfl
  | foreign text => exact absurd h.known (by simp [opcode?])

end Instruction

end RegisterMachine
