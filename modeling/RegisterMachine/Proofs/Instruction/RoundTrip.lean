/-
Instructions written as lines, and read back.

* `Blank.fields_joined`: runs without white space, with blanks between them, are the
  fields of the text;
* `Instruction.fields_render`: the fields of a written instruction are its name and the
  names of its operands;
* `Instruction.decode_render`: **a written instruction is decoded to itself**.
-/
import RegisterMachine.Proofs.Instruction.Grammar
import RegisterMachine.Proofs.Instruction.Names

namespace RegisterMachine

/-! ### Runs with blanks between them -/

namespace Blank

/-- A white space character has a byte that is no visible ASCII character. -/
lemma exists_mem_encode_of_isBlank {c : Char} (h : isBlank c = true) :
    ∃ b ∈ String.utf8EncodeChar c, b.toNat < 33 ∨ 128 ≤ b.toNat := by
  have hvalid : c.val.toNat.isValidChar := c.valid
  rw [String.utf8EncodeChar]
  split_ifs with h1 h2 h3
  · have hcode : c.toNat < 33 := by
      have hle : c.toNat ≤ 127 := h1
      simp [isBlank] at h
      omega
    refine ⟨_, List.mem_singleton_self _, .inl ?_⟩
    rw [UInt8.toNat_ofNat']
    exact Nat.lt_of_le_of_lt (Nat.mod_le _ _) hcode
  · refine ⟨_, List.mem_cons_self, .inr ?_⟩
    rw [UInt8.toNat_ofNat']
    omega
  · refine ⟨_, List.mem_cons_self, .inr ?_⟩
    rw [UInt8.toNat_ofNat']
    omega
  · refine ⟨_, List.mem_cons_self, .inr ?_⟩
    rw [UInt8.toNat_ofNat']
    omega

/-- A text of visible ASCII characters has no white space in it. -/
lemma solid_of_visible {t : Bytes} (hne : t ≠ [])
    (h : ∀ b ∈ t, 33 ≤ b.toNat ∧ b.toNat < 128) : Solid t := by
  refine ⟨hne, ?_⟩
  rintro w ⟨c, hc, rfl⟩ hpart
  obtain ⟨b, hb, hout⟩ := exists_mem_encode_of_isBlank hc
  have hvisible := h b (hpart.subset hb)
  omega

lemma space_blank : Space (utf8 " ") :=
  ⟨' ', by decide, by decide⟩

/-- Runs with blanks between them are the fields of the text. -/
lemma fields_joined {ts : List Bytes} (h : ∀ t ∈ ts, Solid t) :
    fields (Bytes.joined (utf8 " ") ts) = ts := by
  induction ts with
  | nil => rfl
  | cons t ts ih =>
      rw [List.forall_mem_cons] at h
      cases ts with
      | nil =>
          rw [Bytes.joined, List.intercalate_singleton]
          exact fields_of_solid h.1
      | cons t' ts =>
          rw [Bytes.joined, List.intercalate_cons_cons, ← Bytes.joined,
            fields_append_space_append space_blank, fields_of_solid h.1, ih h.2]
          rfl

end Blank

/-! ### The parts of a written instruction -/

lemma Register.solid_name (i : Int) : Blank.Solid (name i) := by
  refine Blank.solid_of_visible (List.cons_ne_nil _ _) fun b hb => ?_
  obtain rfl | hb := List.mem_cons.mp hb
  · decide
  · obtain rfl | hdigit := of_mem_integer hb
    · decide
    · omega

lemma Opcode.visible_mnemonic (op : Opcode) :
    op.mnemonic.all (fun b => decide (33 ≤ b.toNat ∧ b.toNat < 128)) = true := by
  cases op <;> decide

lemma Opcode.solid_mnemonic (op : Opcode) : Blank.Solid op.mnemonic := by
  refine Blank.solid_of_visible ?_ fun b hb => ?_
  · cases op <;> decide
  · exact of_decide_eq_true (List.all_eq_true.mp op.visible_mnemonic b hb)

namespace Instruction

variable {i : Instruction} {op : Opcode}

lemma render_eq (h : i.opcode? = some op) :
    i.render = Bytes.joined (utf8 " ") (op.mnemonic :: i.operands.map Register.name) := by
  cases i with
  | foreign text => exact absurd h (by simp [opcode?])
  | _ =>
      obtain rfl := Option.some.inj h
      rfl

lemma length_operands (h : i.opcode? = some op) : i.operands.length = op.operands := by
  cases i with
  | foreign text => exact absurd h (by simp [opcode?])
  | _ =>
      obtain rfl := Option.some.inj h
      rfl

/-- An instruction is put together again from its operands. -/
lemma assemble_operands (h : i.opcode? = some op) :
    assemble op (fun n => i.operands.getD n 0) = i := by
  cases i with
  | foreign text => exact absurd h (by simp [opcode?])
  | _ =>
      obtain rfl := Option.some.inj h
      rfl

/-- The fields of a written instruction. -/
lemma fields_render (h : i.opcode? = some op) :
    Blank.fields i.render = op.mnemonic :: i.operands.map Register.name := by
  rw [render_eq h, Blank.fields_joined]
  rw [List.forall_mem_cons]
  refine ⟨op.solid_mnemonic, fun t ht => ?_⟩
  obtain ⟨r, -, rfl⟩ := List.mem_map.mp ht
  exact Register.solid_name r

/-- The written names of registers are read back. -/
lemma forall₂_parse_name {rs : List Int} (h : ∀ r ∈ rs, Register.InRange r) :
    List.Forall₂ (fun t r => Register.parse t = .ok r) (rs.map Register.name) rs := by
  rw [List.forall₂_map_left_iff, List.forall₂_same]
  exact fun r hr => Register.parse_eq_ok_iff.mpr ⟨Register.names_name r, h r hr⟩

/-- **A written instruction is decoded to itself**, unless it does nothing: the name of
that one is not to be written. -/
theorem decode_render (h : i.WellFormed) (hnop : i ≠ .nop) : decode i.render = .ok i := by
  obtain ⟨op, hop⟩ := Option.isSome_iff_exists.mp h.known
  have hwritten : op ≠ .nop := by
    rintro rfl
    cases i <;> simp [opcode?] at hop hnop
  have hfields := decodeFields_of_forall₂ op hwritten (forall₂_parse_name h.inRange)
    (by rw [List.length_map, length_operands hop]) []
  rw [decode, fields_render hop]
  rwa [List.append_nil, assemble_operands hop] at hfields

end Instruction

end RegisterMachine
