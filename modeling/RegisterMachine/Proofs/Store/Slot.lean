/-
The files of single registers.

* `Slot.decode_encode`: the four bytes of a word stand for it;
* `Slot.resolve_path`, `Slot.resolve_scratch`: where the file of a register is
  kept and where it is written first, for every spelling of the directory;
* `Slot.fileName_injective`, `Slot.fileName_ne_scratchName`: the files of the
  registers have different names, which are not those of files to be moved.
-/
import RegisterMachine.Proofs.FileSystem.Path
import RegisterMachine.Slot

namespace RegisterMachine

/-! ### Numbers in base ten -/

lemma isDigit_iff {c : Char} : c.isDigit = true ↔ 48 ≤ c.val.toNat ∧ c.val.toNat ≤ 57 := by
  rw [Char.isDigit, Bool.and_eq_true, decide_eq_true_iff, decide_eq_true_iff, ge_iff_le,
    UInt32.le_iff_toNat_le, UInt32.le_iff_toNat_le]
  rfl

lemma toNat_toUInt8_of_isDigit {c : Char} (h : c.isDigit = true) :
    c.toUInt8.toNat = c.val.toNat := by
  have hc := isDigit_iff.mp h
  rw [Char.toUInt8, UInt32.toNat_toUInt8]
  omega

lemma of_mem_decimal {n : Nat} {c : UInt8} (h : c ∈ decimal n) :
    48 ≤ c.toNat ∧ c.toNat ≤ 57 := by
  obtain ⟨d, hd, rfl⟩ := List.mem_map.mp h
  have hdigit := Nat.isDigit_of_mem_toDigits (by decide) (by decide) hd
  rw [toNat_toUInt8_of_isDigit hdigit]
  exact isDigit_iff.mp hdigit

/-- The digits of a number determine it. -/
lemma decimal_injective {m n : Nat} (h : decimal m = decimal n) : m = n := by
  have hback (k : Nat) :
      (decimal k).map (fun c => Char.ofNat c.toNat) = Nat.toDigits 10 k := by
    rw [decimal, List.map_map, List.map_congr_left (g := id), List.map_id]
    intro d hd
    rw [Function.comp_apply, toNat_toUInt8_of_isDigit
      (Nat.isDigit_of_mem_toDigits (by decide) (by decide) hd)]
    exact Char.ofNat_toNat d
  rw [← Nat.ofDigitChars_ten_toDigits (n := m), ← Nat.ofDigitChars_ten_toDigits (n := n),
    ← hback m, ← hback n, h]

lemma minus_not_mem_decimal (n : Nat) : 45 ∉ decimal n := by
  intro h
  have hdigit := of_mem_decimal h
  simp at hdigit

/-- The text of an integer determines it. -/
lemma integer_injective {i j : Int} (h : integer i = integer j) : i = j := by
  cases i with
  | ofNat m =>
      cases j with
      | ofNat n => rw [decimal_injective h]
      | negSucc n =>
          have hm : (45 : UInt8) ∈ decimal m := by
            change decimal m = _ at h
            rw [h]
            exact List.mem_cons_self
          exact absurd hm (minus_not_mem_decimal m)
  | negSucc m =>
      cases j with
      | ofNat n =>
          have hn : (45 : UInt8) ∈ decimal n := by
            change _ = decimal n at h
            rw [← h]
            exact List.mem_cons_self
          exact absurd hn (minus_not_mem_decimal n)
      | negSucc n =>
          have hsucc := decimal_injective (List.cons.inj h).2
          rw [Nat.add_right_cancel hsucc]

lemma of_mem_integer {i : Int} {c : UInt8} (h : c ∈ integer i) :
    c = 45 ∨ 48 ≤ c.toNat ∧ c.toNat ≤ 57 := by
  cases i with
  | ofNat n => exact .inr (of_mem_decimal h)
  | negSucc n =>
      rcases List.mem_cons.mp h with h | h
      · exact .inl h
      · exact .inr (of_mem_decimal h)

namespace Slot

/-! ### Names -/

/-- The name of the file of a register before it takes its place. -/
def scratchName (i : Int) : Bytes :=
  fileName i ++ utf8 ".tmp"

lemma fileName_eq (i : Int) : fileName i = 120 :: (integer i ++ utf8 ".bin") := by
  rw [fileName, Register.name, List.append_assoc]
  rfl

/-- The files of different registers have different names. -/
lemma fileName_injective {i j : Int} (h : fileName i = fileName j) : i = j := by
  rw [fileName_eq, fileName_eq] at h
  exact integer_injective (List.append_cancel_right (List.cons.inj h).2)

lemma scratchName_injective {i j : Int} (h : scratchName i = scratchName j) : i = j :=
  fileName_injective (List.append_cancel_right h)

/-- The file of a register is never one that is still to be moved. -/
lemma fileName_ne_scratchName (i j : Int) : fileName i ≠ scratchName j := by
  intro h
  have hbin : (utf8 ".bin").getLast? = some 110 := by decide
  have htmp : (utf8 ".tmp").getLast? = some 112 := by decide
  have hlast := congrArg List.getLast? h
  rw [fileName, scratchName, List.getLast?_append, List.getLast?_append, hbin, htmp] at hlast
  exact absurd hlast (by simp)

lemma separator_not_mem_fileName (i : Int) : Path.separator ∉ fileName i := by
  rw [fileName_eq, List.mem_cons, List.mem_append]
  rintro (h | h | h)
  · exact absurd h (by decide)
  · rcases of_mem_integer h with h | h
    · exact absurd h (by decide)
    · exact absurd h.1 (by decide)
  · exact absurd h (by decide)

lemma plain_fileName_append (i : Int) {s : Bytes} (hs : Path.separator ∉ s) :
    Path.Plain (fileName i ++ s) where
  ne_nil := by simp [fileName_eq]
  ne_here := by
    rw [fileName_eq]
    intro h
    exact absurd (List.cons.inj (h : _ = (46 : UInt8) :: [])).1 (by decide)
  ne_above := by
    rw [fileName_eq]
    intro h
    exact absurd (List.cons.inj (h : _ = (46 : UInt8) :: [46])).1 (by decide)
  no_separator := by
    rw [List.mem_append]
    rintro (h | h)
    · exact separator_not_mem_fileName i h
    · exact hs h

lemma plain_fileName (i : Int) : Path.Plain (fileName i) := by
  have h := plain_fileName_append i (s := []) (by simp)
  rwa [List.append_nil] at h

lemma plain_scratchName (i : Int) : Path.Plain (scratchName i) :=
  plain_fileName_append i (by decide)

/-! ### Places -/

/-- Where the file of a register is kept in the directory at `loc`. -/
def place (loc : Location) (i : Int) : Location :=
  loc ++ [fileName i]

/-- Where the file of a register is written before it takes its place. -/
def scratchPlace (loc : Location) (i : Int) : Location :=
  loc ++ [scratchName i]

/-- The path of the file of a register leads into the directory, however that is
spelled. -/
lemma resolve_path (d : Bytes) (i : Int) :
    Path.resolve (path d i) = place (Path.resolve d) i :=
  Path.resolve_join d (plain_fileName i)

lemma resolve_scratch (d : Bytes) (i : Int) :
    Path.resolve (scratch d i) = scratchPlace (Path.resolve d) i := by
  rw [scratch, path, Path.join_append d (plain_fileName i) (plain_scratchName i)]
  exact Path.resolve_join d (plain_scratchName i)

lemma path_ne_nil (d : Bytes) (i : Int) : path d i ≠ [] :=
  Path.ne_nil_of_resolve (resolve_path d i)

lemma scratch_ne_nil (d : Bytes) (i : Int) : scratch d i ≠ [] :=
  Path.ne_nil_of_resolve (resolve_scratch d i)

lemma place_injective {loc : Location} {i j : Int} (h : place loc i = place loc j) : i = j :=
  fileName_injective (List.cons.inj (List.append_cancel_left h)).1

lemma scratchPlace_injective {loc : Location} {i j : Int}
    (h : scratchPlace loc i = scratchPlace loc j) : i = j :=
  scratchName_injective (List.cons.inj (List.append_cancel_left h)).1

lemma place_ne_scratchPlace (loc : Location) (i j : Int) : place loc i ≠ scratchPlace loc j :=
  fun h => fileName_ne_scratchName i j (List.cons.inj (List.append_cancel_left h)).1

/-! ### Words as bytes -/

lemma length_encode (v : Word) : (encode v).length = size := rfl

/-- **The four bytes of a word stand for it.** -/
theorem decode_encode (v : Word) : decode (encode v) = .ok v := by
  have hv := v.isLt
  rw [encode, decode]
  congr 1
  apply BitVec.eq_of_toNat_eq
  simp only [BitVec.toNat_ofNat, BitVec.toNat_ushiftRight, Nat.toUInt8_eq, UInt8.toNat_ofNat',
    Nat.shiftRight_eq_div_pow]
  omega

/-- Four bytes always stand for a word. -/
lemma exists_decode {data : Bytes} (h : data.length = size) : ∃ v, decode data = .ok v := by
  match data, h with
  | [a, b, c, d], _ => exact ⟨_, rfl⟩

/-- Other than four bytes stand for no word. -/
lemma decode_of_length_ne {data : Bytes} (h : data.length ≠ size) :
    decode data = .error (.malformedSlot none data.length) := by
  unfold decode
  split
  · exact absurd rfl h
  · rfl

end Slot

end RegisterMachine
