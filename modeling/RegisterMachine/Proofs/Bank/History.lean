/-
The bank as a map from its sixteen registers, under any history of accesses.

* `Access`: reading a register, writing one, and setting all to zero, for indices
  that nobody has checked;
* `Bank.access` / `Bank.after`: what a bank answers, and the bank after a history;
* `Access.settles` / `Access.contents`: the accesses that give a register its word, and
  what it holds by the last of them;
* `Bank.toNat_value_access`: what one access does to a register;
* `Bank.toNat_value_after`: so what a history does to it;
* `Bank.contents_after`: **every register holds what the last access that settles it has
  left there**, and indices without a register change nothing.
-/
import Mathlib.Data.List.Induction
import RegisterMachine.Proofs.Instruction.Operands

namespace RegisterMachine

/-- What can be asked of a bank. -/
inductive Access where
  /-- The word of a register. -/
  | get (i : Int)
  /-- The lowest 32 bits of a number as the word of a register. -/
  | set (i : Int) (v : BitVec 64)
  /-- Zero in every register. -/
  | reset
deriving DecidableEq, Repr

namespace Access

/-- The access gives register `i` a word. -/
def settles (i : Int) : Access → Bool
  | .get _ => false
  | .set j _ => j = i
  | .reset => true

/-- What an access leaves in a register that it settles. -/
def left : Access → Nat
  | .set _ v => v.toNat % Nat.pow 2 32
  | _ => 0

/-- The last access in a history that settles register `i`. -/
def last? (i : Int) (history : List Access) : Option Access :=
  history.reverse.find? (settles i)

/-- What register `i` holds after a history of a bank that started with the words `ws`. -/
def contents (ws : List Word) (history : List Access) (i : Nat) : Nat :=
  match last? i history with
  | some a => a.left
  | none => (ws.getD i 0#32).toNat

lemma last?_concat (i : Int) (history : List Access) (a : Access) :
    last? i (history ++ [a]) = if a.settles i then some a else last? i history := by
  rw [last?, List.reverse_append, List.reverse_singleton, List.singleton_append, List.find?_cons]
  cases a.settles i <;> rfl

/-- One more access decides what a register holds if it settles it. -/
lemma contents_concat (ws : List Word) (history : List Access) (a : Access) (i : Nat) :
    contents ws (history ++ [a]) i = if a.settles i then a.left else contents ws history i := by
  rw [contents, last?_concat]
  split_ifs
  · rfl
  · rw [contents]

end Access

namespace Bank

/-- What a bank answers to an access, and the bank afterwards, which is the same if the
access fails. -/
def access (b : Bank) : Access → Except Cause (Option Word) × Bank
  | .get i =>
    match b.get i with
    | .ok v => (.ok (some v), b)
    | .error e => (.error e, b)
  | .set i v =>
    match b.set i v with
    | .ok b' => (.ok none, b')
    | .error e => (.error e, b)
  | .reset => (.ok none, zero)

/-- The bank after a history. -/
def after (b : Bank) (history : List Access) : Bank :=
  history.foldl (fun b a => (b.access a).2) b

variable {i : Int}

/-! ### One access -/

lemma access_get_of_inRange (b : Bank) (h : Register.InRange i) :
    b.access (.get i) = (.ok (some (b.value i)), b) := by
  rw [access, b.get_of_inRange h]

lemma access_set_of_inRange (b : Bank) (v : BitVec 64) (h : Register.InRange i) :
    b.access (.set i v) = (.ok none, b.put i v.toNat) := by
  rw [access, b.set_of_inRange v h]

/-- An index without a register is reported, and nothing changes. -/
lemma access_of_not_inRange (b : Bank) (v : BitVec 64) (h : ¬ Register.InRange i) :
    b.access (.get i) = (.error (.registerOutOfRange (Register.name i)), b)
      ∧ b.access (.set i v) = (.error (.registerOutOfRange (Register.name i)), b) := by
  rw [access, access, b.get_of_not_inRange h, b.set_of_not_inRange v h]
  exact ⟨rfl, rfl⟩

lemma value_ofList (ws : List Word) (h : Register.InRange i) :
    (ofList ws).value i = ws.getD i.toNat 0#32 := by
  rw [value_eq_word _ (toNat_lt_of_inRange h)]
  simp [ofList, word_eq_getElem]

/-- Writing a register leaves the others alone. -/
lemma value_put_of_ne {j : Int} (b : Bank) (n : Nat) (h : Register.InRange i) (hne : j ≠ i) :
    (b.put j n).value i = b.value i := by
  have hi : ((i.toNat : Nat) : Int) = i := Int.toNat_of_nonneg h.1
  rw [value_eq_word _ (toNat_lt_of_inRange h), value_eq_word _ (toNat_lt_of_inRange h), word_put,
    if_neg fun hr => hne (hr.symm.trans hi)]

/-- **One access** decides what the registers hold that it settles, and no others. -/
lemma toNat_value_access (b : Bank) (a : Access) (h : Register.InRange i) :
    ((b.access a).2.value i).toNat = if a.settles i then a.left else (b.value i).toNat := by
  cases a with
  | get j =>
      have hsame : (b.access (.get j)).2 = b := by
        rw [access]
        cases b.get j <;> rfl
      rw [hsame]
      rfl
  | set j v =>
      by_cases hj : Register.InRange j
      · rw [b.access_set_of_inRange v hj]
        by_cases hji : j = i
        · subst hji
          rw [Access.settles, if_pos (by simp), b.toNat_value_put _ hj, Access.left]
        · rw [Access.settles, if_neg (by simpa using hji), b.value_put_of_ne _ h hji]
      · -- The register that would be written is none, so it is not this one.
        have hji : j ≠ i := by
          rintro rfl
          exact hj h
        rw [(b.access_of_not_inRange v hj).2, Access.settles, if_neg (by simpa using hji)]
  | reset =>
      rw [access, value_zero]
      rfl

/-! ### Histories -/

lemma after_concat (b : Bank) (history : List Access) (a : Access) :
    b.after (history ++ [a]) = ((b.after history).access a).2 := by
  rw [after, List.foldl_append]
  rfl

/-- **A history** leaves in every register what the last access that settles it does. -/
lemma toNat_value_after (ws : List Word) (history : List Access) (h : Register.InRange i) :
    (((ofList ws).after history).value i).toNat = Access.contents ws history i.toNat := by
  have hi : ((i.toNat : Nat) : Int) = i := Int.toNat_of_nonneg h.1
  -- The induction takes the last access away, as that is the one that counts.
  induction history using List.reverseRecOn with
  | nil =>
      rw [after, List.foldl_nil, value_ofList ws h]
      rfl
  | append_singleton history a ih =>
      rw [after_concat, toNat_value_access _ a h, Access.contents_concat, hi, ih]

/-! ### All registers -/

lemma inRange_of_lt {n : Nat} (h : n < Register.count) : Register.InRange n :=
  ⟨by omega, by omega⟩

lemma toList_eq_map_value (b : Bank) :
    b.toList = (List.range Register.count).map fun n : Nat => b.value n := by
  refine List.ext_getElem (by simp [toList, Register.count]) fun n hn hn' => ?_
  rw [List.getElem_map, List.getElem_range, value, Int.toNat_natCast,
    List.getD_eq_getElem _ _ hn]

lemma render_eq (b : Bank) :
    b.render = Bytes.joined (utf8 " ") ((List.range Register.count).map fun n : Nat =>
      Register.name n ++ utf8 "=" ++ decimal (b.value n).toNat) := by
  rw [render, toList_eq_map_value]
  refine congrArg _ (List.ext_getElem (by simp) fun n hn hn' => ?_)
  simp

/-- **The bank is a map from its sixteen registers**, whatever words it starts with and
whatever has been asked of it since.  A register holds the remainder modulo `2 ^ 32` of what
was last written to it since all were last set to zero, or else zero if they were, or else
the word that it started with; writing succeeds.  Reading or writing at an index without a
register says so and changes nothing.  The list of the words and the text of the bank show
these sixteen values in the order of the registers. -/
theorem contents_after (ws : List Word) (history : List Access) :
    let b := (ofList ws).after history
    (∀ i, Register.InRange i →
        (∃ v, b.access (.get i) = (.ok (some v), b)
          ∧ v.toNat = Access.contents ws history i.toNat)
        ∧ ∀ v, (b.access (.set i v)).1 = .ok none)
      ∧ (∀ i, ¬ Register.InRange i → ∀ v,
        b.access (.get i) = (.error (.registerOutOfRange (Register.name i)), b)
          ∧ b.access (.set i v) = (.error (.registerOutOfRange (Register.name i)), b))
      ∧ b.toList.map BitVec.toNat = (List.range Register.count).map (Access.contents ws history)
      ∧ b.render = Bytes.joined (utf8 " ") ((List.range Register.count).map fun n : Nat =>
        Register.name n ++ utf8 "=" ++ decimal (Access.contents ws history n)) := by
  intro b
  have hvalue {n : Nat} (hn : n ∈ List.range Register.count) :
      (b.value n).toNat = Access.contents ws history n :=
    toNat_value_after ws history (inRange_of_lt (List.mem_range.mp hn))
  refine ⟨fun i h => ⟨⟨b.value i, b.access_get_of_inRange h, toNat_value_after ws history h⟩,
    fun v => ?_⟩, fun i h v => b.access_of_not_inRange v h, ?_, ?_⟩
  · rw [b.access_set_of_inRange v h]
  · rw [toList_eq_map_value, List.map_map]
    exact List.map_congr_left fun n hn => hvalue hn
  · rw [render_eq]
    exact congrArg _ (List.map_congr_left fun n hn => by rw [hvalue hn])

end Bank

end RegisterMachine
