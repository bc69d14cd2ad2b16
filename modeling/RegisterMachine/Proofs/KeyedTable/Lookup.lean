/-
Tables of items by key, as maps and as lists of their keys.

* `KeyedTable.get?_insert_self`, `KeyedTable.get?_insert_of_ne`,
  `KeyedTable.nodup_keys_insert`: what one more item does to a table;
* `KeyedTable.IsLast`: the last item of a list with a property, and what one more item
  (`isLast_concat`) and leaving items out (`isLast_filter`) do to it;
* `KeyedTable.get?_ofItems_eq_some_iff`, `KeyedTable.mem_keys_ofItems`: so what a whole list
  of items leaves in its table;
* `KeyedTable.eq_sortedKeys`, `KeyedTable.mergeSort_of_perm`: the keys have one ascending
  list, in whatever order they are gathered;
* `Bytes.before_isLinearOrder`, `Manual.Topic.names_eq_sortedKeys`: texts are ordered, and
  the topics of the manual are listed so;
* `KeyedTable.ofItems_by_key`: **a table maps each key to the last item that has it**, also
  when items are left out, and lists its keys in ascending order.
-/
import Mathlib.Data.List.Induction
import Mathlib.Data.List.Sort
import RegisterMachine.Manual

namespace RegisterMachine

namespace KeyedTable

variable {κ α : Type}

/-! ### One item -/

section Insert

variable [DecidableEq κ]

lemma get?_cons (e : κ × α) (rest : List (κ × α)) (k : κ) :
    get? ⟨e :: rest⟩ k = if e.1 = k then some e.2 else get? ⟨rest⟩ k := by
  by_cases h : e.1 = k <;> simp [get?, h]

lemma mem_keys_iff {t : KeyedTable κ α} {k : κ} : k ∈ t.keys ↔ ∃ a, t.get? k = some a := by
  rw [← Option.isSome_iff_exists, get?, Option.isSome_map, List.find?_isSome, keys, List.mem_map]
  simp

lemma get?_eq_none_iff_not_mem {t : KeyedTable κ α} {k : κ} : t.get? k = none ↔ k ∉ t.keys := by
  rw [mem_keys_iff, ← Option.isSome_iff_exists, Option.not_isSome_iff_eq_none]

/-- An item is found under the key it has been put under. -/
lemma get?_insert_self (t : KeyedTable κ α) (k : κ) (a : α) : (t.insert k a).get? k = some a := by
  obtain ⟨entries⟩ := t
  induction entries with
  | nil => rw [insert, insertEntry, get?_cons, if_pos rfl]
  | cons e rest ih =>
      rw [insert, insertEntry]
      split_ifs with h
      · rw [get?_cons, if_pos rfl]
      · rw [get?_cons, if_neg h]
        exact ih

/-- Nothing changes under the other keys. -/
lemma get?_insert_of_ne (t : KeyedTable κ α) {k k' : κ} (a : α) (hne : k ≠ k') :
    (t.insert k a).get? k' = t.get? k' := by
  obtain ⟨entries⟩ := t
  induction entries with
  | nil => rw [insert, insertEntry, get?_cons, if_neg hne]
  | cons e rest ih =>
      rw [insert, insertEntry, get?_cons e]
      split_ifs with h h' h'
      · exact absurd (h.symm.trans h') hne
      · rw [get?_cons, if_neg hne]
      · rw [get?_cons, if_pos h']
      · rw [get?_cons, if_neg h']
        exact ih

/-- A key that is there keeps its place. -/
lemma keys_insert_of_mem {t : KeyedTable κ α} {k : κ} (a : α) (h : k ∈ t.keys) :
    (t.insert k a).keys = t.keys := by
  obtain ⟨entries⟩ := t
  induction entries with
  | nil => exact absurd h List.not_mem_nil
  | cons e rest ih =>
      rw [insert, insertEntry]
      split_ifs with he
      · rw [keys, keys, List.map_cons, List.map_cons, he]
      · have hrest : k ∈ keys ⟨rest⟩ := (List.mem_cons.mp h).resolve_left fun hk => he hk.symm
        exact congrArg (e.1 :: ·) (ih hrest)

/-- A new key comes last. -/
lemma keys_insert_of_not_mem {t : KeyedTable κ α} {k : κ} (a : α) (h : k ∉ t.keys) :
    (t.insert k a).keys = t.keys ++ [k] := by
  obtain ⟨entries⟩ := t
  induction entries with
  | nil => rfl
  | cons e rest ih =>
      have hk : e.1 ≠ k := fun hk => h (hk ▸ List.mem_cons_self)
      rw [insert, insertEntry, if_neg hk]
      exact congrArg (e.1 :: ·) (ih fun hrest => h (List.mem_cons_of_mem _ hrest))

/-- **One more item** leaves each key in the table once. -/
lemma nodup_keys_insert {t : KeyedTable κ α} (k : κ) (a : α) (h : t.keys.Nodup) :
    (t.insert k a).keys.Nodup := by
  by_cases hk : k ∈ t.keys
  · rw [keys_insert_of_mem a hk]
    exact h
  · rw [keys_insert_of_not_mem a hk, ← List.concat_eq_append]
    exact h.concat hk

end Insert

/-! ### The last item with a property -/

/-- `a` is the last item of the list with the property `p`. -/
def IsLast (p : α → Prop) (items : List α) (a : α) : Prop :=
  ∃ earlier later, items = earlier ++ a :: later ∧ p a ∧ ∀ b ∈ later, ¬ p b

variable {p : α → Prop}

lemma not_isLast_nil (a : α) : ¬ IsLast p [] a := by
  rintro ⟨earlier, later, hitems, -⟩
  simp at hitems

/-- One more item is the last one if it has the property, and else does not count. -/
lemma isLast_concat (items : List α) (a b : α) :
    IsLast p (items ++ [b]) a ↔ p b ∧ b = a ∨ ¬ p b ∧ IsLast p items a := by
  constructor
  · rintro ⟨earlier, later, hitems, ha, hlater⟩
    rcases later.eq_nil_or_concat with rfl | ⟨later, c, rfl⟩
    · obtain ⟨-, hb⟩ := List.append_inj' hitems rfl
      obtain rfl : b = a := List.head_eq_of_cons_eq hb
      exact .inl ⟨ha, rfl⟩
    · rw [List.concat_eq_append, ← List.cons_append, ← List.append_assoc] at hitems
      obtain ⟨rfl, hb⟩ := List.append_inj' hitems rfl
      obtain rfl : b = c := List.head_eq_of_cons_eq hb
      exact .inr ⟨hlater b (by simp), earlier, later, rfl, ha,
        fun d hd => hlater d (by simp [hd])⟩
  · rintro (⟨hb, rfl⟩ | ⟨hb, earlier, later, rfl, ha, hlater⟩)
    · exact ⟨items, [], rfl, hb, by simp⟩
    · refine ⟨earlier, later ++ [b], by simp, ha, fun d hd => ?_⟩
      rcases List.mem_append.mp hd with hd | hd
      · exact hlater d hd
      · rw [List.mem_singleton.mp hd]
        exact hb

/-- There is a last item with a property if there is one at all. -/
lemma exists_isLast_iff {items : List α} : (∃ a, IsLast p items a) ↔ ∃ a ∈ items, p a := by
  constructor
  · rintro ⟨a, earlier, later, rfl, ha, -⟩
    exact ⟨a, by simp, ha⟩
  · induction items using List.reverseRecOn with
    | nil =>
        rintro ⟨a, ha, -⟩
        exact absurd ha List.not_mem_nil
    | append_singleton items b ih =>
        rintro ⟨a, ha, hpa⟩
        by_cases hb : p b
        · exact ⟨b, (isLast_concat items b b).mpr (.inl ⟨hb, rfl⟩)⟩
        · -- The item with the property is another one, so it stands further to the front.
          have hmem : a ∈ items := by
            rcases List.mem_append.mp ha with h | h
            · exact h
            · rw [List.mem_singleton.mp h] at hpa
              exact absurd hpa hb
          obtain ⟨c, hc⟩ := ih ⟨a, hmem, hpa⟩
          exact ⟨c, (isLast_concat items c b).mpr (.inr ⟨hb, hc⟩)⟩

/-- Of the items that are kept, the last one with a property is the last of all that has
the property and is kept. -/
lemma isLast_filter (q : α → Bool) (items : List α) (a : α) :
    IsLast p (items.filter q) a ↔ IsLast (fun b => p b ∧ q b) items a := by
  induction items using List.reverseRecOn with
  | nil => exact iff_of_false (not_isLast_nil a) (not_isLast_nil a)
  | append_singleton items b ih =>
      rw [isLast_concat, List.filter_append]
      by_cases hb : q b
      · rw [List.filter_cons_of_pos hb, List.filter_nil, isLast_concat, ih]
        simp only [hb, and_true]
      · rw [List.filter_cons_of_neg hb, List.filter_nil, List.append_nil, ih]
        simp only [hb, Bool.false_eq_true, and_false, false_and, not_false_eq_true, true_and,
          false_or]

/-! ### A list of items -/

section Items

variable [DecidableEq κ] (key : α → κ)

lemma ofItems_concat (items : List α) (a : α) :
    ofItems key (items ++ [a]) = (ofItems key items).insert (key a) a := by
  rw [ofItems, List.foldl_append]
  rfl

/-- A table holds each key once. -/
lemma nodup_keys_ofItems (items : List α) : (ofItems key items).keys.Nodup := by
  induction items using List.reverseRecOn with
  | nil => exact List.nodup_nil
  | append_singleton items a ih =>
      rw [ofItems_concat]
      exact nodup_keys_insert _ a ih

/-- **Under a key stands the last item that has it.** -/
lemma get?_ofItems_eq_some_iff (items : List α) (k : κ) (a : α) :
    (ofItems key items).get? k = some a ↔ IsLast (fun b => key b = k) items a := by
  -- The last item is put in last, so the induction takes it away first.
  induction items using List.reverseRecOn with
  | nil => exact iff_of_false (by simp [ofItems, empty, get?]) (not_isLast_nil a)
  | append_singleton items b ih =>
      rw [ofItems_concat, isLast_concat]
      by_cases hb : key b = k
      · subst hb
        rw [get?_insert_self]
        simp
      · rw [get?_insert_of_ne _ b hb, ih]
        simp [hb]

lemma mem_keys_ofItems {items : List α} {k : κ} :
    k ∈ (ofItems key items).keys ↔ ∃ a ∈ items, key a = k := by
  simp only [mem_keys_iff, get?_ofItems_eq_some_iff, exists_isLast_iff]

lemma get?_ofItems_filter_eq_some_iff (q : α → Bool) (items : List α) (k : κ) (a : α) :
    (ofItems key (items.filter q)).get? k = some a ↔ IsLast (fun b => key b = k ∧ q b) items a := by
  rw [get?_ofItems_eq_some_iff, isLast_filter]

lemma mem_keys_ofItems_filter {q : α → Bool} {items : List α} {k : κ} :
    k ∈ (ofItems key (items.filter q)).keys ↔ ∃ a ∈ items, key a = k ∧ q a := by
  simp only [mem_keys_iff, get?_ofItems_filter_eq_some_iff, exists_isLast_iff]

end Items

/-! ### Keys in ascending order -/

section Order

variable {le : κ → κ → Bool}

lemma mem_sortedKeys {t : KeyedTable κ α} {k : κ} : k ∈ t.sortedKeys le ↔ k ∈ t.keys :=
  (List.mergeSort_perm t.keys le).mem_iff

variable [IsLinearOrder κ fun k k' => le k k']

lemma pairwise_mergeSort_le (ks : List κ) : (ks.mergeSort le).Pairwise fun k k' => le k k' := by
  refine List.pairwise_mergeSort (fun a b c hab hbc => ?_) (fun a b => ?_) ks
  · exact trans_of (fun k k' => le k k' = true) hab hbc
  · rw [Bool.or_eq_true]
    exact total_of (fun k k' => le k k' = true) a b

/-- It does not matter in which order the keys are gathered. -/
lemma mergeSort_of_perm {t : KeyedTable κ α} {ks : List κ} (h : ks.Perm t.keys) :
    ks.mergeSort le = t.sortedKeys le := by
  have hperm : (ks.mergeSort le).Perm (t.sortedKeys le) :=
    (List.mergeSort_perm ks le).trans (h.trans (List.mergeSort_perm t.keys le).symm)
  exact hperm.eq_of_pairwise (fun a b _ _ => antisymm_of fun k k' => le k k' = true)
    (pairwise_mergeSort_le ks) (pairwise_mergeSort_le t.keys)

/-- Where each key is there once, each comes strictly before the next ones. -/
lemma pairwise_sortedKeys {t : KeyedTable κ α} (h : t.keys.Nodup) :
    (t.sortedKeys le).Pairwise fun k k' => le k k' ∧ k ≠ k' :=
  (pairwise_mergeSort_le t.keys).and ((List.mergeSort_perm t.keys le).nodup_iff.mpr h)

/-- **The keys have one ascending list.** -/
lemma eq_sortedKeys {t : KeyedTable κ α} (h : t.keys.Nodup) {ks : List κ}
    (hks : ks.Pairwise fun k k' => le k k' ∧ k ≠ k') (hmem : ∀ k, k ∈ ks ↔ k ∈ t.keys) :
    ks = t.sortedKeys le := by
  have : Std.Antisymm fun k k' => le k k' = true ∧ k ≠ k' :=
    ⟨fun a b hab hba => antisymm_of (fun k k' => le k k' = true) hab.1 hba.1⟩
  have : Std.Irrefl fun k k' => le k k' = true ∧ k ≠ k' := ⟨fun a ha => ha.2 rfl⟩
  exact hks.eq_of_mem_iff (pairwise_sortedKeys h) fun k => (hmem k).trans mem_sortedKeys.symm

end Order

end KeyedTable

/-! ### Texts in order -/

namespace Bytes

lemma before_iff_le {a b : Bytes} : before a b ↔ List.le a b := by
  rw [before, Bool.not_eq_true', ← Bool.not_eq_true, List.lex_eq_true_iff_lt]

/-- The lexicographic order puts any two texts in order. -/
instance before_isLinearOrder : IsLinearOrder Bytes fun a b => before a b where
  refl a := before_iff_le.mpr (List.le_refl a)
  trans _ _ _ hab hbc :=
    before_iff_le.mpr (List.le_trans (before_iff_le.mp hab) (before_iff_le.mp hbc))
  antisymm _ _ hab hba := List.le_antisymm (before_iff_le.mp hab) (before_iff_le.mp hba)
  total a b := (List.le_total a b).imp before_iff_le.mpr before_iff_le.mpr

end Bytes

/-- The topics of the manual are listed in the order of their names. -/
lemma Manual.Topic.names_eq_sortedKeys :
    all.map name = (KeyedTable.ofItems name all).sortedKeys Bytes.before := by
  refine KeyedTable.eq_sortedKeys (KeyedTable.nodup_keys_ofItems name all) (by decide) fun k => ?_
  rw [KeyedTable.mem_keys_ofItems, List.mem_map]

namespace KeyedTable

variable {κ α : Type} [DecidableEq κ]

/-- **A table of items by key is a map to the last of them**, whatever the items and their
keys.  It holds the keys that the items have, each once, and under a key stands the last
item that has it.  The keys in ascending order are each strictly before the next ones; they
are the keys that the items have, no other list is so, and it does not matter in which
order they are gathered.  Where only the items with a property are taken, under a key stands
the last item that has both the key and the property, and there is no other key. -/
theorem ofItems_by_key (key : α → κ) (items : List α) :
    let t := ofItems key items
    (∀ k, (k ∈ t.keys ↔ ∃ a ∈ items, key a = k)
        ∧ (t.get? k = none ↔ ∀ a ∈ items, key a ≠ k)
        ∧ ∀ a, t.get? k = some a ↔ IsLast (fun b => key b = k) items a)
      ∧ t.keys.Nodup
      ∧ (∀ le : κ → κ → Bool, IsLinearOrder κ (fun k k' => le k k') →
        (t.sortedKeys le).Pairwise (fun k k' => le k k' ∧ k ≠ k')
          ∧ (∀ k, k ∈ t.sortedKeys le ↔ ∃ a ∈ items, key a = k)
          ∧ (∀ ks : List κ, ks.Pairwise (fun k k' => le k k' ∧ k ≠ k') →
            (∀ k, k ∈ ks ↔ ∃ a ∈ items, key a = k) → ks = t.sortedKeys le)
          ∧ ∀ ks : List κ, ks.Perm t.keys → ks.mergeSort le = t.sortedKeys le)
      ∧ ∀ q : α → Bool,
        let kept := ofItems key (items.filter q)
        ∀ k, (k ∈ kept.keys ↔ ∃ a ∈ items, key a = k ∧ q a)
          ∧ (kept.get? k = none ↔ ∀ a ∈ items, key a = k → ¬ q a)
          ∧ ∀ a, kept.get? k = some a ↔ IsLast (fun b => key b = k ∧ q b) items a := by
  intro t
  have hnodup : t.keys.Nodup := nodup_keys_ofItems key items
  have hkeys (k : κ) : k ∈ t.keys ↔ ∃ a ∈ items, key a = k := mem_keys_ofItems key
  refine ⟨fun k => ⟨hkeys k, ?_, get?_ofItems_eq_some_iff key items k⟩, hnodup,
    fun le hle => ⟨pairwise_sortedKeys hnodup, fun k => mem_sortedKeys.trans (hkeys k), ?_,
      fun ks hks => mergeSort_of_perm hks⟩, ?_⟩
  · rw [get?_eq_none_iff_not_mem, hkeys]
    simp only [not_exists, not_and, ne_eq]
  · intro ks hks hmem
    exact eq_sortedKeys hnodup hks fun k => (hmem k).trans (hkeys k).symm
  · intro q kept k
    refine ⟨mem_keys_ofItems_filter key, ?_, get?_ofItems_filter_eq_some_iff key q items k⟩
    rw [get?_eq_none_iff_not_mem, mem_keys_ofItems_filter]
    simp only [not_exists, not_and]

/-- The instructions by their numbers of operands: of two with one number the later one
stays, and the earlier one if the later is left out. -/
theorem ofItems_by_operands :
    IsLinearOrder Nat (fun n m => Nat.ble n m)
      ∧ (ofItems Opcode.operands Opcode.all).get? 3 = some .srl
      ∧ (ofItems Opcode.operands Opcode.all).sortedKeys Nat.ble = [0, 1, 2, 3]
      ∧ (ofItems Opcode.operands (Opcode.all.filter (· ≠ .srl))).get? 3 = some .sll
      ∧ (ofItems Opcode.operands (Opcode.all.filter (· ≠ .shw))).get? 1 = none := by
  have hle : IsLinearOrder Nat (fun n m => Nat.ble n m) := by
    simp only [Nat.ble_eq]
    infer_instance
  obtain ⟨hget, -, hsorted, hkept⟩ := ofItems_by_key Opcode.operands Opcode.all
  refine ⟨hle, ((hget 3).2.2 .srl).mpr ?_, ?_, ((hkept _ 3).2.2 .sll).mpr ?_,
    (hkept _ 1).2.1.mpr (by decide)⟩
  · exact ⟨[.nop, .add, .sub, .sll], [.shw, .halt], rfl, rfl, by decide⟩
  · refine ((hsorted Nat.ble hle).2.2.1 [0, 1, 2, 3] (by decide) fun k => ?_).symm
    simp only [Opcode.all, Opcode.operands, List.mem_cons, List.not_mem_nil, or_false,
      exists_eq_or_imp, exists_eq_left]
    omega
  · exact ⟨[.nop, .add, .sub], [.srl, .shw, .halt], rfl, by decide, by decide⟩

end KeyedTable

end RegisterMachine
