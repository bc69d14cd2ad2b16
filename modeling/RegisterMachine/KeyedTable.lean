/-
Tables of items by key.

* `KeyedTable.ofItems`: a table of items under a key computed from each, where
  of two items with one key the later one stays;
* `KeyedTable.get?`: look-up;
* `KeyedTable.sortedKeys`: the keys in ascending order;
* `indices?`: the first natural numbers.
-/

namespace RegisterMachine

/-- Items by key, with one item for each key. -/
structure KeyedTable (κ α : Type) where
  /-- The keys with their items, in the order in which the keys came. -/
  entries : List (κ × α)

namespace KeyedTable

variable {κ α : Type} [DecidableEq κ]

/-- The table without items. -/
def empty : KeyedTable κ α :=
  ⟨[]⟩

/-- Puts an item under a key, in place of the one that was there. -/
def insertEntry (k : κ) (a : α) : List (κ × α) → List (κ × α)
  | [] => [(k, a)]
  | (k', a') :: rest => if k' = k then (k, a) :: rest else (k', a') :: insertEntry k a rest

/-- Puts an item under a key, in place of the one that was there. -/
def insert (t : KeyedTable κ α) (k : κ) (a : α) : KeyedTable κ α :=
  ⟨insertEntry k a t.entries⟩

/-- The items under the key that `key` gives to each; of two items with one key
the later one stays. -/
def ofItems (key : α → κ) (items : List α) : KeyedTable κ α :=
  items.foldl (fun t a => t.insert (key a) a) empty

/-- The item under a key. -/
def get? (t : KeyedTable κ α) (k : κ) : Option α :=
  (t.entries.find? fun e => e.1 = k).map Prod.snd

/-- The keys in the order in which they came. -/
def keys (t : KeyedTable κ α) : List κ :=
  t.entries.map Prod.fst

/-- The keys in the ascending order `le`. -/
def sortedKeys (le : κ → κ → Bool) (t : KeyedTable κ α) : List κ :=
  t.keys.mergeSort le

end KeyedTable

/-- The numbers below `n` in ascending order, unless `n` is negative. -/
def indices? : Int → Option (List Nat)
  | .ofNat n => some (List.range n)
  | .negSucc _ => none

end RegisterMachine
