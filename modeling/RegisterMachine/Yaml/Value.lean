/-
The value of a document.

* `Yaml.Value`: a scalar, a list, or a table with scalars as keys;
* `Yaml.Value.parse`: the table that a document holds.
-/
import RegisterMachine.Text.Base64
import RegisterMachine.Yaml.Node.Read

namespace RegisterMachine.Yaml

/-- The value of a node. -/
inductive Value where
  | scalar (s : Scalar)
  | list (items : List Value)
  /-- A table; `named` tells that all keys are texts. -/
  | table (named : Bool) (entries : List (Scalar × Value))
deriving Repr

/-- The entries of a table. -/
abbrev Entries := List (Scalar × Value)

/-- Sets the value of a key. -/
def Entries.set (k : Scalar) (v : Value) : Entries → Entries
  | [] => [(k, v)]
  | (a, b) :: rest => if a = k then (k, v) :: rest else (a, b) :: Entries.set k v rest

/-! ### Values in reports -/

/-- A number with an exponent where it is very small or very large. -/
def Real.literal (r : Real) : Bytes :=
  match r with
  | .finite negative b =>
    let d := b.shortest
    let ds := decimal d.digits
    let power := d.exponent + ds.length - 1
    if d.digits = 0 ∨ (-4 ≤ power ∧ power < 21) then r.render
    else
      let kept := (ds.reverse.dropWhile (· = 48)).reverse
      (if negative then [45] else []) ++ kept.take 1
        ++ (if kept.length = 1 then [] else 46 :: kept.drop 1)
        ++ utf8 "e" ++ (if power < 0 then utf8 "-" else utf8 "+")
        ++ Bytes.padLeft 48 2 (decimal power.natAbs)
  | _ => r.render

/-- A scalar in a report. -/
def Scalar.literal : Scalar → Bytes
  | .null => utf8 "interface \x7b\x7d(nil)"
  | .integer n =>
    if 0x8000000000000000 ≤ n then utf8 "0x" ++ hexadecimal 0 n.toNat else RegisterMachine.integer n
  | .real r => r.literal
  | .text s => Quoted.double s
  | s => s.render

mutual

/-- A value in a report. -/
def Value.literal : Value → Bytes
  | .scalar s => s.literal
  | .list items =>
    utf8 "[]interface \x7b\x7d\x7b" ++ Bytes.joined (utf8 ", ") (literals items) ++ utf8 "\x7d"
  | .table named entries =>
    let keyKind := if named then utf8 "string" else utf8 "interface \x7b\x7d"
    let texts := (entryLiterals entries).mergeSort Bytes.before
    utf8 "map[" ++ keyKind ++ utf8 "]interface \x7b\x7d\x7b" ++ Bytes.joined (utf8 ", ") texts
      ++ utf8 "\x7d"

/-- The values of a list in a report. -/
def literals : List Value → List Bytes
  | [] => []
  | v :: rest => v.literal :: literals rest

/-- The entries of a table in a report. -/
def entryLiterals : List (Scalar × Value) → List Bytes
  | [] => []
  | (k, v) :: rest => (k.literal ++ 58 :: v.literal) :: entryLiterals rest

end

/-! ### Evaluating nodes -/

/-- What has been found out about a document on the way to its value. -/
structure Evaluation where
  /-- How many nodes have been evaluated. -/
  steps : Nat := 0
  /-- How many of them as part of a node that a name stands for. -/
  aliasSteps : Nat := 0
  mismatches : List Mismatch := []

/-- A step in evaluating a document. -/
abbrev Evaluate := StateT Evaluation (Except Error)

namespace Evaluate

/-- Too large a part of a document comes from names: more than 99 of 100 nodes
in a small document, less in one of 400000 nodes or more, and more than one
of ten in one of 4000000 nodes. -/
def isExcessive (e : Evaluation) : Bool :=
  100 < e.aliasSteps && 1000 < e.steps &&
    if e.steps ≤ 400000 then 99 * e.steps < 100 * e.aliasSteps
    else if 4000000 ≤ e.steps then e.steps < 10 * e.aliasSteps
    else (99 * 3600000 - 89 * (e.steps - 400000)) * e.steps < 100 * 3600000 * e.aliasSteps

/-- Counts a node; `aliased` tells that it is part of a node that a name stands
for. -/
def count (aliased : Bool) : Evaluate Unit := do
  modify fun e => { e with
    steps := e.steps + 1
    aliasSteps := if aliased then e.aliasSteps + 1 else e.aliasSteps }
  if isExcessive (← get) then throw .tooManyAliases

/-- Notes a mismatch. -/
def note (m : Mismatch) : Evaluate Unit :=
  modify fun e => { e with mismatches := e.mismatches ++ [m] }

/-- The tags whose texts are looked into. -/
def knownTags : List Bytes :=
  [textTag, flagTag, integerTag, realTag, nullTag, timeTag]

/-- The value of a scalar with the given tag. -/
def scalar (tag text : Bytes) : Evaluate Scalar :=
  if tag = binaryTag then
    match Base64.decode text with
    | some s => return .text s
    | none => throw .invalidLetters
  else if tag = textTag ∨ !knownTags.contains tag then return .text text
  else
    let v := Scalar.ofPlain (tag = timeTag) text
    let wrong : Evaluate Scalar := throw (.wrongTag v.tag text tag)
    if v.tag = tag then return v
    else match v with
      | .integer n =>
        match Binary.nearest ⟨n.natAbs, 0⟩ with
        | some b =>
          if tag = realTag ∧ n < 0x8000000000000000 then return .real (.finite (n < 0) b)
          else wrong
        | none => wrong
      | _ => wrong

/-- Notes the keys that stand in a mapping twice, and tells whether there are
none. -/
def distinct (pairs : List (Node × Node)) : Evaluate Bool := do
  let repeats := repeated (pairs.map (·.1))
  repeats.forM note
  return repeats.isEmpty
where
  repeated : List Node → List Mismatch
    | [] => []
    | k :: rest =>
      (rest.filter k.sameKey).map (fun k' => .repeatedKey k'.line k'.keyText k.line)
        ++ repeated rest

/-- Notes that a node is not of the wanted kind. -/
def noteKind (wanted : Bytes) : Node → Evaluate Unit
  | .scalar line tag text => note (.kind line tag (some text) wanted)
  | .sequence line tag _ =>
    note (.kind line tag (if tag = sequenceTag then none else some []) wanted)
  | .mapping line tag _ =>
    note (.kind line tag (if tag = mappingTag then none else some []) wanted)
  | .alias _ _ target => noteKind wanted target
  | .enclosing _ _ _ line tag =>
    note (.kind line tag (if tag = mappingTag ∨ tag = sequenceTag then none else some []) wanted)

/-- The text of a key that has to be a text; nothing for a key that is no
scalar, or is left out. -/
def textKey (aliased : Bool) : Node → Evaluate (Option Scalar)
  | .scalar _ tag text => do
    count aliased
    match ← scalar tag text with
    | .null => return none
    | .text s => return some (.text s)
    | _ => return some (.text text)
  | .mapping line tag pairs => do
    count aliased
    if ← distinct pairs then noteKind (utf8 "string") (.mapping line tag pairs)
    return none
  | .alias _ _ target => do
    count aliased
    textKey true target
  | n => do
    count aliased
    noteKind (utf8 "string") n
    return none

/-- A mapping all of whose keys are texts. -/
def isNamed (pairs : List (Node × Node)) : Bool :=
  pairs.all fun (k, _) => k.tag = textTag || k.tag = mergeTag

/-- The entries of a table, and the keys that are no longer taken in, if it is
being taken in. -/
abbrev Table := Entries × Option (List Scalar)

/-- Whether a key is still open, and the table with the key closed where that
counts. -/
def claim (k : Scalar) : Table → Bool × Table
  | (out, none) => (true, (out, none))
  | (out, some closed) =>
    if closed.contains k then (false, (out, some closed)) else (true, (out, some (k :: closed)))

mutual

/-- The value of a node; nothing when a mismatch was found in it. -/
def value (aliased : Bool) : Node → Evaluate (Option Value)
  | .scalar _ tag text => do
    count aliased
    return some (.scalar (← scalar tag text))
  | .sequence _ _ items => do
    count aliased
    return some (.list (← values aliased items))
  | .mapping _ _ pairs => do
    count aliased
    if ← distinct pairs then
      let named := isNamed pairs
      let (out, _) ← entries named aliased pairs ([], none)
      let (out, _) ← merges named aliased (keys aliased pairs) pairs (out, none)
      return some (.table named out)
    else return none
  | .alias _ _ target => do
    count aliased
    value true target
  | .enclosing _ name _ _ _ => throw (.selfReference name)
termination_by n => (sizeOf n, 0)

/-- The values of the nodes of a sequence. -/
def values (aliased : Bool) : List Node → Evaluate (List Value)
  | [] => return []
  | n :: rest => do
    let v ← value aliased n
    return v.toList ++ (← values aliased rest)
termination_by ns => (sizeOf ns, 0)

/-- The keys of a mapping. -/
def keys (aliased : Bool) : List (Node × Node) → Evaluate (List Scalar)
  | [] => return []
  | (k, _) :: rest => do
    let v ← value aliased k
    let ks ← keys aliased rest
    match v with
    | some (.scalar s) => return s :: ks
    | _ => return ks
termination_by ps => (sizeOf ps, 0)

/-- Puts the pairs of a mapping into a table. -/
def entries (named aliased : Bool) : List (Node × Node) → Table → Evaluate Table
  | [], t => return t
  | (k, v) :: rest, t => do
    if k.isMerge then entries named aliased rest t
    else
      let key ← (
        if named then textKey aliased k
        else do
          match ← value aliased k with
          | none => return none
          | some (.scalar s) => return some s
          | some other => throw (.invalidKey other.literal))
      match key with
      | none => entries named aliased rest t
      | some s =>
        let (isOpen, (out, closed)) := claim s t
        if !isOpen then entries named aliased rest (out, closed)
        else
          match ← value aliased v with
          | some v => entries named aliased rest (out.set s v, closed)
          | none => entries named aliased rest (out, closed)
termination_by ps _ => (sizeOf ps, 0)

/-- Takes the mappings that the pairs of a mapping ask for into a table whose
own keys are `own`. -/
def merges (named aliased : Bool) (own : Evaluate (List Scalar)) :
    List (Node × Node) → Table → Evaluate Table
  | [], t => return t
  | (k, v) :: rest, (out, closed) => do
    if !k.isMerge then merges named aliased own rest (out, closed)
    else
      let (out, inner) ← (do
        let keys ← match closed with
          | some ks => pure ks
          | none => own
        merge named aliased v (out, some keys))
      return (out, if closed.isSome then inner else none)
termination_by ps _ => (sizeOf ps, 0)

/-- Takes a mapping, or each mapping of a sequence, into a table. -/
def merge (named aliased : Bool) : Node → Table → Evaluate Table
  | .mapping _ _ pairs, t => do
    count aliased
    into named aliased pairs t
  | .alias _ _ (.mapping _ _ pairs), t => do
    count aliased
    count true
    into named true pairs t
  | .enclosing _ name true _ _, _ => throw (.selfReference name)
  | .sequence _ _ items, t => mergeAll named aliased items t
  | _, _ => throw .mergeKind
termination_by n _ => (sizeOf n, 0)

/-- Takes the mappings of a sequence into a table. -/
def mergeAll (named aliased : Bool) : List Node → Table → Evaluate Table
  | [], t => return t
  | .mapping _ _ pairs :: rest, t => do
    count aliased
    mergeAll named aliased rest (← into named aliased pairs t)
  | .alias _ _ (.mapping _ _ pairs) :: rest, t => do
    count aliased
    count true
    mergeAll named aliased rest (← into named true pairs t)
  | .enclosing _ name true _ _ :: _, _ => throw (.selfReference name)
  | _ :: _, _ => throw .mergeKind
termination_by ns _ => (sizeOf ns, 0)

/-- Takes the pairs of a mapping into a table. -/
def into (named aliased : Bool) (pairs : List (Node × Node)) (t : Table) : Evaluate Table := do
  if ← distinct pairs then
    let t ← entries named aliased pairs t
    merges named aliased (keys aliased pairs) pairs t
  else return t
termination_by (sizeOf pairs, 1)

end

/-- The table that is the root of a document. -/
def root : Node → Evaluate Entries
  | .scalar line tag text => do
    count false
    match ← scalar tag text with
    | .null => return []
    | _ => noteKind (utf8 "map[string]interface \x7b\x7d") (.scalar line tag text); return []
  | .mapping _ _ pairs => do
    count false
    return (← into true false pairs ([], none)).1
  | n => do
    count false
    noteKind (utf8 "map[string]interface \x7b\x7d") n
    return []

end Evaluate

/-- The table that a document holds, which is empty when there is none. -/
def Value.parse (s : Bytes) : Except Error Entries := do
  match ← Node.parse s with
  | none => return []
  | some n =>
    let (out, e) ← (Evaluate.root n).run { steps := 1 }
    if e.mismatches.isEmpty then return out
    else throw (.mismatches e.mismatches)

end RegisterMachine.Yaml
