/-
From the text of a document to its nodes.

* `Yaml.Node.parse`: the root of the first document of a text.
-/
import RegisterMachine.Yaml.Characters
import RegisterMachine.Yaml.Node
import RegisterMachine.Yaml.Problem
import RegisterMachine.Yaml.Token.Stream

namespace RegisterMachine.Yaml

/-- A node that has a name. -/
inductive Anchored where
  /-- The node is complete. -/
  | complete (n : Node)
  /-- The node is still being read. -/
  | partly (isMapping : Bool) (line : Nat) (tag : Bytes)
deriving Repr

/-- How far a document has been read. -/
structure Reading where
  tokens : TokenStream
  /-- What the handles of tags stand for. -/
  handles : List (Bytes × Bytes) := []
  /-- The named nodes, the latest first. -/
  anchors : List (Bytes × Anchored) := []

/-- A step in reading a document. -/
abbrev Read := StateT Reading (Except Error)

namespace Read

/-- The next token. -/
def peek : Read Token := do
  let r ← get
  match r.tokens.peek with
  | .error e => throw (.malformed e)
  | .ok (t, tokens) => set { r with tokens }; return t

/-- Passes the next token. -/
def pop : Read Unit :=
  modify fun r => { r with tokens := r.tokens.pop }

/-- Reports the fault `p` at the token `t`, in something that starts at
`start`. -/
def fail {α : Type} (start : Mark) (t : Token) (p : Problem) : Read α :=
  let line := if start.line ≠ 0 then some start.line
    else if t.mark.line ≠ 0 then some t.mark.line
    else none
  throw (.malformed ⟨line, p⟩)

/-- Gives a node that is about to be read a name. -/
def openAnchor (name : Option Bytes) (isMapping : Bool) (line : Nat) (tag : Bytes) : Read Unit :=
  match name with
  | none => pure ()
  | some a => modify fun r => { r with anchors := (a, .partly isMapping line tag) :: r.anchors }

/-- Completes the innermost named node that is still being read. -/
def complete (name : Bytes) (n : Node) : List (Bytes × Anchored) → List (Bytes × Anchored)
  | [] => []
  | (a, .partly m l t) :: rest =>
    if a = name then (a, .complete n) :: rest else (a, .partly m l t) :: complete name n rest
  | other :: rest => other :: complete name n rest

/-- Completes a node that was given a name. -/
def closeAnchor (name : Option Bytes) (n : Node) : Read Node :=
  match name with
  | none => return n
  | some a => do
    modify fun r => { r with anchors := complete a n r.anchors }
    return n

/-! ### Properties of a node -/

/-- The name and tag before a node, and the place where they start. -/
structure Properties where
  anchor : Option Bytes := none
  /-- The tag in full. -/
  tag : Option Bytes := none
  start : Mark

/-- What the short form of every standard tag stands for. -/
def standard : Bytes := utf8 "tag:yaml.org,2002:"

/-- The short form of a tag. -/
def shortTag (tag : Bytes) : Bytes :=
  if standard.isPrefixOf tag then utf8 "!!" ++ tag.drop standard.length else tag

/-- The handles that need no directive. -/
def standardHandles : List (Bytes × Bytes) :=
  [(exclamation, exclamation), (utf8 "!!", standard)]

/-- A tag in full, when its handle is known. -/
def expand (handles : List (Bytes × Bytes)) (handle suffix : Bytes) : Option Bytes :=
  if handle.isEmpty then some suffix
  else match handles.lookup handle with
    | some expansion => if (expansion ++ suffix).isEmpty then none else some (expansion ++ suffix)
    | none => none

/-- Reads the name before a node. -/
def anchor? : Read (Option Bytes) := do
  let t ← peek
  match t.kind with
  | .anchor name => pop; return some name
  | _ => return none

/-- Reads the tag before a node: its handle and suffix, and its place. -/
def tag? : Read (Option (Bytes × Bytes × Token)) := do
  let t ← peek
  match t.kind with
  | .tag handle suffix => pop; return some (handle, suffix, t)
  | _ => return none

/-- Reads the name and the tag before a node, in either order. -/
def properties : Read Properties := do
  let start := (← peek).mark
  let early ← anchor?
  let tag ← tag?
  -- A name after the tag is looked for only where none stood before it.
  let anchor ← if early.isSome || tag.isNone then pure early else anchor?
  match tag with
  | none => return { anchor, start }
  | some (handle, suffix, t) =>
    let _ ← peek
    match expand (← get).handles handle suffix with
    | none => fail start t .undefinedTagHandle
    | some full => return { anchor, tag := some full, start }

/-- The tag of a node, where `default` stands for one that is not given. -/
def Properties.tagOr (default : Bytes) (p : Properties) : Bytes :=
  match p.tag with
  | some t => if t.isEmpty || t == exclamation then default else shortTag t
  | none => default

/-- The line of a node, counted from one. -/
def Properties.line (p : Properties) : Nat :=
  p.start.line + 1

/-- The tag that the text of a scalar asks for. -/
def impliedTag (plain : Bool) (text : Bytes) : Bytes :=
  if !plain then textTag
  else if text = utf8 "<<" then mergeTag
  else (Scalar.ofPlain true text).tag

/-- A scalar with its name. -/
def scalar (p : Properties) (plain : Bool) (text : Bytes) : Read Node := do
  let n := Node.scalar p.line (p.tagOr (impliedTag plain text)) text
  openAnchor p.anchor false p.line []
  closeAnchor p.anchor n

/-- The empty scalar that stands where a node is left out. -/
def omitted (mark : Mark) : Node :=
  .scalar (mark.line + 1) nullTag []

/-- The node that a name stands for. -/
def reference (mark : Mark) (name : Bytes) : Read Node := do
  match (← get).anchors.lookup name with
  | none => throw (.unknownAnchor name)
  | some (.complete n) => return .alias (mark.line + 1) name n
  | some (.partly isMapping line tag) => return .enclosing (mark.line + 1) name isMapping line tag

/-! ### Collections

The number that each reader takes first bounds how deep it goes; there are
never more steps than tokens. -/

/-- The next token is one of `kinds`. -/
def at? (kinds : List Token.Kind) : Read Bool := do
  return kinds.contains (← peek).kind

mutual

/-- Reads a node; `block` allows blocks, and `indentless` entries that are not
indented further than their key. -/
def node (block indentless : Bool) : Nat → Read Node
  | 0 => do fail {} (← peek) .tooDeep
  | fuel + 1 => do
    let first ← peek
    if let .alias name := first.kind then
      pop
      return ← reference first.mark name
    let p ← properties
    let t ← peek
    let sequence := fun (items : Read (List Node)) => do
      let tag := p.tagOr sequenceTag
      openAnchor p.anchor false p.line tag
      closeAnchor p.anchor (.sequence p.line tag (← items))
    let mapping := fun (pairs : Read (List (Node × Node))) => do
      let tag := p.tagOr mappingTag
      openAnchor p.anchor true p.line tag
      closeAnchor p.anchor (.mapping p.line tag (← pairs))
    match t.kind, block, indentless with
    | .blockEntry, _, true => sequence (indentlessItems fuel)
    | .scalar plain text, _, _ => pop; scalar p plain text
    | .flowSequenceStart, _, _ => sequence (do pop; flowItems t.mark true fuel)
    | .flowMappingStart, _, _ => mapping (do pop; flowPairs t.mark true fuel)
    | .blockSequenceStart, true, _ => sequence (do pop; blockItems t.mark fuel)
    | .blockMappingStart, true, _ => mapping (do pop; blockPairs t.mark fuel)
    | _, _, _ =>
      if p.anchor.isSome || p.tag.isSome then scalar p true []
      else fail p.start t .nodeContent

/-- Reads a node, or nothing when one of `ends` comes next. -/
def nodeUnless (ends : List Token.Kind) (mark : Mark) (block indentless : Bool) :
    Nat → Read Node
  | 0 => do fail {} (← peek) .tooDeep
  | fuel + 1 => do
    if ← at? ends then return omitted mark
    else node block indentless fuel

/-- Reads the entries of an indented sequence. -/
def blockItems (start : Mark) : Nat → Read (List Node)
  | 0 => do fail {} (← peek) .tooDeep
  | fuel + 1 => do
    let t ← peek
    match t.kind with
    | .blockEntry =>
      pop
      let item ← nodeUnless [.blockEntry, .blockEnd] t.mark true false fuel
      return item :: (← blockItems start fuel)
    | .blockEnd => pop; return []
    | _ => fail start t .sequenceEntry

/-- Reads the entries of a sequence that is not indented. -/
def indentlessItems : Nat → Read (List Node)
  | 0 => do fail {} (← peek) .tooDeep
  | fuel + 1 => do
    let t ← peek
    match t.kind with
    | .blockEntry =>
      pop
      let item ← nodeUnless [.blockEntry, .key, .value, .blockEnd] t.mark true false fuel
      return item :: (← indentlessItems fuel)
    | _ => return []

/-- Reads the value of an indented pair. -/
def blockValue : Nat → Read Node
  | 0 => do fail {} (← peek) .tooDeep
  | fuel + 1 => do
    let t ← peek
    match t.kind with
    | .value => pop; nodeUnless [.key, .value, .blockEnd] t.mark true true fuel
    | _ => return omitted t.mark

/-- Reads the pairs of an indented mapping. -/
def blockPairs (start : Mark) : Nat → Read (List (Node × Node))
  | 0 => do fail {} (← peek) .tooDeep
  | fuel + 1 => do
    let t ← peek
    match t.kind with
    | .key =>
      pop
      let key ← nodeUnless [.key, .value, .blockEnd] t.mark true true fuel
      let value ← blockValue fuel
      return (key, value) :: (← blockPairs start fuel)
    | .blockEnd => pop; return []
    | _ => fail start t .mappingKey

/-- Reads the pair that is an entry of a sequence in brackets. -/
def flowPair (start : Mark) : Nat → Read Node
  | 0 => do fail {} (← peek) .tooDeep
  | fuel + 1 => do
    let t ← peek
    let key ← (
      if [.value, .flowEntry, .flowSequenceEnd].contains t.kind then do
        pop
        return omitted t.mark
      else node false false fuel)
    let t ← peek
    let value ← (
      if t.kind = .value then do
        pop
        nodeUnless [.flowEntry, .flowSequenceEnd] (← peek).mark false false fuel
      else return omitted t.mark)
    let _ ← peek
    return .mapping (start.line + 1) mappingTag [(key, value)]

/-- Reads the entries of a sequence in brackets; `first` tells that no comma is
due. -/
def flowItems (start : Mark) (first : Bool) : Nat → Read (List Node)
  | 0 => do fail {} (← peek) .tooDeep
  | fuel + 1 => do
    let t ← peek
    if t.kind = .flowSequenceEnd then pop; return []
    if !first then
      if t.kind = .flowEntry then pop else fail start t .sequenceSeparator
    let t ← peek
    match t.kind with
    | .flowSequenceEnd => pop; return []
    | .key =>
      pop
      let item ← flowPair t.mark fuel
      return item :: (← flowItems start false fuel)
    | _ =>
      let item ← node false false fuel
      return item :: (← flowItems start false fuel)

/-- Reads the value of a pair in braces. -/
def flowValue : Nat → Read Node
  | 0 => do fail {} (← peek) .tooDeep
  | fuel + 1 => do
    let t ← peek
    if t.kind = .value then
      pop
      nodeUnless [.flowEntry, .flowMappingEnd] (← peek).mark false false fuel
    else return omitted t.mark

/-- Reads the pairs of a mapping in braces; `first` tells that no comma is
due. -/
def flowPairs (start : Mark) (first : Bool) : Nat → Read (List (Node × Node))
  | 0 => do fail {} (← peek) .tooDeep
  | fuel + 1 => do
    let t ← peek
    if t.kind = .flowMappingEnd then pop; return []
    if !first then
      if t.kind = .flowEntry then pop else fail start t .mappingSeparator
    let t ← peek
    match t.kind with
    | .flowMappingEnd => pop; return []
    | .key =>
      pop
      let key ← nodeUnless [.value, .flowEntry, .flowMappingEnd] (← peek).mark false false fuel
      let value ← flowValue fuel
      return (key, value) :: (← flowPairs start false fuel)
    | _ =>
      let key ← node false false fuel
      let value := omitted (← peek).mark
      return (key, value) :: (← flowPairs start false fuel)

end

/-! ### Documents -/

/-- Reads the directives before a document; `versioned` tells that a version
has been asked for. -/
def directives (versioned : Bool) : Nat → Read Unit
  | 0 => do fail {} (← peek) .tooDeep
  | fuel + 1 => do
    let t ← peek
    match t.kind with
    | .version major minor =>
      if versioned then fail {} t .repeatedVersion
      if major ≠ 1 || minor ≠ 1 then fail {} t .incompatibleVersion
      pop
      directives true fuel
    | .tagDirective handle expansion =>
      if ((← get).handles.lookup handle).isSome then fail {} t .repeatedTagHandle
      modify fun r => { r with handles := r.handles ++ [(handle, expansion)] }
      pop
      directives versioned fuel
    | _ => modify fun r => { r with handles := r.handles ++ standardHandles }

/-- A token that starts a document or ends the text. -/
def startsDocument : Token.Kind → Bool
  | .version .. | .tagDirective .. | .documentStart | .streamEnd => true
  | _ => false

/-- Reads the root of the first document, if there is one. -/
def document (fuel : Nat) : Read (Option Node) := do
  let _ ← peek
  pop
  let t ← peek
  if t.kind = .streamEnd then return none
  let root ← (
    if !startsDocument t.kind then do
      directives false fuel
      node true false fuel
    else do
      directives false fuel
      let t ← peek
      if t.kind ≠ .documentStart then fail {} t .documentStart
      pop
      let t ← peek
      if startsDocument t.kind || t.kind = .documentEnd then return omitted t.mark
      else node true false fuel)
  let _ ← peek
  return some root

end Read

/-- The root of the first document of a text, if there is one. -/
def Node.parse (s : Bytes) : Except Error (Option Node) :=
  match characters s with
  | .error p => .error (.malformed ⟨none, p⟩)
  | .ok text =>
    ((Read.document (16 * text.length + 64)).run { tokens := .start text }).map (·.1)

end RegisterMachine.Yaml
