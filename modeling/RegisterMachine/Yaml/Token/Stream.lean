/-
The tokens of a document, one after another.

* `Yaml.TokenStream.start`: the tokens of a text;
* `Yaml.TokenStream.peek`: the next token;
* `Yaml.TokenStream.pop`: the tokens after the next.

A token is given away only when two more have been read, and when it can no
longer turn out to be the start of a key, so a fault in the text shows up to
two tokens early.
-/
import RegisterMachine.Yaml.Token

namespace RegisterMachine.Yaml

/-- A token that is a key if a colon follows it on the same line. -/
structure KeyCandidate where
  /-- Whether something other than a key would be a fault. -/
  required : Bool
  /-- The number of the token. -/
  number : Nat
  mark : Mark
deriving Repr

/-- The tokens of a text. -/
structure TokenStream where
  /-- The place up to which tokens have been read. -/
  cursor : Cursor
  started : Bool := false
  /-- The tokens that have been read and not yet given away. -/
  queue : List Token := []
  /-- How many tokens have been given away. -/
  given : Nat := 0
  /-- The columns of the open blocks, the innermost first. -/
  indents : List Nat := []
  /-- The candidate outside all brackets, and one inside each pair of open
  brackets, the innermost first. -/
  candidates : List (Option KeyCandidate) := [none]
  /-- A key may start here. -/
  keyAllowed : Bool := true
deriving Repr

namespace TokenStream

/-- The tokens of a text. -/
def start (text : List Char) : TokenStream where
  cursor := { rest := text }

/-- The column of the innermost block, `-1` outside all blocks. -/
def indent (s : TokenStream) : Int :=
  match s.indents with
  | [] => -1
  | n :: _ => n

/-- The place is inside brackets. -/
def bracketed (s : TokenStream) : Bool :=
  1 < s.candidates.length

/-- The fault `p` at this place. -/
def fault (s : TokenStream) (p : Problem) : SyntaxError :=
  s.cursor.fault s.cursor.mark p

/-- The greatest number of open brackets, and of open blocks. -/
def depthLimit : Nat := 10000

/-! ### Keys -/

/-- The place is too far from a candidate for it to be a key. -/
def isStale (s : TokenStream) (k : KeyCandidate) : Bool :=
  k.mark.line < s.cursor.mark.line || k.mark.index + 1024 < s.cursor.mark.index

/-- The innermost candidate. -/
def candidate? (s : TokenStream) : Option KeyCandidate :=
  s.candidates.head?.join

/-- Puts `k` in place of the innermost candidate. -/
def withCandidate (k : Option KeyCandidate) (s : TokenStream) : TokenStream :=
  { s with candidates := k :: s.candidates.tail }

/-- Drops the innermost candidate, which is a fault when a key is required. -/
def dropCandidate (s : TokenStream) : Except SyntaxError TokenStream :=
  match s.candidate? with
  | some k =>
    if k.required then .error (s.cursor.fault k.mark .missingColon) else .ok (s.withCandidate none)
  | none => .ok s

/-- Makes the next token a candidate, where a key may start. -/
def nominate (s : TokenStream) : Except SyntaxError TokenStream :=
  if s.keyAllowed then do
    let k : KeyCandidate :=
      { required := !s.bracketed && s.indent = s.cursor.mark.column
        number := s.given + s.queue.length
        mark := s.cursor.mark }
    return (← s.dropCandidate).withCandidate (some k)
  else .ok s

/-! ### The queue -/

/-- Adds a token at the end. -/
def push (t : Token) (s : TokenStream) : TokenStream :=
  { s with queue := s.queue ++ [t] }

/-- Adds a token before the one with the given number. -/
def insert (number : Nat) (t : Token) (s : TokenStream) : TokenStream :=
  let n := number - s.given
  { s with queue := s.queue.take n ++ t :: s.queue.drop n }

/-- Adds the token `kind`, which takes the next `width` characters. -/
def advance (kind : Token.Kind) (width : Nat) (s : TokenStream) : TokenStream :=
  { s.push ⟨kind, s.cursor.mark⟩ with cursor := s.cursor.skip width }

/-- Opens a block at `column`, unless one is open there, with the token `kind`
before the token with the given number, or at the end. -/
def openBlock (kind : Token.Kind) (column : Nat) (number : Option Nat) (mark : Mark)
    (s : TokenStream) : Except SyntaxError TokenStream :=
  if !s.bracketed && s.indent < column then
    if depthLimit ≤ s.indents.length then .error (s.cursor.fault {} .tooDeep)
    else
      let s' := { s with indents := column :: s.indents }
      .ok (match number with
        | some n => s'.insert n ⟨kind, mark⟩
        | none => s'.push ⟨kind, mark⟩)
  else .ok s

/-- Closes the blocks to the right of `column`. -/
def closeBlocks (column : Int) (mark : Mark) (s : TokenStream) : TokenStream :=
  if s.bracketed then s
  else
    let closed := s.indents.takeWhile fun (n : Nat) => column < (n : Int)
    { s with
      indents := s.indents.drop closed.length
      queue := s.queue ++ closed.map fun _ => ⟨.blockEnd, mark⟩ }

/-! ### Reading a token -/

/-- Adds the end of the text. -/
def addEnd (s : TokenStream) : Except SyntaxError TokenStream := do
  let mark := s.cursor.mark
  let mark := if mark.column = 0 then mark else { mark with line := mark.line + 1, column := 0 }
  let s := { s with cursor.mark := mark }
  let s ← (s.closeBlocks (-1) mark).dropCandidate
  return { s with keyAllowed := false }.push ⟨.streamEnd, mark⟩

/-- Adds a directive. -/
def addDirective (s : TokenStream) : Except SyntaxError TokenStream := do
  let mark := s.cursor.mark
  let s ← (s.closeBlocks (-1) mark).dropCandidate
  let (kind, cursor) ← directive s.cursor
  return { s.push ⟨kind, mark⟩ with keyAllowed := false, cursor }

/-- Adds the start or the end of a document. -/
def addDocumentMark (kind : Token.Kind) (s : TokenStream) : Except SyntaxError TokenStream := do
  let s ← (s.closeBlocks (-1) s.cursor.mark).dropCandidate
  return { s with keyAllowed := false }.advance kind 3

/-- Adds an opening bracket. -/
def addOpening (kind : Token.Kind) (s : TokenStream) : Except SyntaxError TokenStream := do
  let s ← s.nominate
  if depthLimit < s.candidates.length then throw (s.cursor.fault {} .tooDeep)
  return { s with candidates := none :: s.candidates, keyAllowed := true }.advance kind 1

/-- Adds a closing bracket. -/
def addClosing (kind : Token.Kind) (s : TokenStream) : Except SyntaxError TokenStream := do
  let s ← s.dropCandidate
  let candidates := if s.bracketed then s.candidates.tail else s.candidates
  return { s with candidates, keyAllowed := false }.advance kind 1

/-- Adds a comma. -/
def addSeparator (s : TokenStream) : Except SyntaxError TokenStream := do
  let s ← s.dropCandidate
  return { s with keyAllowed := true }.advance .flowEntry 1

/-- Adds the dash of an entry. -/
def addEntry (s : TokenStream) : Except SyntaxError TokenStream := do
  if !s.bracketed && !s.keyAllowed then throw (s.fault .entryNotAllowed)
  let mark := s.cursor.mark
  let s ← s.openBlock .blockSequenceStart mark.column none mark
  let s ← s.dropCandidate
  return { s with keyAllowed := true }.advance .blockEntry 1

/-- Adds the question mark of a key. -/
def addKey (s : TokenStream) : Except SyntaxError TokenStream := do
  if !s.bracketed && !s.keyAllowed then throw (s.fault .keyNotAllowed)
  let mark := s.cursor.mark
  let s ← s.openBlock .blockMappingStart mark.column none mark
  let s ← s.dropCandidate
  return { s with keyAllowed := !s.bracketed }.advance .key 1

/-- Adds the colon of a value whose key is the candidate `k`. -/
def addValueAfter (k : KeyCandidate) (s : TokenStream) : Except SyntaxError TokenStream := do
  let s := s.insert k.number ⟨.key, k.mark⟩
  let s ← s.openBlock .blockMappingStart k.mark.column (some k.number) k.mark
  return { s.withCandidate none with keyAllowed := false }.advance .value 1

/-- Adds the colon of a value without such a key. -/
def addLoneValue (s : TokenStream) : Except SyntaxError TokenStream := do
  if !s.bracketed && !s.keyAllowed then throw (s.fault .valueNotAllowed)
  let mark := s.cursor.mark
  let s ← s.openBlock .blockMappingStart mark.column none mark
  return { s with keyAllowed := !s.bracketed }.advance .value 1

/-- Adds the colon of a value. -/
def addValue (s : TokenStream) : Except SyntaxError TokenStream :=
  match s.candidate? with
  | none => s.addLoneValue
  | some k =>
    if !s.isStale k then s.addValueAfter k
    else if k.required then .error (s.cursor.fault k.mark .missingColon)
    else (s.withCandidate none).addLoneValue

/-- Adds what `read` reads here, which may start a key. -/
def addProperty (read : Cursor → Except SyntaxError (Token.Kind × Cursor)) (s : TokenStream) :
    Except SyntaxError TokenStream := do
  let s ← s.nominate
  let (kind, cursor) ← read s.cursor
  return { s.push ⟨kind, s.cursor.mark⟩ with keyAllowed := false, cursor }

/-- Adds plain text. -/
def addPlain (s : TokenStream) : Except SyntaxError TokenStream := do
  let s ← s.nominate
  let (text, broken, cursor) ← plainText s.bracketed (s.indent + 1) s.cursor
  return { s.push ⟨.scalar true (Utf8.encode text), s.cursor.mark⟩ with
    keyAllowed := broken, cursor }

/-- Adds a block of text. -/
def addBlock (literal : Bool) (s : TokenStream) : Except SyntaxError TokenStream := do
  let s ← s.dropCandidate
  let (text, cursor) ← blockText literal s.indent s.cursor
  return { s.push ⟨.scalar false (Utf8.encode text), s.cursor.mark⟩ with
    keyAllowed := true, cursor }

/-- Reads text in quotes as a token. -/
def quotedToken (quote : Char) (c : Cursor) : Except SyntaxError (Token.Kind × Cursor) := do
  let (text, c') ← quotedText quote c
  return (.scalar false (Utf8.encode text), c')

/-- Reads a name as a token. -/
def namedToken (kind : Bytes → Token.Kind) (c : Cursor) :
    Except SyntaxError (Token.Kind × Cursor) := do
  let (name, c') ← anchorName c
  return (kind name, c')

/-- Plain text may start with `a` when `rest` follows. -/
def startsPlain (bracketed : Bool) (a : Char) (rest : List Char) : Bool :=
  !(isWhite a || "-?:,[]\x7b\x7d#&*!|>'\"%@`".contains a)
    || (a = '-' && !rest.head?.any isBlank)
    || (!bracketed && (a = '?' || a = ':') && !endsWord rest)

/-- Adds the token that starts with `a` and goes on with `rest`. -/
def addToken (a : Char) (rest : List Char) (s : TokenStream) : Except SyntaxError TokenStream :=
  let apart := s.bracketed || endsWord rest
  if a = '[' then s.addOpening .flowSequenceStart
  else if a = '\x7b' then s.addOpening .flowMappingStart
  else if a = ']' then s.addClosing .flowSequenceEnd
  else if a = '\x7d' then s.addClosing .flowMappingEnd
  else if a = ',' then s.addSeparator
  else if a = '-' && endsWord rest then s.addEntry
  else if a = '?' && apart then s.addKey
  else if a = ':' && apart then s.addValue
  else if a = '*' then s.addProperty (namedToken .alias)
  else if a = '&' then s.addProperty (namedToken .anchor)
  else if a = '!' then s.addProperty tagProperty
  else if a = '|' && !s.bracketed then s.addBlock true
  else if a = '>' && !s.bracketed then s.addBlock false
  else if a = '\'' || a = '"' then s.addProperty (quotedToken a)
  else if startsPlain s.bracketed a rest then s.addPlain
  else .error (s.fault .noToken)

/-- Skips a comment that follows the last token on its line.  The dash of an
entry has none. -/
def skipTrailingComment (s : TokenStream) : TokenStream :=
  if s.queue.getLast?.any (·.kind == .blockEntry) then s
  else { s with cursor := s.cursor.skipTrailingComment }

/-- Reads on until at least one more token is in the queue. -/
def fetch (s : TokenStream) : Except SyntaxError TokenStream :=
  if !s.started then .ok ({ s with started := true }.push ⟨.streamStart, s.cursor.mark⟩)
  else
    let (cursor, ended) := s.cursor.toToken s.bracketed (s.bracketed || !s.keyAllowed) false
    let keyAllowed := s.keyAllowed || (ended && !s.bracketed)
    let s := { s with cursor, keyAllowed }.closeBlocks cursor.mark.column s.cursor.mark
    match cursor.rest with
    | [] => s.addEnd
    | a :: rest =>
      if a = '%' && cursor.mark.column = 0 then s.addDirective
      else if cursor.atDocumentMark then
        s.addDocumentMark (if a = '-' then .documentStart else .documentEnd)
      else (s.addToken a rest).map skipTrailingComment

/-! ### Giving tokens away -/

/-- The candidate that is the first token of the queue. -/
def headCandidate? (s : TokenStream) : Option KeyCandidate :=
  s.candidates.findSome? fun k => k.filter (·.number = s.given)

/-- Drops the candidate that is the first token of the queue. -/
def dropHeadCandidate (s : TokenStream) : TokenStream :=
  { s with candidates := s.candidates.map fun k => k.filter (·.number ≠ s.given) }

/-- Reads until the first token of the queue may be given away, in at most
`fuel` steps. -/
def fill : Nat → TokenStream → Except SyntaxError TokenStream
  | 0, s => .ok s
  | fuel + 1, s =>
    if s.queue.length < 3 then s.fetch >>= fill fuel
    else
      match s.headCandidate? with
      | none => .ok s
      | some k =>
        if !s.isStale k then s.fetch >>= fill fuel
        else if k.required then .error (s.cursor.fault k.mark .missingColon)
        else .ok s.dropHeadCandidate

/-- The next token, and the stream with that token read. -/
def peek (s : TokenStream) : Except SyntaxError (Token × TokenStream) := do
  -- Every step but the last few passes a character.
  let s ← s.fill (s.cursor.rest.length + 4)
  return (s.queue.headD ⟨.streamEnd, s.cursor.mark⟩, s)

/-- The tokens after the next. -/
def pop (s : TokenStream) : TokenStream :=
  { s with queue := s.queue.tail, given := s.given + 1 }

end TokenStream

end RegisterMachine.Yaml
