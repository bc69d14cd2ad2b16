/-
The tokens of a document.

* `Yaml.Token`: a token and the place where it starts;
* `Yaml.Token.Kind`: what a token says;
* `Yaml.anchorName`: the name after `&` or `*`;
* `Yaml.tagProperty`: a tag;
* `Yaml.directive`: a line that starts with `%`.

The readers start at the place where the token starts and give the place after
it.
-/
import RegisterMachine.Text.Utf8
import RegisterMachine.Yaml.Token.Scalar

namespace RegisterMachine.Yaml

/-- What a token says. -/
inductive Token.Kind where
  | streamStart
  | streamEnd
  | documentStart
  | documentEnd
  | version (major minor : Nat)
  | tagDirective (handle expansion : Bytes)
  | blockSequenceStart
  | blockMappingStart
  | blockEnd
  | flowSequenceStart
  | flowSequenceEnd
  | flowMappingStart
  | flowMappingEnd
  | blockEntry
  | flowEntry
  | key
  | value
  | alias (name : Bytes)
  | anchor (name : Bytes)
  | tag (handle suffix : Bytes)
  | scalar (isPlain : Bool) (text : Bytes)
deriving DecidableEq, Repr

/-- A token and the place where it starts. -/
structure Token where
  kind : Token.Kind
  mark : Mark
deriving DecidableEq, Repr

/-- Reads the name of an anchor, after its indicator. -/
def anchorName (c : Cursor) : Except SyntaxError (Bytes × Cursor) :=
  let (name, c') := c.next.takeWhile isWord
  if name.isEmpty || !(endsWord c'.rest || c'.head?.any fun a => "?:,]\x7d%@`".contains a) then
    .error (c'.fault c.mark .anchorName)
  else .ok (Utf8.encode name, c')

/-! ### Tags -/

/-- A character of a tag, apart from escapes. -/
def isTagCharacter (a : Char) : Bool :=
  isWord a || ";/?:@&=+$.!~*'()[]".contains a

/-- The octet written by a percent sign and two hexadecimal digits. -/
def percentOctet? : List Char → Option UInt8
  | '%' :: a :: b :: _ => do
    let high ← hexDigit? a
    let low ← hexDigit? b
    return (high * 16 + low).toUInt8
  | _ => none

/-- The number of octets of a character in UTF-8, told by the first. -/
def octetCount (a : UInt8) : Nat :=
  if a < 0x80 then 1
  else if a < 0xC0 then 0
  else if a < 0xE0 then 2
  else if a < 0xF0 then 3
  else if a < 0xF8 then 4
  else 0

/-- Reads the `n` escaped octets that continue a character. -/
def continuation (start : Mark) : Nat → Cursor → Except SyntaxError (Bytes × Cursor)
  | 0, c => .ok ([], c)
  | n + 1, c =>
    match percentOctet? c.rest with
    | none => .error (c.fault start .escapedOctet)
    | some b =>
      if b < 0x80 || 0xC0 ≤ b then .error (c.fault start .escapedTrailingOctet)
      else do
        let (bs, c') ← continuation start n (c.skip 3)
        return (b :: bs, c')

/-- Reads a character written with escaped octets. -/
def escapedOctets (start : Mark) (c : Cursor) : Except SyntaxError (Bytes × Cursor) :=
  match percentOctet? c.rest with
  | none => .error (c.fault start .escapedOctet)
  | some a =>
    if octetCount a = 0 then .error (c.fault start .escapedLeadingOctet)
    else do
      let (bs, c') ← continuation start (octetCount a - 1) (c.skip 3)
      return (a :: bs, c')

/-- Reads the characters of a tag onto `text`. -/
def tagCharacters (start : Mark) (text : Bytes) (c : Cursor) :
    Except SyntaxError (Bytes × Cursor) :=
  match c.head? with
  | none => .ok (text, c)
  | some a =>
    if a = '%' then
      match escapedOctets start c with
      | .error e => .error e
      | .ok (bs, c') =>
        if _h : c'.rest.length < c.rest.length then tagCharacters start (text ++ bs) c'
        else .ok (text ++ bs, c')
    else if isTagCharacter a then
      if _h : c.next.rest.length < c.rest.length then
        tagCharacters start (text ++ String.utf8EncodeChar a) c.next
      else .ok (text, c)
    else .ok (text, c)
termination_by c.rest.length

/-- Reads the text of a tag, which is not empty. -/
def tagText (start : Mark) (c : Cursor) : Except SyntaxError (Bytes × Cursor) := do
  let (text, c') ← tagCharacters start [] c
  if c'.mark = c.mark then throw (c.fault start .tagText)
  return (text, c')

/-- Reads a name with an exclamation mark before it and, where there is one,
after it. -/
def tagHandle (c : Cursor) : Bytes × Cursor :=
  let (name, c') := c.next.takeWhile isWord
  if c'.looksAt '!' then (Utf8.encode ('!' :: name ++ ['!']), c'.next)
  else (Utf8.encode ('!' :: name), c')

/-- The exclamation mark, as a handle of its own. -/
def exclamation : Bytes := [33]

/-- A handle that is closed by a second exclamation mark. -/
def isClosedHandle (handle : Bytes) : Bool :=
  1 < handle.length && handle.getLast? == some 33

/-- Reads a tag. -/
def tagProperty (c : Cursor) : Except SyntaxError (Token.Kind × Cursor) := do
  let start := c.mark
  let (kind, c') ← (
    if c.next.looksAt '<' then do
      let (text, c') ← tagText start (c.skip 2)
      if !c'.looksAt '>' then throw (c'.fault start .closingAngle)
      return (.tag [] text, c'.next)
    else do
      let (handle, c') := tagHandle c
      if isClosedHandle handle then
        let (text, c'') ← tagText start c'
        return (.tag handle text, c'')
      else
        let (text, c'') ← tagCharacters start (handle.drop 1) c'
        return (if text.isEmpty then .tag [] exclamation else .tag exclamation text, c''))
  if !endsWord c'.rest then throw (c'.fault start .afterTag)
  return (kind, c')

/-! ### Directives -/

/-- Reads a number of one or two digits. -/
def versionNumber (start : Mark) (c : Cursor) : Except SyntaxError (Nat × Cursor) :=
  let (ds, c') := c.takeWhile Char.isDigit
  if 2 < ds.length then .error ((c.skip 2).fault start .longVersionNumber)
  else if ds.isEmpty then .error (c.fault start .versionNumber)
  else .ok (ds.foldl (fun n d => n * 10 + (d.toNat - 48)) 0, c')

/-- Reads the version that a document asks for. -/
def versionDirective (start : Mark) (c : Cursor) : Except SyntaxError (Token.Kind × Cursor) := do
  let (major, c) ← versionNumber start (c.skipWhile isBlank)
  if !c.looksAt '.' then throw (c.fault start .versionPoint)
  let (minor, c) ← versionNumber start c.next
  return (.version major minor, c)

/-- Reads what the handle of a tag stands for. -/
def tagDirective (start : Mark) (c : Cursor) : Except SyntaxError (Token.Kind × Cursor) := do
  let c := c.skipWhile isBlank
  if !c.looksAt '!' then throw (c.fault start .tagMark)
  let (handle, c) := tagHandle c
  if handle ≠ exclamation ∧ !isClosedHandle handle then throw (c.fault start .tagMark)
  if !c.atBlank then throw (c.fault start .whiteSpace)
  let (expansion, c) ← tagText start (c.skipWhile isBlank)
  if !endsWord c.rest then throw (c.fault start .afterTag)
  return (.tagDirective handle expansion, c)

/-- Reads a directive and the rest of its line. -/
def directive (c : Cursor) : Except SyntaxError (Token.Kind × Cursor) := do
  let start := c.mark
  let (name, c) := c.next.takeWhile isWord
  if name.isEmpty then throw (c.fault start .missingDirectiveName)
  if !endsWord c.rest then throw (c.fault start .directiveCharacter)
  let (kind, c) ← (
    if name = "YAML".toList then versionDirective start c
    else if name = "TAG".toList then tagDirective start c
    else throw (c.fault start .directiveName))
  let c := c.skipWhile isBlank
  let c := if c.looksAt '#' then c.skipWhile fun _ => true else c
  if !c.atLineEnd then throw (c.fault start .lineEnd)
  return (kind, c.nextLine)

end RegisterMachine.Yaml
