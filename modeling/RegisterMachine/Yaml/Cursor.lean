/-
Places in the text of a document.

* `Yaml.Mark`: a line and column;
* `Yaml.Cursor`: a place together with the text that follows it;
* `Yaml.Cursor.lineBreak?`: the line break at a place;
* `Yaml.Cursor.toToken`: the next place that is neither white space nor comment.
-/
import RegisterMachine.Yaml.Problem

namespace RegisterMachine.Yaml

/-! ### Classes of characters -/

/-- A space or a tab. -/
def isBlank (c : Char) : Bool :=
  c = ' ' || c = '\t'

/-- A character that ends a line. -/
def isBreak (c : Char) : Bool :=
  c = '\n' || c = '\r' || c = '\u0085' || c = '\u2028' || c = '\u2029'

/-- A blank or a character that ends a line. -/
def isWhite (c : Char) : Bool :=
  isBlank c || isBreak c

/-- A character of a name. -/
def isWord (c : Char) : Bool :=
  c.isAlphanum || c = '_' || c = '-'

/-- The text is over or goes on with white space. -/
def endsWord : List Char → Bool
  | [] => true
  | c :: _ => isWhite c

/-! ### Places -/

/-- A place in a text, counted from zero. -/
structure Mark where
  index : Nat := 0
  line : Nat := 0
  column : Nat := 0
deriving DecidableEq, Repr

/-- A place in a text and what follows it. -/
structure Cursor where
  rest : List Char
  mark : Mark := {}
  /-- A line has ended since the last character that is not blank. -/
  fresh : Bool := false
deriving Repr

namespace Cursor

/-- The next character. -/
def head? (c : Cursor) : Option Char :=
  c.rest.head?

/-- The next character is `a`. -/
def looksAt (c : Cursor) (a : Char) : Bool :=
  c.rest.head? == some a

/-- The next character is white space. -/
def atWhite (c : Cursor) : Bool :=
  c.rest.head?.any isWhite

/-- The next character is a blank. -/
def atBlank (c : Cursor) : Bool :=
  c.rest.head?.any isBlank

/-- The next character ends a line. -/
def atBreak (c : Cursor) : Bool :=
  c.rest.head?.any isBreak

/-- The text is over, or the next character ends a line. -/
def atLineEnd (c : Cursor) : Bool :=
  c.rest.isEmpty || c.atBreak

/-- The place after the next character, which does not end a line. -/
def next (c : Cursor) : Cursor :=
  match c.rest with
  | [] => c
  | a :: rest =>
    { rest
      mark := { c.mark with index := c.mark.index + 1, column := c.mark.column + 1 }
      fresh := c.fresh && isBlank a }

/-- The place after the next `n` characters, none of which ends a line. -/
def skip : Nat → Cursor → Cursor
  | 0, c => c
  | n + 1, c => skip n c.next

/-- The characters of the line up to the first for which `p` fails, and the
place after them. -/
def takeWhile (p : Char → Bool) (c : Cursor) : List Char × Cursor :=
  let taken := c.rest.takeWhile fun a => p a && !isBreak a
  (taken, c.skip taken.length)

/-- The place after the characters of the line up to the first for which `p`
fails. -/
def skipWhile (p : Char → Bool) (c : Cursor) : Cursor :=
  (c.takeWhile p).2

/-- The line break at a place, as it stands in a text, and the start of the
next line. -/
def lineBreak? (c : Cursor) : Option (Char × Cursor) :=
  let after := fun (n : Nat) rest =>
    ({ rest, mark := ⟨c.mark.index + n, c.mark.line + 1, 0⟩, fresh := true } : Cursor)
  match c.rest with
  | '\r' :: '\n' :: rest => some ('\n', after 2 rest)
  | a :: rest =>
    if a = '\u2028' ∨ a = '\u2029' then some (a, after 1 rest)
    else if isBreak a then some ('\n', after 1 rest)
    else none
  | [] => none

/-- The start of the next line at the end of a line, and else the place
itself. -/
def nextLine (c : Cursor) : Cursor :=
  match c.lineBreak? with
  | some (_, c') => c'
  | none => c

/-- A line that starts with three dashes or three dots, alone or before white
space. -/
def atDocumentMark (c : Cursor) : Bool :=
  c.mark.column = 0 &&
    match c.rest with
    | '-' :: '-' :: '-' :: rest => endsWord rest
    | '.' :: '.' :: '.' :: rest => endsWord rest
    | _ => false

/-- The place after white space, over any number of lines. -/
def skipWhite (c : Cursor) : Cursor :=
  let c' := (c.skipWhile isBlank).nextLine
  if _h : c'.rest.length < c.rest.length then c'.skipWhite else c'
termination_by c.rest.length

/-- The end of the last line of a comment that starts here.  The comment goes
on with every line that holds nothing else. -/
def skipComment (c : Cursor) : Cursor :=
  let line := c.skipWhile fun _ => true
  let c' := line.skipWhite
  if _h : c'.looksAt '#' ∧ c'.rest.length < c.rest.length then c'.skipComment else line
termination_by c.rest.length
decreasing_by exact _h.2

/-- The end of a comment that follows on the same line, if there is one. -/
def skipTrailingComment (c : Cursor) : Cursor :=
  let c' := c.skipWhile isBlank
  if !c.fresh && c'.looksAt '#' then c'.skipWhile fun _ => true else c

/-- The next place that is neither white space nor comment, and whether a line
has ended before it.  Tabs count as white space only while `tabs` holds, which
the end of a line outside brackets revokes. -/
def toToken (bracketed tabs ended : Bool) (c : Cursor) : Cursor × Bool :=
  let start := if c.mark.index = 0 && c.looksAt '\ufeff' then c.next else c
  let blank := start.skipWhile fun a => a = ' ' || (tabs && a = '\t')
  let text := if blank.looksAt '#' then blank.skipComment else blank
  match text.lineBreak? with
  | none => (text, ended)
  | some (_, c') =>
    if _h : c'.rest.length < c.rest.length then c'.toToken bracketed bracketed true
    else (c', true)
termination_by c.rest.length

/-- The fault `p` at this place, in something that starts at `start`. -/
def fault (c : Cursor) (start : Mark) (p : Problem) : SyntaxError where
  line := if start.line ≠ 0 then some (start.line + 1)
    else if c.mark.line ≠ 0 then some (c.mark.line + 1)
    else none
  problem := p

end Cursor

end RegisterMachine.Yaml
