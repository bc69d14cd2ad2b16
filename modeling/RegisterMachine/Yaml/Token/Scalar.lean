/-
The texts of scalars.

* `Yaml.plainText`: text without quotes;
* `Yaml.quotedText`: text in single or double quotes;
* `Yaml.blockText`: text on indented lines of its own.

Each reads from the place where the scalar starts and gives its text together
with the place after it.
-/
import RegisterMachine.Yaml.Cursor

namespace RegisterMachine.Yaml

/-! ### White space inside a scalar -/

/-- White space between two words of a scalar. -/
structure Gap where
  /-- The blanks before the first line break. -/
  blanks : List Char := []
  /-- The first line break. -/
  first : List Char := []
  /-- The line breaks after the first. -/
  more : List Char := []
  /-- A line has ended. -/
  broken : Bool := false
deriving Repr

/-- The text that white space stands for: blanks are kept, a single line break
becomes a space, and of several breaks the first is dropped. -/
def Gap.text (g : Gap) : List Char :=
  if !g.broken then g.blanks
  else if g.first = ['\n'] then (if g.more.isEmpty then [' '] else g.more)
  else g.first ++ g.more

/-- Reads white space onto `g`.  A tab that starts a line before the column
`indent` is a fault, reported for the scalar that starts at `start`. -/
def Gap.read (start : Mark) (indent : Int) (g : Gap) (c : Cursor) :
    Except SyntaxError (Gap × Cursor) :=
  match c.lineBreak? with
  | some (b, c') =>
    let g' := if g.broken then { g with more := g.more ++ [b] }
      else { g with blanks := [], first := [b], broken := true }
    if _h : c'.rest.length < c.rest.length then Gap.read start indent g' c' else .ok (g', c')
  | none =>
    match c.head? with
    | none => .ok (g, c)
    | some a =>
      if !isBlank a then .ok (g, c)
      else if g.broken && c.mark.column < indent && a = '\t' then
        .error (c.fault start .tabInPlainText)
      else
        let g' := if g.broken then g else { g with blanks := g.blanks ++ [a] }
        if _h : c.next.rest.length < c.rest.length then Gap.read start indent g' c.next
        else .ok (g', c.next)
termination_by c.rest.length

/-! ### Plain text -/

/-- The characters of plain text up to white space or to an indicator that ends
it; `bracketed` tells that the text stands inside brackets. -/
def plainWord (bracketed : Bool) : List Char → List Char
  | [] => []
  | a :: rest =>
    if isWhite a || (a = ':' && endsWord rest) || (bracketed && ",?[]\x7b\x7d".contains a) then []
    else a :: plainWord bracketed rest

/-- Reads plain text onto `text`, after the white space `gap`.  The second
component of the answer tells whether a line has ended since the last word. -/
def plainFrom (start : Mark) (bracketed : Bool) (indent : Int) (text : List Char) (gap : Gap)
    (c : Cursor) : Except SyntaxError (List Char × Bool × Cursor) :=
  if c.atDocumentMark || c.looksAt '#' then .ok (text, gap.broken, c)
  else
    let word := plainWord bracketed c.rest
    let c' := c.skip word.length
    let text' := if word.isEmpty then text else text ++ gap.text ++ word
    if !c'.atWhite then .ok (text', word.isEmpty && gap.broken, c')
    else
      match Gap.read start indent {} c' with
      | .error e => .error e
      | .ok (gap', c'') =>
        if !bracketed && c''.mark.column < indent then .ok (text', gap'.broken, c'')
        else if _h : c''.rest.length < c.rest.length then
          plainFrom start bracketed indent text' gap' c''
        else .ok (text', gap'.broken, c'')
termination_by c.rest.length

/-- Reads plain text that is indented by `indent` columns at least. -/
def plainText (bracketed : Bool) (indent : Int) (c : Cursor) :
    Except SyntaxError (List Char × Bool × Cursor) :=
  plainFrom c.mark bracketed indent [] {} c

/-! ### Quoted text -/

/-- The value of a hexadecimal digit. -/
def hexDigit? (a : Char) : Option Nat :=
  if a.isDigit then some (a.toNat - 48)
  else if 'a' ≤ a ∧ a ≤ 'f' then some (a.toNat - 87)
  else if 'A' ≤ a ∧ a ≤ 'F' then some (a.toNat - 55)
  else none

/-- The character written by `count` hexadecimal digits. -/
def escapedCode (count : Nat) (rest : List Char) : Except Problem Char :=
  let ds := (rest.take count).mapM hexDigit?
  match ds with
  | none => .error .hexadecimalDigit
  | some ds =>
    let code := ds.foldl (fun n d => n * 16 + d) 0
    if ds.length < count then .error .hexadecimalDigit
    else if code.isValidChar then .ok (Char.ofNat code)
    else .error .escapedCharacter

/-- The character that an escape stands for and the length of the escape, told
from what follows the backslash. -/
def escape : List Char → Except Problem (Char × Nat)
  | [] => .error .unknownEscape
  | a :: rest =>
    match a with
    | '0' => .ok ('\x00', 1)
    | 'a' => .ok ('\x07', 1)
    | 'b' => .ok ('\x08', 1)
    | 't' | '\t' => .ok ('\t', 1)
    | 'n' => .ok ('\n', 1)
    | 'v' => .ok ('\x0b', 1)
    | 'f' => .ok ('\x0c', 1)
    | 'r' => .ok ('\r', 1)
    | 'e' => .ok ('\x1b', 1)
    | ' ' => .ok (' ', 1)
    | '"' => .ok ('"', 1)
    | '\'' => .ok ('\'', 1)
    | '\\' => .ok ('\\', 1)
    | 'N' => .ok ('\u0085', 1)
    | '_' => .ok ('\u00a0', 1)
    | 'L' => .ok ('\u2028', 1)
    | 'P' => .ok ('\u2029', 1)
    | 'x' => (escapedCode 2 rest).map (·, 3)
    | 'u' => (escapedCode 4 rest).map (·, 5)
    | 'U' => (escapedCode 8 rest).map (·, 9)
    | _ => .error .unknownEscape

/-- Reads quoted text onto `text` up to white space or the closing quote.  The
second component of the answer tells that an escaped line break was read. -/
def quotedWord (start : Mark) (quote : Char) (text : List Char) (c : Cursor) :
    Except SyntaxError (List Char × Bool × Cursor) :=
  match c.rest with
  | [] => .ok (text, false, c)
  | a :: rest =>
    let goOn := fun (text' : List Char) (c' : Cursor) =>
      if _h : c'.rest.length < c.rest.length then quotedWord start quote text' c'
      else .ok (text', false, c')
    if isWhite a then .ok (text, false, c)
    else if quote = '\'' && a = '\'' && rest.head? == some '\'' then
      goOn (text ++ ['\'']) (c.skip 2)
    else if a = quote then .ok (text, false, c)
    else if quote = '"' && a = '\\' then
      if rest.head?.any isBreak then .ok (text, true, c.next.nextLine)
      else match escape rest with
        | .error p => .error (c.fault start p)
        | .ok (b, n) => goOn (text ++ [b]) (c.skip (n + 1))
    else goOn (text ++ [a]) c.next
termination_by c.rest.length

/-- Reads quoted text onto `text` and past the closing quote. -/
def quotedFrom (start : Mark) (quote : Char) (text : List Char) (c : Cursor) :
    Except SyntaxError (List Char × Cursor) :=
  if c.atDocumentMark then .error (c.fault start .documentMarkInQuotes)
  else if c.rest.isEmpty then .error (c.fault start .unclosedQuotes)
  else
    match quotedWord start quote text c with
    | .error e => .error e
    | .ok (text', folded, c') =>
      if c'.looksAt quote then .ok (text', c'.next)
      else
        match Gap.read start (-1) { broken := folded } c' with
        | .error e => .error e
        | .ok (gap, c'') =>
          if _h : c''.rest.length < c.rest.length then
            quotedFrom start quote (text' ++ gap.text) c''
          else .error (c''.fault start .unclosedQuotes)
termination_by c.rest.length

/-- Reads text in quotes, from the opening quote on. -/
def quotedText (quote : Char) (c : Cursor) : Except SyntaxError (List Char × Cursor) :=
  quotedFrom c.mark quote [] c.next

/-! ### Block text -/

/-- What becomes of the line breaks at the end of a block of text. -/
inductive Chomping where
  /-- All are dropped. -/
  | strip
  /-- The first is kept. -/
  | clip
  /-- All are kept. -/
  | keep
deriving DecidableEq, Repr

/-- Reads empty lines and the indentation of the next line.  While `indent` is
zero the indentation is not known, and every space belongs to it; the answer
gives the greatest column reached. -/
def emptyLines (start : Mark) (indent greatest : Nat) (breaks : List Char) (c : Cursor) :
    Except SyntaxError (Nat × List Char × Cursor) :=
  let room := if indent = 0 then c.rest.length else indent - c.mark.column
  let spaces := (c.rest.takeWhile (· = ' ')).take room
  let c' := c.skip spaces.length
  let greatest := max greatest c'.mark.column
  if (indent = 0 || c'.mark.column < indent) && c'.looksAt '\t' then
    .error (c'.fault start .tabForIndentation)
  else
    match c'.lineBreak? with
    | none => .ok (greatest, breaks, c')
    | some (b, c'') =>
      if _h : c''.rest.length < c.rest.length then
        emptyLines start indent greatest (breaks ++ [b]) c''
      else .ok (greatest, breaks ++ [b], c'')
termination_by c.rest.length

/-- The lines read so far of a block of text. -/
structure Block where
  text : List Char := []
  /-- The line break after the last line that is not empty. -/
  leading : List Char := []
  /-- The line breaks of the empty lines after it. -/
  trailing : List Char := []
  /-- The last line starts with a blank. -/
  blank : Bool := false
deriving Repr

/-- Reads the lines of a block of text that is indented by `indent` columns. -/
def blockLines (start : Mark) (literal : Bool) (indent : Nat) (b : Block) (c : Cursor) :
    Except SyntaxError (Block × Cursor) :=
  if c.mark.column ≠ indent ∨ c.rest.isEmpty then .ok (b, c)
  else
    let blank := c.atBlank
    let joint :=
      if !literal && !b.blank && !blank && b.leading == ['\n'] then
        if b.trailing.isEmpty then [' '] else []
      else b.leading
    let (line, c') := c.takeWhile fun _ => true
    let (leading, c') := match c'.lineBreak? with
      | some (a, d) => ([a], d)
      | none => ([], c')
    match emptyLines start indent 0 [] c' with
    | .error e => .error e
    | .ok (_, trailing, c'') =>
      let b' : Block := { text := b.text ++ joint ++ b.trailing ++ line, leading, trailing, blank }
      if _h : c''.rest.length < c.rest.length then blockLines start literal indent b' c''
      else .ok (b', c'')
termination_by c.rest.length

/-- The sign at the head of a block of text. -/
def chompingSign (c : Cursor) : Chomping × Cursor :=
  if c.looksAt '+' then (.keep, c.next)
  else if c.looksAt '-' then (.strip, c.next)
  else (.clip, c)

/-- The digit at the head of a block of text, zero when there is none. -/
def indentationDigit (start : Mark) (c : Cursor) : Except SyntaxError (Nat × Cursor) :=
  match c.head? with
  | some a =>
    if !a.isDigit then .ok (0, c)
    else if a = '0' then .error (c.fault start .zeroIndentation)
    else .ok (a.toNat - 48, c.next)
  | none => .ok (0, c)

/-- The sign and the digit at the head of a block of text, in either order. -/
def blockHeader (start : Mark) (c : Cursor) : Except SyntaxError (Chomping × Nat × Cursor) := do
  let (chomping, c') := chompingSign c
  let (increment, c'') ← indentationDigit start c'
  if chomping = .clip then
    let (chomping, c''') := chompingSign c''
    return (chomping, increment, c''')
  else return (chomping, increment, c'')

/-- Reads a block of text, from its indicator on, below a line that is indented
by `parent` columns. -/
def blockText (literal : Bool) (parent : Int) (c : Cursor) :
    Except SyntaxError (List Char × Cursor) := do
  let start := c.mark
  let (chomping, increment, c) ← blockHeader start c.next
  let c := c.skipWhile isBlank
  let c := if c.looksAt '#' then c.skipWhile fun _ => true else c
  if !c.atLineEnd then throw (c.fault start .lineEnd)
  let given := if increment = 0 then 0 else (max parent 0).toNat + increment
  let (greatest, trailing, c) ← emptyLines start given 0 [] c.nextLine
  let indent := if given = 0 then max greatest (max (parent + 1) 1).toNat else given
  let (b, c) ← blockLines start literal indent { trailing } c
  let text := match chomping with
    | .strip => b.text
    | .clip => b.text ++ b.leading
    | .keep => b.text ++ b.leading ++ b.trailing
  return (text, c)

end RegisterMachine.Yaml
