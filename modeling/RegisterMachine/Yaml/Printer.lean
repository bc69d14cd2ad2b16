/-
Texts as values of a document.

* `Yaml.Style`: how a text is written;
* `Yaml.styleOf`: the style of a text;
* `Yaml.renderText`: a text as it stands after its key.

A text is written plain where it reads back as the same text, in double quotes
where it would read as something else or needs escapes, on lines of its own
where it has several, and in single quotes else.
-/
import RegisterMachine.Text.Base64
import RegisterMachine.Yaml.Cursor
import RegisterMachine.Yaml.Scalar

namespace RegisterMachine.Yaml

/-! ### What a text looks like -/

/-- A character that is written as it is. -/
def isWritable (c : Char) : Bool :=
  let n := c.toNat
  n = 0x0A || (0x20 ≤ n && n ≤ 0x7E) || (0xA0 ≤ n && n < 0xFFFE && n ≠ 0xFEFF)

/-- A character that a text has to be in double quotes for. -/
def isSpecial (c : Char) : Bool :=
  c ≠ '\t' && !isWritable c

/-- Two neighbours in a text, the first a space and the second a line break. -/
def hasSpaceBeforeBreak (s : List Char) : Bool :=
  (s.zip s.tail).any fun (a, b) => a = ' ' && isBreak b

/-- Two neighbours in a text, the first a line break and the second a space. -/
def hasBreakBeforeSpace (s : List Char) : Bool :=
  (s.zip s.tail).any fun (a, b) => isBreak a && b = ' '

/-- A blank follows, or nothing. -/
def beforeBlank : List Char → Bool
  | [] => true
  | c :: _ => isBlank c

/-- An indicator inside a text, after the character `previous`. -/
def hasIndicatorAfter (previous : Char) : List Char → Bool
  | [] => false
  | c :: rest =>
    (c = ':' && beforeBlank rest) || (c = '#' && isWhite previous) || hasIndicatorAfter c rest

/-- A text with an indicator, which is not written plain. -/
def hasIndicator : List Char → Bool
  | '-' :: '-' :: '-' :: _ => true
  | '.' :: '.' :: '.' :: _ => true
  | [] => false
  | c :: rest =>
    "#,[]\x7b\x7d&*!|>'\"%@`".contains c
      || ((c = '?' || c = ':' || c = '-') && beforeBlank rest)
      || hasIndicatorAfter c rest

/-- A number in base sixty. -/
def isSexagesimal (s : List Char) : Bool :=
  let s := match s with
    | '+' :: t => t
    | '-' :: t => t
    | _ => s
  let isDigitLike := fun (c : Char) => c.isDigit || c = '_'
  let whole := s.takeWhile isDigitLike
  let rest := s.dropWhile isDigitLike
  let groups := rest.takeWhile (· ≠ '.')
  let fraction := rest.dropWhile (· ≠ '.')
  whole.head?.any Char.isDigit && !groups.isEmpty
    && ((groups.splitOn ':').head? == some [])
    && ((groups.splitOn ':').tail.all fun g => match g with
      | [a] => a.isDigit
      | [a, b] => '0' ≤ a && a ≤ '5' && b.isDigit
      | _ => false)
    && fraction.tail.all isDigitLike

/-- The words for truth values that are no longer read as such. -/
def formerFlags : List Bytes :=
  ["y", "Y", "yes", "Yes", "YES", "on", "On", "ON",
    "n", "N", "no", "No", "NO", "off", "Off", "OFF"].map utf8

/-- A text that reads as itself where nothing tells that it is a text. -/
def readsAsText (s : Bytes) (cs : List Char) : Bool :=
  (Scalar.ofPlain true s).tag = textTag && !isSexagesimal cs && !formerFlags.contains s

/-! ### Styles -/

/-- How a text is written. -/
inductive Style where
  | plain
  | singleQuoted
  | doubleQuoted
  | literal
deriving DecidableEq, Repr

/-- The style of a text. -/
def styleOf (s : Bytes) (cs : List Char) : Style :=
  let special := cs.any isSpecial
  let spaceBeforeBreak := hasSpaceBeforeBreak cs
  if cs.contains '\n' then
    if special || spaceBeforeBreak || cs.getLast? == some ' ' then .doubleQuoted else .literal
  else if !readsAsText s cs then .doubleQuoted
  else if special || spaceBeforeBreak || hasBreakBeforeSpace cs || cs.contains '\t' then
    .doubleQuoted
  else if cs.head? == some ' ' || cs.getLast? == some ' ' || cs.any isBreak || hasIndicator cs then
    .singleQuoted
  else .plain

/-- A character with an escape. -/
def escaped (c : Char) : Bytes :=
  let n := c.toNat
  let letters : List (Nat × String) :=
    [(0x00, "0"), (0x07, "a"), (0x08, "b"), (0x09, "t"), (0x0A, "n"), (0x0B, "v"), (0x0C, "f"),
      (0x0D, "r"), (0x1B, "e"), (0x22, "\""), (0x5C, "\\"), (0x85, "N"), (0xA0, "_"),
      (0x2028, "L"), (0x2029, "P")]
  92 :: match letters.lookup n with
    | some l => utf8 l
    | none =>
      if n ≤ 0xFF then utf8 "x" ++ hexadecimalCapital 2 n
      else if n ≤ 0xFFFF then utf8 "u" ++ hexadecimalCapital 4 n
      else utf8 "U" ++ hexadecimalCapital 8 n

/-- A text in double quotes.  A text that starts with a byte order mark has
every character escaped. -/
def doubleQuoted (cs : List Char) : Bytes :=
  let all := cs.head? == some '\ufeff'
  let written := cs.flatMap fun c =>
    if all || !isWritable c || isBreak c || c = '"' || c = '\\' then escaped c
    else String.utf8EncodeChar c
  34 :: written ++ [34]

/-- The indentation of the lines of a text. -/
def indentation : Bytes := utf8 "  "

/-- The characters of a text in single quotes; `broken` tells that a line has
just ended. -/
def singleQuotedFrom (broken : Bool) : List Char → Bytes
  | [] => []
  | c :: rest =>
    if isBreak c then String.utf8EncodeChar c ++ singleQuotedFrom true rest
    else
      (if broken then indentation else [])
        ++ (if c = '\'' then utf8 "''" else String.utf8EncodeChar c)
        ++ singleQuotedFrom false rest

/-- A text in single quotes. -/
def singleQuoted (cs : List Char) : Bytes :=
  39 :: singleQuotedFrom false cs ++ [39]

/-- The marks after the indicator of a text on lines of its own: its
indentation, where the first line does not show it, and what becomes of the
line breaks at the end. -/
def literalMarks (cs : List Char) : Bytes :=
  let first := if cs.head?.any fun c => c = ' ' || isBreak c then utf8 "2" else []
  let last := match cs.reverse with
    | [] => utf8 "-"
    | [c] => if isBreak c then utf8 "+" else utf8 "-"
    | c :: d :: _ => if !isBreak c then utf8 "-" else if isBreak d then utf8 "+" else []
  first ++ last

/-- The lines of a text, each on a line of its own; `broken` tells that a line
has just ended. -/
def literalLines (broken : Bool) : List Char → Bytes
  | [] => []
  | c :: rest =>
    if isBreak c then String.utf8EncodeChar c ++ literalLines true rest
    else (if broken then indentation else []) ++ String.utf8EncodeChar c ++ literalLines false rest

/-- A text on lines of its own.  The line of the indicator ends with the first
line break, which a text that starts with one brings along. -/
def literal (cs : List Char) : Bytes :=
  let start := if cs.head?.any isBreak then [] else newline
  124 :: literalMarks cs ++ start ++ literalLines true cs

/-- A text in its style. -/
def renderChars (s : Bytes) (cs : List Char) : Style → Bytes
  | .plain => s
  | .singleQuoted => singleQuoted cs
  | .doubleQuoted => doubleQuoted cs
  | .literal => literal cs

/-- A text in lines of `width` bytes, each with a line break. -/
def inLines (width : Nat) (s : Bytes) : Bytes :=
  if _h : width = 0 ∨ s.length ≤ width then s ++ newline
  else s.take width ++ newline ++ inLines width (s.drop width)
termination_by s.length
decreasing_by simp; omega

/-- Bytes that are no text, as letters: on one line where they fit there. -/
def renderBinary (s : Bytes) : Bytes :=
  let letters := Base64.encode s
  let text := if letters.length < 70 then letters else inLines 70 letters
  let cs := text.map fun b => Char.ofNat b.toNat
  binaryTag ++ 32 :: (if letters.length < 70 then text else literal cs)

/-- A text as it stands after its key, up to the end of its last line. -/
def renderText (s : Bytes) : Bytes :=
  let written := match Utf8.chars? s with
    | some cs => renderChars s cs (styleOf s cs)
    | none => renderBinary s
  if written.getLast? == some 10 then written else written ++ newline

end RegisterMachine.Yaml
