/-
Documents in the JSON format.

* `Json`: a value;
* `Json.parse`: the value that a text writes;
* `Json.table`: the entries of a value that is an object.
-/
import RegisterMachine.Decimal.Binary
import RegisterMachine.Text.Quoted

namespace RegisterMachine

/-- A value; numbers are kept as they are written. -/
inductive Json where
  | null
  | flag (b : Bool)
  | number (literal : Bytes)
  | text (s : Bytes)
  | list (items : List Json)
  | object (entries : List (Bytes × Json))
deriving Repr

namespace Json

/-! ### Errors -/

/-- Where in a text a byte is out of place. -/
inductive Place where
  | value
  | afterDocument
  | key
  | afterKey
  | afterPair
  | afterItem
  | string
  | escape
  | escapedCode
  | number
  | fraction
  | exponent
  | tooDeep
  /-- Inside a word, where the byte `expected` is due. -/
  | word (w : String) (expected : Char)
deriving DecidableEq, Repr

/-- The wording of a place. -/
def Place.message : Place → Bytes
  | .value => utf8 "looking for beginning of value"
  | .afterDocument => utf8 "after top-level value"
  | .key => utf8 "looking for beginning of object key string"
  | .afterKey => utf8 "after object key"
  | .afterPair => utf8 "after object key:value pair"
  | .afterItem => utf8 "after array element"
  | .string => utf8 "in string literal"
  | .escape => utf8 "in string escape code"
  | .escapedCode => utf8 "in \\u hexadecimal character escape"
  | .number => utf8 "in numeric literal"
  | .fraction => utf8 "after decimal point in numeric literal"
  | .exponent => utf8 "in exponent of numeric literal"
  | .tooDeep => utf8 "exceeded max depth"
  | .word w expected =>
    utf8 "in literal " ++ utf8 w ++ utf8 " (expecting " ++ Quoted.single expected ++ utf8 ")"

/-- What is wrong with a text. -/
inductive Error where
  | unexpectedEnd
  | unexpected (b : UInt8) (place : Place)
  /-- A number that is out of range. -/
  | range (literal : Bytes)
  /-- The value is not an object. -/
  | kind (found : String)
deriving DecidableEq, Repr

/-- A byte in single quotes. -/
def quotedByte (b : UInt8) : Bytes :=
  if b = 34 then utf8 "'\"'" else Quoted.single (Char.ofNat b.toNat)

/-- The wording of an error. -/
def Error.message : Error → Bytes
  | .unexpectedEnd => utf8 "unexpected end of JSON input"
  | .unexpected b place => utf8 "invalid character " ++ quotedByte b ++ 32 :: place.message
  | .range literal =>
    utf8 "json: cannot unmarshal number " ++ literal ++ utf8 " into Go value of type float64"
  | .kind found =>
    utf8 "json: cannot unmarshal " ++ utf8 found
      ++ utf8 " into Go value of type map[string]interface \x7b\x7d"

/-! ### Parts of a value -/

/-- A text without the white space before it. -/
def skipBlank (s : Bytes) : Bytes :=
  s.dropWhile fun b => b = 32 || b = 9 || b = 10 || b = 13

/-- The error of a byte that is out of place at the start of a text. -/
def refuse {α : Type} (place : Place) : Bytes → Except Error α
  | [] => .error .unexpectedEnd
  | b :: _ => .error (.unexpected b place)

/-- Reads the rest of a word. -/
def word (w : String) (v : Json) : List Char → Bytes → Except Error (Json × Bytes)
  | [], s => .ok (v, s)
  | c :: cs, s =>
    match s with
    | [] => .error .unexpectedEnd
    | b :: rest =>
      if b.toNat = c.toNat then word w v cs rest else .error (.unexpected b (.word w c))

/-- Reads one digit or more. -/
def digits (place : Place) (s : Bytes) : Except Error (Bytes × Bytes) :=
  match s.takeWhile Decimal.isDigit with
  | [] => refuse place s
  | ds => .ok (ds, s.dropWhile Decimal.isDigit)

/-- Reads the fraction of a number, if it has one. -/
def fraction : Bytes → Except Error (Bytes × Bytes)
  | 46 :: rest => do
    let (ds, rest) ← digits .fraction rest
    return (46 :: ds, rest)
  | s => .ok ([], s)

/-- Reads the exponent of a number, if it has one. -/
def exponent : Bytes → Except Error (Bytes × Bytes)
  | mark :: rest =>
    if Bytes.lower mark ≠ 101 then .ok ([], mark :: rest)
    else do
      let (sign, rest) : Bytes × Bytes := match rest with
        | 43 :: r => ([43], r)
        | 45 :: r => ([45], r)
        | r => ([], r)
      let (ds, rest) ← digits .exponent rest
      return (mark :: sign ++ ds, rest)
  | [] => .ok ([], [])

/-- Reads the whole part of a number: a zero, or digits that start with
another. -/
def whole : Bytes → Except Error (Bytes × Bytes)
  | 48 :: rest => .ok ([48], rest)
  | s => digits .number s

/-- Reads a number without a sign. -/
def unsigned (s : Bytes) : Except Error (Bytes × Bytes) := do
  let (a, s) ← whole s
  let (b, s) ← fraction s
  let (c, s) ← exponent s
  return (a ++ b ++ c, s)

/-- The value of a hexadecimal digit. -/
def hexDigit? (b : UInt8) : Option Nat :=
  let n := b.toNat
  if 48 ≤ n ∧ n ≤ 57 then some (n - 48)
  else if 97 ≤ n ∧ n ≤ 102 then some (n - 87)
  else if 65 ≤ n ∧ n ≤ 70 then some (n - 55)
  else none

/-- Reads four hexadecimal digits, of which `n` are left. -/
def code : Nat → Nat → Bytes → Except Error (Nat × Bytes)
  | 0, v, s => .ok (v, s)
  | n + 1, v, s =>
    match s with
    | [] => .error .unexpectedEnd
    | b :: rest =>
      match hexDigit? b with
      | some d => code n (v * 16 + d) rest
      | none => .error (.unexpected b .escapedCode)

/-- A part of a string: bytes as they stand, or a unit of sixteen bits. -/
inductive StringPart where
  | raw (b : UInt8)
  | unit (n : Nat)

/-- The byte that the letter of an escape stands for. -/
def escapedByte? (b : UInt8) : Option UInt8 :=
  [(34, 34), (92, 92), (47, 47), (98, 8), (102, 12), (110, 10), (114, 13), (116, 9)].lookup b

/-- Reads the parts of a string up to the closing quote; `fuel` bounds their
number. -/
def stringParts : Nat → Bytes → Except Error (List StringPart × Bytes)
  | 0, _ => .error .unexpectedEnd
  | fuel + 1, s =>
    match s with
    | [] => .error .unexpectedEnd
    | 34 :: rest => .ok ([], rest)
    | [92] => .error .unexpectedEnd
    | 92 :: 117 :: rest => do
      let (n, rest) ← code 4 0 rest
      let (ps, rest) ← stringParts fuel rest
      return (.unit n :: ps, rest)
    | 92 :: b :: rest =>
      match escapedByte? b with
      | none => .error (.unexpected b .escape)
      | some a => do
        let (ps, rest) ← stringParts fuel rest
        return (.raw a :: ps, rest)
    | b :: rest =>
      if b < 32 then .error (.unexpected b .string)
      else do
        let (ps, rest) ← stringParts fuel rest
        return (.raw b :: ps, rest)

/-- The character that stands for what is none. -/
def replacement : Bytes := Utf8.encode ['\ufffd']

/-- The bytes of the parts of a string.  Two units may make one character; a
unit that makes none becomes the replacement character. -/
def joinParts : List StringPart → Bytes
  | [] => []
  | .raw b :: rest => b :: joinParts rest
  | .unit a :: .unit b :: rest =>
    if 0xD800 ≤ a ∧ a < 0xDC00 ∧ 0xDC00 ≤ b ∧ b < 0xE000 then
      String.utf8EncodeChar (Char.ofNat (0x10000 + (a - 0xD800) * 0x400 + (b - 0xDC00)))
        ++ joinParts rest
    else (if a.isValidChar then String.utf8EncodeChar (Char.ofNat a) else replacement)
      ++ joinParts (.unit b :: rest)
  | .unit a :: rest =>
    (if a.isValidChar then String.utf8EncodeChar (Char.ofNat a) else replacement) ++ joinParts rest

/-- A text with the replacement character for every stray byte. -/
def repaired (s : Bytes) : Bytes :=
  (Utf8.pieces s).flatMap fun p => match p with
    | .char c => String.utf8EncodeChar c
    | .stray _ => replacement

/-- Reads a string after its opening quote. -/
def string (s : Bytes) : Except Error (Bytes × Bytes) := do
  let (ps, rest) ← stringParts (s.length + 1) s
  return (repaired (joinParts ps), rest)

/-! ### Values -/

/-- How deep lists and objects may stand in one another. -/
def depthLimit : Nat := 10000

mutual

/-- Reads a value inside `depth` lists and objects; `fuel` bounds the number of
steps. -/
def value (depth : Nat) : Nat → Bytes → Except Error (Json × Bytes)
  | 0, _ => .error .unexpectedEnd
  | fuel + 1, s =>
    match skipBlank s with
    | [] => .error .unexpectedEnd
    | b :: rest =>
      if b = 123 ∨ b = 91 then
        if depthLimit ≤ depth then .error (.unexpected b .tooDeep)
        else if b = 123 then do
          let (entries, rest) ← entries (depth + 1) true fuel rest
          return (.object entries, rest)
        else do
          let (items, rest) ← items (depth + 1) true fuel rest
          return (.list items, rest)
      else if b = 34 then do
        let (s, rest) ← string rest
        return (.text s, rest)
      else if b = 45 then do
        let (n, rest) ← unsigned rest
        return (.number (45 :: n), rest)
      else if Decimal.isDigit b then do
        let (n, rest) ← unsigned (b :: rest)
        return (.number n, rest)
      else if b = 116 then word "true" (.flag true) ['r', 'u', 'e'] rest
      else if b = 102 then word "false" (.flag false) ['a', 'l', 's', 'e'] rest
      else if b = 110 then word "null" .null ['u', 'l', 'l'] rest
      else .error (.unexpected b .value)

/-- Reads the items of a list; `first` tells that the list may end here. -/
def items (depth : Nat) (first : Bool) : Nat → Bytes → Except Error (List Json × Bytes)
  | 0, _ => .error .unexpectedEnd
  | fuel + 1, s =>
    if first && (skipBlank s).head? == some 93 then .ok ([], (skipBlank s).tail)
    else do
      let (v, s) ← value depth fuel s
      match skipBlank s with
      | 44 :: rest =>
        let (vs, rest) ← items depth false fuel rest
        return (v :: vs, rest)
      | 93 :: rest => return ([v], rest)
      | s => refuse .afterItem s

/-- Reads the entries of an object; `first` tells that the object may end
here. -/
def entries (depth : Nat) (first : Bool) :
    Nat → Bytes → Except Error (List (Bytes × Json) × Bytes)
  | 0, _ => .error .unexpectedEnd
  | fuel + 1, s =>
    match skipBlank s with
    | 34 :: rest => do
      let (k, s) ← string rest
      match skipBlank s with
      | 58 :: rest =>
        let (v, s) ← value depth fuel rest
        match skipBlank s with
        | 44 :: rest =>
          let (es, rest) ← entries depth false fuel rest
          return ((k, v) :: es, rest)
        | 125 :: rest => return ([(k, v)], rest)
        | s => refuse .afterPair s
      | s => refuse .afterKey s
    | 125 :: rest => if first then .ok ([], rest) else .error (.unexpected 125 .key)
    | s => refuse .key s

end

/-- The value that a text writes. -/
def parse (s : Bytes) : Except Error Json := do
  let (v, rest) ← value 0 (2 * s.length + 2) s
  match skipBlank rest with
  | [] => return v
  | rest => refuse .afterDocument rest

/-! ### Objects -/

/-- The number that a literal writes, if it is in range. -/
def numberText? (literal : Bytes) : Option Bytes := do
  let (negative, d) ← Decimal.parse literal
  let b ← Binary.nearest d
  return (if negative then [45] else []) ++ b.shortest.positional

mutual

/-- The first number of a value that is out of range. -/
def outOfRange? : Json → Option Bytes
  | .number literal => if (numberText? literal).isSome then none else some literal
  | .list items => outOfRangeItem? items
  | .object entries => findOutOfRange? entries
  | _ => none

/-- The first number of a list that is out of range. -/
def outOfRangeItem? : List Json → Option Bytes
  | [] => none
  | v :: rest => (outOfRange? v).or (outOfRangeItem? rest)

/-- The first number of an object that is out of range. -/
def findOutOfRange? : List (Bytes × Json) → Option Bytes
  | [] => none
  | (_, v) :: rest => (outOfRange? v).or (findOutOfRange? rest)

end

/-- The entries of a value that is an object, or nothing at all. -/
def table : Json → Except Error (List (Bytes × Json))
  | .null => .ok []
  | .flag _ => .error (.kind "bool")
  | .number _ => .error (.kind "number")
  | .text _ => .error (.kind "string")
  | .list _ => .error (.kind "array")
  | .object entries =>
    match findOutOfRange? entries with
    | some literal => .error (.range literal)
    | none => .ok entries

end Json

end RegisterMachine
