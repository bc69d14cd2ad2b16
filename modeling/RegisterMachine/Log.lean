/-
Log records.

* `Log.Record`: a severity, a message and named values;
* `Log.Record.line`: the record as a line of `name=value` pairs;
* `Log.Record.object`: the record as a JSON object on one line;
* `Log.readLevel`: the name of a level, with an optional offset.
-/
import RegisterMachine.Numeral
import RegisterMachine.Text.Quoted
import RegisterMachine.Text.Utf8

namespace RegisterMachine.Log

/-- How serious a record is. -/
inductive Severity where
  | debug
  | info
  | warn
  | error
deriving DecidableEq, Repr

namespace Severity

/-- The name of a severity. -/
def name : Severity → Bytes
  | .debug => utf8 "DEBUG"
  | .info => utf8 "INFO"
  | .warn => utf8 "WARN"
  | .error => utf8 "ERROR"

/-- The level of a severity; a record is written where the level asked for is
not higher. -/
def level : Severity → Int
  | .debug => -4
  | .info => 0
  | .warn => 4
  | .error => 8

/-- The severity with a given name in capital letters. -/
def ofName? (s : Bytes) : Option Severity :=
  [debug, info, warn, error].find? fun v => v.name = s

end Severity

/-- A value in a record. -/
inductive Value where
  | text (s : Bytes)
  | number (n : Int)
  | flag (b : Bool)
  | texts (l : List Bytes)
deriving DecidableEq, Repr

/-- A record: what happened, how serious it is, and named values. -/
structure Record where
  severity : Severity
  message : Bytes
  attributes : List (Bytes × Value) := []
deriving DecidableEq, Repr

/-! ### Lines of pairs -/

/-- A piece that forces quotes around the text it stands in. -/
def needsQuotes : Utf8.Piece → Bool
  | .stray _ => true
  | .char c =>
    let n := c.toNat
    if n < 0x80 then n ≤ 32 || n == 34 || n == 61
    else n == 0xFFFD || Blank.isBlank c || !isPrintable c

/-- A text as the value of a pair, in quotes where they are needed. -/
def quotedIfNeeded (s : Bytes) : Bytes :=
  if s.isEmpty || (Utf8.pieces s).any needsQuotes then Quoted.double s else s

/-- A truth value as a word. -/
def boolean (b : Bool) : Bytes :=
  if b then utf8 "true" else utf8 "false"

/-- A value as the value of a pair. -/
def Value.render : Value → Bytes
  | .text s => quotedIfNeeded s
  | .number n => integer n
  | .flag b => boolean b
  | .texts l => quotedIfNeeded (utf8 "[" ++ Bytes.joined (utf8 " ") l ++ utf8 "]")

/-- The record as a line of `name=value` pairs. -/
def Record.line (r : Record) : Bytes :=
  let pairs := (utf8 "level", Value.text r.severity.name) :: (utf8 "msg", .text r.message)
    :: r.attributes
  Bytes.joined (utf8 " ") (pairs.map fun (k, v) => k ++ utf8 "=" ++ v.render) ++ newline

/-! ### JSON objects -/

/-- A character inside a JSON string; `short` allows the one-letter escapes of
backspace and form feed. -/
def jsonChar (short : Bool) (c : Char) : Bytes :=
  let n := c.toNat
  if n = 34 then utf8 "\\\""
  else if n = 92 then utf8 "\\\\"
  else if n = 10 then utf8 "\\n"
  else if n = 13 then utf8 "\\r"
  else if n = 9 then utf8 "\\t"
  else if short ∧ n = 8 then utf8 "\\b"
  else if short ∧ n = 12 then utf8 "\\f"
  else if n < 32 ∨ n = 0x2028 ∨ n = 0x2029 then utf8 "\\u" ++ hexadecimal 4 n
  else String.utf8EncodeChar c

/-- A piece inside a JSON string; a stray byte becomes the replacement character. -/
def jsonPiece (short : Bool) : Utf8.Piece → Bytes
  | .char c => jsonChar short c
  | .stray _ => String.utf8EncodeChar (Char.ofNat 0xFFFD)

/-- A text as a JSON string. -/
def jsonString (short : Bool) (s : Bytes) : Bytes :=
  utf8 "\"" ++ (Utf8.pieces s).flatMap (jsonPiece short) ++ utf8 "\""

/-- A value as JSON.  Texts in a list use the one-letter escapes, a text that
stands alone does not. -/
def Value.json : Value → Bytes
  | .text s => jsonString false s
  | .number n => integer n
  | .flag b => boolean b
  | .texts l => utf8 "[" ++ Bytes.joined (utf8 ",") (l.map (jsonString true)) ++ utf8 "]"

/-- The record as a JSON object on one line. -/
def Record.object (r : Record) : Bytes :=
  let pairs := (utf8 "level", Value.text r.severity.name) :: (utf8 "msg", .text r.message)
    :: r.attributes
  utf8 "\x7b"
    ++ Bytes.joined (utf8 ",") (pairs.map fun (k, v) => jsonString false k ++ utf8 ":" ++ v.json)
    ++ utf8 "\x7d" ++ newline

/-! ### Levels -/

/-- Why a text does not name a level. -/
inductive LevelError where
  | unknownName
  | badOffset (offset : Bytes) (error : Numeral.Error)
deriving DecidableEq, Repr

/-- The capital of a small letter, as far as it is an ASCII letter. -/
def capital (c : Char) : Char :=
  if c.toNat = 0x131 then 'I' else if c.toNat = 0x17F then 'S' else c.toUpper

/-- A text in capital letters. -/
def capitals (s : Bytes) : Bytes :=
  (Utf8.pieces s).flatMap fun
    | .char c => String.utf8EncodeChar (capital c)
    | .stray b => [b]

/-- Reads the name of a level in any letters, with an optional signed offset.
The sum is taken as 64-bit arithmetic gives it. -/
def readLevel (s : Bytes) : Except LevelError Int :=
  let isSign : UInt8 → Bool := fun c => c == 43 || c == 45
  let name := s.takeWhile (!isSign ·)
  let offset := s.dropWhile (!isSign ·)
  let shift : Except LevelError Int :=
    if offset.isEmpty then .ok 0
    else match Numeral.readInteger (.plain 10) offset with
      | .ok n => .ok n
      | .error e => .error (.badOffset offset e)
  match shift with
  | .error e => .error e
  | .ok n =>
    match Severity.ofName? (capitals name) with
    | none => .error .unknownName
    | some v => .ok (Int.bmod (v.level + n) (Nat.pow 2 64))

/-- The report that the text `s` does not name a level. -/
def LevelError.message (s : Bytes) (e : LevelError) : Bytes :=
  utf8 "slog: level string " ++ Quoted.double s ++ utf8 ": " ++
    match e with
    | .unknownName => utf8 "unknown name"
    | .badOffset offset error => error.message (utf8 "strconv.Atoi") offset

end RegisterMachine.Log
