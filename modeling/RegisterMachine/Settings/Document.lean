/-
Documents that hold settings.

* `Settings.Document`: nested tables of texts, whatever format they come from;
* `Settings.Document.ofYaml` / `Settings.Document.ofJson`: a document from
  either format;
* `Settings.Document.lookup`: the value of a key.
-/
import RegisterMachine.Json
import RegisterMachine.Yaml.Value

namespace RegisterMachine.Settings

/-- A value in a document of settings. -/
inductive Document where
  /-- Nothing. -/
  | absent
  /-- A text, or something else as a text. -/
  | leaf (s : Bytes)
  /-- A list, which is no setting. -/
  | list
  /-- A table; its keys are in small letters. -/
  | table (entries : List (Bytes × Document))
deriving Repr

namespace Document

/-- The small letter of a capital, as far as it is an ASCII letter. -/
def smallLetter (c : Char) : Char :=
  if c.toNat = 0x130 then 'i' else if c.toNat = 0x212A then 'k' else c.toLower

/-- A key in small letters. -/
def key (s : Bytes) : Bytes :=
  (Utf8.pieces s).flatMap fun p => match p with
    | .char c => String.utf8EncodeChar (smallLetter c)
    | .stray b => [b]

/-! ### Formats -/

mutual

/-- A value of a YAML document. -/
def ofYamlValue : Yaml.Value → Document
  | .scalar .null => .absent
  | .scalar s => .leaf s.render
  | .list _ => .list
  | .table _ entries => .table (ofYaml entries)

/-- The entries of a YAML document. -/
def ofYaml : List (Yaml.Scalar × Yaml.Value) → List (Bytes × Document)
  | [] => []
  | (k, v) :: rest => (key k.render, ofYamlValue v) :: ofYaml rest

end

mutual

/-- A value of a JSON document. -/
def ofJsonValue : Json → Document
  | .null => .absent
  | .flag b => .leaf (if b then utf8 "true" else utf8 "false")
  | .number literal => .leaf ((Json.numberText? literal).getD [])
  | .text s => .leaf s
  | .list _ => .list
  | .object entries => .table (ofJson entries)

/-- The entries of a JSON document. -/
def ofJson : List (Bytes × Json) → List (Bytes × Document)
  | [] => []
  | (k, v) :: rest => (key k, ofJsonValue v) :: ofJson rest

end

/-! ### Looking up -/

/-- The value of a key; the last one counts. -/
def get? (k : Bytes) (entries : List (Bytes × Document)) : Document :=
  ((entries.reverse.find? (·.1 = k)).map (·.2)).getD .absent

/-- A value as a text, which is empty for a list or a table, or nothing where
there is none. -/
def text? : Document → Option Bytes
  | .absent => none
  | .leaf s => some s
  | .list => some []
  | .table _ => some []

/-- The value of the key `name` in the group `group`, written as one key with a
point or as a key in a nested table.  A group that is something else hides its
keys, as if they were empty. -/
def lookup (entries : List (Bytes × Document)) (group name : Bytes) : Option Bytes :=
  match (get? (group ++ 46 :: name) entries).text? with
  | some s => some s
  | none =>
    match get? group entries with
    | .table inner => (get? name inner).text?
    | .absent => none
    | _ => some []

end Document

end RegisterMachine.Settings
