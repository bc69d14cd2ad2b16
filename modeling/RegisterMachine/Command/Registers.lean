/-
The commands on the stored registers.

* `Registers.show`: prints them;
* `Registers.set`: sets one;
* `Registers.reset`: makes all of them zero.
-/
import RegisterMachine.Command.Run
import RegisterMachine.Yaml.Printer

namespace RegisterMachine.Registers

/-- How registers are printed. -/
inductive Format where
  | table
  | yaml
deriving DecidableEq, Repr

/-- The format with a given name. -/
def Format.ofName? (s : Bytes) : Option Format :=
  if s = utf8 "table" then some .table
  else if s = utf8 "yaml" then some .yaml
  else none

/-- A word in base sixteen. -/
def hexadecimalWord (v : Word) : Bytes :=
  utf8 "0x" ++ hexadecimalCapital 8 v.toNat

/-- The registers of a bank, with their indices. -/
def rows (b : Bank) : List (Nat × Word) :=
  b.toList.zipIdx.map fun (v, i) => (i, v)

/-- A row of the table: name, value, and value in base sixteen. -/
def tableRow (p : Palette) (i : Nat) (v : Word) : Bytes :=
  p.green (Bytes.padRight 32 4 (Register.name i)) ++ 32 ::
    p.green (Bytes.padLeft 32 10 (decimal v.toNat)) ++ 32 ::
    p.magenta (hexadecimalWord v) ++ newline

/-- The table of a bank. -/
def table (p : Palette) (b : Bank) : Bytes :=
  (rows b).flatMap fun (i, v) => tableRow p i v

/-- An entry of the list of registers. -/
def yamlEntry (i : Nat) (v : Word) : Bytes :=
  utf8 "  - name: " ++ Yaml.renderText (Register.name i)
    ++ utf8 "    value: " ++ decimal v.toNat ++ newline
    ++ utf8 "    hex: " ++ Yaml.renderText (hexadecimalWord v)

/-- The document of a bank and the directory it is stored in. -/
def yaml (directory : Bytes) (b : Bank) : Bytes :=
  utf8 "directory: " ++ Yaml.renderText directory ++ utf8 "registers:" ++ newline
    ++ (rows b).flatMap fun (i, v) => yamlEntry i v

/-- A bank in a format. -/
def render (p : Palette) (directory : Bytes) (b : Bank) : Format → Bytes
  | .table => table p b
  | .yaml => yaml directory b

/-- Prints the stored registers. -/
def «show» (settings : Settings) (format : Bytes) : Act := fun w =>
  match Run.palette settings with
  | .error e => (.error e, w)
  | .ok p =>
    match Run.load settings.registersDirectory w with
    | (.error e, w) => (.error e, w)
    | (.ok b, w) =>
      match Format.ofName? format with
      | none => (.error (.format format), w)
      | some f => (.ok (), w.print (render p settings.registersDirectory b f))

/-- The record of a register that was set. -/
def updatedRecord (token : Bytes) (value : Nat) : Log.Record where
  severity := .info
  message := utf8 "register updated"
  attributes := [(utf8 "register", .text token), (utf8 "value", .number value)]

/-- The register and the value that two words name. -/
def assignment (token text : Bytes) : Except CommandError (Int × Nat) :=
  match Register.parse token with
  | .error cause => .error (.register cause)
  | .ok i =>
    match Numeral.readNatural .literal 32 text with
    | .error e => .error (.registerValue text e)
    | .ok n => .ok (i, n)

/-- Stores a value in a register. -/
def store (settings : Settings) (token : Bytes) (i : Int) (n : Nat) : Act := fun w =>
  match Run.load settings.registersDirectory w with
  | (.error e, w) => (.error e, w)
  | (.ok b, w) =>
    match b.set i (BitVec.ofNat 64 n) with
    | .error cause => (.error (.register cause), w)
    | .ok b =>
      match Run.save settings.registersDirectory b w with
      | ([], w) => (.ok (), w.log (updatedRecord token n))
      | (errors, w) => (.error (.store errors), w)

/-- Sets the register that one word names to the value that another names. -/
def set (settings : Settings) (token text : Bytes) : Act := fun w =>
  match assignment token text with
  | .error e => (.error e, w)
  | .ok (i, n) => store settings token i n w

/-- The record of registers that were made zero. -/
def resetRecord (directory : Bytes) : Log.Record where
  severity := .info
  message := utf8 "registers reset"
  attributes := [(utf8 "directory", .text directory)]

/-- Removes the files of all registers. -/
def reset (settings : Settings) : Act := fun w =>
  match Store.clear settings.registersDirectory w.files with
  | ([], files) =>
    (.ok (), (w.withFiles files).log (resetRecord settings.registersDirectory))
  | (errors, files) => (.error (.store errors), w.withFiles files)

end RegisterMachine.Registers
