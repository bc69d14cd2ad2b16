/-
The settings of a command.

* `Setting`: the settings there are;
* `Display`: what is known about the output before any setting;
* `Settings`: the values of the settings;
* `Settings.resolve`: the values from flags, the environment and a document.
-/
import RegisterMachine.CommandLine.Flag
import RegisterMachine.Settings.File

namespace RegisterMachine

/-- A setting. -/
inductive Setting where
  | registersDirectory
  | logLevel
  | logFile
  | hashFile
  | colour
deriving DecidableEq, Repr

namespace Setting

/-- The flag of a setting. -/
def flag : Setting → Flag
  | .registersDirectory => .registersDir
  | .logLevel => .logLevel
  | .logFile => .logFile
  | .hashFile => .hashFile
  | .colour => .color

/-- The group of a setting, if it is in one, and its name. -/
def key : Setting → Option Bytes × Bytes
  | .registersDirectory => (some (utf8 "registers"), utf8 "dir")
  | .logLevel => (some (utf8 "log"), utf8 "level")
  | .logFile => (some (utf8 "log"), utf8 "file")
  | .hashFile => (some (utf8 "passwd"), utf8 "file")
  | .colour => (none, utf8 "color")

/-- All settings. -/
def all : List Setting :=
  [.registersDirectory, .logLevel, .logFile, .hashFile, .colour]

end Setting

/-- The variables of the environment. -/
abbrev Variables := List (Bytes × Bytes)

namespace Variables

/-- The value of a variable, which is empty when it is not set. -/
def get (vs : Variables) (name : Bytes) : Bytes :=
  (vs.lookup name).getD []

/-- The variable for a name: its words in capital letters, after the name of
the program. -/
def nameOf (words : List Bytes) : Bytes :=
  Bytes.joined (utf8 "_") ((utf8 "cpx" :: words).map fun w =>
    w.map fun c => if 97 ≤ c ∧ c ≤ 122 then c - 32 else c)

/-- The value of a variable that is set and not empty. -/
def set? (vs : Variables) (words : List Bytes) : Option Bytes :=
  let v := vs.get (nameOf words)
  if v.isEmpty then none else some v

end Variables

/-- The variables that bear on a setting: its own, and that of its group. -/
def Setting.variableNames (s : Setting) : List Bytes :=
  match s.key with
  | (none, name) => [Variables.nameOf [name]]
  | (some group, name) => [Variables.nameOf [group, name], Variables.nameOf [group]]

/-- What stands at the output. -/
inductive Display where
  /-- A file, or a terminal without colours. -/
  | file
  /-- A terminal with colours. -/
  | terminal
  /-- Anything, after the user has asked for no colours at all. -/
  | colourless
deriving DecidableEq, Repr

namespace Display

/-- The variable that asks for no colours at all. -/
def colourlessVariable : Bytes := utf8 "NO_COLOR"

/-- The variable that names the kind of terminal. -/
def terminalVariable : Bytes := utf8 "TERM"

/-- The display, told by the environment and by whether the output is a
terminal. -/
def ofVariables (isTerminal : Bool) (vs : Variables) : Display :=
  if vs.get colourlessVariable ≠ [] then .colourless
  else if isTerminal ∧ vs.get terminalVariable ≠ utf8 "dumb" then .terminal
  else .file

end Display

/-- The values of the settings, and the display they are about. -/
structure Settings where
  registersDirectory : Bytes
  logLevel : Bytes
  logFile : Bytes
  hashFile : Bytes
  colour : Bytes
  display : Display := .file
deriving DecidableEq, Repr

namespace Settings

/-- What the environment says about a setting.  A variable for the whole group
hides the settings in it, as if they were empty. -/
def ofVariables? (vs : Variables) (s : Setting) : Option Bytes :=
  match s.key with
  | (none, name) => vs.set? [name]
  | (some group, name) =>
    match vs.set? [group, name] with
    | some v => some v
    | none => (vs.set? [group]).map fun _ => []

/-- What a document says about a setting. -/
def ofDocument? (entries : List (Bytes × Document)) (s : Setting) : Option Bytes :=
  match s.key with
  | (none, name) => (Document.get? name entries).text?
  | (some group, name) => Document.lookup entries group name

/-- The value of a setting: of its flag if that is given, else from the
environment, else from the document, else the default. -/
def value (flags : Flag.Parsed) (vs : Variables) (entries : List (Bytes × Document))
    (s : Setting) : Bytes :=
  (((flags.given? s.flag).or (ofVariables? vs s)).or (ofDocument? entries s)).getD s.flag.default

/-- The values of all settings. -/
def resolve (display : Display) (flags : Flag.Parsed) (vs : Variables)
    (entries : List (Bytes × Document)) : Settings where
  registersDirectory := value flags vs entries .registersDirectory
  logLevel := value flags vs entries .logLevel
  logFile := value flags vs entries .logFile
  hashFile := value flags vs entries .hashFile
  colour := value flags vs entries .colour
  display := display

end Settings

end RegisterMachine
