/-
The file with the settings.

* `Settings.File`: what was read from it;
* `Settings.File.load`: looks for the file and reads it.

JSON and YAML are read here.  What the other formats say is told by a
`Settings.Reader`, about which nothing is assumed.
-/
import RegisterMachine.FileSystem.Change
import RegisterMachine.Settings.Document

namespace RegisterMachine.Settings

/-- Why the file with the settings could not be read. -/
inductive FileProblem where
  | unreadable (e : FileError)
  /-- There is no format with that name. -/
  | unsupported (format : Bytes)
  | yaml (e : Yaml.Error)
  | json (e : Json.Error)
  /-- The reader of another format complains. -/
  | foreign (complaint : Bytes)
deriving DecidableEq, Repr

/-- The wording of a problem. -/
def FileProblem.message : FileProblem → Bytes
  | .unreadable e => e.message
  | .unsupported format => utf8 "Unsupported Config Type " ++ Quoted.double format
  | .yaml e => utf8 "While parsing config: " ++ e.message
  | .json e => utf8 "While parsing config: " ++ e.message
  | .foreign complaint => utf8 "While parsing config: " ++ complaint

/-- The formats by which a file is looked for and known. -/
inductive Format where
  | json
  | yaml
  /-- Another format, known by the ending of its files. -/
  | other (ending : Bytes)
deriving DecidableEq, Repr

/-- The endings of files with settings, in the order in which they are tried. -/
def endings : List Bytes :=
  ["json", "toml", "yaml", "yml", "properties", "props", "prop", "hcl", "tfvars", "dotenv",
    "env", "ini"].map utf8

/-- The format of the files with an ending. -/
def Format.ofEnding (ending : Bytes) : Format :=
  if ending = utf8 "json" then .json
  else if ending = utf8 "yaml" ∨ ending = utf8 "yml" then .yaml
  else .other ending

/-- A reader of the other formats: the entries of a text in the format with a
given ending, or a complaint. -/
abbrev Reader := Bytes → Bytes → Except Bytes (List (Bytes × Document))

/-- The entries of a document in a format. -/
def entriesOf (reader : Reader) (format : Format) (text : Bytes) :
    Except FileProblem (List (Bytes × Document)) :=
  match format with
  | .yaml => (Yaml.Value.parse text).map Document.ofYaml |>.mapError .yaml
  | .json => (Json.parse text >>= Json.table).map Document.ofJson |>.mapError .json
  | .other ending => (reader ending text).mapError .foreign

/-- What was read from the file with the settings. -/
structure File where
  entries : List (Bytes × Document) := []
  /-- The file that was read, if there is one. -/
  used : Option Bytes := none
  problem : Option FileProblem := none

namespace File

/-- Reads a file in the given format. -/
def read (reader : Reader) (format : Format) (path : Bytes) (fs : FileSystem) :
    File × FileSystem :=
  match fs.read path with
  | (.error e, fs') => ({ problem := some (.unreadable e) }, fs')
  | (.ok text, fs') =>
    match entriesOf reader format text with
    | .ok entries => ({ entries, used := some path }, fs')
    | .error p => ({ problem := some p }, fs')

/-- The format of a file, told by its ending. -/
def formatOf (path : Bytes) : Except FileProblem Format :=
  let ending := Path.extension path
  if ending ∈ endings then .ok (.ofEnding ending) else .error (.unsupported ending)

/-- The first of the given files that there is. -/
def search : List Bytes → FileSystem → Option Bytes × FileSystem
  | [], fs => (none, fs)
  | path :: rest, fs =>
    match fs.isDirectory path with
    | (.ok false, fs') => (some path, fs')
    | (_, fs') => search rest fs'

/-- The name of the file in the home directory, before its ending. -/
def homeName : Bytes := utf8 ".cpx"

/-- The files that are looked for in the home directory. -/
def candidates (home : Bytes) : List Bytes :=
  let home := Path.clean (if Path.rooted home then home else 47 :: home)
  endings.map (fun ending => Path.join home (homeName ++ 46 :: ending))
    ++ [Path.join home homeName]

/-- Looks for the file in the home directory, and reads it as YAML whatever its
ending is. -/
def loadHome (reader : Reader) (home : Bytes) (fs : FileSystem) : File × FileSystem :=
  if home.isEmpty then ({}, fs)
  else
    match search (candidates home) fs with
    | (some path, fs') => read reader .yaml path fs'
    | (none, fs') => ({}, fs')

/-- Reads the file that is given, or else the one in the home directory. -/
def load (reader : Reader) (given home : Bytes) (fs : FileSystem) : File × FileSystem :=
  if given.isEmpty then loadHome reader home fs
  else
    match formatOf given with
    | .ok format => read reader format given fs
    | .error p => ({ problem := some p }, fs)

end File

end RegisterMachine.Settings
