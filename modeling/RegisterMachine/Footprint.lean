/-
Which paths a run of the program can look at.

* `Footprint.paths`: those paths, as far as the files seen so far tell;
* `Footprint.readsInput`: whether the run reads its input;
* `Finding`: what was found at a path, and `Finding.enter`, which enters it
  into a file system.
-/
import RegisterMachine.Invocation

namespace RegisterMachine

/-- What was found at a path. -/
inductive Finding where
  | nothing
  | directory
  | file (content : Bytes)
  | failure (e : Errno)
deriving DecidableEq, Repr

namespace Finding

/-- The mode that files found are given, which no run can observe. -/
def mode : Nat := 0o644

/-- Enters what was found at a path into a file system. -/
def enter (path : Bytes) (fs : FileSystem) : Finding → FileSystem
  | .nothing => fs
  | .directory => fs.withDirectory path
  | .file content => fs.withFile mode path content
  | .failure e =>
    let failure : Failure :=
      { operation := .openToRead, place := some (Path.resolve path), errno := e }
    { fs with failures := failure :: fs.failures }

end Finding

namespace Footprint

/-- A path and the paths of the directories that it lies in, as they are
spelled. -/
def withParents (path : Bytes) : List Bytes :=
  let cuts := (List.range path.length).filter fun i => path[i]? == some Path.separator
  (cuts.map path.take ++ [path]).filter (! ·.isEmpty)

/-- The files of all registers. -/
def slots (directory : Bytes) : List Bytes :=
  Store.registers.flatMap fun (i : Nat) => [Slot.path directory i, Slot.scratch directory i]

/-- The paths that a command itself looks at. -/
def ofCommand (settings : Settings) (flags : Flag.Parsed) : Command → List Bytes
  | .run => flags.words ++ settings.registersDirectory :: slots settings.registersDirectory
  | .registersShow | .registersSet | .registersReset =>
    settings.registersDirectory :: slots settings.registersDirectory
  | .passwdCheck | .passwdHash => [settings.hashFile]
  | .toolsDocs => [flags.value .output]
  | _ => []

/-- The paths that a run can look at, as far as the files seen so far tell: the
file with the settings names further ones. -/
def paths (s : Surroundings) (ws : List Bytes) (fs : FileSystem) : List Bytes :=
  let (ws', fs) := Invocation.words ws fs
  let (c, rest) := Command.find ws'
  match Flag.parse c.flags rest with
  | .error _ => []
  | .ok flags =>
    let given := flags.value .config
    let home := s.environment.get Invocation.homeVariable
    let file := (Settings.File.load s.reader given home fs).1
    let settings := Settings.resolve s.display flags s.environment file.entries
    (ws.take 1 ++ given :: Settings.File.candidates home
      ++ settings.logFile :: ofCommand settings flags c).flatMap withParents

/-- The run reads its input. -/
def readsInput (ws : List Bytes) (fs : FileSystem) : Bool :=
  match (Command.find (Invocation.words ws fs).1).1 with
  | .passwdCheck | .passwdHash => true
  | _ => false

/-- The names of the variables that a run looks at. -/
def variableNames : List Bytes :=
  Invocation.homeVariable :: Display.colourlessVariable :: Display.terminalVariable
    :: Setting.all.flatMap Setting.variableNames

end Footprint

end RegisterMachine
