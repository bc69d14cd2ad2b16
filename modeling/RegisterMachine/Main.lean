/-
The program.

* `main`: takes in the surroundings and the files that a run can look at, does
  the run, and carries its changes out.
-/
import RegisterMachine.FileSystem.Change
import RegisterMachine.Footprint

namespace RegisterMachine.Host

/-- Bytes as a text for the host. -/
def text (s : Bytes) : String :=
  (String.fromUTF8? ⟨s.toArray⟩).getD ""

/-- The reason that a number of the host stands for.  Some of its calls give
the number with the opposite sign. -/
def errno (code : UInt32) : Errno :=
  match (if code < 0x80000000 then code else 0 - code).toNat with
  | 1 => .notPermitted
  | 2 => .notFound
  | 13 => .accessDenied
  | 17 => .alreadyExists
  | 20 => .notDirectory
  | 21 => .isDirectory
  | 28 => .noSpace
  | 30 => .readOnly
  | 39 => .notEmpty
  | _ => .inputOutput

/-- What an error of the host says about a path. -/
def finding (e : IO.Error) : Finding :=
  let reason := match e with
    | .noFileOrDirectory _ c _ => errno c
    | .inappropriateType _ c _ => errno c
    | .permissionDenied _ c _ => errno c
    | _ => .inputOutput
  match reason with
  | .notFound | .notDirectory => .nothing
  | .isDirectory => .directory
  | r => .failure r

/-- Looks at a path. -/
def look (path : Bytes) : IO Finding := do
  try return .file (← IO.FS.readBinFile (text path)).data.toList
  catch e => return finding e

/-- Takes in what stands at the given paths. -/
def take (paths : List Bytes) : IO FileSystem :=
  paths.eraseDups.foldlM (fun fs path => return (← look path).enter path fs) {}

/-- The rights that three bits grant. -/
def rights (n : Nat) : IO.AccessRight where
  read := n.testBit 2
  write := n.testBit 1
  execution := n.testBit 0

/-- The mode with which the host makes files, less what it withholds. -/
def hostMode : Nat := 0o666

/-- Makes an empty file with the given mode. -/
def create (path : Bytes) (mode : Nat) : IO Unit := do
  IO.FS.writeBinFile (text path) .empty
  if mode ≠ hostMode then
    IO.setAccessRights (text path) ⟨rights (mode / 64), rights (mode / 8), rights mode⟩

/-- Carries a change out at its path, which is fresh when nothing stood there
before. -/
def carryOut (fresh : Bool) (path : Bytes) : Change → IO Unit
  | .madeDirectory _ => IO.FS.createDirAll (text path)
  | .removed _ => IO.FS.removeFile (text path)
  | .wrote _ mode content => do
    if fresh then create path mode
    IO.FS.writeBinFile (text path) ⟨content.toArray⟩

/-- Where a change happened. -/
def place : Change → Location
  | .madeDirectory loc => loc
  | .wrote loc _ _ => loc
  | .removed loc => loc

/-- The variables of the host that a run looks at. -/
def environment : IO Variables :=
  Footprint.variableNames.filterMapM fun name => do
    return (← IO.getEnv (text name)).map fun value => (name, utf8 value)

/-- Does a run on the host. -/
def run (ws : List Bytes) : IO Outcome := do
  let vs ← environment
  let s : Surroundings :=
    { environment := vs, display := .ofVariables (← (← IO.getStdout).isTty) vs }
  let seen ← take (Footprint.paths s ws {})
  let paths := Footprint.paths s ws seen
  let files ← take paths
  let input ← if Footprint.readsInput ws files then (← IO.getStdin).readBinToEnd else pure .empty
  let salt ← IO.getRandomBytes 16
  let outcome := Invocation.perform
    { s with input := input.data.toList, salt := salt.data.toList } ws files
  let spelling := paths.map fun p => (Path.resolve p, p)
  for change in files.changes outcome.files do
    let loc := place change
    let path := (spelling.lookup loc).getD (Path.ofLocation loc)
    carryOut (files.get? loc).isNone path change
  return outcome

end RegisterMachine.Host

/-- Runs the program. -/
def main (args : List String) : IO UInt32 := do
  let outcome ← RegisterMachine.Host.run (args.map RegisterMachine.utf8)
  (← IO.getStdout).write ⟨outcome.output.toArray⟩
  (← IO.getStderr).write ⟨outcome.errors.toArray⟩
  return outcome.status.toUInt32
