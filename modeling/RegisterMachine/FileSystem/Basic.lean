/-
Files and directories held in memory.

* `FileSystem`: entries by place, the failures that are due, and the file that
  is held open for appending;
* `FileSystem.get?` / `FileSystem.put` / `FileSystem.erase`: the entry at a
  place;
* `FileSystem.locate`: the entry a path leads to;
* `Errno`, `FileError`: why an operation failed.
-/
import RegisterMachine.FileSystem.Path

namespace RegisterMachine

/-- The reasons for which operations on files fail. -/
inductive Errno where
  | notFound
  | notDirectory
  | isDirectory
  | alreadyExists
  | notEmpty
  | accessDenied
  | notPermitted
  | inputOutput
  | noSpace
  | readOnly
deriving DecidableEq, Repr

/-- The wording of a reason. -/
def Errno.message : Errno → Bytes
  | .notFound => utf8 "no such file or directory"
  | .notDirectory => utf8 "not a directory"
  | .isDirectory => utf8 "is a directory"
  | .alreadyExists => utf8 "file exists"
  | .notEmpty => utf8 "directory not empty"
  | .accessDenied => utf8 "permission denied"
  | .notPermitted => utf8 "operation not permitted"
  | .inputOutput => utf8 "input/output error"
  | .noSpace => utf8 "no space left on device"
  | .readOnly => utf8 "read-only file system"

/-- The operations on files. -/
inductive Operation where
  /-- Opening a file or directory for reading. -/
  | openToRead
  /-- Opening a file for writing, which may create it. -/
  | openToWrite
  | read
  | write
  | makeDirectory
  | rename
  | remove
  | stat
deriving DecidableEq, Repr

/-- The word for an operation in messages. -/
def Operation.verb : Operation → Bytes
  | .openToRead => utf8 "open"
  | .openToWrite => utf8 "open"
  | .read => utf8 "read"
  | .write => utf8 "write"
  | .makeDirectory => utf8 "mkdir"
  | .rename => utf8 "rename"
  | .remove => utf8 "remove"
  | .stat => utf8 "stat"

/-- An operation that failed, with the paths as they were given. -/
structure FileError where
  operation : Operation
  path : Bytes
  /-- The second path of a renaming. -/
  target : Option Bytes := none
  errno : Errno
deriving DecidableEq, Repr

/-- The wording of an error. -/
def FileError.message (e : FileError) : Bytes :=
  Bytes.joined (utf8 " ") (e.operation.verb :: e.path :: e.target.toList) ++ utf8 ": "
    ++ e.errno.message

/-- What stands at a place. -/
inductive Entry where
  | file (mode : Nat) (content : Bytes)
  | directory
deriving DecidableEq, Repr

/-- A failure that an operation meets: at one place or at every place, and for
ever or a limited number of times. -/
structure Failure where
  operation : Operation
  /-- The place, or nothing for every place. -/
  place : Option Location
  errno : Errno
  /-- How often it is still met, when that is limited. -/
  remaining : Option Nat := none
deriving DecidableEq, Repr

/-- A file held open, whose writes go to its end. -/
structure Appender where
  /-- The path it was opened by. -/
  path : Bytes
  /-- Where the file is now, unless it was removed or replaced. -/
  place : Option Location
deriving DecidableEq, Repr

/-- Files and directories, the failures that are due, and the file that is held
open for appending. -/
structure FileSystem where
  /-- What stands at each place but the root, which is always a directory. -/
  entries : List (Location × Entry) := []
  failures : List Failure := []
  appender : Option Appender := none
deriving DecidableEq, Repr

namespace FileSystem

/-- What stands at a place. -/
def get? (fs : FileSystem) (loc : Location) : Option Entry :=
  if loc = [] then some .directory
  else (fs.entries.find? fun e => e.1 = loc).map Prod.snd

/-- Nothing stands at `loc` any more. -/
def erase (fs : FileSystem) (loc : Location) : FileSystem :=
  { fs with entries := fs.entries.filter fun e => e.1 ≠ loc }

/-- `entry` stands at `loc`. -/
def put (fs : FileSystem) (loc : Location) (entry : Entry) : FileSystem :=
  { fs with entries := (loc, entry) :: (fs.erase loc).entries }

/-- Why a place cannot be reached: the first entry on the way to it that is no
directory. -/
def obstacle? (fs : FileSystem) (loc : Location) : Option Errno :=
  (Path.parents loc).findSome? fun p =>
    match fs.get? p with
    | some .directory => none
    | some (.file _ _) => some .notDirectory
    | none => some .notFound

/-- The entry that a path leads to.  The empty path leads nowhere. -/
def locate (fs : FileSystem) (path : Bytes) : Except Errno Entry :=
  if path = [] then .error .notFound
  else match fs.obstacle? (Path.resolve path) with
    | some e => .error e
    | none =>
      match fs.get? (Path.resolve path) with
      | none => .error .notFound
      | some entry => .ok entry

/-- Makes directories of those places that hold nothing. -/
def fill (fs : FileSystem) (places : List Location) : FileSystem :=
  places.foldl (fun fs p => if fs.get? p = none then fs.put p .directory else fs) fs

/-- Something stands inside the directory at `loc`. -/
def occupied (fs : FileSystem) (loc : Location) : Bool :=
  fs.entries.any fun e => e.1 ≠ [] ∧ e.1.dropLast = loc

/-- A file system with a directory and all directories it lies in. -/
def withDirectory (fs : FileSystem) (path : Bytes) : FileSystem :=
  fs.fill (Path.prefixes (Path.resolve path))

/-- A file system with a file and all directories it lies in. -/
def withFile (fs : FileSystem) (mode : Nat) (path content : Bytes) : FileSystem :=
  let loc := Path.resolve path
  (fs.fill (Path.parents loc)).put loc (.file mode content)

end FileSystem

end RegisterMachine
