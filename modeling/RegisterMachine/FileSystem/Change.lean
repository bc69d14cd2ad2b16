/-
Operations on files, and what they change.

* `FileSystem.read`, `FileSystem.write`, `FileSystem.rename`,
  `FileSystem.remove`, `FileSystem.makeDirectories`, `FileSystem.isDirectory`;
* `FileSystem.openAppender` / `FileSystem.append`: a file that stays open and
  whose writes go to its end, wherever it has been moved;
* `FileSystem.changes`: the places whose entries differ between two states, in
  the order of their paths.

Each operation returns its result and the file system afterwards.  A failure
that is due is met before anything else happens.
-/
import RegisterMachine.FileSystem.Basic

namespace RegisterMachine

namespace Failure

/-- The failure is met by `op` at `loc`. -/
def applies (f : Failure) (op : Operation) (loc : Location) : Bool :=
  f.operation = op && (f.place = none || f.place = some loc) && f.remaining ≠ some 0

/-- The failure has been met once more. -/
def met (f : Failure) : Failure :=
  { f with remaining := f.remaining.map (· - 1) }

/-- The first failure that `op` meets at `loc`, and the failures afterwards. -/
def take (op : Operation) (loc : Location) : List Failure → Option Errno × List Failure
  | [] => (none, [])
  | f :: rest =>
    if f.applies op loc then (some f.errno, f.met :: rest)
    else
      let (found, rest') := take op loc rest
      (found, f :: rest')

end Failure

namespace FileSystem

variable {α : Type}

/-- Performs `action` as the operation `op` at `path`, unless a failure is due. -/
def attempt (op : Operation) (path : Bytes) (target : Option Bytes)
    (action : FileSystem → Except Errno α × FileSystem) (fs : FileSystem) :
    Except FileError α × FileSystem :=
  let error := fun errno => FileError.mk op path target errno
  match Failure.take op (Path.resolve path) fs.failures with
  | (some errno, failures) => (.error (error errno), { fs with failures := failures })
  | (none, _) =>
    match action fs with
    | (.error errno, fs') => (.error (error errno), fs')
    | (.ok a, fs') => (.ok a, fs')

/-- The content of a file. -/
def read (path : Bytes) (fs : FileSystem) : Except FileError Bytes × FileSystem :=
  match attempt .openToRead path none (fun fs => (fs.locate path, fs)) fs with
  | (.error e, fs') => (.error e, fs')
  | (.ok entry, fs') =>
    attempt .read path none (fun fs =>
      match entry with
      | .file _ content => (.ok content, fs)
      | .directory => (.error .isDirectory, fs)) fs'

/-- The path leads to a directory. -/
def isDirectory (path : Bytes) (fs : FileSystem) : Except FileError Bool × FileSystem :=
  attempt .stat path none (fun fs =>
    match fs.locate path with
    | .error e => (.error e, fs)
    | .ok entry => (.ok (entry = .directory), fs)) fs

/-- Makes a file ready for writing and tells its place.  A missing file is
created with `mode`, and an existing one loses its content unless `keep` says
otherwise. -/
def prepare (mode : Nat) (keep : Bool) (path : Bytes) (fs : FileSystem) :
    Except Errno Location × FileSystem :=
  if path = [] then (.error .notFound, fs)
  else
    let loc := Path.resolve path
    match fs.get? loc with
    | some .directory => (.error .isDirectory, fs)
    | some (.file m _) => (.ok loc, if keep then fs else fs.put loc (.file m []))
    | none =>
      match fs.obstacle? loc with
      | some e => (.error e, fs)
      | none => (.ok loc, fs.put loc (.file mode []))

/-- The mode and the content of the file at a place, if there is one. -/
def file? (fs : FileSystem) (loc : Location) : Option (Nat × Bytes) :=
  match fs.get? loc with
  | some (.file m c) => some (m, c)
  | _ => none

/-- Replaces the content of the file at a place. -/
def setContent (fs : FileSystem) (loc : Location) (content : Bytes) : FileSystem :=
  match fs.file? loc with
  | some (m, _) => fs.put loc (.file m content)
  | none => fs

/-- Writes a file, which is created with `mode` when it is missing.  When the
writing fails, an empty file stays. -/
def write (mode : Nat) (path content : Bytes) (fs : FileSystem) :
    Except FileError Unit × FileSystem :=
  match attempt .openToWrite path none (prepare mode false path) fs with
  | (.error e, fs') => (.error e, fs')
  | (.ok loc, fs') =>
    attempt .write path none (fun fs => (.ok (), fs.setContent loc content)) fs'

/-- Makes a directory and all directories it lies in. -/
def makeDirectories (path : Bytes) (fs : FileSystem) : Except FileError Unit × FileSystem :=
  attempt .makeDirectory path none (fun fs =>
    if path = [] then (.error .notFound, fs)
    else
      let places := Path.prefixes (Path.resolve path)
      if places.any fun p => (fs.file? p).isSome then (.error .notDirectory, fs)
      else (.ok (), fs.fill places)) fs

/-- The file held open is no longer at any place when it was at `loc`. -/
def detach (loc : Location) (a : Appender) : Appender :=
  if a.place = some loc then { a with place := none } else a

/-- The file held open moves along from `source` to `target`. -/
def follow (source target : Location) (a : Appender) : Appender :=
  if a.place = some source then { a with place := some target } else detach target a

/-- Moves a file, in place of the file at the target. -/
def rename (source target : Bytes) (fs : FileSystem) : Except FileError Unit × FileSystem :=
  attempt .rename source (some target) (fun fs =>
    let a := Path.resolve source
    let b := Path.resolve target
    match fs.locate source with
    | .error e => (.error e, fs)
    | .ok .directory => (.error .isDirectory, fs)
    | .ok (.file m c) =>
      match fs.obstacle? b, fs.get? b with
      | some e, _ => (.error e, fs)
      | none, some .directory => (.error .alreadyExists, fs)
      | none, _ =>
        (.ok (), { (fs.erase a).put b (.file m c) with
          appender := fs.appender.map (follow a b) })) fs

/-- Removes a file or an empty directory. -/
def remove (path : Bytes) (fs : FileSystem) : Except FileError Unit × FileSystem :=
  attempt .remove path none (fun fs =>
    let loc := Path.resolve path
    match fs.locate path with
    | .error e => (.error e, fs)
    | .ok .directory =>
      if fs.occupied loc then (.error .notEmpty, fs) else (.ok (), fs.erase loc)
    | .ok (.file _ _) =>
      (.ok (), { fs.erase loc with appender := fs.appender.map (detach loc) })) fs

/-- Opens a file whose writes go to its end. -/
def openAppender (mode : Nat) (path : Bytes) (fs : FileSystem) :
    Except FileError Unit × FileSystem :=
  match attempt .openToWrite path none (prepare mode true path) fs with
  | (.error e, fs') => (.error e, fs')
  | (.ok loc, fs') => (.ok (), { fs' with appender := some ⟨path, some loc⟩ })

/-- Writes to the end of the file held open.  Nobody learns whether that
succeeds, and what is written to a file that is gone is lost. -/
def append (content : Bytes) (fs : FileSystem) : FileSystem :=
  match fs.appender with
  | none => fs
  | some a =>
    (attempt .write a.path none (fun fs =>
      match a.place with
      | none => (Except.ok (), fs)
      | some loc =>
        match fs.file? loc with
        | none => (.ok (), fs)
        | some (_, old) => (.ok (), fs.setContent loc (old ++ content))) fs).2

/-- No file is held open any more. -/
def closeAppender (fs : FileSystem) : FileSystem :=
  { fs with appender := none }

end FileSystem

/-- A difference at one place. -/
inductive Change where
  | madeDirectory (loc : Location)
  | wrote (loc : Location) (mode : Nat) (content : Bytes)
  | removed (loc : Location)
deriving DecidableEq, Repr

namespace FileSystem

/-- How a place differs in `after` from `before`. -/
def change? (before after : FileSystem) (loc : Location) : Option Change :=
  if before.get? loc = after.get? loc then none
  else match after.get? loc with
    | none => some (.removed loc)
    | some .directory => some (.madeDirectory loc)
    | some (.file m c) => some (.wrote loc m c)

/-- The places where something stands. -/
def places (fs : FileSystem) : List Location :=
  fs.entries.map Prod.fst

/-- The differences between two states, in the order of their paths. -/
def changes (before after : FileSystem) : List Change :=
  let all := before.places ++ after.places.filter fun l => !before.places.contains l
  let sorted := all.mergeSort fun a b => Bytes.before (Path.ofLocation a) (Path.ofLocation b)
  sorted.filterMap (change? before after)

end FileSystem

end RegisterMachine
