/-
The file of a single register.

* `Slot.encode` / `Slot.decode`: a word as four bytes, the most significant
  first;
* `Slot.path`: where the file of a register is kept;
* `Slot.scratch`: where it is written before it takes its place;
* `Slot.read` / `Slot.write`: reading the word of a register, and replacing it
  in one step.
-/
import RegisterMachine.Bank
import RegisterMachine.FileSystem.Change
import RegisterMachine.Word

namespace RegisterMachine

/-- Why registers could not be read or written. -/
inductive StoreError where
  /-- A file operation failed. -/
  | file (e : FileError)
  /-- The file of a register does not hold four bytes. -/
  | malformedSlot (path : Option Bytes) (size : Nat)
  /-- The directory could not be made. -/
  | directory (path : Bytes) (e : FileError)
deriving DecidableEq, Repr

namespace Slot

/-- The number of bytes of a word. -/
def size : Nat := 4

/-- The mode of the file of a register. -/
def mode : Nat := 0o644

/-- A word as four bytes, the most significant first. -/
def encode (v : Word) : Bytes :=
  [(v >>> 24).toNat.toUInt8, (v >>> 16).toNat.toUInt8, (v >>> 8).toNat.toUInt8, v.toNat.toUInt8]

/-- The word that four bytes stand for. -/
def decode : Bytes → Except StoreError Word
  | [a, b, c, d] =>
    .ok (BitVec.ofNat 32 (((a.toNat * 256 + b.toNat) * 256 + c.toNat) * 256 + d.toNat))
  | data => .error (.malformedSlot none data.length)

/-- The name of the file of a register. -/
def fileName (i : Int) : Bytes :=
  Register.name i ++ utf8 ".bin"

/-- The path of the file of a register. -/
def path (directory : Bytes) (i : Int) : Bytes :=
  Path.join directory (fileName i)

/-- The path under which the file of a register is written before it takes its
place. -/
def scratch (directory : Bytes) (i : Int) : Bytes :=
  path directory i ++ utf8 ".tmp"

/-- The word of a register.  A missing file stands for zero. -/
def read (directory : Bytes) (i : Int) (fs : FileSystem) :
    Except StoreError Word × FileSystem :=
  match fs.read (path directory i) with
  | (.error e, fs') => (if e.errno = .notFound then .ok 0#32 else .error (.file e), fs')
  | (.ok data, fs') =>
    match decode data with
    | .ok v => (.ok v, fs')
    | .error _ => (.error (.malformedSlot (some (path directory i)) data.length), fs')

/-- Writes the word of a register beside its file and then moves it into place. -/
def write (directory : Bytes) (i : Int) (v : Word) (fs : FileSystem) :
    Except StoreError Unit × FileSystem :=
  match fs.write mode (scratch directory i) (encode v) with
  | (.error e, fs') => (.error (.file e), fs')
  | (.ok (), fs') =>
    match fs'.rename (scratch directory i) (path directory i) with
    | (.error e, fs'') => (.error (.file e), (fs''.remove (scratch directory i)).2)
    | (.ok (), fs'') => (.ok (), fs'')

end Slot

namespace StoreError

/-- The wording of an error. -/
def message : StoreError → Bytes
  | .file e => e.message
  | .malformedSlot path n =>
    (match path with
      | some p => p ++ utf8 ": "
      | none => [])
      ++ utf8 "malformed register slot: expected " ++ decimal Slot.size ++ utf8 " bytes, got "
      ++ decimal n
  | .directory path e =>
    utf8 "could not create register directory '" ++ path ++ utf8 "': " ++ e.message

/-- The wording of several errors, each on a line of its own. -/
def joined (errors : List StoreError) : Bytes :=
  Bytes.joined newline (errors.map message)

end StoreError

end RegisterMachine
