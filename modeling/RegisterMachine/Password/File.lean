/-
The file that holds a password hash.

* `PasswordFile.write`: stores the hash of a password;
* `PasswordFile.read`: the stored hash, without the white space around it;
* `PasswordFile.verify`: whether a password is the stored one.
-/
import RegisterMachine.FileSystem.Change
import RegisterMachine.Password.Hash
import RegisterMachine.Text.Utf8

namespace RegisterMachine

/-- Why a password could not be stored or checked. -/
inductive PasswordError where
  /-- The password cannot be hashed. -/
  | hash (e : HashError)
  /-- The hash could not be written. -/
  | file (e : FileError)
  /-- The hash could not be read. -/
  | unreadable (e : FileError)
  /-- The file holds only white space. -/
  | emptyHash (path : Bytes)
  /-- The file does not hold a hash. -/
  | invalidHash (path : Bytes) (e : HashError)
deriving DecidableEq, Repr

/-- The wording of an error. -/
def PasswordError.message : PasswordError → Bytes
  | .hash e => e.message
  | .file e => e.message
  | .unreadable e => utf8 "could not read password hash: " ++ e.message
  | .emptyHash path => utf8 "empty password hash: " ++ path
  | .invalidHash path e => utf8 "invalid password hash in " ++ path ++ utf8 ": " ++ e.message

namespace PasswordFile

/-- The file where none is given. -/
def defaultPath : Bytes := utf8 "pass.hash"

/-- The mode of the file. -/
def mode : Nat := 0o600

/-- The text of the hash of a password. -/
def hash (password : Bytes) (cost : Int) (salt : Bytes) : Except PasswordError Bytes :=
  match PasswordHash.make password cost salt with
  | .ok h => .ok h.render
  | .error e => .error (.hash e)

/-- Stores the hash of a password. -/
def write (path password : Bytes) (cost : Int) (salt : Bytes) (fs : FileSystem) :
    Except PasswordError Unit × FileSystem :=
  match hash password cost salt with
  | .error e => (.error e, fs)
  | .ok text =>
    match fs.write mode path text with
    | (.ok (), fs') => (.ok (), fs')
    | (.error e, fs') => (.error (.file e), fs')

/-- The stored text, without the white space around it. -/
def read (path : Bytes) (fs : FileSystem) : Except PasswordError Bytes × FileSystem :=
  match fs.read path with
  | (.error e, fs') => (.error (.unreadable e), fs')
  | (.ok data, fs') =>
    let text := Blank.trim data
    (if text.isEmpty then .error (.emptyHash path) else .ok text, fs')

/-- Whether a password has the hash with the given text, stored at `path`. -/
def check (path text password : Bytes) : Except PasswordError Bool :=
  match PasswordHash.parse text with
  | .error e => .error (.invalidHash path e)
  | .ok h =>
    match h.admits password with
    | .error e => .error (.invalidHash path e)
    | .ok b => .ok b

/-- Whether a password is the stored one. -/
def verify (path password : Bytes) (fs : FileSystem) : Except PasswordError Bool × FileSystem :=
  match read path fs with
  | (.error e, fs') => (.error e, fs')
  | (.ok text, fs') => (check path text password, fs')

end PasswordFile

end RegisterMachine
