/-
The register bank as a directory of files.

* `Store.load`: the bank that a directory holds;
* `Store.save`: writes every register;
* `Store.clear`: removes the files of all registers.

All registers are tried whatever happens to the others, and the errors are
listed in the order of the registers.
-/
import RegisterMachine.Bank
import RegisterMachine.Log
import RegisterMachine.Slot

namespace RegisterMachine.Store

/-- The directory where none is given. -/
def defaultDirectory : Bytes := utf8 "registers/"

/-- The indices of the registers, in order. -/
def registers : List Nat :=
  List.range Register.count

/-- Reads the files of the given registers: a word for each, which is zero where
there was an error, and the errors. -/
def readAll (directory : Bytes) : List Nat → FileSystem →
    (List Word × List StoreError) × FileSystem
  | [], fs => (([], []), fs)
  | i :: rest, fs =>
    match Slot.read directory i fs with
    | (.ok v, fs') =>
      let ((words, errors), fs'') := readAll directory rest fs'
      ((v :: words, errors), fs'')
    | (.error e, fs') =>
      let ((words, errors), fs'') := readAll directory rest fs'
      ((0#32 :: words, e :: errors), fs'')

/-- The bank that a directory holds, and the errors met. -/
def load (directory : Bytes) (fs : FileSystem) : (Bank × List StoreError) × FileSystem :=
  let ((words, errors), fs') := readAll directory registers fs
  ((Bank.ofList words, errors), fs')

/-- Writes the files of the given registers, and lists the errors. -/
def writeAll (directory : Bytes) (b : Bank) : List Nat → FileSystem →
    List StoreError × FileSystem
  | [], fs => ([], fs)
  | i :: rest, fs =>
    match Slot.write directory i (b.toList.getD i 0#32) fs with
    | (.ok (), fs') => writeAll directory b rest fs'
    | (.error e, fs') =>
      let (errors, fs'') := writeAll directory b rest fs'
      (e :: errors, fs'')

/-- What a save did. -/
inductive Saving where
  /-- The directory could not be made, so nothing was written. -/
  | refused (e : StoreError)
  /-- Every register was tried, with these errors. -/
  | tried (errors : List StoreError)
deriving DecidableEq, Repr

/-- The errors of a save. -/
def Saving.errors : Saving → List StoreError
  | .refused e => [e]
  | .tried errors => errors

/-- Writes every register of the bank into the directory, which is made when it
is missing. -/
def save (directory : Bytes) (b : Bank) (fs : FileSystem) : Saving × FileSystem :=
  match fs.makeDirectories directory with
  | (.error e, fs') => (.refused (.directory directory e), fs')
  | (.ok (), fs') =>
    let (errors, fs'') := writeAll directory b registers fs'
    (.tried errors, fs'')

/-- Removes the files of the given registers, and lists the errors other than
missing files. -/
def removeAll (directory : Bytes) : List Nat → FileSystem → List StoreError × FileSystem
  | [], fs => ([], fs)
  | i :: rest, fs =>
    match fs.remove (Slot.path directory i) with
    | (.ok (), fs') => removeAll directory rest fs'
    | (.error e, fs') =>
      let (errors, fs'') := removeAll directory rest fs'
      (if e.errno = .notFound then errors else .file e :: errors, fs'')

/-- Removes the files of all registers. -/
def clear (directory : Bytes) (fs : FileSystem) : List StoreError × FileSystem :=
  removeAll directory registers fs

/-! ### Log records -/

/-- The record that names a directory, a bank and a number of errors. -/
def record (message directory : Bytes) (b : Bank) (errors : List StoreError) : Log.Record where
  severity := .debug
  message := message
  attributes := [(utf8 "directory", .text directory), (utf8 "registers", .text b.render),
    (utf8 "errors", .number errors.length)]

/-- The record of a bank that was loaded. -/
def loadRecord (directory : Bytes) (b : Bank) (errors : List StoreError) : Log.Record :=
  record (utf8 "registers loaded") directory b errors

/-- The record of a bank that was saved; there is none when the directory could
not be made. -/
def saveRecord? (directory : Bytes) (b : Bank) : Saving → Option Log.Record
  | .refused _ => none
  | .tried errors => some (record (utf8 "registers saved") directory b errors)

end RegisterMachine.Store
