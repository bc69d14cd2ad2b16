/-
The commands on the stored password.

* `Password.firstLine`: the password on the input;
* `Password.check`: compares it with the stored one;
* `Password.store`: stores it.
-/
import RegisterMachine.Command.World

namespace RegisterMachine.Password

/-- A carriage return or a line feed. -/
def isLineEnd (c : UInt8) : Bool :=
  c = 10 || c = 13

/-- The password on the input: its first line, without the line ends behind
it. -/
def firstLine (input : Bytes) : Except CommandError Bytes :=
  if input.isEmpty then .error .noPassword
  else .ok ((input.takeWhile (· ≠ 10)).reverse.dropWhile isLineEnd).reverse

/-- The record of a password that was checked. -/
def checkedRecord (path : Bytes) (isMatch : Bool) : Log.Record where
  severity := .info
  message := utf8 "password checked"
  attributes := [(utf8 "hash_file", .text path), (utf8 "match", .flag isMatch)]

/-- Compares the password on the input with the stored one. -/
def check (settings : Settings) (input : Bytes) : Act := fun w =>
  match firstLine input with
  | .error e => (.error e, w)
  | .ok password =>
    match PasswordFile.verify settings.hashFile password w.files with
    | (.error e, files) => (.error (.password e), w.withFiles files)
    | (.ok isMatch, files) =>
      let w := (w.withFiles files).log (checkedRecord settings.hashFile isMatch)
      if isMatch then (.ok (), w.print (utf8 "correct\n"))
      else (.error .incorrectPassword, w.print (utf8 "incorrect\n"))

/-- The record of a password that was stored. -/
def storedRecord (path : Bytes) (cost : Int) : Log.Record where
  severity := .info
  message := utf8 "password hash written"
  attributes := [(utf8 "hash_file", .text path), (utf8 "cost", .number cost)]

/-- Stores the password on the input. -/
def store (settings : Settings) (cost : Int) (input salt : Bytes) : Act := fun w =>
  match firstLine input with
  | .error e => (.error e, w)
  | .ok password =>
    match PasswordFile.write settings.hashFile password cost salt w.files with
    | (.error e, files) => (.error (.password e), w.withFiles files)
    | (.ok (), files) => (.ok (), (w.withFiles files).log (storedRecord settings.hashFile cost))

end RegisterMachine.Password
