/-
Programs as lists of lines.

* `Program.parse`: a text cut into lines;
* `Program.line`: a line without the white space around it;
* `Program.fetch`: the program in a file;
* `Fault`: a line that cannot be decoded or executed, with what is wrong there.

Every line feed ends a line, together with one carriage return before it.  A
last line need not be ended.
-/
import RegisterMachine.Bank
import RegisterMachine.FileSystem.Change

namespace RegisterMachine

/-- The lines of a program, without their ends. -/
abbrev Program := List Bytes

namespace Program

/-- The texts between line feeds; a text that ends with a line feed has nothing
after it. -/
def segments (text : Bytes) : List Bytes :=
  let parts := text.splitOn 10
  if parts.getLast? = some [] then parts.dropLast else parts

/-- The lines of a text. -/
def parse (text : Bytes) : Program :=
  (segments text).map (Bytes.dropEnding [13])

/-- A line without the white space around it. -/
def line (p : Program) (i : Nat) : Bytes :=
  Blank.trim (p.getD i [])

/-- Why a program could not be read. -/
inductive ReadError where
  /-- The file could not be opened. -/
  | unopened (e : FileError)
  /-- The file at `path` could not be read. -/
  | unread (path : Bytes) (e : FileError)
deriving DecidableEq, Repr

/-- The file operation that failed. -/
def ReadError.cause : ReadError → FileError
  | .unopened e => e
  | .unread _ e => e

/-- The wording of an error. -/
def ReadError.message : ReadError → Bytes
  | .unopened e => utf8 "could not open program: " ++ e.message
  | .unread path e => utf8 "could not read program '" ++ path ++ utf8 "': " ++ e.message

/-- The program in a file. -/
def fetch (path : Bytes) (fs : FileSystem) : Except ReadError Program × FileSystem :=
  match fs.read path with
  | (.ok text, fs') => (.ok (parse text), fs')
  | (.error e, fs') =>
    (.error (if e.operation = .openToRead then .unopened e else .unread path e), fs')

end Program

/-- A line of a program that could not be decoded or executed. -/
structure Fault where
  /-- The number of the line, counted from one. -/
  line : Nat
  /-- The line without the white space around it. -/
  text : Bytes
  /-- What is wrong with it. -/
  causes : List Cause
deriving DecidableEq, Repr

/-- The report of a fault. -/
def Fault.message (f : Fault) : Bytes :=
  utf8 "ERROR at line " ++ decimal f.line ++ utf8 ": '" ++ f.text ++ utf8 "' -> "
    ++ Cause.joined f.causes

end RegisterMachine
