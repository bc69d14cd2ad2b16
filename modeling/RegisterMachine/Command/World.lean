/-
What commands act on, and why they fail.

* `CommandError`: the reasons for a failure; `CommandError.message` is their
  wording and `CommandError.exitCode` the status the program ends with;
* `Surroundings`: the environment, the display, the input and random bytes;
* `World`: the files, and what has been printed so far;
* `World.log`: where a log record goes;
* `Act`: what a command does to the world.
-/
import RegisterMachine.CommandLine.Command
import RegisterMachine.Machine.Console
import RegisterMachine.Settings

namespace RegisterMachine

/-- Why a command failed. -/
inductive CommandError where
  | flag (e : Flag.Error)
  | argument (e : Command.ArgumentError)
  | logLevel (name : Bytes) (e : Log.LevelError)
  | logFile (e : FileError)
  | colour (mode : Bytes)
  | program (e : Program.ReadError)
  | load (directory : Bytes) (errors : List StoreError)
  /-- The bank could not be saved when the program stopped. -/
  | persistence (errors : List StoreError)
  /-- The bank could not be saved or cleared by a command on registers. -/
  | store (errors : List StoreError)
  | register (cause : Cause)
  | registerValue (text : Bytes) (e : Numeral.Error)
  | format (name : Bytes)
  | noPassword
  | password (e : PasswordError)
  /-- The password is not the stored one, which has been said already. -/
  | incorrectPassword
  | outputFile (e : FileError)
deriving DecidableEq, Repr

namespace CommandError

/-- The status the program ends with. -/
def exitCode : CommandError → Nat
  | .load .. => 2
  | .persistence _ => 3
  | .store _ => 3
  | _ => 1

/-- The wording of an error. -/
def message : CommandError → Bytes
  | .flag e => e.message
  | .argument e => e.message
  | .logLevel name e =>
    utf8 "invalid log level '" ++ name ++ utf8 "': " ++ e.message (Blank.trim name)
  | .logFile e => utf8 "could not open log file: " ++ e.message
  | .colour mode =>
    utf8 "invalid color mode '" ++ mode ++ utf8 "', expected auto, always or never"
  | .program e => e.message
  | .load directory errors =>
    utf8 "could not load registers from '" ++ directory ++ utf8 "': " ++ StoreError.joined errors
  | .persistence errors => persistenceMessage (StoreError.joined errors)
  | .store errors => StoreError.joined errors
  | .register cause => cause.message
  | .registerValue text e =>
    utf8 "invalid register value '" ++ text ++ utf8 "': "
      ++ e.message (utf8 "strconv.ParseUint") text
  | .format name => utf8 "unsupported format '" ++ name ++ utf8 "', expected table or yaml"
  | .noPassword => utf8 "could not read password: EOF"
  | .password e => e.message
  | .incorrectPassword => utf8 "exit status 1"
  | .outputFile e => utf8 "error creating file: " ++ e.message

/-- What is said about an error: the usage on the output, or the error on the
error output, or nothing where it has been said already. -/
def report (e : CommandError) : Bytes × Bytes :=
  match e with
  | .argument (.usage _) => (Command.usage ++ newline, [])
  | .incorrectPassword => ([], [])
  | e => ([], utf8 "Error: " ++ e.message ++ newline)

end CommandError

/-- What a command is given besides its words. -/
structure Surroundings where
  environment : Variables := []
  /-- What can be read from the input. -/
  input : Bytes := []
  /-- Random bytes for hashing a password. -/
  salt : Bytes := []
  /-- What stands at the output. -/
  display : Display := .file
  /-- What reads files with settings that are neither JSON nor YAML; such a file
  is empty unless a reader is given. -/
  reader : Settings.Reader := fun _ _ => .ok []

/-- The files, and what has been printed so far. -/
structure World where
  files : FileSystem
  output : Bytes := []
  errors : Bytes := []
  /-- The least level at which records are printed on the error output, once
  logging has been set up. -/
  threshold : Option Int := none

namespace World

/-- Prints on the output. -/
def print (s : Bytes) (w : World) : World :=
  { w with output := w.output ++ s }

/-- Prints on the error output. -/
def printError (s : Bytes) (w : World) : World :=
  { w with errors := w.errors ++ s }

/-- Logs a record: as a line on the error output if it is serious enough, and
as an object at the end of the log file if there is one. -/
def log (r : Log.Record) (w : World) : World :=
  match w.threshold with
  | none => w
  | some least =>
    let w := if least ≤ r.severity.level then w.printError r.line else w
    { w with files := w.files.append r.object }

/-- Replaces the files. -/
def withFiles (files : FileSystem) (w : World) : World :=
  { w with files }

end World

/-- What a command does to the world; the world is changed also where it
fails. -/
abbrev Act := World → Except CommandError Unit × World

end RegisterMachine
