/-
One run of the program, from its words to its status.

* `Documentation.show`: prints the text on a topic of the manual, or writes it
  to a file;
* `Invocation.perform`: what the program does when it is called with words;
* `Outcome`: its status, its error and what it printed.
-/
import RegisterMachine.Command.Password
import RegisterMachine.Command.Registers
import RegisterMachine.CommandLine.Help

namespace RegisterMachine

namespace Documentation

/-- The mode of the file. -/
def mode : Nat := 0o666

/-- The text on a topic as it is printed. -/
def page (t : Manual.Topic) : Bytes :=
  Manual.text t ++ newline

/-- Writes a page to a file.  It is told when the file cannot be made, and not
when it cannot be written. -/
def write (path content : Bytes) : Act := fun w =>
  match w.files.write mode path content with
  | (.error e, files) =>
    (if e.operation = .openToWrite then .error (.outputFile e) else .ok (), w.withFiles files)
  | (.ok (), files) => (.ok (), w.withFiles files)

/-- Prints the text on a topic, or writes it to a file where one is given. -/
def «show» (t : Manual.Topic) (path : Bytes) : Act := fun w =>
  if path.isEmpty then (.ok (), w.print (page t))
  else write path (page t) w

end Documentation

/-- The end of a run of the program. -/
structure Outcome where
  error : Option CommandError
  output : Bytes
  errors : Bytes
  files : FileSystem

/-- The status the program ends with. -/
def Outcome.status (o : Outcome) : Nat :=
  (o.error.map CommandError.exitCode).getD 0

namespace Invocation

/-- A single word that names a file is the program to run, even where it is
also the name of a command. -/
def words (ws : List Bytes) (fs : FileSystem) : List Bytes × FileSystem :=
  match ws with
  | [w] =>
    if w.head? == some 45 then ([w], fs)
    else
      match fs.isDirectory w with
      | (.ok false, fs') => ([utf8 "--", w], fs')
      | (_, fs') => ([w], fs')
  | _ => (ws, fs)

/-- The mode of the log file. -/
def logMode : Nat := 0o644

/-- Opens the log file that the settings ask for. -/
def openLog (settings : Settings) (w : World) : Except CommandError Unit × World :=
  if settings.logFile.isEmpty then (.ok (), w)
  else
    match w.files.openAppender logMode settings.logFile with
    | (.ok (), files) => (.ok (), w.withFiles files)
    | (.error e, files) => (.error (.logFile e), w.withFiles files)

/-- The record of a command that starts. -/
def startedRecord (c : Command) (ws : List Bytes) : Log.Record where
  severity := .debug
  message := utf8 "command started"
  attributes := [(utf8 "command", .text c.path), (utf8 "args", .texts ws)]

/-- The record on the file with the settings, if there is anything to say. -/
def settingsRecord? (file : Settings.File) : Option Log.Record :=
  match file.problem, file.used with
  | some p, _ => some
      { severity := .warn
        message := utf8 "could not read config file"
        attributes := [(utf8 "error", .text p.message)] }
  | none, some path => some
      { severity := .debug
        message := utf8 "using config file"
        attributes := [(utf8 "path", .text path)] }
  | none, none => none

/-- Sets up logging as the settings ask, and logs that the command starts. -/
def setUpLogging (settings : Settings) (file : Settings.File) (c : Command) (ws : List Bytes) :
    Act := fun w =>
  match Log.readLevel (Blank.trim settings.logLevel) with
  | .error e => (.error (.logLevel settings.logLevel e), w)
  | .ok level =>
    match openLog settings w with
    | (.error e, w) => (.error e, w)
    | (.ok (), w) =>
      let w := { w with threshold := some level }.log (startedRecord c ws)
      (.ok (), ((settingsRecord? file).map w.log).getD w)

/-- Does what a command is for. -/
def runCommand (s : Surroundings) (settings : Settings) (flags : Flag.Parsed) (c : Command) :
    Act := fun w =>
  match c, flags.words with
  | .run, [path] => Run.perform settings path w
  | .registersShow, _ => Registers.show settings (flags.value .format) w
  | .registersSet, [token, text] => Registers.set settings token text w
  | .registersReset, _ => Registers.reset settings w
  | .passwdCheck, _ => Password.check settings s.input w
  | .passwdHash, _ =>
    let cost := (Numeral.readInteger .literal (flags.value .cost)).toOption.getD 0
    Password.store settings cost s.input s.salt w
  | .toolsDocs, [topic] =>
    match Manual.Topic.ofName? topic with
    | some t => Documentation.show t (flags.value .output) w
    | none => (.ok (), w)
  | .help, ws => (.ok (), w.print (Command.find ws).1.helpText)
  | _, _ => (.ok (), w)

/-- The variable that tells the home directory. -/
def homeVariable : Bytes := utf8 "HOME"

/-- Runs a command with its flags and words. -/
def execute (s : Surroundings) (flags : Flag.Parsed) (c : Command) : Act := fun w =>
  let home := s.environment.get homeVariable
  let (file, files) := Settings.File.load s.reader (flags.value .config) home w.files
  let w := w.withFiles files
  let settings := Settings.resolve s.display flags s.environment file.entries
  match c.checkArguments flags.words with
  | .error e => (.error (.argument e), w)
  | .ok () =>
    match setUpLogging settings file c flags.words w with
    | (.error e, w) => (.error e, w)
    | (.ok (), w) => runCommand s settings flags c w

/-- Finds the command that words name and runs it, or tells about it. -/
def dispatch (s : Surroundings) (ws : List Bytes) : Act := fun w =>
  let (c, rest) := Command.find ws
  match Flag.parse c.flags rest with
  | .error e => (.error (.flag e), w)
  | .ok flags =>
    if flags.wantsHelp || !c.isRunnable then (.ok (), w.print c.helpText)
    else execute s flags c w

/-- Tells about the error that a command ended with. -/
def finish (result : Except CommandError Unit) (w : World) : Outcome :=
  match result with
  | .ok () =>
    { error := none, output := w.output, errors := w.errors, files := w.files.closeAppender }
  | .error e =>
    { error := some e
      output := w.output ++ e.report.1
      errors := w.errors ++ e.report.2
      files := w.files.closeAppender }

/-- What the program does when it is called with words. -/
def perform (s : Surroundings) (ws : List Bytes) (fs : FileSystem) : Outcome :=
  let (ws, fs) := words ws fs
  let (result, w) := dispatch s ws { files := fs }
  finish result w

end Invocation

end RegisterMachine
