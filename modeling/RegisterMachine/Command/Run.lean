/-
Running a program.

* `Run.palette`: the colours that the settings ask for;
* `Run.deliver`: what becomes of the events of a run;
* `Run.perform`: reads a program, runs it on the stored bank and stores the
  bank.
-/
import RegisterMachine.Command.World
import RegisterMachine.Machine.Session

namespace RegisterMachine.Run

/-- The colours that the settings ask for.  By itself only a terminal has any,
and none are to be had where the user wants no colours at all. -/
def palette (settings : Settings) : Except CommandError Palette :=
  if settings.colour = utf8 "auto" ∨ settings.colour = [] then
    .ok (if settings.display = .terminal then .coloured else .plain)
  else if settings.colour = utf8 "never" then .ok .plain
  else if settings.colour = utf8 "always" then
    .ok (if settings.display = .colourless then .plain else .coloured)
  else .error (.colour settings.colour)

/-- Loads the bank that a directory holds. -/
def load (directory : Bytes) (w : World) : Except CommandError Bank × World :=
  let ((b, errors), files) := Store.load directory w.files
  let w := (w.withFiles files).log (Store.loadRecord directory b errors)
  (if errors.isEmpty then .ok b else .error (.load directory errors), w)

/-- Saves a bank in a directory, and lists the errors. -/
def save (directory : Bytes) (b : Bank) (w : World) : List StoreError × World :=
  let (saving, files) := Store.save directory b w.files
  let w := w.withFiles files
  (saving.errors, ((Store.saveRecord? directory b saving).map w.log).getD w)

/-- Gives an event of a run to the console, the log and the store; the errors
are those of the store. -/
def deliverEvent (p : Palette) (directory : Bytes) (e : Event) (w : World) :
    List StoreError × World :=
  let w := w.print (e.output p)
  let w := (e.record?.map w.log).getD w
  match e with
  | .save b => save directory b w
  | _ => ([], w)

/-- Gives the events of a run to the console, the log and the store. -/
def deliver (p : Palette) (directory : Bytes) : List Event → World → List StoreError × World
  | [], w => ([], w)
  | e :: rest, w =>
    let (errors, w) := deliverEvent p directory e w
    let (later, w) := deliver p directory rest w
    (errors ++ later, w)

/-- The record of a program that was read. -/
def loadedRecord (path : Bytes) (p : Program) : Log.Record where
  severity := .debug
  message := utf8 "program loaded"
  attributes := [(utf8 "path", .text path), (utf8 "lines", .number p.length)]

/-- The record of a program that has stopped. -/
def finishedRecord (path : Bytes) (m : Machine) : Log.Record where
  severity := .info
  message := utf8 "program finished"
  attributes := [(utf8 "path", .text path), (utf8 "state", .text m.state.name),
    (utf8 "executed", .number m.executed)]

/-- Runs a program on a bank and stores the bank. -/
def execute (settings : Settings) (colours : Palette) (path : Bytes) (p : Program) (b : Bank) :
    Act := fun w =>
  let (m, events) := ({ bank := b } : Machine).run p
  let (errors, w) := deliver colours settings.registersDirectory events w
  if errors.isEmpty then (.ok (), w.log (finishedRecord path m))
  else (.error (.persistence errors), w.log (persistenceRecord (StoreError.joined errors)))

/-- Reads the program at `path`, runs it on the stored bank and stores the
bank. -/
def perform (settings : Settings) (path : Bytes) : Act := fun w =>
  match palette settings with
  | .error e => (.error e, w)
  | .ok colours =>
    match Program.fetch path w.files with
    | (.error e, files) => (.error (.program e), w.withFiles files)
    | (.ok p, files) =>
      let w := (w.withFiles files).log (loadedRecord path p)
      match load settings.registersDirectory w with
      | (.error e, w) => (.error e, w)
      | (.ok b, w) => execute settings colours path p b w

end RegisterMachine.Run
