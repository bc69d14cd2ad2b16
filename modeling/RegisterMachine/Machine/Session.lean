/-
A machine together with a store that takes or refuses its banks.

* `Session`: a machine and the answers that the coming saves will get;
* `Session.perform`: loading, stepping, running, or writing a register from
  outside;
* `Report`: what an action did and whether its save was refused.
-/
import RegisterMachine.Machine.Console

namespace RegisterMachine

/-- A machine and the answers of its store to the saves to come: a reason where
a save is refused.  When the answers are used up, saves succeed. -/
structure Session where
  machine : Machine
  answers : List (Option Bytes) := []
deriving DecidableEq, Repr

/-- What is done with a machine. -/
inductive Action where
  | load (p : Program)
  | step
  | run (p : Program)
  | set (register : Int) (value : BitVec 64)
deriving DecidableEq, Repr

/-- Why an action failed. -/
inductive ActionError where
  /-- There is no such register. -/
  | register (cause : Cause)
  /-- The store refused the bank. -/
  | persistence (reason : Bytes)
deriving DecidableEq, Repr

/-- The wording of an error. -/
def ActionError.message : ActionError → Bytes
  | .register cause => cause.message
  | .persistence reason => persistenceMessage reason

/-- What an action did. -/
structure Report where
  events : List Event := []
  error : Option ActionError := none
deriving DecidableEq, Repr

namespace Session

/-- The session with a new machine over a bank. -/
def start (b : Bank) (answers : List (Option Bytes)) : Session :=
  ⟨{ bank := b }, answers⟩

/-- Takes the next answer of the store. -/
def nextAnswer (s : Session) : Option Bytes × Session :=
  match s.answers with
  | [] => (none, s)
  | a :: rest => (a, { s with answers := rest })

/-- Gives the events to the store, which answers each save; the reason of the
last refusal is kept. -/
def deliver (s : Session) : List Event → Option Bytes × Session
  | [] => (none, s)
  | .save _ :: rest =>
    let (answer, s') := s.nextAnswer
    let (later, s'') := s'.deliver rest
    (later.or answer, s'')
  | _ :: rest => s.deliver rest

/-- Replaces the machine and gives its events to the store. -/
def advance (s : Session) (next : Machine × List Event) : Session × Report :=
  let (refusal, s') := { s with machine := next.1 }.deliver next.2
  (s', { events := next.2, error := refusal.map .persistence })

/-- Performs an action. -/
def perform (s : Session) : Action → Session × Report
  | .load p => ({ s with machine := s.machine.load p }, {})
  | .step => s.advance s.machine.step
  | .run p => s.advance (s.machine.run p)
  | .set i v =>
    match s.machine.bank.set i v with
    | .ok b => ({ s with machine := { s.machine with bank := b } }, {})
    | .error cause => (s, { error := some (.register cause) })

end Session

namespace Report

/-- The banks that were given to the store. -/
def saves (r : Report) : List Bank :=
  r.events.filterMap fun
    | .save b => some b
    | _ => none

/-- The registers that were shown, with their values. -/
def shown (r : Report) : List (Int × Word) :=
  r.events.filterMap fun
    | .shown i v => some (i, v)
    | _ => none

/-- What was printed. -/
def output (r : Report) : Bytes :=
  r.events.flatMap (Event.output .plain)

/-- The log records, the refusal of a save last. -/
def records (r : Report) : List Log.Record :=
  r.events.filterMap Event.record? ++
    match r.error with
    | some (.persistence reason) => [persistenceRecord reason]
    | _ => []

end Report

end RegisterMachine
