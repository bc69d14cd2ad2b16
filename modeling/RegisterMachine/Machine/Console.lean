/-
What a run shows and logs.

* `Event.output`: the text an event prints, in the colours of a palette;
* `Event.record?`: the log record of an event.
-/
import RegisterMachine.Log
import RegisterMachine.Machine

namespace RegisterMachine

/-- Whether what is printed is coloured. -/
inductive Palette where
  | plain
  | coloured
deriving DecidableEq, Repr

namespace Palette

/-- Starts and ends of terminal colours. -/
def paint (start ending : Bytes) (p : Palette) (s : Bytes) : Bytes :=
  match p with
  | .plain => s
  | .coloured => utf8 "\x1b[" ++ start ++ utf8 "m" ++ s ++ utf8 "\x1b[" ++ ending ++ utf8 "m"

/-- Values and register names are green. -/
def green : Palette → Bytes → Bytes :=
  paint (utf8 "32") (utf8 "0")

/-- Hexadecimal values are magenta. -/
def magenta : Palette → Bytes → Bytes :=
  paint (utf8 "35") (utf8 "0")

/-- Errors are red and bold. -/
def red : Palette → Bytes → Bytes :=
  paint (utf8 "31;1") (utf8 "0;22")

end Palette

namespace Event

/-- The line an event prints, if it prints one. -/
def output (p : Palette) : Event → Bytes
  | .shown _ v => p.green (decimal v.toNat) ++ newline
  | .faulted f => p.red f.message ++ newline
  | _ => []

/-- The log record of an event, if it has one. -/
def record? : Event → Option Log.Record
  | .executing line i => some {
      severity := .debug
      message := utf8 "executing instruction"
      attributes := [(utf8 "line", .number line), (utf8 "instruction", .text i.render)] }
  | .stopped s line executed => some {
      severity := .info
      message := utf8 "execution stopped"
      attributes := [(utf8 "state", .text s.name), (utf8 "line", .number line),
        (utf8 "executed", .number executed)] }
  | _ => none

end Event

/-- The wording of a refused save. -/
def persistenceMessage (reason : Bytes) : Bytes :=
  utf8 "could not persist registers: " ++ reason

/-- The log record of a refused save. -/
def persistenceRecord (reason : Bytes) : Log.Record where
  severity := .error
  message := utf8 "could not persist registers"
  attributes := [(utf8 "error", .text reason)]

end RegisterMachine
