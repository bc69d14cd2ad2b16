/-
The commands of the command line.

* `Command`: the commands there are, as a tree;
* `Command.find`: the command that words name, and the other words;
* `Command.checkArguments`: how many words a command takes, and which.
-/
import RegisterMachine.CommandLine.Flag
import RegisterMachine.Manual

namespace RegisterMachine

/-- A command.  The words by which a shell asks for completions are left out: here they
name programs, as all other words do. -/
inductive Command where
  /-- Runs a program. -/
  | run
  | help
  | passwd
  | passwdCheck
  | passwdHash
  | registers
  | registersReset
  | registersSet
  | registersShow
  | tools
  | toolsDocs
deriving DecidableEq, Repr

namespace Command

/-- The name of a command. -/
def name : Command → Bytes
  | .run => utf8 "cpx"
  | .help => utf8 "help"
  | .passwd => utf8 "passwd"
  | .passwdCheck => utf8 "check"
  | .passwdHash => utf8 "hash"
  | .registers => utf8 "registers"
  | .registersReset => utf8 "reset"
  | .registersSet => utf8 "set"
  | .registersShow => utf8 "show"
  | .tools => utf8 "tools"
  | .toolsDocs => utf8 "docs"

/-- The names of a command's words, as its usage shows them. -/
def synopsis : Command → Bytes
  | .run => utf8 " pseudo_assembly_file"
  | .help => utf8 " [command]"
  | .registersSet => utf8 " <register> <value>"
  | .toolsDocs => utf8 " module"
  | _ => []

/-- The commands below a command, in the order of their names. -/
def children : Command → List Command
  | .run => [.help, .passwd, .registers, .tools]
  | .passwd => [.passwdCheck, .passwdHash]
  | .registers => [.registersReset, .registersSet, .registersShow]
  | .tools => [.toolsDocs]
  | _ => []

/-- The command above a command. -/
def parent? : Command → Option Command
  | .run => none
  | .passwdCheck | .passwdHash => some .passwd
  | .registersReset | .registersSet | .registersShow => some .registers
  | .toolsDocs => some .tools
  | .help | .passwd | .registers | .tools => some .run

/-- The commands above a command, from the topmost on, and the command itself. -/
def line (c : Command) : List Command :=
  match c.parent? with
  | none => [c]
  | some .run => [.run, c]
  | some p => [.run, p, c]

/-- The names of the commands down to a command. -/
def path (c : Command) : Bytes :=
  Bytes.joined (utf8 " ") (c.line.map name)

/-- A command that does something, rather than group others. -/
def isRunnable : Command → Bool
  | .passwd | .registers | .tools => false
  | _ => true

/-- The flags that only this command takes. -/
def ownFlags : Command → List Flag
  | .passwdHash => [.cost]
  | .registersShow => [.format]
  | .toolsDocs => [.output]
  | _ => []

/-- All flags that a command takes. -/
def flags (c : Command) : List Flag :=
  c.ownFlags ++ .help :: Flag.shared

/-! ### Finding a command -/

/-- A word that takes the next one as its value: a name without a value, or a
single letter. -/
def takesNext (w : Bytes) : Bool :=
  match w with
  | 45 :: 45 :: _ :: _ => !w.contains 61
  | [45, l] => l ≠ 61
  | _ => false

/-- The first word that is neither a flag nor the value of one. -/
def firstWord? : List Bytes → Option Bytes
  | [] => none
  | w :: rest =>
    if w = utf8 "--" then none
    else if takesNext w then
      match rest with
      | _ :: next :: rest' => firstWord? (next :: rest')
      | _ => none
    else if w.isEmpty || w.head? == some 45 then firstWord? rest
    else some w

/-- The words without the first that is `x`, flags and their values apart. -/
def dropWord (x : Bytes) : List Bytes → List Bytes
  | [] => []
  | w :: rest =>
    if w = utf8 "--" then w :: rest
    else if takesNext w then
      match rest with
      | v :: rest' => w :: v :: dropWord x rest'
      | [] => [w]
    else if w.head? != some 45 && w = x then rest
    else w :: dropWord x rest

/-- The command below `c` that words name, and the other words; `depth` bounds
how far down it is looked for. -/
def findFrom (c : Command) : Nat → List Bytes → Command × List Bytes
  | 0, ws => (c, ws)
  | depth + 1, ws =>
    match firstWord? ws with
    | none => (c, ws)
    | some w =>
      match c.children.find? (·.name = w) with
      | none => (c, ws)
      | some child => findFrom child depth (dropWord w ws)

/-- The command that words name, and the other words. -/
def find (ws : List Bytes) : Command × List Bytes :=
  findFrom .run 3 ws

/-! ### The words of a command -/

/-- What is wrong with the words of a command. -/
inductive ArgumentError where
  /-- The command takes no words. -/
  | unexpected (word : Bytes) (c : Command)
  | count (expected received : Nat)
  /-- There is no such topic. -/
  | unknownTopic (word : Bytes) (c : Command)
  /-- A program is not run on one word. -/
  | usage (received : Nat)
deriving DecidableEq, Repr

/-- The usage of a program run. -/
def usage : Bytes :=
  utf8 "Usage: " ++ run.path ++ run.synopsis

/-- The report that a command takes another number of words. -/
def countMessage (expected received : Nat) : Bytes :=
  utf8 "accepts " ++ decimal expected ++ utf8 " arg(s), received " ++ decimal received

/-- The wording of an error. -/
def ArgumentError.message : ArgumentError → Bytes
  | .unexpected w c =>
    utf8 "unknown command " ++ Quoted.double w ++ utf8 " for " ++ Quoted.double c.path
  | .count expected received => countMessage expected received
  | .unknownTopic w c =>
    utf8 "invalid argument " ++ Quoted.double w ++ utf8 " for " ++ Quoted.double c.path
  | .usage received => countMessage 1 received ++ newline ++ Command.usage

/-- Checks the words of a command. -/
def checkArguments (c : Command) (ws : List Bytes) : Except ArgumentError Unit :=
  match c with
  | .run => if ws.length = 1 then .ok () else .error (.usage ws.length)
  | .registersSet => if ws.length = 2 then .ok () else .error (.count 2 ws.length)
  | .toolsDocs =>
    match ws.find? fun w => (Manual.Topic.ofName? w).isNone with
    | some w => .error (.unknownTopic w c)
    | none => if ws.length = 1 then .ok () else .error (.count 1 ws.length)
  | .passwdCheck | .passwdHash | .registersReset | .registersShow =>
    match ws with
    | [] => .ok ()
    | w :: _ => .error (.unexpected w c)
  | .help | .passwd | .registers | .tools => .ok ()

end Command

end RegisterMachine
