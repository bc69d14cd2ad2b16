/-
What the command line tells about itself.

* `Command.helpText`: the help on a command.
-/
import RegisterMachine.CommandLine.Command

namespace RegisterMachine.Command

/-! ### Descriptions -/

/-- What a command does, in one line. -/
def summary : Command → Bytes
  | .run => utf8 "A tiny register machine interpreter"
  | .help => utf8 "Help about any command"
  | .passwd => utf8 "Check passwords against the stored password hash"
  | .passwdCheck => utf8 "Prompt for a password and compare it against the stored hash"
  | .passwdHash => utf8 "Prompt for a password and store its hash in the hash file"
  | .registers => utf8 "Inspect and edit the persisted registers"
  | .registersReset => utf8 "Remove all register files, setting every register to zero"
  | .registersSet =>
    utf8 "Store a value (decimal, 0x hex, 0b binary or 0o octal) into a register"
  | .registersShow => utf8 "Print the persisted register values"
  | .tools => utf8 "cpx miscellaneous tools"
  | .toolsDocs => utf8 "Show cpx documentation"

/-- What a program run does. -/
def runDescription : Bytes := utf8 <|
  "cpx runs pseudo-assembly programs against a bank of 16 unsigned 32-bit registers.\n"
    ++ "\n"
    ++ "Registers are loaded from one file per register (x0.bin to x15.bin, 4 bytes big-endian)\n"
    ++ "before the program starts, and written back when it halts, fails or runs out of lines.\n"
    ++ "\n"
    ++ "Supported instructions:\n"
    ++ "  add dst src          dst <- dst + src\n"
    ++ "  sub dst src          dst <- dst - src\n"
    ++ "  sll src dst shift    dst <- src << (shift & 31)\n"
    ++ "  srl src dst shift    dst <- src >> (shift & 31)\n"
    ++ "  shw src              print src\n"
    ++ "  halt                 stop\n"
    ++ "\n"
    ++ "Example:\n"
    ++ "  cpx program.asm\n"
    ++ "  cpx --registers-dir state/ program.asm"

/-- What the commands on registers do. -/
def registersDescription : Bytes := utf8 <|
  "Reads and writes the register files used by cpx runs.\n"
    ++ "\n"
    ++ "Example:\n"
    ++ "  cpx registers show\n"
    ++ "  cpx registers show --format yaml\n"
    ++ "  cpx registers set x1 0x80000000\n"
    ++ "  cpx registers reset"

/-- What checking a password does. -/
def checkDescription : Bytes := utf8 <|
  "Prompts for a password and compares it against the bcrypt hash stored in the hash file.\n"
    ++ "\n"
    ++ "Prints \"correct\" and exits with status 0 on a match, prints \"incorrect\" and exits with"
    ++ " status 1 otherwise.\n"
    ++ "When stdin is not a terminal the password is read from its first line."

/-- What showing the manual does. -/
def docsDescription : Bytes :=
  utf8 "Dumps the documentation of the specified cpx module.\n"
    ++ utf8 "By default the tool dumps the documentation to stdout, but it can be redirected to"
    ++ utf8 " a file using the --output flag.\n"
    ++ utf8 "\n"
    ++ utf8 "Supported modules:\n"
    ++ Bytes.joined newline (Manual.Topic.all.map fun t => utf8 "  " ++ t.name)

/-- What asking for help does. -/
def helpDescription : Bytes := utf8 <|
  "Help provides help for any command in the application.\n"
    ++ "Simply type cpx help [path to command] for full details."

/-- What a command does, in full. -/
def description : Command → Bytes
  | .run => runDescription
  | .help => helpDescription
  | .passwdCheck => checkDescription
  | .registers => registersDescription
  | .toolsDocs => docsDescription
  | c => c.summary

/-! ### Tables of flags -/

/-- What a flag is for. -/
def flagUsage (c : Command) : Flag → Bytes
  | .color => utf8 "Colorize output (auto, always, never)"
  | .config => utf8 "config file (default is $HOME/.cpx.yaml)"
  | .cost => utf8 "bcrypt cost factor"
  | .format => utf8 "Output format (table, yaml)"
  | .hashFile => utf8 "File holding the bcrypt password hash"
  | .help => utf8 "help for " ++ c.name
  | .logFile => utf8 "Also write debug level JSON logs to this file"
  | .logLevel => utf8 "Log level written to stderr (debug, info, warn, error)"
  | .output =>
    utf8 "Output file. If not specified, the documentation is dumped to stdout."
  | .registersDir => utf8 "Directory holding the register files"

/-- The name of a flag with its letter and the kind of its value. -/
def flagColumn (f : Flag) : Bytes :=
  (match f.letter? with
    | some l => utf8 "  -" ++ l :: utf8 ", --"
    | none => utf8 "      --")
    ++ f.name
    ++ match f.kind with
      | .text => utf8 " string"
      | .number => utf8 " int"
      | .switch => []

/-- The default of a flag, where it is told. -/
def flagDefault (f : Flag) : Bytes :=
  match f.kind with
  | .text =>
    if f.default.isEmpty then [] else utf8 " (default " ++ Quoted.double f.default ++ utf8 ")"
  | .number => utf8 " (default " ++ f.default ++ utf8 ")"
  | .switch => []

/-- A line for each flag, with what the flags are for in one column. -/
def flagTable (c : Command) (fs : List Flag) : List Bytes :=
  let width := (fs.map fun f => (flagColumn f).length).foldl max 0
  fs.map fun f =>
    Bytes.padRight 32 (width + 3) (flagColumn f) ++ c.flagUsage f ++ flagDefault f

/-- Flags in the order of their names. -/
def sorted (fs : List Flag) : List Flag :=
  fs.mergeSort fun a b => Bytes.before a.name b.name

/-! ### The help text -/

/-- The lines on how a command is written. -/
def usageBlock (c : Command) : List Bytes :=
  utf8 "Usage:"
    :: (if c.isRunnable then [utf8 "  " ++ c.path ++ c.synopsis ++ utf8 " [flags]"] else [])
    ++ (if c.children.isEmpty then [] else [utf8 "  " ++ c.path ++ utf8 " [command]"])

/-- The lines on the commands below a command. -/
def childrenBlock (c : Command) : List Bytes :=
  if c.children.isEmpty then []
  else utf8 "Available Commands:" :: c.children.map fun child =>
    utf8 "  " ++ Bytes.padRight 32 11 child.name ++ utf8 " " ++ child.summary

/-- The lines on the flags that are told for the command itself. -/
def flagsBlock (c : Command) : List Bytes :=
  let fs := c.ownFlags ++ [.help] ++ if c = .run then Flag.shared else []
  utf8 "Flags:" :: c.flagTable (sorted fs)

/-- The lines on the flags that a command has in common with others. -/
def sharedFlagsBlock (c : Command) : List Bytes :=
  if c = .run then [] else utf8 "Global Flags:" :: c.flagTable (sorted Flag.shared)

/-- The line on more help. -/
def moreBlock (c : Command) : List Bytes :=
  if c.children.isEmpty then []
  else [utf8 "Use \"" ++ c.path
    ++ utf8 " [command] --help\" for more information about a command."]

/-- The help on a command: blocks of lines with an empty line between them. -/
def helpText (c : Command) : Bytes :=
  let blocks := [[c.description], c.usageBlock, c.childrenBlock, c.flagsBlock, c.sharedFlagsBlock,
    c.moreBlock].filter (!·.isEmpty)
  Bytes.joined (newline ++ newline) (blocks.map (Bytes.joined newline)) ++ newline

end RegisterMachine.Command
