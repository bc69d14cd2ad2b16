/-
The flags of the command line.

* `Flag`: the flags there are, with their names, kinds and defaults;
* `Flag.Error`: what can be wrong with the flags of a command line;
* `Flag.parse`: the flags and the other words of a command line.
-/
import RegisterMachine.Numeral
import RegisterMachine.Password.File
import RegisterMachine.Store

namespace RegisterMachine

/-- A flag of the command line. -/
inductive Flag where
  | color
  | config
  | cost
  | format
  | hashFile
  | help
  | logFile
  | logLevel
  | output
  | registersDir
deriving DecidableEq, Repr

/-- What the value of a flag is. -/
inductive Flag.Kind where
  | text
  | number
  /-- A truth value, which is true when the flag stands alone. -/
  | switch
deriving DecidableEq, Repr

namespace Flag

/-- The name of a flag, which is written after two dashes. -/
def name : Flag → Bytes
  | .color => utf8 "color"
  | .config => utf8 "config"
  | .cost => utf8 "cost"
  | .format => utf8 "format"
  | .hashFile => utf8 "hash-file"
  | .help => utf8 "help"
  | .logFile => utf8 "log-file"
  | .logLevel => utf8 "log-level"
  | .output => utf8 "output"
  | .registersDir => utf8 "registers-dir"

/-- The letter of a flag, which is written after one dash. -/
def letter? : Flag → Option UInt8
  | .format => some 102
  | .help => some 104
  | .output => some 111
  | _ => none

/-- The kind of a flag. -/
def kind : Flag → Kind
  | .cost => .number
  | .help => .switch
  | _ => .text

/-- The value of a flag that is not given. -/
def default : Flag → Bytes
  | .color => utf8 "auto"
  | .cost => decimal PasswordHash.defaultCost
  | .format => utf8 "table"
  | .hashFile => PasswordFile.defaultPath
  | .help => utf8 "false"
  | .logLevel => utf8 "warn"
  | .registersDir => Store.defaultDirectory
  | _ => []

/-- The flags that every command takes. -/
def shared : List Flag :=
  [.color, .config, .hashFile, .logFile, .logLevel, .registersDir]

/-! ### Errors -/

/-- What is wrong with the flags of a command line. -/
inductive Error where
  | badSyntax (word : Bytes)
  | unknownName (name : Bytes)
  | missingValue (word : Bytes)
  /-- The letter is unknown; the letters from it on are told. -/
  | unknownLetter (letter : UInt8) (letters : Bytes)
  | missingValueOfLetter (letter : UInt8) (letters : Bytes)
  | invalidNumber (f : Flag) (value : Bytes) (e : Numeral.Error)
  | invalidSwitch (f : Flag) (value : Bytes)
deriving DecidableEq, Repr

/-- A flag as errors call it. -/
def display (f : Flag) : Bytes :=
  match f.letter? with
  | some l => utf8 "-" ++ l :: utf8 ", --" ++ f.name
  | none => utf8 "--" ++ f.name

/-- The start of the report that a value does not fit a flag. -/
def invalidValue (f : Flag) (value : Bytes) : Bytes :=
  utf8 "invalid argument " ++ Quoted.double value ++ utf8 " for " ++ Quoted.double f.display
    ++ utf8 " flag: "

/-- A letter in quotes. -/
def quotedLetter (l : UInt8) : Bytes :=
  Quoted.single (Char.ofNat l.toNat)

/-- The wording of an error. -/
def Error.message : Error → Bytes
  | .badSyntax word => utf8 "bad flag syntax: " ++ word
  | .unknownName name => utf8 "unknown flag: --" ++ name
  | .missingValue word => utf8 "flag needs an argument: " ++ word
  | .unknownLetter l ls =>
    utf8 "unknown shorthand flag: " ++ quotedLetter l ++ utf8 " in -" ++ ls
  | .missingValueOfLetter l ls =>
    utf8 "flag needs an argument: " ++ quotedLetter l ++ utf8 " in -" ++ ls
  | .invalidNumber f value e => f.invalidValue value ++ e.message (utf8 "strconv.ParseInt") value
  | .invalidSwitch f value =>
    f.invalidValue value ++ Numeral.Error.malformed.message (utf8 "strconv.ParseBool") value

/-! ### Parsing -/

/-- The words for a truth value. -/
def switchValue? (s : Bytes) : Option Bool :=
  if (["1", "t", "T", "TRUE", "true", "True"].map utf8).contains s then some true
  else if (["0", "f", "F", "FALSE", "false", "False"].map utf8).contains s then some false
  else none

/-- Checks that a value fits a flag. -/
def check (f : Flag) (value : Bytes) : Except Error Unit :=
  match f.kind with
  | .text => .ok ()
  | .number =>
    match Numeral.readInteger .literal value with
    | .ok _ => .ok ()
    | .error e => .error (.invalidNumber f value e)
  | .switch => if (switchValue? value).isSome then .ok () else .error (.invalidSwitch f value)

/-- The flags of a command line with their values, in order, and its other
words. -/
structure Parsed where
  given : List (Flag × Bytes) := []
  words : List Bytes := []
deriving DecidableEq, Repr

namespace Parsed

/-- The value that is given to a flag, which is the last one. -/
def given? (p : Parsed) (f : Flag) : Option Bytes :=
  (p.given.reverse.find? (·.1 = f)).map (·.2)

/-- The value of a flag. -/
def value (p : Parsed) (f : Flag) : Bytes :=
  (p.given? f).getD f.default

/-- Adds a flag in front. -/
def withFlag (f : Flag) (value : Bytes) (p : Parsed) : Parsed :=
  { p with given := (f, value) :: p.given }

/-- Adds a word in front. -/
def withWord (w : Bytes) (p : Parsed) : Parsed :=
  { p with words := w :: p.words }

/-- Help is asked for. -/
def wantsHelp (p : Parsed) : Bool :=
  switchValue? (p.value .help) = some true

end Parsed

/-- A value that stands in the same word as its flag. -/
def inlineValue : Bytes → Bytes × Option Bytes
  | [] => ([], none)
  | c :: rest =>
    if c = 61 then ([], some rest)
    else
      let (name, value) := inlineValue rest
      (c :: name, value)

/-- A value that stands in the same word as the letter of its flag, told from
what follows the letter.  A switch takes one only after an equals sign. -/
def inlineLetterValue (f : Flag) : Bytes → Option Bytes
  | 61 :: c :: value => some (c :: value)
  | [] => none
  | value => if f.kind = .switch then none else some value

/-- Letters that ask for nothing. -/
def ignoredLetters : Bytes := utf8 "test."

mutual

/-- Reads words, of which the flags in `known` may be some.  After `--` no word
is a flag. -/
def parse (known : List Flag) : List Bytes → Except Error Parsed
  | [] => .ok {}
  | w :: rest =>
    match w with
    | 45 :: 45 :: [] => .ok { words := rest }
    | 45 :: 45 :: long => parseLong known long rest
    | 45 :: l :: letters => parseLetters known (l :: letters) rest
    | _ => (parse known rest).map (·.withWord w)
termination_by ws => (ws.length, 0)

/-- Reads a flag that is written with its name. -/
def parseLong (known : List Flag) (long : Bytes) (rest : List Bytes) : Except Error Parsed :=
  let word : Bytes := 45 :: 45 :: long
  let (name, inline) := inlineValue long
  if long.head? = some 45 ∨ long.head? = some 61 then .error (.badSyntax word)
  else
    match known.find? (·.name = name) with
    | none => .error (.unknownName name)
    | some f =>
      match inline with
      | some v => do
        f.check v
        return (← parse known rest).withFlag f v
      | none =>
        if f.kind = .switch then do
          return (← parse known rest).withFlag f (utf8 "true")
        else
          match rest with
          | v :: rest' => do
            f.check v
            return (← parse known rest').withFlag f v
          | [] => .error (.missingValue word)
termination_by (rest.length, 1)

/-- Reads flags that are written with their letters. -/
def parseLetters (known : List Flag) (letters : Bytes) (rest : List Bytes) :
    Except Error Parsed :=
  match letters with
  | [] => parse known rest
  | l :: more =>
    if ignoredLetters.isPrefixOf (l :: more) then parse known rest
    else
      match known.find? (·.letter? = some l) with
      | none => .error (.unknownLetter l (l :: more))
      | some f =>
        match inlineLetterValue f more with
        | some v => do
          f.check v
          return (← parse known rest).withFlag f v
        | none =>
          if f.kind = .switch then do
            return (← parseLetters known more rest).withFlag f (utf8 "true")
          else
            match rest with
            | v :: rest' => do
              f.check v
              return (← parse known rest').withFlag f v
            | [] => .error (.missingValueOfLetter l (l :: more))
termination_by (rest.length, letters.length + 1)

end

end Flag

end RegisterMachine
