/-
The instruction set.

* `Opcode`: the kinds of instructions, with their names, descriptions and
  numbers of operands;
* `Instruction`: an instruction with its register operands;
* `Instruction.render` / `Instruction.decode`: an instruction as a line of a
  program, and the instruction on a line, or what is wrong with it;
* `Instruction.execute`: the bank after an instruction, what it shows and
  whether it stops the program, or what is wrong with its operands.

Operands are register indices that have not been checked against the bank.  A
line is read as its fields, the runs between white space.  A line without
fields and a line whose first field starts with the comment mark do nothing.
Fields past the operands an instruction takes are ignored.

Complaints about both source operands are reported together; the destination
is looked at only when both sources are there.  A failing instruction changes
nothing.
-/
import RegisterMachine.Bank
import RegisterMachine.KeyedTable
import RegisterMachine.Text.Utf8

namespace RegisterMachine

/-- The kinds of instructions. -/
inductive Opcode where
  | nop
  | add
  | sub
  | sll
  | srl
  | shw
  | halt
deriving DecidableEq, Repr

namespace Opcode

/-- All kinds of instructions, by number. -/
def all : List Opcode :=
  [.nop, .add, .sub, .sll, .srl, .shw, .halt]

/-- The number of a kind of instruction. -/
def number : Opcode → Nat
  | .nop => 0
  | .add => 1
  | .sub => 2
  | .sll => 3
  | .srl => 4
  | .shw => 5
  | .halt => 6

/-- The kind of instruction with a given number. -/
def ofNumber? (n : Nat) : Option Opcode :=
  all[n]?

/-- The name an instruction is written with. -/
def mnemonic : Opcode → Bytes
  | .nop => utf8 "nop"
  | .add => utf8 "add"
  | .sub => utf8 "sub"
  | .sll => utf8 "sll"
  | .srl => utf8 "srl"
  | .shw => utf8 "shw"
  | .halt => utf8 "halt"

/-- What an instruction does, in one line. -/
def description : Opcode → Bytes
  | .nop => utf8 "Blank or comment line, does nothing"
  | .add => utf8 "dst <- dst + src"
  | .sub => utf8 "dst <- dst - src"
  | .sll => utf8 "dst <- src << (shift & 31)"
  | .srl => utf8 "dst <- src >> (shift & 31), zero filled"
  | .shw => utf8 "Print the unsigned decimal value of src"
  | .halt => utf8 "Persist registers and stop"

/-- The number of register operands of an instruction. -/
def operands : Opcode → Nat
  | .nop => 0
  | .add => 2
  | .sub => 2
  | .sll => 3
  | .srl => 3
  | .shw => 1
  | .halt => 0

/-- The kinds of instructions that can be written in a program: all but the
blank line. -/
def written : List Opcode :=
  all.filter (· ≠ .nop)

/-- The written instructions by name. -/
def byMnemonic : KeyedTable Bytes Opcode :=
  KeyedTable.ofItems mnemonic written

/-- The name of the instruction with a given number, also when there is none. -/
def nameOfNumber (n : Nat) : Bytes :=
  match ofNumber? n with
  | some op => op.mnemonic
  | none => utf8 "OpCode(" ++ decimal n ++ utf8 ")"

end Opcode

/-- An instruction with its operands. -/
inductive Instruction where
  /-- Does nothing. -/
  | nop
  /-- Adds `src` to `dst`. -/
  | add (dst src : Int)
  /-- Subtracts `src` from `dst`. -/
  | sub (dst src : Int)
  /-- Puts `src` into `dst`, shifted to the left by `shift`. -/
  | sll (src dst shift : Int)
  /-- Puts `src` into `dst`, shifted to the right by `shift`. -/
  | srl (src dst shift : Int)
  /-- Shows the value of `src`. -/
  | shw (src : Int)
  /-- Stops the program. -/
  | halt
  /-- An instruction outside the set, of which only the text is known. -/
  | foreign (text : Bytes)
deriving DecidableEq, Repr

namespace Instruction

/-- The kind of an instruction, if it belongs to the set. -/
def opcode? : Instruction → Option Opcode
  | .nop => some .nop
  | .add _ _ => some .add
  | .sub _ _ => some .sub
  | .sll _ _ _ => some .sll
  | .srl _ _ _ => some .srl
  | .shw _ => some .shw
  | .halt => some .halt
  | .foreign _ => none

/-- The operands of an instruction in the order in which they are written. -/
def operands : Instruction → List Int
  | .add dst src => [dst, src]
  | .sub dst src => [dst, src]
  | .sll src dst shift => [src, dst, shift]
  | .srl src dst shift => [src, dst, shift]
  | .shw src => [src]
  | _ => []

/-- The instruction of a kind with operands in the order in which they are
written. -/
def assemble (op : Opcode) (operand : Nat → Int) : Instruction :=
  match op with
  | .nop => .nop
  | .add => .add (operand 0) (operand 1)
  | .sub => .sub (operand 0) (operand 1)
  | .sll => .sll (operand 0) (operand 1) (operand 2)
  | .srl => .srl (operand 0) (operand 1) (operand 2)
  | .shw => .shw (operand 0)
  | .halt => .halt

/-- The instruction as a line of a program. -/
def render (i : Instruction) : Bytes :=
  match i, i.opcode? with
  | .foreign text, _ => text
  | _, some op => Bytes.joined (utf8 " ") (op.mnemonic :: i.operands.map Register.name)
  | _, none => []

/-! ### Reading a line -/

/-- The mark that starts a comment line. -/
def commentMark : Bytes := utf8 "#"

/-- The instruction of kind `op` with the operands that the tokens name. -/
def decodeOperands (op : Opcode) (tokens : List Bytes) : Except Cause Instruction :=
  if tokens.length < op.operands then
    .error (.missingOperand op.mnemonic op.operands tokens.length)
  else
    match (tokens.take op.operands).mapM Register.parse with
    | .error e => .error e
    | .ok registers => .ok (assemble op fun i => registers.getD i 0)

/-- The instruction that the fields of a line spell. -/
def decodeFields : List Bytes → Except Cause Instruction
  | [] => .ok .nop
  | name :: tokens =>
    if commentMark.isPrefixOf name then .ok .nop
    else match Opcode.byMnemonic.get? name with
      | none => .error (.unknownInstruction name)
      | some op => decodeOperands op tokens

/-- The instruction on a line of a program. -/
def decode (line : Bytes) : Except Cause Instruction :=
  decodeFields (Blank.fields line)

/-! ### Executing -/

/-- What an instruction did. -/
structure Effect where
  /-- The bank afterwards. -/
  bank : Bank
  /-- The register that was shown, with its value. -/
  shown : Option (Int × Word) := none
  /-- The instruction stops the program. -/
  halted : Bool := false
deriving DecidableEq, Repr

/-- Puts `op` of the registers `lhs` and `rhs` into the register `dst`. -/
def binary (b : Bank) (lhs rhs dst : Int) (op : Word → Word → Word) :
    Except (List Cause) Effect :=
  match b.get lhs, b.get rhs with
  | .ok x, .ok y =>
    match b.set dst ((op x y).setWidth 64) with
    | .ok b' => .ok { bank := b' }
    | .error e => .error [e]
  | .error e, .error e' => .error [e, e']
  | .error e, .ok _ => .error [e]
  | .ok _, .error e' => .error [e']

/-- Executes an instruction on a bank. -/
def execute (b : Bank) : Instruction → Except (List Cause) Effect
  | .nop => .ok { bank := b }
  | .add dst src => binary b dst src dst fun x y => x + y
  | .sub dst src => binary b dst src dst fun x y => x - y
  | .sll src dst shift => binary b src shift dst fun x y => x <<< shiftAmount y
  | .srl src dst shift => binary b src shift dst fun x y => x >>> shiftAmount y
  | .shw src =>
    match b.get src with
    | .ok v => .ok { bank := b, shown := some (src, v) }
    | .error e => .error [e]
  | .halt => .ok { bank := b, halted := true }
  | .foreign text => .error [.unknownInstruction text]

end Instruction

end RegisterMachine
