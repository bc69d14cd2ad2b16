/-
The manual of the machine.

* `Manual.Topic`: what there is to read about;
* `Manual.text`: the text on a topic.
-/
import RegisterMachine.Instruction
import RegisterMachine.Store

namespace RegisterMachine.Manual

/-- What there is to read about. -/
inductive Topic where
  | instructions
  | storage
deriving DecidableEq, Repr

namespace Topic

/-- The topics, in the order of their names. -/
def all : List Topic := [.instructions, .storage]

/-- The name of a topic. -/
def name : Topic → Bytes
  | .instructions => utf8 "cpu.isa"
  | .storage => utf8 "cpu.storage"

/-- The topic with a given name. -/
def ofName? (s : Bytes) : Option Topic :=
  all.find? (·.name = s)

end Topic

/-- An instruction with the names of its operands. -/
def form (op : Opcode) : Bytes :=
  Bytes.joined (utf8 " ") (op.mnemonic :: (List.range op.operands).map fun i =>
    utf8 "<r" ++ decimal i ++ utf8 ">")

/-- The line on an instruction. -/
def instructionLine (op : Opcode) : Bytes :=
  utf8 "  " ++ Bytes.padRight 32 18 (form op) ++ utf8 " " ++ op.description ++ newline

/-- The text on the instructions. -/
def instructions : Bytes :=
  utf8 "Instruction set\n\n" ++ Opcode.written.flatMap instructionLine
    ++ utf8 "\nRegisters are written " ++ Register.name 0 ++ utf8 " to "
    ++ Register.name (Register.count - 1 : Nat) ++ utf8 ". Lines starting with '"
    ++ Instruction.commentMark ++ utf8 "' are comments.\n"

/-- The text on the files of the registers. -/
def storage : Bytes :=
  utf8 "Register storage\n\n"
    ++ utf8 "Each register is stored in its own file inside the registers directory (default '"
    ++ Store.defaultDirectory ++ utf8 "'):\n"
    ++ Store.registers.flatMap (fun (i : Nat) => utf8 "  " ++ Slot.fileName i ++ newline)
    ++ utf8 "\nEvery file holds exactly " ++ decimal Slot.size
    ++ utf8 " bytes, the register value as a big-endian unsigned integer.\n"
    ++ utf8 "A missing file reads as zero. "
    ++ utf8 "Files are replaced atomically when registers are saved.\n"

/-- The text on a topic. -/
def text : Topic → Bytes
  | .instructions => instructions
  | .storage => storage

end RegisterMachine.Manual
