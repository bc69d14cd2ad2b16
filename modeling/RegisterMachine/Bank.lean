/-
The bank of sixteen registers, and their names.

* `Cause`: one thing that is wrong with an instruction; `Cause.message` and
  `Cause.joined` are the wording of one and of several;
* `Register.name` / `Register.parse`: the name of the register with a given
  index, and the index a name stands for;
* `Bank.get` / `Bank.set`: reading and writing the register with an index,
  which fails when there is no such register;
* `Bank.toList`: the words in the order of the registers;
* `Bank.render`: the bank as a text.

A name is an `x` followed by the index in base ten; a sign and leading zeros
are allowed.
-/
import RegisterMachine.Numeral
import RegisterMachine.Word

namespace RegisterMachine

/-- One thing that is wrong with an instruction. -/
inductive Cause where
  /-- The register named so is not in the bank. -/
  | registerOutOfRange (name : Bytes)
  /-- The token does not spell a register. -/
  | invalidRegister (token : Bytes)
  /-- The instruction has fewer operands than it takes. -/
  | missingOperand (mnemonic : Bytes) (expected given : Nat)
  /-- The instruction set has no instruction of that name. -/
  | unknownInstruction (name : Bytes)
deriving DecidableEq, Repr

/-- The wording of a cause. -/
def Cause.message : Cause → Bytes
  | .registerOutOfRange name => utf8 "Register index out of range: " ++ name
  | .invalidRegister token => utf8 "Invalid register name: " ++ token
  | .missingOperand mnemonic expected given =>
    utf8 "Missing operand: " ++ mnemonic ++ utf8 " expects " ++ decimal expected
      ++ utf8 " operands, got " ++ decimal given
  | .unknownInstruction name => utf8 "Unknown instruction: " ++ name

/-- The wording of several causes, each on a line of its own. -/
def Cause.joined (causes : List Cause) : Bytes :=
  Bytes.joined newline (causes.map Cause.message)

end RegisterMachine

namespace RegisterMachine.Register

/-- The number of registers. -/
def count : Nat := 16

/-- The letter every register name starts with. -/
def letter : Bytes := utf8 "x"

/-- The name of the register with index `i`, also when there is none. -/
def name (i : Int) : Bytes :=
  letter ++ integer i

/-- There is a register with index `i`. -/
def InRange (i : Int) : Prop :=
  0 ≤ i ∧ i < count

instance (i : Int) : Decidable (InRange i) :=
  inferInstanceAs (Decidable (0 ≤ i ∧ i < count))

/-- The index of the register that `token` names. -/
def parse (token : Bytes) : Except Cause Int :=
  match token with
  | 120 :: digits =>
    match Numeral.readInteger (.plain 10) digits with
    | .error .malformed => .error (.invalidRegister token)
    | .error .outOfRange => .error (.registerOutOfRange token)
    | .ok i => if InRange i then .ok i else .error (.registerOutOfRange token)
  | _ => .error (.invalidRegister token)

end RegisterMachine.Register

namespace RegisterMachine

/-- The words of the sixteen registers. -/
structure Bank where
  words : Vector Word 16
deriving DecidableEq, Repr

namespace Bank

/-- The bank with zero in every register. -/
def zero : Bank :=
  ⟨Vector.replicate 16 0#32⟩

/-- The bank that starts with the given words; missing ones are zero and those
past the sixteenth are left out. -/
def ofList (ws : List Word) : Bank :=
  ⟨Vector.ofFn fun i => ws.getD i 0#32⟩

/-- The words in the order of the registers. -/
def toList (b : Bank) : List Word :=
  b.words.toList

/-- The word of register `i`. -/
def word (b : Bank) (i : Fin 16) : Word :=
  b.words.get i

/-- The bank with `v` in register `i`. -/
def update (b : Bank) (i : Fin 16) (v : Word) : Bank :=
  ⟨b.words.set i v⟩

/-- The register with a given index, or the complaint that there is none. -/
def locate (i : Int) : Except Cause (Fin 16) :=
  if h : Register.InRange i then
    .ok ⟨i.toNat, by have := h.1; have := h.2; simp only [Register.count] at *; omega⟩
  else .error (.registerOutOfRange (Register.name i))

/-- The word of the register with index `i`. -/
def get (b : Bank) (i : Int) : Except Cause Word :=
  match locate i with
  | .error e => .error e
  | .ok r => .ok (b.word r)

/-- The bank with the lowest 32 bits of `v` in the register with index `i`. -/
def set (b : Bank) (i : Int) (v : BitVec 64) : Except Cause Bank :=
  match locate i with
  | .error e => .error e
  | .ok r => .ok (b.update r ((Bits.truncate v 32).setWidth 32))

/-- The names and values of all registers, `x0=0 x1=0 ...`. -/
def render (b : Bank) : Bytes :=
  Bytes.joined (utf8 " ")
    (b.toList.mapIdx fun i w => Register.name i ++ utf8 "=" ++ decimal w.toNat)

end Bank

end RegisterMachine
