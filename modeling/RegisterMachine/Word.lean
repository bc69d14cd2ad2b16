/-
Machine words and the low bits of unsigned numbers.

* `Word`: the 32-bit words a register holds;
* `Bits.allOnes`, `Bits.truncate`, `Bits.log2`: masks and logarithms of
  unsigned numbers of any width;
* `shiftAmount`: the part of a word that a shift looks at.
-/

namespace RegisterMachine

/-- The value of a register. -/
abbrev Word := BitVec 32

namespace Bits

/-- The widths of the unsigned numbers. -/
inductive Width where
  | w8
  | w16
  | w32
  | w64
deriving DecidableEq, Repr

/-- The number of bytes of a width. -/
def Width.bytes : Width → Nat
  | .w8 => 1
  | .w16 => 2
  | .w32 => 4
  | .w64 => 8

/-- The number of bits in a number of bytes, as 64-bit arithmetic gives it. -/
def ofBytes (n : Int64) : Int64 :=
  n * 8

/-- The number of bits of a width. -/
def Width.bits (w : Width) : Nat :=
  w.bytes * 8

/-- A number of bits, unless it is negative. -/
def count? : Int → Option Nat
  | .ofNat n => some n
  | .negSucc _ => none

/-- The number of `w` bits whose lowest `n` bits are set. -/
def allOnes (w n : Nat) : BitVec w :=
  if w ≤ n then BitVec.allOnes w else (1#w <<< n) - 1#w

/-- The lowest `n` bits of `v`. -/
def truncate {w : Nat} (v : BitVec w) (n : Nat) : BitVec w :=
  v &&& allOnes w n

/-- How often `v` can be halved before it is at most one. -/
def log2 {w : Nat} (v : BitVec w) : Nat :=
  if 1 < v.toNat then log2 (v >>> 1) + 1 else 0
termination_by v.toNat
decreasing_by
  simp only [BitVec.toNat_ushiftRight, Nat.shiftRight_succ, Nat.shiftRight_zero]
  omega

end Bits

/-- The number of bits that tell how far a word is shifted. -/
def shiftAmountBits : Nat :=
  Bits.log2 (32 : BitVec 64)

/-- The part of a word that a shift looks at. -/
def shiftAmount (v : Word) : Word :=
  Bits.truncate v shiftAmountBits

end RegisterMachine
