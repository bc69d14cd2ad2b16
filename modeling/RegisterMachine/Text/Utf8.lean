/-
UTF-8 text that may hold stray bytes, and the white space in it.

* `Utf8.head?`: the character a byte string starts with;
* `Utf8.pieces`: a byte string cut into characters and stray bytes;
* `Utf8.flatten`: the bytes of the pieces;
* `Utf8.chars?`: the characters of a text without stray bytes;
* `Blank.trim`: a text without the white space around it;
* `Blank.fields`: the maximal runs of a text that hold no white space.

White space is what Unicode gives the property White_Space.  A stray byte is
never white space, whatever its value.
-/
import RegisterMachine.Bytes

namespace RegisterMachine.Utf8

/-- A piece of a byte string: a character in its UTF-8 form, or a byte that
belongs to none. -/
inductive Piece where
  | char (c : Char)
  | stray (b : UInt8)
deriving DecidableEq, Repr

/-- The bytes of a piece. -/
def Piece.bytes : Piece → Bytes
  | .char c => String.utf8EncodeChar c
  | .stray b => [b]

/-- What a first byte announces: how many bytes follow, the high bits of the
code point, and the least code point written with that many bytes. -/
def lead? (a : UInt8) : Option (Nat × Nat × Nat) :=
  if a < 0x80 then some (0, a.toNat, 0)
  else if a < 0xC2 then none
  else if a < 0xE0 then some (1, a.toNat % 32, 0x80)
  else if a < 0xF0 then some (2, a.toNat % 16, 0x800)
  else if a < 0xF5 then some (3, a.toNat % 8, 0x10000)
  else none

/-- A byte that continues a character. -/
def isContinuation (b : UInt8) : Bool :=
  0x80 ≤ b && b < 0xC0

/-- The character that `a :: rest` starts with and the number of its bytes in
`rest`, or nothing when `a` starts no character. -/
def head? (a : UInt8) (rest : Bytes) : Option (Char × Nat) :=
  match lead? a with
  | none => none
  | some (count, high, least) =>
    let tail := rest.take count
    let code := tail.foldl (fun v b => v * 64 + b.toNat % 64) high
    if tail.length = count ∧ tail.all isContinuation ∧ least ≤ code ∧ code.isValidChar then
      some (Char.ofNat code, count)
    else none

/-- The pieces of a byte string whose first `skip` bytes belong to a character
already read. -/
def piecesFrom : Nat → Bytes → List Piece
  | _, [] => []
  | skip + 1, _ :: rest => piecesFrom skip rest
  | 0, a :: rest =>
    match head? a rest with
    | some (c, count) => .char c :: piecesFrom count rest
    | none => .stray a :: piecesFrom 0 rest

/-- A byte string cut into characters and stray bytes. -/
def pieces (s : Bytes) : List Piece :=
  piecesFrom 0 s

/-- The bytes of the pieces, one after another. -/
def flatten (ps : List Piece) : Bytes :=
  ps.flatMap Piece.bytes

/-- The bytes of the characters, one after another. -/
def encode (cs : List Char) : Bytes :=
  cs.flatMap String.utf8EncodeChar

/-- The character of a piece, unless it is a stray byte. -/
def Piece.char? : Piece → Option Char
  | .char c => some c
  | .stray _ => none

/-- The characters of a text, or nothing when it holds a stray byte. -/
def chars? (s : Bytes) : Option (List Char) :=
  (pieces s).mapM Piece.char?

end RegisterMachine.Utf8

namespace RegisterMachine.Blank

/-- The characters with the Unicode property White_Space. -/
def isBlank (c : Char) : Bool :=
  let n := c.toNat
  (9 ≤ n && n ≤ 13) || n == 0x20 || n == 0x85 || n == 0xA0 || n == 0x1680
    || (0x2000 ≤ n && n ≤ 0x200A) || n == 0x2028 || n == 0x2029 || n == 0x202F
    || n == 0x205F || n == 0x3000

/-- A piece that is a white space character. -/
def isBlankPiece : Utf8.Piece → Bool
  | .char c => isBlank c
  | .stray _ => false

/-- A text without the white space at its start and at its end. -/
def trim (s : Bytes) : Bytes :=
  let front := (Utf8.pieces s).dropWhile isBlankPiece
  Utf8.flatten (front.reverse.dropWhile isBlankPiece).reverse

/-- The maximal runs of pieces that hold no white space. -/
def runs (ps : List Utf8.Piece) : List (List Utf8.Piece) :=
  (ps.splitOnP isBlankPiece).filter fun run => !run.isEmpty

/-- The maximal runs of a text that hold no white space. -/
def fields (s : Bytes) : List Bytes :=
  (runs (Utf8.pieces s)).map Utf8.flatten

end RegisterMachine.Blank
