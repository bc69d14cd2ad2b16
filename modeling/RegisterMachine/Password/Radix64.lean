/-
Bytes written with 64 characters.

* `Radix64.encode`: three bytes as four characters, without padding;
* `Radix64.decode`: the bytes of a padded text, or where it is wrong.

The alphabet is the one of password hashes: a point, a slash, the capital
letters, the small letters and the digits.
-/
import RegisterMachine.Bytes

namespace RegisterMachine.Radix64

/-- The characters for the values from 0 to 63. -/
def alphabet : Bytes :=
  utf8 "./ABCDEFGHIJKLMNOPQRSTUVWXYZabcdefghijklmnopqrstuvwxyz0123456789"

/-- The character for a value below 64. -/
def letter (n : Nat) : UInt8 :=
  alphabet.getD n 0

/-- The value of a character. -/
def value? (c : UInt8) : Option Nat :=
  alphabet.findIdx? (· = c)

/-- The bytes as text, four characters for three bytes. -/
def encode : Bytes → Bytes
  | a :: b :: c :: rest =>
    let n := (a.toNat * 256 + b.toNat) * 256 + c.toNat
    letter (n / 262144) :: letter (n / 4096 % 64) :: letter (n / 64 % 64) :: letter (n % 64)
      :: encode rest
  | [a, b] =>
    let n := (a.toNat * 256 + b.toNat) * 256
    [letter (n / 262144), letter (n / 4096 % 64), letter (n / 64 % 64)]
  | [a] =>
    let n := a.toNat * 65536
    [letter (n / 262144), letter (n / 4096 % 64)]
  | [] => []

/-- The character that pads a text to a multiple of four. -/
def padding : UInt8 := 61

/-- A line end inside a text is passed over. -/
def isLineEnd (c : UInt8) : Bool :=
  c = 10 || c = 13

/-- The bytes of up to four values, of which the first comes first. -/
def quantum (values : List Nat) : Bytes :=
  let n := (values ++ List.replicate (4 - values.length) 0).foldl (fun n v => n * 64 + v) 0
  [(n / 65536).toUInt8, (n / 256).toUInt8, n.toUInt8].take (values.length - 1)

/-- Checks what follows the padding that ends a text of `total` bytes, of which
`rest` are left after the first padding character, and gives the bytes of the
unfinished quantum. -/
def decodePadding (total : Nat) (values : List Nat) (rest : Bytes) : Except Nat Bytes :=
  let finish := fun (rest : Bytes) =>
    let rest := rest.dropWhile isLineEnd
    if rest.isEmpty then .ok (quantum values) else .error (total - rest.length)
  match values with
  | [_, _] =>
    match rest.dropWhile isLineEnd with
    | [] => .error total
    | c :: rest' => if c = padding then finish rest' else .error (total - rest'.length - 2)
  | [_, _, _] => finish rest
  | _ => .error (total - rest.length - 1)

/-- Reads characters; `values` are those of the unfinished quantum. -/
def decodeFrom (total : Nat) (values : List Nat) : Bytes → Except Nat Bytes
  | [] => if values.isEmpty then .ok [] else .error (total - values.length)
  | c :: rest =>
    match value? c with
    | some v =>
      if values.length = 3 then
        match decodeFrom total [] rest with
        | .ok more => .ok (quantum (values ++ [v]) ++ more)
        | .error e => .error e
      else decodeFrom total (values ++ [v]) rest
    | none =>
      if isLineEnd c then decodeFrom total values rest
      else if c = padding then decodePadding total values rest
      else .error (total - rest.length - 1)

/-- The bytes of a text that is padded to a multiple of four characters, or the
position of the first character that is wrong. -/
def decode (s : Bytes) : Except Nat Bytes :=
  decodeFrom s.length [] s

end RegisterMachine.Radix64
