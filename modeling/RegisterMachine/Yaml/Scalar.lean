/-
The values that plain text stands for.

* `Yaml.Scalar`: nothing, a truth value, a number, a point in time or a text;
* `Yaml.Scalar.ofPlain`: the value of a text without quotes;
* `Yaml.Scalar.render`: a value as a text of its own.
-/
import RegisterMachine.Decimal.Binary
import RegisterMachine.Numeral
import RegisterMachine.Timestamp

namespace RegisterMachine.Yaml

/-- A number with a fractional part, or what stands beyond all of them. -/
inductive Real where
  | finite (negative : Bool) (b : Binary)
  | infinite (negative : Bool)
  | undefined
deriving DecidableEq, Repr

/-- A number with the fewest digits that tell it from its neighbours. -/
def Real.render : Real → Bytes
  | .finite negative b => (if negative then [45] else []) ++ b.shortest.positional
  | .infinite negative => (if negative then utf8 "-" else utf8 "+") ++ utf8 "Inf"
  | .undefined => utf8 "NaN"

/-- The number closest to a decimal numeral. -/
def Real.parse (s : Bytes) : Option Real := do
  let (negative, d) ← Decimal.parse s
  return .finite negative (← Binary.nearest d)

/-- The value of a scalar. -/
inductive Scalar where
  | null
  | flag (b : Bool)
  | integer (n : Int)
  | real (r : Real)
  | time (t : Timestamp)
  | text (s : Bytes)
deriving DecidableEq, Repr

/-! ### Tags -/

/-- The tag of texts. -/
def textTag : Bytes := utf8 "!!str"

/-- The tag of truth values. -/
def flagTag : Bytes := utf8 "!!bool"

/-- The tag of whole numbers. -/
def integerTag : Bytes := utf8 "!!int"

/-- The tag of numbers with a fractional part. -/
def realTag : Bytes := utf8 "!!float"

/-- The tag of nothing. -/
def nullTag : Bytes := utf8 "!!null"

/-- The tag of points in time. -/
def timeTag : Bytes := utf8 "!!timestamp"

/-- The tag of bytes written with letters. -/
def binaryTag : Bytes := utf8 "!!binary"

/-- The tag of the key that takes in other mappings. -/
def mergeTag : Bytes := utf8 "!!merge"

/-- The tag of sequences. -/
def sequenceTag : Bytes := utf8 "!!seq"

/-- The tag of mappings. -/
def mappingTag : Bytes := utf8 "!!map"

/-- The tag of a value. -/
def Scalar.tag : Scalar → Bytes
  | .null => nullTag
  | .flag _ => flagTag
  | .integer _ => integerTag
  | .real _ => realTag
  | .time _ => timeTag
  | .text _ => textTag

/-! ### Plain text -/

/-- The words that stand for a value. -/
def words : List (Bytes × Scalar) :=
  let table : List (Scalar × List String) :=
    [(.flag true, ["true", "True", "TRUE"]),
      (.flag false, ["false", "False", "FALSE"]),
      (.null, ["", "~", "null", "Null", "NULL"]),
      (.real .undefined, [".nan", ".NaN", ".NAN"]),
      (.real (.infinite false), [".inf", ".Inf", ".INF", "+.inf", "+.Inf", "+.INF"]),
      (.real (.infinite true), ["-.inf", "-.Inf", "-.INF"])]
  table.flatMap fun (v, spellings) => spellings.map fun s => (utf8 s, v)

/-- A whole number that is no literal of sixty-four bits: digits of base `base`
after the mark `mark`. -/
def markedInteger? (mark : Bytes) (base : Nat) (s : Bytes) : Option Int :=
  let signed := 45 :: mark
  if mark.isPrefixOf s then
    let digits := s.drop mark.length
    match Numeral.readInteger (.plain base) digits with
    | .ok n => some n
    | .error _ => (Numeral.readNatural (.plain base) 64 digits).toOption.map Int.ofNat
  else if signed.isPrefixOf s then
    (Numeral.readInteger (.plain base) (45 :: s.drop signed.length)).toOption
  else none

/-- The whole number that a text writes, with underscores taken out. -/
def integer? (s : Bytes) : Option Int :=
  match Numeral.readInteger .literal s with
  | .ok n => some n
  | .error _ => (Numeral.readNatural .literal 64 s).toOption.map Int.ofNat

/-- The number that a text writes, with underscores taken out. -/
def number? (s : Bytes) : Option Scalar :=
  (integer? s).map Scalar.integer
    <|> (Real.parse s).map Scalar.real
    <|> (markedInteger? (utf8 "0b") 2 s).map Scalar.integer
    <|> (markedInteger? (utf8 "0o") 8 s).map Scalar.integer

/-- The value of a text without quotes; `times` tells whether points in time
are looked for. -/
def Scalar.ofPlain (times : Bool) (s : Bytes) : Scalar :=
  match words.lookup s with
  | some v => v
  | none =>
    match s with
    | [] => .null
    | a :: _ =>
      let found :=
        if a = 46 then (Real.parse s).map Scalar.real
        else if Decimal.isDigit a || a = 43 || a = 45 then
          (if times then (Timestamp.parse s).map Scalar.time else none)
            <|> number? (s.filter (· ≠ 95))
        else none
      found.getD (.text s)

/-! ### Text -/

/-- A value as a text of its own, where nothing is the empty text. -/
def Scalar.render : Scalar → Bytes
  | .null => []
  | .flag b => if b then utf8 "true" else utf8 "false"
  | .integer n => RegisterMachine.integer n
  | .real r => r.render
  | .time t => t.render
  | .text s => s

end RegisterMachine.Yaml
