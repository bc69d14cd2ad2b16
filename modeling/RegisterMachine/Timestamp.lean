/-
Points in time as they are written in documents.

* `Timestamp.parse`: a date, alone or with a time of day and a time zone;
* `Timestamp.render`: a date with its time of day and time zone.
-/
import RegisterMachine.Decimal

namespace RegisterMachine

/-- A date and time of day; `offset` is the distance of the time zone from
universal time, in seconds. -/
structure Timestamp where
  year : Nat
  month : Nat
  day : Nat
  hour : Nat := 0
  minute : Nat := 0
  second : Nat := 0
  nanosecond : Nat := 0
  offset : Int := 0
deriving DecidableEq, Repr

namespace Timestamp

open Decimal (isDigit natural)

/-- A year of 366 days. -/
def isLeap (year : Nat) : Bool :=
  year % 4 = 0 && (year % 100 ≠ 0 || year % 400 = 0)

/-- The number of days of a month. -/
def daysIn (year month : Nat) : Nat :=
  if month = 2 then (if isLeap year then 29 else 28)
  else if month ∈ [4, 6, 9, 11] then 30
  else 31

/-- One or two digits at the start of a text, and what follows. -/
def shortNumber : Bytes → Option (Nat × Bytes)
  | a :: b :: rest =>
    if !isDigit a then none
    else if isDigit b then some (natural [a, b], rest)
    else some (natural [a], b :: rest)
  | [a] => if isDigit a then some (natural [a], []) else none
  | [] => none

/-- A number between two bounds at the start of a text, and what follows. -/
def numberIn (least greatest : Nat) (s : Bytes) : Option (Nat × Bytes) :=
  match shortNumber s with
  | some (n, rest) => if least ≤ n ∧ n ≤ greatest then some (n, rest) else none
  | none => none

/-- What follows the byte `c` at the start of a text. -/
def after (c : UInt8) : Bytes → Option Bytes
  | a :: rest => if a = c then some rest else none
  | [] => none

/-- A date at the start of a text, and what follows. -/
def date (s : Bytes) : Option (Timestamp × Bytes) := do
  let year := s.take 4
  guard (year.length = 4 ∧ year.all isDigit)
  let (month, s) ← numberIn 1 12 (← after 45 (s.drop 4))
  let (day, s) ← shortNumber (← after 45 s)
  guard (1 ≤ day ∧ day ≤ daysIn (natural year) month)
  return ({ year := natural year, month, day }, s)

/-- The fraction of a second at the start of a text in nanoseconds, and what
follows. -/
def fraction : Bytes → Nat × Bytes
  | mark :: s =>
    let ds := s.takeWhile isDigit
    if (mark = 46 ∨ mark = 44) ∧ !ds.isEmpty then
      (natural (Bytes.padRight 48 9 (ds.take 9)), s.dropWhile isDigit)
    else (0, mark :: s)
  | [] => (0, [])

/-- A time of day at the start of a text, set in `t`, and what follows. -/
def timeOfDay (t : Timestamp) (s : Bytes) : Option (Timestamp × Bytes) := do
  let (hour, s) ← numberIn 0 23 s
  let (minute, s) ← numberIn 0 59 (← after 58 s)
  let (second, s) ← numberIn 0 59 (← after 58 s)
  let (nanosecond, s) := fraction s
  return ({ t with hour, minute, second, nanosecond }, s)

/-- The time zone that is the whole of a text. -/
def zone : Bytes → Option Int
  | [90] => some 0
  | [mark, a, b, 58, c, d] => do
    guard ([a, b, c, d].all isDigit)
    let hours := natural [a, b]
    let minutes := natural [c, d]
    guard (hours ≤ 24 ∧ minutes ≤ 60)
    let seconds : Int := (hours * 60 + minutes) * 60
    if mark = 43 then some seconds else if mark = 45 then some (-seconds) else none
  | _ => none

/-- Reads a date; or a date, the letter `T` or `t`, a time of day and a time
zone; or a date, spaces and a time of day. -/
def parse (s : Bytes) : Option Timestamp := do
  guard ((s.takeWhile isDigit).length = 4)
  let (t, rest) ← date s
  match rest with
  | [] => return t
  | mark :: rest =>
    if mark = 84 ∨ mark = 116 then
      let (t, rest) ← timeOfDay t rest
      return { t with offset := ← zone rest }
    else
      guard (mark = 32)
      let (t, rest) ← timeOfDay t (rest.dropWhile (· = 32))
      guard rest.isEmpty
      return t

/-- A number padded with zeros. -/
def padded (width n : Nat) : Bytes :=
  Bytes.padLeft 48 width (decimal n)

/-- A time zone as hours and minutes. -/
def renderOffset (offset : Int) : Bytes :=
  let minutes := offset.natAbs / 60
  (if offset < 0 then 45 else 43) :: padded 2 (minutes / 60) ++ padded 2 (minutes % 60)

/-- The fraction of a second, without the zeros at its end. -/
def renderFraction (nanosecond : Nat) : Bytes :=
  let ds := ((padded 9 nanosecond).reverse.dropWhile (· = 48)).reverse
  if ds.isEmpty then [] else 46 :: ds

/-- A date with its time of day and its time zone, which universal time
follows by name and every other zone by its offset. -/
def render (t : Timestamp) : Bytes :=
  padded 4 t.year ++ 45 :: padded 2 t.month ++ 45 :: padded 2 t.day
    ++ 32 :: padded 2 t.hour ++ 58 :: padded 2 t.minute ++ 58 :: padded 2 t.second
    ++ renderFraction t.nanosecond ++ 32 :: renderOffset t.offset
    ++ 32 :: (if t.offset = 0 then utf8 "UTC" else renderOffset t.offset)

end Timestamp

end RegisterMachine
