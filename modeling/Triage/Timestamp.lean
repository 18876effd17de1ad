/-
This file holds moments in time, how they are read and how they are written. A moment is read from
a date and a time of day with an offset from universal time, with a blank or a letter between the
two, blanks before numbers and single digits allowed. It is written in universal time, with as
many groups of three digits after the seconds as are needed. A sixtieth second is kept as the
second before it with more than a second's worth of nanoseconds.
-/

import Triage.Json.Reading
import Triage.Text.Blank

namespace Triage

/-- A moment in time. -/
structure Timestamp where
  /-- The seconds since the start of 1970, in universal time. -/
  seconds : Int
  /-- The nanoseconds beyond them; in a sixtieth second they exceed a second. -/
  nanoseconds : Nat
  deriving DecidableEq, Repr

namespace Timestamp

/-! ### The calendar -/

/-- The days from the start of 1970 to a date. Years are counted from March, so that the leap day
comes last. -/
def dayNumber (year : Int) (month day : Nat) : Int :=
  let year := if month ≤ 2 then year - 1 else year
  let era := year.fdiv 400
  let yearOfEra := year - era * 400
  let monthFromMarch : Int := if month ≤ 2 then month + 9 else month - 3
  let dayOfYear := (153 * monthFromMarch + 2).fdiv 5 + day - 1
  era * 146097 + yearOfEra * 365 + yearOfEra.fdiv 4 - yearOfEra.fdiv 100 + dayOfYear - 719468

/-- The year, month and day of a number of days from the start of 1970. -/
def dateOf (days : Int) : Int × Nat × Nat :=
  let shifted := days + 719468
  let era := shifted.fdiv 146097
  let dayOfEra := shifted - era * 146097
  let yearOfEra :=
    (dayOfEra - dayOfEra.fdiv 1460 + dayOfEra.fdiv 36524 - dayOfEra.fdiv 146096).fdiv 365
  let dayOfYear := dayOfEra - (365 * yearOfEra + yearOfEra.fdiv 4 - yearOfEra.fdiv 100)
  let monthFromMarch := (5 * dayOfYear + 2).fdiv 153
  let day := dayOfYear - (153 * monthFromMarch + 2).fdiv 5 + 1
  let month := if monthFromMarch < 10 then monthFromMarch + 3 else monthFromMarch - 9
  let year := yearOfEra + era * 400
  (if month ≤ 2 then year + 1 else year, month.toNat, day.toNat)

/-- Is there such a date? -/
def isDate (year : Int) (month day : Nat) : Bool :=
  1 ≤ month && month ≤ 12 && 1 ≤ day && dateOf (dayNumber year month day) == (year, month, day)

/-- The years that can be held. -/
def isYear (year : Int) : Bool :=
  -262143 ≤ year && year ≤ 262142

/-! ### Reading -/

/-- What a reader of a part of a text returns: the part's value and the rest. -/
abbrev Scan (Value : Type) := List Char → Option (Value × List Char)

/-- The number that digits write. -/
def numberOf (digits : List Char) : Nat :=
  digits.foldl (fun number digit => number * 10 + (digit.toNat - 48)) 0

/-- At least one and at most so many digits. -/
def digits (most : Nat) : Scan (List Char) := fun text =>
  let found := (text.take most).takeWhile (·.isDigit)
  if found.isEmpty then none else some (found, text.drop found.length)

/-- A number of at most two digits, after blanks. -/
def twoDigits : Scan Nat := fun text => do
  let (found, rest) ← digits 2 (text.dropWhile Text.isBlank)
  return (numberOf found, rest)

/-- A year, after blanks: four digits, or more after a sign. -/
def yearNumber : Scan Int := fun text =>
  match text.dropWhile Text.isBlank with
  | '-' :: rest => (digits rest.length rest).map fun (found, rest) => (-numberOf found, rest)
  | '+' :: rest => (digits rest.length rest).map fun (found, rest) => (numberOf found, rest)
  | rest => (digits 4 rest).map fun (found, rest) => (numberOf found, rest)

/-- A mark, after blanks. -/
def mark (expected : Char) : Scan Unit := fun text =>
  match text.dropWhile Text.isBlank with
  | character :: rest => if character = expected then some ((), rest) else none
  | [] => none

/-- The letter or blank between a date and a time. -/
def separator : Scan Unit
  | character :: rest =>
    if character = 'T' ∨ character = 't' ∨ character = ' ' then some ((), rest) else none
  | [] => none

/-- The nanoseconds of a second. -/
def perSecond : Nat := 1000000000

/-- A fraction of a second in nanoseconds; digits beyond the ninth are passed over. -/
def fraction : Scan Nat
  | '.' :: rest => (digits 9 rest).map fun (found, rest) =>
    (numberOf found * Nat.pow 10 (9 - found.length), rest.dropWhile (·.isDigit))
  | rest => some (0, rest)

/-- Hours and minutes of an offset, in seconds. -/
def offsetSize : Scan Nat := fun text => do
  let (hours, rest) ← digits 2 text
  let (minutes, rest) ←
    digits 2 (rest.dropWhile fun character => character == ':' || Text.isBlank character)
  if hours.length = 2 ∧ minutes.length = 2 ∧ numberOf minutes < 60 then
    some (numberOf hours * 3600 + numberOf minutes * 60, rest)
  else none

/-- The offset from universal time, in seconds. -/
def offset : Scan Int
  | 'Z' :: rest => some (0, rest)
  | 'z' :: rest => some (0, rest)
  | '+' :: rest => (offsetSize rest).map fun (size, rest) => ((size : Int), rest)
  | '-' :: rest => (offsetSize rest).map fun (size, rest) => (-(size : Int), rest)
  | '−' :: rest => (offsetSize rest).map fun (size, rest) => (-(size : Int), rest)
  | first :: second :: third :: rest =>
    if [first, second, third].map (·.toUpper) = ['U', 'T', 'C'] then some (0, rest) else none
  | _ => none

/-- The moment that a text names. -/
def parse? (text : String) : Option Timestamp := do
  let (year, rest) ← yearNumber text.toList
  let ((), rest) ← mark '-' rest
  let (month, rest) ← twoDigits rest
  let ((), rest) ← mark '-' rest
  let (day, rest) ← twoDigits rest
  let ((), rest) ← separator rest
  let (hour, rest) ← twoDigits rest
  let ((), rest) ← mark ':' rest
  let (minute, rest) ← twoDigits rest
  let ((), rest) ← mark ':' rest
  let (second, rest) ← twoDigits rest
  let (nanoseconds, rest) ← fraction rest
  let (shift, rest) ← offset (rest.dropWhile Text.isBlank)
  let isTime := hour < 24 && minute < 60 && second ≤ 60
  if isYear year && isDate year month day && isTime && shift.natAbs < 86400 &&
      rest.all Text.isBlank then
    let timeOfDay : Int := hour * 3600 + minute * 60 + (min second 59 : Nat)
    some ⟨dayNumber year month day * 86400 + timeOfDay - shift,
      if second = 60 then nanoseconds + perSecond else nanoseconds⟩
  else none

/-! ### Writing -/

/-- A number with zeros before it, up to a width. -/
def padded (width number : Nat) : String :=
  let digits := toString number
  String.ofList (List.replicate (width - digits.length) '0') ++ digits

/-- A year of four digits, or with a sign if it needs more. -/
def yearText (year : Int) : String :=
  if 0 ≤ year ∧ year ≤ 9999 then padded 4 year.toNat
  else (if year < 0 then "-" else "+") ++ padded 4 year.natAbs

/-- The fraction of a second, in three, six or nine digits, or nothing. -/
def fractionText (nanoseconds : Nat) : String :=
  if nanoseconds = 0 then ""
  else if nanoseconds % 1000000 = 0 then "." ++ padded 3 (nanoseconds / 1000000)
  else if nanoseconds % 1000 = 0 then "." ++ padded 6 (nanoseconds / 1000)
  else "." ++ padded 9 nanoseconds

/-- The text of a moment. -/
def toText (moment : Timestamp) : String :=
  let (year, month, day) := dateOf (moment.seconds.fdiv 86400)
  let timeOfDay := (moment.seconds.fmod 86400).toNat
  let second := timeOfDay % 60 + moment.nanoseconds / perSecond
  s!"{yearText year}-{padded 2 month}-{padded 2 day}" ++
    s!"T{padded 2 (timeOfDay / 3600)}:{padded 2 (timeOfDay / 60 % 60)}:{padded 2 second}" ++
    fractionText (moment.nanoseconds % perSecond) ++ "Z"

/-- A moment in a JSON text. -/
def reading : Json.Reading Timestamp :=
  .named parse?

end Timestamp

end Triage
