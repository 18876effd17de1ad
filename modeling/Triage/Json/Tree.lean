/-
This file holds what a JSON text says before anybody has asked what it means. Numbers stay as
they are written, repeated keys are kept, and a string with an unpaired surrogate is kept as
unreadable: a reader that skips a value never finds out whether its numbers are in range or its
strings are valid.
-/

import Triage.Json.Value
import Triage.Number.Scaled

namespace Triage.Json

/-- A number as it is written: the digits of its parts. -/
structure Numeral where
  negative : Bool
  whole : List Nat
  fraction : List Nat
  /-- Is there a fraction or an exponent? -/
  isReal : Bool
  exponent : Int

/-- What a JSON text says. A string is `none` when it holds an unpaired surrogate. -/
inductive Tree where
  | null
  | bool (value : Bool)
  | number (value : Numeral)
  | text (value : Option String)
  | array (items : List Tree)
  | object (members : List (Option String × Tree))

instance : Inhabited Tree := ⟨.null⟩

/-! ### The value of a number -/

/-- One more than the largest 64-bit word. -/
def wordLimit : Nat := UInt64.size

/-- Append digits to a number as long as 64 bits hold it, and count the digits appended. -/
def absorb (number : Nat) : List Nat → Nat × Nat
  | [] => (number, 0)
  | digit :: rest =>
    if number * 10 + digit < wordLimit then
      let (result, count) := absorb (number * 10 + digit) rest
      (result, count + 1)
    else (number, 0)

namespace Numeral

/-- The double read for a number: the digits that 64 bits hold, scaled by a power of ten. -/
def double? (numeral : Numeral) : Option Float :=
  let (whole, wholeCount) := absorb 0 numeral.whole
  let (significand, fractionCount) := absorb whole numeral.fraction
  let exponent := ((numeral.whole.length - wholeCount : Nat) : Int) - fractionCount +
    numeral.exponent
  (Triage.Number.readScaled significand exponent).map fun magnitude =>
    if numeral.negative then -magnitude else magnitude

/-- The number written by the digits of the whole part. -/
def magnitude (numeral : Numeral) : Nat :=
  numeral.whole.foldl (fun number digit => number * 10 + digit) 0

/-- The number that a numeral means: a whole number where 64 bits hold it, else a double. A zero
with a minus sign is a double, and a double out of range is no number. -/
def value? (numeral : Numeral) : Option Number :=
  let magnitude := numeral.magnitude
  if numeral.isReal then numeral.double?.map .real
  else if !numeral.negative && decide (magnitude < wordLimit) then some (.whole magnitude)
  else if numeral.negative && magnitude != 0 && decide (magnitude ≤ wordLimit / 2) then
    some (.whole (-magnitude))
  else numeral.double?.map .real

end Numeral

end Triage.Json
