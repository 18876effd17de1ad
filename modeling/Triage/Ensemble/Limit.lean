/-
This file turns a number of seconds into the time that a call may take. Time is counted in whole
nanoseconds, of which 64 bits of seconds can be held; a number of seconds beyond that means the
longest time, and one that is not positive means no time at all.
-/

import Triage.Number.Binary
import Triage.Number.Rounding

namespace Triage

/-- A length of time. -/
structure Limit where
  nanoseconds : Nat
  deriving DecidableEq, Repr

namespace Limit

/-- The nanoseconds of a second. -/
def perSecond : Nat := 1000000000

/-- The nanoseconds of a millisecond. -/
def perMillisecond : Nat := 1000000

/-- One more than the seconds that can be held. -/
def secondsBound : Nat := UInt64.size

/-- No time. -/
def zero : Limit := ⟨0⟩

/-- The longest time. -/
def longest : Limit := ⟨secondsBound * perSecond - 1⟩

/-- The nearest whole number of nanoseconds to a number of seconds, halves to even. -/
def ofSeconds (seconds : Float) : Limit :=
  match Number.shapeOf seconds with
  | .notANumber => zero
  | .infinite negative => if negative then zero else longest
  | .finite true _ _ => zero
  | .finite false mantissa exponent =>
    let (numerator, denominator) := Number.ratio mantissa exponent 0
    if secondsBound * denominator ≤ numerator then longest
    else ⟨Number.roundDiv .toEven (numerator * perSecond) denominator⟩

/-- The whole seconds. -/
def seconds (limit : Limit) : Nat :=
  limit.nanoseconds / perSecond

/-- The nanoseconds beyond the whole seconds. -/
def subsecond (limit : Limit) : Nat :=
  limit.nanoseconds % perSecond

/-- The least number of whole milliseconds in which the time has passed. -/
def milliseconds (limit : Limit) : Nat :=
  (limit.nanoseconds + (perMillisecond - 1)) / perMillisecond

end Limit

end Triage
