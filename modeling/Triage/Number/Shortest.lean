/-
This file finds the shortest decimal that reads back as a given floating-point number. The numbers
that read back are those between the midpoints to the two neighbours, the midpoints included when
the mantissa is even. On the grid of decimals with a given count of digits only the two points
around the number have to be tried: if any grid point reads back, one of those two does. The first
count with a hit wins, and of two hits the nearer one.
-/

import Triage.Number.Binary
import Triage.Number.Rounding

namespace Triage.Number

/-- The decimal `digits * 10 ^ exponent`. -/
structure Decimal where
  digits : Nat
  exponent : Int
  deriving Repr, DecidableEq

/-- How many decimal digits a number is written with. -/
def decimalLength (number : Nat) : Nat :=
  (Nat.toDigits 10 number).length

/-- The exponent of the first decimal digit of a positive quotient. -/
def leadingExponent (numerator denominator : Nat) : Int :=
  if denominator ≤ numerator then (decimalLength (numerator / denominator) : Int) - 1
  else
    let inverse := denominator / numerator
    let length := decimalLength inverse
    if inverse = Nat.pow 10 (length - 1) && inverse * numerator = denominator then 1 - (length : Int)
    else -(length : Int)

/-- A decimal without zeros at the end of its digits, by removing at most `count` of them. -/
def Decimal.strip : Nat → Decimal → Decimal
  | 0, decimal => decimal
  | count + 1, decimal =>
    if decimal.digits ≠ 0 ∧ decimal.digits % 10 = 0 then
      strip count ⟨decimal.digits / 10, decimal.exponent + 1⟩
    else decimal

/-- A positive number with the reals that read back as it, all in units of `2 ^ exponent`: those
between `low` and `high`, these two included when `closed`. -/
structure Interval where
  low : Nat
  value : Nat
  high : Nat
  exponent : Int
  closed : Bool

/-- The interval of a positive number. Quarters of the last place are the units; the neighbour
below a power of two is nearer, except among the smallest numbers. -/
def Format.interval (format : Format) (mantissa : Nat) (exponent : Int) : Interval where
  low := if mantissa = format.fractions ∧ format.leastExponent < exponent then 4 * mantissa - 1
    else 4 * mantissa - 2
  value := 4 * mantissa
  high := 4 * mantissa + 2
  exponent := exponent - 2
  closed := mantissa % 2 = 0

namespace Interval

/-- Does `digits * 10 ^ decimal` lie in the interval? -/
def holds (interval : Interval) (decimal : Int) (digits : Nat) : Bool :=
  let low := (ratio interval.low interval.exponent decimal).1
  let high := (ratio interval.high interval.exponent decimal).1
  let point := digits * (ratio interval.value interval.exponent decimal).2
  if interval.closed then low ≤ point && point ≤ high else low < point && point < high

/-- The nearest of the two decimals in steps of `10 ^ decimal` around the number, if it reads
back; otherwise the other one, if that reads back. -/
def onGrid? (interval : Interval) (tie : Tie) (decimal : Int) : Option Decimal :=
  let (numerator, denominator) := ratio interval.value interval.exponent decimal
  let floor := numerator / denominator
  let below := numerator % denominator
  let (near, far) := if tie.goesUp floor below (denominator - below) then (floor + 1, floor)
    else (floor, floor + 1)
  if interval.holds decimal near then some ⟨near, decimal⟩
  else if interval.holds decimal far then some ⟨far, decimal⟩
  else none

/-- The shortest decimal in the interval; seventeen digits always suffice. -/
def shortest (interval : Interval) (tie : Tie) : Decimal :=
  let (numerator, denominator) := ratio interval.value interval.exponent 0
  let leading := leadingExponent numerator denominator
  let found := (List.range 17).findSome? fun (count : Nat) => interval.onGrid? tie (leading - count)
  (found.getD ⟨0, 0⟩).strip 20

end Interval

/-- The shortest decimal that reads back as a positive number. -/
def Format.shortest (format : Format) (tie : Tie) (mantissa : Nat) (exponent : Int) : Decimal :=
  (format.interval mantissa exponent).shortest tie

end Triage.Number
