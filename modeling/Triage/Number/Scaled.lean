/-
This file turns written decimals and whole numbers into floating-point numbers. A decimal is read
by scaling: its leading digits, as many as 64 bits hold, become a double, which is multiplied or
divided by a power of ten. This is the documented reading of this library's number texts; it
agrees with correct rounding on all decimals whose digits and power of ten are exact doubles.
Whole numbers and doubles become singles by rounding to the nearest, halves to even.
-/

import Triage.Number.Binary
import Triage.Number.Rounding

namespace Triage.Number

/-- The largest power of ten that is a finite double. -/
def largestPower : Nat := 308

/-- The double nearest to a power of ten. -/
def powerOfTen (power : Nat) : Float :=
  Float.ofScientific 1 false power

/-- `number * 10 ^ exponent` in double arithmetic, in steps of the largest power of ten when the
exponent is below all of them. Out of range is `none`. -/
def scale : Nat → Float → Int → Option Float
  | 0, _, _ => none
  | steps + 1, number, exponent =>
    if exponent.natAbs ≤ largestPower then
      if 0 ≤ exponent then
        let scaled := number * powerOfTen exponent.natAbs
        if scaled.isInf then none else some scaled
      else some (number / powerOfTen exponent.natAbs)
    else if number == 0 then some number
    else if 0 ≤ exponent then none
    else scale steps (number / powerOfTen largestPower) (exponent + largestPower)

/-- The double read for `significand * 10 ^ exponent`; `none` when it is out of range. -/
def readScaled (significand : Nat) (exponent : Int) : Option Float :=
  scale 5 (Float.ofNat significand) exponent

/-! ### Singles -/

/-- The bits of the single nearest to `mantissa * 2 ^ exponent`, halves to even. -/
def singleBits (mantissa : Nat) (exponent : Int) : Nat :=
  if mantissa = 0 then 0
  else
    let length : Int := mantissa.log2 + 1
    let target := max (exponent + length - (single.fractionBits + 1)) single.leastExponent
    let rounded := roundDiv .toEven (mantissa * Nat.pow 2 (exponent - target).toNat)
      (Nat.pow 2 (target - exponent).toNat)
    let bits := (target - single.leastExponent).toNat * single.fractions + rounded
    min bits ((single.exponentValues - 1) * single.fractions)

/-- The bit that marks a negative single. -/
def singleSign : Nat := single.exponentValues * single.fractions

/-- The single of a sign and the bits of a magnitude. -/
def singleOfBits (negative : Bool) (magnitude : Nat) : Float32 :=
  Float32.ofBits (UInt32.ofNat (magnitude + if negative then singleSign else 0))

/-- The single nearest to a double. -/
def singleOf (number : Float) : Float32 :=
  match shapeOf number with
  | .notANumber => Float32.ofBits 0x7fc00000
  | .infinite negative => singleOfBits negative 0x7f800000
  | .finite negative mantissa exponent => singleOfBits negative (singleBits mantissa exponent)

/-- The single nearest to a whole number. -/
def singleOfInt (number : Int) : Float32 :=
  singleOfBits (number < 0) (singleBits number.natAbs 0)

/-- The double nearest to a whole number. -/
def doubleOfInt (number : Int) : Float :=
  Float.ofInt number

end Triage.Number
