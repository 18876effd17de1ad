/-
This file takes a floating-point number apart. Every number of either width is not a number, an
infinity, or a sign with a mantissa and an exponent, of value `mantissa * 2 ^ exponent`. All text
and rounding in this library starts from these natural numbers, so it is exact.
-/

namespace Triage.Number

/-- A floating-point number, taken apart. -/
inductive Shape where
  | notANumber
  | infinite (negative : Bool)
  | finite (negative : Bool) (mantissa : Nat) (exponent : Int)
  deriving Repr, DecidableEq

/-- A binary interchange format: the width of the stored fraction, the number of values of the
exponent field, and the exponent of the smallest positive number. -/
structure Format where
  fractionBits : Nat
  exponentValues : Nat
  leastExponent : Int

/-- Double precision. -/
def double : Format := ⟨52, 2048, -1074⟩

/-- Single precision. -/
def single : Format := ⟨23, 256, -149⟩

namespace Format

/-- One more than the largest fraction. -/
def fractions (format : Format) : Nat :=
  Nat.pow 2 format.fractionBits

/-- Take bits apart. A zero exponent field marks the numbers without a leading one, the largest
one marks the infinities and what is not a number. -/
def shape (format : Format) (bits : Nat) : Shape :=
  let fraction := bits % format.fractions
  let field := bits / format.fractions % format.exponentValues
  let negative := bits / format.fractions / format.exponentValues % 2 == 1
  if field + 1 = format.exponentValues then
    if fraction = 0 then .infinite negative else .notANumber
  else if field = 0 then .finite negative fraction format.leastExponent
  else .finite negative (format.fractions + fraction) (format.leastExponent + (field - 1 : Nat))

end Format

/-- The parts of a double. -/
def shapeOf (number : Float) : Shape :=
  double.shape number.toBits.toNat

/-- The parts of a single. -/
def shapeOfSingle (number : Float32) : Shape :=
  single.shape number.toBits.toNat

end Triage.Number
