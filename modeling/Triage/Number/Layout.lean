/-
This file writes numbers. The digits are the shortest that read back, or those up to a fixed
place; a layout holds the rest of what a text format decides: where positional notation ends,
whether a whole number shows a point, and where an exact half between two digits goes.
-/

import Triage.Number.Shortest

namespace Triage.Number

/-- The decisions of a text format for floating-point numbers. -/
structure Layout where
  tie : Tie
  /-- The exponents of the first digit that are written without an exponent; `none` for all. -/
  positional : Option (Int × Int)
  /-- Is `.0` written after a whole number? -/
  showsPoint : Bool

/-- Numbers in JSON text: a whole number shows a point, and an exponent is written from `1e+16` on
and below `1e-5`. -/
def jsonDouble : Layout := ⟨.toEven, some (-5, 16), true⟩

/-- Singles in JSON text, with an exponent from `1e+13` on and below `1e-6`. -/
def jsonSingle : Layout := ⟨.toEven, some (-6, 13), true⟩

/-- Numbers inside messages: never an exponent, and no point after a whole number. -/
def plain : Layout := ⟨.up, none, false⟩

/-- A minus sign, if negative. -/
def signText (negative : Bool) : String :=
  if negative then "-" else ""

/-- The text of infinity. -/
def infinityText (negative : Bool) : String :=
  signText negative ++ "inf"

/-- The text of what is not a number. -/
def notANumberText : String := "NaN"

/-- A text of zeros. -/
def zeros (count : Nat) : String :=
  String.ofList (List.replicate count '0')

namespace Layout

/-- Digits without an exponent: zeros fill the places between them and the point. -/
def positionalText (layout : Layout) (digits : String) (exponent : Int) : String :=
  let wholeLength := (digits.length : Int) + exponent
  if 0 ≤ exponent then
    digits ++ zeros exponent.toNat ++ (if layout.showsPoint then ".0" else "")
  else if 0 < wholeLength then
    (digits.take wholeLength.toNat).toString ++ "." ++ (digits.drop wholeLength.toNat).toString
  else "0." ++ zeros (-wholeLength).toNat ++ digits

/-- Digits with an exponent: one digit before the point, and a sign before every exponent. -/
def exponentText (digits : String) (leading : Int) : String :=
  let mantissa := if digits.length = 1 then digits
    else (digits.take 1).toString ++ "." ++ (digits.drop 1).toString
  mantissa ++ "e" ++ (if leading < 0 then "-" else "+") ++ toString leading.natAbs

/-- The text of a positive decimal. -/
def decimalText (layout : Layout) (decimal : Decimal) : String :=
  let digits := toString decimal.digits
  let leading := (digits.length : Int) - 1 + decimal.exponent
  match layout.positional with
  | none => layout.positionalText digits decimal.exponent
  | some (first, past) =>
    if first ≤ leading ∧ leading < past then layout.positionalText digits decimal.exponent
    else exponentText digits leading

/-- The text of a number taken apart. -/
def text (layout : Layout) (format : Format) : Shape → String
  | .notANumber => notANumberText
  | .infinite negative => infinityText negative
  | .finite negative mantissa exponent =>
    let magnitude := if mantissa = 0 then layout.positionalText "0" 0
      else layout.decimalText (format.shortest layout.tie mantissa exponent)
    signText negative ++ magnitude

end Layout

/-- A number as messages show it. -/
def plainText (number : Float) : String :=
  plain.text double (shapeOf number)

/-! ### Fixed places -/

/-- A natural number of `10 ^ -places` units, with the point in its place. -/
def pointText (places units : Nat) : String :=
  if places = 0 then toString units
  else
    let digits := toString units
    let padded := zeros (places + 1 - digits.length) ++ digits
    let whole := padded.length - places
    (padded.take whole).toString ++ "." ++ (padded.drop whole).toString

/-- A number with a fixed count of places, rounded from its exact value with halves to even. -/
def fixedText (places : Nat) (number : Float) : String :=
  match shapeOf number with
  | .notANumber => notANumberText
  | .infinite negative => infinityText negative
  | .finite negative mantissa exponent =>
    let (numerator, denominator) := ratio mantissa exponent (-(places : Int))
    signText negative ++ pointText places (roundDiv .toEven numerator denominator)

end Triage.Number
