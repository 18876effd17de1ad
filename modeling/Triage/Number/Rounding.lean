/-
This file rounds quotients of natural numbers to the nearest whole number. What happens to a
quotient that lies exactly between two whole numbers is a parameter.
-/

namespace Triage.Number

/-- Where an exact half goes. -/
inductive Tie where
  | toEven
  | up
  deriving Repr, DecidableEq

/-- Does a value whose distances below and above are `below` and `above` go up? -/
def Tie.goesUp (tie : Tie) (floor below above : Nat) : Bool :=
  if below = above then
    match tie with
    | .toEven => floor % 2 == 1
    | .up => true
  else decide (above < below)

/-- The whole number nearest to `numerator / denominator`. -/
def roundDiv (tie : Tie) (numerator denominator : Nat) : Nat :=
  let floor := numerator / denominator
  let below := numerator % denominator
  if tie.goesUp floor below (denominator - below) then floor + 1 else floor

/-- Numerator and denominator of `count * 2 ^ binary / 10 ^ decimal`. -/
def ratio (count : Nat) (binary decimal : Int) : Nat × Nat :=
  (count * Nat.pow 2 binary.toNat * Nat.pow 10 (-decimal).toNat,
    Nat.pow 2 (-binary).toNat * Nat.pow 10 decimal.toNat)

end Triage.Number
