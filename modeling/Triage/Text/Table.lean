/-
This file reads membership off a list of boundaries. A set of code points is written as the
increasing list of the points at which membership changes, so a code point belongs to the set
exactly when an odd number of boundaries lie at or below it.
-/

namespace Triage.Text.Table

/-- Membership of `point`, given whether the points just below the first boundary belong. -/
def memberFrom (inside : Bool) : List Nat → Nat → Bool
  | [], _ => inside
  | boundary :: rest, point =>
    if point < boundary then inside else memberFrom (!inside) rest point

/-- Is the character in the set with these boundaries? -/
def member (boundaries : List Nat) (character : Char) : Bool :=
  memberFrom false boundaries character.toNat

end Triage.Text.Table
