/-
This file finds out whether a pattern occurs in a text. Sets of positions are kept as the bits of
natural numbers. A pattern is first laid over the text: every set of characters becomes the
positions at which one of its characters stands, every assertion the positions at which it holds.
From the positions at which an expression may start, the positions at which it may end then follow
by operations on bits, so no choice is ever taken back.
-/

import Triage.Pattern.Expr

namespace Triage.Pattern

/-- A pattern laid over a text; masks are sets of positions. -/
inductive Laid where
  | empty
  /-- One character, at a position of the mask. -/
  | step (mask : Nat)
  /-- Nothing, at a position of the mask. -/
  | check (mask : Nat)
  | sequence (first second : Laid)
  | choice (first second : Laid)
  | repeated (body : Laid) (least : Nat) (most : Option Nat)

/-! ### Masks -/

/-- The sides of all positions, given what stands before the first. -/
def sidesFrom (before : Option Char) : List Char → List Sides
  | [] => [⟨before, none⟩]
  | character :: rest => ⟨before, some character⟩ :: sidesFrom (some character) rest

/-- The positions whose sides satisfy a condition. -/
def maskOf (condition : Sides → Bool) : List Sides → Nat
  | [] => 0
  | sides :: rest => 2 * maskOf condition rest + if condition sides then 1 else 0

/-- Lay a pattern over a text, given the sides of its positions. -/
def Expr.lay (sides : List Sides) : Expr → Laid
  | empty => .empty
  | one set => .step (maskOf (fun sides => sides.after.any set.has) sides)
  | check assertion => .check (maskOf assertion.holds sides)
  | sequence first second => .sequence (first.lay sides) (second.lay sides)
  | choice first second => .choice (first.lay sides) (second.lay sides)
  | repeated body least most => .repeated (body.lay sides) least most

/-! ### Ends -/

/-- A step from positions to positions, taken so many times. -/
def times (move : Nat → Nat) : Nat → Nat → Nat
  | 0, starts => starts
  | count + 1, starts => times move count (move starts)

/-- A step taken at most so many times; it ends early when nothing new is reached. -/
def atMost (move : Nat → Nat) : Nat → Nat → Nat
  | 0, starts => starts
  | count + 1, starts =>
    let reached := starts ||| move starts
    if reached = starts then starts else atMost move count reached

/-- The positions at which a pattern may end that starts at one of the given positions. A step
never goes back, so more repetitions than there are positions reach nothing new. -/
def Laid.ends (positions : Nat) : Laid → Nat → Nat
  | empty, starts => starts
  | step mask, starts => (starts &&& mask) <<< 1
  | check mask, starts => starts &&& mask
  | sequence first second, starts => second.ends positions (first.ends positions starts)
  | choice first second, starts => first.ends positions starts ||| second.ends positions starts
  | repeated body least most, starts =>
    let required := times (body.ends positions) (min least positions) starts
    match most with
    | none => atMost (body.ends positions) positions required
    | some bound => atMost (body.ends positions) (min (bound - least) positions) required

/-- Does the pattern occur anywhere in the text? -/
def Expr.occursIn (expr : Expr) (text : List Char) : Bool :=
  let positions := text.length + 1
  (expr.lay (sidesFrom none text)).ends positions (Nat.pow 2 positions - 1) != 0

end Triage.Pattern
