/-
This file holds patterns as expressions and says what it means that an expression matches a piece
of a text. A piece is given by its two ends; what stands around it matters for the assertions,
which look at the characters on both sides of a position and take nothing.
-/

import Triage.Pattern.CharSet

namespace Triage.Pattern

/-- A condition on a position in a text. -/
inductive Assertion where
  | textStart
  | textEnd
  | lineStart
  | lineEnd
  | wordBoundary
  | noWordBoundary
  | wordStart
  | wordEnd
  /-- No word character stands before the position. -/
  | wordStartHalf
  /-- No word character stands after the position. -/
  | wordEndHalf
  deriving DecidableEq, Repr

/-- What stands on the two sides of a position. -/
structure Sides where
  before : Option Char
  after : Option Char

/-- Is there a word character? -/
def isWordAt (side : Option Char) : Bool :=
  side.any Text.isWordCharacter

/-- Does an assertion hold between two sides? -/
def Assertion.holds (sides : Sides) : Assertion → Bool
  | textStart => sides.before.isNone
  | textEnd => sides.after.isNone
  | lineStart => sides.before.all (· == '\n')
  | lineEnd => sides.after.all (· == '\n')
  | wordBoundary => isWordAt sides.before != isWordAt sides.after
  | noWordBoundary => isWordAt sides.before == isWordAt sides.after
  | wordStart => !isWordAt sides.before && isWordAt sides.after
  | wordEnd => isWordAt sides.before && !isWordAt sides.after
  | wordStartHalf => !isWordAt sides.before
  | wordEndHalf => !isWordAt sides.after

/-- A pattern. -/
inductive Expr where
  /-- Nothing is taken. -/
  | empty
  /-- One character of a set. -/
  | one (set : CharSet)
  | check (assertion : Assertion)
  | sequence (first second : Expr)
  | choice (first second : Expr)
  /-- At least and, if there is a bound, at most so many times. -/
  | repeated (body : Expr) (least : Nat) (most : Option Nat)

namespace Expr

/-- Expressions one after the other. -/
def inSequence : List Expr → Expr
  | [] => empty
  | [expr] => expr
  | expr :: rest => sequence expr (inSequence rest)

/-- A choice among a first expression and others. -/
def oneOf (first : Expr) : List Expr → Expr
  | [] => first
  | expr :: rest => choice first (oneOf expr rest)

/-- How many sets of characters stand in an expression when its repetitions are written out. A
repetition without a bound is written out as often as it has to occur, and at least once. -/
def size : Expr → Nat
  | empty => 0
  | one _ => 1
  | check _ => 0
  | sequence first second => first.size + second.size
  | choice first second => first.size + second.size
  | repeated body least most => most.getD (max least 1) * body.size

end Expr

/-! ### What a pattern matches -/

/-- The sides of a position. -/
def sidesAt (text : List Char) (position : Nat) : Sides :=
  ⟨if position = 0 then none else text[position - 1]?, text[position]?⟩

mutual

/-- The expression matches the piece of the text between two positions. -/
inductive Matches (text : List Char) : Expr → Nat → Nat → Prop where
  | empty (position : Nat) : position ≤ text.length → Matches text .empty position position
  | one (set : CharSet) (position : Nat) (character : Char) :
    text[position]? = some character → set.has character = true →
    Matches text (.one set) position (position + 1)
  | check (assertion : Assertion) (position : Nat) : position ≤ text.length →
    assertion.holds (sidesAt text position) = true →
    Matches text (.check assertion) position position
  | sequence (first second : Expr) (start middle finish : Nat) :
    Matches text first start middle → Matches text second middle finish →
    Matches text (.sequence first second) start finish
  | first (first second : Expr) (start finish : Nat) : Matches text first start finish →
    Matches text (.choice first second) start finish
  | second (first second : Expr) (start finish : Nat) : Matches text second start finish →
    Matches text (.choice first second) start finish
  | repeated (body : Expr) (least : Nat) (most : Option Nat) (count start finish : Nat) :
    least ≤ count → (∀ bound, most = some bound → count ≤ bound) →
    MatchesTimes text body count start finish →
    Matches text (.repeated body least most) start finish

/-- The expression matches so many pieces of the text, one after the other. -/
inductive MatchesTimes (text : List Char) : Expr → Nat → Nat → Nat → Prop where
  | none (body : Expr) (position : Nat) : position ≤ text.length →
    MatchesTimes text body 0 position position
  | more (body : Expr) (count start middle finish : Nat) :
    Matches text body start middle → MatchesTimes text body count middle finish →
    MatchesTimes text body (count + 1) start finish

end

/-- The expression matches some piece of the text. -/
def Expr.Occurs (expr : Expr) (text : List Char) : Prop :=
  ∃ start finish, Matches text expr start finish

end Triage.Pattern
