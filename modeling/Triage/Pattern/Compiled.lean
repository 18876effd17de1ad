/-
This file holds the dialect of patterns that this library has of its own: it compiles patterns to
expressions and searches with them. A search ignores case unless the pattern says otherwise.
-/

import Triage.Pattern.Dialect
import Triage.Pattern.Parser
import Triage.Pattern.Search

namespace Triage.Pattern

/-- The greatest size of a pattern. -/
def sizeLimit : Nat := 200000

/-- The expression that the text of a pattern stands for, unless it grows too large when its repetitions
are written out. -/
def Expr.ofText? (source : String) : Option Expr := do
  let expr ← (Token.scan? source).bind ofTokens?
  if expr.size ≤ sizeLimit then some expr else none

/-- The dialect of expressions. -/
instance expressions : Dialect where
  compile? source := (Expr.ofText? source).map fun expr text => expr.occursIn text.toList

end Triage.Pattern
