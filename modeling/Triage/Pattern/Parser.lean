/-
This file makes expressions of tokens. Groups are kept on a stack while they are open. Flags hold
until the end of the group in which they are set, across the bars between its branches. A
repetition needs something to repeat, which flags are not, and no two groups have the same name.
-/

import Triage.Pattern.Token

namespace Triage.Pattern

/-- How a pattern is read at present. -/
structure Reading where
  ignoresCase : Bool
  /-- Do the assertions for lines hold at every line? -/
  isMultiLine : Bool
  /-- Does a dot take line ends too? -/
  dotTakesAll : Bool

namespace Reading

/-- How a pattern is read at its start: a search ignores case. -/
def initial : Reading := ⟨true, false, false⟩

/-- The reading with one flag switched on or off. -/
def set (reading : Reading) : Flag × Bool → Reading
  | (.ignoreCase, isOn) => { reading with ignoresCase := isOn }
  | (.multiLine, isOn) => { reading with isMultiLine := isOn }
  | (.dotAll, isOn) => { reading with dotTakesAll := isOn }
  | (.swapGreed, _) => reading
  | (.allScripts, _) => reading

/-- The reading after a change of flags. -/
def change (reading : Reading) (change : FlagChange) : Reading :=
  change.foldl set reading

end Reading

/-- The set that a text in brackets stands for. When case is ignored, it is put aside for each side
of an operation and for each set in brackets, before a complement is taken. -/
def SetText.toSet (ignoresCase : Bool) : SetText → CharSet
  | plain set => set
  | union first second => .union (first.toSet ignoresCase) (second.toSet ignoresCase)
  | combine operation first second =>
    let folded (set : CharSet) : CharSet := if ignoresCase then .anyCase set else set
    let first := folded (first.toSet ignoresCase)
    let second := folded (second.toSet ignoresCase)
    match operation with
    | .intersection => .intersection first second
    | .difference => .difference first second
    | .exclusive => .exclusive first second
  | bracket isNegated inner =>
    let set := inner.toSet ignoresCase
    let folded : CharSet := if ignoresCase then .anyCase set else set
    if isNegated then .complement folded else folded

/-- A group that is open, or the whole pattern. -/
structure Level where
  /-- The branches before the last bar, last first. -/
  branches : List Expr := []
  /-- The items of the branch under way, last first. -/
  items : List Expr := []
  /-- May the last item be repeated? -/
  isRepeatable : Bool := false
  /-- The reading outside the group. -/
  outside : Reading

namespace Level

/-- The level with one more item. -/
def push (level : Level) (item : Expr) : Level :=
  { level with items := item :: level.items, isRepeatable := true }

/-- The level with the branch under way ended. -/
def endBranch (level : Level) : Level :=
  { level with
    branches := .inSequence level.items.reverse :: level.branches
    items := []
    isRepeatable := false }

/-- The expression of a level that ends here. -/
def toExpr (level : Level) : Expr :=
  match level.endBranch.branches.reverse with
  | [] => .empty
  | first :: rest => .oneOf first rest

end Level

/-- The state of the parser. -/
structure Parser where
  /-- The innermost group that is open. -/
  level : Level
  /-- The groups around it, innermost first. -/
  outer : List Level
  reading : Reading
  /-- The names of groups so far. -/
  names : List String

namespace Parser

/-- The parser before a pattern. -/
def start : Parser := ⟨{ outside := .initial }, [], .initial, []⟩

/-- The parser after an item. -/
def push (parser : Parser) (item : Expr) : Parser :=
  { parser with level := parser.level.push item }

/-- The set that a dot stands for. -/
def dotSet (reading : Reading) : CharSet :=
  if reading.dotTakesAll then .complement .none else .complement (.single '\n')

/-- The parser after one more token. -/
def step (parser : Parser) : Token → Option Parser
  | .literal character =>
    some (parser.push (.one (.ofLiteral parser.reading.ignoresCase character)))
  | .dot => some (parser.push (.one (dotSet parser.reading)))
  | .caret =>
    some (parser.push (.check (if parser.reading.isMultiLine then .lineStart else .textStart)))
  | .dollar =>
    some (parser.push (.check (if parser.reading.isMultiLine then .lineEnd else .textEnd)))
  | .characters set => some (parser.push (.one set))
  | .brackets set => some (parser.push (.one (set.toSet parser.reading.ignoresCase)))
  | .check assertion => some (parser.push (.check assertion))
  | .opening name change =>
    if name.any parser.names.contains then none
    else some {
      level := { outside := parser.reading }
      outer := parser.level :: parser.outer
      reading := parser.reading.change change
      names := name.toList ++ parser.names }
  | .closing => match parser.outer with
    | [] => none
    | level :: outer => some { parser with
        level := level.push parser.level.toExpr
        outer
        reading := parser.level.outside }
  | .bar => some { parser with level := parser.level.endBranch }
  | .repeated least most => match parser.level.items with
    | [] => none
    | item :: items =>
      if parser.level.isRepeatable then
        some { parser with level.items := .repeated item least most :: items }
      else none
  | .flags change => some { parser with
      level.isRepeatable := false
      reading := parser.reading.change change }

/-- The expression, if no group is open. -/
def finish? (parser : Parser) : Option Expr :=
  if parser.outer.isEmpty then some parser.level.toExpr else none

end Parser

/-- The expression that tokens make. -/
def Expr.ofTokens? (tokens : List Token) : Option Expr :=
  (tokens.foldlM Parser.step Parser.start).bind (·.finish?)

end Triage.Pattern
