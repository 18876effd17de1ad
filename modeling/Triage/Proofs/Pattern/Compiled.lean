/-
This file proves that a search finds what occurs for every pattern that can be compiled. All that a
search asks of an expression is that no repetition is wanted more often than it is allowed. A count
that runs backwards is refused when the text is divided into tokens, and the parser makes
repetitions of no other counts, so that the bounds are in order at every level that is open while
tokens are read.
-/

import Triage.Pattern.Compiled
import Triage.Proofs.Pattern.Search

namespace Triage.Pattern

/-! ### Tokens -/

namespace Token

/-- A repetition is not wanted more often than it is allowed. -/
def HasOrderedBounds : Token → Prop
  | .repeated least most => ∀ bound, most = some bound → least ≤ bound
  | _ => True

theorem eq_of_scanned {token other : Token} {rest behind : List Char}
    (scanned : some (token, rest) = some (other, behind)) : token = other :=
  (Prod.mk.inj (Option.some.inj scanned)).1

theorem hasOrderedBounds_of_countedRepetition {text rest : List Char} {token : Token}
    (scanned : countedRepetition text = some (token, rest)) : token.HasOrderedBounds := by
  unfold countedRepetition at scanned
  obtain ⟨⟨least, behind⟩, -, scanned⟩ := Option.bind_eq_some_iff.mp scanned
  simp only at scanned
  split at scanned
  · obtain rfl := eq_of_scanned scanned
    rintro bound ⟨⟩
    exact le_rfl
  · obtain rfl := eq_of_scanned scanned
    exact nofun
  · obtain ⟨⟨most, behind⟩, -, scanned⟩ := Option.bind_eq_some_iff.mp scanned
    simp only at scanned
    split at scanned
    · split at scanned
      · rename_i ordered
        obtain rfl := eq_of_scanned scanned
        rintro bound ⟨⟩
        exact ordered
      · exact nomatch scanned
    · exact nomatch scanned
  · exact nomatch scanned

theorem hasOrderedBounds_of_group {text rest : List Char} {token : Token}
    (scanned : group text = some (token, rest)) : token.HasOrderedBounds := by
  have named {text rest : List Char} {token : Token}
      (scanned : namedGroup text = some (token, rest)) : token.HasOrderedBounds := by
    unfold namedGroup at scanned
    simp only at scanned
    split at scanned
    · split at scanned
      · exact eq_of_scanned scanned ▸ trivial
      · exact nomatch scanned
    · exact nomatch scanned
  unfold group at scanned
  split at scanned
  · exact nomatch scanned
  · exact nomatch scanned
  · exact nomatch scanned
  · exact nomatch scanned
  · exact named scanned
  · exact named scanned
  · split at scanned
    · exact eq_of_scanned scanned ▸ trivial
    · exact nomatch scanned
    · exact eq_of_scanned scanned ▸ trivial
    · exact nomatch scanned
  · exact eq_of_scanned scanned ▸ trivial

theorem hasOrderedBounds_of_next {text rest : List Char} {token : Token}
    (scanned : next text = some (token, rest)) : token.HasOrderedBounds := by
  unfold next at scanned
  split at scanned
  · exact nomatch scanned
  · exact hasOrderedBounds_of_group scanned
  · exact eq_of_scanned scanned ▸ trivial
  · exact eq_of_scanned scanned ▸ trivial
  · obtain ⟨_, -, same⟩ := Option.map_eq_some_iff.mp scanned
    exact (Prod.mk.inj same).1 ▸ trivial
  · obtain rfl := eq_of_scanned scanned
    exact fun bound _ => Nat.zero_le bound
  · obtain rfl := eq_of_scanned scanned
    exact fun bound _ => Nat.zero_le bound
  · obtain rfl := eq_of_scanned scanned
    exact nofun
  · exact hasOrderedBounds_of_countedRepetition scanned
  · exact eq_of_scanned scanned ▸ trivial
  · exact eq_of_scanned scanned ▸ trivial
  · exact eq_of_scanned scanned ▸ trivial
  · split at scanned
    · exact eq_of_scanned scanned ▸ trivial
    · exact eq_of_scanned scanned ▸ trivial
    · exact eq_of_scanned scanned ▸ trivial
    · exact nomatch scanned
  · exact eq_of_scanned scanned ▸ trivial

theorem hasOrderedBounds_of_mem_all {fuel : Nat} {text : List Char} {tokens : List Token}
    (scanned : all fuel text = some tokens) : ∀ token ∈ tokens, token.HasOrderedBounds := by
  induction fuel generalizing text tokens with
  | zero =>
    cases text with
    | nil => exact Option.some.inj scanned ▸ List.forall_mem_nil _
    | cons => exact nomatch scanned
  | succ fuel inductionHypothesis =>
    cases text with
    | nil => exact Option.some.inj scanned ▸ List.forall_mem_nil _
    | cons character rest =>
      obtain ⟨⟨token, behind⟩, first, scanned⟩ := Option.bind_eq_some_iff.mp scanned
      obtain ⟨others, later, same⟩ := Option.bind_eq_some_iff.mp scanned
      rw [← Option.some.inj same]
      exact List.forall_mem_cons.mpr ⟨hasOrderedBounds_of_next first, inductionHypothesis later⟩

end Token

/-! ### Expressions -/

theorem Expr.hasOrderedBounds_inSequence {exprs : List Expr}
    (ordered : ∀ expr ∈ exprs, expr.HasOrderedBounds) : (inSequence exprs).HasOrderedBounds := by
  induction exprs with
  | nil => trivial
  | cons expr rest inductionHypothesis =>
    obtain ⟨own, others⟩ := List.forall_mem_cons.mp ordered
    cases rest with
    | nil => exact own
    | cons => exact ⟨own, inductionHypothesis others⟩

theorem Expr.hasOrderedBounds_oneOf {first : Expr} {others : List Expr}
    (own : first.HasOrderedBounds) (ordered : ∀ expr ∈ others, expr.HasOrderedBounds) :
    (oneOf first others).HasOrderedBounds := by
  induction others generalizing first with
  | nil => exact own
  | cons expr rest inductionHypothesis =>
    obtain ⟨next, others⟩ := List.forall_mem_cons.mp ordered
    exact ⟨own, inductionHypothesis next others⟩

/-! ### The parser -/

/-- The bounds of all expressions of a level are in order. -/
structure Level.HasOrderedBounds (level : Level) : Prop where
  branches : ∀ expr ∈ level.branches, expr.HasOrderedBounds
  items : ∀ expr ∈ level.items, expr.HasOrderedBounds

namespace Level.HasOrderedBounds

variable {level : Level}

theorem push (ordered : level.HasOrderedBounds) {item : Expr} (own : item.HasOrderedBounds) :
    (level.push item).HasOrderedBounds :=
  ⟨ordered.branches, List.forall_mem_cons.mpr ⟨own, ordered.items⟩⟩

theorem endBranch (ordered : level.HasOrderedBounds) : level.endBranch.HasOrderedBounds := by
  refine ⟨List.forall_mem_cons.mpr ⟨?_, ordered.branches⟩, List.forall_mem_nil _⟩
  exact Expr.hasOrderedBounds_inSequence fun expr member =>
    ordered.items expr (List.mem_reverse.mp member)

theorem toExpr (ordered : level.HasOrderedBounds) : level.toExpr.HasOrderedBounds := by
  have branches : ∀ expr ∈ level.endBranch.branches.reverse, expr.HasOrderedBounds :=
    fun expr member => ordered.endBranch.branches expr (List.mem_reverse.mp member)
  unfold Level.toExpr
  split
  · trivial
  · rename_i first rest all
    obtain ⟨own, others⟩ := List.forall_mem_cons.mp (all ▸ branches)
    exact Expr.hasOrderedBounds_oneOf own others

end Level.HasOrderedBounds

/-- The bounds of all expressions of all levels are in order. -/
structure Parser.HasOrderedBounds (parser : Parser) : Prop where
  level : parser.level.HasOrderedBounds
  outer : ∀ level ∈ parser.outer, level.HasOrderedBounds

namespace Parser.HasOrderedBounds

theorem start : Parser.start.HasOrderedBounds :=
  ⟨⟨List.forall_mem_nil _, List.forall_mem_nil _⟩, List.forall_mem_nil _⟩

theorem push {parser : Parser} (ordered : parser.HasOrderedBounds) {item : Expr}
    (own : item.HasOrderedBounds) : (parser.push item).HasOrderedBounds :=
  ⟨ordered.level.push own, ordered.outer⟩

theorem step {parser next : Parser} (ordered : parser.HasOrderedBounds) {token : Token}
    (bounds : token.HasOrderedBounds) (stepped : parser.step token = some next) :
    next.HasOrderedBounds := by
  cases token with
  | literal character => exact Option.some.inj stepped ▸ ordered.push trivial
  | dot => exact Option.some.inj stepped ▸ ordered.push trivial
  | caret => exact Option.some.inj stepped ▸ ordered.push trivial
  | dollar => exact Option.some.inj stepped ▸ ordered.push trivial
  | characters set => exact Option.some.inj stepped ▸ ordered.push trivial
  | brackets set => exact Option.some.inj stepped ▸ ordered.push trivial
  | check assertion => exact Option.some.inj stepped ▸ ordered.push trivial
  | opening name change =>
    simp only [Parser.step] at stepped
    split at stepped
    · exact nomatch stepped
    · obtain rfl := Option.some.inj stepped
      exact ⟨⟨List.forall_mem_nil _, List.forall_mem_nil _⟩,
        List.forall_mem_cons.mpr ⟨ordered.level, ordered.outer⟩⟩
  | closing =>
    simp only [Parser.step] at stepped
    split at stepped
    · exact nomatch stepped
    · rename_i level outer around
      obtain rfl := Option.some.inj stepped
      obtain ⟨inner, others⟩ := List.forall_mem_cons.mp (around ▸ ordered.outer)
      exact ⟨inner.push ordered.level.toExpr, others⟩
  | bar => exact Option.some.inj stepped ▸ ⟨ordered.level.endBranch, ordered.outer⟩
  | repeated least most =>
    simp only [Parser.step] at stepped
    split at stepped
    · exact nomatch stepped
    · rename_i item items last
      obtain ⟨own, others⟩ := List.forall_mem_cons.mp (last ▸ ordered.level.items)
      split at stepped
      · obtain rfl := Option.some.inj stepped
        exact ⟨⟨ordered.level.branches, List.forall_mem_cons.mpr ⟨⟨bounds, own⟩, others⟩⟩,
          ordered.outer⟩
      · exact nomatch stepped
  | flags change =>
    exact Option.some.inj stepped ▸ ⟨⟨ordered.level.branches, ordered.level.items⟩, ordered.outer⟩

theorem foldlM {parser last : Parser} (ordered : parser.HasOrderedBounds) {tokens : List Token}
    (bounds : ∀ token ∈ tokens, token.HasOrderedBounds)
    (stepped : tokens.foldlM Parser.step parser = some last) : last.HasOrderedBounds := by
  induction tokens generalizing parser with
  | nil => exact Option.some.inj stepped ▸ ordered
  | cons token rest inductionHypothesis =>
    obtain ⟨first, others⟩ := List.forall_mem_cons.mp bounds
    rw [List.foldlM_cons] at stepped
    obtain ⟨next, once, later⟩ := Option.bind_eq_some_iff.mp stepped
    exact inductionHypothesis (ordered.step first once) others later

end Parser.HasOrderedBounds

/-! ### Compiled patterns -/

theorem hasOrderedBounds_of_ofText? {source : String} {expr : Expr}
    (read : Expr.ofText? source = some expr) : expr.HasOrderedBounds := by
  unfold Expr.ofText? at read
  obtain ⟨expr, parsed, sized⟩ := Option.bind_eq_some_iff.mp read
  split at sized
  · obtain rfl := Option.some.inj sized
    obtain ⟨tokens, scanned, made⟩ := Option.bind_eq_some_iff.mp parsed
    obtain ⟨last, stepped, finished⟩ := Option.bind_eq_some_iff.mp made
    have ordered := Parser.HasOrderedBounds.start.foldlM
      (Token.hasOrderedBounds_of_mem_all scanned) stepped
    unfold Parser.finish? at finished
    split at finished
    · exact Option.some.inj finished ▸ ordered.level.toExpr
    · exact nomatch finished
  · exact nomatch sized

/-- A pattern that can be compiled is found in a text just when it occurs there. -/
theorem exists_expr_of_compile? {source : String} {pattern : Pattern}
    (compiled : compile? source = some pattern) : ∃ expr, Expr.ofText? source = some expr ∧
      ∀ text, pattern.occursIn text = true ↔ expr.Occurs text.toList := by
  obtain ⟨search, found, rfl⟩ := Option.map_eq_some_iff.mp compiled
  obtain ⟨expr, read, rfl⟩ := Option.map_eq_some_iff.mp found
  exact ⟨expr, read, fun text =>
    Expr.occursIn_iff_occurs (hasOrderedBounds_of_ofText? read) text.toList⟩

end Triage.Pattern
