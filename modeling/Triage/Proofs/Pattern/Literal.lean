/-
This file proves that the dialect of expressions takes quotations literally. A quotation is divided into the
characters of its text and compiled to as many sets of one letter each, so that it can be compiled unless the
text is longer than patterns may be. It then occurs in a text where the characters are the same letters one
after the other.
-/

import Mathlib.Data.List.Infix
import Triage.Proofs.Pattern.Compiled
import Triage.Proofs.Pattern.Quoting

namespace Triage.Pattern

/-! ### Tokens -/

namespace Token

/-- A backslash takes its meaning from a special character. -/
theorem escape_special {character : Char} (special : character ∈ specials) (rest : List Char) :
    escape (character :: rest) = some (.literal character, rest) := by
  unfold specials at special
  simp only [List.mem_cons, List.not_mem_nil, or_false] at special
  rcases special with rfl | rfl | rfl | rfl | rfl | rfl | rfl | rfl | rfl | rfl | rfl | rfl | rfl |
    rfl | rfl | rfl | rfl | rfl <;> rfl

theorem next_quoteCharacter (character : Char) (rest : List Char) :
    next (quoteCharacter character ++ rest) = some (.literal character, rest) := by
  unfold quoteCharacter
  split
  · rename_i special
    simp only [List.cons_append, List.nil_append, next,
      escape_special (List.contains_iff_mem.mp special)]
  · rename_i plain
    rw [List.singleton_append]
    unfold next
    split
    case h_1 same => exact nomatch same
    -- No character that means anything is plain, so that the last case is the only one.
    all_goals
      rename_i same
      obtain ⟨rfl, rfl⟩ := List.cons.inj same
      first
      | rfl
      | exact absurd (by decide) plain

/-- A quoted text is divided into its characters. -/
theorem all_quoted {text : List Char} {fuel : Nat} (enough : text.length ≤ fuel) :
    all fuel (text.flatMap quoteCharacter) = some (text.map .literal) := by
  induction text generalizing fuel with
  | nil => cases fuel <;> rfl
  | cons character rest inductionHypothesis =>
    obtain ⟨less, rfl⟩ := Nat.exists_eq_add_of_le' (Nat.one_le_of_lt enough)
    rw [List.flatMap_cons, all, next_quoteCharacter]
    · show (all less (rest.flatMap quoteCharacter)).bind _ = _
      rw [inductionHypothesis (Nat.le_of_succ_le_succ enough)]
      rfl
    · exact List.append_ne_nil_of_left_ne_nil (quoteCharacter_ne_nil character) _

theorem scan?_quote (text : String) : scan? (quote text) = some (text.toList.map .literal) := by
  have longer (characters : List Char) :
      characters.length ≤ (characters.flatMap quoteCharacter).length := by
    induction characters with
    | nil => exact le_rfl
    | cons character rest inductionHypothesis =>
      have some := List.length_pos_iff.mpr (quoteCharacter_ne_nil character)
      rw [List.flatMap_cons, List.length_append, List.length_cons]
      omega
  unfold scan? quote
  rw [String.toList_ofList, String.length_ofList]
  exact all_quoted (longer _)

end Token

/-! ### Expressions -/

/-- The letters of a text, one after the other. -/
def Expr.letters (text : List Char) : Expr :=
  .inSequence (text.map fun character => .one (.letter (Text.foldKey character)))

theorem Parser.foldlM_literals (text : List Char) (parser : Parser)
    (ignoring : parser.reading.ignoresCase = true) :
    ∃ last, (text.map Token.literal).foldlM step parser = some last ∧
      last.outer = parser.outer ∧ last.level.branches = parser.level.branches ∧
      last.level.items =
        (text.map fun character => .one (.letter (Text.foldKey character))).reverse ++
          parser.level.items := by
  induction text generalizing parser with
  | nil => exact ⟨parser, rfl, rfl, rfl, rfl⟩
  | cons character rest inductionHypothesis =>
    have item : CharSet.ofLiteral parser.reading.ignoresCase character =
        .letter (Text.foldKey character) := by
      rw [ignoring]
      rfl
    obtain ⟨last, stepped, outer, branches, items⟩ := inductionHypothesis
      (parser.push (.one (.ofLiteral parser.reading.ignoresCase character))) ignoring
    refine ⟨last, stepped, outer, branches, ?_⟩
    rw [items, List.map_cons, List.reverse_cons, List.append_assoc, ← item]
    rfl

theorem Expr.ofTokens?_literals (text : List Char) :
    ofTokens? (text.map .literal) = some (letters text) := by
  obtain ⟨last, stepped, outer, branches, items⟩ :=
    Parser.foldlM_literals text .start rfl
  unfold ofTokens?
  rw [stepped, Option.bind_some]
  unfold Parser.finish? Level.toExpr Level.endBranch letters
  rw [outer, branches, items]
  simp [Parser.start, Expr.oneOf]

theorem Expr.size_letters (text : List Char) : (letters text).size = text.length := by
  unfold letters
  induction text with
  | nil => rfl
  | cons character rest inductionHypothesis =>
    cases rest with
    | nil => rfl
    | cons =>
      rw [List.map_cons, List.length_cons, ← inductionHypothesis]
      exact Nat.add_comm _ _

/-- A quoted text can be compiled unless it is too long. -/
theorem Expr.ofText?_quote (text : String) : ofText? (quote text) =
    if text.toList.length ≤ sizeLimit then some (letters text.toList) else none := by
  unfold ofText?
  rw [Token.scan?_quote, Option.bind_some, ofTokens?_literals]
  show (if (letters text.toList).size ≤ sizeLimit then _ else _) = _
  rw [size_letters]

/-! ### Where a quoted text occurs -/

theorem matches_inSequence_cons_iff {text : List Char} {first : Expr} {rest : List Expr}
    {start finish : Nat} :
    Matches text (.inSequence (first :: rest)) start finish ↔
      ∃ middle, Matches text first start middle ∧ Matches text (.inSequence rest) middle finish := by
  cases rest with
  | nil =>
    constructor
    · exact fun matched => ⟨finish, matched, .empty finish matched.forward.2⟩
    · rintro ⟨middle, matched, none⟩
      obtain ⟨rfl, -⟩ := matches_empty_iff.mp none
      exact matched
  | cons => exact matches_sequence_iff

theorem matches_letters_iff {letters text : List Char} {start finish : Nat} :
    Matches text (.letters letters) start finish ↔
      start ≤ text.length ∧ finish = start + letters.length ∧
        letters.map Text.foldKey <+: (text.drop start).map Text.foldKey := by
  induction letters generalizing start with
  | nil =>
    show Matches text .empty start finish ↔ _
    rw [matches_empty_iff]
    constructor
    · exact fun ⟨same, inside⟩ => ⟨inside, same.symm, List.nil_prefix⟩
    · exact fun ⟨inside, same, _⟩ => ⟨same.symm, inside⟩
  | cons letter rest inductionHypothesis =>
    show Matches text (.inSequence (_ :: _)) start finish ↔ _
    rw [matches_inSequence_cons_iff]
    constructor
    · rintro ⟨middle, once, others⟩
      obtain ⟨rfl, character, stands, own⟩ := matches_one_iff.mp once
      obtain ⟨inside, same, before⟩ := inductionHypothesis.mp others
      obtain ⟨bound, rfl⟩ := List.getElem?_eq_some_iff.mp stands
      refine ⟨bound.le, by rw [same, List.length_cons]; omega, ?_⟩
      rw [List.drop_eq_getElem_cons bound, List.map_cons, List.map_cons]
      exact List.cons_prefix_cons.mpr ⟨(beq_iff_eq.mp own).symm, before⟩
    · rintro ⟨inside, rfl, before⟩
      have bound : start < text.length := by
        refine lt_of_le_of_ne inside fun atEnd => ?_
        rw [atEnd, List.drop_length] at before
        exact absurd (List.prefix_nil.mp before) (List.cons_ne_nil _ _)
      rw [List.drop_eq_getElem_cons bound, List.map_cons, List.map_cons] at before
      obtain ⟨own, others⟩ := List.cons_prefix_cons.mp before
      refine ⟨start + 1, matches_one_iff.mpr ⟨rfl, text[start], ?_, beq_iff_eq.mpr own.symm⟩, ?_⟩
      · exact List.getElem?_eq_getElem bound
      · refine inductionHypothesis.mpr ⟨bound, ?_, others⟩
        rw [List.length_cons]
        omega

theorem occurs_letters_iff {letters text : List Char} :
    (Expr.letters letters).Occurs text ↔
      letters.map Text.foldKey <:+: text.map Text.foldKey := by
  unfold Expr.Occurs
  simp only [matches_letters_iff, List.map_drop]
  constructor
  · rintro ⟨start, _, -, -, before⟩
    exact before.isInfix.trans (List.drop_suffix start _).isInfix
  · rintro ⟨before, after, same⟩
    refine ⟨before.length, _, ?_, rfl, ?_⟩
    · have lengths := congrArg List.length same
      simp only [List.length_append, List.length_map] at lengths
      omega
    · rw [← same, List.append_assoc, List.drop_left]
      exact List.prefix_append _ _

instance : Dialect.IsLiteral where
  occursIn_quote_iff {text pattern} compiled message := by
    obtain ⟨expr, read, occurs⟩ := exists_expr_of_compile? compiled
    rw [Expr.ofText?_quote] at read
    split at read
    · obtain rfl := Option.some.inj read
      exact (occurs message).trans occurs_letters_iff
    · exact nomatch read

end Triage.Pattern
