/-
This file proves that a search finds what occurs. The bits of a number are a set of positions, and
the ends that a search finds from a set of starts are those positions at which the expression can
end when it starts at one of them. This is proved expression by expression.

Repetitions are the only ones that take an argument, since a search takes fewer steps than it might
have to: never more than there are positions. No match goes back, so among more repetitions than the
match has characters there is one that takes nothing. Where one takes nothing it can be taken any
number of times or not at all, and the number of repetitions is no matter any more, as long as it is
not below the number of characters.
-/

import Mathlib.Order.MinMax
import Mathlib.Order.Nat
import Triage.Pattern.Search

namespace Triage.Pattern

variable {text : List Char}

/-! ### What matches -/

section

variable {start finish : Nat}

theorem matches_empty_iff :
    Matches text .empty start finish ↔ start = finish ∧ start ≤ text.length := by
  constructor
  · rintro ⟨⟩
    exact ⟨rfl, ‹_›⟩
  · rintro ⟨rfl, inside⟩
    exact .empty start inside

theorem matches_one_iff {set : CharSet} :
    Matches text (.one set) start finish ↔
      start + 1 = finish ∧ ∃ character, text[start]? = some character ∧ set.has character = true := by
  constructor
  · rintro ⟨⟩
    exact ⟨rfl, _, ‹_›, ‹_›⟩
  · rintro ⟨rfl, character, stands, member⟩
    exact .one set start character stands member

theorem matches_check_iff {assertion : Assertion} :
    Matches text (.check assertion) start finish ↔
      start = finish ∧ start ≤ text.length ∧ assertion.holds (sidesAt text start) = true := by
  constructor
  · rintro ⟨⟩
    exact ⟨rfl, ‹_›, ‹_›⟩
  · rintro ⟨rfl, inside, holds⟩
    exact .check assertion start inside holds

theorem matches_sequence_iff {first second : Expr} :
    Matches text (.sequence first second) start finish ↔
      ∃ middle, Matches text first start middle ∧ Matches text second middle finish := by
  constructor
  · rintro ⟨⟩
    exact ⟨_, ‹_›, ‹_›⟩
  · rintro ⟨middle, early, late⟩
    exact .sequence first second start middle finish early late

theorem matches_choice_iff {first second : Expr} :
    Matches text (.choice first second) start finish ↔
      Matches text first start finish ∨ Matches text second start finish := by
  constructor
  · rintro ⟨⟩
    · exact .inl ‹_›
    · exact .inr ‹_›
  · rintro (left | right)
    · exact .first first second start finish left
    · exact .second first second start finish right

theorem matches_repeated_iff {body : Expr} {least : Nat} {most : Option Nat} :
    Matches text (.repeated body least most) start finish ↔
      ∃ count, least ≤ count ∧ (∀ bound, most = some bound → count ≤ bound) ∧
        MatchesTimes text body count start finish := by
  constructor
  · rintro ⟨⟩
    exact ⟨_, ‹_›, ‹_›, ‹_›⟩
  · rintro ⟨count, enough, within, matched⟩
    exact .repeated body least most count start finish enough within matched

theorem matchesTimes_zero_iff {body : Expr} :
    MatchesTimes text body 0 start finish ↔ start = finish ∧ start ≤ text.length := by
  constructor
  · rintro ⟨⟩
    exact ⟨rfl, ‹_›⟩
  · rintro ⟨rfl, inside⟩
    exact .none body start inside

theorem matchesTimes_succ_iff {body : Expr} {count : Nat} :
    MatchesTimes text body (count + 1) start finish ↔
      ∃ middle, Matches text body start middle ∧ MatchesTimes text body count middle finish := by
  constructor
  · rintro ⟨⟩
    exact ⟨_, ‹_›, ‹_›⟩
  · rintro ⟨middle, once, again⟩
    exact .more body count start middle finish once again

end

/-! ### A match goes forward -/

theorem MatchesTimes.forward_of {body : Expr}
    (once : ∀ {start finish}, Matches text body start finish → start ≤ finish ∧ finish ≤ text.length)
    {count start finish : Nat} (matched : MatchesTimes text body count start finish) :
    start ≤ finish ∧ finish ≤ text.length := by
  induction count generalizing start with
  | zero =>
    obtain ⟨rfl, inside⟩ := matchesTimes_zero_iff.mp matched
    exact ⟨le_rfl, inside⟩
  | succ count inductionHypothesis =>
    obtain ⟨middle, first, rest⟩ := matchesTimes_succ_iff.mp matched
    exact ⟨(once first).1.trans (inductionHypothesis rest).1, (inductionHypothesis rest).2⟩

/-- A match does not go back, and stays in the text. -/
theorem Matches.forward {expr : Expr} {start finish : Nat} (matched : Matches text expr start finish) :
    start ≤ finish ∧ finish ≤ text.length := by
  induction expr generalizing start finish with
  | empty =>
    obtain ⟨rfl, inside⟩ := matches_empty_iff.mp matched
    exact ⟨le_rfl, inside⟩
  | one set =>
    obtain ⟨rfl, character, stands, -⟩ := matches_one_iff.mp matched
    exact ⟨Nat.le_succ start, (List.getElem?_eq_some_iff.mp stands).1⟩
  | check assertion =>
    obtain ⟨rfl, inside, -⟩ := matches_check_iff.mp matched
    exact ⟨le_rfl, inside⟩
  | sequence first second early late =>
    obtain ⟨middle, one, two⟩ := matches_sequence_iff.mp matched
    exact ⟨(early one).1.trans (late two).1, (late two).2⟩
  | choice first second left right =>
    exact (matches_choice_iff.mp matched).elim left right
  | repeated body least most once =>
    obtain ⟨count, -, -, times⟩ := matches_repeated_iff.mp matched
    exact times.forward_of once

namespace MatchesTimes

variable {body : Expr} {count start finish : Nat}

theorem forward (matched : MatchesTimes text body count start finish) :
    start ≤ finish ∧ finish ≤ text.length :=
  matched.forward_of Matches.forward

/-! ### Repetitions -/

theorem add_iff {more : Nat} : MatchesTimes text body (count + more) start finish ↔
    ∃ middle, MatchesTimes text body count start middle ∧
      MatchesTimes text body more middle finish := by
  induction count generalizing start with
  | zero =>
    rw [Nat.zero_add]
    constructor
    · intro matched
      exact ⟨start, .none body start (matched.forward.1.trans matched.forward.2), matched⟩
    · rintro ⟨middle, none, matched⟩
      obtain ⟨rfl, -⟩ := matchesTimes_zero_iff.mp none
      exact matched
  | succ count inductionHypothesis =>
    simp only [Nat.succ_add, matchesTimes_succ_iff, inductionHypothesis]
    constructor
    · rintro ⟨first, once, middle, early, late⟩
      exact ⟨middle, ⟨first, once, early⟩, late⟩
    · rintro ⟨middle, ⟨first, once, early⟩, late⟩
      exact ⟨first, once, middle, early, late⟩

/-- What takes nothing can be repeated as often as one likes. -/
theorem of_stationary (stationary : Matches text body start start) (count : Nat) :
    MatchesTimes text body count start start := by
  induction count with
  | zero => exact .none body start stationary.forward.2
  | succ count inductionHypothesis =>
    exact .more body count start start start stationary inductionHypothesis

/-- Among more repetitions than characters there is one that takes nothing, and so their number may be
any other one that is not below the number of characters. -/
theorem of_enough (matched : MatchesTimes text body count start finish)
    (idle : finish - start < count) {other : Nat} (enough : finish - start ≤ other) :
    MatchesTimes text body other start finish := by
  induction count generalizing start other with
  | zero => exact absurd idle (Nat.not_lt_zero _)
  | succ count inductionHypothesis =>
    obtain ⟨middle, once, rest⟩ := matchesTimes_succ_iff.mp matched
    have forward := once.forward.1
    have onward := rest.forward.1
    obtain rfl | further := forward.eq_or_lt
    · -- The first one takes nothing. It fills up the number when none of the others does so, too.
      by_cases idler : finish - start < count
      · exact inductionHypothesis rest idler enough
      · obtain ⟨more, rfl⟩ := Nat.exists_eq_add_of_le' (show count ≤ other by omega)
        exact add_iff.mpr ⟨start, of_stationary once more, rest⟩
    · obtain ⟨fewer, rfl⟩ : ∃ fewer, other = fewer + 1 := ⟨other - 1, by omega⟩
      exact .more body fewer start middle finish once
        (inductionHypothesis rest (by omega) (by omega))

end MatchesTimes

/-! ### Sets of positions -/

theorem testBit_maskOf (condition : Sides → Bool) (sides : List Sides) (position : Nat) :
    (maskOf condition sides).testBit position = sides[position]?.any condition := by
  induction sides generalizing position with
  | nil => rw [maskOf, Nat.zero_testBit, List.getElem?_nil, Option.any_none]
  | cons first rest inductionHypothesis =>
    rw [maskOf]
    cases position with
    | zero => cases holds : condition first <;> simp [holds]
    | succ position =>
      have half : (2 * maskOf condition rest + if condition first then 1 else 0) / 2 =
          maskOf condition rest := by
        split <;> omega
      rw [Nat.testBit_succ, half, inductionHypothesis, List.getElem?_cons_succ]

theorem getElem?_sidesFrom (before : Option Char) (text : List Char) (position : Nat) :
    (sidesFrom before text)[position]? =
      if position ≤ text.length then
        some ⟨if position = 0 then before else text[position - 1]?, text[position]?⟩
      else none := by
  induction text generalizing before position with
  | nil => cases position <;> rfl
  | cons character rest inductionHypothesis =>
    cases position with
    | zero => rfl
    | succ position =>
      rw [sidesFrom, List.getElem?_cons_succ, inductionHypothesis]
      simp only [List.length_cons, Nat.add_le_add_iff_right, Nat.succ_ne_zero, if_false,
        Nat.add_sub_cancel, List.getElem?_cons_succ]
      cases position <;> rfl

/-- The mask of a condition holds the positions of a text at which the condition is satisfied. -/
theorem testBit_maskOf_sidesFrom (condition : Sides → Bool) (position : Nat) :
    (maskOf condition (sidesFrom none text)).testBit position = true ↔
      position ≤ text.length ∧ condition (sidesAt text position) = true := by
  rw [testBit_maskOf, getElem?_sidesFrom]
  split
  · rename_i inside
    rw [Option.any_some, and_iff_right inside]
    rfl
  · rename_i outside
    simp [outside]

/-- All positions of a set are in the text. -/
def IsWithin (text : List Char) (starts : Nat) : Prop :=
  ∀ start, starts.testBit start = true → start ≤ text.length

/-- A step on sets of positions reaches what an expression reaches. -/
def Finds (text : List Char) (expr : Expr) (move : Nat → Nat) : Prop :=
  ∀ starts, IsWithin text starts → ∀ finish, (move starts).testBit finish = true ↔
    ∃ start, starts.testBit start = true ∧ Matches text expr start finish

section

variable {body : Expr} {move : Nat → Nat} {starts : Nat}

theorem Finds.isWithin (finds : Finds text body move) (within : IsWithin text starts) :
    IsWithin text (move starts) := by
  intro finish reached
  obtain ⟨start, -, matched⟩ := (finds _ within finish).mp reached
  exact matched.forward.2

theorem Finds.testBit_times (finds : Finds text body move) (within : IsWithin text starts)
    (count finish : Nat) :
    (times move count starts).testBit finish = true ↔
      ∃ start, starts.testBit start = true ∧ MatchesTimes text body count start finish := by
  induction count generalizing starts with
  | zero =>
    constructor
    · exact fun member => ⟨finish, member, .none body finish (within finish member)⟩
    · rintro ⟨start, member, none⟩
      obtain ⟨rfl, -⟩ := matchesTimes_zero_iff.mp none
      exact member
  | succ count inductionHypothesis =>
    rw [times, inductionHypothesis (finds.isWithin within)]
    constructor
    · rintro ⟨middle, reached, rest⟩
      obtain ⟨start, member, once⟩ := (finds _ within middle).mp reached
      exact ⟨start, member, .more body count start middle finish once rest⟩
    · rintro ⟨start, member, matched⟩
      obtain ⟨middle, once, rest⟩ := matchesTimes_succ_iff.mp matched
      exact ⟨middle, (finds _ within middle).mpr ⟨start, member, once⟩, rest⟩

/-- A set from which nothing new is reached holds whatever is reached by repetitions. -/
theorem Finds.testBit_of_closed (finds : Finds text body move) (within : IsWithin text starts)
    (closed : starts ||| move starts = starts) {count start finish : Nat}
    (member : starts.testBit start = true) (matched : MatchesTimes text body count start finish) :
    starts.testBit finish = true := by
  induction count generalizing start with
  | zero =>
    obtain ⟨rfl, -⟩ := matchesTimes_zero_iff.mp matched
    exact member
  | succ count inductionHypothesis =>
    obtain ⟨middle, once, rest⟩ := matchesTimes_succ_iff.mp matched
    refine inductionHypothesis ?_ rest
    rw [← closed, Nat.testBit_or, (finds _ within middle).mpr ⟨start, member, once⟩, Bool.or_true]

theorem Finds.testBit_atMost (finds : Finds text body move) (within : IsWithin text starts)
    (limit finish : Nat) :
    (atMost move limit starts).testBit finish = true ↔
      ∃ start, starts.testBit start = true ∧
        ∃ count ≤ limit, MatchesTimes text body count start finish := by
  induction limit generalizing starts with
  | zero =>
    refine ⟨fun member => ⟨finish, member, 0, le_rfl, .none body finish (within finish member)⟩, ?_⟩
    rintro ⟨start, member, count, few, none⟩
    obtain rfl := Nat.le_zero.mp few
    obtain ⟨rfl, -⟩ := matchesTimes_zero_iff.mp none
    exact member
  | succ limit inductionHypothesis =>
    simp only [atMost]
    split
    · rename_i closed
      refine ⟨fun member => ⟨finish, member, 0, Nat.zero_le _,
        .none body finish (within finish member)⟩, ?_⟩
      rintro ⟨start, member, count, -, matched⟩
      exact finds.testBit_of_closed within closed member matched
    · have onward (position : Nat) : (starts ||| move starts).testBit position = true ↔
          starts.testBit position = true ∨ (move starts).testBit position = true := by
        rw [Nat.testBit_or, Bool.or_eq_true]
      have inside : IsWithin text (starts ||| move starts) := fun position member =>
        ((onward position).mp member).elim (within position) (finds.isWithin within position)
      rw [inductionHypothesis inside]
      constructor
      · rintro ⟨middle, member, count, few, matched⟩
        obtain old | new := (onward middle).mp member
        · exact ⟨middle, old, count, few.trans limit.le_succ, matched⟩
        · obtain ⟨start, first, once⟩ := (finds _ within middle).mp new
          exact ⟨start, first, count + 1, Nat.succ_le_succ few,
            .more body count start middle finish once matched⟩
      · rintro ⟨start, member, count, few, matched⟩
        cases count with
        | zero => exact ⟨start, (onward start).mpr (.inl member), 0, limit.zero_le, matched⟩
        | succ count =>
          obtain ⟨middle, once, rest⟩ := matchesTimes_succ_iff.mp matched
          exact ⟨middle, (onward middle).mpr (.inr ((finds _ within middle).mpr ⟨start, member, once⟩)),
            count, Nat.le_of_succ_le_succ few, rest⟩

/-- Repetitions of which a number is required and a number is allowed on top. -/
theorem Finds.testBit_atMost_times (finds : Finds text body move) (within : IsWithin text starts)
    (required extra finish : Nat) :
    (atMost move extra (times move required starts)).testBit finish = true ↔
      ∃ start, starts.testBit start = true ∧
        ∃ count, required ≤ count ∧ count ≤ required + extra ∧
          MatchesTimes text body count start finish := by
  have inside : IsWithin text (times move required starts) := by
    intro position reached
    obtain ⟨start, -, matched⟩ := (finds.testBit_times within required position).mp reached
    exact matched.forward.2
  rw [finds.testBit_atMost inside]
  constructor
  · rintro ⟨middle, reached, count, few, late⟩
    obtain ⟨start, member, early⟩ := (finds.testBit_times within required middle).mp reached
    exact ⟨start, member, required + count, Nat.le_add_right _ _, Nat.add_le_add_left few _,
      MatchesTimes.add_iff.mpr ⟨middle, early, late⟩⟩
  · rintro ⟨start, member, count, enough, few, matched⟩
    obtain ⟨more, rfl⟩ := Nat.exists_eq_add_of_le enough
    obtain ⟨middle, early, late⟩ := MatchesTimes.add_iff.mp matched
    exact ⟨middle, (finds.testBit_times within required middle).mpr ⟨start, member, early⟩, more,
      Nat.le_of_add_le_add_left few, late⟩

end

/-! ### Repetitions in a search -/

/-- The numbers of repetitions that a search tries are as good as those that are asked for. -/
theorem matches_repeated_iff_few {body : Expr} {least start finish : Nat} {most : Option Nat}
    (ordered : ∀ bound, most = some bound → least ≤ bound) :
    let positions := text.length + 1
    Matches text (.repeated body least most) start finish ↔
      ∃ count, min least positions ≤ count ∧
        count ≤ min least positions +
          (most.elim positions fun bound => min (bound - least) positions) ∧
        MatchesTimes text body count start finish := by
  intro positions
  rw [matches_repeated_iff]
  constructor
  · rintro ⟨count, enough, within, matched⟩
    have forward := matched.forward
    by_cases idle : finish - start < count
    · refine ⟨max (min least positions) (finish - start), le_max_left _ _, ?_,
        matched.of_enough idle (le_max_right _ _)⟩
      cases most with
      | none => simp only [Option.elim_none]; omega
      | some bound =>
        have := within bound rfl
        simp only [Option.elim_some]
        omega
    · refine ⟨count, (min_le_left _ _).trans enough, ?_, matched⟩
      cases most with
      | none => simp only [Option.elim_none]; omega
      | some bound =>
        have := within bound rfl
        simp only [Option.elim_some]
        omega
  · rintro ⟨count, enough, within, matched⟩
    have forward := matched.forward
    by_cases small : least ≤ positions
    · refine ⟨count, by omega, ?_, matched⟩
      rintro bound rfl
      have := ordered bound rfl
      simp only [Option.elim_some] at within
      omega
    · exact ⟨least, le_rfl, ordered, matched.of_enough (by omega) (by omega)⟩

/-- No repetition in an expression is asked for more often than it is allowed. -/
def Expr.HasOrderedBounds : Expr → Prop
  | empty => True
  | one _ => True
  | check _ => True
  | sequence first second => first.HasOrderedBounds ∧ second.HasOrderedBounds
  | choice first second => first.HasOrderedBounds ∧ second.HasOrderedBounds
  | repeated body least most =>
    (∀ bound, most = some bound → least ≤ bound) ∧ body.HasOrderedBounds

/-! ### Searching -/

/-- The ends of an expression that has been laid over a text are those of its matches. -/
theorem finds_ends_lay {expr : Expr} (ordered : expr.HasOrderedBounds) :
    Finds text expr ((expr.lay (sidesFrom none text)).ends (text.length + 1)) := by
  induction expr with
  | empty =>
    intro starts within finish
    simp only [matches_empty_iff]
    constructor
    · exact fun member => ⟨finish, member, rfl, within finish member⟩
    · rintro ⟨start, member, rfl, -⟩
      exact member
  | one set =>
    intro starts within finish
    have stands (start : Nat) :
        (maskOf (fun sides => sides.after.any set.has) (sidesFrom none text)).testBit start = true ↔
          ∃ character, text[start]? = some character ∧ set.has character = true := by
      rw [testBit_maskOf_sidesFrom, ← Option.any_eq_true]
      refine and_iff_right_of_imp fun holds => ?_
      obtain ⟨character, listed, -⟩ := (Option.any_eq_true _ _).mp holds
      exact (List.getElem?_eq_some_iff.mp listed).1.le
    simp only [matches_one_iff, ← stands]
    show ((starts &&& _) <<< 1).testBit finish = true ↔ _
    rw [Nat.testBit_shiftLeft, Nat.testBit_and, Bool.and_eq_true, Bool.and_eq_true, decide_eq_true_eq]
    constructor
    · exact fun ⟨positive, member, stands⟩ =>
        ⟨finish - 1, member, Nat.sub_add_cancel positive, stands⟩
    · rintro ⟨start, member, rfl, stands⟩
      exact ⟨Nat.le_add_left 1 start, member, stands⟩
  | check assertion =>
    intro starts within finish
    show (starts &&& _).testBit finish = true ↔ _
    rw [Nat.testBit_and, Bool.and_eq_true, testBit_maskOf_sidesFrom]
    simp only [matches_check_iff]
    constructor
    · exact fun ⟨member, holds⟩ => ⟨finish, member, rfl, holds⟩
    · rintro ⟨start, member, rfl, holds⟩
      exact ⟨member, holds⟩
  | sequence first second early late =>
    intro starts within finish
    show (((second.lay _).ends _ ((first.lay _).ends _ starts))).testBit finish = true ↔ _
    rw [late ordered.2 _ ((early ordered.1).isWithin within)]
    simp only [matches_sequence_iff, early ordered.1 _ within]
    constructor
    · rintro ⟨middle, ⟨start, member, one⟩, two⟩
      exact ⟨start, member, middle, one, two⟩
    · rintro ⟨start, member, middle, one, two⟩
      exact ⟨middle, ⟨start, member, one⟩, two⟩
  | choice first second left right =>
    intro starts within finish
    show (((first.lay _).ends _ starts ||| (second.lay _).ends _ starts)).testBit finish = true ↔ _
    rw [Nat.testBit_or, Bool.or_eq_true, left ordered.1 _ within, right ordered.2 _ within]
    simp only [matches_choice_iff, and_or_left, exists_or]
  | repeated body least most once =>
    intro starts within finish
    simp only [matches_repeated_iff_few ordered.1,
      ← (once ordered.2).testBit_atMost_times within]
    cases most <;> rfl

/-- A pattern is found in a text just when it occurs there. -/
theorem Expr.occursIn_iff_occurs {expr : Expr} (ordered : expr.HasOrderedBounds) (text : List Char) :
    expr.occursIn text = true ↔ expr.Occurs text := by
  have everywhere (start : Nat) :
      (Nat.pow 2 (text.length + 1) - 1).testBit start = true ↔ start ≤ text.length := by
    show (2 ^ (text.length + 1) - 1).testBit start = true ↔ _
    rw [Nat.testBit_two_pow_sub_one, decide_eq_true_eq, Nat.lt_succ_iff]
  have ends := finds_ends_lay ordered _ fun start member => (everywhere start).mp member
  have some (ends : Nat) : (ends != 0) = true ↔ ∃ finish, ends.testBit finish = true := by
    rw [bne_iff_ne]
    constructor
    · exact Nat.exists_testBit_of_ne_zero
    · rintro ⟨finish, member⟩ rfl
      exact absurd member (by simp)
  unfold occursIn Occurs
  simp only [some, ends, everywhere]
  constructor
  · rintro ⟨finish, start, -, matched⟩
    exact ⟨start, finish, matched⟩
  · rintro ⟨start, finish, matched⟩
    exact ⟨finish, start, matched.forward.1.trans matched.forward.2, matched⟩

end Triage.Pattern
