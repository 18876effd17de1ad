/-
This file proves what a rating that is not a number does to the choice of the best strategy. Such a rating
is greater than none and none is greater than it. So it is passed over wherever another strategy has been
found before it, and the best strategy is the one that is best among the ratings that are numbers; but
the first used strategy is taken without a comparison, and if its rating is not a number, then it stays the
best one whatever the others have reached.

A rating is not a number just when the sum of the times is not: rates of success are finite, and the
average and the weights are made with finite numbers other than zero. Times that are not below zero, as
all measured times are, never add up to this, not even when the sum is infinite.
-/

import Triage.Proofs.Ensemble.Ranking
import Triage.Proofs.Number.Finite
import Triage.Proofs.Number.Undefined

namespace Triage

open Number

namespace Scoreboard

section

variable {board : Scoreboard} (complete : board.IsComplete)

include complete

/-! ### One more strategy -/

theorem better_of_unknown (best : Option (Strategy × Float)) {strategy : Strategy}
    (unknown : ¬ board.Knows strategy) : board.better best strategy = best := by
  unfold better
  rw [complete.get?_eq strategy]
  exact if_pos (not_not.mp unknown)

theorem better_none {strategy : Strategy} (known : board.Knows strategy) :
    board.better none strategy = some (strategy, board.rating strategy) := by
  unfold better
  rw [complete.get?_eq strategy]
  exact if_neg known

theorem better_some_of_lt (best : Strategy) {score : Float} {strategy : Strategy}
    (known : board.Knows strategy) (above : score < board.rating strategy) :
    board.better (some (best, score)) strategy = some (strategy, board.rating strategy) := by
  unfold better
  rw [complete.get?_eq strategy]
  exact (if_neg known).trans (if_pos above)

theorem better_some_of_not_lt (best : Strategy) {score : Float} {strategy : Strategy}
    (notAbove : ¬ score < board.rating strategy) :
    board.better (some (best, score)) strategy = some (best, score) := by
  by_cases known : board.Knows strategy
  · unfold better
    rw [complete.get?_eq strategy]
    exact (if_neg known).trans (if_neg notAbove)
  · exact better_of_unknown complete _ known

/-- Strategies that have not been used leave nothing behind. -/
theorem foldl_better_of_unknown {strategies : List Strategy}
    (unknown : ∀ strategy ∈ strategies, ¬ board.Knows strategy) :
    strategies.foldl board.better none = none := by
  induction strategies with
  | nil => rfl
  | cons first rest inductionHypothesis =>
    obtain ⟨firstUnknown, restUnknown⟩ := List.forall_mem_cons.mp unknown
    rw [List.foldl_cons, better_of_unknown complete none firstUnknown]
    exact inductionHypothesis restUnknown

/-- No rating is greater than one that is not a number. -/
theorem foldl_better_of_isNaN {best : Strategy} {score : Float} (undefined : score.isNaN = true)
    (strategies : List Strategy) :
    strategies.foldl board.better (some (best, score)) = some (best, score) := by
  induction strategies with
  | nil => rfl
  | cons first rest inductionHypothesis =>
    rw [List.foldl_cons, better_some_of_not_lt complete best (not_lt_of_isNaN_left undefined)]
    exact inductionHypothesis

/-- The first used strategy is taken without a comparison. -/
theorem foldl_better_of_first {before : List Strategy}
    (unknown : ∀ strategy ∈ before, ¬ board.Knows strategy) {first : Strategy}
    (known : board.Knows first) (after : List Strategy) :
    (before ++ first :: after).foldl board.better none =
      after.foldl board.better (some (first, board.rating first)) := by
  rw [List.foldl_append, foldl_better_of_unknown complete unknown, List.foldl_cons,
    better_none complete known]

end

/-! ### The first used strategy -/

/-- No strategy before this one has been used. -/
structure IsFirst (board : Scoreboard) (first : Strategy) : Prop where
  known : board.Knows first
  earliest : ∀ other, board.Knows other → first.index ≤ other.index

variable {board : Scoreboard} {first : Strategy}

theorem IsFirst.exists_split (isFirst : board.IsFirst first) :
    ∃ before after, Strategy.all = before ++ first :: after ∧
      ∀ other ∈ before, ¬ board.Knows other := by
  obtain ⟨before, after, split⟩ := List.append_of_mem (mem_all first)
  have ordered := pairwise_all
  rw [split, List.pairwise_append] at ordered
  obtain ⟨-, -, earlier⟩ := ordered
  refine ⟨before, after, split, fun other member known => ?_⟩
  exact Nat.not_lt.mpr (isFirst.earliest other known) (earlier other member first List.mem_cons_self)

/-- The others are gone through with it as the best so far. -/
theorem best_of_first (complete : board.IsComplete) {before after : List Strategy}
    (split : Strategy.all = before ++ first :: after)
    (unknown : ∀ other ∈ before, ¬ board.Knows other) (known : board.Knows first) :
    board.best = (after.foldl board.better (some (first, board.rating first))).map (·.1) := by
  unfold best
  rw [split, foldl_better_of_first complete unknown known]

/-- When its rating is not a number, then it is the best strategy. -/
theorem IsFirst.best_of_isNaN (isFirst : board.IsFirst first) (complete : board.IsComplete)
    (undefined : (board.rating first).isNaN = true) : board.best = some first := by
  obtain ⟨before, after, split, unknown⟩ := isFirst.exists_split
  rw [best_of_first complete split unknown isFirst.known, foldl_better_of_isNaN complete undefined]
  rfl

/-! ### Ratings that are numbers -/

/-- The scoreboard on which a strategy whose rating is not a number has not been used. -/
def withoutUndefined (board : Scoreboard) : Scoreboard :=
  ⟨board.entries.map fun entry => (entry.1, if entry.2.score.isNaN then {} else entry.2)⟩

section

variable (complete : board.IsComplete)

include complete

theorem IsComplete.withoutUndefined : board.withoutUndefined.IsComplete := by
  unfold IsComplete at *
  rw [← complete]
  exact List.map_map ..

theorem tally_withoutUndefined (strategy : Strategy) :
    board.withoutUndefined.tally strategy =
      if (board.rating strategy).isNaN then {} else board.tally strategy := by
  have held := complete.get?_eq strategy
  unfold get? at held
  obtain ⟨entry, found, own⟩ := Option.map_eq_some_iff.mp held
  unfold rating
  rw [← own]
  unfold tally get? Scoreboard.withoutUndefined
  rw [List.find?_map]
  show (Option.map _ (Option.map _ (board.entries.find? (·.1 == strategy)))).getD _ = _
  rw [found]
  rfl

theorem knows_withoutUndefined_iff (strategy : Strategy) :
    board.withoutUndefined.Knows strategy ↔
      board.Knows strategy ∧ (board.rating strategy).isNaN = false := by
  unfold Knows
  rw [tally_withoutUndefined complete]
  split_ifs with undefined
  · exact iff_of_false (not_not_intro rfl) fun defined => absurd (defined.2.symm.trans undefined) nofun
  · exact (and_iff_left (Bool.eq_false_iff.mpr undefined)).symm

theorem rating_withoutUndefined {strategy : Strategy}
    (number : (board.rating strategy).isNaN = false) :
    board.withoutUndefined.rating strategy = board.rating strategy := by
  unfold rating at *
  rw [tally_withoutUndefined complete, if_neg]
  exact Bool.eq_false_iff.mp number

/-- Once a strategy has been found, those whose ratings are not numbers make no difference. -/
theorem foldl_better_withoutUndefined (best : Strategy) (score : Float)
    (strategies : List Strategy) :
    strategies.foldl board.withoutUndefined.better (some (best, score)) =
      strategies.foldl board.better (some (best, score)) := by
  induction strategies generalizing best score with
  | nil => rfl
  | cons strategy rest inductionHypothesis =>
    have clean := complete.withoutUndefined
    have knows := knows_withoutUndefined_iff complete strategy
    rw [List.foldl_cons, List.foldl_cons]
    cases undefined : (board.rating strategy).isNaN with
    | true =>
      have unknown : ¬ board.withoutUndefined.Knows strategy := fun known =>
        absurd (undefined.symm.trans (knows.mp known).2) nofun
      rw [better_of_unknown clean _ unknown,
        better_some_of_not_lt complete best (not_lt_of_isNaN_right undefined)]
      exact inductionHypothesis best score
    | false =>
      have same := rating_withoutUndefined complete undefined
      by_cases known : board.Knows strategy
      · by_cases above : score < board.rating strategy
        · rw [better_some_of_lt complete best known above,
            better_some_of_lt clean best (knows.mpr ⟨known, undefined⟩) (same.symm ▸ above), same]
          exact inductionHypothesis strategy _
        · rw [better_some_of_not_lt complete best above,
            better_some_of_not_lt clean best (same.symm ▸ above)]
          exact inductionHypothesis best score
      · rw [better_of_unknown complete _ known,
          better_of_unknown clean _ fun cleanKnown => known (knows.mp cleanKnown).1]
        exact inductionHypothesis best score

/-- When the rating of the first used strategy is a number, then those that are not numbers make no
difference at all. -/
theorem IsFirst.best_withoutUndefined (isFirst : board.IsFirst first)
    (number : (board.rating first).isNaN = false) : board.withoutUndefined.best = board.best := by
  obtain ⟨before, after, split, unknown⟩ := isFirst.exists_split
  have clean := complete.withoutUndefined
  have knows := knows_withoutUndefined_iff complete
  have cleanUnknown : ∀ other ∈ before, ¬ board.withoutUndefined.Knows other :=
    fun other member known => unknown other member ((knows other).mp known).1
  rw [best_of_first clean split cleanUnknown ((knows first).mpr ⟨isFirst.known, number⟩),
    best_of_first complete split unknown isFirst.known, rating_withoutUndefined complete number,
    foldl_better_withoutUndefined complete]

/-- The best strategy is the first of those with the greatest rating among the ratings that are numbers,
if that of the first used strategy is one. -/
theorem IsFirst.exists_best (isFirst : board.IsFirst first)
    (number : (board.rating first).isNaN = false) :
    ∃ strategy, board.best = some strategy ∧ board.Knows strategy ∧
      (board.rating strategy).isNaN = false ∧
      ∀ other, board.Knows other → (board.rating other).isNaN = false →
        board.rating other ≤ board.rating strategy ∧
          (other.index < strategy.index → board.rating other < board.rating strategy) := by
  have knows := knows_withoutUndefined_iff complete
  have same := @rating_withoutUndefined board complete
  have numbers : ∀ strategy, board.withoutUndefined.Knows strategy →
      (board.withoutUndefined.rating strategy).isNaN = false := fun strategy known => by
    have defined := ((knows strategy).mp known).2
    rwa [same defined]
  rw [← isFirst.best_withoutUndefined complete number]
  obtain ⟨-, unknown⟩ | ⟨strategy, found, leads⟩ :=
    best_cases complete.withoutUndefined numbers
  · exact absurd ((knows first).mpr ⟨isFirst.known, number⟩) (unknown first)
  · obtain ⟨known, defined⟩ := (knows strategy).mp leads.known
    refine ⟨strategy, found, known, defined, fun other otherKnown otherDefined => ?_⟩
    rw [← same defined, ← same otherDefined]
    have cleanKnown := (knows other).mpr ⟨otherKnown, otherDefined⟩
    exact ⟨leads.greatest other cleanKnown, leads.first other cleanKnown⟩

end

end Scoreboard

/-! ### Ratings that are not numbers -/

namespace Tally

theorem hasSize_hundred : HasSize 100 (7036874417766400 * 2 ^ (-46 : Int) : ℚ) := by
  have unpacked : (100 : Float).toModel.unpack =
      .finite .positive 7036874417766400 (-46) (by decide) := by rfl
  rw [HasSize, unpacked]
  rfl

theorem hasSize_successWeight : HasSize 0.7 (6305039478318694 * 2 ^ (-53 : Int) : ℚ) := by
  have unpacked : (0.7 : Float).toModel.unpack =
      .finite .positive 6305039478318694 (-53) (by decide) := by rfl
  rw [HasSize, unpacked]
  rfl

variable {tally : Tally} {executions : List Execution} (sums : tally.Sums executions)
  (countable : executions.length < UInt64.size)

include sums countable

/-- The part for success is finite. -/
theorem Sums.isFinite_successPart : (tally.successRate * 0.7).isFinite = true := by
  have isDouble : IsDouble (2 ^ (7 : Int)) := isDouble_zpow (by decide) (by decide)
  obtain ⟨rate, rateSized, rate_le⟩ :
      ∃ size : ℚ, HasSize tally.successRate size ∧ size ≤ 2 ^ (7 : Int) := by
    rw [sums.successRate]
    split_ifs with none
    · exact ⟨0, hasSize_zero_literal, (two_zpow_pos 7).le⟩
    · have within : tally.successful ≤ tally.total := sums.failed ▸ Nat.le_add_right _ _
      obtain ⟨share, shareSized, share_le⟩ :=
        exists_hasSize_share (Nat.pos_of_ne_zero none) within (sums.total ▸ countable)
      obtain ⟨rate, rateSized, -, rate_le⟩ := shareSized.exists_weighted hasSize_hundred share_le
        isDouble_zero (mul_nonneg shareSized.isDouble.nonneg hasSize_hundred.isDouble.nonneg)
      exact ⟨rate, rateSized, rate_le.trans (by norm_num)⟩
  have nonneg := rateSized.isDouble.nonneg
  obtain ⟨part, partSized, -⟩ := (rateSized.mul hasSize_successWeight).exists_between isDouble_zero
    isDouble (by positivity) ((mul_le_of_le_one_right nonneg (by norm_num)).trans rate_le)
  exact HasFiniteSize.isFinite ⟨part, partSized⟩

theorem Sums.isNaN_averageTime : tally.averageTime.isNaN = tally.totalTime.isNaN := by
  rw [sums.averageTime]
  split_ifs with none
  · have nothing : executions = [] := List.length_eq_zero_iff.mp (sums.total.symm.trans none)
    rw [sums.totalTime, nothing]
    rfl
  · obtain ⟨whole, wholeSized, one_le_whole, -⟩ :=
      exists_hasSize_count (Nat.pos_of_ne_zero none) (sums.total ▸ countable)
    exact isNaN_div (wholeSized.isProper (one_pos.trans_le one_le_whole))

/-- A rating is a number just when the sum of the times is one. -/
theorem Sums.isNaN_score : tally.score.isNaN = tally.totalTime.isNaN :=
  calc tally.score.isNaN
    _ = ((100 - tally.averageTime * 10) * 0.3).isNaN :=
      isNaN_add (sums.isFinite_successPart countable)
    _ = (100 - tally.averageTime * 10).isNaN := isNaN_mul ⟨_, _, _, by decide, rfl⟩
    _ = (tally.averageTime * 10).isNaN := isNaN_sub rfl
    _ = tally.averageTime.isNaN := isNaN_mul ⟨_, _, _, by decide, rfl⟩
    _ = tally.totalTime.isNaN := sums.isNaN_averageTime countable

end Tally

namespace Scoreboard

/-! ### After any uses -/

/-- The best strategy after any uses, also when ratings are not numbers. It is the first used strategy if
the rating of that one is not a number, however good the others are. Else it is the first of those with the
greatest rating among the used strategies whose ratings are numbers.

A rating is a number just when the sum of the times is one, as long as the executions can be counted in a
machine word, and this sum is one whenever no time is below zero. -/
theorem best_of_ratings_not_all_numbers (uses : List Use) :
    let board := empty.afterAll uses
    let used (strategy : Strategy) := executionsOf strategy uses ≠ []
    let rating (strategy : Strategy) := (board.tally strategy).score
    let time (strategy : Strategy) :=
      ((executionsOf strategy uses).map (·.seconds)).foldl (· + ·) 0
    (∀ first, used first → (∀ other, used other → first.index ≤ other.index) →
        ((rating first).isNaN = true → board.best = some first) ∧
          ((rating first).isNaN = false →
            ∃ strategy, board.best = some strategy ∧ used strategy ∧
              (rating strategy).isNaN = false ∧
              ∀ other, used other → (rating other).isNaN = false →
                rating other ≤ rating strategy ∧
                  (other.index < strategy.index → rating other < rating strategy))) ∧
      (∀ strategy, (executionsOf strategy uses).length < UInt64.size →
        (rating strategy).isNaN = (time strategy).isNaN) ∧
      ∀ strategy, (∀ execution ∈ executionsOf strategy uses, 0 ≤ execution.seconds) →
        (time strategy).isNaN = false := by
  intro board used rating time
  have complete : board.IsComplete := isComplete_afterAll uses
  have known (strategy : Strategy) : board.Knows strategy ↔ used strategy :=
    knows_afterAll_iff uses strategy
  refine ⟨fun first firstUsed earliest => ?_, fun strategy countable => ?_,
    fun strategy nonneg => ?_⟩
  · have isFirst : board.IsFirst first :=
      ⟨(known first).mpr firstUsed, fun other otherKnown => earliest other ((known other).mp otherKnown)⟩
    refine ⟨isFirst.best_of_isNaN complete, fun number => ?_⟩
    obtain ⟨strategy, best, isKnown, defined, greatest⟩ := isFirst.exists_best complete number
    exact ⟨strategy, best, (known strategy).mp isKnown, defined, fun other otherUsed =>
      greatest other ((known other).mpr otherUsed)⟩
  · have sums := sums_tally_afterAll uses strategy
    exact (sums.isNaN_score countable).trans (congrArg Float.isNaN sums.totalTime)
  · have sized : IsSized (time strategy) := hasSize_zero_literal.isSized.foldl_add fun seconds member =>
      have ⟨execution, counted, own⟩ := List.mem_map.mp member
      own ▸ nonneg execution counted
    exact sized.isNaN_eq_false

/-- The case of a strategy whose times add up to no number, between two others. -/
theorem best_of_ratings_not_all_numbers_of_three :
    let uses : List Use := [.record ⟨.parallel, 1, true, ⟨0, 0⟩⟩, .reset,
      .record ⟨.sequential, 50, true, ⟨0, 0⟩⟩, .record ⟨.cascade, 1 / 0, true, ⟨0, 0⟩⟩,
      .record ⟨.cascade, -1 / 0, true, ⟨0, 0⟩⟩, .record ⟨.weighted, 2, true, ⟨0, 0⟩⟩]
    let board := empty.afterAll uses
    (board.tally .cascade).score.isNaN = true ∧ (board.tally .weighted).score.isNaN = false ∧
      ∃ strategy, board.best = some strategy ∧
        (board.tally .sequential).score ≤ (board.tally strategy).score ∧
          (board.tally .weighted).score ≤ (board.tally strategy).score := by
  intro uses board
  obtain ⟨top, undefined, defined⟩ := best_of_ratings_not_all_numbers uses
  have weighted : (board.tally .weighted).score.isNaN = false :=
    (undefined .weighted (by decide)).trans (defined .weighted (by decide +kernel))
  have sequential : (board.tally .sequential).score.isNaN = false :=
    (undefined .sequential (by decide)).trans (defined .sequential (by decide +kernel))
  obtain ⟨-, number⟩ := top .sequential (by decide) fun other used => by
    cases other <;> first | decide | exact absurd used (by decide)
  obtain ⟨strategy, best, -, -, greatest⟩ := number sequential
  refine ⟨(undefined .cascade (by decide)).trans (by decide +kernel), weighted, strategy, best, ?_, ?_⟩
  · exact (greatest .sequential (by decide) sequential).1
  · exact (greatest .weighted (by decide) weighted).1

/-- A strategy that is used once and for a time that is no number stays the best one, although another one
that is used later is rated far above zero. -/
theorem undefined_rating_stays_best :
    let board := empty.afterAll [.record ⟨.parallel, 0 / 0, true, ⟨0, 0⟩⟩,
      .record ⟨.sequential, 1, true, ⟨0, 0⟩⟩]
    board.best = some .parallel ∧ (board.tally .parallel).score.isNaN = true ∧
      (board.tally .sequential).score.isNaN = false ∧ 90 < (board.tally .sequential).score := by
  decide +kernel

end Scoreboard

end Triage
