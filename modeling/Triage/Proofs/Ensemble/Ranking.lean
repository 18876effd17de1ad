/-
This file proves which strategy is the best one. The strategies are gone through in their order, and one
that has been used takes the place of the best so far just when its rating is greater. So whatever has been
gone through, the best so far is the first of those used strategies whose rating is greatest. There is no
rating to start from: the first used strategy is the best so far however far below zero its rating is, and
the rating that a strategy has before it is used never counts.

Ratings are doubles. Of two doubles that are numbers one is at most the other, and this is all that is
asked of them; infinite ratings are compared like all others.
-/

import Triage.Proofs.Ensemble.Tallies
import Triage.Proofs.Number.Comparison

namespace Triage

theorem Strategy.eq_of_index_eq {one two : Strategy} (same : one.index = two.index) : one = two :=
  (List.idxOf_inj (Scoreboard.mem_all one)).mp same

namespace Scoreboard

/-- The rating of a strategy. -/
def rating (board : Scoreboard) (strategy : Strategy) : Float :=
  (board.tally strategy).score

/-- A strategy has been used since the scoreboard was cleared. -/
def Knows (board : Scoreboard) (strategy : Strategy) : Prop :=
  (board.tally strategy).total ≠ 0

/-- A used strategy leads: none has a greater rating, and those before it have smaller ones. -/
structure Leads (board : Scoreboard) (strategy : Strategy) : Prop where
  known : board.Knows strategy
  greatest : ∀ other, board.Knows other → board.rating other ≤ board.rating strategy
  first : ∀ other, board.Knows other → other.index < strategy.index →
    board.rating other < board.rating strategy

/-! ### The best so far -/

/-- What is best among some strategies: nothing if none of them has been used, and else the first one with
the greatest rating. -/
inductive IsBest (board : Scoreboard) (earlier : List Strategy) : Option (Strategy × Float) → Prop where
  | none (unknown : ∀ other ∈ earlier, ¬ board.Knows other) : IsBest board earlier none
  | some {strategy : Strategy} (before after : List Strategy)
      (split : earlier = before ++ strategy :: after) (known : board.Knows strategy)
      (first : ∀ other ∈ before, board.Knows other → board.rating other < board.rating strategy)
      (greatest : ∀ other ∈ after, board.Knows other → board.rating other ≤ board.rating strategy) :
      IsBest board earlier (some (strategy, board.rating strategy))

section

variable {board : Scoreboard} (complete : board.IsComplete)
  (numbers : ∀ strategy, board.Knows strategy → (board.rating strategy).isNaN = false)

include complete numbers

theorem IsBest.better {earlier : List Strategy} {best : Option (Strategy × Float)}
    (isBest : board.IsBest earlier best) (strategy : Strategy) :
    board.IsBest (earlier ++ [strategy]) (board.better best strategy) := by
  unfold Scoreboard.better
  rw [complete.get?_eq strategy]
  simp only
  split
  · -- A strategy that has not been used changes nothing.
    rename_i unused
    have unknown : ¬ board.Knows strategy := fun known => known unused
    cases isBest with
    | none others =>
      exact .none (List.forall_mem_append.mpr ⟨others, List.forall_mem_singleton.mpr unknown⟩)
    | @some held before after split known first greatest =>
      refine .some before (after ++ [strategy]) (by rw [split, List.append_assoc]; rfl) known first ?_
      exact List.forall_mem_append.mpr
        ⟨greatest, List.forall_mem_singleton.mpr fun other => absurd other unknown⟩
  · rename_i known
    cases isBest with
    | none others =>
      exact .some earlier [] rfl known (fun other member used => absurd used (others other member))
        nofun
    | @some held before after split heldKnown first greatest =>
      simp only
      split
      · rename_i above
        refine .some earlier [] rfl known (fun other member used => ?_) nofun
        rw [split] at member
        obtain early | rfl | late := by simpa using member
        · exact Number.lt_trans (first other early used) above
        · exact above
        · exact Number.lt_of_le_of_lt (greatest other late used) above
      · rename_i notAbove
        refine .some before (after ++ [strategy]) (by rw [split, List.append_assoc]; rfl) heldKnown
          first (List.forall_mem_append.mpr ⟨greatest, List.forall_mem_singleton.mpr fun used => ?_⟩)
        exact Number.le_of_not_lt (numbers held heldKnown) (numbers strategy used) notAbove

/-- Going through all strategies finds what is best among them. -/
theorem isBest_foldl (strategies : List Strategy) :
    board.IsBest strategies (strategies.foldl board.better none) := by
  induction strategies using List.reverseRecOn with
  | nil => exact .none fun _ none => absurd none List.not_mem_nil
  | append_singleton early last inductionHypothesis =>
    rw [List.foldl_append]
    exact inductionHypothesis.better complete numbers last

/-- The best strategy leads, and when there is none then no strategy has been used. -/
theorem best_cases :
    board.best = none ∧ (∀ strategy, ¬ board.Knows strategy) ∨
      ∃ strategy, board.best = some strategy ∧ board.Leads strategy := by
  have isBest := isBest_foldl complete numbers Strategy.all
  unfold best
  generalize Strategy.all.foldl board.better none = best at isBest ⊢
  cases isBest with
  | none unknown => exact .inl ⟨rfl, fun strategy => unknown strategy (mem_all strategy)⟩
  | @some strategy before after split known first greatest =>
    have place (other : Strategy) : other ∈ before ∨ other = strategy ∨ other ∈ after := by
      have listed := mem_all other
      rwa [split, List.mem_append, List.mem_cons] at listed
    have ordered := pairwise_all
    rw [split, List.pairwise_append, List.pairwise_cons] at ordered
    obtain ⟨-, ⟨behind, -⟩, -⟩ := ordered
    refine .inr ⟨strategy, rfl, known, fun other used => ?_, fun other used early => ?_⟩
    · obtain early | rfl | late := place other
      · exact Number.le_of_not_lt (numbers strategy known) (numbers other used)
          (Number.not_lt_of_lt (first other early used))
      · exact Number.le_of_not_lt (numbers other used) (numbers other used) (Number.not_lt_self _)
      · exact greatest other late used
    · obtain before | rfl | late := place other
      · exact first other before used
      · exact absurd early (Nat.lt_irrefl _)
      · exact absurd early (Nat.lt_asymm (behind other late))

end

/-- Only one strategy leads. -/
theorem Leads.eq {board : Scoreboard} {one two : Strategy} (leads : board.Leads one)
    (alsoLeads : board.Leads two) : one = two := by
  obtain early | same | late := Nat.lt_trichotomy one.index two.index
  · have below := alsoLeads.first one leads.known early
    exact absurd below ((Number.le_iff _ _).mp (leads.greatest two alsoLeads.known)).2
  · exact Strategy.eq_of_index_eq same
  · have below := leads.first two alsoLeads.known late
    exact absurd below ((Number.le_iff _ _).mp (alsoLeads.greatest one leads.known)).2

/-! ### After any uses -/

theorem knows_afterAll_iff (uses : List Use) (strategy : Strategy) :
    (empty.afterAll uses).Knows strategy ↔ executionsOf strategy uses ≠ [] := by
  unfold Knows
  rw [(sums_tally_afterAll uses strategy).total, Ne, List.length_eq_zero_iff]

theorem executionsSince_eq_nil_iff (uses : List Use) :
    executionsSince uses = [] ↔ ∀ strategy, executionsOf strategy uses = [] := by
  unfold executionsOf
  simp only [List.filter_eq_nil_iff, beq_iff_eq]
  refine ⟨fun nothing strategy execution member => absurd (nothing ▸ member) List.not_mem_nil,
    fun nothing => List.eq_nil_iff_forall_not_mem.mpr fun execution member => ?_⟩
  exact nothing execution.strategy execution member rfl

/-- The best strategy after any uses, as long as the ratings of the strategies that have been used are
numbers. There is none just when nothing has been counted since the last reset. Else it is the first of
those with the greatest rating among the strategies that have been used since then, even when all these
ratings are below zero. A strategy that has not been used is never the best one, although its rating
is 30. -/
theorem best_is_first_of_greatest_rating (uses : List Use) :
    let board := empty.afterAll uses
    let used (strategy : Strategy) := executionsOf strategy uses ≠ []
    let rating (strategy : Strategy) := (board.tally strategy).successRate * 0.7 +
      (100 - (board.tally strategy).averageTime * 10) * 0.3
    (∀ strategy, used strategy → (rating strategy).isNaN = false) →
      (board.best = none ↔ executionsSince uses = []) ∧
        (∀ strategy, board.best = some strategy ↔ used strategy ∧
          (∀ other, used other → rating other ≤ rating strategy) ∧
            ∀ other, used other → other.index < strategy.index → rating other < rating strategy) ∧
        ∀ strategy, ¬ used strategy → rating strategy = 30 ∧ board.best ≠ some strategy := by
  intro board used rating numbers
  have known (strategy : Strategy) : board.Knows strategy ↔ used strategy :=
    knows_afterAll_iff uses strategy
  have leads_iff (strategy : Strategy) : board.Leads strategy ↔ used strategy ∧
      (∀ other, used other → rating other ≤ rating strategy) ∧
        ∀ other, used other → other.index < strategy.index → rating other < rating strategy := by
    simp only [← known]
    exact ⟨fun leads => ⟨leads.known, leads.greatest, leads.first⟩, fun ⟨known, greatest, first⟩ =>
      ⟨known, greatest, first⟩⟩
  have unused (strategy : Strategy) (none : ¬ used strategy) : rating strategy = 30 := by
    have fresh : board.tally strategy = {} := by
      rw [tally_afterAll, Classical.not_not.mp none]
      rfl
    simp only [rating, fresh]
    decide +kernel
  obtain ⟨nobody, unknown⟩ | ⟨leader, best, leads⟩ :=
    best_cases (isComplete_afterAll uses) fun strategy isKnown => numbers strategy ((known _).mp isKnown)
  · have none (strategy : Strategy) : ¬ used strategy := fun isUsed =>
      unknown strategy ((known strategy).mpr isUsed)
    refine ⟨iff_of_true nobody ?_, fun strategy => iff_of_false ?_ fun top => none strategy top.1,
      fun strategy isUnused => ⟨unused strategy isUnused, ?_⟩⟩
    · exact (executionsSince_eq_nil_iff uses).mpr fun strategy => Classical.not_not.mp (none strategy)
    · exact nobody ▸ nofun
    · exact nobody ▸ nofun
  · refine ⟨iff_of_false (best ▸ nofun) fun nothing => ?_, fun strategy => ?_,
      fun strategy isUnused => ⟨unused strategy isUnused, fun isBest => ?_⟩⟩
    · exact (known leader).mp leads.known ((executionsSince_eq_nil_iff uses).mp nothing leader)
    · rw [best, Option.some.injEq, ← leads_iff]
      exact ⟨fun same => same ▸ leads, leads.eq⟩
    · obtain rfl := Option.some.inj (best.symm.trans isBest)
      exact isUnused ((known leader).mp leads.known)

/-- The case of slow strategies whose ratings are below zero: of two with the same rating the earlier one
is best, and neither one that is slower still nor those that are unused since the reset come before it. -/
theorem best_is_first_of_slow_strategies :
    let slow (strategy : Strategy) : Execution := ⟨strategy, 50, true, ⟨0, 0⟩⟩
    let uses : List Use := [.record ⟨.voting, 1, true, ⟨0, 0⟩⟩, .reset, .record (slow .weighted),
      .record ⟨.parallel, 50, false, ⟨0, 0⟩⟩, .readBest, .record (slow .sequential)]
    let board := empty.afterAll uses
    board.best = some .sequential ∧ (board.tally .sequential).score < 0 ∧
      board.best ≠ some .voting := by
  intro slow uses board
  obtain ⟨-, top, unused⟩ := best_is_first_of_greatest_rating uses fun strategy _ => by
    cases strategy <;> decide +kernel
  refine ⟨(top .sequential).mpr ⟨by decide, fun other used => ?_, fun other used early => ?_⟩,
    by decide +kernel, (unused .voting (by decide)).2⟩
  · cases other <;> first | decide +kernel | exact absurd used (by decide)
  · cases other <;> first | decide +kernel | exact absurd early (by decide)

end Scoreboard

end Triage
