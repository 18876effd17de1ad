/-
This file proves that a scoreboard counts right. Whatever is done with it, every strategy has an
entry, and the tally of a strategy is the sum of its executions since the scoreboard was last
cleared: the rates are those of the counters, the time is added up from left to right, and nothing
of another strategy gets into it.

A scoreboard is shared by the clones of a handle, and a lock lets one use after the other through.
What several parties do, each by a clone of its own, therefore happens in some interleaving. All
interleavings are permutations of each other, and the counters and the rates of success do not
depend on the order of the executions.
-/

import Mathlib.Data.List.DropRight
import Mathlib.Data.List.Induction
import Triage.Ensemble.Scoreboard

namespace Triage

/-- One use of a strategy, as it is counted. -/
structure Execution where
  strategy : Strategy
  seconds : Float
  success : Bool
  moment : Timestamp

/-! ### Sums -/

namespace Tally

/-- The tally after one more execution. -/
def count (tally : Tally) (execution : Execution) : Tally :=
  tally.record execution.seconds execution.success execution.moment

/-- A tally is the sum of executions, given in their order. -/
structure Sums (tally : Tally) (executions : List Execution) : Prop where
  total : tally.total = executions.length
  successful : tally.successful = executions.countP (·.success)
  failed : tally.total = tally.successful + tally.failed
  totalTime : tally.totalTime = (executions.map (·.seconds)).foldl (· + ·) 0
  averageTime : tally.averageTime =
    if tally.total = 0 then 0 else tally.totalTime / Float.ofNat tally.total
  successRate : tally.successRate =
    if tally.total = 0 then 0 else Float.ofNat tally.successful / Float.ofNat tally.total * 100
  lastExecution : tally.lastExecution = executions.getLast?.map (·.moment)

theorem sums_nil : Sums {} [] :=
  ⟨rfl, rfl, rfl, rfl, rfl, rfl, rfl⟩

theorem Sums.append_singleton {tally : Tally} {executions : List Execution}
    (sums : tally.Sums executions) (execution : Execution) :
    (tally.count execution).Sums (executions ++ [execution]) where
  total := by
    rw [List.length_append, ← sums.total]
    rfl
  successful := by
    rw [List.countP_append, ← sums.successful, List.countP_singleton]
    show (if execution.success then tally.successful + 1 else tally.successful) = _
    split <;> rfl
  failed := by
    have split := sums.failed
    show tally.total + 1 =
      (if execution.success then tally.successful + 1 else tally.successful) +
        if execution.success then tally.failed else tally.failed + 1
    split <;> omega
  totalTime := by
    rw [List.map_append, List.foldl_append, ← sums.totalTime]
    rfl
  averageTime := (if_neg (Nat.succ_ne_zero tally.total)).symm
  successRate := (if_neg (Nat.succ_ne_zero tally.total)).symm
  lastExecution := by
    rw [List.getLast?_append]
    rfl

theorem sums_foldl (executions : List Execution) : (executions.foldl count {}).Sums executions := by
  induction executions using List.reverseRecOn with
  | nil => exact sums_nil
  | append_singleton early execution inductionHypothesis =>
    rw [List.foldl_append]
    exact inductionHypothesis.append_singleton execution

/-- A moment is known as soon as anything has been counted. -/
theorem Sums.isSome_lastExecution_iff {tally : Tally} {executions : List Execution}
    (sums : tally.Sums executions) : tally.lastExecution.isSome = true ↔ 0 < tally.total := by
  rw [sums.lastExecution, sums.total, Option.isSome_map, List.length_pos_iff,
    List.getLast?_isSome]

/-- What is not a success is a failure. -/
theorem Sums.failed_eq {tally : Tally} {executions : List Execution}
    (sums : tally.Sums executions) : tally.failed = executions.countP (!·.success) := by
  have split := sums.failed
  have sorted := List.length_eq_countP_add_countP (·.success) (l := executions)
  rw [sums.total, sums.successful] at split
  simp only [Bool.not_eq_true, Bool.decide_eq_false] at sorted
  omega

/-- Two tallies have the same counters and the same rate of success. -/
structure SameCounts (first second : Tally) : Prop where
  total : first.total = second.total
  successful : first.successful = second.successful
  failed : first.failed = second.failed
  successRate : first.successRate = second.successRate

/-- Neither the counters nor the rate of success depend on the order of the executions. -/
theorem Sums.sameCounts {first second : Tally} {executions others : List Execution}
    (sums : first.Sums executions) (otherSums : second.Sums others)
    (same : executions.Perm others) : first.SameCounts second := by
  have total : first.total = second.total := by
    rw [sums.total, otherSums.total, same.length_eq]
  have successful : first.successful = second.successful := by
    rw [sums.successful, otherSums.successful, same.countP_eq]
  refine ⟨total, successful, ?_, ?_⟩
  · have split := sums.failed
    have otherSplit := otherSums.failed
    omega
  · rw [sums.successRate, otherSums.successRate, total, successful]

end Tally

/-! ### Entries -/

namespace Scoreboard

/-- Every strategy has an entry, in its place. -/
def IsComplete (board : Scoreboard) : Prop :=
  board.entries.map (·.1) = Strategy.all

theorem isComplete_empty : empty.IsComplete := rfl

theorem pairwise_all : Strategy.all.Pairwise (·.index < ·.index) := by decide

theorem mem_all (strategy : Strategy) : strategy ∈ Strategy.all := by
  cases strategy <;> decide

/-- Where a strategy has an entry, a change of its tally adds none. -/
theorem map_fst_change {strategy : Strategy} (use : Tally → Tally)
    {entries : List (Strategy × Tally)} (listed : strategy ∈ entries.map (·.1))
    (ordered : (entries.map (·.1)).Pairwise (·.index < ·.index)) :
    (change strategy use entries).map (·.1) = entries.map (·.1) := by
  induction entries with
  | nil => exact absurd listed List.not_mem_nil
  | cons entry rest inductionHypothesis =>
    obtain ⟨first, later⟩ := List.pairwise_cons.mp ordered
    rw [change]
    by_cases same : entry.1 = strategy
    · rw [if_pos same]
      rfl
    · have inRest : strategy ∈ rest.map (·.1) :=
        (List.mem_cons.mp listed).resolve_left fun equal => same equal.symm
      rw [if_neg same, if_neg (Nat.lt_asymm (first strategy inRest)), List.map_cons, List.map_cons,
        inductionHypothesis inRest later]

theorem IsComplete.record {board : Scoreboard} (complete : board.IsComplete) (strategy : Strategy)
    (seconds : Float) (success : Bool) (moment : Timestamp) :
    (board.record strategy seconds success moment).IsComplete := by
  unfold IsComplete at complete
  refine (map_fst_change _ ?_ ?_).trans complete
  · rw [complete]
    exact mem_all strategy
  · rw [complete]
    exact pairwise_all

theorem IsComplete.get?_eq {board : Scoreboard} (complete : board.IsComplete)
    (strategy : Strategy) : board.get? strategy = some (board.tally strategy) := by
  obtain ⟨entry, listed, own⟩ := List.mem_map.mp (complete ▸ mem_all strategy)
  have found : (board.entries.find? (·.1 == strategy)).isSome = true :=
    List.find?_isSome.mpr ⟨entry, listed, beq_iff_eq.mpr own⟩
  obtain ⟨held, found⟩ := Option.isSome_iff_exists.mp found
  unfold tally get?
  rw [found]
  rfl

/-- The entry of a strategy after a change of its tally. -/
theorem find?_change_self {strategy : Strategy} (use : Tally → Tally)
    {entries : List (Strategy × Tally)} (listed : strategy ∈ entries.map (·.1))
    (ordered : (entries.map (·.1)).Pairwise (·.index < ·.index)) :
    (change strategy use entries).find? (·.1 == strategy) =
      (entries.find? (·.1 == strategy)).map fun entry => (entry.1, use entry.2) := by
  induction entries with
  | nil => exact absurd listed List.not_mem_nil
  | cons entry rest inductionHypothesis =>
    obtain ⟨first, later⟩ := List.pairwise_cons.mp ordered
    rw [change]
    by_cases same : entry.1 = strategy
    · rw [if_pos same, List.find?_cons_of_pos (by simpa using same),
        List.find?_cons_of_pos (by simpa using same)]
      rfl
    · have inRest : strategy ∈ rest.map (·.1) :=
        (List.mem_cons.mp listed).resolve_left fun equal => same equal.symm
      rw [if_neg same, if_neg (Nat.lt_asymm (first strategy inRest)),
        List.find?_cons_of_neg (by simpa using same), List.find?_cons_of_neg (by simpa using same),
        inductionHypothesis inRest later]

/-- The entries of all others stay as they are. -/
theorem find?_change_other {strategy other : Strategy} (use : Tally → Tally)
    (different : other ≠ strategy) (entries : List (Strategy × Tally)) :
    (change strategy use entries).find? (·.1 == other) = entries.find? (·.1 == other) := by
  have skip : ¬ (strategy == other) = true := by simpa using different.symm
  induction entries with
  | nil => exact List.find?_cons_of_neg skip
  | cons entry rest inductionHypothesis =>
    rw [change]
    by_cases same : entry.1 = strategy
    · rw [if_pos same, List.find?_cons_of_neg (by rwa [same]),
        List.find?_cons_of_neg (by rwa [same])]
    · rw [if_neg same]
      split
      · exact List.find?_cons_of_neg skip
      · rw [List.find?_cons, List.find?_cons, inductionHypothesis]

theorem get?_record_other (board : Scoreboard) {strategy other : Strategy} (seconds : Float)
    (success : Bool) (moment : Timestamp) (different : other ≠ strategy) :
    (board.record strategy seconds success moment).get? other = board.get? other := by
  unfold get? record
  rw [find?_change_other _ different]

theorem IsComplete.tally_record_self {board : Scoreboard} (complete : board.IsComplete)
    (strategy : Strategy) (seconds : Float) (success : Bool) (moment : Timestamp) :
    (board.record strategy seconds success moment).tally strategy =
      (board.tally strategy).record seconds success moment := by
  have held := complete.get?_eq strategy
  unfold IsComplete at complete
  have changed := find?_change_self (·.record seconds success moment)
    (complete ▸ mem_all strategy) (complete ▸ pairwise_all)
  unfold get? at held
  obtain ⟨entry, found, own⟩ := Option.map_eq_some_iff.mp held
  rw [← own]
  unfold tally get? Scoreboard.record
  rw [changed, found]
  rfl

/-! ### Uses -/

/-- One thing that is done with a scoreboard, by any handle to it. -/
inductive Use where
  | record (execution : Execution)
  | read (strategy : Strategy)
  | readAll
  | readBest
  | reset

namespace Use

def isReset : Use → Bool
  | reset => true
  | _ => false

/-- The execution that is counted, if there is one. -/
def execution? : Use → Option Execution
  | record execution => some execution
  | _ => none

end Use

/-- The scoreboard after one execution. -/
def count (board : Scoreboard) (execution : Execution) : Scoreboard :=
  board.record execution.strategy execution.seconds execution.success execution.moment

/-- The scoreboard after one use. -/
def after (board : Scoreboard) : Use → Scoreboard
  | .record execution => board.count execution
  | .reset => .empty
  | _ => board

/-- The scoreboard after many uses. -/
def afterAll (board : Scoreboard) (uses : List Use) : Scoreboard :=
  uses.foldl after board

/-- The executions that have been counted since the last reset. -/
def executionsSince (uses : List Use) : List Execution :=
  (uses.rtakeWhile fun use => !use.isReset).filterMap Use.execution?

/-- Those of one strategy. -/
def executionsOf (strategy : Strategy) (uses : List Use) : List Execution :=
  (executionsSince uses).filter (·.strategy == strategy)

theorem afterAll_append_singleton (board : Scoreboard) (uses : List Use) (use : Use) :
    board.afterAll (uses ++ [use]) = (board.afterAll uses).after use := by
  unfold afterAll
  rw [List.foldl_append]
  rfl

theorem executionsSince_append_singleton (uses : List Use) (use : Use) :
    executionsSince (uses ++ [use]) =
      if use.isReset then [] else executionsSince uses ++ use.execution?.toList := by
  unfold executionsSince
  rw [List.rtakeWhile_concat]
  cases use.isReset with
  | true => rfl
  | false =>
    rw [Bool.not_false, if_pos rfl, if_neg Bool.false_ne_true, List.filterMap_append,
      List.filterMap_cons]
    cases use.execution? <;> rfl

theorem executionsSince_append_records (uses : List Use) (executions : List Execution) :
    executionsSince (uses ++ executions.map .record) = executionsSince uses ++ executions := by
  induction executions using List.reverseRecOn with
  | nil => rw [List.map_nil, List.append_nil, List.append_nil]
  | append_singleton early execution inductionHypothesis =>
    rw [List.map_append, ← List.append_assoc, List.map_singleton,
      executionsSince_append_singleton, inductionHypothesis, ← List.append_assoc]
    rfl

theorem isComplete_afterAll (uses : List Use) : (empty.afterAll uses).IsComplete := by
  induction uses using List.reverseRecOn with
  | nil => exact isComplete_empty
  | append_singleton early use inductionHypothesis =>
    rw [afterAll_append_singleton]
    cases use with
    | record execution => exact inductionHypothesis.record _ _ _ _
    | reset => exact isComplete_empty
    | _ => exact inductionHypothesis

theorem tally_empty (strategy : Strategy) : empty.tally strategy = {} := by
  cases strategy <;> rfl

/-- A use other than a reset adds what it counts to the tally of a strategy. -/
theorem IsComplete.tally_after {board : Scoreboard} (complete : board.IsComplete) (use : Use)
    (strategy : Strategy) :
    (board.after use).tally strategy =
      if use.isReset then {}
      else (use.execution?.toList.filter (·.strategy == strategy)).foldl Tally.count
        (board.tally strategy) := by
  cases use with
  | record execution =>
    show _ = ([execution].filter (·.strategy == strategy)).foldl Tally.count (board.tally strategy)
    by_cases own : execution.strategy = strategy
    · subst own
      simp only [List.filter, beq_self_eq_true, List.foldl_cons, List.foldl_nil]
      exact complete.tally_record_self _ _ _ _
    · simp only [List.filter, beq_eq_false_iff_ne.mpr own, List.foldl_nil]
      unfold tally
      rw [after, count, get?_record_other _ _ _ _ fun equal => own equal.symm]
  | reset => exact tally_empty strategy
  | _ => rfl

/-- The tally of a strategy has come about by counting its executions since the last reset. -/
theorem tally_afterAll (uses : List Use) (strategy : Strategy) :
    (empty.afterAll uses).tally strategy =
      (executionsOf strategy uses).foldl Tally.count {} := by
  induction uses using List.reverseRecOn with
  | nil => exact tally_empty strategy
  | append_singleton early use inductionHypothesis =>
    rw [afterAll_append_singleton, (isComplete_afterAll early).tally_after, executionsOf,
      executionsSince_append_singleton]
    split
    · rfl
    · rw [List.filter_append, List.foldl_append, inductionHypothesis]
      rfl

theorem sums_tally_afterAll (uses : List Use) (strategy : Strategy) :
    ((empty.afterAll uses).tally strategy).Sums (executionsOf strategy uses) := by
  rw [tally_afterAll]
  exact Tally.sums_foldl _

/-- The order of the executions since the last reset does not show in the counters. -/
theorem sameCounts_of_perm {uses others : List Use}
    (same : (executionsSince uses).Perm (executionsSince others)) (strategy : Strategy) :
    ((empty.afterAll uses).tally strategy).SameCounts ((empty.afterAll others).tally strategy) :=
  (sums_tally_afterAll uses strategy).sameCounts (sums_tally_afterAll others strategy)
    (same.filter _)

/-! ### Parties -/

/-- Uses in an order in which a lock may let through what each of some parties does in turn. -/
inductive Interleaving : List (List Use) → List Use → Prop where
  | done {parties : List (List Use)} (idle : ∀ party ∈ parties, party = []) :
      Interleaving parties []
  | turn {before after : List (List Use)} {use : Use} {rest uses : List Use}
      (later : Interleaving (before ++ rest :: after) uses) :
      Interleaving (before ++ (use :: rest) :: after) (use :: uses)

/-- No use is lost and none is made twice. -/
theorem Interleaving.perm {parties : List (List Use)} {uses : List Use}
    (interleaving : Interleaving parties uses) : uses.Perm parties.flatten := by
  induction interleaving with
  | done idle => rw [List.flatten_eq_nil_iff.mpr idle]
  | turn later inductionHypothesis =>
    rw [List.flatten_append, List.flatten_cons] at inductionHypothesis ⊢
    exact (inductionHypothesis.cons _).trans List.perm_middle.symm

theorem executionsSince_of_no_reset {uses : List Use} (kept : ∀ use ∈ uses, use.isReset = false) :
    executionsSince uses = uses.filterMap Use.execution? := by
  unfold executionsSince
  rw [List.rtakeWhile_eq_self_iff.mpr fun use member => by rw [kept use member]; rfl]

/-- The scoreboard after any uses. Every strategy has an entry, which holds the sum of its executions
since the last reset, and one more execution changes no other entry. Neither the counters nor the
rates of success depend on the order of these executions. In particular several parties that count
executions and never reset the scoreboard lose none, whatever order the lock lets them through in. -/
theorem tallies_sum_executions (uses : List Use) :
    let board := empty.afterAll uses
    (board.all.map (·.1) = Strategy.all ∧
        ∀ strategy, board.get? strategy = some (board.tally strategy)) ∧
      (∀ strategy, (board.tally strategy).Sums (executionsOf strategy uses) ∧
        ((board.tally strategy).lastExecution.isSome = true ↔ 0 < (board.tally strategy).total)) ∧
      (∀ execution other, other ≠ execution.strategy →
        (board.after (.record execution)).get? other = board.get? other) ∧
      (∀ others, (executionsSince uses).Perm (executionsSince others) → ∀ strategy,
        (board.tally strategy).SameCounts ((empty.afterAll others).tally strategy)) ∧
      ∀ parties, Interleaving parties uses →
        (∀ party ∈ parties, ∀ use ∈ party, use.isReset = false) → ∀ strategy,
          (board.tally strategy).SameCounts ((empty.afterAll parties.flatten).tally strategy) := by
  intro board
  have complete : board.IsComplete := isComplete_afterAll uses
  refine ⟨⟨complete, complete.get?_eq⟩, fun strategy => ?_, fun execution other different => ?_,
    fun others same => sameCounts_of_perm same, fun parties interleaving kept => ?_⟩
  · have sums := sums_tally_afterAll uses strategy
    exact ⟨sums, sums.isSome_lastExecution_iff⟩
  · exact board.get?_record_other _ _ _ different
  · have everyKept : ∀ use ∈ parties.flatten, use.isReset = false := fun use member =>
      have ⟨party, listed, own⟩ := List.mem_flatten.mp member
      kept party listed use own
    refine sameCounts_of_perm ?_
    rw [executionsSince_of_no_reset everyKept, executionsSince_of_no_reset fun use member =>
      everyKept use (interleaving.perm.mem_iff.mp member)]
    exact interleaving.perm.filterMap _

/-- The case of two parties, one of which counts a failure before the other counts two successes,
and of the same executions in another order. -/
theorem tallies_sum_executions_of_two_parties :
    let first : Execution := ⟨.voting, 0.5, true, ⟨0, 0⟩⟩
    let second : Execution := ⟨.cascade, 2, true, ⟨1, 0⟩⟩
    let failed : Execution := ⟨.voting, 0.25, false, ⟨0, 5⟩⟩
    let parties : List (List Use) :=
      [[.record first, .record second], [.record failed, .read .voting]]
    let board := empty.afterAll [.record failed, .record first, .read .voting, .record second]
    let other := empty.afterAll [.reset, .record second, .record first, .readAll, .record failed]
    (board.tally .voting).total = 2 ∧
      (board.tally .voting).SameCounts ((empty.afterAll parties.flatten).tally .voting) ∧
      (board.tally .voting).SameCounts (other.tally .voting) ∧
      (board.after (.record second)).get? .voting = board.get? .voting := by
  intro first second failed parties board other
  obtain ⟨_, sums, apart, reordered, shared⟩ := tallies_sum_executions
    [.record failed, .record first, .read .voting, .record second]
  have interleaving : Interleaving parties
      [.record failed, .record first, .read .voting, .record second] :=
    @Interleaving.turn [[.record first, .record second]] [] _ _ _ <|
      @Interleaving.turn [] [[.read .voting]] _ _ _ <|
      @Interleaving.turn [[.record second]] [] _ _ _ <|
      @Interleaving.turn [] [[]] _ _ _ <| .done (by simp)
  refine ⟨(sums .voting).1.total, shared parties interleaving ?_ .voting,
    reordered [.reset, .record second, .record first, .readAll, .record failed] ?_ .voting,
    apart second .voting nofun⟩
  · simp [parties, Use.isReset]
  · exact List.reverse_perm [second, first, failed]

end Scoreboard

end Triage
