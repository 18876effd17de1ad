/-
This file proves that an engine keeps its books. Between any two uses of it no permit is missing
from the gate, and the scoreboard counts the mixes that have returned since it was last cleared: all
of them under their own strategy, and as a success just when they have brought a reply.

A use is what a caller waits for: one mix, some batches that are started together, a look at the
scoreboard, or clearing it. Batches may run under any schedule, the providers may answer in any way,
and the batches are counted in whichever order they return, each with its own time. The order has
to be forgotten in the end, so the invariant compares executions and mixes up to permutation.
-/

import Triage.Proofs.Ensemble.Arrangement
import Triage.Proofs.Ensemble.Isolation
import Triage.Proofs.Ensemble.Tallies

namespace Triage

/-! ### Batches that return -/

namespace Run

/-- When a run is over, the gate has all its permits again. -/
theorem Balanced.isWhole_of_isOver {run : Run} (balanced : run.Balanced)
    (positive : 0 < run.gate.capacity) (allOver : run.isOver = true) : run.gate.IsWhole := by
  have total := balanced.free_add_holders
  have account := balanced.books.account
  rw [holders_eq_zero_of_isOver allOver] at total
  unfold Gate.free at total
  unfold Gate.IsWhole
  omega

/-- A batch without models has no slots. -/
theorem results_of_no_models (providers : Providers) (gate : Gate) (now : Nat)
    {batches : List Batch} (moves : List Move) {number : Nat} {batch : Batch}
    (listed : batches[number]? = some batch) (nobody : batch.models = []) :
    ((start providers gate now batches).play moves).results number = [] := by
  have models := tasksOf_model (play_tasksOf providers gate now batches moves listed)
  have lineup := batch.lineup_perm
  rw [nobody, List.perm_nil] at lineup
  rw [lineup, List.map_eq_nil_iff] at models
  rw [results_eq, models]
  rfl

end Run

namespace Engine

/-- How a batch is counted that has returned: with its number, and with the time that belongs to
it. -/
def executionOf (run : Run) (timing : Nat → Timing) (returned : Batch × Nat) : Execution where
  strategy := returned.1.strategy
  seconds := (timing returned.2).elapsed
  success := isSuccess (run.results returned.2)
  moment := (timing returned.2).moment

/-- The engine after batches have been run, and counted in the order in which they returned. -/
def settle (engine : Engine) (run : Run) (timing : Nat → Timing) (returned : List (Batch × Nat)) :
    Engine :=
  { engine with
    providers := run.providers
    gate := run.gate
    board := (returned.map (executionOf run timing)).foldl Scoreboard.count engine.board
    now := run.now }

/-- Batches that were started together have all returned, under some schedule. -/
inductive Ran (engine : Engine) (batches : List Batch) : Run → Engine → Prop where
  | intro (moves : List Move) (allOver : ((engine.begin batches).play moves).isOver = true)
      (timing : Nat → Timing) (returned : List (Batch × Nat))
      (every : returned.Perm batches.zipIdx) :
      Ran engine batches ((engine.begin batches).play moves)
        (engine.settle ((engine.begin batches).play moves) timing returned)

/-- To count batches one after the other is to count their executions. -/
theorem countFrom_eq (board : Scoreboard) (run : Run) (timing : Timing) (number : Nat)
    (batches : List Batch) :
    countFrom board run timing number batches =
      ((batches.zipIdx number).map (executionOf run fun _ => timing)).foldl Scoreboard.count
        board := by
  induction batches generalizing board number with
  | nil => rfl
  | cons batch rest inductionHypothesis => exact inductionHypothesis _ _

/-- The way in which the engine itself runs batches is one of the ways in which they may return. -/
theorem ran_together {engine : Engine} (idle : engine.IsIdle) (batches : List Batch)
    (timing : Timing) :
    engine.Ran batches (engine.together batches timing).1 (engine.together batches timing).2 := by
  obtain ⟨leads, allOver⟩ := engine.finishes_together idle batches timing
  have known : engine.providers = (engine.together batches timing).1.providers :=
    (leads.grounded (Run.grounded_start rfl _ _ _)).known
  obtain ⟨moves, _, reached⟩ := leads
  have same : (engine.together batches timing).2 =
      engine.settle (engine.together batches timing).1 (fun _ => timing) batches.zipIdx := by
    unfold settle
    rw [← known, ← countFrom_eq]
    rfl
  rw [same, ← reached]
  exact .intro moves (by rwa [reached]) _ _ (.refl _)

theorem Ran.isIdle {engine after : Engine} {batches : List Batch} {run : Run}
    (ran : engine.Ran batches run after) (idle : engine.IsIdle) : after.IsIdle := by
  obtain ⟨moves, allOver, timing, returned, every⟩ := ran
  have fixed := Run.play_gate_fixed (engine.begin batches) moves
  have positive : 0 < ((engine.begin batches).play moves).gate.capacity := by
    rw [fixed.1]
    exact idle.positive
  exact ⟨((Run.balanced_start _ idle.whole _ _).play moves).isWhole_of_isOver positive allOver,
    fixed.2.trans idle.isOpen, positive⟩

theorem Ran.fixed {engine after : Engine} {batches : List Batch} {run : Run}
    (ran : engine.Ran batches run after) :
    after.settings = engine.settings ∧ after.gate.capacity = engine.gate.capacity := by
  obtain ⟨moves, _, _, _, _⟩ := ran
  exact ⟨rfl, (Run.play_gate_fixed (engine.begin batches) moves).1⟩

/-! ### Uses -/

/-- The ways of asking an engine for mixes. -/
inductive Mixing where
  | under (strategy : Strategy) (models : List Model) (prompt : String)
  | named (name : String) (models : List Model) (prompt : String)
  | byDefault (models : List Model) (prompt : String)
  | together (batches : List Batch)

/-- The batches that an engine is asked for. -/
def Mixing.batches (settings : EngineSettings) : Mixing → Except Fault (List Batch)
  | under strategy models prompt => .ok [⟨strategy, models, prompt⟩]
  | named name models prompt =>
    (Strategy.parse name).map fun strategy => [⟨strategy, models, prompt⟩]
  | byDefault models prompt => .ok [⟨settings.defaultStrategy, models, prompt⟩]
  | together batches => .ok batches

/-- What the engine does when it is asked. -/
def carryOut (engine : Engine) (timing : Timing) : Mixing → Except Fault (Run × Engine)
  | .under strategy models prompt => .ok (engine.mix strategy models prompt timing)
  | .named name models prompt => engine.mixByName name models prompt timing
  | .byDefault models prompt => .ok (engine.mixDefault models prompt timing)
  | .together batches => .ok (engine.together batches timing)

theorem carryOut_eq (engine : Engine) (timing : Timing) (mixing : Mixing) :
    engine.carryOut timing mixing =
      (mixing.batches engine.settings).map (engine.together · timing) := by
  cases mixing with
  | named name models prompt =>
    simp only [carryOut, mixByName, mix, Mixing.batches]
    generalize Strategy.parse name = parsed
    cases parsed <;> simp only [Except.map]
  | _ => simp only [carryOut, mixDefault, mix, Mixing.batches, Except.map]

/-- One thing that is done with an engine. -/
inductive Use where
  | mix (mixing : Mixing)
  | read
  | reset

/-- What comes of a use. -/
inductive Event where
  | ran (batches : List Batch) (run : Run)
  | refused (fault : Fault)
  | read
  | reset

/-- A batch that has returned, with its slots. -/
structure Mix where
  batch : Batch
  slots : List (Option Reply)

namespace Event

def isReset : Event → Bool
  | reset => true
  | _ => false

/-- The mixes that have returned. -/
def mixes : Event → List Mix
  | ran batches run => batches.zipIdx.map fun (batch, number) => ⟨batch, run.results number⟩
  | _ => []

/-- The calls that were made. -/
def calls : Event → List Call
  | ran _ run => run.calls
  | _ => []

/-- What was logged. -/
def log : Event → List String
  | ran _ run => run.log
  | _ => []

end Event

/-- A use leads from one engine to another. -/
inductive Takes (engine : Engine) : Use → Event → Engine → Prop where
  | run {mixing : Mixing} {batches : List Batch} {run : Run} {after : Engine}
      (accepted : mixing.batches engine.settings = .ok batches)
      (ran : engine.Ran batches run after) : Takes engine (.mix mixing) (.ran batches run) after
  | refuse {mixing : Mixing} {fault : Fault}
      (refused : mixing.batches engine.settings = .error fault) :
      Takes engine (.mix mixing) (.refused fault) engine
  | read : Takes engine .read .read engine
  | reset : Takes engine .reset .reset engine.reset

/-- Any number of uses, with what came of them. -/
inductive Session (new : Engine) : List Event → Engine → Prop where
  | start : Session new [] new
  | next {events : List Event} {engine after : Engine} {use : Use} {event : Event}
      (early : Session new events engine) (takes : engine.Takes use event after) :
      Session new (events ++ [event]) after

/-- The mixes that have returned since the last reset. -/
def mixesSince (events : List Event) : List Mix :=
  (events.rtakeWhile fun event => !event.isReset).flatMap Event.mixes

theorem mixesSince_append_singleton (events : List Event) (event : Event) :
    mixesSince (events ++ [event]) =
      if event.isReset then [] else mixesSince events ++ event.mixes := by
  unfold mixesSince
  rw [List.rtakeWhile_concat]
  cases event.isReset with
  | true => rfl
  | false =>
    rw [Bool.not_false, if_pos rfl, if_neg Bool.false_ne_true, List.flatMap_append,
      List.flatMap_singleton]

/-! ### The invariant -/

/-- A mix as it is counted. -/
def Mix.outcome (mix : Mix) : Strategy × Bool :=
  (mix.batch.strategy, isSuccess mix.slots)

/-- What an execution says about a mix. -/
def outcomeOf (execution : Execution) : Strategy × Bool :=
  (execution.strategy, execution.success)

/-- The scoreboard has come about by counting some mixes, in some order. -/
def Counts (board : Scoreboard) (mixes : List Mix) : Prop :=
  ∃ uses, board = Scoreboard.empty.afterAll uses ∧
    ((Scoreboard.executionsSince uses).map outcomeOf).Perm (mixes.map Mix.outcome)

theorem Counts.append {board : Scoreboard} {mixes : List Mix} (counts : Counts board mixes)
    {executions : List Execution} {more : List Mix}
    (same : (executions.map outcomeOf).Perm (more.map Mix.outcome)) :
    Counts (executions.foldl Scoreboard.count board) (mixes ++ more) := by
  obtain ⟨uses, rfl, counted⟩ := counts
  refine ⟨uses ++ executions.map .record, ?_, ?_⟩
  · unfold Scoreboard.afterAll
    rw [List.foldl_append, List.foldl_map]
    rfl
  · rw [Scoreboard.executionsSince_append_records, List.map_append, List.map_append]
    exact counted.append same

/-- Batches that return are counted with their slots. -/
theorem Ran.counts {engine after : Engine} {batches : List Batch} {run : Run}
    (ran : engine.Ran batches run after) {mixes : List Mix} (counts : Counts engine.board mixes) :
    Counts after.board (mixes ++ (Event.ran batches run).mixes) := by
  obtain ⟨moves, _, timing, returned, every⟩ := ran
  refine counts.append ?_
  unfold Event.mixes
  rw [List.map_map, List.map_map]
  exact every.map _

/-- The counters of a strategy are those of its mixes. -/
theorem Counts.tally {board : Scoreboard} {mixes : List Mix} (counts : Counts board mixes)
    (strategy : Strategy) :
    (board.tally strategy).total = mixes.countP (fun mix => mix.batch.strategy == strategy) ∧
      (board.tally strategy).successful =
        mixes.countP (fun mix => mix.batch.strategy == strategy && mix.slots.any (·.isSome)) ∧
      (board.tally strategy).failed =
        mixes.countP (fun mix => mix.batch.strategy == strategy && !mix.slots.any (·.isSome)) := by
  obtain ⟨uses, rfl, counted⟩ := counts
  have sums := Scoreboard.sums_tally_afterAll uses strategy
  have same (question : Strategy × Bool → Bool) :
      (Scoreboard.executionsSince uses).countP (question ∘ outcomeOf) =
        mixes.countP (question ∘ Mix.outcome) := by
    rw [← List.countP_map, ← List.countP_map, counted.countP_eq]
  refine ⟨?_, ?_, ?_⟩
  · rw [sums.total, Scoreboard.executionsOf, ← List.countP_eq_length_filter]
    exact same (·.1 == strategy)
  · rw [sums.successful, Scoreboard.executionsOf, List.countP_filter]
    simp only [Bool.and_comm (_ : Bool) (_ == strategy)]
    exact same fun outcome => outcome.1 == strategy && outcome.2
  · rw [sums.failed_eq, Scoreboard.executionsOf, List.countP_filter]
    simp only [Bool.and_comm (_ : Bool) (_ == strategy)]
    exact same fun outcome => outcome.1 == strategy && !outcome.2

/-- What holds of an engine between any two uses, with what has come of those before. -/
structure InOrder (settings : EngineSettings) (events : List Event) (engine : Engine) : Prop where
  idle : engine.IsIdle
  fixed : engine.settings = settings
  capacity : engine.gate.capacity = capacityFor settings.concurrency
  counts : Counts engine.board (mixesSince events)
  /-- Where nobody was asked there are no slots. -/
  silent : ∀ mix ∈ mixesSince events, mix.batch.models = [] → mix.slots = []

theorem inOrder_create (providers : Providers) (settings : EngineSettings) :
    InOrder settings [] (create providers settings) where
  idle := isIdle_create providers settings
  fixed := rfl
  capacity := rfl
  counts := ⟨[], rfl, .refl _⟩
  silent := fun _ member => absurd member List.not_mem_nil

theorem Ran.silent {engine after : Engine} {batches : List Batch} {run : Run}
    (ran : engine.Ran batches run after) :
    ∀ mix ∈ (Event.ran batches run).mixes, mix.batch.models = [] → mix.slots = [] := by
  obtain ⟨moves, _, _, _, _⟩ := ran
  intro mix member nobody
  obtain ⟨⟨batch, number⟩, listed, rfl⟩ := List.mem_map.mp member
  exact Run.results_of_no_models _ _ _ moves (List.mk_mem_zipIdx_iff_getElem?.mp listed) nobody

/-- An engine that is left as it is stays in order, whatever is said about it. -/
theorem InOrder.unmoved {settings : EngineSettings} {events : List Event} {engine : Engine}
    (inOrder : InOrder settings events engine) {event : Event} (kept : event.isReset = false)
    (idle : event.mixes = []) : InOrder settings (events ++ [event]) engine := by
  have mixes : mixesSince (events ++ [event]) = mixesSince events := by
    rw [mixesSince_append_singleton, kept, if_neg Bool.false_ne_true, idle, List.append_nil]
  exact ⟨inOrder.idle, inOrder.fixed, inOrder.capacity, mixes ▸ inOrder.counts,
    mixes ▸ inOrder.silent⟩

/-- One use keeps the books in order. -/
theorem Takes.inOrder {settings : EngineSettings} {events : List Event} {engine after : Engine}
    {use : Use} {event : Event} (takes : engine.Takes use event after)
    (inOrder : InOrder settings events engine) :
    InOrder settings (events ++ [event]) after := by
  cases takes with
  | @run _ batches run _ _ ran =>
    have mixes : mixesSince (events ++ [.ran batches run]) =
        mixesSince events ++ (Event.ran batches run).mixes :=
      mixesSince_append_singleton events _
    refine ⟨ran.isIdle inOrder.idle, ran.fixed.1.trans inOrder.fixed,
      ran.fixed.2.trans inOrder.capacity, mixes ▸ ran.counts inOrder.counts, fun mix member => ?_⟩
    rw [mixes] at member
    rcases List.mem_append.mp member with early | late
    · exact inOrder.silent mix early
    · exact ran.silent mix late
  | refuse refused => exact inOrder.unmoved rfl rfl
  | read => exact inOrder.unmoved rfl rfl
  | reset =>
    have mixes : mixesSince (events ++ [.reset]) = [] := mixesSince_append_singleton events _
    have idle := inOrder.idle
    exact ⟨⟨idle.whole, idle.isOpen, idle.positive⟩, inOrder.fixed, inOrder.capacity,
      mixes ▸ ⟨[], rfl, .refl _⟩, fun mix member => absurd (mixes ▸ member) List.not_mem_nil⟩

theorem Session.inOrder {providers : Providers} {settings : EngineSettings} {events : List Event}
    {engine : Engine} (session : Session (create providers settings) events engine) :
    InOrder settings events engine := by
  induction session with
  | start => exact inOrder_create providers settings
  | next _ takes inductionHypothesis => exact takes.inOrder inductionHypothesis

/-! ### The books -/

/-- Where no strategy has the name, in lower case and without the blanks around it, there is no
strategy to be found. -/
theorem parse_of_unknown {name : String}
    (unknown : ∀ strategy : Strategy, strategy.name ≠ Text.lowercase (Text.trim name)) :
    Strategy.parse name = .error (.unsupportedStrategy name) := by
  have missing : Strategy.ofName? (Text.lowercase (Text.trim name)) = none :=
    List.find?_eq_none.mpr fun strategy _ same => unknown strategy (beq_iff_eq.mp same)
  unfold Strategy.parse
  rw [missing]

/-- The books of an engine are in order after any uses. For each strategy the scoreboard counts the
mixes under it that have returned since the last reset, those with a reply as successes and all
others as failures, also those of nobody. All permits of the gate are free. What the engine does when
it is asked for mixes is such a use. A name that no strategy has is refused without a call and
without a word in the log, and the engine stays as it is. -/
theorem books_in_order {providers : Providers} {settings : EngineSettings} {events : List Event}
    {engine : Engine} (session : Session (create providers settings) events engine) :
    (∀ strategy, let tally := engine.board.tally strategy
      tally.total = (mixesSince events).countP (fun mix => mix.batch.strategy == strategy) ∧
        tally.successful = (mixesSince events).countP
          (fun mix => mix.batch.strategy == strategy && mix.slots.any (·.isSome)) ∧
        tally.failed = (mixesSince events).countP
          (fun mix => mix.batch.strategy == strategy && !mix.slots.any (·.isSome))) ∧
      (∀ mix ∈ mixesSince events, mix.batch.models = [] → mix.slots.any (·.isSome) = false) ∧
      engine.gate.free = capacityFor settings.concurrency ∧
      (∀ mixing timing, match engine.carryOut timing mixing with
        | .ok (run, after) => ∃ batches, engine.Takes (.mix mixing) (.ran batches run) after
        | .error fault => engine.Takes (.mix mixing) (.refused fault) engine) ∧
      ∀ name models prompt,
        (∀ strategy : Strategy, strategy.name ≠ Text.lowercase (Text.trim name)) →
          (∀ timing, engine.mixByName name models prompt timing =
            .error (.unsupportedStrategy name)) ∧
          ∀ event after, engine.Takes (.mix (.named name models prompt)) event after →
            event = .refused (.unsupportedStrategy name) ∧ event.calls = [] ∧ event.log = [] ∧
              after = engine := by
  have inOrder := session.inOrder
  refine ⟨inOrder.counts.tally, fun mix member nobody => ?_, ?_, fun mixing timing => ?_,
    fun name models prompt unknown => ⟨fun timing => ?_, fun event after takes => ?_⟩⟩
  · rw [inOrder.silent mix member nobody]
    rfl
  · have whole : engine.gate.issued = engine.gate.returned := inOrder.idle.whole
    rw [← inOrder.capacity, Gate.free, whole, Nat.add_sub_cancel]
  · rw [carryOut_eq]
    cases asked : mixing.batches engine.settings with
    | ok batches => exact ⟨batches, .run asked (ran_together inOrder.idle batches timing)⟩
    | error fault => exact .refuse asked
  · rw [mixByName, parse_of_unknown unknown]
    rfl
  · have asked : (Mixing.named name models prompt).batches engine.settings =
        .error (.unsupportedStrategy name) := by
      rw [Mixing.batches, parse_of_unknown unknown]
      rfl
    cases takes with
    | run accepted _ => exact nomatch asked.symm.trans accepted
    | refuse refused =>
      obtain rfl := Except.error.inj (asked.symm.trans refused)
      exact ⟨rfl, rfl, rfl, rfl⟩

/-- The case of a mix with a reply, a name that is not known, and a mix of nobody by default. -/
theorem books_in_order_after_three_uses :
    let known : Model := { provider := "echo", name := "m", kind := .fast }
    let lost : Model := { provider := "nowhere", name := "m", kind := .fast }
    let echo : Provider := ⟨"echo", fun request => ⟨5, .ok ⟨request.prompt, "echo", "m"⟩⟩⟩
    let engine := create (.ofList [echo]) ⟨2, .cascade⟩
    let timing : Timing := ⟨0, ⟨0, 0⟩⟩
    let first := (engine.mix .voting [lost, known] "task" timing).2
    let last := (first.mixDefault [] "task" timing).2
    first.mixByName "majority" [known] "task" timing = .error (.unsupportedStrategy "majority") ∧
      ((last.board.tally .voting).successful = 1 ∧ (last.board.tally .voting).failed = 0) ∧
      ((last.board.tally .cascade).successful = 0 ∧ (last.board.tally .cascade).failed = 1) ∧
      last.gate.free = 2 := by
  intro known lost echo engine timing first last
  have idle : engine.IsIdle := isIdle_create _ _
  have ran := ran_together idle [⟨.voting, [lost, known], "task"⟩] timing
  have unknown : ∀ strategy : Strategy,
      strategy.name ≠ Text.lowercase (Text.trim "majority") := by
    intro strategy
    cases strategy <;> decide +kernel
  have mixed : engine.Takes (.mix (.under .voting [lost, known] "task")) (.ran _ _) first :=
    .run rfl ran
  have early : Session engine [.ran _ _] first := .next .start mixed
  obtain ⟨_, _, _, _, refused⟩ := books_in_order early
  have refusal : first.Takes (.mix (.named "majority" [known] "task"))
      (.refused (.unsupportedStrategy "majority")) first :=
    .refuse (by rw [Mixing.batches, parse_of_unknown unknown]; rfl)
  have byDefault : first.Takes (.mix (.byDefault [] "task")) (.ran _ _) last :=
    .run rfl (ran_together (ran.isIdle idle) _ timing)
  have session := (early.next refusal).next byDefault
  obtain ⟨counters, _, free, _, _⟩ := books_in_order session
  obtain ⟨_, successful, failed⟩ := counters .voting
  obtain ⟨_, successfulByDefault, failedByDefault⟩ := counters .cascade
  exact ⟨(refused "majority" [known] "task" unknown).1 timing,
    ⟨successful.trans (by decide +kernel), failed.trans (by decide +kernel)⟩,
    ⟨successfulByDefault.trans (by decide +kernel), failedByDefault.trans (by decide +kernel)⟩,
    free⟩

end Engine

end Triage
