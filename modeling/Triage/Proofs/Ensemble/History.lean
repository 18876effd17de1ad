/-
This file keeps the history of a run: which attempts are made, which calls are started, and how every
call ends. It is read off from the outside, by comparing the states before and after each move, so a
call that was started twice or that ended twice would stand in it twice.

No move takes back what lies behind a task. So what has happened to a task since the start is what
lies behind the phase that it has come to.
-/

import Mathlib.Data.List.Forall2
import Triage.Proofs.Ensemble.Transition

namespace Triage

deriving instance DecidableEq for Request, Call

/-- What can happen to a task. -/
inductive Event where
  /-- The attempt of its model begins. -/
  | attempted
  | started (call : Call)
  /-- A call ran to its end. -/
  | finished (call : Call)
  /-- A call was cut off at the end of its time. -/
  | cancelled (call : Call)
  deriving DecidableEq

namespace Event

/-- The call that was started. -/
def started? : Event → Option Call
  | started call => some call
  | _ => none

/-- The call that ran to its end. -/
def finished? : Event → Option Call
  | finished call => some call
  | _ => none

/-- The call that was cut off. -/
def cancelled? : Event → Option Call
  | cancelled call => some call
  | _ => none

end Event

/-- What can have happened to a task so far: at most one attempt, at most one call in it, and at
most one end of this call. -/
inductive Course : List Event → Prop where
  | untouched : Course []
  | attempted : Course [.attempted]
  | started (call : Call) : Course [.attempted, .started call]
  | finished (call : Call) : Course [.attempted, .started call, .finished call]
  | cancelled (call : Call) : Course [.attempted, .started call, .cancelled call]

/-- What lies behind a task whose attempt has ended. -/
def Ending.account : Ending → List Event
  | refused _ => [.attempted]
  | returned call _ => [.attempted, .started call, .finished call]
  | cancelled call _ => [.attempted, .started call, .cancelled call]

namespace Phase

/-- What lies behind a task that has come to a phase. -/
def account : Phase → List Event
  | held => []
  | waiting _ _ => [.attempted]
  | calling ending _ => .attempted :: ending.call?.toList.map .started
  | ended ending => ending.account
  | skipped => []

/-- What is new when a task has come from one phase to another. -/
def news (old new : Phase) : List Event :=
  new.account.filter fun event => event ∉ old.account

theorem course_account (phase : Phase) : Course phase.account := by
  cases phase with
  | held => exact .untouched
  | waiting _ _ => exact .attempted
  | calling ending _ => cases ending <;> constructor
  | ended ending => cases ending <;> constructor
  | skipped => exact .untouched

end Phase

theorem Course.nodup {events : List Event} (course : Course events) : events.Nodup := by
  cases course <;> simp

/-- Where nothing is taken back, the news are all that comes behind the old account. -/
theorem Phase.account_append_news {old new : Phase} (kept : old.account <+: new.account) :
    old.account ++ old.news new = new.account := by
  obtain ⟨fresh, split⟩ := kept
  have distinct := new.course_account.nodup
  unfold news
  rw [← split] at distinct ⊢
  obtain ⟨_, _, apart⟩ := List.nodup_append.mp distinct
  have known : old.account.filter (fun event => event ∉ old.account) = [] :=
    List.filter_eq_nil_iff.mpr fun event member unknown => of_decide_eq_true unknown member
  have unknown : fresh.filter (fun event => event ∉ old.account) = fresh :=
    List.filter_eq_self.mpr fun event member =>
      decide_eq_true fun other => apart event other event member rfl
  rw [List.filter_append, known, unknown, List.nil_append]

theorem Ending.account_isPrefix (ending : Ending) (time : Nat) :
    (Phase.calling ending time).account <+: ending.account := by
  cases ending with
  | refused _ => exact List.prefix_rfl
  | returned call _ => exact ⟨[.finished call], rfl⟩
  | cancelled call _ => exact ⟨[.cancelled call], rfl⟩

namespace Run

/-- What is new in a state, with the positions of the tasks it has happened to. -/
def news (old new : Run) : List (Nat × Event) :=
  (old.tasks.zip new.tasks).zipIdx.flatMap fun ((old, new), position) =>
    (old.phase.news new.phase).map (position, ·)

/-- What happens in the moves of a schedule, in order. -/
def history (run : Run) : List Move → List (Nat × Event)
  | [] => []
  | move :: rest => run.news (run.act move) ++ (run.act move).history rest

/-- What happens to the task at a position. -/
def eventsAt (position : Nat) (history : List (Nat × Event)) : List Event :=
  (history.filter (·.1 == position)).map (·.2)

/-! ### Nothing is taken back -/

/-- Tasks that have come further, each in its place. -/
def Further (old new : Task) : Prop :=
  old.phase.account <+: new.phase.account

theorem further_refl (task : Task) : Further task task :=
  List.prefix_rfl

theorem Passes.account_isPrefix {run : Run} {task : Task} {prompt : String} {gate : Gate}
    (passes : run.Passes task prompt gate) : task.phase.account <+: [.attempted] := by
  cases passes with
  | atOnce held _ _ _ => rw [held]; exact List.nil_prefix
  | withTicket waiting _ => rw [waiting]; exact List.prefix_rfl

theorem Transition.account_isPrefix {run : Run} {task : Task} {phase : Phase} {gate : Gate}
    {peak : Nat} (transition : run.Transition task phase gate peak) :
    task.phase.account <+: phase.account := by
  cases transition with
  | skip held _ => rw [held]; exact List.nil_prefix
  | refuse held _ _ => rw [held]; exact List.nil_prefix
  | queue held _ _ _ => rw [held]; exact List.nil_prefix
  | call passes _ _ => exact passes.account_isPrefix.trans ⟨_, rfl⟩
  | @settle _ _ ending passes _ =>
    have begun : [Event.attempted] <+: ending.account := by cases ending <;> exact ⟨_, rfl⟩
    exact passes.account_isPrefix.trans begun
  | conclude calling _ => rw [calling]; exact Ending.account_isPrefix _ _

/-- No move takes back what lies behind any task. -/
theorem act_further (run : Run) (move : Move) :
    List.Forall₂ Further run.tasks (run.act move).tasks := by
  have same : List.Forall₂ Further run.tasks run.tasks :=
    List.forall₂_same.mpr fun task _ => further_refl task
  cases move with
  | step position =>
    rw [act]
    rcases run.step_cases position with
      ⟨idle, _⟩ | ⟨task, phase, gate, peak, found, transition, result⟩
    · rwa [idle]
    · obtain ⟨before, after, split, changed⟩ := run.become_tasks phase gate peak found
      rw [result, changed, split]
      refine List.rel_append ?_ (.cons transition.account_isPrefix ?_)
      · exact List.forall₂_same.mpr fun task _ => further_refl task
      · exact List.forall₂_same.mpr fun task _ => further_refl task
  | wait _ => exact same
  | answer _ => exact same

/-! ### The history of a task -/

theorem eventsAt_append (position : Nat) (early late : List (Nat × Event)) :
    eventsAt position (early ++ late) = eventsAt position early ++ eventsAt position late := by
  unfold eventsAt
  rw [List.filter_append, List.map_append]

theorem eventsAt_own (position : Nat) (events : List Event) :
    eventsAt position (events.map (position, ·)) = events := by
  unfold eventsAt
  rw [List.filter_eq_self.mpr, List.map_map]
  · exact List.map_id events
  · intro noted member
    obtain ⟨_, _, rfl⟩ := List.mem_map.mp member
    exact beq_self_eq_true position

theorem eventsAt_eq_nil {position : Nat} {history : List (Nat × Event)}
    (elsewhere : ∀ noted ∈ history, noted.1 ≠ position) : eventsAt position history = [] := by
  unfold eventsAt
  rw [List.filter_eq_nil_iff.mpr, List.map_nil]
  exact fun noted member same => elsewhere noted member (beq_iff_eq.mp same)

theorem eventsAt_zipIdx (pairs : List (Task × Task)) (events : Task × Task → List Event)
    (first : Nat) {offset : Nat} {pair : Task × Task} (found : pairs[offset]? = some pair) :
    eventsAt (first + offset) ((pairs.zipIdx first).flatMap fun (pair, position) =>
      (events pair).map (position, ·)) = events pair := by
  induction pairs generalizing first offset with
  | nil => exact nomatch found
  | cons head rest inductionHypothesis =>
    rw [List.zipIdx_cons, List.flatMap_cons, eventsAt_append]
    cases offset with
    | zero =>
      rw [List.getElem?_cons_zero, Option.some.injEq] at found
      subst found
      rw [Nat.add_zero, eventsAt_own, eventsAt_eq_nil, List.append_nil]
      intro noted member
      obtain ⟨other, otherMember, member⟩ := List.mem_flatMap.mp member
      obtain ⟨_, _, rfl⟩ := List.mem_map.mp member
      have later := List.le_snd_of_mem_zipIdx otherMember
      show other.2 ≠ first
      omega
    | succ offset =>
      rw [List.getElem?_cons_succ] at found
      have further := inductionHypothesis (first + 1) found
      rw [show first + 1 + offset = first + (offset + 1) by omega] at further
      rw [further, eventsAt_eq_nil, List.nil_append]
      intro noted member
      obtain ⟨_, _, rfl⟩ := List.mem_map.mp member
      show first ≠ first + (offset + 1)
      omega

theorem eventsAt_news {old new : Run} {position : Nat} {before after : Task}
    (foundOld : old.tasks[position]? = some before)
    (foundNew : new.tasks[position]? = some after) :
    eventsAt position (old.news new) = before.phase.news after.phase := by
  have found : (old.tasks.zip new.tasks)[position]? = some (before, after) :=
    List.getElem?_zip_eq_some.mpr ⟨foundOld, foundNew⟩
  have own := eventsAt_zipIdx (old.tasks.zip new.tasks) (fun pair => pair.1.phase.news pair.2.phase)
    0 found
  rwa [Nat.zero_add] at own

/-- What has happened to a task since some state is what lies behind it now and did not then. -/
theorem account_append_eventsAt (run : Run) (moves : List Move) {position : Nat}
    {before after : Task} (foundBefore : run.tasks[position]? = some before)
    (foundAfter : (run.play moves).tasks[position]? = some after) :
    before.phase.account ++ eventsAt position (run.history moves) = after.phase.account := by
  induction moves generalizing run before with
  | nil =>
    rw [show before = after from Option.some.inj (foundBefore.symm.trans foundAfter)]
    exact List.append_nil _
  | cons move rest inductionHypothesis =>
    obtain ⟨inside, rfl⟩ := List.getElem?_eq_some_iff.mp foundBefore
    have further := run.act_further move
    have insideNext := further.length_eq ▸ inside
    have foundNext := List.getElem?_eq_getElem insideNext
    have kept : Further run.tasks[position] (run.act move).tasks[position] :=
      List.Forall₂.get further inside insideNext
    rw [history, eventsAt_append, eventsAt_news foundBefore foundNext, ← List.append_assoc,
      Phase.account_append_news kept]
    exact inductionHypothesis (run.act move) foundNext foundAfter

/-! ### The history of all tasks -/

/-- What lies behind all tasks. -/
def account (run : Run) : List Event :=
  run.tasks.flatMap (·.phase.account)

theorem account_append_news {old new : Run} (further : List.Forall₂ Further old.tasks new.tasks) :
    (old.account ++ (old.news new).map (·.2)).Perm new.account := by
  have plain : (old.news new).map (·.2) =
      (old.tasks.zip new.tasks).flatMap fun pair => pair.1.phase.news pair.2.phase := by
    unfold news
    rw [List.map_flatMap]
    conv_rhs => rw [← List.zipIdx_map_fst 0 (old.tasks.zip new.tasks), List.flatMap_map]
    refine congrArg (List.flatMap · _) (funext fun pair => ?_)
    rw [List.map_map]
    exact List.map_id _
  rw [plain]
  unfold account
  generalize old.tasks = olds, new.tasks = news at further
  induction further with
  | nil => exact .refl _
  | cons kept _ inductionHypothesis =>
    rw [List.zip_cons_cons, List.flatMap_cons, List.flatMap_cons, List.flatMap_cons,
      ← Phase.account_append_news kept]
    rw [List.perm_iff_count] at inductionHypothesis ⊢
    intro event
    have rest := inductionHypothesis event
    simp only [List.count_append] at rest ⊢
    omega

theorem account_append_history (run : Run) (moves : List Move) :
    (run.account ++ (run.history moves).map (·.2)).Perm (run.play moves).account := by
  induction moves generalizing run with
  | nil => exact .of_eq (List.append_nil _)
  | cons move rest inductionHypothesis =>
    rw [history, List.map_append, ← List.append_assoc, play_cons]
    exact ((account_append_news (run.act_further move)).append_right _).trans
      (inductionHypothesis (run.act move))

/-! ### From the start on -/

theorem eventsAt_history (providers : Providers) (gate : Gate) (now : Nat) (batches : List Batch)
    (moves : List Move) {position : Nat} {task : Task}
    (found : ((start providers gate now batches).play moves).tasks[position]? = some task) :
    eventsAt position ((start providers gate now batches).history moves) = task.phase.account := by
  have same := congrArg List.length (play_plan (start providers gate now batches) moves)
  unfold plan at same
  rw [List.length_map, List.length_map] at same
  have inside := same ▸ (List.getElem?_eq_some_iff.mp found).1
  have begun := List.getElem?_eq_getElem inside
  have own := account_append_eventsAt _ moves begun found
  rwa [start_phase (List.mem_of_getElem? begun)] at own

theorem history_perm (providers : Providers) (gate : Gate) (now : Nat) (batches : List Batch)
    (moves : List Move) :
    (((start providers gate now batches).history moves).map (·.2)).Perm
      ((start providers gate now batches).play moves).account := by
  have books := account_append_history (start providers gate now batches) moves
  have nothing : (start providers gate now batches).account = [] :=
    List.flatMap_eq_nil_iff.mpr fun task member => by rw [start_phase member]; rfl
  rwa [nothing] at books

end Run

end Triage
