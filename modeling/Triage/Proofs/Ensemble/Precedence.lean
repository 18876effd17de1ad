/-
This file proves that nobody overtakes at the gate. Tickets are admitted in the order in which they
are issued, so a ticket that has been passed by a later one has been admitted itself, and its task is
ready. While time passes only when no task can go on, the task makes its call before the clock moves,
and so at the very moment at which the other one has made its call.

What is kept of two tasks is therefore not that their calls start one after the other, but that a
task that still waits behind a call of its successor is admitted and that this call has just been
made. Where all tasks of a batch are in its first stage, they ask in the order in which they are
looked at for the first time.
-/

import Triage.Proofs.Ensemble.Rounds
import Triage.Proofs.Ensemble.Succession

namespace Triage

/-- All models of a batch are asked at once. -/
theorem Strategy.stages_of_atOnce {strategy : Strategy}
    (atOnce : strategy ∈ [parallel, voting, weighted]) (models : List Model) :
    strategy.stages models = [models] := by
  cases strategy <;> first | rfl | exact absurd atOnce (by decide)

/-- Of two tasks that both make a call the first does not start it later. -/
def Task.StartsNoLater (first second : Task) : Prop :=
  ∀ call next, first.phase.call? = some call → second.phase.call? = some next →
    call.start ≤ next.start

namespace Run

/-! ### What a transition does for the gate and for calls -/

section

variable {run : Run} {task : Task} {phase : Phase} {gate : Gate} {peak : Nat}

/-- A ticket that has been admitted stays admitted. -/
theorem Transition.admits (transition : run.Transition task phase gate peak) {ticket : Nat}
    (admitted : run.gate.admits ticket = true) : gate.admits ticket = true := by
  have passed {prompt : String} {other : Gate} (passes : run.Passes task prompt other) :
      other.admits ticket = true := by
    cases passes <;> exact admitted
  cases transition with
  | call passes _ _ => exact passed passes
  | settle passes _ => exact Gate.admits_giveBack (passed passes)
  | conclude _ _ => exact Gate.admits_giveBack admitted
  | _ => exact admitted

/-- Nobody goes back. -/
theorem Transition.ne_held (transition : run.Transition task phase gate peak) : phase ≠ .held := by
  cases transition <;> exact nofun

/-- Whoever begins to wait takes the next ticket. -/
theorem Transition.ticket?_cases (transition : run.Transition task phase gate peak) {ticket : Nat}
    (waits : phase.ticket? = some ticket) : task.phase = .held ∧ ticket = run.gate.issued := by
  cases transition with
  | queue held _ _ _ => exact ⟨held, (Option.some.inj waits).symm⟩
  | _ => exact nomatch waits

/-- A task that is not kept at the gate has its call made now, with a ticket that is admitted: the
one it waits with, or the next one if it has not asked yet. -/
structure Enters (run : Run) (task : Task) (call : Call) (ticket : Nat) : Prop where
  starts : call.start = run.now
  admitted : run.gate.admits ticket = true
  own : task.phase = .held ∧ ticket = run.gate.issued ∨ task.phase.ticket? = some ticket

theorem Passes.enters {prompt : String} (passes : run.Passes task prompt gate) {ending : Ending}
    {duration : Nat}
    (attempt : task.model.attempt run.providers prompt run.now = (ending, duration)) {call : Call}
    (made : ending.call? = some call) : ∃ ticket, run.Enters task call ticket := by
  have starts : call.start = run.now := by
    have same := task.model.attempt_call? run.providers prompt run.now
    rw [attempt, made] at same
    obtain ⟨provider, _, rfl⟩ := Option.map_eq_some_iff.mp same.symm
    rfl
  cases passes with
  | atOnce held _ _ admitted => exact ⟨_, starts, admitted, Or.inl ⟨held, rfl⟩⟩
  | withTicket waiting admitted => exact ⟨_, starts, admitted, Or.inr (by rw [waiting]; rfl)⟩

/-- A call was there before, or it is made now. -/
theorem Transition.call?_cases (transition : run.Transition task phase gate peak) {call : Call}
    (made : phase.call? = some call) :
    task.phase.call? = some call ∨ ∃ ticket, run.Enters task call ticket := by
  cases transition with
  | call passes attempt _ => exact Or.inr (passes.enters attempt made)
  | settle passes attempt => exact Or.inr (passes.enters attempt made)
  | conclude calling _ => exact Or.inl (by rw [calling]; exact made)
  | _ => exact nomatch made

end

/-- Whoever waits with a ticket that is admitted can go on. -/
theorem isReady_of_admitted {run : Run} {task : Task} {ticket : Nat}
    (waits : task.phase.ticket? = some ticket) (admitted : run.gate.admits ticket = true) :
    run.isReady task = true := by
  unfold isReady
  cases current : task.phase <;> rw [current] at waits
  case waiting prompt other =>
    obtain rfl : other = ticket := Option.some.inj waits
    exact admitted
  all_goals cases waits

/-- All calls have started by now. -/
def IsDated (run : Run) : Prop :=
  ∀ task ∈ run.tasks, ∀ call, task.phase.call? = some call → call.start ≤ run.now

theorem IsDated.become {run : Run} (dated : run.IsDated) {position : Nat} {task : Task}
    {phase : Phase} {gate : Gate} {peak : Nat} (found : run.tasks[position]? = some task)
    (transition : run.Transition task phase gate peak) :
    (run.become position task phase gate peak).IsDated := by
  intro other member call made
  obtain ⟨index, inside, listed⟩ := List.getElem_of_mem member
  rcases getElem?_become_cases found (List.getElem?_eq_some_iff.mpr ⟨inside, listed⟩) with
    ⟨_, rfl⟩ | ⟨_, kept⟩
  · rcases transition.call?_cases made with before | ⟨_, enters⟩
    · exact dated task (List.mem_of_getElem? found) call before
    · exact Nat.le_of_eq enters.starts
  · exact dated other (List.mem_of_getElem? kept) call made

theorem IsDated.play {run : Run} (dated : run.IsDated) (moves : List Move) :
    (run.play moves).IsDated :=
  play_invariant (fun _ => True)
    (fun _ _ _ _ _ _ holds found transition => holds.become found transition)
    (fun _ _ holds later task member call made => Nat.le_trans (holds task member call made) later)
    (fun _ _ holds _ => holds) moves (fun move _ => move.within_any) run dated

theorem isDated_start (providers : Providers) (gate : Gate) (now : Nat) (batches : List Batch) :
    (start providers gate now batches).IsDated := by
  intro task member call made
  rw [start_phase member] at made
  exact nomatch made

/-! ### One task before another -/

/-- What is kept of two tasks of which the first has asked for the gate before the second. -/
structure Precedes (gate : Gate) (now : Nat) (first second : Phase) : Prop where
  asked : first ≠ .held
  ahead : ∀ ticket later, first.ticket? = some ticket → second.ticket? = some later →
    ticket < later
  /-- Where the second task has been faster, the first one can follow at once. -/
  follows : ∀ ticket call, first.ticket? = some ticket → second.call? = some call →
    gate.admits ticket = true ∧ call.start = now
  inOrder : ∀ call next, first.call? = some call → second.call? = some next →
    call.start ≤ next.start

namespace Precedes

variable {run : Run} {task : Task} {phase first second : Phase} {gate : Gate} {peak : Nat}

/-- As long as the second task has not asked, there is nothing to be compared. -/
theorem of_held (asked : first ≠ .held) : Precedes gate run.now first .held where
  asked := asked
  ahead := fun _ _ _ none => nomatch none
  follows := fun _ _ _ none => nomatch none
  inOrder := fun _ _ _ none => nomatch none

/-- The first task is taken further. If its call starts only now, the second one has made its own
call now or not at all. -/
theorem advanceFirst (precedes : Precedes run.gate run.now task.phase second)
    (transition : run.Transition task phase gate peak) : Precedes gate run.now phase second where
  asked := transition.ne_held
  ahead := fun _ _ waits _ => absurd (transition.ticket?_cases waits).1 precedes.asked
  follows := fun _ _ waits _ => absurd (transition.ticket?_cases waits).1 precedes.asked
  inOrder := fun call next made madeNext => by
    rcases transition.call?_cases made with before | ⟨ticket, enters⟩
    · exact precedes.inOrder call next before madeNext
    · rcases enters.own with ⟨held, _⟩ | waits
      · exact absurd held precedes.asked
      · have atOnce := (precedes.follows ticket next waits madeNext).2
        exact Nat.le_of_eq (enters.starts.trans atOnce.symm)

/-- The second task is taken further. Its ticket is admitted only when that of the first one is. -/
theorem advanceSecond (precedes : Precedes run.gate run.now first task.phase)
    (issued : ∀ ticket, first.ticket? = some ticket → ticket < run.gate.issued)
    (dated : ∀ call, first.call? = some call → call.start ≤ run.now)
    (transition : run.Transition task phase gate peak) : Precedes gate run.now first phase where
  asked := precedes.asked
  ahead := fun ticket later waits waitsLater => by
    rw [(transition.ticket?_cases waitsLater).2]
    exact issued ticket waits
  follows := fun ticket call waits made => by
    rcases transition.call?_cases made with before | ⟨later, enters⟩
    · have known := precedes.follows ticket call waits before
      exact ⟨transition.admits known.1, known.2⟩
    · have early : ticket ≤ later := by
        rcases enters.own with ⟨_, rfl⟩ | waitsLater
        · exact Nat.le_of_lt (issued ticket waits)
        · exact Nat.le_of_lt (precedes.ahead ticket later waits waitsLater)
      exact ⟨transition.admits (Gate.admits_of_le early enters.admitted), enters.starts⟩
  inOrder := fun call next made madeNext => by
    rcases transition.call?_cases madeNext with before | ⟨_, enters⟩
    · exact precedes.inOrder call next made before
    · rw [enters.starts]
      exact dated call made

/-- Some other task is taken further. -/
theorem advanceOther (precedes : Precedes run.gate run.now first second)
    (transition : run.Transition task phase gate peak) : Precedes gate run.now first second where
  asked := precedes.asked
  ahead := precedes.ahead
  follows := fun ticket call waits made =>
    ⟨transition.admits (precedes.follows ticket call waits made).1,
      (precedes.follows ticket call waits made).2⟩
  inOrder := precedes.inOrder

end Precedes

/-- The tasks at two positions of which the first has asked for the gate before the second. -/
structure Ahead (run : Run) (one two : Nat) : Prop where
  balanced : run.Balanced
  dated : run.IsDated
  apart : one ≠ two
  precedes : ∀ first second, run.tasks[one]? = some first → run.tasks[two]? = some second →
    Precedes run.gate run.now first.phase second.phase

namespace Ahead

variable {run : Run} {one two : Nat}

theorem become (ahead : run.Ahead one two) {position : Nat} {task : Task} {phase : Phase}
    {gate : Gate} {peak : Nat} (found : run.tasks[position]? = some task)
    (transition : run.Transition task phase gate peak) :
    (run.become position task phase gate peak).Ahead one two where
  balanced := ahead.balanced.become found transition
  dated := ahead.dated.become found transition
  apart := ahead.apart
  precedes := by
    intro first second listed listedSecond
    rcases getElem?_become_cases found listed with ⟨rfl, rfl⟩ | ⟨notFirst, kept⟩
    · rcases getElem?_become_cases found listedSecond with ⟨same, _⟩ | ⟨_, keptSecond⟩
      · exact absurd same ahead.apart
      · exact (ahead.precedes task second found keptSecond).advanceFirst transition
    · rcases getElem?_become_cases found listedSecond with ⟨rfl, rfl⟩ | ⟨_, keptSecond⟩
      · have member := List.mem_of_getElem? kept
        exact (ahead.precedes first task kept found).advanceSecond
          (fun ticket waits => ahead.balanced.books.issued ticket
            (List.mem_filterMap.mpr ⟨first, member, waits⟩))
          (fun call made => ahead.dated first member call made) transition
      · exact (ahead.precedes first second kept keptSecond).advanceOther transition

/-- When time may pass, nobody waits who has been admitted. -/
theorem wait (ahead : run.Ahead one two) {now : Nat} (later : run.now ≤ now)
    (settled : run.isSettled = true) : ({ run with now }).Ahead one two where
  balanced := ahead.balanced.later now run.providers
  dated := fun task member call made => Nat.le_trans (ahead.dated task member call made) later
  apart := ahead.apart
  precedes := fun first second listed listedSecond => by
    have before := ahead.precedes first second listed listedSecond
    refine ⟨before.asked, before.ahead, fun ticket call waits made => ?_, before.inOrder⟩
    have admitted := (before.follows ticket call waits made).1
    have ready := isReady_of_admitted waits admitted
    have unready := List.all_eq_true.mp settled first (List.mem_of_getElem? listed)
    rw [ready] at unready
    exact Bool.noConfusion unready

theorem play (ahead : run.Ahead one two) {moves : List Move} (prompt : run.IsPrompt moves) :
    (run.play moves).Ahead one two :=
  prompt.keeps (motive := fun other => other.Ahead one two)
    (fun _ _ _ _ _ _ holds found transition => holds.become found transition)
    (fun _ _ holds later settled => holds.wait later settled)
    (fun other providers holds =>
      ⟨holds.balanced.later other.now providers, holds.dated, holds.apart, holds.precedes⟩) ahead

end Ahead

/-- A task that has asked is ahead of one that has not. -/
theorem ahead_of_held {run : Run} {one two : Nat} {first second : Task} (balanced : run.Balanced)
    (dated : run.IsDated) (listed : run.tasks[one]? = some first) (asked : first.phase ≠ .held)
    (listedSecond : run.tasks[two]? = some second) (held : second.phase = .held) :
    run.Ahead one two where
  balanced := balanced
  dated := dated
  apart := by
    rintro rfl
    rw [listed, Option.some.injEq] at listedSecond
    exact asked (listedSecond ▸ held)
  precedes := fun task other found foundOther => by
    rw [listed, Option.some.injEq] at found
    rw [listedSecond, Option.some.injEq] at foundOther
    subst found foundOther
    rw [held]
    exact .of_held asked

/-! ### In the order of the tasks -/

/-- A run is reached by a prompt schedule that begins with a look at all tasks in their order. -/
def LeadsInOrder (first last : Run) : Prop :=
  ∃ polls late, polls.filterMap Move.position? = List.range first.tasks.length ∧
    first.IsPrompt (polls ++ late) ∧ first.play (polls ++ late) = last

theorem LeadsInOrder.leadsPromptly {first last : Run} (leads : first.LeadsInOrder last) :
    first.LeadsPromptly last := by
  obtain ⟨polls, late, _, prompt, result⟩ := leads
  exact ⟨polls ++ late, prompt, result⟩

theorem leadsInOrder_completeUnder (responder : Responder) (providers : Providers) (gate : Gate)
    (now : Nat) (batches : List Batch) :
    let first := start providers gate now batches
    first.LeadsInOrder (first.completeUnder responder) := by
  intro first
  obtain ⟨polls, busy, looked, passed⟩ :=
    exists_polls responder first (List.range first.tasks.length)
  obtain ⟨late, prompt, finished⟩ :=
    leadsPromptly_roundsUnder responder (first.totalWork - 1) (first.passUnder responder)
  refine ⟨polls, late, looked, (first.isPrompt_append polls late).mpr
    ⟨first.isPrompt_of_no_pause busy, passed ▸ prompt⟩, ?_⟩
  rw [play_append, passed, completeUnder_start]
  exact finished

/-- Nobody else changes the task at a position. -/
theorem getElem?_play_elsewhere (run : Run) {moves : List Move} {position : Nat}
    (elsewhere : position ∉ moves.filterMap Move.position?) :
    (run.play moves).tasks[position]? = run.tasks[position]? := by
  refine play_keeps (motive := fun other => other.tasks[position]? = run.tasks[position]?)
    (fun move => move.position? ≠ some position) (fun other move away holds => ?_) moves
    (fun move member here => elsewhere (List.mem_filterMap.mpr ⟨move, member, here⟩)) run rfl
  cases move with
  | step index =>
    rw [act]
    rcases other.step_cases index with ⟨same, _⟩ | ⟨task, phase, gate, peak, _, _, result⟩
    · rwa [same]
    · have different : index ≠ position := fun same => away (congrArg some same)
      rw [result, getElem?_become_of_ne other task phase gate peak different]
      exact holds
  | _ => exact holds

/-- A task whose turn has come has asked when it has been looked at. -/
theorem asked_of_step {run : Run} {position : Nat} {task : Task} {prompt : String}
    (found : run.tasks[position]? = some task) (turn : run.turn task = .now prompt) :
    ∃ other, (run.step position).tasks[position]? = some other ∧ other.phase ≠ .held := by
  rcases run.step_cases position with
    ⟨same, idle⟩ | ⟨other, phase, gate, peak, foundOther, transition, result⟩
  · refine ⟨task, by rw [same]; exact found, fun held => ?_⟩
    have unready := idle task found
    simp only [isReady, held, turn] at unready
    exact Bool.noConfusion unready
  · refine ⟨{ other with phase }, ?_, transition.ne_held⟩
    rw [result, run.getElem?_become_self phase gate peak foundOther]

section

variable {first last : Run}

/-- The first look at a task comes behind a look at all tasks before it, and before a look at any
task behind it. -/
theorem split_at_look {moves : List Move} {count position : Nat} (inside : position < count)
    (looked : moves.filterMap Move.position? = List.range count) :
    ∃ early late, moves = early ++ .step position :: late ∧
      early.filterMap Move.position? = List.range position := by
  obtain ⟨others, rfl⟩ := Nat.exists_eq_add_of_lt inside
  rw [Nat.add_assoc, List.range_add, List.range_succ_eq_map, List.map_cons,
    List.filterMap_eq_append_iff] at looked
  obtain ⟨early, rest, rfl, lookedEarly, lookedRest⟩ := looked
  obtain ⟨silent, move, late, rfl, unlooked, here, _⟩ := List.filterMap_eq_cons_iff.mp lookedRest
  refine ⟨early ++ silent, late, ?_, ?_⟩
  · cases move with
    | step index =>
      obtain rfl : index = position := Option.some.inj here
      rw [List.append_assoc]
    | _ => exact nomatch here
  · rw [List.filterMap_append, lookedEarly, List.filterMap_eq_nil_iff.mpr unlooked, List.append_nil]

/-- A task of the first stage is ahead of all tasks behind it. -/
theorem LeadsInOrder.ahead (leads : first.LeadsInOrder last) (balanced : first.Balanced)
    (dated : first.IsDated) (held : ∀ task ∈ first.tasks, task.phase = .held) {one two : Nat}
    {task other : Task} (order : one < two) (listed : first.tasks[one]? = some task)
    (early : task.stage = 0) (listedOther : first.tasks[two]? = some other) :
    last.Ahead one two := by
  obtain ⟨polls, late, looked, prompt, rfl⟩ := leads
  obtain ⟨before, after, rfl, lookedBefore⟩ :=
    split_at_look (List.getElem?_eq_some_iff.mp listed).1 looked
  have unlooked {index : Nat} (notEarly : one ≤ index) :
      (first.play before).tasks[index]? = first.tasks[index]? := by
    refine first.getElem?_play_elsewhere fun member => ?_
    rw [lookedBefore, List.mem_range] at member
    omega
  obtain ⟨asking, asked, notHeld⟩ := asked_of_step ((unlooked (Nat.le_refl one)).trans listed)
    (turn_of_first_stage _ early)
  have heldOther : ((first.play before).step one).tasks[two]? = some other := by
    refine Eq.trans ?_ ((unlooked (Nat.le_of_lt order)).trans listedOther)
    have elsewhere : two ∉ [Move.step one].filterMap Move.position? := fun member =>
      Nat.ne_of_gt order (List.mem_singleton.mp member)
    exact (first.play before).getElem?_play_elsewhere elsewhere
  have start : ((first.play before).step one).Ahead one two :=
    ahead_of_held ((balanced.play before).play [.step one]) ((dated.play before).play [.step one])
      asked notHeld heldOther (held other (List.mem_of_getElem? listedOther))
  rw [List.append_assoc, isPrompt_append] at prompt
  rw [List.append_assoc, play_append]
  exact start.play prompt.2.2

end

theorem Ahead.startsNoLater {run : Run} {one two : Nat} (ahead : run.Ahead one two)
    {first second : Task} (listed : run.tasks[one]? = some first)
    (listedSecond : run.tasks[two]? = some second) : first.StartsNoLater second :=
  (ahead.precedes first second listed listedSecond).inOrder

/-- Where all models of a batch are asked at once, all its tasks are in the first stage. -/
theorem stage_of_atOnce {batch : Batch} (atOnce : batch.strategy ∈ [.parallel, .voting, .weighted])
    {number : Nat} {task : Task} (member : task ∈ batch.tasks number) : task.stage = 0 := by
  unfold Batch.tasks at member
  rw [Strategy.stages_of_atOnce atOnce] at member
  obtain ⟨_, listed, member⟩ := List.mem_flatMap.mp member
  obtain rfl := List.mem_singleton.mp listed
  obtain ⟨_, _, rfl⟩ := List.mem_map.mp member
  rfl

theorem LeadsInOrder.pairwise_startsNoLater {providers : Providers} {gate : Gate}
    (whole : gate.IsWhole) {now : Nat} {batches : List Batch} {last : Run}
    (leads : (start providers gate now batches).LeadsInOrder last) :
    last.tasks.Pairwise fun task other => task.stage = 0 → task.StartsNoLater other := by
  have planned {index : Nat} {task : Task} (found : last.tasks[index]? = some task) :
      ∃ other, (start providers gate now batches).tasks[index]? = some other ∧
        other.stage = task.stage := by
    have same := congrArg (·[index]?) leads.leadsPromptly.plan
    simp only [Run.plan, List.getElem?_map, found, Option.map_some] at same
    obtain ⟨other, listed, alike⟩ := Option.map_eq_some_iff.mp same.symm
    have stages : other.fresh.stage = task.fresh.stage := congrArg Task.stage alike
    exact ⟨other, listed, stages⟩
  refine List.pairwise_iff_getElem.mpr fun one two inside insideOther order early => ?_
  have found : last.tasks[one]? = some last.tasks[one] := List.getElem?_eq_getElem inside
  have foundOther : last.tasks[two]? = some last.tasks[two] := List.getElem?_eq_getElem insideOther
  obtain ⟨task, listed, stage⟩ := planned found
  obtain ⟨other, listedOther, _⟩ := planned foundOther
  exact (leads.ahead (balanced_start providers whole now batches)
    (isDated_start providers gate now batches) (fun _ member => start_phase member) order listed
    (stage.trans early) listedOther).startsNoLater found foundOther

/-- Nobody overtakes at the gate. In every state that is reached while time passes only when no task
can go on, whatever the providers answer from moment to moment: of two tasks of batches that are
started together, one that has asked for the gate while the other one had not yet never starts its
call later. When all tasks are looked at in their order first, the calls of a batch whose models are
asked at once start in the order of its models. So it is whenever a run is completed, whoever
answers, and then it comes to its end. -/
theorem nobody_overtakes (providers : Providers) (gate : Gate) (whole : gate.IsWhole)
    (positive : 0 < gate.capacity) (now : Nat) (batches : List Batch) :
    let first := start providers gate now batches
    (∀ early late, first.IsPrompt (early ++ late) →
      ∀ (one two : Nat) (asked held task other : Task),
        (first.play early).tasks[one]? = some asked → asked.phase.hasBegun = true →
        (first.play early).tasks[two]? = some held → held.phase = .held →
        (first.play (early ++ late)).tasks[one]? = some task →
        (first.play (early ++ late)).tasks[two]? = some other → task.StartsNoLater other) ∧
    (∀ last, first.LeadsInOrder last → ∀ number batch, batches[number]? = some batch →
      batch.strategy ∈ [.parallel, .voting, .weighted] →
        (last.tasksOf number).map (·.model) = batch.models ∧
          (last.tasksOf number).Pairwise Task.StartsNoLater) ∧
    (∀ responder, first.LeadsInOrder (first.completeUnder responder) ∧
      (first.completeUnder responder).isOver = true) ∧
    first.completeUnder (.constant providers) = first.complete := by
  intro first
  have balanced : first.Balanced := balanced_start providers whole now batches
  have dated : first.IsDated := isDated_start providers gate now batches
  refine ⟨fun early late prompt one two asked held task other foundAsked begun foundHeld notYet
    found foundOther => ?_, fun last leads number batch listed atOnce => ?_, fun responder =>
    ⟨leadsInOrder_completeUnder responder providers gate now batches,
      balanced.completeUnder_isOver positive responder⟩, completeUnder_constant rfl⟩
  · have notHeld : asked.phase ≠ .held := fun same => by
      rw [same] at begun
      exact Bool.noConfusion begun
    have ahead := ahead_of_held (balanced.play early) (dated.play early) foundAsked notHeld
      foundHeld notYet
    rw [play_append] at found foundOther
    exact (ahead.play ((first.isPrompt_append early late).mp prompt).2).startsNoLater found
      foundOther
  · have same : (last.tasksOf number).map Task.fresh = batch.tasks number := by
      obtain ⟨moves, _, rfl⟩ := leads.leadsPromptly
      exact play_tasksOf providers gate now batches moves listed
    refine ⟨(tasksOf_model same).trans ?_, ?_⟩
    · unfold Batch.lineup
      rw [Strategy.stages_of_atOnce atOnce, List.flatten_singleton]
    · refine ((leads.pairwise_startsNoLater whole).filter _).imp_of_mem fun member _ order => ?_
      have planned := stage_of_atOnce atOnce (same ▸ List.mem_map_of_mem member)
      exact order planned

/-- The case of one permit, for which calls of two batches wait behind one that is cut off, beside a
model that has no provider. -/
theorem nobody_overtakes_behind_timeout :
    let ask (provider : String) : Model := { provider, name := "m", kind := .fast }
    let echo : Provider := ⟨"echo", fun request => ⟨5, .ok ⟨request.prompt, "echo", "m"⟩⟩⟩
    let late : Provider := ⟨"late", fun _ => ⟨40000, .ok ⟨"", "late", "m"⟩⟩⟩
    let first := start (.ofList [echo, late]) (.withPermits 1) 0
      [⟨.parallel, [ask "late", ask "nobody", ask "echo"], "a"⟩, ⟨.voting, [ask "echo"], "b"⟩]
    (first.complete.tasksOf 0).Pairwise Task.StartsNoLater ∧
      first.complete.calls.map (·.start) = [0, 30000, 30005] := by
  intro ask echo late first
  obtain ⟨_, inOrder, completed, same⟩ := nobody_overtakes (.ofList [echo, late]) (.withPermits 1)
    (Gate.isWhole_withPermits 1) Nat.one_pos 0
    [⟨.parallel, [ask "late", ask "nobody", ask "echo"], "a"⟩, ⟨.voting, [ask "echo"], "b"⟩]
  refine ⟨?_, by decide +kernel⟩
  rw [← same]
  exact (inOrder _ (completed _).1 0 _ rfl (by decide)).2

end Run

end Triage
