/-
This file balances the books of a run. A callable model that is attempted makes one call, and this is
all the calls there are; each of them runs to its end, is cut off when its time is over, or is under
way. The books are kept from the history of the run, and what the run itself counts agrees with
them.
-/

import Triage.Proofs.Ensemble.Arrangement
import Triage.Proofs.Ensemble.History

namespace Triage

/-! ### Calls -/

/-- The attempt of a model leads to a call: the model is sound, the gate is open and the provider is
known. How often the model is to be asked again does not count. -/
def Model.isCallable (model : Model) (providers : Providers) (isOpen : Bool) : Bool :=
  model.defect?.isNone && isOpen && (providers.find? model.provider).isSome

theorem Providers.isSome_find?_of_names {providers others : Providers}
    (same : others.names = providers.names) (name : String) :
    (others.find? name).isSome = (providers.find? name).isSome := by
  have listed : ∀ table : Providers, (table.find? name).isSome = table.names.any (· == name) := by
    intro table
    unfold find? names
    rw [List.isSome_find?, List.any_map]
    rfl
  rw [listed, listed, same]

theorem Providers.name_of_find? {providers : Providers} {name : String} {provider : Provider}
    (found : providers.find? name = some provider) : provider.name = name := by
  have own := List.find?_some found
  exact beq_iff_eq.mp own

namespace Model

variable {model : Model} {prompt : String} {ending : Ending} {isOpen : Bool}

/-- Behind the gate an attempt ends in one of three ways: without a call because the provider is not
known, or with a call that runs to its end or is cut off for its time. -/
theorem attempt_cases {providers : Providers} {now duration : Nat}
    (attempt : model.attempt providers prompt now = (ending, duration)) :
    (providers.find? model.provider = none ∧
        ending = .refused (.providerUnavailable model.provider) ∧ duration = 0) ∨
      ∃ provider, providers.find? model.provider = some provider ∧
        ((∃ result, ending = .returned ⟨now, provider.name, model.request prompt⟩ result) ∨
          ending = .cancelled ⟨now, provider.name, model.request prompt⟩ model.timeoutFault) := by
  unfold Model.attempt at attempt
  cases found : providers.find? model.provider with
  | none =>
    rw [found] at attempt
    obtain ⟨rfl, rfl⟩ := Prod.mk.inj attempt
    exact Or.inl ⟨rfl, rfl, rfl⟩
  | some provider =>
    simp only [found] at attempt
    split at attempt
    · obtain ⟨rfl, _⟩ := Prod.mk.inj attempt
      exact Or.inr ⟨provider, rfl, Or.inl ⟨_, rfl⟩⟩
    · obtain ⟨rfl, _⟩ := Prod.mk.inj attempt
      exact Or.inr ⟨provider, rfl, Or.inr rfl⟩

/-- An attempt that takes time makes a call. -/
theorem call?_of_lasting {providers : Providers} {now duration : Nat}
    (attempt : model.attempt providers prompt now = (ending, duration)) (lasting : duration ≠ 0) :
    ∃ call, ending.call? = some call := by
  rcases attempt_cases attempt with ⟨_, _, instant⟩ | ⟨provider, _, ⟨result, rfl⟩ | rfl⟩
  · exact absurd instant lasting
  · exact ⟨_, rfl⟩
  · exact ⟨_, rfl⟩

theorem isCallable_of_refusal?_eq_some (providers : Providers) {fault : Fault}
    (refused : model.refusal? isOpen = some fault) : model.isCallable providers isOpen = false := by
  unfold isCallable
  cases sound : model.defect? with
  | some defect => rfl
  | none =>
    cases isOpen with
    | false => rfl
    | true => simp [refusal?, sound] at refused

/-- Whatever the known providers answer, an attempt makes the one call that its model asks for, or
none if the model is not callable. -/
theorem Ends.call_cases {providers : Providers}
    (ends : model.Ends (·.names = providers.names) isOpen prompt ending) :
    (model.isCallable providers isOpen = true ∧ ∃ call, ending.call? = some call ∧
        call.provider = model.provider ∧ call.request = model.request prompt) ∨
      (model.isCallable providers isOpen = false ∧ ∃ fault, ending = .refused fault) := by
  cases ends with
  | @refused fault refused =>
    exact Or.inr ⟨isCallable_of_refusal?_eq_some providers refused, fault, rfl⟩
  | @attempted others now duration _ welcome known attempt =>
    obtain ⟨sound, rfl⟩ := (model.refusal?_eq_none_iff isOpen).mp welcome
    unfold isCallable
    rw [sound, ← Providers.isSome_find?_of_names known]
    rcases attempt_cases attempt with ⟨missing, rfl, _⟩ | ⟨provider, found, ⟨result, rfl⟩ | rfl⟩
    · rw [missing]
      exact Or.inr ⟨rfl, _, rfl⟩
    · rw [found]
      exact Or.inl ⟨rfl, _, rfl, Providers.name_of_find? found, rfl⟩
    · rw [found]
      exact Or.inl ⟨rfl, _, rfl, Providers.name_of_find? found, rfl⟩

/-- A call is cut off for nothing but its time. -/
theorem Ends.fault_of_cancelled {tables : Providers → Prop} {call : Call} {fault : Fault}
    (ends : model.Ends tables isOpen prompt (.cancelled call fault)) :
    fault = model.timeoutFault := by
  cases ends with
  | attempted _ _ attempt =>
    rcases attempt_cases attempt with ⟨_, same, _⟩ | ⟨_, _, ⟨_, same⟩ | same⟩
    · exact nomatch same
    · exact nomatch same
    · exact (Ending.cancelled.inj same).2

end Model

namespace Run

/-! ### What the account of a phase says -/

theorem filterMap_started?_account (phase : Phase) :
    phase.account.filterMap Event.started? = phase.call?.toList := by
  cases phase with
  | calling ending _ => cases ending <;> rfl
  | ended ending => cases ending <;> rfl
  | _ => rfl

/-- A task whose call is under way has started one. -/
def IsLive (task : Task) : Prop :=
  ∀ ending time, task.phase = .calling ending time → ∃ call, ending.call? = some call

theorem play_isLive (providers : Providers) (gate : Gate) (now : Nat) (batches : List Batch)
    (moves : List Move) : ∀ task ∈ ((start providers gate now batches).play moves).tasks,
      IsLive task := by
  refine play_always (motive := fun run => ∀ task ∈ run.tasks, IsLive task)
    (fun run position task phase gate peak holds found transition => ?_) (fun _ _ holds => holds)
    (fun _ _ holds => holds) moves _ fun task member ending time calling => ?_
  · obtain ⟨others, same, changed⟩ := run.become_perm phase gate peak found
    intro other member
    rcases List.mem_cons.mp (changed.mem_iff.mp member) with rfl | member
    · intro ending time calling
      cases transition with
      | call passes attempt lasting =>
        obtain ⟨rfl, _⟩ := Phase.calling.inj calling
        exact Model.call?_of_lasting attempt lasting
      | _ => exact nomatch calling
    · exact holds other (same.mem_iff.mpr (List.mem_cons_of_mem _ member))
  · rw [start_phase member] at calling
    exact nomatch calling

theorem length_finished_account (phase : Phase) :
    (phase.account.filterMap Event.finished?).length =
      if phase.ending?.any (·.isReturned) then 1 else 0 := by
  cases phase with
  | calling ending _ => cases ending <;> rfl
  | ended ending => cases ending <;> rfl
  | _ => rfl

/-- A call that was started has run to its end, was cut off or is under way. -/
theorem length_started_account {task : Task} (live : IsLive task) :
    (task.phase.account.filterMap Event.started?).length =
      (task.phase.account.filterMap Event.finished?).length +
        (task.phase.account.filterMap Event.cancelled?).length +
          if task.phase.isCalling then 1 else 0 := by
  cases current : task.phase with
  | calling ending time =>
    obtain ⟨call, made⟩ := live ending time current
    simp only [Phase.account, made]
    rfl
  | ended ending => cases ending <;> rfl
  | _ => rfl

theorem attempt?_of_started {phase : Phase} {call : Call} (member : .started call ∈ phase.account) :
    ∃ ending, phase.attempt? = some ending ∧ ending.call? = some call := by
  have made : call ∈ phase.account.filterMap Event.started? :=
    List.mem_filterMap.mpr ⟨.started call, member, rfl⟩
  rw [filterMap_started?_account, Option.mem_toList] at made
  cases phase with
  | calling ending _ => exact ⟨ending, rfl, made⟩
  | ended ending => exact ⟨ending, rfl, made⟩
  | _ => exact nomatch made

/-! ### The books -/

/-- What has happened to a task when all is over, and the grounds for it. -/
inductive Closed (run : Run) (callable : Bool) (task : Task) : List Event → Prop where
  | stopped (chained : task.isChained = true)
      (failed : (run.before task).any (·.hasFailed) = true) : Closed run callable task []
  | refused {fault : Fault} (uncallable : callable = false)
      (ended : task.phase = .ended (.refused fault)) (empty : task.slot? = some none) :
      Closed run callable task [.attempted]
  | finished {result : Except Fault Reply} (call : Call) (called : callable = true)
      (ended : task.phase = .ended (.returned call result)) :
      Closed run callable task [.attempted, .started call, .finished call]
  | cancelled (call : Call) (called : callable = true)
      (ended : task.phase = .ended (.cancelled call task.model.timeoutFault))
      (empty : task.slot? = some none) :
      Closed run callable task [.attempted, .started call, .cancelled call]

section

variable {tables : Providers → Prop} {run : Run} {task : Task}

/-- The one call of an attempt, seen from what lies behind its task. -/
theorem Grounded.asked {providers : Providers} (grounded : run.Grounded (·.names = providers.names))
    (member : task ∈ run.tasks) {call : Call} (begun : .started call ∈ task.phase.account) :
    task.model.isCallable providers run.gate.isOpen = true ∧
      call.provider = task.model.provider ∧
      call.request = task.model.request (promptAfter task (run.before task)) := by
  obtain ⟨ending, attempted, made⟩ := attempt?_of_started begun
  rcases (grounded.ends member attempted).call_cases with
    ⟨called, other, madeOther, asked⟩ | ⟨_, _, rfl⟩
  · obtain rfl : call = other := Option.some.inj (made.symm.trans madeOther)
    exact ⟨called, asked⟩
  · exact nomatch made

theorem Grounded.closed {providers : Providers} (grounded : run.Grounded (·.names = providers.names))
    (member : task ∈ run.tasks) (allOver : run.isOver = true) :
    run.Closed (task.model.isCallable providers run.gate.isOpen) task task.phase.account := by
  have done := List.all_eq_true.mp allOver task member
  cases current : task.phase with
  | skipped =>
    have grounds := grounded.grounds task member
    unfold HasGrounds at grounds
    simp only [current] at grounds
    obtain ⟨chained, failed⟩ := (run.turn_eq_never_iff task).mp grounds
    exact .stopped chained failed
  | ended ending =>
    have slot : task.slot? = some ending.reply? := by
      unfold Task.slot?
      rw [current]
      rfl
    have ends := grounded.ends member (show task.phase.attempt? = some ending by rw [current]; rfl)
    rcases ends.call_cases with ⟨called, call, made, _⟩ | ⟨uncallable, fault, rfl⟩
    · cases ending with
      | refused _ => exact nomatch made
      | returned call _ => exact .finished call called current
      | cancelled call fault =>
        obtain rfl := ends.fault_of_cancelled
        exact .cancelled call called current slot
    · exact .refused uncallable current slot
  | _ => rw [current] at done; exact Bool.noConfusion done

end

theorem account_started (run : Run) : run.account.filterMap Event.started? = run.calls := by
  unfold account calls
  rw [List.filterMap_flatMap, List.filterMap_eq_flatMap_toList]
  exact congrArg (List.flatMap · _) (funext fun task => filterMap_started?_account task.phase)

theorem account_finished (run : Run) :
    (run.account.filterMap Event.finished?).length = run.finished := by
  unfold account finished
  induction run.tasks with
  | nil => rfl
  | cons task rest inductionHypothesis =>
    rw [List.flatMap_cons, List.filterMap_append, List.length_append, inductionHypothesis,
      length_finished_account, List.countP_cons, Nat.add_comm]

/-- The books of a run balance. -/
theorem account_balance {run : Run} (live : ∀ task ∈ run.tasks, IsLive task) :
    (run.account.filterMap Event.started?).length =
      (run.account.filterMap Event.finished?).length +
        (run.account.filterMap Event.cancelled?).length + run.inFlight := by
  unfold account inFlight
  generalize run.tasks = tasks at live ⊢
  induction tasks with
  | nil => rfl
  | cons task rest inductionHypothesis =>
    have own := length_started_account (live task List.mem_cons_self)
    have others := inductionHypothesis fun other member => live other (List.mem_cons_of_mem _ member)
    simp only [List.flatMap_cons, List.filterMap_append, List.length_append, List.countP_cons]
    omega

theorem inFlight_eq_zero_of_isOver {run : Run} (allOver : run.isOver = true) :
    run.inFlight = 0 := by
  refine List.countP_eq_zero.mpr fun task member calling => ?_
  have done := List.all_eq_true.mp allOver task member
  cases current : task.phase <;> rw [current] at calling done <;> contradiction

/-- Every call is accounted for. In every state of every run, under every schedule and whatever the
known providers answer from moment to moment, a task has had at most one attempt, with at most one
call, which puts the prompt of its turn to the model and is made only by a callable model; and the
calls started are those that ran to their end, those that were cut off and those under way. When all
is over, no call is under way, and every model of a batch has been attempted once, with a call if it
is callable, unless its cascade has stopped before; a call is cut off for its time alone and leaves
the slot empty. And every run comes to its end if the gate has a permit. -/
theorem calls_accounted (providers : Providers) (gate : Gate) (now : Nat) (batches : List Batch)
    (moves : List Move) (within : ∀ move ∈ moves, move.Within (·.names = providers.names)) :
    let first := start providers gate now batches
    let run := first.play moves
    let history := first.history moves
    let started := history.filterMap (·.2.started?)
    let finished := history.filterMap (·.2.finished?)
    let cancelled := history.filterMap (·.2.cancelled?)
    (∀ position task, run.tasks[position]? = some task →
      let callable := task.model.isCallable providers gate.isOpen
      Course (eventsAt position history) ∧
        (∀ call, .started call ∈ eventsAt position history → callable = true ∧
          call.provider = task.model.provider ∧
          call.request = task.model.request (promptAfter task (run.before task))) ∧
        (run.isOver = true → run.Closed callable task (eventsAt position history))) ∧
      (∀ number batch, batches[number]? = some batch →
        ((run.tasksOf number).map (·.model)).Perm batch.models) ∧
      started.Perm run.calls ∧ finished.length = run.finished ∧
      started.length = finished.length + cancelled.length + run.inFlight ∧
      (run.isOver = true →
        run.inFlight = 0 ∧ started.length = finished.length + cancelled.length) ∧
      (gate.IsWhole → 0 < gate.capacity → run.complete.isOver = true) := by
  intro first run history started finished cancelled
  have known : (fun table : Providers => table.names = providers.names) providers := rfl
  have grounded : run.Grounded (·.names = providers.names) :=
    (grounded_start known gate now batches).play moves within
  have fixed := play_gate_fixed first moves
  have perm : (history.map (·.2)).Perm run.account :=
    history_perm providers gate now batches moves
  have kinds (kind : Event → Option Call) :
      (history.filterMap fun noted => kind noted.2).Perm (run.account.filterMap kind) := by
    have same := perm.filterMap kind
    rwa [List.filterMap_map] at same
  have total : started.length = finished.length + cancelled.length + run.inFlight := by
    rw [(kinds _).length_eq, (kinds _).length_eq, (kinds _).length_eq]
    exact account_balance (play_isLive providers gate now batches moves)
  refine ⟨fun position task found => ?_, fun number batch listed => ?_, ?_, ?_, total,
    fun allOver => ?_, fun whole positive => ?_⟩
  · have listed := List.mem_of_getElem? found
    rw [eventsAt_history providers gate now batches moves found]
    refine ⟨task.phase.course_account, fun call member => ?_, fun allOver => ?_⟩
    · have asked := grounded.asked listed member
      rwa [fixed.2] at asked
    · have closed := grounded.closed listed allOver
      rwa [fixed.2] at closed
  · rw [tasksOf_model (play_tasksOf providers gate now batches moves listed)]
    exact batch.lineup_perm
  · exact run.account_started ▸ kinds _
  · rw [(kinds _).length_eq]
    exact run.account_finished
  · have idle := inFlight_eq_zero_of_isOver allOver
    exact ⟨idle, by omega⟩
  · have balanced : run.Balanced := (balanced_start providers whole now batches).play moves
    refine balanced.complete_isOver ?_
    rw [fixed.1]
    exact positive

/-- The case of a call that runs to its end, one that is cut off, a model that has no provider, and
of a provider that begins to answer in another way. -/
theorem calls_accounted_beside_timeout :
    let ask (provider : String) : Model := { provider, name := "m", kind := .fast }
    let echo (delay : Nat) : Provider :=
      ⟨"echo", fun request => ⟨delay, .ok ⟨request.prompt, "echo", "m"⟩⟩⟩
    let late : Provider := ⟨"late", fun _ => ⟨40000, .ok ⟨"", "late", "m"⟩⟩⟩
    let first := start (.ofList [echo 7, late]) (.withPermits 1) 0
      [⟨.parallel, [ask "echo", ask "late", ask "nobody"], "task"⟩]
    let moves := [.step 0, .step 1, .step 2, .answer (.ofList [echo 0, late]), .wait 7, .step 0,
      .step 1, .wait 30000, .step 1, .step 2]
    let history := first.history moves
    (history.filterMap (·.2.started?)).length = 2 ∧
      (history.filterMap (·.2.started?)).length =
        (history.filterMap (·.2.finished?)).length +
          (history.filterMap (·.2.cancelled?)).length := by
  intro ask echo late first moves history
  have within : ∀ move ∈ moves, move.Within (·.names = (Providers.ofList [echo 7, late]).names) := by
    intro move member
    cases move with
    | answer providers =>
      obtain rfl : providers = .ofList [echo 0, late] := by simpa [moves] using member
      show (Providers.ofList [echo 0, late]).names = (Providers.ofList [echo 7, late]).names
      decide +kernel
    | _ => trivial
  obtain ⟨_, _, _, _, _, balanced, _⟩ := calls_accounted (.ofList [echo 7, late]) (.withPermits 1) 0
    [⟨.parallel, [ask "echo", ask "late", ask "nobody"], "task"⟩] moves within
  exact ⟨by decide +kernel, (balanced (by decide +kernel)).2⟩

end Run

end Triage
