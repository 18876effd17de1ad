/-
This file proves that no permit of the gate is lost and none is given out twice, whatever the order
in which tasks are taken further, calls end and providers answer.

The gate itself only counts tickets. What has to be kept is therefore a relation between the gate,
the number of calls under way and the tickets of the tasks that wait: every ticket that was issued
has been given back, belongs to a call, or is in the hands of exactly one waiting task, and no
ticket that is not admitted yet has gone anywhere else. From this relation it can be read off how
many permits are free and how many are held.
-/

import Triage.Proofs.Ensemble.Transition

namespace Triage

/-- The gate has all its permits. -/
def Gate.IsWhole (gate : Gate) : Prop :=
  gate.issued = gate.returned

theorem Gate.isWhole_withPermits (capacity : Nat) : (Gate.withPermits capacity).IsWhole := rfl

theorem Gate.isWhole_closed : Gate.closed.IsWhole := rfl

/-! ### The books of a gate -/

/-- The tickets that were issued, against the calls under way and the tickets of those that wait. -/
structure Gate.Accounts (gate : Gate) (calls : Nat) (tickets : List Nat) : Prop where
  account : gate.returned + calls + tickets.length = gate.issued
  distinct : tickets.Nodup
  issued : ∀ ticket ∈ tickets, ticket < gate.issued
  queued : ∀ ticket, gate.admits ticket = false → ticket < gate.issued → ticket ∈ tickets

theorem Gate.admits_iff (gate : Gate) (ticket : Nat) :
    gate.admits ticket = true ↔ ticket < gate.capacity + gate.returned := by
  rw [admits, decide_eq_true_eq]

theorem Gate.admits_eq_false_iff (gate : Gate) (ticket : Nat) :
    gate.admits ticket = false ↔ gate.capacity + gate.returned ≤ ticket := by
  rw [admits, decide_eq_false_iff_not, Nat.not_lt]

theorem Gate.admits_of_le {gate : Gate} {early late : Nat} (order : early ≤ late)
    (admitted : gate.admits late = true) : gate.admits early = true := by
  rw [admits_iff] at admitted ⊢
  exact Nat.lt_of_le_of_lt order admitted

theorem Gate.admits_giveBack {gate : Gate} {ticket : Nat} (admitted : gate.admits ticket = true) :
    gate.giveBack.admits ticket = true := by
  rw [admits_iff] at admitted ⊢
  exact Nat.lt_succ_of_lt admitted

namespace Gate.Accounts

variable {gate : Gate} {calls : Nat} {tickets : List Nat}

/-- The order of the tickets does not matter. -/
theorem perm {others : List Nat} (books : gate.Accounts calls tickets)
    (same : tickets.Perm others) : gate.Accounts calls others where
  account := by rw [← same.length_eq]; exact books.account
  distinct := same.nodup_iff.mp books.distinct
  issued := fun ticket member => books.issued ticket (same.mem_iff.mpr member)
  queued := fun ticket full early => same.mem_iff.mp (books.queued ticket full early)

theorem idle (whole : gate.IsWhole) : gate.Accounts 0 [] where
  account := Eq.symm whole
  distinct := List.nodup_nil
  issued := fun _ member => absurd member List.not_mem_nil
  queued := fun ticket full early => by
    rw [admits_eq_false_iff] at full
    have whole : gate.issued = gate.returned := whole
    omega

/-- A ticket that is admitted at once becomes a call. -/
theorem issue_admitted (books : gate.Accounts calls tickets)
    (admitted : gate.admits gate.issued = true) : gate.issue.Accounts (calls + 1) tickets where
  account := by
    have account := books.account
    show gate.returned + (calls + 1) + tickets.length = gate.issued + 1
    omega
  distinct := books.distinct
  issued := fun ticket member => Nat.lt_succ_of_lt (books.issued ticket member)
  queued := fun ticket full early => by
    have early : ticket < gate.issued + 1 := early
    rw [admits_issue, admits_eq_false_iff] at full
    rw [admits_iff] at admitted
    omega

/-- A ticket that is not admitted at once is kept by the task that took it. -/
theorem issue_full (books : gate.Accounts calls tickets) :
    gate.issue.Accounts calls (gate.issued :: tickets) where
  account := by
    have account := books.account
    show gate.returned + calls + (tickets.length + 1) = gate.issued + 1
    omega
  distinct := List.nodup_cons.mpr
    ⟨fun member => Nat.lt_irrefl _ (books.issued _ member), books.distinct⟩
  issued := fun ticket member => by
    rcases List.mem_cons.mp member with rfl | member
    · exact Nat.lt_succ_self _
    · exact Nat.lt_succ_of_lt (books.issued ticket member)
  queued := fun ticket full early => by
    rcases Nat.lt_succ_iff_lt_or_eq.mp early with early | rfl
    · exact List.mem_cons_of_mem _ (books.queued ticket full early)
    · exact List.mem_cons_self

/-- A ticket that was waited with becomes a call once it is admitted. -/
theorem serve {ticket : Nat} (books : gate.Accounts calls (ticket :: tickets))
    (admitted : gate.admits ticket = true) : gate.Accounts (calls + 1) tickets where
  account := by
    have account := books.account
    rw [List.length_cons] at account
    omega
  distinct := (List.nodup_cons.mp books.distinct).2
  issued := fun other member => books.issued other (List.mem_cons_of_mem _ member)
  queued := fun other full early => by
    rcases List.mem_cons.mp (books.queued other full early) with rfl | member
    · rw [admitted] at full
      exact absurd full Bool.noConfusion
    · exact member

/-- A call that ends gives its permit back. -/
theorem giveBack (books : gate.Accounts (calls + 1) tickets) :
    gate.giveBack.Accounts calls tickets where
  account := by
    have account := books.account
    show gate.returned + 1 + calls + tickets.length = gate.issued
    omega
  distinct := books.distinct
  issued := books.issued
  queued := fun ticket full early => by
    refine books.queued ticket ?_ early
    rw [admits_eq_false_iff] at full ⊢
    have full : gate.capacity + (gate.returned + 1) ≤ ticket := full
    omega

/-- The tickets that are not admitted yet are exactly the latest ones. -/
theorem length_filter_not_admits (books : gate.Accounts calls tickets) :
    (tickets.filter fun ticket => !gate.admits ticket).length =
      gate.issued - (gate.capacity + gate.returned) := by
  have latest : (tickets.filter fun ticket => !gate.admits ticket).Perm
      (List.range' (gate.capacity + gate.returned)
        (gate.issued - (gate.capacity + gate.returned))) := by
    rw [List.perm_ext_iff_of_nodup (books.distinct.filter _) (List.nodup_range' 1)]
    intro ticket
    rw [List.mem_filter, Bool.not_eq_true', admits_eq_false_iff, List.mem_range'_1]
    constructor
    · rintro ⟨member, full⟩
      have early := books.issued ticket member
      omega
    · rintro ⟨full, early⟩
      exact ⟨books.queued ticket ((admits_eq_false_iff gate ticket).mpr full) (by omega), full⟩
  rw [latest.length_eq, List.length_range']

/-- Every permit is free, or a call has it, or it is waiting for a task whose ticket is admitted. -/
theorem free_add_calls (books : gate.Accounts calls tickets) :
    gate.free + (calls + tickets.countP gate.admits) = gate.capacity := by
  have account := books.account
  have latest := books.length_filter_not_admits
  have split := List.length_eq_countP_add_countP gate.admits (l := tickets)
  rw [← List.countP_eq_length_filter] at latest
  simp only [Bool.not_eq_true, Bool.decide_eq_false] at split
  unfold free
  omega

theorem calls_le (books : gate.Accounts calls tickets) : calls ≤ gate.capacity := by
  have total := books.free_add_calls
  omega

/-- While a permit is free, every ticket is admitted. -/
theorem admits_of_free (books : gate.Accounts calls tickets) (positive : 0 < gate.free)
    {ticket : Nat} (member : ticket ∈ tickets) : gate.admits ticket = true := by
  have early := books.issued ticket member
  unfold free at positive
  rw [admits_iff]
  omega

end Gate.Accounts

/-! ### The books of a run -/

/-- The ticket that a task waits with. -/
def Phase.ticket? : Phase → Option Nat
  | waiting _ ticket => some ticket
  | _ => none

namespace Run

/-- The tickets of the tasks that wait. -/
def tickets (run : Run) : List Nat :=
  run.tasks.filterMap (·.phase.ticket?)

/-- Does a task hold a permit? A call under way does, and so does a task whose ticket has been
admitted while it waited. -/
def holdsPermit (run : Run) (task : Task) : Bool :=
  match task.phase with
  | .calling _ _ => true
  | .waiting _ ticket => run.gate.admits ticket
  | _ => false

/-- Does a task wait at the gate, with a ticket that has not been admitted? -/
def isQueued (run : Run) (task : Task) : Bool :=
  match task.phase with
  | .waiting _ ticket => !run.gate.admits ticket
  | _ => false

/-- The number of tasks that hold a permit. -/
def holders (run : Run) : Nat :=
  run.tasks.countP run.holdsPermit

/-- The books of the gate are in order, and the peak has never been above its permits. -/
structure Balanced (run : Run) : Prop where
  books : run.gate.Accounts run.inFlight run.tickets
  peak : run.peak ≤ run.gate.capacity

/-- Whoever passes the gate gets a permit for a call. -/
theorem Passes.accounts {run : Run} {task : Task} {prompt : String} {gate : Gate}
    (passes : run.Passes task prompt gate) {others : List Task}
    (books : run.gate.Accounts ((task :: others).countP (·.phase.isCalling))
      ((task :: others).filterMap (·.phase.ticket?))) :
    gate.Accounts (others.countP (·.phase.isCalling) + 1)
      (others.filterMap (·.phase.ticket?)) := by
  cases passes with
  | atOnce held _ _ admitted =>
    simp only [List.countP_cons, List.filterMap_cons, held, Phase.isCalling, Phase.ticket?,
      Bool.false_eq_true, if_false, Nat.add_zero] at books
    exact books.issue_admitted admitted
  | withTicket waiting admitted =>
    simp only [List.countP_cons, List.filterMap_cons, waiting, Phase.isCalling, Phase.ticket?,
      Bool.false_eq_true, if_false, Nat.add_zero] at books
    exact books.serve admitted

/-- A transition keeps the books in order. -/
theorem Transition.accounts {run : Run} {task : Task} {phase : Phase} {gate : Gate} {peak : Nat}
    (transition : run.Transition task phase gate peak) {others : List Task}
    (books : run.gate.Accounts ((task :: others).countP (·.phase.isCalling))
      ((task :: others).filterMap (·.phase.ticket?))) :
    gate.Accounts (({ task with phase } :: others).countP (·.phase.isCalling))
      (({ task with phase } :: others).filterMap (·.phase.ticket?)) := by
  cases transition with
  | skip held _ =>
    simpa only [List.countP_cons, List.filterMap_cons, held, Phase.isCalling, Phase.ticket?]
      using books
  | refuse held _ _ =>
    simpa only [List.countP_cons, List.filterMap_cons, held, Phase.isCalling, Phase.ticket?]
      using books
  | queue held _ _ _ =>
    simp only [List.countP_cons, List.filterMap_cons, held, Phase.isCalling, Phase.ticket?]
      at books
    exact books.issue_full
  | call passes _ _ =>
    simpa only [List.countP_cons, List.filterMap_cons, Phase.isCalling, Phase.ticket?, if_true]
      using passes.accounts books
  | settle passes _ =>
    simpa only [List.countP_cons, List.filterMap_cons, Phase.isCalling, Phase.ticket?,
      Bool.false_eq_true, if_false, Nat.add_zero] using (passes.accounts books).giveBack
  | conclude calling _ =>
    simp only [List.countP_cons, List.filterMap_cons, calling, Phase.isCalling, Phase.ticket?,
      if_true] at books
    simpa only [List.countP_cons, List.filterMap_cons, Phase.isCalling, Phase.ticket?,
      Bool.false_eq_true, if_false, Nat.add_zero] using books.giveBack

/-- Whoever is given a permit makes one call more than before, and still not too many. -/
theorem Passes.peakAfter_le {run : Run} {task : Task} {prompt : String} {gate : Gate}
    (passes : run.Passes task prompt gate) {others : List Task}
    (same : run.tasks.Perm (task :: others)) (balanced : run.Balanced) (ending : Ending) :
    run.peakAfter ending ≤ gate.capacity := by
  have books := balanced.books
  unfold inFlight tickets at books
  rw [same.countP_eq] at books
  have served := (passes.accounts (books.perm (same.filterMap _))).calls_le
  have calls : run.inFlight = others.countP (·.phase.isCalling) := by
    unfold inFlight
    rw [same.countP_eq, List.countP_cons]
    cases passes with
    | atOnce held _ _ _ => simp only [held, Phase.isCalling, Bool.false_eq_true, if_false,
        Nat.add_zero]
    | withTicket waiting _ => simp only [waiting, Phase.isCalling, Bool.false_eq_true, if_false,
        Nat.add_zero]
  have before : run.peak ≤ gate.capacity := passes.gate_fixed.1 ▸ balanced.peak
  unfold peakAfter
  split
  · omega
  · exact before

theorem Balanced.become {run : Run} (balanced : run.Balanced) {position : Nat} {task : Task}
    {phase : Phase} {gate : Gate} {peak : Nat} (found : run.tasks[position]? = some task)
    (transition : run.Transition task phase gate peak) :
    (run.become position task phase gate peak).Balanced := by
  obtain ⟨others, same, changed⟩ := run.become_perm phase gate peak found
  have books := balanced.books
  unfold inFlight tickets at books
  rw [same.countP_eq] at books
  refine ⟨?_, ?_⟩
  · unfold inFlight tickets
    rw [changed.countP_eq]
    exact (transition.accounts (books.perm (same.filterMap _))).perm (changed.filterMap _).symm
  · show peak ≤ gate.capacity
    cases transition with
    | call passes _ _ => exact passes.peakAfter_le same balanced _
    | settle passes _ => exact passes.peakAfter_le same balanced _
    | _ => exact balanced.peak

theorem balanced_start (providers : Providers) {gate : Gate} (whole : gate.IsWhole) (now : Nat)
    (batches : List Batch) : (start providers gate now batches).Balanced := by
  have calls : (start providers gate now batches).inFlight = 0 :=
    List.countP_eq_zero.mpr fun task member => by
      rw [start_phase member]
      exact Bool.false_ne_true
  have tickets : (start providers gate now batches).tickets = [] :=
    List.filterMap_eq_nil_iff.mpr fun task member => by
      rw [start_phase member]
      rfl
  refine ⟨?_, Nat.zero_le _⟩
  rw [calls, tickets]
  exact Gate.Accounts.idle whole

theorem Balanced.play {run : Run} (balanced : run.Balanced) (moves : List Move) :
    (run.play moves).Balanced :=
  play_always (fun _ _ _ _ _ _ holds found transition => holds.become found transition)
    (fun _ _ holds => ⟨holds.books, holds.peak⟩) (fun _ _ holds => ⟨holds.books, holds.peak⟩)
    moves run balanced

/-! ### What the books say -/

theorem holders_eq (run : Run) :
    run.holders = run.inFlight + run.tickets.countP run.gate.admits := by
  unfold holders inFlight tickets
  induction run.tasks with
  | nil => rfl
  | cons task rest inductionHypothesis =>
    rw [List.countP_cons, List.countP_cons, List.filterMap_cons, inductionHypothesis]
    cases current : task.phase with
    | waiting prompt ticket =>
      simp only [holdsPermit, current, Phase.isCalling, Phase.ticket?, List.countP_cons,
        Bool.false_eq_true, if_false]
      omega
    | calling ending time =>
      simp only [holdsPermit, current, Phase.isCalling, Phase.ticket?, if_true]
      omega
    | _ =>
      simp only [holdsPermit, current, Phase.isCalling, Phase.ticket?, Bool.false_eq_true,
        if_false, Nat.add_zero]

theorem Balanced.free_add_holders {run : Run} (balanced : run.Balanced) :
    run.gate.free + run.holders = run.gate.capacity := by
  rw [holders_eq]
  exact balanced.books.free_add_calls

theorem Balanced.not_isQueued_of_free {run : Run} (balanced : run.Balanced)
    (positive : 0 < run.gate.free) {task : Task} (member : task ∈ run.tasks) :
    run.isQueued task = false := by
  unfold isQueued
  split
  · rename_i prompt ticket waiting
    have kept : ticket ∈ run.tickets := List.mem_filterMap.mpr ⟨task, member, by rw [waiting]; rfl⟩
    rw [balanced.books.admits_of_free positive kept]
    rfl
  · rfl

/-- Whoever is over holds no permit. -/
theorem holders_eq_zero_of_isOver {run : Run} (allOver : run.isOver = true) : run.holders = 0 := by
  refine List.countP_eq_zero.mpr fun task member holds => ?_
  have done := List.all_eq_true.mp allOver task member
  unfold holdsPermit at holds
  cases current : task.phase <;> rw [current] at holds done <;> contradiction

/-- Permits are conserved. In every state of every run on a gate, under every schedule and whatever
the providers answer, each permit is either free or held by exactly one task; so no more calls are
under way than there are permits, nor have ever been, and nobody waits while a permit is free. When
all batches have returned, all permits are free again. -/
theorem permits_conserved (providers : Providers) (capacity now : Nat) (batches : List Batch)
    (moves : List Move) :
    let run := (start providers (.withPermits capacity) now batches).play moves
    run.gate.free + run.holders = capacity ∧
      run.inFlight ≤ capacity ∧ run.peak ≤ capacity ∧
      (0 < run.gate.free → ∀ task ∈ run.tasks, run.isQueued task = false) ∧
      (run.isOver = true → run.gate.free = capacity) := by
  intro run
  have balanced : run.Balanced :=
    (balanced_start providers (Gate.isWhole_withPermits capacity) now batches).play moves
  have total : run.gate.free + run.holders = capacity :=
    balanced.free_add_holders.trans (play_gate_fixed _ moves).1
  have fixed : run.gate.capacity = capacity := (play_gate_fixed _ moves).1
  refine ⟨total, ?_, ?_, fun positive task member => balanced.not_isQueued_of_free positive member,
    fun allOver => ?_⟩
  · exact fixed ▸ balanced.books.calls_le
  · exact fixed ▸ balanced.peak
  · rw [holders_eq_zero_of_isOver allOver] at total
    exact total

end Run

end Triage
