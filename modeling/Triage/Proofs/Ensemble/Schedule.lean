/-
This file says in which ways a run can go on. Any task may be taken further at any moment, any time
may pass, and the providers may begin to answer in another way, so that an answer need not depend on
the request alone. A schedule is a list of such moves, and the states that it can lead to are all
states that can be reached.

A schedule is steady when the providers answer in the same way throughout. The passes and the moves
of the clock by which a run is completed are one steady schedule among many.
-/

import Triage.Ensemble.Run

namespace Triage

/-- One thing that can happen in a run. -/
inductive Move where
  /-- The task at a position is taken as far as it can go. -/
  | step (position : Nat)
  /-- Some time passes. -/
  | wait (milliseconds : Nat)
  /-- From now on requests are answered by these providers. -/
  | answer (providers : Providers)

/-- Do the providers, if the move brings in others, belong to the given ones? -/
def Move.Within (tables : Providers → Prop) : Move → Prop
  | answer providers => tables providers
  | _ => True

/-- Does the move leave the providers as they are? -/
def Move.isSteady : Move → Bool
  | answer _ => false
  | _ => true

theorem Move.within_any (move : Move) : move.Within fun _ => True := by
  cases move <;> trivial

theorem Move.within_of_isSteady {tables : Providers → Prop} {move : Move}
    (steady : move.isSteady = true) : move.Within tables := by
  cases move with
  | answer providers => exact Bool.noConfusion steady
  | _ => trivial

namespace Run

/-- The run after a move. -/
def act (run : Run) : Move → Run
  | .step position => run.step position
  | .wait milliseconds => { run with now := run.now + milliseconds }
  | .answer providers => { run with providers }

/-- The run after the moves of a schedule. -/
def play (run : Run) (moves : List Move) : Run :=
  moves.foldl act run

theorem play_cons (run : Run) (move : Move) (moves : List Move) :
    run.play (move :: moves) = (run.act move).play moves := rfl

theorem play_append (run : Run) (first second : List Move) :
    run.play (first ++ second) = (run.play first).play second :=
  List.foldl_append

/-- What every allowed move keeps, every schedule of allowed moves keeps. -/
theorem play_keeps {motive : Run → Prop} (allowed : Move → Prop)
    (kept : ∀ run move, allowed move → motive run → motive (run.act move)) (moves : List Move)
    (every : ∀ move ∈ moves, allowed move) (run : Run) (base : motive run) :
    motive (run.play moves) := by
  induction moves generalizing run with
  | nil => exact base
  | cons move rest inductionHypothesis =>
    rw [play_cons]
    exact inductionHypothesis (fun other member => every other (List.mem_cons_of_mem _ member)) _
      (kept run move (every move List.mem_cons_self) base)

/-! ### Steady schedules -/

/-- A run is reached from another one by a steady schedule. -/
def Leads (first last : Run) : Prop :=
  ∃ moves : List Move, (∀ move ∈ moves, move.isSteady) ∧ first.play moves = last

/-- A run comes to its end in another one, under some steady schedule. -/
def Finishes (first last : Run) : Prop :=
  first.Leads last ∧ last.isOver = true

theorem leads_refl (run : Run) : run.Leads run :=
  ⟨[], fun _ member => absurd member List.not_mem_nil, rfl⟩

theorem Leads.trans {first second third : Run} (early : first.Leads second)
    (late : second.Leads third) : first.Leads third := by
  obtain ⟨moves, steady, rfl⟩ := early
  obtain ⟨others, othersSteady, rfl⟩ := late
  refine ⟨moves ++ others, fun move member => ?_, play_append first moves others⟩
  rcases List.mem_append.mp member with member | member
  · exact steady move member
  · exact othersSteady move member

theorem leads_act (run : Run) (move : Move) (steady : move.isSteady) :
    run.Leads (run.act move) :=
  ⟨[move], fun other member => by rwa [List.mem_singleton.mp member], rfl⟩

theorem leads_foldl_step (run : Run) (positions : List Nat) :
    run.Leads (positions.foldl step run) := by
  induction positions generalizing run with
  | nil => exact leads_refl run
  | cons position rest inductionHypothesis =>
    exact (leads_act run (.step position) rfl).trans (inductionHypothesis (run.step position))

theorem leads_advance (run : Run) : run.Leads run.advance := by
  unfold advance
  split
  · rename_i time _
    have waited := leads_act run (.wait (time - run.now)) rfl
    rwa [act, show run.now + (time - run.now) = max run.now time by omega] at waited
  · exact leads_refl run

theorem leads_round (run : Run) : run.Leads run.round := by
  unfold round pass
  split
  · exact (leads_advance run).trans (leads_foldl_step _ _)
  · exact leads_foldl_step _ _

theorem leads_rounds (count : Nat) (run : Run) : run.Leads (rounds count run) := by
  induction count generalizing run with
  | zero => exact leads_refl run
  | succ count inductionHypothesis =>
    rw [rounds]
    split
    · exact leads_refl run
    · exact (leads_round run).trans (inductionHypothesis run.round)

/-- The way in which a run is completed is one of its steady schedules. -/
theorem leads_complete (run : Run) : run.Leads run.complete :=
  leads_rounds _ run

end Run

end Triage
