/-
This file proves in which order the hierarchical strategy asks its models, and that it brings what
the sequential strategy brings for the models in this order. The order is a stable sort: the models
with a tag stand first, by the place at which their tag is first seen, and the models without a tag
stand last.

The strategy collects groups instead of sorting. While it goes through the models, the tags of the
groups stay in the order in which they were first seen, and each group holds the models of its tag
in their order. Two lists that are sorted by such places and hold the models of every tag in the
same order are equal, so the groups, put one behind the other, are the stable sort.
-/

import Mathlib.Data.List.Induction
import Triage.Proofs.Ensemble.Agreement
import Triage.Proofs.Ensemble.Cascade

namespace Triage

/-- The place at which what a model is specialized for is first seen among models. Those that are
not specialized have their place behind all others. -/
def seat (models : List Model) : Option String → Nat
  | some tag => models.findIdx (·.specialization == some tag)
  | none => models.length

/-- The models by the places of what they are specialized for, otherwise in their order. -/
def arranged (models : List Model) : List Model :=
  models.mergeSort fun first second =>
    decide (seat models first.specialization ≤ seat models second.specialization)

/-! ### Sorting by place -/

section

variable {Item Key : Type} {key : Item → Key} {place : Key → Nat}

theorem place_trans (one two three : Item) (early : decide (place (key one) ≤ place (key two)) = true)
    (late : decide (place (key two) ≤ place (key three)) = true) :
    decide (place (key one) ≤ place (key three)) = true :=
  decide_eq_true (Nat.le_trans (of_decide_eq_true early) (of_decide_eq_true late))

theorem place_total (one two : Item) : (decide (place (key one) ≤ place (key two)) ||
    decide (place (key two) ≤ place (key one))) = true := by
  rw [Bool.or_eq_true, decide_eq_true_eq, decide_eq_true_eq]
  exact Nat.le_total _ _

theorem pairwise_mergeSort (items : List Item) :
    (items.mergeSort fun one two => decide (place (key one) ≤ place (key two))).Pairwise
      fun one two => place (key one) ≤ place (key two) :=
  (List.pairwise_mergeSort place_trans place_total items).imp of_decide_eq_true

variable [BEq Key] [LawfulBEq Key]

theorem mem_of_same_filters {first second : List Item}
    (same : ∀ wanted, first.filter (key · == wanted) = second.filter (key · == wanted))
    {item : Item} (member : item ∈ first) : item ∈ second := by
  have kept : item ∈ first.filter (key · == key item) :=
    List.mem_filter.mpr ⟨member, beq_self_eq_true _⟩
  rw [same] at kept
  exact (List.mem_filter.mp kept).1

/-- Lists are equal that are sorted by the places of some keys and hold the items of every key in
the same order, provided that different keys have different places. -/
theorem eq_of_same_filters {first second : List Item}
    (distinct : ∀ one ∈ first, ∀ two ∈ second, place (key one) = place (key two) → key one = key two)
    (firstSorted : first.Pairwise fun one two => place (key one) ≤ place (key two))
    (secondSorted : second.Pairwise fun one two => place (key one) ≤ place (key two))
    (same : ∀ wanted, first.filter (key · == wanted) = second.filter (key · == wanted)) :
    first = second := by
  induction first generalizing second with
  | nil =>
    refine (List.eq_nil_iff_forall_not_mem.mpr fun item member => ?_).symm
    exact absurd (mem_of_same_filters (fun wanted => (same wanted).symm) member) List.not_mem_nil
  | cons head rest inductionHypothesis =>
    have headMember : head ∈ second := mem_of_same_filters same List.mem_cons_self
    cases second with
    | nil => exact absurd headMember List.not_mem_nil
    | cons other others =>
      have otherMember : other ∈ head :: rest :=
        mem_of_same_filters (fun wanted => (same wanted).symm) List.mem_cons_self
      rw [List.pairwise_cons] at firstSorted secondSorted
      have places : place (key head) = place (key other) := by
        apply Nat.le_antisymm
        · rcases List.mem_cons.mp otherMember with rfl | member
          · exact Nat.le_refl _
          · exact firstSorted.1 other member
        · rcases List.mem_cons.mp headMember with rfl | member
          · exact Nat.le_refl _
          · exact secondSorted.1 head member
      have keys := distinct head List.mem_cons_self other List.mem_cons_self places
      have heads := same (key head)
      simp only [List.filter_cons, keys, beq_self_eq_true, if_true, List.cons.injEq] at heads
      obtain ⟨rfl, _⟩ := heads
      congr 1
      refine inductionHypothesis (fun one oneMember two twoMember => distinct one
        (List.mem_cons_of_mem _ oneMember) two (List.mem_cons_of_mem _ twoMember))
        firstSorted.2 secondSorted.2 fun wanted => ?_
      have lists := same wanted
      rw [List.filter_cons, List.filter_cons] at lists
      split at lists
      · exact (List.cons.inj lists).2
      · exact lists

/-- A sort by places keeps the items of a key in their order. -/
theorem filter_mergeSort (items : List Item) (wanted : Key) :
    (items.mergeSort fun one two => decide (place (key one) ≤ place (key two))).filter
        (key · == wanted) = items.filter (key · == wanted) := by
  have alike : (items.filter (key · == wanted)).Pairwise fun one two =>
      decide (place (key one) ≤ place (key two)) = true := by
    refine List.pairwise_of_forall_mem_list fun one oneMember two twoMember => ?_
    rw [beq_iff_eq.mp (List.mem_filter.mp oneMember).2,
      beq_iff_eq.mp (List.mem_filter.mp twoMember).2]
    exact decide_eq_true (Nat.le_refl _)
  have inside := List.sublist_mergeSort place_trans place_total alike List.filter_sublist
  have kept := inside.filter (key · == wanted)
  rw [List.filter_filter, List.filter_congr fun _ _ => Bool.and_self _] at kept
  refine (kept.eq_of_length ?_).symm
  exact ((List.mergeSort_perm items _).filter _).length_eq.symm

end

theorem arranged_perm (models : List Model) : (arranged models).Perm models :=
  List.mergeSort_perm models _

theorem arranged_sorted (models : List Model) : (arranged models).Pairwise fun first second =>
    seat models first.specialization ≤ seat models second.specialization :=
  pairwise_mergeSort models

theorem filter_arranged (models : List Model) (wanted : Option String) :
    (arranged models).filter (·.specialization == wanted) =
      models.filter (·.specialization == wanted) :=
  filter_mergeSort models wanted

/-! ### Places of tags -/

theorem seat_lt_length_iff (models : List Model) (tag : String) :
    seat models (some tag) < models.length ↔ ∃ model ∈ models, model.specialization = some tag := by
  unfold seat
  rw [List.findIdx_lt_length]
  simp only [beq_iff_eq]

theorem seat_le_length (models : List Model) (specialization : Option String) :
    seat models specialization ≤ models.length := by
  cases specialization with
  | none => exact Nat.le_refl _
  | some tag => exact List.findIdx_le_length

theorem seat_append_of_lt {models : List Model} {tag : String}
    (seen : seat models (some tag) < models.length) (more : List Model) :
    seat (models ++ more) (some tag) = seat models (some tag) := by
  simp only [seat] at seen ⊢
  rw [List.findIdx_append, if_pos seen]

theorem seat_append_singleton {models : List Model} {model : Model} {tag : String}
    (own : model.specialization = some tag) (unseen : ¬ seat models (some tag) < models.length) :
    seat (models ++ [model]) (some tag) = models.length := by
  simp only [seat] at unseen ⊢
  have here : [model].findIdx (·.specialization == some tag) = 0 := by
    rw [List.findIdx_cons, own, beq_self_eq_true]
    rfl
  rw [List.findIdx_append, if_neg unseen, here, Nat.zero_add]

theorem specialization_getElem_seat {models : List Model} {tag : String}
    (seen : seat models (some tag) < models.length) :
    models[seat models (some tag)].specialization = some tag := by
  exact beq_iff_eq.mp (@List.findIdx_getElem Model (fun model => model.specialization == some tag)
    models seen)

/-- Models that are seated in the same place are specialized for the same. -/
theorem specialization_eq_of_seat_eq {models : List Model} {first second : Model}
    (firstMember : first ∈ models) (secondMember : second ∈ models)
    (same : seat models first.specialization = seat models second.specialization) :
    first.specialization = second.specialization := by
  have seated {model : Model} {tag : String} (member : model ∈ models)
      (own : model.specialization = some tag) : seat models (some tag) < models.length :=
    (seat_lt_length_iff models tag).mpr ⟨model, member, own⟩
  cases one : first.specialization with
  | none =>
    cases two : second.specialization with
    | none => rfl
    | some tag =>
      have early := seated secondMember two
      rw [one, two] at same
      exact absurd early (Nat.not_lt.mpr (Nat.le_of_eq same))
  | some tag =>
    have early := seated firstMember one
    cases two : second.specialization with
    | none =>
      rw [one, two] at same
      exact absurd early (Nat.not_lt.mpr (Nat.le_of_eq same.symm))
    | some other =>
      have late := seated secondMember two
      have found := specialization_getElem_seat early
      rw [one, two] at same
      simp only [same] at found
      exact found.symm.trans (specialization_getElem_seat late)

/-! ### Collecting groups -/

theorem addToGroup_of_mem {tag : String} {groups : List (String × List Model)} (model : Model)
    (distinct : (groups.map (·.1)).Nodup) (seen : tag ∈ groups.map (·.1)) :
    addToGroup tag model groups =
      groups.map fun entry => if entry.1 = tag then (entry.1, entry.2 ++ [model]) else entry := by
  induction groups with
  | nil => exact absurd seen List.not_mem_nil
  | cons entry rest inductionHypothesis =>
    obtain ⟨other, group⟩ := entry
    rw [List.map_cons, List.nodup_cons] at distinct
    rw [addToGroup, List.map_cons]
    by_cases same : other = tag
    · have untouched : rest.map (fun entry =>
          if entry.1 = tag then (entry.1, entry.2 ++ [model]) else entry) = rest := by
        refine (List.map_congr_left fun entry member => if_neg fun equal => ?_).trans
          (List.map_id rest)
        have again : entry.1 ∈ rest.map (·.1) := List.mem_map_of_mem member
        rw [equal, ← same] at again
        exact distinct.1 again
      rw [if_pos same, if_pos same, untouched]
    · rw [if_neg same, if_neg same]
      refine congrArg ((other, group) :: ·) (inductionHypothesis distinct.2 ?_)
      exact (List.mem_cons.mp seen).resolve_left (Ne.symm same)

theorem addToGroup_of_not_mem {tag : String} {groups : List (String × List Model)} (model : Model)
    (unseen : tag ∉ groups.map (·.1)) :
    addToGroup tag model groups = groups ++ [(tag, [model])] := by
  induction groups with
  | nil => rfl
  | cons entry rest inductionHypothesis =>
    rw [List.map_cons, List.mem_cons, not_or] at unseen
    rw [addToGroup, if_neg (Ne.symm unseen.1), inductionHypothesis unseen.2]
    rfl

/-- What holds of the groups when some models have been gone through: there is one for each tag seen
so far, in the order of the places, and it holds the models with the tag. -/
structure Grouped (models : List Model) (groups : List (String × List Model)) : Prop where
  seen : ∀ tag, tag ∈ groups.map (·.1) ↔ seat models (some tag) < models.length
  ordered : (groups.map (·.1)).Pairwise fun first second =>
    seat models (some first) < seat models (some second)
  members : ∀ entry ∈ groups, entry.2 = models.filter (·.specialization == some entry.1)

namespace Grouped

variable {models : List Model} {groups : List (String × List Model)} {model : Model} {tag : String}

theorem nodup (grouped : Grouped models groups) : (groups.map (·.1)).Nodup :=
  grouped.ordered.imp fun early equal => by
    rw [equal] at early
    exact Nat.lt_irrefl _ early

theorem seen_append (grouped : Grouped models groups) (other : String) :
    seat (models ++ [model]) (some other) < (models ++ [model]).length ↔
      other ∈ groups.map (·.1) ∨ model.specialization = some other := by
  rw [grouped.seen, seat_lt_length_iff, seat_lt_length_iff]
  simp only [List.mem_append, List.mem_singleton, or_and_right, exists_or, exists_eq_left]

/-- The places of the tags that have been seen do not change. -/
theorem ordered_append (grouped : Grouped models groups) :
    (groups.map (·.1)).Pairwise fun first second =>
      seat (models ++ [model]) (some first) < seat (models ++ [model]) (some second) := by
  refine grouped.ordered.imp_of_mem fun firstMember secondMember early => ?_
  rwa [seat_append_of_lt ((grouped.seen _).mp firstMember),
    seat_append_of_lt ((grouped.seen _).mp secondMember)]

/-- A model that is not specialized goes into no group. -/
theorem skip (grouped : Grouped models groups) (general : model.specialization = none) :
    Grouped (models ++ [model]) groups where
  seen := fun other => by
    rw [grouped.seen_append, general]
    simp
  ordered := grouped.ordered_append
  members := fun entry member => by
    rw [grouped.members entry member, List.filter_append, List.filter_cons_of_neg (by simp [general]),
      List.filter_nil, List.append_nil]

/-- A model with a tag that has been seen goes to the end of its group. -/
theorem join (grouped : Grouped models groups) (own : model.specialization = some tag)
    (seen : tag ∈ groups.map (·.1)) :
    Grouped (models ++ [model]) (addToGroup tag model groups) := by
  have tags : (addToGroup tag model groups).map (·.1) = groups.map (·.1) := by
    rw [addToGroup_of_mem model grouped.nodup seen, List.map_map]
    refine List.map_congr_left fun entry _ => ?_
    rw [Function.comp_apply]
    split <;> rfl
  refine ⟨fun other => ?_, ?_, fun entry member => ?_⟩
  · rw [tags, grouped.seen_append, own]
    refine ⟨Or.inl, fun either => either.elim id fun equal => ?_⟩
    rw [← Option.some.inj equal]
    exact seen
  · rw [tags]
    exact grouped.ordered_append
  · rw [addToGroup_of_mem model grouped.nodup seen] at member
    obtain ⟨old, oldMember, rfl⟩ := List.mem_map.mp member
    have before := grouped.members old oldMember
    rw [List.filter_append]
    split
    · rename_i same
      rw [before, List.filter_cons_of_pos (by simp [own, same]), List.filter_nil]
    · rename_i different
      rw [before, List.filter_cons_of_neg (by simpa [own] using Ne.symm different),
        List.filter_nil, List.append_nil]

/-- A model with a new tag opens a group behind all others. -/
theorem openNew (grouped : Grouped models groups) (own : model.specialization = some tag)
    (unseen : tag ∉ groups.map (·.1)) :
    Grouped (models ++ [model]) (addToGroup tag model groups) := by
  rw [addToGroup_of_not_mem model unseen]
  have late : ¬ seat models (some tag) < models.length := fun early =>
    unseen ((grouped.seen tag).mpr early)
  refine ⟨fun other => ?_, ?_, fun entry member => ?_⟩
  · rw [grouped.seen_append, own, List.map_append, List.mem_append, Option.some.injEq]
    exact or_congr_right (List.mem_singleton.trans eq_comm)
  · rw [List.map_append]
    refine List.pairwise_append.mpr ⟨grouped.ordered_append, List.pairwise_singleton _ _,
      fun first firstMember second secondMember => ?_⟩
    rw [List.mem_singleton.mp secondMember, seat_append_singleton own late,
      seat_append_of_lt ((grouped.seen first).mp firstMember)]
    exact (grouped.seen first).mp firstMember
  · rw [List.filter_append]
    rcases List.mem_append.mp member with inside | added
    · have different : ¬ tag = entry.1 := fun equal => by
        rw [equal] at unseen
        exact unseen (List.mem_map_of_mem inside)
      rw [grouped.members entry inside, List.filter_cons_of_neg (by simpa [own] using different),
        List.filter_nil, List.append_nil]
    · have nobody : models.filter (·.specialization == some tag) = [] :=
        List.filter_eq_nil_iff.mpr fun other otherMember equal => late
          ((seat_lt_length_iff models tag).mpr ⟨other, otherMember, beq_iff_eq.mp equal⟩)
      rw [List.mem_singleton.mp added, nobody, List.filter_cons_of_pos (by simp [own]),
        List.filter_nil, List.nil_append]

end Grouped

theorem grouped_specializedGroups (models : List Model) :
    Grouped models (specializedGroups models) := by
  induction models using List.reverseRecOn with
  | nil =>
    exact ⟨fun tag => by simp [specializedGroups], List.Pairwise.nil,
      fun _ member => absurd member List.not_mem_nil⟩
  | append_singleton models model inductionHypothesis =>
    unfold specializedGroups at inductionHypothesis ⊢
    rw [List.foldl_append, List.foldl_cons, List.foldl_nil]
    split
    · rename_i tag own
      by_cases seen : tag ∈ ((specializedGroups models).map (·.1))
      · exact inductionHypothesis.join own seen
      · exact inductionHypothesis.openNew own seen
    · rename_i general
      exact inductionHypothesis.skip general

/-! ### The groups, one behind the other -/

/-- Only one group has a given tag. -/
theorem flatMap_own_tag {groups : List (String × List Model)} {tag : String}
    (distinct : (groups.map (·.1)).Nodup) (seen : tag ∈ groups.map (·.1)) (models : List Model) :
    groups.flatMap (fun entry => if entry.1 = tag then models else []) = models := by
  induction groups with
  | nil => exact absurd seen List.not_mem_nil
  | cons entry rest inductionHypothesis =>
    rw [List.map_cons, List.nodup_cons] at distinct
    rw [List.flatMap_cons]
    by_cases same : entry.1 = tag
    · have others : rest.flatMap (fun entry => if entry.1 = tag then models else []) = [] := by
        refine List.flatMap_eq_nil_iff.mpr fun other member => if_neg fun equal => ?_
        rw [same, ← equal] at distinct
        exact distinct.1 (List.mem_map_of_mem member)
      rw [if_pos same, others, List.append_nil]
    · have later : tag ∈ rest.map (·.1) := (List.mem_cons.mp seen).resolve_left (Ne.symm same)
      rw [if_neg same, List.nil_append, inductionHypothesis distinct.2 later]

namespace Grouped

variable {models : List Model} {groups : List (String × List Model)}

theorem specialization_of_mem (grouped : Grouped models groups) {entry : String × List Model}
    (listed : entry ∈ groups) {model : Model} (member : model ∈ entry.2) :
    model.specialization = some entry.1 := by
  rw [grouped.members entry listed] at member
  exact beq_iff_eq.mp (List.mem_filter.mp member).2

/-- The groups and the general models are sorted by place. -/
theorem row_sorted (grouped : Grouped models groups) :
    (groups.flatMap (·.2) ++ generalModels models).Pairwise fun first second =>
      seat models first.specialization ≤ seat models second.specialization := by
  refine List.pairwise_append.mpr ⟨List.pairwise_flatMap.mpr ⟨fun entry listed => ?_, ?_⟩,
    List.pairwise_of_forall_mem_list fun first firstMember second secondMember => ?_,
    fun first _ second secondMember => ?_⟩
  · refine List.pairwise_of_forall_mem_list fun first firstMember second secondMember => ?_
    exact Nat.le_of_eq (by rw [grouped.specialization_of_mem listed firstMember,
      grouped.specialization_of_mem listed secondMember])
  · have ordered := List.pairwise_map.mp grouped.ordered
    refine ordered.imp_of_mem fun one two early first firstMember second secondMember => ?_
    rw [grouped.specialization_of_mem one firstMember,
      grouped.specialization_of_mem two secondMember]
    exact Nat.le_of_lt early
  · exact Nat.le_of_eq (by rw [Option.isNone_iff_eq_none.mp (List.mem_filter.mp firstMember).2,
      Option.isNone_iff_eq_none.mp (List.mem_filter.mp secondMember).2])
  · rw [Option.isNone_iff_eq_none.mp (List.mem_filter.mp secondMember).2]
    exact seat_le_length models _

/-- The groups hold the models of every tag in their order. -/
theorem filter_groups (grouped : Grouped models groups) (tag : String) :
    (groups.flatMap (·.2)).filter (·.specialization == some tag) =
      models.filter (·.specialization == some tag) := by
  have own : ∀ entry ∈ groups, entry.2.filter (·.specialization == some tag) =
      if entry.1 = tag then models.filter (·.specialization == some tag) else [] := by
    intro entry listed
    split
    · rename_i same
      rw [grouped.members entry listed, same, List.filter_filter]
      exact List.filter_congr fun _ _ => Bool.and_self _
    · rename_i different
      refine List.filter_eq_nil_iff.mpr fun model member equal => different ?_
      rw [grouped.specialization_of_mem listed member, beq_iff_eq, Option.some.injEq] at equal
      exact equal
  rw [List.filter_flatMap, List.flatMap_congr own]
  by_cases seen : tag ∈ groups.map (·.1)
  · exact flatMap_own_tag grouped.nodup seen _
  · have nobody : models.filter (·.specialization == some tag) = [] :=
      List.filter_eq_nil_iff.mpr fun model member equal => seen
        ((grouped.seen tag).mpr ((seat_lt_length_iff models tag).mpr
          ⟨model, member, beq_iff_eq.mp equal⟩))
    simp only [nobody, ite_self]
    exact List.flatMap_eq_nil_iff.mpr fun _ _ => rfl

/-- The groups and the general models hold the models of every tag in their order. -/
theorem filter_row (grouped : Grouped models groups) (wanted : Option String) :
    (groups.flatMap (·.2) ++ generalModels models).filter (·.specialization == wanted) =
      models.filter (·.specialization == wanted) := by
  rw [List.filter_append]
  cases wanted with
  | some tag =>
    have none_general : (generalModels models).filter (·.specialization == some tag) = [] := by
      refine List.filter_eq_nil_iff.mpr fun model member equal => ?_
      rw [Option.isNone_iff_eq_none.mp (List.mem_filter.mp member).2] at equal
      exact Bool.noConfusion equal
    rw [grouped.filter_groups, none_general, List.append_nil]
  | none =>
    have none_special : (groups.flatMap (·.2)).filter (·.specialization == none) = [] := by
      refine List.filter_eq_nil_iff.mpr fun model member equal => ?_
      obtain ⟨entry, listed, member⟩ := List.mem_flatMap.mp member
      rw [grouped.specialization_of_mem listed member] at equal
      exact Bool.noConfusion equal
    rw [none_special, List.nil_append]
    unfold generalModels
    rw [List.filter_filter]
    refine List.filter_congr fun model _ => ?_
    cases model.specialization <;> rfl

/-- The groups and the general models are the stable sort. -/
theorem row_eq_arranged (grouped : Grouped models groups) :
    groups.flatMap (·.2) ++ generalModels models = arranged models := by
  refine @eq_of_same_filters Model (Option String) (·.specialization) (seat models) _ _ _ _
    (fun first firstMember second secondMember => specialization_eq_of_seat_eq
      (mem_of_same_filters grouped.filter_row firstMember)
      ((arranged_perm models).mem_iff.mp secondMember))
    grouped.row_sorted (arranged_sorted models) fun wanted => ?_
  rw [grouped.filter_row, filter_arranged]

end Grouped

/-- In the order of its slots the hierarchical strategy has the models arranged. -/
theorem Batch.lineup_hierarchical (models : List Model) (prompt : String) :
    Batch.lineup ⟨.hierarchical, models, prompt⟩ = arranged models := by
  rw [← (grouped_specializedGroups models).row_eq_arranged]
  unfold lineup Strategy.stages
  rw [List.flatten_append, ← List.flatMap_def, ← List.flatMap_def]
  exact congrArg _ (List.flatMap_singleton' (generalModels models))

/-- Every strategy has each model of a batch in its order of slots just once. -/
theorem Batch.lineup_perm (batch : Batch) : batch.lineup.Perm batch.models := by
  obtain ⟨strategy, models, prompt⟩ := batch
  cases strategy with
  | hierarchical =>
    rw [lineup_hierarchical]
    exact arranged_perm models
  | cascade => rw [lineup_of_isChained rfl]
  | _ => rw [lineup_of_isFlat rfl]

/-! ### The hierarchical strategy -/

/-- The hierarchical strategy brings what the sequential strategy brings for the models arranged:
sorted by the place at which what they are specialized for is first seen, with those that are not
specialized last, and otherwise in their order. Both runs come to their end, and under any schedules
they bring the same slots, the same log and the same questions; each model has one slot, which holds
what comes of the model. -/
theorem hierarchical_agrees_with_arranged_sequence (providers : Providers) (gate : Gate)
    (whole : gate.IsWhole) (positive : 0 < gate.capacity) (now : Nat) (models : List Model)
    (prompt : String) :
    let begin (strategy : Strategy) (models : List Model) :=
      Run.start providers gate now [⟨strategy, models, prompt⟩]
    let row := arranged models
    ((begin .hierarchical models).Finishes (begin .hierarchical models).complete ∧
      (begin .sequential row).Finishes (begin .sequential row).complete) ∧
    (∀ one two, (begin .hierarchical models).Finishes one → (begin .sequential row).Finishes two →
      (one.results 0 = two.results 0 ∧ one.log = two.log ∧
        one.calls.map Call.question = two.calls.map Call.question) ∧
      one.results 0 = row.map fun model =>
        (model.outcome providers gate.isOpen prompt).toOption) ∧
    (row.Perm models ∧
      (row.Pairwise fun first second =>
        seat models first.specialization ≤ seat models second.specialization) ∧
      ∀ wanted, row.filter (·.specialization == wanted) =
        models.filter (·.specialization == wanted)) := by
  intro begin row
  have returns (strategy : Strategy) (models : List Model) :
      (begin strategy models).Finishes (begin strategy models).complete :=
    ⟨Run.leads_complete _, (Run.balanced_start providers whole now _).complete_isOver positive⟩
  refine ⟨⟨returns _ _, returns _ _⟩, fun one two finishes finishesOther => ?_, arranged_perm models,
    arranged_sorted models, filter_arranged models⟩
  obtain ⟨results, log, questions⟩ := finishesOther.of_isFlat rfl
  have listed : [(⟨.hierarchical, models, prompt⟩ : Batch)][0]? =
      some ⟨.hierarchical, models, prompt⟩ := rfl
  have ownResults := finishes.results_of_unchained listed rfl
  have ownLog := finishes.log_of_unchained rfl
  have ownQuestions := finishes.calls_of_unchained rfl
  rw [Batch.lineup_hierarchical] at ownResults ownLog ownQuestions
  exact ⟨⟨ownResults.trans results.symm, ownLog.trans log.symm, ownQuestions.trans questions.symm⟩,
    ownResults⟩

/-- The case of two tags of which the first comes back behind the other, of an empty tag, and of a
model that has no provider. -/
theorem arranged_sequence_of_interleaved_tags :
    let ask (provider : String) (tag : Option String) : Model :=
      { provider, name := "m", kind := .fast, specializedFor := tag }
    let models := [ask "echo" (some ""), ask "echo" (some "net"), ask "nobody" (some "disk"),
      ask "echo" none, ask "echo" (some "net")]
    let echo : Provider := ⟨"echo", fun request => ⟨5, .ok ⟨request.prompt, "echo", "m"⟩⟩⟩
    let begin (strategy : Strategy) (models : List Model) :=
      Run.start (.ofList [echo]) (.withPermits 2) 0 [⟨strategy, models, "task"⟩]
    (begin .hierarchical models).complete.results 0 =
        (begin .sequential (arranged models)).complete.results 0 ∧
      (arranged models).map (·.specialization) =
        [some "net", some "net", some "disk", none, none] := by
  intro ask models echo begin
  obtain ⟨⟨returns, returnsOther⟩, agree, _⟩ := hierarchical_agrees_with_arranged_sequence
    (.ofList [echo]) (.withPermits 2) (Gate.isWhole_withPermits 2) Nat.two_pos 0 models "task"
  refine ⟨(agree _ _ returns returnsOther).1.1, ?_⟩
  -- The groups compute, where the sort is by a recursion that does not.
  rw [← Batch.lineup_hierarchical models "task"]
  rfl

end Triage
