/-
This file proves what is collected before anything is learned. The messages of every type and the
counts of phrases are tables that are built item by item: an item changes the entry of its key, or
opens a new one at the end. Such a table has one entry for every key, in the order in which the keys
first occur, and the entry holds what the items of the key come to. The entries of phrases that are
frequent enough are made cues.
-/

import Mathlib.Data.List.Induction
import Triage.Learning.Cue

namespace Triage

namespace Table

/-! ### First occurrences -/

section

variable {Key : Type} [BEq Key] [LawfulBEq Key]

theorem eraseDups_append_singleton (keys : List Key) (key : Key) :
    (keys ++ [key]).eraseDups = if key ∈ keys then keys.eraseDups else keys.eraseDups ++ [key] := by
  rw [List.eraseDups_append, List.removeAll, List.filter_cons, List.filter_nil]
  by_cases known : key ∈ keys
  · rw [if_pos known, List.elem_eq_true_of_mem known]
    exact List.append_nil _
  · have new : keys.elem key = false := by simpa using known
    rw [if_neg known, new]
    rfl

theorem nodup_eraseDups (keys : List Key) : keys.eraseDups.Nodup := by
  induction keys using List.reverseRecOn with
  | nil => exact List.nodup_nil
  | append_singleton early last inductionHypothesis =>
    rw [eraseDups_append_singleton]
    split
    · exact inductionHypothesis
    · rename_i new
      refine List.nodup_append.mpr ⟨inductionHypothesis, List.pairwise_singleton _ last, ?_⟩
      rintro key known other own rfl
      obtain rfl := List.mem_singleton.mp own
      exact new (List.mem_eraseDups.mp known)

end

/-! ### Tables -/

variable {Key Item Value : Type} [DecidableEq Key]

/-- Change the entry of a key, or open one at the end. -/
def enter (key : Key) (fresh : Value) (change : Value → Value) :
    List (Key × Value) → List (Key × Value)
  | [] => [(key, fresh)]
  | (other, value) :: rest =>
    if other = key then (other, change value) :: rest
    else (other, value) :: enter key fresh change rest

/-- The table of all items. -/
def collect (initial : Value) (add : Value → Item → Value) (items : List (Key × Item)) :
    List (Key × Value) :=
  items.foldl (fun table item => enter item.1 (add initial item.2) (add · item.2) table) []

/-- What the items of a key come to. -/
def valueOf (initial : Value) (add : Value → Item → Value) (items : List (Key × Item))
    (key : Key) : Value :=
  ((items.filter (·.1 = key)).map (·.2)).foldl add initial

theorem enter_map_of_not_mem {key : Key} {keys : List Key} (new : key ∉ keys) (fresh : Value)
    (change : Value → Value) (values : Key → Value) :
    enter key fresh change (keys.map fun other => (other, values other)) =
      keys.map (fun other => (other, values other)) ++ [(key, fresh)] := by
  induction keys with
  | nil => rfl
  | cons other rest inductionHypothesis =>
    have different : other ≠ key := fun own => new (own ▸ List.mem_cons_self)
    rw [List.map_cons, enter, if_neg different,
      inductionHypothesis fun known => new (List.mem_cons_of_mem other known)]
    rfl

theorem enter_map_of_mem {key : Key} {keys : List Key} (distinct : keys.Nodup) (known : key ∈ keys)
    (fresh : Value) (change : Value → Value) (values : Key → Value) :
    enter key fresh change (keys.map fun other => (other, values other)) =
      keys.map fun other => (other, if other = key then change (values other) else values other) := by
  induction keys with
  | nil => exact absurd known List.not_mem_nil
  | cons other rest inductionHypothesis =>
    obtain ⟨new, distinct⟩ := List.nodup_cons.mp distinct
    rw [List.map_cons, List.map_cons, enter]
    by_cases own : other = key
    · subst own
      rw [if_pos rfl, if_pos rfl]
      refine congrArg _ (List.map_congr_left fun later member => ?_)
      rw [if_neg fun same : later = other => new (same ▸ member)]
    · rw [if_neg own, if_neg own,
        inductionHypothesis distinct ((List.mem_cons.mp known).resolve_left (Ne.symm own))]

theorem valueOf_append_singleton (initial : Value) (add : Value → Item → Value)
    (items : List (Key × Item)) (last : Key × Item) (key : Key) :
    valueOf initial add (items ++ [last]) key =
      if key = last.1 then add (valueOf initial add items key) last.2
      else valueOf initial add items key := by
  unfold valueOf
  rw [List.filter_append, List.map_append, List.foldl_append, List.filter_cons, List.filter_nil]
  by_cases own : key = last.1
  · rw [if_pos own, if_pos (decide_eq_true own.symm)]
    rfl
  · rw [if_neg own, if_neg fun same => own (of_decide_eq_true same).symm]
    rfl

theorem valueOf_of_not_mem {items : List (Key × Item)} {key : Key}
    (new : key ∉ items.map (·.1)) (initial : Value) (add : Value → Item → Value) :
    valueOf initial add items key = initial := by
  have none : items.filter (·.1 = key) = [] := by
    refine List.filter_eq_nil_iff.mpr fun item member own => new ?_
    exact of_decide_eq_true own ▸ List.mem_map_of_mem member
  unfold valueOf
  rw [none]
  rfl

/-- A table has one entry for every key, which holds what the items of the key come to. -/
theorem collect_eq [BEq Key] [LawfulBEq Key] (initial : Value) (add : Value → Item → Value)
    (items : List (Key × Item)) :
    collect initial add items =
      (items.map (·.1)).eraseDups.map fun key => (key, valueOf initial add items key) := by
  induction items using List.reverseRecOn with
  | nil => rfl
  | append_singleton early last inductionHypothesis =>
    have step : collect initial add (early ++ [last]) =
        enter last.1 (add initial last.2) (add · last.2) (collect initial add early) := by
      unfold collect
      rw [List.foldl_append]
      rfl
    simp only [step, inductionHypothesis, valueOf_append_singleton, List.map_append, List.map_cons,
      List.map_nil, eraseDups_append_singleton]
    by_cases known : last.1 ∈ early.map (·.1)
    · rw [if_pos known,
        enter_map_of_mem (nodup_eraseDups _) (List.mem_eraseDups.mpr known)]
    · have others : ∀ key ∈ (early.map (·.1)).eraseDups, key ≠ last.1 := fun key member own =>
        known (own ▸ List.mem_eraseDups.mp member)
      rw [if_neg known, enter_map_of_not_mem (mt List.mem_eraseDups.mp known), List.map_append]
      refine congr_arg₂ _ (List.map_congr_left fun key member => ?_) ?_
      · rw [if_neg (others key member)]
      · rw [List.map_cons, List.map_nil, if_pos rfl, valueOf_of_not_mem known]

end Table

/-! ### Messages by type -/

namespace TrainingSet

/-- The messages of a type, in their order. -/
def messagesOf (set : TrainingSet) (errorType : ErrorType) : List String :=
  (set.samples.filter (·.2 = errorType)).map (·.1)

theorem addToGroup_eq_enter (message : String) (errorType : ErrorType)
    (groups : List (ErrorType × List String)) :
    addToGroup message errorType groups =
      Table.enter errorType ([] ++ [message]) (· ++ [message]) groups := by
  induction groups with
  | nil => rfl
  | cons group rest inductionHypothesis => rw [addToGroup, Table.enter, inductionHypothesis]

/-- There is a group for every type that occurs, in the order in which the types first occur. -/
theorem groups_eq (set : TrainingSet) :
    set.groups = (set.samples.map (·.2)).eraseDups.map fun errorType =>
      (errorType, set.messagesOf errorType) := by
  have append (messages : List String) : messages.foldl (fun group message => group ++ [message]) [] =
      messages := by
    induction messages using List.reverseRecOn with
    | nil => rfl
    | append_singleton early last inductionHypothesis =>
      rw [List.foldl_append, inductionHypothesis]
      rfl
  have collected : set.groups =
      Table.collect [] (fun group message => group ++ [message]) (set.samples.map Prod.swap) := by
    unfold groups Table.collect
    simp only [addToGroup_eq_enter, List.foldl_map, Prod.fst_swap, Prod.snd_swap]
  have own (errorType : ErrorType) : Table.valueOf [] (fun group message => group ++ [message])
      (set.samples.map Prod.swap) errorType = set.messagesOf errorType := by
    unfold Table.valueOf messagesOf
    rw [append, List.filter_map, List.map_map]
    rfl
  rw [collected, Table.collect_eq, List.map_map]
  simp only [own]
  rfl

/-- A group holds the messages of its type, and there is at least one. -/
theorem mem_groups {set : TrainingSet} {errorType : ErrorType} {messages : List String} :
    (errorType, messages) ∈ set.groups ↔ messages = set.messagesOf errorType ∧ messages ≠ [] := by
  have occurs : errorType ∈ set.samples.map (·.2) ↔ set.messagesOf errorType ≠ [] := by
    unfold messagesOf
    simp
  rw [groups_eq, List.mem_map]
  constructor
  · rintro ⟨_, member, rfl, rfl⟩
    exact ⟨rfl, occurs.mp (List.mem_eraseDups.mp member)⟩
  · rintro ⟨rfl, some⟩
    exact ⟨errorType, List.mem_eraseDups.mpr (occurs.mpr some), rfl⟩

theorem length_messagesOf_le (set : TrainingSet) (errorType : ErrorType) :
    (set.messagesOf errorType).length ≤ set.messages.length :=
  calc (set.messagesOf errorType).length
    _ = (set.samples.filter (·.2 = errorType)).length := List.length_map _
    _ ≤ set.samples.length := List.length_filter_le _ _
    _ = min set.messages.length set.errorTypes.length := List.length_zip
    _ ≤ set.messages.length := Nat.min_le_left _ _

theorem mem_errorTypes_of_mem_messagesOf {set : TrainingSet} {errorType : ErrorType}
    {message : String} (own : message ∈ set.messagesOf errorType) : errorType ∈ set.errorTypes := by
  obtain ⟨⟨_, other⟩, sample, rfl⟩ := List.mem_map.mp own
  obtain ⟨sampled, same⟩ := List.mem_filter.mp sample
  exact of_decide_eq_true same ▸ (List.of_mem_zip sampled).2

end TrainingSet

/-! ### Messages by phrase -/

namespace Cue

theorem addPhrase_eq_enter (phrase : List Char) (counts : List (List Char × Nat)) :
    addPhrase phrase counts = Table.enter phrase (0 + 1) (· + 1) counts := by
  induction counts with
  | nil => rfl
  | cons entry rest inductionHypothesis => rw [addPhrase, Table.enter, inductionHypothesis]

theorem count_flatMap_phrasesOf (messages : List String) (phrase : List Char) :
    (messages.flatMap phrasesOf).count phrase =
      messages.countP fun message => phrase ∈ phrasesOf message := by
  induction messages with
  | nil => rfl
  | cons message rest inductionHypothesis =>
    have distinct : (phrasesOf message).Nodup := Table.nodup_eraseDups _
    rw [List.flatMap_cons, List.count_append, List.countP_cons, inductionHypothesis,
      Nat.add_comm, distinct.count]
    simp only [decide_eq_true_eq]

/-- Every phrase is counted once for every message in which it occurs. -/
theorem phraseCounts_eq (messages : List String) :
    phraseCounts messages = (messages.flatMap phrasesOf).eraseDups.map fun phrase =>
      (phrase, messages.countP fun message => phrase ∈ phrasesOf message) := by
  have collected : phraseCounts messages = Table.collect 0 (fun count _ => count + 1)
      ((messages.flatMap phrasesOf).map fun phrase => (phrase, ())) := by
    unfold phraseCounts Table.collect
    simp only [addPhrase_eq_enter, List.foldl_map]
  have length (units : List Unit) (start : Nat) :
      units.foldl (fun count _ => count + 1) start = start + units.length := by
    induction units generalizing start with
    | nil => rfl
    | cons _ rest inductionHypothesis =>
      rw [List.foldl_cons, inductionHypothesis, List.length_cons]
      omega
  have own (phrase : List Char) : Table.valueOf 0 (fun count _ => count + 1)
      ((messages.flatMap phrasesOf).map fun phrase => (phrase, ())) phrase =
      messages.countP fun message => phrase ∈ phrasesOf message := by
    rw [← count_flatMap_phrasesOf]
    unfold Table.valueOf
    rw [length, Nat.zero_add, List.length_map, List.filter_map, List.length_map, List.count,
      List.countP_eq_length_filter]
    refine congrArg _ (List.filter_congr fun other _ => ?_)
    exact Bool.eq_iff_iff.mpr (by simp)
  rw [collected, Table.collect_eq, List.map_map]
  simp only [own]
  exact congrArg (fun phrases : List (List Char) => List.map _ phrases.eraseDups) (List.map_id _)

theorem map_fst_phraseCounts (messages : List String) :
    (phraseCounts messages).map (·.1) = (messages.flatMap phrasesOf).eraseDups := by
  rw [phraseCounts_eq, List.map_map]
  exact List.map_id _

/-- A phrase is counted when it occurs in any message, and then not more often than there are
messages. -/
theorem count_of_mem_phraseCounts {messages : List String} {phrase : List Char} {count : Nat}
    (member : (phrase, count) ∈ phraseCounts messages) : 0 < count ∧ count ≤ messages.length := by
  rw [phraseCounts_eq] at member
  obtain ⟨_, occurs, rfl, rfl⟩ := List.mem_map.mp member
  obtain ⟨message, known, inside⟩ := List.mem_flatMap.mp (List.mem_eraseDups.mp occurs)
  exact ⟨List.countP_pos_iff.mpr ⟨message, known, decide_eq_true inside⟩, List.countP_le_length⟩

/-! ### Cues of phrases -/

section

variable [Pattern.Dialect]

/-- The cue that a phrase is made when it is learned from messages. -/
def ofPhrase (messages : List String) (phrase : List Char) (count : Nat) : Cue :=
  ofSource (Pattern.quote (String.ofList phrase)) (Float.ofNat count / Float.ofNat messages.length)

theorem mem_learnPhrases {messages : List String} {cue : Cue} :
    cue ∈ learnPhrases messages ↔ ∃ phrase count, (phrase, count) ∈ phraseCounts messages ∧
      isFrequent count messages.length = true ∧ ofPhrase messages phrase count = cue := by
  unfold learnPhrases
  simp only [List.mem_map, List.mem_filter, Prod.exists, and_assoc]
  rfl

end

end Cue

end Triage
