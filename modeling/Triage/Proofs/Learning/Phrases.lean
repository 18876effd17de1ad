/-
This file proves what is counted when phrases are counted. A phrase stands at a place, which is a
message, a word of it and a number of words, and places are gone through in their order. Of all the
phrases that are met on the way the short ones are left out, and of the others each counts once in a
message, wherever in the message it stands. So there is one count for every longer phrase that
stands anywhere, it is the number of the messages in which the phrase stands, and the counts are in
the order of the first places.

What is left out within a message does not change what is met first among all messages, since what
has been met before can be left out message by message.
-/

import Mathlib.Data.List.Basic
import Triage.Proofs.Learning.Counts

namespace Triage

/-! ### What is met first -/

namespace Table

section

variable {Key : Type} [BEq Key] [LawfulBEq Key]

theorem eraseDups_filter (keep : Key → Bool) (keys : List Key) :
    (keys.filter keep).eraseDups = keys.eraseDups.filter keep := by
  induction keys using List.reverseRecOn with
  | nil => rfl
  | append_singleton early last inductionHypothesis =>
    rw [List.filter_append, eraseDups_append_singleton]
    cases kept : keep last with
    | false =>
      have none : [last].filter keep = [] := by simp [kept]
      rw [none, List.append_nil, inductionHypothesis]
      split
      · rfl
      · rw [List.filter_append, none, List.append_nil]
    | true =>
      have own : [last].filter keep = [last] := by simp [kept]
      rw [own, eraseDups_append_singleton, inductionHypothesis]
      simp only [List.mem_filter, kept, and_true]
      split
      · rfl
      · rw [List.filter_append, own]

theorem eraseDups_of_nodup {keys : List Key} (distinct : keys.Nodup) : keys.eraseDups = keys := by
  induction keys using List.reverseRecOn with
  | nil => rfl
  | append_singleton early last inductionHypothesis =>
    obtain ⟨early, -, new⟩ := List.nodup_append.mp distinct
    rw [eraseDups_append_singleton, inductionHypothesis early,
      if_neg fun known => new last known last List.mem_cons_self rfl]

/-- Nothing changes when keys that have been met before are left out part by part first. -/
theorem eraseDups_flatMap_eraseDups {Part : Type} (parts : List Part) (keys : Part → List Key) :
    (parts.flatMap fun part => (keys part).eraseDups).eraseDups = (parts.flatMap keys).eraseDups := by
  induction parts with
  | nil => rfl
  | cons part rest inductionHypothesis =>
    have known (later : List Key) :
        later.removeAll (keys part).eraseDups = later.removeAll (keys part) :=
      List.filter_congr fun key _ => congrArg not (Bool.eq_iff_iff.mpr (by simp))
    rw [List.flatMap_cons, List.flatMap_cons, List.eraseDups_append, List.eraseDups_append,
      eraseDups_of_nodup (nodup_eraseDups _), known]
    unfold List.removeAll
    rw [eraseDups_filter, eraseDups_filter, inductionHypothesis]

end

section

variable {Key Place : Type} {before : Place → Place → Prop} {entries : List (Place × Key)}

/-- The first place at which a key is entered. -/
def IsFirst (before : Place → Place → Prop) (entries : List (Place × Key)) (place : Place)
    (key : Key) : Prop :=
  (place, key) ∈ entries ∧ ∀ other, (other, key) ∈ entries → other = place ∨ before place other

theorem IsFirst.append_singleton {place : Place} {key : Key} {last : Place × Key}
    (first : IsFirst before entries place key) (later : ∀ entry ∈ entries, before entry.1 last.1) :
    IsFirst before (entries ++ [last]) place key := by
  refine ⟨List.mem_append_left _ first.1, fun other member => ?_⟩
  rcases List.mem_append.mp member with early | own
  · exact first.2 other early
  · obtain rfl := List.mem_singleton.mp own
    exact .inr (later _ first.1)

theorem isFirst_of_not_mem {last : Place × Key} (new : last.2 ∉ entries.map (·.2)) :
    IsFirst before (entries ++ [last]) last.1 last.2 := by
  refine ⟨List.mem_append_right _ List.mem_cons_self, fun other member => ?_⟩
  rcases List.mem_append.mp member with early | own
  · exact absurd (List.mem_map_of_mem early) new
  · exact .inl (congrArg Prod.fst (List.mem_singleton.mp own))

theorem exists_isFirst (ordered : entries.Pairwise fun one two => before one.1 two.1) {key : Key}
    (known : key ∈ entries.map (·.2)) : ∃ place, IsFirst before entries place key := by
  induction entries using List.reverseRecOn with
  | nil => exact absurd known List.not_mem_nil
  | append_singleton early last inductionHypothesis =>
    obtain ⟨ordered, -, later⟩ := List.pairwise_append.mp ordered
    by_cases met : key ∈ early.map (·.2)
    · obtain ⟨place, first⟩ := inductionHypothesis ordered met
      exact ⟨place, first.append_singleton fun entry member =>
        later entry member last List.mem_cons_self⟩
    · rw [List.map_append, List.mem_append] at known
      obtain rfl := List.mem_singleton.mp (known.resolve_left met)
      exact ⟨last.1, isFirst_of_not_mem met⟩

/-- Keys that are kept once each are in the order of the first places at which they are entered. -/
theorem pairwise_isFirst [BEq Key] [LawfulBEq Key]
    (ordered : entries.Pairwise fun one two => before one.1 two.1) :
    (entries.map (·.2)).eraseDups.Pairwise fun one two =>
      ∃ first second, IsFirst before entries first one ∧ IsFirst before entries second two ∧
        before first second := by
  induction entries using List.reverseRecOn with
  | nil => exact .nil
  | append_singleton early last inductionHypothesis =>
    obtain ⟨ordered, -, later⟩ := List.pairwise_append.mp ordered
    replace later : ∀ entry ∈ early, before entry.1 last.1 :=
      fun entry member => later entry member last List.mem_cons_self
    rw [List.map_append, List.map_singleton, eraseDups_append_singleton]
    have kept : (early.map (·.2)).eraseDups.Pairwise fun one two =>
        ∃ first second, IsFirst before (early ++ [last]) first one ∧
          IsFirst before (early ++ [last]) second two ∧ before first second := by
      refine (inductionHypothesis ordered).imp ?_
      rintro one two ⟨first, second, isFirst, isSecond, earlier⟩
      exact ⟨first, second, isFirst.append_singleton later, isSecond.append_singleton later, earlier⟩
    split
    · exact kept
    · rename_i new
      refine List.pairwise_append.mpr ⟨kept, List.pairwise_singleton _ _, ?_⟩
      intro key member other own
      obtain rfl := List.mem_singleton.mp own
      obtain ⟨place, first⟩ := exists_isFirst ordered (List.mem_eraseDups.mp member)
      exact ⟨place, last.1, first.append_singleton later, isFirst_of_not_mem new, later _ first.1⟩

end

end Table

namespace Cue

/-! ### Places -/

/-- A phrase stands in a list of words: it is two to four of them in a row, from a given one on, with a
blank between any two. -/
def StandsAt (words : List (List Char)) (start length : Nat) (phrase : List Char) : Prop :=
  2 ≤ length ∧ length ≤ 4 ∧ start + length ≤ words.length ∧
    phrase = List.intercalate [' '] ((words.drop start).take length)

/-- A phrase stands somewhere in a message. -/
def StandsIn (message : String) (phrase : List Char) : Prop :=
  ∃ start length, StandsAt (wordsOf message) start length phrase

/-- Where a phrase may stand among messages: the number of the message, the number of its first word
and how many words it has. -/
structure Place where
  message : Nat
  start : Nat
  length : Nat

/-- The order of places: by message, by first word, and the shorter one first. -/
def Place.Precedes (one two : Place) : Prop :=
  one.message < two.message ∨ one.message = two.message ∧
    (one.start < two.start ∨ one.start = two.start ∧ one.length < two.length)

/-- A phrase stands at a place of the messages. -/
def Place.Holds (messages : List String) (place : Place) (phrase : List Char) : Prop :=
  ∃ message, messages[place.message]? = some message ∧
    StandsAt (wordsOf message) place.start place.length phrase

/-- The first place of the messages at which a phrase stands. -/
def Place.IsFirst (messages : List String) (place : Place) (phrase : List Char) : Prop :=
  place.Holds messages phrase ∧
    ∀ other : Place, other.Holds messages phrase → other = place ∨ place.Precedes other

/-! ### What stands at places -/

/-- The places of a message, in their order, with what stands there. -/
def entriesOf (number : Nat) (words : List (List Char)) : List (Place × List Char) :=
  (List.range words.length).flatMap fun start =>
    (phraseLengths.filter (start + · ≤ words.length)).map fun length =>
      (⟨number, start, length⟩, join ((words.drop start).take length))

/-- The places of all messages, in their order, with what stands there. -/
def entries (messages : List String) : List (Place × List Char) :=
  messages.zipIdx.flatMap fun (message, number) => entriesOf number (wordsOf message)

theorem map_snd_entriesOf (number : Nat) (words : List (List Char)) :
    (entriesOf number words).map (·.2) = phrasesFrom words := by
  unfold entriesOf
  rw [List.map_flatMap]
  simp only [List.map_map]
  induction words with
  | nil => rfl
  | cons word rest inductionHypothesis =>
    rw [phrasesFrom, ← inductionHypothesis, List.length_cons, List.range_succ_eq_map,
      List.flatMap_cons, List.flatMap_map]
    refine congr_arg₂ _ ?_ ?_
    · unfold phrasesAtStart
      simp only [Nat.zero_add]
      rfl
    · refine congrArg (List.flatMap · _) (funext fun start => ?_)
      have same (length : Nat) :
          start + 1 + length ≤ rest.length + 1 ↔ start + length ≤ rest.length := by
        omega
      simp only [Nat.succ_eq_add_one, same]
      rfl

theorem mem_entriesOf {number : Nat} {words : List (List Char)} {place : Place} {phrase : List Char} :
    (place, phrase) ∈ entriesOf number words ↔
      place.message = number ∧ StandsAt words place.start place.length phrase := by
  have lengths (length : Nat) : length ∈ phraseLengths ↔ 2 ≤ length ∧ length ≤ 4 := by
    unfold phraseLengths
    rw [List.mem_cons, List.mem_cons, List.mem_singleton]
    omega
  unfold entriesOf StandsAt
  simp only [List.mem_flatMap, List.mem_range, List.mem_map, List.mem_filter, decide_eq_true_eq,
    lengths]
  constructor
  · rintro ⟨start, _, length, ⟨⟨least, most⟩, inside⟩, rfl, rfl⟩
    exact ⟨rfl, least, most, inside, rfl⟩
  · rintro ⟨rfl, least, most, inside, rfl⟩
    exact ⟨place.start, by omega, place.length, ⟨⟨least, most⟩, inside⟩, rfl⟩

theorem mem_entries {messages : List String} {place : Place} {phrase : List Char} :
    (place, phrase) ∈ entries messages ↔ place.Holds messages phrase := by
  unfold entries
  rw [List.mem_flatMap]
  constructor
  · rintro ⟨⟨message, number⟩, listed, member⟩
    obtain ⟨rfl, stands⟩ := mem_entriesOf.mp member
    exact ⟨message, List.mk_mem_zipIdx_iff_getElem?.mp listed, stands⟩
  · rintro ⟨message, listed, stands⟩
    exact ⟨(message, place.message), List.mk_mem_zipIdx_iff_getElem?.mpr listed,
      mem_entriesOf.mpr ⟨rfl, stands⟩⟩

theorem pairwise_entriesOf (number : Nat) (words : List (List Char)) :
    (entriesOf number words).Pairwise fun one two => one.1.Precedes two.1 := by
  have increasing : phraseLengths.Pairwise (· < ·) := by decide
  refine List.pairwise_flatMap.mpr ⟨fun start _ => ?_, List.pairwise_lt_range.imp ?_⟩
  · exact List.pairwise_map.mpr ((increasing.filter _).imp fun shorter =>
      .inr ⟨rfl, .inr ⟨rfl, shorter⟩⟩)
  · intro start later earlier one oneMember two twoMember
    obtain ⟨_, _, rfl⟩ := List.mem_map.mp oneMember
    obtain ⟨_, _, rfl⟩ := List.mem_map.mp twoMember
    exact .inr ⟨rfl, .inl earlier⟩

theorem pairwise_entries (messages : List String) :
    (entries messages).Pairwise fun one two => one.1.Precedes two.1 := by
  have numbered : messages.zipIdx.Pairwise fun one two => one.2 < two.2 := by
    rw [← List.pairwise_map (f := Prod.snd), List.zipIdx_map_snd]
    exact List.pairwise_lt_range'
  refine List.pairwise_flatMap.mpr ⟨fun _ _ => pairwise_entriesOf _ _, numbered.imp ?_⟩
  rintro _ _ earlier ⟨one, _⟩ oneMember ⟨two, _⟩ twoMember
  exact .inl ((mem_entriesOf.mp oneMember).1 ▸ (mem_entriesOf.mp twoMember).1 ▸ earlier)

/-! ### What is counted -/

theorem mem_phrasesFrom {words : List (List Char)} {phrase : List Char} :
    phrase ∈ phrasesFrom words ↔ ∃ start length, StandsAt words start length phrase := by
  rw [← map_snd_entriesOf 0, List.mem_map]
  constructor
  · rintro ⟨⟨place, _⟩, member, rfl⟩
    exact ⟨place.start, place.length, (mem_entriesOf.mp member).2⟩
  · rintro ⟨start, length, stands⟩
    exact ⟨(⟨0, start, length⟩, phrase), mem_entriesOf.mpr ⟨rfl, stands⟩, rfl⟩

instance (message : String) (phrase : List Char) : Decidable (StandsIn message phrase) :=
  decidable_of_iff (phrase ∈ phrasesFrom (wordsOf message)) mem_phrasesFrom

/-- The phrases of a message are the longer ones that stand in it. -/
theorem mem_phrasesOf {message : String} {phrase : List Char} :
    phrase ∈ phrasesOf message ↔ shortLength < phrase.length ∧ StandsIn message phrase := by
  unfold phrasesOf StandsIn
  rw [List.mem_eraseDups, List.mem_filter, mem_phrasesFrom, decide_eq_true_eq, and_comm]

/-- The phrases that are counted are the longer ones, as they are met among all messages. -/
theorem map_fst_phraseCounts_eq (messages : List String) :
    (phraseCounts messages).map (·.1) =
      (((entries messages).filter (shortLength < ·.2.length)).map (·.2)).eraseDups := by
  have listed : messages.flatMap (fun message => phrasesFrom (wordsOf message)) =
      (entries messages).map (·.2) := by
    unfold entries
    rw [List.map_flatMap, ← List.zipIdx_map_fst 0 messages, List.flatMap_map]
    simp only [map_snd_entriesOf, List.zipIdx_map_fst]
  calc (phraseCounts messages).map (·.1)
    _ = (messages.flatMap phrasesOf).eraseDups := map_fst_phraseCounts messages
    _ = (messages.flatMap fun message =>
          (phrasesFrom (wordsOf message)).filter (shortLength < ·.length)).eraseDups :=
      Table.eraseDups_flatMap_eraseDups _ _
    _ = (((entries messages).map (·.2)).filter (shortLength < ·.length)).eraseDups := by
      rw [← listed, List.filter_flatMap]
    _ = (((entries messages).filter (shortLength < ·.2.length)).map (·.2)).eraseDups := by
      rw [List.filter_map]
      rfl

theorem mem_phraseCounts {messages : List String} {phrase : List Char} {count : Nat} :
    (phrase, count) ∈ phraseCounts messages ↔
      shortLength < phrase.length ∧ (∃ message ∈ messages, StandsIn message phrase) ∧
        count = messages.countP (StandsIn · phrase) := by
  have counted (long : shortLength < phrase.length) :
      (messages.countP fun message => phrase ∈ phrasesOf message) =
        messages.countP (StandsIn · phrase) := by
    simp only [mem_phrasesOf, long, true_and]
  rw [phraseCounts_eq]
  simp only [List.mem_map, List.mem_eraseDups, List.mem_flatMap, Prod.mk.injEq]
  constructor
  · rintro ⟨_, ⟨message, listed, member⟩, rfl, rfl⟩
    obtain ⟨long, stands⟩ := mem_phrasesOf.mp member
    exact ⟨long, ⟨message, listed, stands⟩, counted long⟩
  · rintro ⟨long, ⟨message, listed, stands⟩, rfl⟩
    exact ⟨phrase, ⟨message, listed, mem_phrasesOf.mpr ⟨long, stands⟩⟩, rfl, counted long⟩

theorem isFirst_of_isFirst_entries {messages : List String} {place : Place} {phrase : List Char}
    (first : Table.IsFirst Place.Precedes
      ((entries messages).filter (shortLength < ·.2.length)) place phrase) :
    place.IsFirst messages phrase := by
  obtain ⟨member, least⟩ := first
  obtain ⟨entered, long⟩ := List.mem_filter.mp member
  refine ⟨mem_entries.mp entered, fun other held => least other ?_⟩
  exact List.mem_filter.mpr ⟨mem_entries.mpr held, long⟩

/-- Every phrase of more than five characters that stands in any of the messages has one entry, which
holds in how many of the messages it stands, and the entries are in the order in which their phrases
are first met. -/
theorem phrases_counted_by_message (messages : List String) :
    ((phraseCounts messages).map (·.1)).Nodup ∧
      (∀ phrase count, (phrase, count) ∈ phraseCounts messages ↔
        5 < phrase.length ∧ (∃ message ∈ messages, StandsIn message phrase) ∧
          count = messages.countP (StandsIn · phrase)) ∧
      (∀ entry ∈ phraseCounts messages, 1 ≤ entry.2 ∧ entry.2 ≤ messages.length) ∧
      ((phraseCounts messages).map (·.1)).Pairwise fun one two =>
        ∃ first second : Place, first.IsFirst messages one ∧ second.IsFirst messages two ∧
          first.Precedes second := by
  refine ⟨?_, fun phrase count => mem_phraseCounts, fun entry => count_of_mem_phraseCounts, ?_⟩
  · rw [map_fst_phraseCounts]
    exact Table.nodup_eraseDups _
  · rw [map_fst_phraseCounts_eq]
    refine (Table.pairwise_isFirst ((pairwise_entries messages).filter _)).imp ?_
    rintro one two ⟨first, second, isFirst, isSecond, earlier⟩
    exact ⟨first, second, isFirst_of_isFirst_entries isFirst, isFirst_of_isFirst_entries isSecond,
      earlier⟩

example : phraseCounts ["no route", "No route no\troute"] =
    [("no route".toList, 2), ("no route no".toList, 1), ("no route no route".toList, 1),
      ("route no".toList, 1), ("route no route".toList, 1)] := by decide

end Cue

end Triage
