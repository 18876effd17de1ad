/-
This file proves on which messages a learned phrase is found again. A phrase is learned from the
words of a message in lower case, with one blank between any two, but it is searched for in the
message itself. So it is found in a message where the words stand with single blanks between them,
since putting a text in lower case changes none of its letters, but for a capital I with a dot. As
long as all messages are written in this way, a phrase is found in all messages in which it was
counted, and its confidence is not greater than the part of the messages in which it is found. The
dialect of patterns has to take quoted phrases literally; nothing else is asked of it.

Where words are further apart, a phrase is learned and not found again: the search does not put
spaces aside in the way in which learning does.
-/

import Triage.Proofs.Learning.Phrases
import Triage.Proofs.Learning.Support
import Triage.Proofs.Pattern.Literal
import Triage.Proofs.Text.Folding

namespace Triage

/-! ### Phrases among words -/

section

variable {Item : Type} (separator : List Item)

theorem suffix_intercalate_drop (parts : List (List Item)) (start : Nat) :
    separator.intercalate (parts.drop start) <:+ separator.intercalate parts := by
  induction parts generalizing start with
  | nil => rw [List.drop_nil]
  | cons part rest inductionHypothesis =>
    cases start with
    | zero => exact List.suffix_rfl
    | succ start =>
      refine (inductionHypothesis start).trans ?_
      cases rest with
      | nil => exact List.nil_suffix
      | cons next rest =>
        rw [List.intercalate_cons_cons]
        exact List.suffix_append _ _

theorem prefix_intercalate_take (parts : List (List Item)) (count : Nat) :
    separator.intercalate (parts.take count) <+: separator.intercalate parts := by
  induction parts generalizing count with
  | nil => rw [List.take_nil]
  | cons part rest inductionHypothesis =>
    cases rest with
    | nil =>
      cases count with
      | zero => exact List.nil_prefix
      | succ count => rw [List.take_succ_cons, List.take_nil]
    | cons next rest =>
      rw [List.intercalate_cons_cons, List.append_assoc]
      cases count with
      | zero => exact List.nil_prefix
      | succ count =>
        cases count with
        | zero =>
          rw [List.take_succ_cons, List.take_zero, List.intercalate_singleton]
          exact List.prefix_append _ _
        | succ count =>
          rw [List.take_succ_cons, List.take_succ_cons, List.intercalate_cons_cons,
            List.append_assoc]
          refine (List.prefix_append_right_inj _).mpr ((List.prefix_append_right_inj _).mpr ?_)
          exact inductionHypothesis (count + 1)

end

namespace Cue

/-- A message is written plainly: its words stand with single blanks between them, and there is no
capital I with a dot among its characters. -/
structure IsPlain (message : String) : Prop where
  spaced : join (wordsOf message) <:+: Text.lowerAll [] message.toList
  single : Text.dottedCapitalI ∉ message.toList

instance (message : String) : Decidable (IsPlain message) :=
  decidable_of_iff (_ ∧ _) ⟨fun ⟨spaced, single⟩ => ⟨spaced, single⟩, fun plain => ⟨plain.1, plain.2⟩⟩

theorem StandsAt.infix_join {words : List (List Char)} {start length : Nat} {phrase : List Char}
    (stands : StandsAt words start length phrase) : phrase <:+: join words := by
  obtain ⟨-, -, -, rfl⟩ := stands
  exact (prefix_intercalate_take [' '] _ length).isInfix.trans
    (suffix_intercalate_drop [' '] words start).isInfix

/-- What stands among the words of a plain message stands in the message when case is ignored. -/
theorem IsPlain.infix_map_foldKey {message : String} (plain : IsPlain message) {phrase : List Char}
    (stands : StandsIn message phrase) :
    phrase.map Text.foldKey <:+: message.toList.map Text.foldKey := by
  obtain ⟨start, length, stands⟩ := stands
  rw [← Text.map_foldKey_lowerAll plain.single []]
  exact (stands.infix_join.trans plain.spaced).map Text.foldKey

/-! ### The cue for a phrase -/

/-- The cue for a phrase occurs where the characters of the phrase do, if its pattern can be compiled. -/
theorem fires_ofPhrase_iff [Pattern.Dialect] [Pattern.Dialect.IsLiteral] (messages : List String)
    (phrase : List Char) (count : Nat) (message : String) :
    let cue := ofPhrase messages phrase count
    cue.fires message = true ↔
      cue.pattern?.isSome = true ∧ phrase.map Text.foldKey <:+: message.toList.map Text.foldKey := by
  intro cue
  have own : cue.pattern? = Pattern.compile? (Pattern.quote (String.ofList phrase)) := rfl
  unfold fires
  cases compiled : cue.pattern? with
  | none => exact iff_of_false Bool.false_ne_true fun both => Bool.false_ne_true both.1
  | some pattern =>
    have literal := Pattern.Dialect.IsLiteral.occursIn_quote_iff (own.symm.trans compiled) message
    rw [String.toList_ofList] at literal
    rw [Option.any_some, literal, Option.isSome_some, eq_self, true_and]

end Cue

namespace CueClassifier

/-- A phrase that is learned for a type is a cue of the type. Its confidence is the part of the messages
of the type in which it stands, word by word, while it fires where its characters stand one after the
other when case is ignored, unless its pattern cannot be compiled. So it fires on every plain message in
which it stands, and when all messages of the type in which it stands are plain, then its confidence is
at most the part of the messages on which it fires. -/
theorem phrase_found_in_plain_messages [Pattern.Dialect] [Pattern.Dialect.IsLiteral]
    (classifier : CueClassifier) {set : TrainingSet} (valid : set.IsValid) {errorType : ErrorType}
    {cue : Cue} (learned : cue ∈ Cue.learnPhrases (set.messagesOf errorType)) :
    let messages := set.messagesOf errorType
    cue ∈ (classifier.fit set).1.cuesFor errorType ∧
      ∃ phrase, cue.source = Pattern.quote (String.ofList phrase) ∧
        cue.confidence =
          Float.ofNat (messages.countP (Cue.StandsIn · phrase)) / Float.ofNat messages.length ∧
        (∀ message, cue.fires message = true ↔ cue.pattern?.isSome = true ∧
          phrase.map Text.foldKey <:+: message.toList.map Text.foldKey) ∧
        (cue.pattern?.isSome = true →
          (∀ message, Cue.StandsIn message phrase → Cue.IsPlain message →
            cue.fires message = true) ∧
          ((∀ message ∈ messages, Cue.StandsIn message phrase → Cue.IsPlain message) →
            cue.confidence ≤
              Float.ofNat (messages.countP cue.fires) / Float.ofNat messages.length)) := by
  intro messages
  obtain ⟨phrase, count, counted, -, rfl⟩ := Cue.mem_learnPhrases.mp learned
  obtain ⟨-, ⟨message, own, stands⟩, rfl⟩ := Cue.mem_phraseCounts.mp counted
  have fires := Cue.fires_ofPhrase_iff messages phrase (messages.countP (Cue.StandsIn · phrase))
  refine ⟨?_, phrase, rfl, rfl, fires, fun compiled => ?_⟩
  · rw [classifier.cuesFor_fit valid (TrainingSet.mem_errorTypes_of_mem_messagesOf own)]
    exact List.mem_append_left _ learned
  · have found (message : String) (stands : Cue.StandsIn message phrase)
        (plain : Cue.IsPlain message) : _ :=
      (fires message).mpr ⟨compiled, plain.infix_map_foldKey stands⟩
    refine ⟨found, fun plain => Number.ratio_le_ratio ?_ ?_ List.countP_le_length ?_⟩
    · exact List.countP_pos_iff.mpr ⟨message, own, decide_eq_true stands⟩
    · exact List.countP_mono_left fun message own stands =>
        found message (of_decide_eq_true stands) (plain message own (of_decide_eq_true stands))
    · exact (set.length_messagesOf_le errorType).trans_lt valid.countable

/-- The case of two plain messages: the phrase is found in both of them, and in no message in which its
words are further apart. -/
theorem phrase_found_in_plain_messages_of_two :
    let set : TrainingSet := ⟨["Cable cut", "CABLE CUT twice"], [.networkError, .networkError], [], []⟩
    let messages := set.messagesOf .networkError
    ∃ cue ∈ ((({ name := "own" } : CueClassifier).fit set).1.cuesFor .networkError),
      cue.source = "cable cut" ∧ cue.fires "a cAbLe cut" = true ∧ cue.fires "cable  cut" = false ∧
        cue.confidence ≤ Float.ofNat (messages.countP cue.fires) / Float.ofNat messages.length := by
  intro set messages
  have valid : set.IsValid := ⟨rfl, by decide⟩
  have learned : Cue.ofPhrase messages "cable cut".toList 2 ∈ Cue.learnPhrases messages :=
    Cue.mem_learnPhrases.mpr ⟨_, _, by decide +kernel, by decide +kernel, rfl⟩
  obtain ⟨member, phrase, source, -, fires, plain⟩ :=
    phrase_found_in_plain_messages { name := "own" } valid learned
  obtain rfl : "cable cut".toList = phrase :=
    String.ofList_injective (Pattern.quote_injective source)
  refine ⟨_, member, by decide +kernel, (fires _).mpr (by decide +kernel), ?_, ?_⟩
  · exact Bool.eq_false_iff.mpr (mt (fires _).mp (by decide +kernel))
  · exact (plain (by decide +kernel)).2 (by decide +kernel)

/-- A phrase whose words are further apart in its only message is learned with the greatest confidence,
and is not found in the message. -/
theorem phrase_missed_in_own_message :
    let set : TrainingSet := ⟨["ab  cdef"], [.networkError], [], []⟩
    let fitted := (({ name := "own" } : CueClassifier).fit set).1
    let messages := set.messagesOf .networkError
    set.IsValid ∧ "ab  cdef" ∈ messages ∧ Cue.StandsIn "ab  cdef" "ab cdef".toList ∧
      (∃ cue ∈ fitted.cuesFor .networkError, cue.source = Pattern.quote "ab cdef" ∧
        cue.confidence = 1 ∧ cue.fires "ab  cdef" = false ∧
        ¬ cue.confidence ≤ Float.ofNat (messages.countP cue.fires) / Float.ofNat messages.length) ∧
      fitted.probabilities "ab  cdef" = .ok [] := by
  intro set fitted messages
  have valid : set.IsValid := ⟨rfl, by decide⟩
  have phrase : Cue.ofPhrase messages "ab cdef".toList 1 ∈ Cue.learnPhrases messages :=
    Cue.mem_learnPhrases.mpr ⟨_, _, by decide +kernel, by decide +kernel, rfl⟩
  have learned : Cue.ofPhrase messages "ab cdef".toList 1 ∈ fitted.cuesFor .networkError := by
    rw [cuesFor_fit { name := "own" } valid (List.mem_singleton_self ErrorType.networkError)]
    exact List.mem_append_left _ phrase
  have none : Cue.probabilities fitted.table "ab  cdef" = [] := by decide +kernel
  exact ⟨valid, by decide +kernel, by decide +kernel, ⟨_, learned, by decide +kernel,
    by decide +kernel, by decide +kernel, by decide +kernel⟩, congrArg Except.ok none⟩

end CueClassifier

end Triage
