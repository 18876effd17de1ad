/-
This file proves that a JSON text says the same inside a larger one. The reader looks at what is
open only when a value has ended, so as long as a text stays within itself, what is open around it
does not matter. The texts of arrays and objects are therefore read part by part: if each part on
its own is a JSON text, so is the whole, and it says what its parts say.
-/

import Mathlib.Data.List.Forall2
import Triage.Json.Reading
import Triage.Json.Writer

namespace Triage.Json

namespace Reader

/-! ### What is open around a text -/

/-- The state with more arrays and objects open around it. -/
def State.inside (state : State) (outer : List Frame) : State :=
  ⟨state.stack ++ outer, state.place⟩

/-- The first item of an array is expected only where something is open. -/
def State.IsSound (state : State) : Prop :=
  match state.place with
  | .firstItem => state.stack ≠ []
  | _ => True

section

variable {stack : List Frame} {state next : State} {character : Char}

theorem beginValue_inside (begun : beginValue stack character = some next) (outer : List Frame) :
    beginValue (stack ++ outer) character = some (next.inside outer) ∧ next.IsSound := by
  unfold beginValue at begun ⊢
  split_ifs at begun ⊢
  case neg =>
    obtain ⟨draft, started, rfl⟩ := Option.map_eq_some_iff.mp begun
    exact ⟨by rw [started]; rfl, trivial⟩
  all_goals
    cases begun
    simp [State.inside, State.IsSound]

theorem afterValue_inside {tree : Tree} (read : afterValue stack tree character = some next)
    (outer : List Frame) :
    afterValue (stack ++ outer) tree character = some (next.inside outer) ∧ next.IsSound := by
  rcases stack with _ | ⟨⟨items⟩ | ⟨members, key⟩, rest⟩
  case nil =>
    by_cases skipped : isSkipped character = true
    · simp only [afterValue, skipped, if_true] at read ⊢
      cases read
      exact ⟨rfl, trivial⟩
    · simp [afterValue, skipped] at read
  all_goals
    simp only [afterValue, List.cons_append] at read ⊢
    split_ifs at read ⊢ <;> cases read <;> exact ⟨rfl, trivial⟩

/-- What the reader does with a character does not depend on what is open around the text. -/
theorem step_inside (sound : state.IsSound) (read : step state character = some next)
    (outer : List Frame) :
    step (state.inside outer) character = some (next.inside outer) ∧ next.IsSound := by
  obtain ⟨stack, place⟩ := state
  cases place
  case value =>
    simp only [step, State.inside] at read ⊢
    split_ifs at read ⊢
    · cases read
      exact ⟨rfl, trivial⟩
    · exact beginValue_inside read outer
  case firstItem =>
    simp only [step, State.inside] at read ⊢
    split_ifs at read ⊢
    · cases read
      exact ⟨rfl, sound⟩
    · cases read
      exact ⟨by simp [List.tail_append_of_ne_nil sound], trivial⟩
    · exact beginValue_inside read outer
  case after tree => exact afterValue_inside read outer
  case number draft =>
    simp only [step, State.inside] at read ⊢
    cases pushed : draft.push? character with
    | some longer =>
      simp only [pushed] at read ⊢
      cases read
      exact ⟨rfl, trivial⟩
    | none =>
      simp only [pushed] at read ⊢
      cases finished : draft.finish? with
      | some numeral =>
        simp only [finished] at read ⊢
        exact afterValue_inside read outer
      | none =>
        simp only [finished] at read
        cases read
  case word rest tree =>
    simp only [step, State.inside] at read ⊢
    rcases rest with _ | ⟨expected, rest⟩
    · cases read
    · simp only at read ⊢
      split_ifs at read ⊢ <;> cases read <;> simp [State.IsSound, *]
  case text draft =>
    simp only [step, State.inside] at read ⊢
    split_ifs at read ⊢
    · cases read
      exact ⟨rfl, trivial⟩
    · obtain ⟨longer, pushed, rfl⟩ := Option.map_eq_some_iff.mp read
      exact ⟨by rw [pushed]; rfl, trivial⟩
  case key members draft =>
    simp only [step, State.inside] at read ⊢
    split_ifs at read ⊢
    · cases read
      exact ⟨rfl, trivial⟩
    · obtain ⟨longer, pushed, rfl⟩ := Option.map_eq_some_iff.mp read
      exact ⟨by rw [pushed]; rfl, trivial⟩
  all_goals
    simp only [step, State.inside] at read ⊢
    split_ifs at read ⊢ <;> cases read <;> exact ⟨rfl, trivial⟩

/-- Reading on does not depend on what is open around the text. -/
theorem foldlM_step_inside {text : List Char} (sound : state.IsSound)
    (read : text.foldlM step state = some next) (outer : List Frame) :
    text.foldlM step (state.inside outer) = some (next.inside outer) := by
  induction text generalizing state with
  | nil =>
    cases read
    rfl
  | cons character rest inductionHypothesis =>
    rw [List.foldlM_cons] at read ⊢
    obtain ⟨middle, first, others⟩ := Option.bind_eq_some_iff.mp read
    obtain ⟨firstInside, soundMiddle⟩ := step_inside sound first outer
    rw [firstInside]
    exact inductionHypothesis soundMiddle others

end

/-! ### Texts that stand inside others -/

/-- A value has been read and nothing after it: it has ended, or is a number that may end here. -/
inductive Ended (stack : List Frame) : Tree → State → Prop
  | value (tree : Tree) : Ended stack tree ⟨stack, .after tree⟩
  | number {draft : NumberDraft} {numeral : Numeral} (finished : draft.finish? = some numeral) :
    Ended stack (.number numeral) ⟨stack, .number draft⟩

/-- The text says this wherever a value may stand. -/
def Tells (text : List Char) (tree : Tree) : Prop :=
  ∀ stack, ∃ state, text.foldlM step ⟨stack, .value⟩ = some state ∧ Ended stack tree state

/-- One of the marks that stand after a value inside others. -/
def IsMark (character : Char) : Prop :=
  character = ',' ∨ character = ']' ∨ character = '}'

section

variable {stack : List Frame} {tree : Tree} {state : State} {text : List Char} {character : Char}

theorem finish?_eq_some_iff : state.finish? = some tree ↔ Ended [] tree state := by
  constructor
  · intro finished
    obtain ⟨stack, place⟩ := state
    rcases stack with _ | ⟨frame, stack⟩
    · cases place
      case after tree =>
        cases finished
        exact .value tree
      case number draft =>
        obtain ⟨numeral, drafted, rfl⟩ := Option.map_eq_some_iff.mp finished
        exact .number drafted
      all_goals cases finished
    · cases finished
  · rintro (_ | finished)
    · rfl
    · exact Option.map_eq_some_iff.mpr ⟨_, finished, rfl⟩

theorem Ended.inside (ended : Ended stack tree state) (outer : List Frame) :
    Ended (stack ++ outer) tree (state.inside outer) := by
  rcases ended with _ | finished
  · exact .value tree
  · exact .number finished

/-- What a text says does not depend on where it stands. -/
theorem tells_iff {text : String} : Tells text.toList tree ↔ Tree.parse? text = some tree := by
  constructor
  · intro told
    obtain ⟨state, read, ended⟩ := told []
    exact Option.bind_eq_some_iff.mpr ⟨state, read, finish?_eq_some_iff.mpr ended⟩
  · intro parsed stack
    obtain ⟨state, read, finished⟩ := Option.bind_eq_some_iff.mp parsed
    have sound : State.start.IsSound := trivial
    exact ⟨state.inside stack, foldlM_step_inside sound read stack,
      (finish?_eq_some_iff.mp finished).inside stack⟩

/-- No mark belongs to a number. -/
theorem push?_mark (draft : NumberDraft) (mark : IsMark character) :
    draft.push? character = none := by
  obtain ⟨place, _⟩ := draft
  rcases mark with rfl | rfl | rfl <;> cases place <;> rfl

/-- A mark after a value acts on what is open, also where the value is a number. -/
theorem Ended.step_mark (ended : Ended stack tree state) (mark : IsMark character) :
    step state character = afterValue stack tree character := by
  rcases ended with _ | finished
  · rfl
  · simp only [step, push?_mark _ mark, finished]

theorem Tells.foldlM_append (told : Tells text tree) (mark : IsMark character)
    (stack : List Frame) :
    (text ++ [character]).foldlM step ⟨stack, .value⟩ = afterValue stack tree character := by
  obtain ⟨state, read, ended⟩ := told stack
  rw [List.foldlM_append, read, Option.bind_eq_bind, Option.bind_some, List.foldlM_cons,
    ended.step_mark mark]
  exact bind_pure _

/-! ### Arrays and objects -/

/-- A text is read in the same way from another state if that state takes every character alike, and
stays where it is as long as the first one does. -/
theorem foldlM_step_alike {other : State} (alike : ∀ character next,
      step state character = some next →
        (next = state ∧ step other character = some other) ∨ step other character = some next)
    {last : State} (read : text.foldlM step state = some last) (moved : last ≠ state) :
    text.foldlM step other = some last := by
  induction text with
  | nil =>
    cases read
    exact absurd rfl moved
  | cons character rest inductionHypothesis =>
    rw [List.foldlM_cons] at read ⊢
    obtain ⟨next, first, others⟩ := Option.bind_eq_some_iff.mp read
    rcases alike character next first with ⟨rfl, stays⟩ | same
    · rw [stays]
      exact inductionHypothesis others
    · rw [same]
      exact others

/-- The first item of an array is read like any other. -/
theorem step_firstItem {next : State} (read : step ⟨stack, .value⟩ character = some next) :
    (next = ⟨stack, .value⟩ ∧ step ⟨stack, .firstItem⟩ character = some ⟨stack, .firstItem⟩) ∨
      step ⟨stack, .firstItem⟩ character = some next := by
  by_cases skipped : isSkipped character = true
  · simp only [step, skipped, if_true] at read ⊢
    exact .inl ⟨(Option.some.inj read).symm, trivial⟩
  · have open_ : character ≠ ']' := by
      rintro rfl
      cases read
    right
    simpa [step, skipped, open_] using read

/-- The first key of an object is read like any other. -/
theorem step_firstKey {members : List (Option String × Tree)} {next : State}
    (read : step ⟨stack, .nextKey members⟩ character = some next) :
    (next = ⟨stack, .nextKey members⟩ ∧
        step ⟨stack, .firstKey members⟩ character = some ⟨stack, .firstKey members⟩) ∨
      step ⟨stack, .firstKey members⟩ character = some next := by
  by_cases skipped : isSkipped character = true
  · simp only [step, skipped, if_true] at read ⊢
    exact .inl ⟨(Option.some.inj read).symm, trivial⟩
  · have open_ : character ≠ '}' := by
      rintro rfl
      cases read
    right
    simpa [step, skipped, open_] using read

/-- Parts between commas are read one by one, and the mark that closes them comes last. What is
`held` so far stands in reverse. -/
theorem foldlM_intercalate {Part : Type} (held closed : List Part → State) {closing : Char}
    {texts : List (List Char)} {parts : List Part} (some_part : parts ≠ [])
    (each : List.Forall₂ (fun text part => ∀ before,
      (text ++ [',']).foldlM step (held before) = some (held (part :: before)) ∧
      (text ++ [closing]).foldlM step (held before) = some (closed (part :: before))) texts parts)
    (before : List Part) :
    ([','].intercalate texts ++ [closing]).foldlM step (held before) =
      some (closed (parts.reverse ++ before)) := by
  induction each generalizing before with
  | nil => exact absurd rfl some_part
  | @cons text part texts parts first rest inductionHypothesis =>
    rcases rest with _ | ⟨second, others⟩
    · rw [List.intercalate_singleton]
      exact (first before).2
    · rw [List.intercalate_cons_cons, List.append_assoc, List.foldlM_append,
        (first before).1, List.reverse_cons, List.append_assoc]
      exact inductionHypothesis (List.cons_ne_nil _ _) (part :: before)

theorem tells_array {texts : List (List Char)} {items : List Tree}
    (each : List.Forall₂ Tells texts items) :
    Tells ('[' :: ([','].intercalate texts ++ [']'])) (.array items) := by
  intro stack
  refine ⟨_, ?_, .value _⟩
  rw [List.foldlM_cons]
  show List.foldlM step ⟨.array [] :: stack, .firstItem⟩ _ = _
  rcases items with _ | ⟨item, items⟩
  · cases each
    rfl
  have read := foldlM_intercalate (fun before => ⟨.array before :: stack, .value⟩)
    (fun before => ⟨stack, .after (.array before.reverse)⟩) (List.cons_ne_nil item items)
    (each.imp fun text tree told before =>
      ⟨told.foldlM_append (.inl rfl) _, told.foldlM_append (.inr (.inl rfl)) _⟩) []
  rw [foldlM_step_alike (fun _ _ => step_firstItem) read (by simp)]
  simp

/-- The text says this where a member of an object may stand. -/
def TellsMember (text : List Char) (member : Option String × Tree) : Prop :=
  ∀ stack members, ∃ state, text.foldlM step ⟨stack, .nextKey members⟩ = some state ∧
    Ended (.object members member.1 :: stack) member.2 state

theorem TellsMember.foldlM_append {member : Option String × Tree} (told : TellsMember text member)
    (mark : IsMark character) (stack : List Frame) (members : List (Option String × Tree)) :
    (text ++ [character]).foldlM step ⟨stack, .nextKey members⟩ =
      afterValue (.object members member.1 :: stack) member.2 character := by
  obtain ⟨state, read, ended⟩ := told stack members
  rw [List.foldlM_append, read, Option.bind_eq_bind, Option.bind_some, List.foldlM_cons,
    ended.step_mark mark]
  exact bind_pure _

theorem tells_object {texts : List (List Char)} {members : List (Option String × Tree)}
    (each : List.Forall₂ TellsMember texts members) :
    Tells ('{' :: ([','].intercalate texts ++ ['}'])) (.object members) := by
  intro stack
  refine ⟨_, ?_, .value _⟩
  rw [List.foldlM_cons]
  show List.foldlM step ⟨stack, .firstKey []⟩ _ = _
  rcases members with _ | ⟨member, members⟩
  · cases each
    rfl
  have read := foldlM_intercalate (fun before => ⟨stack, .nextKey before⟩)
    (fun before => ⟨stack, .after (.object before.reverse)⟩) (List.cons_ne_nil member members)
    (each.imp fun text member told before =>
      ⟨told.foldlM_append (.inl rfl) _ _, told.foldlM_append (.inr (.inr rfl)) _ _⟩) []
  rw [foldlM_step_alike (fun _ _ => step_firstKey) read (by simp)]
  simp

end

end Reader

end Triage.Json
