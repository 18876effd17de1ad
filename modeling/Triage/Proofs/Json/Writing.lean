/-
This file proves that the reader finds in a written text what has been written: a string whatever
characters it holds, a whole number of 64 bits digit by digit, and arrays and objects when it finds
their parts.
-/

import Mathlib.Data.Nat.Digits.Defs
import Mathlib.Tactic.IntervalCases
import Triage.Proofs.Json.Inside

namespace Triage.Json

open Reader

/-! ### Strings -/

namespace Reader.StringDraft

/-- A string under way that waits for nothing. -/
def holding (characters : List Char) : StringDraft :=
  ⟨characters.reverse, none, false, .outside⟩

/-- The string with one more character, unless that ends the string. -/
def within? (draft : StringDraft) (character : Char) : Option StringDraft :=
  if draft.isOpen && character == '"' then none else draft.push? character

variable {characters : List Char}

theorem hexValue?_hexDigit : ∀ value < 16, hexValue? (hexDigit value) = some value := by
  decide

/-- The escape of a control character is read back. -/
theorem foldlM_unicodeEscape {character : Char} (control : character.toNat < 32) :
    (unicodeEscape character).foldlM within? (holding characters) =
      some (holding (characters ++ [character])) := by
  have high := hexValue?_hexDigit (character.toNat / 16) (by omega)
  have low := hexValue?_hexDigit (character.toNat % 16) (by omega)
  have whole : character.toNat / 16 * 16 + character.toNat % 16 = character.toNat := by omega
  have zero : hexValue? '0' = some 0 := by decide
  simp [unicodeEscape, within?, push?, isOpen, holding, high, low, zero, whole, appendUnit, append,
    show ¬ 0xd800 ≤ character.toNat by omega, show ¬ 0xdc00 ≤ character.toNat by omega]

/-- A letter behind a backslash is read as the character that it stands for. -/
theorem foldlM_letterEscape {letter character : Char} (known : escaped? letter = some character)
    (short : letter ≠ 'u') :
    ['\\', letter].foldlM within? (holding characters) =
      some (holding (characters ++ [character])) := by
  simp [within?, push?, isOpen, holding, short, known, append]

theorem foldlM_visible {character : Char} (visible : 32 ≤ character.toNat)
    (quotation : character ≠ '"') (backslash : character ≠ '\\') :
    [character].foldlM within? (holding characters) =
      some (holding (characters ++ [character])) := by
  have uncontrolled : ¬ character.toNat < 32 := Nat.not_lt.mpr visible
  simp [within?, push?, isOpen, holding, append, quotation, backslash, uncontrolled]

/-- A character is read back from the way it is written inside quotation marks. -/
theorem foldlM_escape (character : Char) :
    (Json.escape character).foldlM within? (holding characters) =
      some (holding (characters ++ [character])) := by
  unfold Json.escape
  split_ifs with quotation backslash visible newLine carriage tab back feed
  · subst quotation
    exact foldlM_letterEscape rfl (by decide)
  · subst backslash
    exact foldlM_letterEscape rfl (by decide)
  · exact foldlM_visible visible quotation backslash
  · exact foldlM_letterEscape (newLine ▸ rfl) (by decide)
  · exact foldlM_letterEscape (carriage ▸ rfl) (by decide)
  · exact foldlM_letterEscape (tab ▸ rfl) (by decide)
  · have known : '\x08' = character := by rw [← character.ofNat_toNat, back]
    exact foldlM_letterEscape (known ▸ rfl) (by decide)
  · have known : '\x0c' = character := by rw [← character.ofNat_toNat, feed]
    exact foldlM_letterEscape (known ▸ rfl) (by decide)
  · exact foldlM_unicodeEscape (by omega)

theorem foldlM_flatMap_escape (text characters : List Char) :
    (text.flatMap Json.escape).foldlM within? (holding characters) =
      some (holding (characters ++ text)) := by
  induction text generalizing characters with
  | nil => simp
  | cons character rest inductionHypothesis =>
    rw [List.flatMap_cons, List.foldlM_append, foldlM_escape]
    exact (inductionHypothesis (characters ++ [character])).trans (by simp)

theorem finish_holding (characters : List Char) :
    (holding characters).finish = some (String.ofList characters) := by
  simp [finish, holding]

end Reader.StringDraft

section

open StringDraft

/-- The place passes characters on to the string under way, until that ends. -/
def PassesOn (place : StringDraft → State) (closed : Option String → State) : Prop :=
  ∀ draft character, step (place draft) character =
    if draft.isOpen && character == '"' then some (closed draft.finish)
    else (draft.push? character).map place

variable {place : StringDraft → State} {closed : Option String → State}

theorem PassesOn.foldlM_within (passes : PassesOn place closed) {text : List Char}
    {draft longer : StringDraft} (read : text.foldlM within? draft = some longer) :
    text.foldlM step (place draft) = some (place longer) := by
  induction text generalizing draft with
  | nil =>
    cases read
    rfl
  | cons character rest inductionHypothesis =>
    rw [List.foldlM_cons] at read ⊢
    obtain ⟨middle, first, others⟩ := Option.bind_eq_some_iff.mp read
    unfold within? at first
    split_ifs at first with ends
    rw [passes, if_neg ends, first]
    exact inductionHypothesis others

/-- What stands behind the first quotation mark of a written string is read as the string. -/
theorem PassesOn.foldlM_quoted (passes : PassesOn place closed) (text : String) :
    (text.toList.flatMap escape ++ ['"']).foldlM step (place .empty) =
      some (closed (some text)) := by
  have read := passes.foldlM_within (foldlM_flatMap_escape text.toList [])
  have ends : step (place (holding text.toList)) '"' = some (closed (some text)) := by
    rw [passes, if_pos (by rfl), finish_holding, String.ofList_toList]
  rw [List.foldlM_append, show StringDraft.empty = holding [] from rfl, read, List.nil_append,
    Option.bind_eq_bind, Option.bind_some, List.foldlM_cons, ends]
  rfl

theorem passesOn_text (stack : List Frame) :
    PassesOn (fun draft => ⟨stack, .text draft⟩) (fun text => ⟨stack, .after (.text text)⟩) :=
  fun _ _ => rfl

theorem passesOn_key (stack : List Frame) (members : List (Option String × Tree)) :
    PassesOn (fun draft => ⟨stack, .key members draft⟩) (fun key => ⟨stack, .colon members key⟩) :=
  fun _ _ => rfl

end

theorem tells_quote (text : String) : Tells (quote text).toList (.text (some text)) := by
  intro stack
  refine ⟨_, ?_, .value _⟩
  rw [quote, String.toList_ofList, List.cons_append, List.foldlM_cons]
  exact (passesOn_text stack).foldlM_quoted text

/-- A key and a value make a member. -/
theorem tellsMember {key : String} {value : List Char} {tree : Tree} (told : Tells value tree) :
    TellsMember ((quote key).toList ++ ':' :: value) (some key, tree) := by
  intro stack members
  obtain ⟨state, read, ended⟩ := told (.object members (some key) :: stack)
  refine ⟨state, ?_, ended⟩
  have named : (quote key).toList.foldlM step ⟨stack, .nextKey members⟩ =
      some ⟨stack, .colon members (some key)⟩ := by
    rw [quote, String.toList_ofList, List.cons_append, List.foldlM_cons]
    exact (passesOn_key stack members).foldlM_quoted key
  rw [List.foldlM_append, named]
  exact read

/-! ### Words and whole numbers -/

theorem tells_null : Tells "null".toList .null :=
  fun stack => ⟨⟨stack, .after .null⟩, rfl, .value _⟩

theorem tells_bool (value : Bool) :
    Tells (if value then "true" else "false").toList (.bool value) := by
  intro stack
  refine ⟨⟨stack, .after (.bool value)⟩, ?_, .value _⟩
  cases value <;> rfl

theorem digit?_digitChar : ∀ digit < 10, NumberDraft.digit? digit.digitChar = some digit := by
  decide

/-- The digits of a positive number are read one by one, whatever sign has been read. -/
theorem foldlM_toDigits {begun : State} {stack : List Frame} {negative : Bool}
    (first : ∀ digit, 0 < digit → digit < 10 → step begun digit.digitChar =
      some ⟨stack, .number ⟨.whole, negative, [digit], [], false, 0⟩⟩)
    {number : Nat} (positive : 0 < number) :
    (Nat.toDigits 10 number).foldlM step begun =
      some ⟨stack, .number ⟨.whole, negative, Nat.digits 10 number, [], false, 0⟩⟩ := by
  induction number using Nat.strongRecOn with
  | ind number inductionHypothesis =>
    by_cases small : number < 10
    · rw [Nat.toDigits_of_lt_base small, Nat.digits_of_lt 10 number (by omega) small,
        List.foldlM_cons, first number positive small]
      rfl
    · have read := inductionHypothesis (number / 10) (by omega) (by omega)
      have last := digit?_digitChar (number % 10) (by omega)
      rw [Nat.toDigits_of_base_le (by omega) (by omega), Nat.digits_def' (by omega) positive,
        List.foldlM_append, read]
      simp [step, NumberDraft.push?, last]

/-- A number as it is written by its digits. -/
def Numeral.ofDigits (negative : Bool) (number : Nat) : Numeral :=
  ⟨negative, (Nat.digits 10 number).reverse, [], false, 0⟩

theorem Numeral.magnitude_ofDigits (negative : Bool) (number : Nat) :
    (Numeral.ofDigits negative number).magnitude = number := by
  have written : Nat.ofDigits 10 (Nat.digits 10 number) = number := Nat.ofDigits_digits 10 number
  rw [Nat.ofDigits_eq_foldr] at written
  conv_rhs => rw [← written]
  simp [magnitude, ofDigits, List.foldl_reverse, add_comm, mul_comm]

theorem Numeral.value?_ofDigits_false {number : Nat} (held : number < wordLimit) :
    (Numeral.ofDigits false number).value? = some (.whole number) := by
  simp only [value?, magnitude_ofDigits]
  simp [ofDigits, held]

theorem Numeral.value?_ofDigits_true {number : Nat} (positive : 0 < number)
    (held : number ≤ wordLimit / 2) :
    (Numeral.ofDigits true number).value? = some (.whole (-number)) := by
  simp only [value?, magnitude_ofDigits]
  simp [ofDigits, held, positive.ne']

theorem tells_toDigits {number : Nat} (positive : 0 < number) :
    Tells (Nat.toDigits 10 number) (.number (.ofDigits false number)) := by
  intro stack
  refine ⟨_, foldlM_toDigits (fun digit _ _ => ?_) positive, .number rfl⟩
  interval_cases digit <;> rfl

theorem tells_minus_toDigits {number : Nat} (positive : 0 < number) :
    Tells ('-' :: Nat.toDigits 10 number) (.number (.ofDigits true number)) := by
  intro stack
  refine ⟨⟨stack, .number ⟨.whole, true, Nat.digits 10 number, [], false, 0⟩⟩, ?_, .number rfl⟩
  rw [List.foldlM_cons]
  refine foldlM_toDigits (fun digit _ _ => ?_) positive
  interval_cases digit <;> rfl

/-- A whole number of 64 bits is read back from its digits. -/
theorem tells_whole {value : Int} (least : -(wordLimit / 2 : Nat) ≤ value)
    (most : value < wordLimit) :
    ∃ numeral, Tells (toString value).toList (.number numeral) ∧
      numeral.value? = some (.whole value) := by
  rcases value with number | number
  · rcases number.eq_zero_or_pos with rfl | positive
    · exact ⟨⟨false, [0], [], false, 0⟩, fun stack => ⟨_, rfl, .number rfl⟩, rfl⟩
    · exact ⟨.ofDigits false number, String.toList_ofList ▸ tells_toDigits positive,
        Numeral.value?_ofDigits_false (Int.ofNat_lt.mp most)⟩
  · have written : (toString (Int.negSucc number)).toList =
        '-' :: Nat.toDigits 10 (number + 1) := by
      show ("-" ++ String.ofList (Nat.toDigits 10 (number + 1))).toList = _
      rw [String.toList_append, String.toList_ofList, String.toList_ofList, List.singleton_append]
    refine ⟨.ofDigits true (number + 1), written ▸ tells_minus_toDigits number.succ_pos, ?_⟩
    rw [Numeral.value?_ofDigits_true number.succ_pos (by omega)]
    rfl

/-! ### Arrays and objects -/

/-- The text of a value says this. -/
def IsTold (value : Json) (tree : Tree) : Prop :=
  Tells value.render.toList tree

theorem renderItems_eq_map (items : List Json) : renderItems items = items.map render := by
  induction items with
  | nil => rfl
  | cons item rest inductionHypothesis => rw [renderItems, inductionHypothesis, List.map_cons]

theorem renderMembers_eq_map (members : List (String × Json)) :
    renderMembers members = members.map fun member => quote member.1 ++ ":" ++ render member.2 := by
  induction members with
  | nil => rfl
  | cons member rest inductionHypothesis => rw [renderMembers, inductionHypothesis, List.map_cons]

/-- An array says what its items say. -/
theorem isTold_array {items : List Json} {trees : List Tree}
    (each : List.Forall₂ IsTold items trees) : IsTold (.array items) (.array trees) := by
  have parts : List.Forall₂ Tells ((renderItems items).map String.toList) trees := by
    rw [renderItems_eq_map, List.map_map]
    exact List.forall₂_map_left_iff.mpr each
  have text : (render (.array items)).toList =
      '[' :: ([','].intercalate ((renderItems items).map String.toList) ++ [']']) := by
    rw [render]
    simp [String.toList_append, String.toList_intercalate]
  unfold IsTold
  rw [text]
  exact tells_array parts

/-- An object says what its members say, under their keys. -/
theorem isTold_object {members : List (String × Json)} {trees : List (Option String × Tree)}
    (each : List.Forall₂ (fun member tree => tree.1 = some member.1 ∧ IsTold member.2 tree.2)
      members trees) : IsTold (.object members) (.object trees) := by
  have parts : List.Forall₂ TellsMember ((renderMembers members).map String.toList) trees := by
    rw [renderMembers_eq_map, List.map_map]
    refine List.forall₂_map_left_iff.mpr (each.imp ?_)
    rintro ⟨key, value⟩ ⟨name, tree⟩ ⟨named, told⟩
    cases named
    have text : (quote key ++ ":" ++ render value).toList =
        (quote key).toList ++ ':' :: (render value).toList := by
      simp [String.toList_append]
    show TellsMember (quote key ++ ":" ++ render value).toList (some key, tree)
    rw [text]
    exact tellsMember told
  have text : (render (.object members)).toList =
      '{' :: ([','].intercalate ((renderMembers members).map String.toList) ++ ['}']) := by
    rw [render]
    simp [String.toList_append, String.toList_intercalate]
  unfold IsTold
  rw [text]
  exact tells_object parts

end Triage.Json
