/-
This file proves when a value is recovered from its text. What a text says is read in the same way
at every depth that leaves room enough, so a record is recovered when each of its fields is: the
reader finds every field under its name, and the way the field is read gives back what was written.

Doubles and singles are recovered where their digits read back. The reader takes as many digits as
64 bits hold and scales them by a power of ten, so that not every number is recovered, and this is
asked of each number that is written. Strings and whole numbers need no such assumption.

What is not finite has no form and is written as null. Where null is refused, what is recovered is that
nothing can be read.
-/

import Triage.Proofs.Json.Writing

namespace Triage.Json

/-! ### Numbers -/

deriving instance DecidableEq for Number

namespace Number

/-- The number that a text says. -/
def ofText? (text : String) : Option Number :=
  match Tree.parse? text with
  | some (.number numeral) => numeral.value?
  | _ => none

/-- A double or a single is read back from its text. Nothing is asked of whole numbers, which are
read back digit by digit. -/
def ReadsBack : Number → Prop
  | .whole _ => True
  | .real value => ofText? (Number.real value).render = some (.real value)
  | .single value => Reading.run? Reading.single (Number.single value).render = some value

instance : DecidablePred ReadsBack
  | .whole _ => inferInstanceAs (Decidable True)
  | .real _ => inferInstanceAs (Decidable (_ = _))
  | .single _ => inferInstanceAs (Decidable (_ = _))

/-- Three tenths read back, and one eleventh does not. -/
example : (Number.real 0.3).ReadsBack ∧ ¬ (Number.real (1 / 11)).ReadsBack := by
  decide +kernel

theorem ofText?_eq_some_iff {text : String} {number : Number} :
    ofText? text = some number ↔
      ∃ numeral, Tree.parse? text = some (.number numeral) ∧ numeral.value? = some number := by
  unfold ofText?
  split
  case h_1 numeral parsed =>
    rw [parsed]
    simp
  case h_2 other =>
    simp only [reduceCtorEq, false_iff]
    rintro ⟨numeral, parsed, -⟩
    exact other numeral parsed

end Number

/-! ### Values that are recovered -/

/-- What the text of a value says. -/
def tree (json : Json) : Tree :=
  (Tree.parse? json.render).getD .null

theorem IsTold.tree_eq {json : Json} {tree : Tree} (told : IsTold json tree) :
    json.tree = tree := by
  rw [Json.tree, Reader.tells_iff.mp told, Option.getD_some]

theorem IsTold.of_tree {json : Json} {tree : Tree} (told : IsTold json tree) :
    IsTold json json.tree :=
  told.tree_eq.symm ▸ told

/-- The value is read back from the text of a JSON value, if so many more arrays and objects may
be opened. -/
structure Reading.Recovers {Value : Type} (reading : Reading Value) (depth : Nat) (json : Json)
    (value : Value) : Prop where
  told : IsTold json json.tree
  read : ∀ {nesting}, depth ≤ nesting → reading nesting json.tree = some value

section

variable {Value : Type} {reading : Reading Value} {depth : Nat} {json : Json} {value : Value}

theorem IsTold.recovers {tree : Tree} (told : IsTold json tree)
    (read : ∀ nesting, depth ≤ nesting → reading nesting tree = some value) :
    reading.Recovers depth json value :=
  ⟨told.of_tree, fun enough => told.tree_eq.symm ▸ read _ enough⟩

theorem Reading.Recovers.run? (recovers : reading.Recovers depth json value)
    (enough : depth ≤ nestingLimit) : reading.run? json.render = some value :=
  Option.bind_eq_some_iff.mpr ⟨json.tree, Reader.tells_iff.mp recovers.told, recovers.read enough⟩

theorem Reading.Recovers.map {Other : Type} (recovers : reading.Recovers depth json value)
    (change : Value → Other) :
    Reading.Recovers (fun nesting tree => (reading nesting tree).map change) depth json
      (change value) :=
  ⟨recovers.told, fun enough => by rw [recovers.read enough, Option.map_some]⟩

end

namespace Reading

/-! ### Texts that may be refused -/

/-- What a way to read finds, which may be nothing. -/
def orRefusal {Value : Type} (reading : Reading Value) : Reading (Option Value) :=
  fun nesting tree => some (reading nesting tree)

section

variable {Value : Type} {reading : Reading Value} {depth : Nat} {json : Json}

theorem Recovers.run?_eq {found : Option Value} (recovers : reading.orRefusal.Recovers depth json found)
    (enough : depth ≤ nestingLimit) : reading.run? json.render = found := by
  unfold Reading.run?
  rw [Reader.tells_iff.mp recovers.told, Option.bind_some]
  exact Option.some.inj (recovers.read enough)

theorem Recovers.of_orRefusal {value : Value}
    (recovers : reading.orRefusal.Recovers depth json (some value)) :
    reading.Recovers depth json value :=
  ⟨recovers.told, fun enough => Option.some.inj (recovers.read enough)⟩

end

/-! ### Single values -/

theorem recovers_text (value : String) : text.Recovers 0 (.text value) value :=
  IsTold.recovers (tells_quote value) fun _ _ => rfl

theorem recovers_named {Value : Type} {ofName? : String → Option Value} {name : String}
    {value : Value} (known : ofName? name = some value) :
    (named ofName?).Recovers 0 (.text name) value :=
  IsTold.recovers (tells_quote name) fun _ _ => known

theorem recovers_choice {Value : Type} {ofName? : String → Option Value} {name : String}
    {value : Value} (known : ofName? name = some value) :
    (choice ofName?).Recovers 0 (.text name) value :=
  IsTold.recovers (tells_quote name) fun _ _ => known

theorem recovers_bool (value : Bool) : bool.Recovers 0 (.bool value) value :=
  IsTold.recovers (tells_bool value) fun _ _ => rfl

/-- A whole number below a bound of at most 64 bits. -/
theorem recovers_below {bound value : Nat} (small : value < bound) (held : bound ≤ wordLimit) :
    (below bound).Recovers 0 (.ofNat value) value := by
  obtain ⟨numeral, tells, means⟩ := @tells_whole value (by omega) (by omega)
  have told : IsTold (.ofNat value) (.number numeral) := tells
  refine told.recovers fun nesting _ => ?_
  simp [below, means, small]

theorem recovers_word32 (value : UInt32) : word32.Recovers 0 (.ofNat value.toNat) value := by
  have recovers := recovers_below value.toNat_lt (by decide : UInt32.size ≤ wordLimit)
  refine ⟨recovers.told, fun enough => ?_⟩
  rw [word32, recovers.read enough, Option.map_some, UInt32.ofNat_toNat]

theorem recovers_word64 {value : Nat} (held : value < wordLimit) :
    word64.Recovers 0 (.ofNat value) value :=
  recovers_below held le_rfl

theorem recovers_double {value : Float} (finite : value.isFinite)
    (readsBack : (Number.real value).ReadsBack) : double.Recovers 0 (.ofFloat value) value := by
  obtain ⟨numeral, parsed, means⟩ := Number.ofText?_eq_some_iff.mp readsBack
  have told : IsTold (.ofFloat value) (.number numeral) := by
    rw [ofFloat, if_pos finite]
    exact Reader.tells_iff.mpr parsed
  refine told.recovers fun nesting _ => ?_
  simp [double, means]

theorem recovers_single {value : Float32} (finite : value.isFinite)
    (readsBack : (Number.single value).ReadsBack) :
    single.Recovers 0 (.ofSingle value) value := by
  obtain ⟨tree, parsed, read⟩ := Option.bind_eq_some_iff.mp readsBack
  have told : IsTold (.ofSingle value) tree := by
    rw [ofSingle, if_pos finite]
    exact Reader.tells_iff.mpr parsed
  refine told.recovers fun nesting _ => ?_
  cases tree <;> exact read

/-- A single that is not finite is written as null, which is no single. -/
theorem recovers_orRefusal_single {value : Float32}
    (readsBack : value.isFinite → (Number.single value).ReadsBack) :
    single.orRefusal.Recovers 0 (.ofSingle value) (if value.isFinite then some value else none) := by
  split
  · rename_i finite
    have recovers := recovers_single finite (readsBack finite)
    exact ⟨recovers.told, fun enough => congrArg some (recovers.read enough)⟩
  · rename_i infinite
    rw [ofSingle, if_neg infinite]
    exact IsTold.recovers tells_null fun _ _ => rfl

/-! ### Values made of values -/

theorem recovers_texts (values : List String) :
    (list text).Recovers 1 (.ofTexts values) values := by
  have told : IsTold (.ofTexts values) (.array (values.map fun value => .text (some value))) := by
    refine isTold_array ?_
    rw [List.forall₂_map_left_iff, List.forall₂_map_right_iff, List.forall₂_same]
    exact fun value _ => tells_quote value
  refine told.recovers fun nesting enough => ?_
  obtain ⟨nesting, rfl⟩ := Nat.exists_eq_add_of_le' enough
  show (values.map fun value => Tree.text (some value)).mapM (text nesting) = some values
  clear told
  induction values with
  | nil => rfl
  | cons value rest inductionHypothesis => simp [inductionHypothesis, text]

theorem recovers_null {Value : Type} (reading : Reading Value) :
    reading.nullable.Recovers 0 .null none :=
  IsTold.recovers tells_null fun _ _ => rfl

/-- A value that is found is no null. -/
theorem nullable_eq_some {Value : Type} {reading : Reading Value} {nesting : Nat} {tree : Tree}
    {value : Value} (refuses : reading nesting .null = none)
    (reads : reading nesting tree = some value) :
    reading.nullable nesting tree = some (some value) := by
  cases tree with
  | null => exact nomatch refuses.symm.trans reads
  | _ => exact congrArg (Option.map some) reads

/-- A value that may be missing is recovered if null is no such value. -/
theorem Recovers.nullable {Value : Type} {reading : Reading Value} {depth : Nat} {json : Json}
    {value : Value} (recovers : reading.Recovers depth json value)
    (refuses : ∀ nesting, reading nesting .null = none) :
    reading.nullable.Recovers depth json (some value) :=
  ⟨recovers.told, fun enough => nullable_eq_some (refuses _) (recovers.read enough)⟩

end Reading

/-! ### Records -/

namespace Fields

theorem get?_of_mem {fields : Fields} {name : String} {tree : Tree}
    (distinct : (fields.found.map (·.1)).Nodup) (mem : (name, tree) ∈ fields.found) :
    fields.get? name = some tree := by
  obtain ⟨nesting, isNamed, found⟩ := fields
  induction found with
  | nil => cases mem
  | cons first rest inductionHypothesis =>
    rw [List.map_cons, List.nodup_cons] at distinct
    rcases List.mem_cons.mp mem with rfl | later
    · simp [get?]
    · have other : first.1 ≠ name := fun same =>
        distinct.1 (same ▸ List.mem_map_of_mem later)
      simpa [get?, other] using inductionHypothesis distinct.2 later

theorem get?_eq_none {fields : Fields} {name : String}
    (absent : ∀ field ∈ fields.found, field.1 ≠ name) : fields.get? name = none := by
  have missing : fields.found.find? (·.1 == name) = none :=
    List.find?_eq_none.mpr fun field mem same => absent field mem (beq_iff_eq.mp same)
  rw [get?, missing, Option.map_none]

theorem keyed?_map (members : List (String × Tree)) :
    keyed? (members.map fun member => (some member.1, member.2)) = some members := by
  unfold keyed?
  induction members with
  | nil => rfl
  | cons first rest inductionHypothesis =>
    rw [List.map_cons, List.mapM_cons, inductionHypothesis]
    rfl

/-- The fields of an object are those of its members that have a name of the record, if none of these is
repeated. -/
theorem read?_members {names : List String} {members : List (String × Tree)}
    (distinct : ((members.filter fun member => names.contains member.1).map (·.1)).Nodup)
    (nesting : Nat) :
    read? names (nesting + 1) (.object (members.map fun member => (some member.1, member.2))) =
      some ⟨nesting, true, members.filter fun member => names.contains member.1⟩ := by
  show (keyed? _).bind (fun keyed => _) = _
  rw [keyed?_map, Option.bind_some]
  exact if_pos distinct

/-- An object with distinct keys is a record with the fields of these names. -/
theorem read?_object {found : List (String × Tree)} (distinct : (found.map (·.1)).Nodup)
    (nesting : Nat) :
    read? (found.map (·.1)) (nesting + 1)
        (.object (found.map fun field => (some field.1, field.2))) =
      some ⟨nesting, true, found⟩ := by
  have known : found.filter (fun field => (found.map (·.1)).contains field.1) = found :=
    List.filter_eq_self.2 fun field mem => List.contains_iff_mem.mpr (List.mem_map_of_mem mem)
  rw [read?_members (known.symm ▸ distinct), known]

end Fields

/-- An object says what its members say. -/
theorem isTold_object_trees {members : List (String × Json)}
    (told : ∀ member ∈ members, IsTold member.2 member.2.tree) :
    IsTold (.object members)
      (.object (members.map fun member => (some member.1, member.2.tree))) := by
  refine isTold_object ?_
  rw [List.forall₂_map_right_iff, List.forall₂_same]
  exact fun member mem => ⟨rfl, told member mem⟩

/-- A record is recovered if every field says something, and the fields found under their names
make the record. -/
theorem recovers_record {Value : Type} {reading : Reading Value} {depth : Nat}
    {members : List (String × Json)} {value : Value} (distinct : (members.map (·.1)).Nodup)
    (told : ∀ member ∈ members, IsTold member.2 member.2.tree)
    (read : ∀ fields nesting tree, Fields.read? (members.map (·.1)) nesting tree = some fields →
      (∀ member ∈ members, fields.get? member.1 = some member.2.tree) →
      depth ≤ fields.nesting → reading nesting tree = some value) :
    reading.Recovers (depth + 1) (.object members) value := by
  refine (isTold_object_trees told).recovers fun nesting enough => ?_
  obtain ⟨nesting, rfl⟩ : ∃ rest, nesting = rest + 1 := ⟨nesting - 1, by omega⟩
  let found := members.map fun member => (member.1, member.2.tree)
  have names : found.map (·.1) = members.map (·.1) := by simp [found]
  have fieldsFound := Fields.read?_object (names ▸ distinct) nesting
  rw [names, List.map_map] at fieldsFound
  refine read _ _ _ fieldsFound (fun member mem => ?_) (Nat.le_of_succ_le_succ enough)
  exact Fields.get?_of_mem (names ▸ distinct) (List.mem_map_of_mem mem)

end Triage.Json
