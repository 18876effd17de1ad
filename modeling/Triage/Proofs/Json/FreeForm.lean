/-
This file says which free-form values can be held, and proves that they are recovered from their
text. Their numbers are whole numbers of 64 bits and finite doubles, the members of their objects
stand in increasing order of distinct keys, and nesting is bounded.
-/

import Triage.Proofs.Json.Recovery

namespace Triage.Json

/-! ### Free-form values -/

/-- The number stands somewhere in the value. -/
inductive Mentions : Json → Number → Prop
  | number (number : Number) : Mentions (.number number) number
  | item {items : List Json} {item : Json} {number : Number} (mem : item ∈ items)
    (inside : Mentions item number) : Mentions (.array items) number
  | member {members : List (String × Json)} {member : String × Json} {number : Number}
    (mem : member ∈ members) (inside : Mentions member.2 number) : Mentions (.object members) number

section

variable {number : Number}

@[simp] theorem not_mentions_null : ¬ Json.null.Mentions number := nofun

@[simp] theorem not_mentions_bool (value : Bool) : ¬ (Json.bool value).Mentions number := nofun

@[simp] theorem not_mentions_text (value : String) : ¬ (Json.text value).Mentions number := nofun

@[simp] theorem mentions_number_iff {held : Number} :
    (Json.number held).Mentions number ↔ number = held := by
  constructor
  · rintro ⟨⟩
    rfl
  · rintro rfl
    exact .number _

@[simp] theorem mentions_array_iff {items : List Json} :
    (Json.array items).Mentions number ↔ ∃ item ∈ items, item.Mentions number := by
  constructor
  · rintro (_ | ⟨mem, inside⟩)
    exact ⟨_, mem, inside⟩
  · rintro ⟨item, mem, inside⟩
    exact .item mem inside

@[simp] theorem mentions_object_iff {members : List (String × Json)} :
    (Json.object members).Mentions number ↔ ∃ member ∈ members, member.2.Mentions number := by
  constructor
  · rintro (_ | _ | ⟨mem, inside⟩)
    exact ⟨_, mem, inside⟩
  · rintro ⟨member, mem, inside⟩
    exact .member mem inside

@[simp] theorem not_mentions_ofTexts (texts : List String) : ¬ (ofTexts texts).Mentions number := by
  simp [ofTexts]

@[simp] theorem mentions_ofNat_iff {value : Nat} :
    (ofNat value).Mentions number ↔ number = .whole value := mentions_number_iff

@[simp] theorem mentions_ofFloat_iff {value : Float} :
    (ofFloat value).Mentions number ↔ value.isFinite ∧ number = .real value := by
  unfold ofFloat
  split_ifs with finite <;> simp [finite]

@[simp] theorem mentions_ofSingle_iff {value : Float32} :
    (ofSingle value).Mentions number ↔ value.isFinite ∧ number = .single value := by
  unfold ofSingle
  split_ifs with finite <;> simp [finite]

end

/-- The number can be held in a free-form value. -/
def Number.IsHeld : Number → Prop
  | .whole value => -(wordLimit / 2 : Nat) ≤ value ∧ value < wordLimit
  | .real value => value.isFinite
  | .single _ => False

/-- A free-form value with at most so many arrays and objects inside each other. -/
inductive IsFreeForm : Nat → Json → Prop
  | null {depth : Nat} : IsFreeForm depth .null
  | bool {depth : Nat} (value : Bool) : IsFreeForm depth (.bool value)
  | number {depth : Nat} {number : Number} (held : number.IsHeld) :
    IsFreeForm depth (.number number)
  | text {depth : Nat} (value : String) : IsFreeForm depth (.text value)
  | array {depth : Nat} {items : List Json} (each : ∀ item ∈ items, IsFreeForm depth item) :
    IsFreeForm (depth + 1) (.array items)
  | object {depth : Nat} {members : Members}
    (sorted : members.Pairwise fun first second => first.1 < second.1)
    (each : ∀ member ∈ members, IsFreeForm depth member.2) :
    IsFreeForm (depth + 1) (.object members)

/-! ### Sorted members -/

namespace Members

theorem insert_eq_append {members : Members} {key : String} (value : Json)
    (greatest : ∀ member ∈ members, member.1 < key) :
    insert key value members = members ++ [(key, value)] := by
  induction members with
  | nil => rfl
  | cons first rest inductionHypothesis =>
    have below := greatest first (List.mem_cons_self ..)
    rw [insert, if_neg (String.lt_asymm below), if_neg (String.ne_of_lt below).symm,
      inductionHypothesis fun member mem => greatest member (List.mem_cons_of_mem _ mem),
      List.cons_append]

/-- Members that are sorted already stay as they are. -/
theorem ofList_eq_self {members : Members}
    (sorted : members.Pairwise fun first second => first.1 < second.1) :
    ofList members = members := by
  have general : ∀ before : Members,
      (before ++ members).Pairwise (fun first second => first.1 < second.1) →
      members.foldl (fun sorted member => insert member.1 member.2 sorted) before =
        before ++ members := by
    clear sorted
    induction members with
    | nil => simp
    | cons first rest inductionHypothesis =>
      intro before sorted
      have greatest : ∀ member ∈ before, member.1 < first.1 := fun member mem =>
        (List.pairwise_append.mp sorted).2.2 member mem first (List.mem_cons_self ..)
      rw [List.foldl_cons, insert_eq_append first.2 greatest,
        inductionHypothesis _ (by simpa using sorted)]
      simp
  simpa [ofList] using general [] sorted

end Members

/-! ### Reading them back -/

namespace Reading

theorem valuesOf_map_tree {nesting : Nat} {items : List Json}
    (each : ∀ item ∈ items, value nesting item.tree = some item) :
    valuesOf nesting (items.map tree) = some items := by
  induction items with
  | nil => rfl
  | cons first rest inductionHypothesis =>
    rw [List.forall_mem_cons] at each
    simp [valuesOf, each.1, inductionHypothesis each.2]

theorem membersOf_map_tree {nesting : Nat} {members : Members}
    (each : ∀ member ∈ members, value nesting member.2.tree = some member.2) :
    membersOf nesting (members.map fun member => (some member.1, member.2.tree)) =
      some members := by
  induction members with
  | nil => rfl
  | cons first rest inductionHypothesis =>
    rw [List.forall_mem_cons] at each
    simp [membersOf, each.1, inductionHypothesis each.2]

/-- A free-form value is recovered if its numbers are. -/
theorem recovers_value {depth : Nat} {json : Json} (form : json.IsFreeForm depth)
    (readsBack : ∀ number, json.Mentions number → number.ReadsBack) :
    Recovers value depth json json := by
  induction form with
  | null => exact IsTold.recovers tells_null fun _ _ => by simp [value]
  | bool flag => exact IsTold.recovers (tells_bool flag) fun _ _ => by simp [value]
  | text content => exact IsTold.recovers (tells_quote content) fun _ _ => by simp [value]
  | @number depth number held =>
    obtain ⟨numeral, told, means⟩ : ∃ numeral, IsTold (.number number) (.number numeral) ∧
        numeral.value? = some number := by
      cases number with
      | whole content => exact tells_whole held.1 held.2
      | real content =>
        obtain ⟨numeral, parsed, means⟩ :=
          Number.ofText?_eq_some_iff.mp (readsBack _ (.number _))
        exact ⟨numeral, Reader.tells_iff.mpr parsed, means⟩
      | single content => exact held.elim
    exact told.recovers fun _ _ => by simp [value, means]
  | @array depth items each inductionHypothesis =>
    have inner := fun item mem =>
      inductionHypothesis item mem fun number inside => readsBack number (.item mem inside)
    have told : IsTold (.array items) (.array (items.map tree)) := by
      refine isTold_array ?_
      rw [List.forall₂_map_right_iff, List.forall₂_same]
      exact fun item mem => (inner item mem).told
    refine told.recovers fun nesting enough => ?_
    obtain ⟨nesting, rfl⟩ : ∃ rest, nesting = rest + 1 := ⟨nesting - 1, by omega⟩
    have room : depth ≤ nesting := Nat.le_of_succ_le_succ enough
    rw [value, valuesOf_map_tree fun item mem => (inner item mem).read room, Option.map_some]
  | @object depth members sorted each inductionHypothesis =>
    have inner := fun member mem =>
      inductionHypothesis member mem fun number inside => readsBack number (.member mem inside)
    refine (isTold_object_trees fun member mem => (inner member mem).told).recovers
      fun nesting enough => ?_
    obtain ⟨nesting, rfl⟩ : ∃ rest, nesting = rest + 1 := ⟨nesting - 1, by omega⟩
    have room : depth ≤ nesting := Nat.le_of_succ_le_succ enough
    rw [value, membersOf_map_tree fun member mem => (inner member mem).read room, Option.map_some,
      Function.comp_apply, Members.ofList_eq_self sorted]

theorem recovers_members {depth : Nat} {held : Members} (form : (Json.object held).IsFreeForm depth)
    (readsBack : ∀ number, (Json.object held).Mentions number → number.ReadsBack) :
    members.Recovers depth (.object held) held := by
  have recovers := recovers_value form readsBack
  exact ⟨recovers.told, fun enough => by simp [members, recovers.read enough]⟩

end Reading

end Triage.Json
