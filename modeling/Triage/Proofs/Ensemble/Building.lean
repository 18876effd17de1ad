/-
This file proves that a model comes out the same, whether it is read from a JSON object or built from its
three required fields and settings. An object describes a model by the required fields, by one field for
each setting and by any fields that no model has, all of them in any order.

Each setting is about one field. To set one field and then another one comes to the same in either order, so
that settings of different fields can be made in any order. The reader finds under every name the field that
is about it, or none, and takes the value from there or the default. This is what is left in the field when
all settings have been made one after the other, since only the one that is about the field changes it.
-/

import Mathlib.Data.List.Nodup
import Triage.Proofs.Storage

namespace Triage

open Json Json.Reading

namespace Model

/-- The names of the fields that every description has. -/
def requiredNames : List String := ["provider", "model", "model_type"]

/-! ### Settings -/

namespace Setting

/-- The name of the field that a setting is about. -/
def field : Setting → String
  | .weight _ => "weight"
  | .maxTokens _ => "max_tokens"
  | .temperature _ => "temperature"
  | .timeout _ => "timeout"
  | .retryAttempts _ => "retry_attempts"
  | .specializedFor _ => "specialized_for"
  | .costLimit _ => "cost_limit"

/-- What stands in a JSON text is the value of the setting. A number has the value that it is read as, be it
written with few digits or with many. -/
def IsSaidBy (nesting : Nat) (tree : Tree) : Setting → Prop
  | .weight value | .timeout value | .costLimit value => double nesting tree = some value
  | .temperature value => single nesting tree = some value
  | .maxTokens value | .retryAttempts value => word32 nesting tree = some value
  | .specializedFor value => text nesting tree = some value

/-- The value of the setting as JSON. -/
def toJson : Setting → Json
  | .weight value | .timeout value | .costLimit value => .ofFloat value
  | .temperature value => .ofSingle value
  | .maxTokens value | .retryAttempts value => .ofNat value.toNat
  | .specializedFor value => .text value

/-- The value of the setting is finite, if it is a number. -/
def IsFinite : Setting → Prop
  | .weight value | .timeout value | .costLimit value => value.isFinite
  | .temperature value => value.isFinite
  | .maxTokens _ | .retryAttempts _ | .specializedFor _ => True

theorem field_mem (setting : Setting) : setting.field ∈ fieldNames ∧ setting.field ∉ requiredNames := by
  cases setting <;> simp [field, fieldNames, requiredNames]

/-- The value that is written is told by its text, and it is said there. -/
theorem said_by_tree {setting : Setting} (finite : setting.IsFinite)
    (readsBack : ∀ number, setting.toJson.Mentions number → number.ReadsBack) (nesting : Nat) :
    IsTold setting.toJson setting.toJson.tree ∧ setting.IsSaidBy nesting setting.toJson.tree := by
  have both {Value : Type} {reading : Reading Value} {json : Json} {value : Value}
      (recovers : reading.Recovers 0 json value) :
      IsTold json json.tree ∧ reading nesting json.tree = some value :=
    ⟨recovers.told, recovers.read nesting.zero_le⟩
  have double {value : Float} (isFinite : value.isFinite)
      (inside : ∀ number, (Json.ofFloat value).Mentions number → number.ReadsBack) :=
    both (recovers_double isFinite (inside _ (mentions_ofFloat_iff.mpr ⟨isFinite, rfl⟩)))
  cases setting with
  | weight value | timeout value | costLimit value => exact double finite readsBack
  | temperature value =>
    exact both (recovers_single finite (readsBack _ (mentions_ofSingle_iff.mpr ⟨finite, rfl⟩)))
  | maxTokens value | retryAttempts value => exact both (recovers_word32 value)
  | specializedFor value => exact both (recovers_text value)

end Setting

/-- The model has what is set. -/
def Has (model : Model) : Setting → Prop
  | .weight value => model.weight = value
  | .maxTokens value => model.maxTokens = value
  | .temperature value => model.temperature = value
  | .timeout value => model.timeout = value
  | .retryAttempts value => model.retryAttempts = value
  | .specializedFor value => model.specializedFor = some value
  | .costLimit value => model.costLimit = some value

theorem has_set (model : Model) (setting : Setting) : (model.set setting).Has setting := by
  cases setting <;> rfl

theorem has_set_other {setting other : Setting} (apart : setting.field ≠ other.field) (model : Model) :
    (model.set setting).Has other = model.Has other := by
  cases setting <;> cases other <;> first | rfl | exact absurd rfl apart

theorem set_comm {setting other : Setting} (apart : setting.field ≠ other.field) (model : Model) :
    (model.set setting).set other = (model.set other).set setting := by
  cases setting <;> cases other <;> first | rfl | exact absurd rfl apart

/-! ### Many settings -/

section

variable {Value : Type} (get : Model → Value) {settings : List Setting}

/-- What no setting changes is as it was. -/
theorem get_setAll_eq (unchanged : ∀ setting ∈ settings, ∀ model : Model,
    get (model.set setting) = get model) (model : Model) : get (model.setAll settings) = get model := by
  unfold setAll
  induction settings generalizing model with
  | nil => rfl
  | cons setting rest inductionHypothesis =>
    rw [List.forall_mem_cons] at unchanged
    rw [List.foldl_cons, inductionHypothesis unchanged.2, unchanged.1]

/-- What one setting changes alone is as this setting leaves it. -/
theorem exists_get_setAll_eq (distinct : (settings.map Setting.field).Nodup) {setting : Setting}
    (mem : setting ∈ settings)
    (unchanged : ∀ other, other.field ≠ setting.field → ∀ model : Model,
      get (model.set other) = get model) (model : Model) :
    ∃ before : Model, get (model.setAll settings) = get (before.set setting) := by
  obtain ⟨early, late, rfl⟩ := List.append_of_mem mem
  rw [List.map_append, List.map_cons, List.nodup_append] at distinct
  obtain ⟨-, ⟨apart, -⟩, -⟩ := And.imp_right (And.imp_left List.nodup_cons.mp) distinct
  refine ⟨model.setAll early, ?_⟩
  have split : model.setAll (early ++ setting :: late) =
      ((model.setAll early).set setting).setAll late := List.foldl_append
  rw [split, get_setAll_eq get fun other later => unchanged other fun same =>
    apart (same ▸ List.mem_map_of_mem later)]

/-- Settings of different fields can be made in any order. -/
theorem setAll_perm {order : List Setting} (distinct : (settings.map Setting.field).Nodup)
    (reordered : order.Perm settings) (model : Model) : model.setAll order = model.setAll settings := by
  refine List.Perm.foldl_eq' reordered (fun setting mem other otherMem model => ?_) model
  by_cases same : setting.field = other.field
  · rw [List.inj_on_of_nodup_map distinct (reordered.subset mem) (reordered.subset otherMem) same]
  · exact set_comm same model

end

/-- After all settings the model has what is set, if no field is set twice. -/
theorem has_setAll {settings : List Setting} (distinct : (settings.map Setting.field).Nodup)
    {setting : Setting} (mem : setting ∈ settings) (model : Model) :
    (model.setAll settings).Has setting := by
  obtain ⟨before, last⟩ := exists_get_setAll_eq (·.Has setting) distinct mem
    (fun _ apart => has_set_other apart) model
  exact last.mpr (before.has_set setting)

/-- A field that is not set stays as it is. -/
theorem has_setAll_other {settings : List Setting} {other : Setting}
    (unset : other.field ∉ settings.map Setting.field) (model : Model) :
    (model.setAll settings).Has other ↔ model.Has other := by
  have unchanged : ∀ setting ∈ settings, ∀ model : Model,
      (model.set setting).Has other = model.Has other := fun setting mem =>
    has_set_other fun same => unset (same ▸ List.mem_map_of_mem mem)
  exact Eq.to_iff (get_setAll_eq (·.Has other) unchanged model)

theorem setAll_identity (model : Model) (settings : List Setting) :
    (model.setAll settings).provider = model.provider ∧ (model.setAll settings).name = model.name ∧
      (model.setAll settings).kind = model.kind := by
  refine ⟨get_setAll_eq Model.provider (fun setting _ model => ?_) model,
    get_setAll_eq Model.name (fun setting _ model => ?_) model,
    get_setAll_eq kind (fun setting _ model => ?_) model⟩
  all_goals cases setting <;> rfl

/-! ### Descriptions -/

/-- The fields of an object that describes a model: those that are required, one for each setting, and
others. -/
def descriptionOf {Value : Type} (provider name kind : Value) (said : Setting → Value)
    (settings : List Setting) (others : List (String × Value)) : List (String × Value) :=
  [("provider", provider), ("model", name), ("model_type", kind)] ++
    settings.map (fun setting => (setting.field, said setting)) ++ others

/-- The members of an object describe a model with some settings, in any order and between others that no
model has. -/
inductive Describes (nesting : Nat) (provider name : String) (kind : ModelKind) (settings : List Setting) :
    List (String × Tree) → Prop
  | intro {providerTree nameTree kindTree : Tree} {said : Setting → Tree}
    {others members : List (String × Tree)}
    (providerSaid : text nesting providerTree = some provider)
    (nameSaid : text nesting nameTree = some name)
    (kindSaid : ModelKind.reading nesting kindTree = some kind)
    (settingsSaid : ∀ setting ∈ settings, setting.IsSaidBy nesting (said setting))
    (unknown : ∀ other ∈ others, other.1 ∉ fieldNames)
    (shuffled : members.Perm (descriptionOf providerTree nameTree kindTree said settings others)) :
    Describes nesting provider name kind settings members

/-- The reader has found a model with some settings: under every name what is said, or nothing. -/
structure Supplies (fields : Fields) (provider name : String) (kind : ModelKind)
    (settings : List Setting) : Prop where
  provider : fields.required "provider" text = some provider
  name : fields.required "model" text = some name
  kind : fields.required "model_type" ModelKind.reading = some kind
  said : ∀ setting ∈ settings, ∃ tree, fields.get? setting.field = some tree ∧
    setting.IsSaidBy fields.nesting tree
  absent : ∀ name ∈ fieldNames, name ∉ requiredNames → name ∉ settings.map Setting.field →
    fields.get? name = none

section

variable {nesting : Nat} {provider name : String} {kind : ModelKind} {settings : List Setting}

section

variable {Value : Type} (provider name kind : Value) (said : Setting → Value)

theorem map_fst_descriptionOf (settings : List Setting) (others : List (String × Value)) :
    (descriptionOf provider name kind said settings others).map (·.1) =
      requiredNames ++ settings.map Setting.field ++ others.map (·.1) := by
  unfold descriptionOf
  rw [List.map_append, List.map_append, List.map_map]
  rfl

theorem map_descriptionOf {Other : Type} (change : Value → Other) (settings : List Setting)
    (others : List (String × Value)) :
    (descriptionOf provider name kind said settings others).map
        (fun member => (member.1, change member.2)) =
      descriptionOf (change provider) (change name) (change kind) (fun setting => change (said setting))
        settings (others.map fun other => (other.1, change other.2)) := by
  unfold descriptionOf
  rw [List.map_append, List.map_append, List.map_map]
  rfl

/-- Of a description, the fields with names of the record are those of the model. -/
theorem filter_descriptionOf (settings : List Setting) {others : List (String × Value)}
    (unknown : ∀ other ∈ others, other.1 ∉ fieldNames) :
    (descriptionOf provider name kind said settings others).filter
        (fun member => fieldNames.contains member.1) =
      descriptionOf provider name kind said settings [] := by
  have none : others.filter (fun member => fieldNames.contains member.1) = [] :=
    List.filter_eq_nil_iff.mpr fun other mem known => unknown other mem (List.contains_iff_mem.mp known)
  have all : (settings.map fun setting => (setting.field, said setting)).filter
      (fun member => fieldNames.contains member.1) =
        settings.map fun setting => (setting.field, said setting) := by
    refine List.filter_eq_self.mpr fun member mem => ?_
    obtain ⟨setting, -, rfl⟩ := List.mem_map.mp mem
    exact List.contains_iff_mem.mpr setting.field_mem.1
  unfold descriptionOf
  rw [List.filter_append, List.filter_append, none, all]
  rfl

theorem nodup_descriptionOf (distinct : (settings.map Setting.field).Nodup) :
    ((descriptionOf provider name kind said settings []).map (·.1)).Nodup := by
  rw [map_fst_descriptionOf, List.map_nil, List.append_nil, List.nodup_append]
  refine ⟨by decide, distinct, fun required mem field set same => ?_⟩
  obtain ⟨setting, -, rfl⟩ := List.mem_map.mp set
  exact setting.field_mem.2 (same ▸ mem)

end

/-- The reader passes over the fields that no model has and finds all others. -/
theorem Describes.exists_supplies {members : List (String × Tree)}
    (described : Describes nesting provider name kind settings members)
    (distinct : (settings.map Setting.field).Nodup) :
    ∃ fields, Fields.read? fieldNames (nesting + 1)
        (.object (members.map fun member => (some member.1, member.2))) = some fields ∧
      Supplies fields provider name kind settings := by
  obtain @⟨providerTree, nameTree, kindTree, said, others, members, providerSaid, nameSaid, kindSaid,
    settingsSaid, unknown, shuffled⟩ := described
  let known := descriptionOf providerTree nameTree kindTree said settings []
  have found : (members.filter fun member => fieldNames.contains member.1).Perm known := by
    unfold known
    rw [← filter_descriptionOf providerTree nameTree kindTree said settings unknown]
    exact shuffled.filter _
  have nodup := (found.map (·.1)).nodup_iff.mpr
    (nodup_descriptionOf providerTree nameTree kindTree said distinct)
  refine ⟨_, Fields.read?_members nodup nesting, ?_⟩
  have get {field : String} {tree : Tree} (mem : (field, tree) ∈ known) :
      Fields.get? ⟨nesting, true, _⟩ field = some tree :=
    Fields.get?_of_mem nodup (found.mem_iff.mpr mem)
  have required {Value : Type} {reading : Reading Value} {field : String} {tree : Tree} {value : Value}
      (mem : (field, tree) ∈ known) (reads : reading nesting tree = some value) :
      Fields.required ⟨nesting, true, _⟩ field reading = some value :=
    Option.bind_eq_some_iff.mpr ⟨tree, get mem, reads⟩
  refine ⟨required (by simp [known, descriptionOf]) providerSaid,
    required (by simp [known, descriptionOf]) nameSaid,
    required (by simp [known, descriptionOf]) kindSaid, fun setting mem => ?_,
    fun name _ other unset => ?_⟩
  · refine ⟨said setting, get ?_, settingsSaid setting mem⟩
    exact List.mem_append_left _ (List.mem_append_right _ (List.mem_map.mpr ⟨setting, mem, rfl⟩))
  · refine Fields.get?_eq_none fun field mem same => ?_
    have listed := List.mem_map_of_mem (f := (·.1)) (found.mem_iff.mp mem)
    rw [map_fst_descriptionOf, List.map_nil, List.append_nil, List.mem_append, same] at listed
    exact listed.elim other unset

end

/-! ### Reading a description -/

/-- The optional field of a record with this name is the one that `get` takes from a model: a setting of the
field puts there what is read of it, and no other setting changes it. -/
structure IsField {Value : Type} (field : String) (reading : Reading Value) (get : Model → Value) :
    Prop where
  optional : field ∈ fieldNames ∧ field ∉ requiredNames
  own : ∀ setting : Setting, setting.field = field → ∀ (model : Model) nesting tree,
    setting.IsSaidBy nesting tree → reading nesting tree = some (get (model.set setting))
  unchanged : ∀ setting : Setting, setting.field ≠ field → ∀ model : Model,
    get (model.set setting) = get model

theorem isField_all :
    IsField "weight" double weight ∧ IsField "max_tokens" word32 maxTokens ∧
      IsField "temperature" single temperature ∧ IsField "timeout" double timeout ∧
      IsField "retry_attempts" word32 retryAttempts ∧
      IsField "specialized_for" (nullable text) specializedFor ∧
      IsField "cost_limit" (nullable double) costLimit := by
  refine ⟨?_, ?_, ?_, ?_, ?_, ?_, ?_⟩
  all_goals
    refine ⟨by decide, fun setting same model nesting tree said => ?_, fun setting other model => ?_⟩
    · cases setting <;> simp [Setting.field] at same
      first | exact said | exact nullable_eq_some rfl said
    · cases setting <;> first | rfl | exact absurd rfl other

section

variable {nesting : Nat} {provider name : String} {kind : ModelKind} {settings : List Setting}

/-- A field is read as what is left in it when all settings have been made: the value of the one that is
about it, or the default. -/
theorem Supplies.orElse_eq {fields : Fields} (supplies : Supplies fields provider name kind settings)
    (distinct : (settings.map Setting.field).Nodup) (base : Model) {Value : Type} {field : String}
    {reading : Reading Value} {get : Model → Value} (isField : IsField field reading get) :
    fields.orElse field reading (get base) = some (get (base.setAll settings)) := by
  unfold Fields.orElse
  by_cases set : field ∈ settings.map Setting.field
  · obtain ⟨setting, mem, rfl⟩ := List.mem_map.mp set
    obtain ⟨tree, found, said⟩ := supplies.said setting mem
    obtain ⟨before, last⟩ := exists_get_setAll_eq get distinct mem isField.unchanged base
    rw [found, last]
    exact isField.own setting rfl before _ tree said
  · rw [supplies.absent field isField.optional.1 isField.optional.2 set]
    refine congrArg some (get_setAll_eq get (fun setting mem => ?_) base).symm
    exact isField.unchanged setting fun same => set (same ▸ List.mem_map_of_mem mem)

/-- What is read of a description is the model that is built with the settings. -/
theorem Describes.reading_eq {members : List (String × Tree)}
    (described : Describes nesting provider name kind settings members)
    (distinct : (settings.map Setting.field).Nodup) :
    Model.reading (nesting + 1) (.object (members.map fun member => (some member.1, member.2))) =
      some (({ provider, name, kind } : Model).setAll settings) := by
  obtain ⟨fields, read, supplies⟩ := described.exists_supplies distinct
  let base : Model := { provider, name, kind }
  obtain ⟨sameProvider, sameName, sameKind⟩ := base.setAll_identity settings
  obtain ⟨isWeight, isMaxTokens, isTemperature, isTimeout, isRetryAttempts, isSpecializedFor, isCostLimit⟩ :=
    isField_all
  have weight : fields.orElse "weight" double 1 = _ := supplies.orElse_eq distinct base isWeight
  have maxTokens : fields.orElse "max_tokens" word32 4000 = _ :=
    supplies.orElse_eq distinct base isMaxTokens
  have temperature : fields.orElse "temperature" single 0.7 = _ :=
    supplies.orElse_eq distinct base isTemperature
  have timeout : fields.orElse "timeout" double 30 = _ := supplies.orElse_eq distinct base isTimeout
  have retryAttempts : fields.orElse "retry_attempts" word32 2 = _ :=
    supplies.orElse_eq distinct base isRetryAttempts
  have specializedFor : fields.orElse "specialized_for" (nullable text) none = _ :=
    supplies.orElse_eq distinct base isSpecializedFor
  have costLimit : fields.orElse "cost_limit" (nullable double) none = _ :=
    supplies.orElse_eq distinct base isCostLimit
  simp only [reading, read, supplies.provider, supplies.name, supplies.kind, weight, maxTokens,
    temperature, timeout, retryAttempts, specializedFor, costLimit, Option.bind_eq_bind,
    Option.bind_some]
  show some _ = some (base.setAll settings)
  generalize base.setAll settings = built at sameProvider sameName sameKind ⊢
  obtain ⟨builtProvider, builtName, builtKind, _⟩ := built
  obtain rfl : builtProvider = provider := sameProvider
  obtain rfl : builtName = name := sameName
  obtain rfl : builtKind = kind := sameKind
  rfl

/-! ### Writing a description -/

/-- What is written of a model and some settings, in any order and between other values, is a description. -/
theorem exists_describes_of_written {others members : List (String × Json)}
    (unknown : ∀ other ∈ others, other.1 ∉ fieldNames)
    (freeForm : ∀ other ∈ others, ∃ depth, other.2.IsFreeForm depth)
    (finite : ∀ setting ∈ settings, setting.IsFinite)
    (shuffled : members.Perm
      (descriptionOf (.text provider) (.text name) (.text kind.name) Setting.toJson settings others))
    (readsBack : ∀ number, (Json.object members).Mentions number → number.ReadsBack) :
    ∃ trees, Tree.parse? (Json.object members).render =
        some (.object (trees.map fun member => (some member.1, member.2))) ∧
      Describes nesting provider name kind settings trees := by
  let trees := members.map fun member => (member.1, member.2.tree)
  have inside {field : String} {json : Json} (mem : (field, json) ∈ members) :
      ∀ number, json.Mentions number → number.ReadsBack := fun number mentions =>
    readsBack number (.field field mem mentions)
  have member {setting : Setting} (mem : setting ∈ settings) : (setting.field, setting.toJson) ∈ members :=
    shuffled.mem_iff.mpr (List.mem_append_left _ (List.mem_append_right _
      (List.mem_map.mpr ⟨setting, mem, rfl⟩)))
  have written {setting : Setting} (mem : setting ∈ settings) :=
    setting.said_by_tree (finite setting mem) (inside (member mem)) nesting
  have providerRead := recovers_text provider
  have nameRead := recovers_text name
  have kindRead : ModelKind.reading.Recovers 0 (.text kind.name) kind := recovers_choice kind.ofName?_name
  have told : ∀ member ∈ members, IsTold member.2 member.2.tree := by
    rintro ⟨field, json⟩ mem
    have listed := shuffled.mem_iff.mp mem
    simp only [descriptionOf, List.mem_append, List.mem_cons, List.not_mem_nil, or_false, Prod.mk.injEq,
      List.mem_map] at listed
    obtain ((⟨rfl, rfl⟩ | ⟨rfl, rfl⟩ | ⟨rfl, rfl⟩) | ⟨setting, set, rfl, rfl⟩) | other := listed
    · exact providerRead.told
    · exact nameRead.told
    · exact kindRead.told
    · exact (written set).1
    · obtain ⟨depth, form⟩ := freeForm _ other
      exact (recovers_value form (inside mem)).told
  have mapped := shuffled.map fun member => (member.1, member.2.tree)
  rw [map_descriptionOf] at mapped
  refine ⟨trees, ?_, .intro (providerRead.read nesting.zero_le) (nameRead.read nesting.zero_le)
    (kindRead.read nesting.zero_le) (fun setting mem => (written mem).2) ?_ mapped⟩
  · rw [Reader.tells_iff.mp (isTold_object_trees told), List.map_map]
    rfl
  · intro other mem
    obtain ⟨other, listed, rfl⟩ := List.mem_map.mp mem
    exact unknown other listed

/-! ### Reading and building -/

/-- A model is the same whether it is read or built: what is read of any text with an object that describes
the model with some settings, its fields in any order and between others, is what the settings build in any
order. It passes the same check, goes by the same label and specialization and makes the same requests. An
object written of finite settings is such a text if its numbers are read back from their digits. The model
has what is set and is by default otherwise. -/
theorem read_as_built (provider name : String) (kind : ModelKind) {settings order : List Setting}
    (distinct : (settings.map Setting.field).Nodup) (reordered : order.Perm settings) :
    let base : Model := { provider, name, kind }
    let built := base.setAll order
    (∀ text members,
      Tree.parse? text = some (.object (members.map fun member => (some member.1, member.2))) →
      Describes (nestingLimit - 1) provider name kind settings members →
      ∃ model, reading.run? text = some model ∧ model = built ∧ model.check = built.check ∧
        model.label = built.label ∧ model.specialization = built.specialization ∧
        ∀ prompt, model.request prompt = built.request prompt) ∧
      (∀ others members : List (String × Json),
        (∀ other ∈ others, other.1 ∉ fieldNames) →
        (∀ other ∈ others, ∃ depth, other.2.IsFreeForm depth) →
        (∀ setting ∈ settings, setting.IsFinite) →
        members.Perm (descriptionOf (.text provider) (.text name) (.text kind.name) Setting.toJson
          settings others) →
        (∀ number, (Json.object members).Mentions number → number.ReadsBack) →
        reading.run? (Json.object members).render = some built) ∧
      (built.provider = provider ∧ built.name = name ∧ built.kind = kind) ∧
      (∀ setting ∈ settings, built.Has setting) ∧
      ∀ other : Setting, other.field ∉ settings.map Setting.field →
        (built.Has other ↔ base.Has other) := by
  intro base built
  have same : built = base.setAll settings := setAll_perm distinct reordered base
  have reads {text : String} {members : List (String × Tree)}
      (parsed : Tree.parse? text = some (.object (members.map fun member => (some member.1, member.2))))
      (described : Describes (nestingLimit - 1) provider name kind settings members) :
      reading.run? text = some built := by
    rw [Reading.run?, parsed, same]
    exact described.reading_eq distinct
  refine ⟨fun text members parsed described =>
      ⟨built, reads parsed described, rfl, rfl, rfl, rfl, fun _ => rfl⟩, ?_, ?_⟩
  · intro others members unknown freeForm finite shuffled readsBack
    obtain ⟨trees, parsed, described⟩ :=
      exists_describes_of_written unknown freeForm finite shuffled readsBack
    exact reads parsed described
  · rw [same]
    exact ⟨base.setAll_identity settings, fun setting mem => has_setAll distinct mem base,
      fun other unset => has_setAll_other unset base⟩

/-- The case of two settings in objects with their fields in reverse: in one that holds a number out of range
in a field that no model has, and in one that is written. -/
theorem read_as_built_of_two_settings :
    let settings : List Setting := [.weight 0.5, .maxTokens 8]
    let order : List Setting := [.maxTokens 8, .weight 0.5]
    let built := ({ provider := "p", name := "m", kind := .fast } : Model).setAll order
    let text := r#"{"z":[1e999],"max_tokens":8,"weight":5e-1,"model_type":"fast","model":"m","provider":"p"}"#
    let written := (descriptionOf (.text "p") (.text "m") (.text ModelKind.fast.name) Setting.toJson settings
      [("z", .null)]).reverse
    (settings.map Setting.field).Nodup ∧ order.Perm settings ∧ reading.run? text = some built ∧
      reading.run? (Json.object written).render = some built ∧
      built.Has (.maxTokens 8) ∧ built.Has (.timeout 30) := by
  intro settings order built text written
  have distinct : (settings.map Setting.field).Nodup := by decide
  have reordered : order.Perm settings := .swap _ _ _
  obtain ⟨read, write, -, set, unset⟩ := read_as_built "p" "m" .fast distinct reordered
  let half : Tree := .number ⟨false, [5], [], true, -1⟩
  let tokens : Tree := .number ⟨false, [8], [], false, 0⟩
  let unknown : Tree := .array [.number ⟨false, [1], [], true, 999⟩]
  let members : List (String × Tree) := [("z", unknown), ("max_tokens", tokens), ("weight", half),
    ("model_type", .text (some "fast")), ("model", .text (some "m")), ("provider", .text (some "p"))]
  have parsed : Tree.parse? text =
      some (.object (members.map fun member => (some member.1, member.2))) := by
    unfold text
    rfl
  have said : double (nestingLimit - 1) half = some 0.5 ∧
      word32 (nestingLimit - 1) tokens = some 8 := ⟨by decide +kernel, by decide⟩
  let description := descriptionOf (.text (some "p")) (.text (some "m")) (.text (some "fast"))
    (fun setting => if setting.field = "weight" then half else tokens) settings [("z", unknown)]
  have reversed : members.Perm description := List.reverse_perm description
  have described : Describes (nestingLimit - 1) "p" "m" .fast settings members := by
    refine .intro rfl rfl rfl ?_ (by decide) reversed
    rwa [List.forall_mem_cons, List.forall_mem_singleton]
  obtain ⟨model, found, same, -⟩ := read text _ parsed described
  have freeForm : ∀ other ∈ [("z", Json.null)], ∃ depth, other.2.IsFreeForm depth :=
    List.forall_mem_singleton.mpr ⟨0, .null⟩
  have finite : ∀ setting ∈ settings, setting.IsFinite := by
    rw [List.forall_mem_cons, List.forall_mem_singleton]
    exact ⟨(by decide +kernel : (0.5 : Float).isFinite = true), trivial⟩
  have readsBack : ∀ number, (Json.object written).Mentions number → number.ReadsBack := by
    intro number inside
    simp [written, descriptionOf, settings, Setting.field, Setting.toJson] at inside
    rcases inside with rfl | ⟨-, rfl⟩ <;> decide +kernel
  refine ⟨distinct, reordered, found.trans (congrArg some same),
    write _ _ (by decide) freeForm finite (List.reverse_perm _) readsBack, set _ (by simp [settings]),
    (unset _ (by decide)).mpr rfl⟩

end

end Model

end Triage
