/-
This file reads values of a known shape out of what a JSON text says. A way to read a value is
given how many more arrays and objects may still be opened, so that nesting is bounded; a text
that says something else than the value expected has no reading.

A record may be written as an object or as the array of its fields in declared order. In an object
unknown members are passed over, whatever they hold, and a repeated field is refused. A field may
be missing when it has a default; a field that is only optional may be missing from an object but
not from an array.
-/

import Triage.Json.Reader

namespace Triage.Json

/-- How deep arrays and objects may be nested. -/
def nestingLimit : Nat := 127

/-- A way to read a value, given how many more arrays and objects may be opened. -/
abbrev Reading (Value : Type) := Nat → Tree → Option Value

namespace Reading

/-- Read a value from a JSON text. -/
def run? {Value : Type} (reading : Reading Value) (text : String) : Option Value :=
  (Tree.parse? text).bind (reading nestingLimit)

/-! ### Single values -/

/-- A text. -/
def text : Reading String
  | _, .text value => value
  | _, _ => none

/-- A truth value. -/
def bool : Reading Bool
  | _, .bool value => some value
  | _, _ => none

/-- A whole number below a bound, written without a fraction or an exponent. -/
def below (bound : Nat) : Reading Nat
  | _, .number numeral => match numeral.value? with
    | some (.whole value) =>
      if 0 ≤ value ∧ value < bound then some value.toNat else none
    | _ => none
  | _, _ => none

/-- A word of 32 bits. -/
def word32 : Reading UInt32 := fun nesting tree =>
  (below UInt32.size nesting tree).map UInt32.ofNat

/-- A word of 64 bits. -/
def word64 : Reading Nat :=
  below UInt64.size

/-- A double; a whole number is read as the nearest one. -/
def double : Reading Float
  | _, .number numeral => match numeral.value? with
    | some (.whole value) => some (Triage.Number.doubleOfInt value)
    | some (.real value) => some value
    | _ => none
  | _, _ => none

/-- A single, rounded once from a whole number and from the double otherwise. -/
def single : Reading Float32
  | _, .number numeral => match numeral.value? with
    | some (.whole value) => some (Triage.Number.singleOfInt value)
    | some (.real value) => some (Triage.Number.singleOf value)
    | _ => none
  | _, _ => none

/-- A text that names a value. -/
def named {Value : Type} (ofName? : String → Option Value) : Reading Value := fun nesting tree =>
  (text nesting tree).bind ofName?

/-- One of several named values: its name, or an object that has the name as its only key. -/
def choice {Value : Type} (ofName? : String → Option Value) : Reading Value
  | _, .text name => name.bind ofName?
  | _ + 1, .object [(some name, .null)] => ofName? name
  | _, _ => none

/-! ### Values made of values -/

/-- A value that may be null. -/
def nullable {Value : Type} (reading : Reading Value) : Reading (Option Value)
  | _, .null => some none
  | nesting, tree => (reading nesting tree).map some

/-- A list of values. -/
def list {Value : Type} (reading : Reading Value) : Reading (List Value)
  | nesting + 1, .array items => items.mapM (reading nesting)
  | _, _ => none

mutual

/-- Any value. The members of an object are sorted by key, and the last value of a repeated key
counts. -/
def value : Nat → Tree → Option Json
  | _, .null => some .null
  | _, .bool value => some (.bool value)
  | _, .number numeral => numeral.value?.map .number
  | _, .text text => text.map .text
  | 0, .array _ => none
  | 0, .object _ => none
  | nesting + 1, .array items => (valuesOf nesting items).map .array
  | nesting + 1, .object members => (membersOf nesting members).map (.object ∘ Members.ofList)

/-- Any values, in order. -/
def valuesOf (nesting : Nat) : List Tree → Option (List Json)
  | [] => some []
  | item :: rest => do
    let first ← value nesting item
    let others ← valuesOf nesting rest
    return first :: others

/-- The members of an object, as they are written. -/
def membersOf (nesting : Nat) : List (Option String × Tree) → Option (List (String × Json))
  | [] => some []
  | (key, item) :: rest => do
    let key ← key
    let first ← value nesting item
    let others ← membersOf nesting rest
    return (key, first) :: others

end

/-- The members of any object. -/
def members : Reading Members := fun nesting tree =>
  match value nesting tree with
  | some (.object members) => some members
  | _ => none

end Reading

/-! ### Records -/

/-- The fields found in a record. -/
structure Fields where
  /-- How many more arrays and objects may be opened inside a field. -/
  nesting : Nat
  /-- Is the record written with the names of its fields? -/
  isNamed : Bool
  /-- What each field says, in declared order as far as the record goes. -/
  found : List (String × Tree)

namespace Fields

/-- The members of an object, if all their keys can be read. -/
def keyed? (members : List (Option String × Tree)) : Option (List (String × Tree)) :=
  members.mapM fun member => member.1.map fun key => (key, member.2)

/-- The fields with the given names in a record. -/
def read? (names : List String) : Reading Fields
  | nesting + 1, .object members => do
    let keyed ← keyed? members
    let found := keyed.filter fun member => names.contains member.1
    if (found.map (·.1)).Nodup then some ⟨nesting, true, found⟩ else none
  | nesting + 1, .array items =>
    if items.length ≤ names.length then some ⟨nesting, false, names.zip items⟩ else none
  | _, _ => none

/-- What a field says, if the record has it. -/
def get? (fields : Fields) (name : String) : Option Tree :=
  (fields.found.find? (·.1 == name)).map (·.2)

variable {Value : Type}

/-- A field that every record has. -/
def required (fields : Fields) (name : String) (reading : Reading Value) : Option Value :=
  (fields.get? name).bind (reading fields.nesting)

/-- A field with a value that stands in when it is missing. -/
def orElse (fields : Fields) (name : String) (reading : Reading Value) (default : Value) :
    Option Value :=
  match fields.get? name with
  | some tree => reading fields.nesting tree
  | none => some default

/-- A field that may be null, and may be missing where fields have names. -/
def optional (fields : Fields) (name : String) (reading : Reading Value) :
    Option (Option Value) :=
  match fields.get? name with
  | some tree => reading.nullable fields.nesting tree
  | none => if fields.isNamed then some none else none

end Fields

end Triage.Json
