/-
This file holds JSON values: what a reader makes of a free-form text and what a writer turns into
text. The members of an object stand in the order in which they are written: the declared order
for records, the order of the keys for free-form maps.
-/

import Triage.Number.Binary

namespace Triage

/-- A JSON number: a whole number of at most 64 bits, a double or a single. -/
inductive Json.Number where
  | whole (value : Int)
  | real (value : Float)
  | single (value : Float32)

/-- A JSON value. -/
inductive Json where
  | null
  | bool (value : Bool)
  | number (value : Json.Number)
  | text (value : String)
  | array (items : List Json)
  | object (members : List (String × Json))

namespace Json

instance : Inhabited Json := ⟨.null⟩

/-! ### Building values -/

/-- A natural number. -/
def ofNat (value : Nat) : Json :=
  .number (.whole value)

/-- A double; JSON has no form for infinities and what is not a number, so these become null. -/
def ofFloat (value : Float) : Json :=
  if value.isFinite then .number (.real value) else .null

/-- A single, with null for what is not finite. -/
def ofSingle (value : Float32) : Json :=
  if value.isFinite then .number (.single value) else .null

/-- A list of texts. -/
def ofTexts (texts : List String) : Json :=
  .array (texts.map .text)

/-- A value that may be missing. -/
def ofOption {Value : Type} (encode : Value → Json) : Option Value → Json
  | none => .null
  | some value => encode value

/-! ### Maps with sorted keys -/

/-- Free-form members, in increasing order of their keys. -/
abbrev Members := List (String × Json)

namespace Members

/-- Set the value of a key, in its place. -/
def insert (key : String) (value : Json) : Members → Members
  | [] => [(key, value)]
  | (other, held) :: rest =>
    if key < other then (key, value) :: (other, held) :: rest
    else if key = other then (key, value) :: rest
    else (other, held) :: insert key value rest

/-- Sort members by key; the last value of a repeated key is the one that is kept. -/
def ofList (members : List (String × Json)) : Members :=
  members.foldl (fun sorted member => insert member.1 member.2 sorted) []

/-- The value of a key. -/
def get? (members : Members) (key : String) : Option Json :=
  (members.find? (·.1 == key)).map (·.2)

/-- The first members with the missing keys filled in from the others. -/
def orElse (members others : Members) : Members :=
  others.foldl (fun filled other =>
    if filled.any (·.1 == other.1) then filled else insert other.1 other.2 filled) members

end Members

/-! ### Looking at values -/

/-- The truth value, if it is one. -/
def bool? : Json → Option Bool
  | .bool value => some value
  | _ => none

/-- The number as a double, if it is a number. -/
def double? : Json → Option Float
  | .number (.whole value) => some (Float.ofInt value)
  | .number (.real value) => some value
  | _ => none

/-- The number as a 32-bit word, if it is a whole number that fits. -/
def word32? : Json → Option UInt32
  | .number (.whole value) =>
    if 0 ≤ value ∧ value < UInt32.size then some (UInt32.ofNat value.toNat) else none
  | _ => none

end Json

end Triage
