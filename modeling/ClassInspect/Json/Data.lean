import ClassInspect.Json.Basic

/-!
# Data on its way to JSON

The keys of JSON objects are texts. Data that is to become JSON may have maps with any keys, so it can fail to become
JSON, and where it does not fail the members of each object stand in ascending order of their keys.
-/

namespace ClassInspect

inductive Data where
  /-- A value that is JSON already. -/
  | json (value : Json)
  | list (items : List Data)
  | map (entries : List (Data × Data))

/-- Why data has no JSON. -/
inductive SerialFailure where
  | keyNotText
  | keyNotFinite
deriving Repr, DecidableEq

def SerialFailure.message : SerialFailure → String
  | keyNotText => "key must be a string"
  | keyNotFinite => "float key must be finite (got NaN or +/-inf)"

/-- A later member takes the place of an earlier one with the same key. -/
def Json.insertMember (key : String) (value : Json) : List (String × Json) → List (String × Json)
  | [] => [(key, value)]
  | (other, held) :: members =>
    if key < other then (key, value) :: (other, held) :: members
    else if key = other then (key, value) :: members
    else (other, held) :: insertMember key value members

/-- The value without the members that have one of the keys. -/
def Json.without (keys : List String) : Json → Json
  | object members => .object (members.filter fun member => !keys.contains member.1)
  | value => value

namespace Data

def text (value : String) : Data := .json (.string value)

/-- A map from names to data, in the order given. -/
def record (fields : List (String × Data)) : Data := .map (fields.map fun field => (text field.1, field.2))

/-- The key of a member. Booleans and numbers are spelled out. -/
def keyText : Data → Except SerialFailure String
  | json (.string value) => .ok value
  | json (.bool value) => .ok (Json.bool value).atomText
  | json (.int value) => .ok (Json.int value).atomText
  | json (.float bits) => if Json.floatText bits = "null" then .error .keyNotFinite else .ok (Json.floatText bits)
  | _ => .error .keyNotText

mutual

def toJson : Data → Except SerialFailure Json
  | json value => .ok value
  | list items => return .array (← toJsonItems items [])
  | map entries => return .object (← toJsonMembers entries [])

/-- The values of a list behind those already made, which stand in reverse. -/
def toJsonItems : List Data → List Json → Except SerialFailure (List Json)
  | [], done => .ok done.reverse
  | item :: items, done => do
    let value ← item.toJson
    toJsonItems items (value :: done)

/-- The members of a map beside those already made. -/
def toJsonMembers : List (Data × Data) → List (String × Json) → Except SerialFailure (List (String × Json))
  | [], done => .ok done
  | (key, value) :: entries, done => do
    let key ← key.keyText
    let value ← value.toJson
    toJsonMembers entries (Json.insertMember key value done)

end

def prettyText (data : Data) : Except SerialFailure String := return (← data.toJson).pretty

end Data

end ClassInspect
