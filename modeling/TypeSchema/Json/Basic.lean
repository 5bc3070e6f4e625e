/-
**JSON values with ordered fields.**

* `Json`: null, booleans, numbers, strings, arrays, and objects whose fields keep their order;
* `Fields.set` and `Json.field?`: writing a field, which keeps the place of a present name, and
  reading one;
* `Json.same`: equality of values, in which `1` and `1.0` are the same, a boolean is no number, and
  the order of fields does not matter.
-/

import TypeSchema.Number.Basic

namespace TypeSchema

/-- A JSON value. -/
inductive Json where
  | null
  | bool (value : Bool)
  | number (value : Number)
  | string (value : String)
  | array (items : List Json)
  | object (fields : List (String × Json))
deriving Inhabited

/-- Writes a field: a present name keeps its place, a new one goes to the end. -/
def setField {α : Type} (name : String) (value : α) : List (String × α) → List (String × α)
  | [] => [(name, value)]
  | (other, old) :: rest =>
    if other = name then (name, value) :: rest else (other, old) :: setField name value rest

/-- Fields in the order of their first appearance, each with its last value. -/
def collectFields {α : Type} (fields : List (String × α)) : List (String × α) :=
  fields.foldl (fun collected field => setField field.1 field.2 collected) []

namespace Json

/-- The value of a field of an object. -/
def field? (name : String) : Json → Option Json
  | object fields => fields.lookup name
  | _ => none

mutual

/-- Whether two values are equal as JSON values. -/
def same : Json → Json → Bool
  | null, null => true
  | bool first, bool second => first == second
  | number first, number second => first.same second
  | string first, string second => first == second
  | array first, array second => sameItems first second
  | object first, object second => first.length == second.length && sameFields first second
  | _, _ => false

/-- Whether two lists have equal values in the same places. -/
def sameItems : List Json → List Json → Bool
  | [], [] => true
  | first :: rest, second :: others => same first second && sameItems rest others
  | _, _ => false

/-- Whether every field of the first list has an equal value in the second. -/
def sameFields : List (String × Json) → List (String × Json) → Bool
  | [], _ => true
  | (name, value) :: rest, others =>
    (match others.lookup name with
      | some other => same value other
      | none => false) && sameFields rest others

end

mutual

/-- Whether two values are identical, fields in the same order. -/
def identical : Json → Json → Bool
  | null, null => true
  | bool first, bool second => first == second
  | number first, number second => first == second
  | string first, string second => first == second
  | array first, array second => identicalItems first second
  | object first, object second => identicalFields first second
  | _, _ => false

/-- Whether two lists have identical values. -/
def identicalItems : List Json → List Json → Bool
  | [], [] => true
  | first :: rest, second :: others => identical first second && identicalItems rest others
  | _, _ => false

/-- Whether two lists have the same names and identical values. -/
def identicalFields : List (String × Json) → List (String × Json) → Bool
  | [], [] => true
  | (name, first) :: rest, (other, second) :: others =>
    name == other && identical first second && identicalFields rest others
  | _, _ => false

end

end Json

end TypeSchema
