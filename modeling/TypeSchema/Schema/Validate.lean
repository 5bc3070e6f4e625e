/-
**Validation of values against schemas.**

* `failures schema value`: the failures of a value, in the order of the keywords of the schema,
  those of inner values where their keyword stands;
* a schema is an object of keywords: `type`, `enum`, `properties`, `required`, `items`, `anyOf`,
  `patternProperties` and `additionalProperties`; any other keyword is ignored, as is an argument of
  the wrong form;
* the only pattern is `.*`, which every name matches.
-/

import TypeSchema.Schema.Compile
import TypeSchema.Schema.Failure

namespace TypeSchema

/-- Whether a value is of the kind with a name. A boolean is no number. -/
def Json.isOfKind (name : String) : Json → Bool
  | null => name == "null"
  | bool _ => name == "boolean"
  | number value =>
    name == "number" || (name == "integer" &&
      match value with
      | .int _ => true
      | .real real => real.toInt?.isSome)
  | string _ => name == "string"
  | array _ => name == "array"
  | object _ => name == "object"

/-- The pattern that every name matches. -/
def anyName : String := ".*"

/-- Whether a name matches a pattern. -/
def matchesPattern (pattern _name : String) : Bool := pattern == anyName

/-- The names that a keyword with an object argument mentions. -/
def mentioned (keyword : String) (keywords : List (String × Json)) : List String :=
  match keywords.lookup keyword with
  | some (.object fields) => fields.map Prod.fst
  | _ => []

/-- The fields of an object that neither `properties` nor `patternProperties` covers. -/
def additionalFields (keywords fields : List (String × Json)) : List (String × Json) :=
  fields.filter fun (name, _) =>
    !(mentioned "properties" keywords).contains name &&
      !(mentioned "patternProperties" keywords).any fun pattern => matchesPattern pattern name

/-- The wording for fields that should not be there, with their names in order. -/
def additionalMessage (keywords : List (String × Json)) (names : List String) : String :=
  let shown := ", ".intercalate ((sortNames names).map quote)
  match sortNames (mentioned "patternProperties" keywords) with
  | [] =>
    s!"Additional properties are not allowed ({shown} " ++
      (if names.length = 1 then "was" else "were") ++ " unexpected)"
  | patterns =>
    shown ++ (if names.length = 1 then " does" else " do") ++ " not match any of the regexes: " ++
      ", ".intercalate (patterns.map quote)

/-- The failures of the keywords that look at the value itself. -/
def plainFailures (keywords : List (String × Json)) (keyword : String) (argument value : Json) :
    List Failure :=
  match keyword, argument, value with
  | "type", .string kind, _ =>
    if value.isOfKind kind then []
    else [.here keyword argument s!"{value.literal} is not of type {quote kind}"]
  | "enum", .array allowed, _ =>
    if allowed.any fun item => item.same value then []
    else [.here keyword argument s!"{value.literal} is not one of {argument.literal}"]
  | "required", .array names, .object fields =>
    names.filterMap fun name =>
      match name with
      | .string name =>
        if (fields.lookup name).isSome then none
        else some (.here keyword argument s!"{quote name} is a required property")
      | _ => none
  | "additionalProperties", .bool false, .object fields =>
    match additionalFields keywords fields with
    | [] => []
    | extra => [.here keyword argument (additionalMessage keywords (extra.map Prod.fst))]
  | _, _, _ => []

mutual

/-- The failures of a value against a schema. -/
def failures : Json → Json → List Failure
  | .object keywords, value => keywordFailures keywords keywords value
  | _, _ => []

/-- The failures of a value against some of the keywords of a schema. -/
def keywordFailures (whole : List (String × Json)) : List (String × Json) → Json → List Failure
  | [], _ => []
  | (keyword, argument) :: rest, value =>
    plainFailures whole keyword argument value ++
      (match keyword, argument, value with
        | "properties", .object schemas, .object fields => propertyFailures schemas fields
        | "patternProperties", .object schemas, .object fields => patternFailures schemas fields
        | "additionalProperties", schema, .object fields =>
          (additionalFields whole fields).flatMap fun (name, item) =>
            (failures schema item).map
              (Failure.under [.key name] [.key "additionalProperties"])
        | "items", .array schemas, .array items => tupleFailures 0 schemas items
        | "items", schema, .array items =>
          (items.zipIdx).flatMap fun (item, place) =>
            (failures schema item).map (Failure.under [.index place] [.key "items"])
        | "anyOf", .array schemas, _ =>
          if allFail schemas value then
            [.here keyword argument
              s!"{value.literal} is not valid under any of the given schemas"]
          else []
        | _, _, _ => []) ++
      keywordFailures whole rest value

/-- The failures of the values of declared properties. -/
def propertyFailures : List (String × Json) → List (String × Json) → List Failure
  | [], _ => []
  | (name, schema) :: rest, fields =>
    (match fields.lookup name with
      | some item =>
        (failures schema item).map
          (Failure.under [.key name] [.key "properties", .key name])
      | none => []) ++ propertyFailures rest fields

/-- The failures of the values whose names match a pattern. -/
def patternFailures : List (String × Json) → List (String × Json) → List Failure
  | [], _ => []
  | (pattern, schema) :: rest, fields =>
    (fields.filter fun (name, _) => matchesPattern pattern name).flatMap (fun (name, item) =>
      (failures schema item).map
        (Failure.under [.key name] [.key "patternProperties", .key pattern])) ++
      patternFailures rest fields

/-- The failures of the items of a tuple, each against the schema at its place. -/
def tupleFailures (place : Nat) : List Json → List Json → List Failure
  | schema :: rest, item :: items =>
    (failures schema item).map
      (Failure.under [.index place] [.key "items", .index place]) ++
      tupleFailures (place + 1) rest items
  | _, _ => []

/-- Whether a value fails all schemas of a list. -/
def allFail : List Json → Json → Bool
  | [], _ => true
  | schema :: rest, value => !(failures schema value).isEmpty && allFail rest value

end

end TypeSchema
