/-
**The schema of a type.**

* `Defect`: why a type has no schema; `Defect.isMisuse` tells the defects of a wrongly built tree
  from those of a type that no schema can describe;
* `TypeNode.schema`: the schema of a type, or the first defect in the order of the text. Key types
  of indexers are not looked at;
* `TypeNode.compile`: the same with results told apart from failures. That no schema can describe a
  type is a `Compilation` of it, and only a wrongly built tree has none;
* a union and a nullable type become alternatives, a tuple a list of item schemas, an object its
  property schemas with the sorted names of those that must be present.
-/

import TypeSchema.TypeNode.Basic

namespace TypeSchema

/-- Why a type has no schema. -/
inductive Defect where
  /-- `void` has no value. -/
  | undefinedType
  | callSignature
  /-- An object with properties and an indexer. -/
  | mixedObject
  /-- A named type other than `Array` and `$Exact`. -/
  | unsupportedName (name : String)
  | argumentCount (name : String) (count : Nat)
  | notAType (stray : Stray)
deriving DecidableEq

/-- The name of the kind of a thing that is no type. -/
def Stray.kindName : Stray → String
  | text => "str"
  | integer => "int"
  | nothing => "NoneType"
  | property => "Property"

namespace Defect

/-- Whether the tree was built wrongly, as opposed to a type that no schema can describe. -/
def isMisuse : Defect → Bool
  | argumentCount .. => true
  | notAType _ => true
  | _ => false

/-- The wording of a defect. -/
def message : Defect → String
  | undefinedType => "undefined types not supported"
  | callSignature => "call properties not supported"
  | mixedObject =>
    "objects with both static properties and indexed properties are not supported"
  | unsupportedName name => "unsupported type: " ++ name
  | argumentCount name count => s!"{name} expects exactly one type argument, got {count}"
  | notAType stray => "unknown type " ++ stray.kindName

end Defect

/-- The schema that accepts one kind of value. -/
def kindSchema (kind : Kind) : List (String × Json) := [("type", .string kind.name)]

/-- The schema of an array with the given item schemas. -/
def arraySchema (items : Json) : Json := .object [("type", .string "array"), ("items", items)]

/-- The schema of a choice. -/
def choiceSchema (alternatives : List Json) : Json := .object [("anyOf", .array alternatives)]

/-- The schema of an object all of whose values have a schema. -/
def indexedSchema (value : Json) : Json :=
  .object [("type", .string "object"), ("patternProperties", .object [(".*", value)]),
    ("additionalProperties", .bool false)]

/-- Names in the order of their code points. -/
def sortNames (names : List String) : List String := names.mergeSort (fun a b => decide (a ≤ b))

/-- The schema of an object with properties: each name has the schema of its last declaration, at
the place of its first one. -/
def objectSchema (exact : Bool) (properties : List (String × Json)) (required : List String) :
    Json :=
  .object ([("type", .string "object"), ("properties", .object (collectFields properties)),
      ("required", .array ((sortNames required).map .string))] ++
    if exact then [("additionalProperties", .bool false)] else [])

/-- A schema without additional properties, if it is the schema of an object. -/
def exactSchema (schema : Json) : Json :=
  match schema, schema.field? "type" with
  | .object fields, some (.string "object") =>
    .object (setField "additionalProperties" (.bool false) fields)
  | _, _ => schema

mutual

/-- The schema of a type. -/
def TypeNode.schema : TypeNode → Except Defect Json
  | .literal kind value => .ok (.object (kindSchema kind ++ [("enum", .array [value])]))
  | .primitive .void => .error .undefinedType
  | .primitive .any => .ok (.object [])
  | .primitive kind => .ok (.object (kindSchema kind))
  | .nullable inner => do
    let schema ← inner.schema
    return choiceSchema [.object (kindSchema .null), schema]
  | .tuple elements => do
    let schemas ← schemas elements
    return arraySchema (.array schemas)
  | .union alternatives => do
    let schemas ← schemas alternatives
    return choiceSchema schemas
  | .generic "Array" [element] => do
    let schema ← element.schema
    return arraySchema schema
  | .generic "$Exact" [inner] => do
    let schema ← inner.schema
    return exactSchema schema
  | .generic name arguments =>
    if name = "Array" ∨ name = "$Exact" then .error (.argumentCount name arguments.length)
    else .error (.unsupportedName name)
  | .object _ _ _ true => .error .callSignature
  | .object [] _ (some indexer) false => do
    let schema ← indexerSchema indexer
    return indexedSchema schema
  | .object (_ :: _) _ (some _) false => .error .mixedObject
  | .object properties exact none false => do
    let schemas ← propertySchemas properties
    return objectSchema exact schemas
      ((properties.filter fun property => !property.optional).map Property.name)
  | .stray kind => .error (.notAType kind)

/-- The schemas of a list of types. -/
def schemas : List TypeNode → Except Defect (List Json)
  | [] => .ok []
  | type :: rest => do
    let schema ← type.schema
    let more ← schemas rest
    return schema :: more

/-- The schema of the values of an indexer. -/
def indexerSchema : Indexer TypeNode → Except Defect Json
  | ⟨value, _⟩ => value.schema

/-- The schemas of properties, with their names. -/
def propertySchemas : List (Property TypeNode) → Except Defect (List (String × Json))
  | [] => .ok []
  | ⟨name, type, _⟩ :: rest => do
    let schema ← type.schema
    let more ← propertySchemas rest
    return (name, schema) :: more

end

/-- What comes of a type that is built rightly: what is made of it, or why no schema can describe
it. -/
inductive Compilation (α : Type) where
  | compiled (made : α)
  | unsupported (defect : Defect)

/-- Makes something of what was compiled. -/
def Compilation.map {α β : Type} (make : α → β) : Compilation α → Compilation β
  | compiled made => compiled (make made)
  | unsupported defect => unsupported defect

/-- Compiles one thing and then another, unless no schema can describe the first. -/
def compileBoth {α β γ : Type} (make : α → β → γ) (first : Except Defect (Compilation α))
    (second : Except Defect (Compilation β)) : Except Defect (Compilation γ) := do
  match ← first with
  | .unsupported defect => return .unsupported defect
  | .compiled made => return (← second).map (make made)

mutual

/-- Compiles a type. -/
def TypeNode.compile : TypeNode → Except Defect (Compilation Json)
  | .literal kind value => .ok (.compiled (.object (kindSchema kind ++ [("enum", .array [value])])))
  | .primitive .void => .ok (.unsupported .undefinedType)
  | .primitive .any => .ok (.compiled (.object []))
  | .primitive kind => .ok (.compiled (.object (kindSchema kind)))
  | .nullable inner => do
    let result ← inner.compile
    return result.map fun schema => choiceSchema [.object (kindSchema .null), schema]
  | .tuple elements => do
    let results ← compileAll elements
    return results.map fun schemas => arraySchema (.array schemas)
  | .union alternatives => do
    let results ← compileAll alternatives
    return results.map choiceSchema
  | .generic "Array" [element] => do
    let result ← element.compile
    return result.map arraySchema
  | .generic "$Exact" [inner] => do
    let result ← inner.compile
    return result.map exactSchema
  | .generic name arguments =>
    if name = "Array" ∨ name = "$Exact" then .error (.argumentCount name arguments.length)
    else .ok (.unsupported (.unsupportedName name))
  | .object _ _ _ true => .ok (.unsupported .callSignature)
  | .object [] _ (some indexer) false => do
    let result ← compileIndexer indexer
    return result.map indexedSchema
  | .object (_ :: _) _ (some _) false => .ok (.unsupported .mixedObject)
  | .object properties exact none false => do
    let results ← compileProperties properties
    return results.map fun schemas => objectSchema exact schemas
      ((properties.filter fun property => !property.optional).map Property.name)
  | .stray kind => .error (.notAType kind)

/-- Compiles types one after the other, up to the first one that no schema can describe. -/
def compileAll : List TypeNode → Except Defect (Compilation (List Json))
  | [] => .ok (.compiled [])
  | type :: rest => compileBoth List.cons type.compile (compileAll rest)

/-- Compiles the type of the values of an indexer. -/
def compileIndexer : Indexer TypeNode → Except Defect (Compilation Json)
  | ⟨value, _⟩ => value.compile

/-- Compiles the types of properties one after the other, up to the first one that no schema can
describe. -/
def compileProperties :
    List (Property TypeNode) → Except Defect (Compilation (List (String × Json)))
  | [] => .ok (.compiled [])
  | ⟨name, type, _⟩ :: rest =>
    compileBoth (fun schema more => (name, schema) :: more) type.compile (compileProperties rest)

end

end TypeSchema
