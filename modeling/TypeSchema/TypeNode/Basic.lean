/-
**Type nodes.**

* `TypeNode`: the tree of a data type: literals, primitives, nullable types, tuples, unions, named
  types with arguments, and objects. A place where a type is expected may also hold something that
  is no type at all; `Stray` says what;
* `TypeNode.map`: the tree with other names and values in the same places. If not said otherwise,
  names are strings and values are those of JSON.
-/

import TypeSchema.Json.Basic

namespace TypeSchema

/-- The name of a kind of JSON value, or of one of the two types that are none: `any` and `void`. -/
inductive Kind where
  | string
  | number
  | boolean
  | null
  | any
  | void
  | other (name : String)
deriving DecidableEq, Inhabited

namespace Kind

/-- The name of a kind. -/
def name : Kind → String
  | string => "string"
  | number => "number"
  | boolean => "boolean"
  | null => "null"
  | any => "any"
  | void => "void"
  | other name => name

/-- The kind with a name. -/
def ofName (name : String) : Kind :=
  if name = "string" then string
  else if name = "number" then number
  else if name = "boolean" then boolean
  else if name = "null" then null
  else if name = "any" then any
  else if name = "void" then void
  else other name

end Kind

/-- Something that stands where a type is expected and is none. -/
inductive Stray where
  | text
  | integer
  | nothing
  | property
deriving DecidableEq

/-- A named member of an object type. -/
structure Property (α : Type) (ν : Type := String) where
  name : ν
  type : α
  optional : Bool

/-- An indexer `[key: K]: V`; only the value type is checked. -/
structure Indexer (α : Type) where
  value : α
  key : Option α

/-- The tree of a data type, with names of properties and with values of some types. -/
inductive TypeNode (ν : Type := String) (υ : Type := Json) where
  /-- The type of one value. -/
  | literal (kind : Kind) (value : υ)
  | primitive (kind : Kind)
  /-- The type or null. -/
  | nullable (inner : TypeNode ν υ)
  | tuple (elements : List (TypeNode ν υ))
  | union (alternatives : List (TypeNode ν υ))
  /-- A named type applied to arguments. -/
  | generic (name : String) (arguments : List (TypeNode ν υ))
  | object (properties : List (Property (TypeNode ν υ) ν)) (exact : Bool)
      (indexer : Option (Indexer (TypeNode ν υ))) (hasCallSignature : Bool)
  | stray (kind : Stray)
deriving Inhabited

section

variable {ν ν' υ υ' : Type} (names : ν → ν') (values : υ → υ')

mutual

/-- The tree with other names and values. -/
def TypeNode.map : TypeNode ν υ → TypeNode ν' υ'
  | .literal kind value => .literal kind (values value)
  | .primitive kind => .primitive kind
  | .nullable inner => .nullable (inner.map)
  | .tuple elements => .tuple (mapNodes elements)
  | .union alternatives => .union (mapNodes alternatives)
  | .generic name arguments => .generic name (mapNodes arguments)
  | .object properties exact indexer hasCallSignature =>
    .object (mapProperties properties) exact (mapIndexer indexer) hasCallSignature
  | .stray kind => .stray kind

/-- Trees with other names and values. -/
def mapNodes : List (TypeNode ν υ) → List (TypeNode ν' υ')
  | [] => []
  | type :: rest => type.map :: mapNodes rest

/-- Properties with other names and values. -/
def mapProperties : List (Property (TypeNode ν υ) ν) → List (Property (TypeNode ν' υ') ν')
  | [] => []
  | property :: rest =>
    ⟨names property.name, property.type.map, property.optional⟩ :: mapProperties rest

/-- An indexer with other names and values. -/
def mapIndexer : Option (Indexer (TypeNode ν υ)) → Option (Indexer (TypeNode ν' υ'))
  | none => none
  | some ⟨value, none⟩ => some ⟨value.map, none⟩
  | some ⟨value, some key⟩ => some ⟨value.map, some key.map⟩

end

theorem mapNodes_eq (types : List (TypeNode ν υ)) :
    mapNodes names values types = types.map (TypeNode.map names values) := by
  induction types with
  | nil => rfl
  | cons type rest ih => rw [mapNodes, ih, List.map_cons]

theorem mapProperties_eq (properties : List (Property (TypeNode ν υ) ν)) :
    mapProperties names values properties = properties.map fun property =>
      ⟨names property.name, property.type.map names values, property.optional⟩ := by
  induction properties with
  | nil => rfl
  | cons property rest ih => rw [mapProperties, ih, List.map_cons]

theorem mapIndexer_eq (indexer : Option (Indexer (TypeNode ν υ))) :
    mapIndexer names values indexer = indexer.map fun entry =>
      ⟨entry.value.map names values, entry.key.map (TypeNode.map names values)⟩ := by
  match indexer with
  | none => rfl
  | some ⟨value, none⟩ => rfl
  | some ⟨value, some key⟩ => rfl

end

end TypeSchema
