/-
**The type that an expression denotes.**

* `ReadNode`: the tree of an expression, with texts as code points; `ReadNode.type` is the type with
  texts as strings;
* `TypeExpr.node`: names of primitives and of the literals `true` and `false` count only without
  arguments, `T[]` is `Array<T>`, of several indexers the first one counts;
* literals are decoded in the order of the text, also where their value is not kept, so the first
  one that denotes nothing is the error;
* `ReadNode.ofText`: the tree of a text, with the position of a fault in the file that holds it;
  `TypeNode.ofText` is the type of that tree.
-/

import TypeSchema.TypeExpr.Literal
import TypeSchema.TypeExpr.Reading

namespace TypeSchema

/-- The value of a literal. -/
inductive LiteralValue where
  | text (points : List CodePoint)
  | number (value : Number)
  | truth (value : Bool)
deriving DecidableEq

/-- The value as one of JSON. -/
def LiteralValue.json : LiteralValue → Json
  | text points => .string (textOf points)
  | number value => .number value
  | truth value => .bool value

/-- The tree that a text denotes, with texts as code points. -/
abbrev ReadNode := TypeNode (List CodePoint) LiteralValue

/-- The type that a tree stands for, with texts as strings. -/
def ReadNode.type (node : ReadNode) : TypeNode := node.map textOf LiteralValue.json

namespace ReadNode

theorem type_tuple (elements : List ReadNode) : type (.tuple elements) = .tuple (elements.map type) :=
  congrArg TypeNode.tuple (mapNodes_eq ..)

theorem type_union (alternatives : List ReadNode) :
    type (.union alternatives) = .union (alternatives.map type) :=
  congrArg TypeNode.union (mapNodes_eq ..)

theorem type_generic (name : String) (arguments : List ReadNode) :
    type (.generic name arguments) = .generic name (arguments.map type) :=
  congrArg (TypeNode.generic name) (mapNodes_eq ..)

theorem type_object (properties : List (Property ReadNode (List CodePoint)))
    (exact hasCallSignature : Bool) (indexer : Option (Indexer ReadNode)) :
    type (.object properties exact indexer hasCallSignature) =
      .object (properties.map fun property =>
        ⟨textOf property.name, property.type.type, property.optional⟩) exact
        (indexer.map fun entry => ⟨entry.value.type, entry.key.map type⟩) hasCallSignature := by
  rw [type, TypeNode.map, mapProperties_eq, mapIndexer_eq]
  rfl

end ReadNode

/-- The tree of a name without arguments. -/
def namedType (name : String) : ReadNode :=
  if name = "string" then .primitive .string
  else if name = "number" then .primitive .number
  else if name = "boolean" then .primitive .boolean
  else if name = "any" then .primitive .any
  else if name = "void" then .primitive .void
  else if name = "null" then .primitive .null
  else if name = "true" then .literal .boolean (.truth true)
  else if name = "false" then .literal .boolean (.truth false)
  else .generic name []

/-- The name of a property. -/
def PropertyKey.name : PropertyKey → Except LiteralError (List CodePoint)
  | bare name => .ok (pointsOf name.toList)
  | text spelling => unquote spelling

/-- What a member contributes to its object type. -/
inductive Contribution where
  | property (property : Property ReadNode (List CodePoint))
  | indexer (indexer : Indexer ReadNode)
  | call

namespace Contribution

/-- The property, if the contribution is one. -/
def property? : Contribution → Option (Property ReadNode (List CodePoint))
  | property value => some value
  | _ => none

/-- The indexer, if the contribution is one. -/
def indexer? : Contribution → Option (Indexer ReadNode)
  | indexer value => some value
  | _ => none

/-- Whether the contribution is a call signature. -/
def isCall : Contribution → Bool
  | call => true
  | _ => false

end Contribution

/-- The object type with the given members. -/
def objectType (exact : Bool) (members : List Contribution) : ReadNode :=
  .object (members.filterMap Contribution.property?) exact
    (members.findSome? Contribution.indexer?) (members.any Contribution.isCall)

mutual

/-- The tree that an expression denotes. -/
def TypeExpr.node : TypeExpr → Except LiteralError ReadNode
  | .text spelling => do
    let value ← unquote spelling
    return .literal .string (.text value)
  | .numeral spelling => do
    let value ← numberOf spelling
    return .literal .number (.number value)
  | .named path none => .ok (namedType (".".intercalate path))
  | .named path (some arguments) => do
    let types ← nodes arguments
    return .generic (".".intercalate path) types
  | .arrayOf element => do
    let type ← element.node
    return .generic "Array" [type]
  | .nullable inner => do
    let type ← inner.node
    return .nullable type
  | .tuple elements => do
    let types ← nodes elements
    return .tuple types
  | .union alternatives => do
    let types ← nodes alternatives
    return .union types
  | .object exact members => do
    let contributions ← contributions members
    return objectType exact contributions

/-- The trees of a list of expressions. -/
def nodes : List TypeExpr → Except LiteralError (List ReadNode)
  | [] => .ok []
  | expr :: rest => do
    let type ← expr.node
    let types ← nodes rest
    return type :: types

/-- What the members of an object contribute. -/
def contributions : List (Member TypeExpr) → Except LiteralError (List Contribution)
  | [] => .ok []
  | .property key optional expr :: rest => do
    let name ← key.name
    let type ← expr.node
    let more ← contributions rest
    return .property ⟨name, type, optional⟩ :: more
  | .indexer key value :: rest => do
    let keyType ← key.node
    let valueType ← value.node
    let more ← contributions rest
    return .indexer ⟨valueType, some keyType⟩ :: more
  | .call parameters result :: rest => do
    let _ ← nodes parameters
    let _ ← result.node
    let more ← contributions rest
    return .call :: more

end

/-- The place in a file of a place in a text that begins at `start`. -/
def Position.within (start inside : Position) : Position :=
  if inside.line = 1 then ⟨start.line, start.column + inside.column - 1⟩
  else ⟨start.line + inside.line - 1, inside.column⟩

/-- The tree that a text denotes, when the text begins at a place of a file. A literal that denotes
nothing is reported at that place, any other fault at its own. -/
def ReadNode.ofText (text : List Char) (path : Option String) (start : Position) :
    Except SyntaxError ReadNode :=
  match TypeExpr.ofText text with
  | .error (fault, offset) => .error ⟨fault, path, start.within (positionAt text offset)⟩
  | .ok expr =>
    match expr.node with
    | .error error => .error ⟨.literal error, path, start⟩
    | .ok node => .ok node

/-- The type that a text denotes, when the text begins at a place of a file. -/
def TypeNode.ofText (text : List Char) (path : Option String) (start : Position) :
    Except SyntaxError TypeNode :=
  (ReadNode.ofText text path start).map ReadNode.type

end TypeSchema
