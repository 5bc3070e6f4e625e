/-
**Type expressions as they are written.**

`TypeExpr` is a type text without its white space: parentheses, a leading bar, variance signs,
indexer names and parameter names are gone, string and number literals are kept as spelled.
-/

import TypeSchema.TypeNode.Basic

namespace TypeSchema

/-- The name of a property, bare or as a string literal. -/
inductive PropertyKey where
  | bare (name : String)
  | text (spelling : List Char)
deriving DecidableEq, Repr

/-- A member of an object type: a property, an indexer, or a call signature. -/
inductive Member (α : Type) where
  | property (key : PropertyKey) (optional : Bool) (type : α)
  | indexer (key : α) (value : α)
  | call (parameters : List α) (result : α)

/-- A type expression. -/
inductive TypeExpr where
  | text (spelling : List Char)
  | numeral (spelling : List Char)
  /-- A dotted name, perhaps with arguments in angle brackets. -/
  | named (path : List String) (arguments : Option (List TypeExpr))
  | arrayOf (element : TypeExpr)
  | nullable (inner : TypeExpr)
  | tuple (elements : List TypeExpr)
  | union (alternatives : List TypeExpr)
  | object (exact : Bool) (members : List (Member TypeExpr))
deriving Inhabited

end TypeSchema
