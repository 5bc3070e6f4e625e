/-
**Why no schemas come of a module.**

`AssemblyError` has a case for each cause; `AssemblyError.message` is its wording.
-/

import TypeSchema.Files.Tree
import TypeSchema.Registry
import TypeSchema.Run.Error
import TypeSchema.TypeExpr.Error
import TypeSchema.Version.Basic

namespace TypeSchema

/-- A chain of exports from further modules that is too long: the modules with the names that were
looked for in them, and how many steps are allowed after the first one. -/
structure LongChain where
  chain : List (String × String)
  limit : Int
deriving DecidableEq, Repr

/-- The wording of a chain that is too long. -/
def LongChain.message (error : LongChain) : String :=
  let steps : Int := (error.chain.length : Int) - 1
  s!"max recursion limit exceeded: {intText steps} > {intText error.limit} (" ++
    " -> ".intercalate (error.chain.map fun (path, name) => name ++ " in " ++ path) ++ ")"

/-- Why no schemas come of a module. -/
inductive AssemblyError where
  /-- A question to the type checker failed. -/
  | run (error : RunError)
  | file (error : FileError)
  /-- A text that is no type. -/
  | text (error : SyntaxError)
  /-- A type that is wrongly built. -/
  | misuse (defect : Defect)
  | duplicate (error : DuplicateType)
  | version (error : InvalidVersion)
  | longChain (error : LongChain)
  /-- A module that does not export a name. -/
  | notFound (name path : String)
  /-- A module of whose exports none has a schema. -/
  | noTypes (path : String)

/-- The wording of an error. -/
def AssemblyError.message : AssemblyError → String
  | run error => error.message
  | file error => error.message
  | text error => error.message
  | misuse defect => defect.message
  | duplicate error => error.message
  | version error => error.message
  | longChain error => error.message
  | notFound name path => s!"type {name} cannot be found in {path}"
  | noTypes path => s!"no types to process in {path}"

end TypeSchema
