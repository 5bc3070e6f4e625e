/-
**Declarations of a module.**

* `AliasDeclaration`: `[export] type Name = ...` with the offsets of the statement and of its right
  side;
* `ImportBinding`: one name of `import type {...} from '...'`;
* `ExportSpecifier`: one name of `export type {...}`, perhaps from another module;
* `Declarations`: all of them, names in the order of their first declaration, exports in the order
  of the source.
-/

import TypeSchema.Text.Position

namespace TypeSchema

/-- A type alias: the place of its name, and the offsets of the statement and its right side. -/
structure AliasDeclaration where
  name : String
  exported : Bool
  position : Position
  start : Nat
  stop : Nat
  sideStart : Nat
  sideStop : Nat
deriving DecidableEq, Repr

/-- A type imported from a module under a local name. -/
structure ImportBinding where
  imported : String
  localName : String
  module : String
  position : Position
deriving DecidableEq, Repr

/-- A type exported by name, of this module or of another one. -/
structure ExportSpecifier where
  localName : String
  exported : String
  module : Option String
  position : Position
deriving DecidableEq, Repr

/-- An export of a module. -/
inductive Export where
  | declared (declaration : AliasDeclaration)
  | specifier (entry : ExportSpecifier)
deriving DecidableEq, Repr

/-- The name under which a type is exported. -/
def Export.name : Export → String
  | declared declaration => declaration.name
  | specifier entry => entry.exported

/-- The declarations of a source file. -/
structure Declarations where
  path : String
  source : List Char
  aliases : List (String × AliasDeclaration)
  imports : List (String × ImportBinding)
  exports : List Export

/-- A part of a text. -/
def slice (text : List Char) (start stop : Nat) : List Char := (text.take stop).drop start

namespace Declarations

/-- Where a name that is visible in the module is bound: as an alias, else as an import. -/
def localPosition? (declarations : Declarations) (name : String) : Option Position :=
  match declarations.aliases.lookup name with
  | some declaration => some declaration.position
  | none => (declarations.imports.lookup name).map ImportBinding.position

/-- The statement of an alias. -/
def statement (declarations : Declarations) (declaration : AliasDeclaration) : List Char :=
  slice declarations.source declaration.start declaration.stop

/-- The right side of an alias. -/
def rightSide (declarations : Declarations) (declaration : AliasDeclaration) : List Char :=
  slice declarations.source declaration.sideStart declaration.sideStop

end Declarations

end TypeSchema
