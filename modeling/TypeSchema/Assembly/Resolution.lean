/-
**From an export to its type.**

* `typeAt`: the type of a declared name is what the type checker says it is at that place;
* `typeByName`: the first export of that name in a module decides. An alias is looked up at its
  place, a name of the module where it is bound, a name of another module in that one; a chain of
  modules may be as long as the settings allow;
* `Finding`: an export comes to an entry, or is skipped for a reason: it is no type, or has no
  schema;
* `Declarations.finding`: the inquiry for one export.
-/

import TypeSchema.Assembly.Inquiry
import TypeSchema.Source.Scan
import TypeSchema.TypeExpr.Alias

namespace TypeSchema

/-- A type with the file and the text it comes from. -/
structure ResolvedType where
  path : String
  source : String
  type : TypeNode

/-- The declarations of a file. -/
def FileTree.declarations (files : FileTree) (path : String) : Inquiry Declarations :=
  Inquiry.ofExcept .file <| (files.read (Path.ofText path)).map fun text =>
    Declarations.ofSource path text.toList

/-- The type of the name at a position. -/
def typeAt (path : String) (position : Position) : Inquiry ResolvedType := do
  let text ← Inquiry.answer (.typeAt path position.line position.column)
  let statement ← Inquiry.ofExcept .text (Alias.ofText text.toList (some path) position)
  return ⟨path, statement.source, statement.type⟩

/-- What an exported name stands for: a type, or nothing. -/
inductive Referent where
  | type (resolved : ResolvedType)
  | unbound (name : String)

/-- What a name of a module stands for that is exported under another one. -/
def Declarations.referent (declarations : Declarations) (name exported : String) :
    Inquiry Referent :=
  match declarations.localPosition? name with
  | none => return .unbound exported
  | some position => .type <$> typeAt declarations.path position

/-- What the export of a module under a name stands for. `chain` holds the modules before this one,
`hops` counts how many modules may be read. -/
def typeByName (files : FileTree) (limit : Nat) :
    (hops : Nat) → (chain : List (String × String)) → (path name : String) →
      Inquiry Referent
  | 0, chain, path, name => .fail (.longChain ⟨chain ++ [(path, name)], limit⟩)
  | hops + 1, chain, path, name => do
    let declarations ← files.declarations path
    match declarations.exports.find? fun entry => entry.name == name with
    | none => .fail (.notFound name path)
    | some (.declared declaration) => .type <$> typeAt declarations.path declaration.position
    | some (.specifier ⟨localName, _, none, _⟩) => declarations.referent localName name
    | some (.specifier ⟨localName, _, some module, _⟩) =>
      let target ← Inquiry.answer (.findModule module declarations.path)
      typeByName files limit hops (chain ++ [(path, name)]) target localName

/-- What an export of a module stands for. -/
def Declarations.exported (files : FileTree) (limit : Nat) (declarations : Declarations) :
    Export → Inquiry Referent
  | .declared declaration => .type <$> typeAt declarations.path declaration.position
  | .specifier ⟨localName, exported, none, _⟩ => declarations.referent localName exported
  | .specifier ⟨localName, _, some module, _⟩ => do
    let target ← Inquiry.answer (.findModule module declarations.path)
    typeByName files limit (limit + 1) [] target localName

/-- What an export comes to. -/
inductive Finding where
  | entry (entry : TypeEntry)
  /-- An export without a schema, and why it has none. -/
  | skipped (name reason : String)

/-- The reason to skip an export that names nothing. -/
def unboundReason : String := "not a type export"

/-- The line that reports a skipped export. -/
def skipLine (name reason : String) : String := s!"Skipping type {name}: {reason}"

/-- The line that reports a finding, if there is one. -/
def Finding.line? : Finding → Option String
  | entry _ => none
  | skipped name reason => some (skipLine name reason)

/-- The registry with a finding; only an entry changes it. -/
def Registry.record (registry : Registry) : Finding → Except DuplicateType Registry
  | .entry entry => registry.add entry
  | .skipped _ _ => .ok registry

/-- What a type comes to that is exported under a name, with the statement that declares it. -/
def ResolvedType.finding (resolved : ResolvedType) (name snippet : String) :
    Except AssemblyError Finding :=
  match resolved.type.schema with
  | .ok schema => .ok (.entry ⟨name, resolved.path, snippet, schema⟩)
  | .error defect =>
    if defect.isMisuse then .error (.misuse defect) else .ok (.skipped name defect.message)

/-- The statement that declares a type under a name. -/
def exportStatement (name source : String) : String := s!"export type {name} = {source};"

/-- What an export of a module comes to. -/
def Declarations.finding (files : FileTree) (limit : Nat) (declarations : Declarations)
    (entry : Export) : Inquiry Finding := do
  match ← declarations.exported files limit entry with
  | .unbound name => return .skipped name unboundReason
  | .type resolved =>
    .settled (resolved.finding entry.name (exportStatement entry.name resolved.source))

end TypeSchema
