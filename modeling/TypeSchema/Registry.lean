/-
**The types of one run.**

A `Registry` holds one entry for each name. Its names, entries, schemas and sources come in the
order of the code points of the names, whatever the order in which they were added.
-/

import TypeSchema.Json.Write
import TypeSchema.Schema.Compile

namespace TypeSchema

/-- An exported type: its name, the file and the text it comes from, and its schema. -/
structure TypeEntry where
  name : String
  sourcePath : String
  snippet : String
  schema : Json

/-- A name that has an entry already. -/
structure DuplicateType where
  name : String
deriving DecidableEq

/-- The wording of a second entry. -/
def DuplicateType.message (error : DuplicateType) : String :=
  s!"type {error.name} exported more than once"

/-- Entries by name, in the order of their arrival. -/
structure Registry where
  added : List TypeEntry

namespace Registry

/-- A registry without entries. -/
def empty : Registry := ⟨[]⟩

/-- The entry of a name. -/
def get? (registry : Registry) (name : String) : Option TypeEntry :=
  registry.added.find? fun entry => entry.name == name

/-- Whether a name has an entry. -/
def contains (registry : Registry) (name : String) : Bool := (registry.get? name).isSome

/-- One more entry, unless its name has one. -/
def add (registry : Registry) (entry : TypeEntry) : Except DuplicateType Registry :=
  if registry.contains entry.name then .error ⟨entry.name⟩ else .ok ⟨registry.added ++ [entry]⟩

/-- The number of entries. -/
def size (registry : Registry) : Nat := registry.added.length

/-- The names in order. -/
def names (registry : Registry) : List String := sortNames (registry.added.map TypeEntry.name)

/-- The entries in the order of their names. -/
def entries (registry : Registry) : List TypeEntry := registry.names.filterMap registry.get?

/-- The schemas by name. -/
def schemas (registry : Registry) : List (String × Json) :=
  registry.entries.map fun entry => (entry.name, entry.schema)

/-- The source texts by name. -/
def sources (registry : Registry) : List (String × String) :=
  registry.entries.map fun entry => (entry.name, entry.snippet)

/-- The document of all schemas. -/
def document (registry : Registry) : String := (Json.object registry.schemas).indented

end Registry

end TypeSchema
