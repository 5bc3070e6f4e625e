/-
**The order of the entries of a registry does not matter.**

* `get?_eq_some_iff`: **an entry is found by its name**, if no two entries share one;
* `alike_of_perm`: **registries with the same entries have the same outputs**, in whatever order the
  entries were added.
-/

import Mathlib.Data.List.Nodup
import TypeSchema.Generated.Validator
import TypeSchema.Proofs.Schema.Acceptance
import TypeSchema.Registry

namespace TypeSchema

/-- The names of the entries, in the order of their arrival. -/
def Registry.taken (registry : Registry) : List String := registry.added.map TypeEntry.name

namespace Registry

variable {registry other : Registry} {name : String} {entry : TypeEntry}

/-- **An entry is found by its name.** -/
theorem get?_eq_some_iff (distinct : registry.taken.Nodup) :
    registry.get? name = some entry ↔ entry ∈ registry.added ∧ entry.name = name := by
  rw [get?]
  constructor
  · intro found
    exact ⟨List.mem_of_find?_eq_some found, by simpa using List.find?_some found⟩
  · rintro ⟨member, rfl⟩
    cases found : registry.added.find? fun other => other.name == entry.name with
    | none => simpa using List.find?_eq_none.mp found entry member
    | some first =>
      have same : first.name = entry.name := by simpa using List.find?_some found
      rw [List.inj_on_of_nodup_map distinct (List.mem_of_find?_eq_some found) member same]

/-- Registries with the same outputs. -/
structure Alike (registry other : Registry) : Prop where
  names : registry.names = other.names
  entries : registry.entries = other.entries
  schemas : registry.schemas = other.schemas
  sources : registry.sources = other.sources
  document : registry.document = other.document
  validatorModule : ∀ source, registry.validatorModule source = other.validatorModule source

/-- **The order of the entries does not matter.** -/
theorem alike_of_perm (distinct : registry.taken.Nodup) (perm : registry.added.Perm other.added) :
    registry.Alike other := by
  have takenPerm : registry.taken.Perm other.taken := perm.map _
  have names : registry.names = other.names := sortNames_congr takenPerm
  have found (name : String) : registry.get? name = other.get? name := by
    ext entry
    rw [get?_eq_some_iff distinct, get?_eq_some_iff (takenPerm.nodup_iff.mp distinct),
      perm.mem_iff]
  have entries : registry.entries = other.entries := by
    rw [Registry.entries, Registry.entries, names]
    exact List.filterMap_congr fun name _ => found name
  have schemas : registry.schemas = other.schemas := by
    rw [Registry.schemas, Registry.schemas, entries]
  have sources : registry.sources = other.sources := by
    rw [Registry.sources, Registry.sources, entries]
  refine ⟨names, entries, schemas, sources, ?_, fun source => ?_⟩
  · rw [document, document, schemas]
  · rw [Registry.validatorModule, Registry.validatorModule, sourceText, sourceText, schemaLiteral,
      schemaLiteral, names, schemas, sources]

end Registry

end TypeSchema
