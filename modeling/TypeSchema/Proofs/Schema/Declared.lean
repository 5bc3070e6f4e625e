/-
**The schema of an object with declared properties.**

* `exists_propertySchemas`: properties whose types compile have schemas, name by name;
* `pairwise_lt_sortNames_iff`: sorted names increase strictly exactly if none is repeated;
* `object_schema_declares`: **what the schema of an object says**: the declared names in the order
  of their first declarations, each with the schema of its last one, the names that must be there,
  and that there are no others exactly if the object is exact;
* `repeated_name_required_twice`: a name that is declared twice is required twice.
-/

import TypeSchema.Proofs.Schema.Defects
import TypeSchema.Proofs.Schema.Meaning

namespace TypeSchema

/-! ### Names in order -/

theorem perm_sortNames (names : List String) : (sortNames names).Perm names :=
  List.mergeSort_perm names _

/-- Sorted names increase strictly exactly if none of them is repeated. -/
theorem pairwise_lt_sortNames_iff (names : List String) :
    (sortNames names).Pairwise (· < ·) ↔ names.Nodup := by
  rw [← (perm_sortNames names).nodup_iff]
  constructor
  · intro increasing
    refine increasing.imp fun {a b} less (same : a = b) => ?_
    exact String.lt_irrefl b (same ▸ less)
  · intro nodup
    refine ((pairwise_sortNames names).and nodup).imp fun {a b} ordered => ?_
    by_contra notLess
    exact ordered.2 (String.le_antisymm ordered.1 notLess)

namespace TypeNode

/-! ### Declarations -/

variable {properties : List (Property TypeNode)}

/-- The names of the declarations that are not optional. -/
def requiredNames (properties : List (Property TypeNode)) : List String :=
  (properties.filter fun property => !property.optional).map Property.name

theorem mem_requiredNames (name : String) :
    name ∈ requiredNames properties ↔
      ∃ property ∈ properties, property.name = name ∧ property.optional = false := by
  unfold requiredNames
  simp only [List.mem_map, List.mem_filter, Bool.not_eq_true']
  exact exists_congr fun property => by rw [and_assoc, and_comm (a := property.optional = false)]

/-- Properties whose types have schemas have schemas themselves. -/
theorem exists_propertySchemas
    (each : ∀ property ∈ properties, ∃ schema, property.type.schema = .ok schema) :
    ∃ fields, List.Forall₂ HasSchema properties fields := by
  induction properties with
  | nil => exact ⟨[], .nil⟩
  | cons property rest ih =>
    rw [List.forall_mem_cons] at each
    obtain ⟨schema, compiled⟩ := each.1
    obtain ⟨fields, others⟩ := ih each.2
    exact ⟨(property.name, schema) :: fields, .cons ⟨rfl, compiled⟩ others⟩

/-- A name has the schema of its last declaration. -/
theorem lookup_propertySchemas {fields : List (String × Json)}
    (each : List.Forall₂ HasSchema properties fields) (name : String) (schema : Json) :
    (collectFields fields).lookup name = some schema ↔
      ∃ property, lastDeclaration? properties name = some property ∧
        property.type.compile = .ok (.compiled schema) := by
  rw [lookup_collectFields]
  obtain ⟨absent, missing⟩ | ⟨property, last, declared, found, compiled⟩ :=
    lastDeclaration_and_schema each name
  · simp [absent, missing]
  · rw [found, declared]
    simp [← schema_eq_ok_iff, compiled]

/-! ### The main result -/

/-- **What the schema of an object says.** Its `properties` are the declared names in the order of
their first declarations, each with the schema of its last one. Its `required` names are in order,
each as often as it is declared without being optional; they increase strictly exactly if no name
is declared so twice. Other names are forbidden exactly if the object is exact. -/
theorem object_schema_declares (exact : Bool)
    (each : ∀ property ∈ properties, ∃ schema, property.type.compile = .ok (.compiled schema)) :
    ∃ (schema : Json) (fields : List (String × Json)) (required : List String),
      (object properties exact none false).compile = .ok (.compiled schema) ∧
      (schema.field? "properties" = some (.object fields) ∧
        fields.map Prod.fst = (properties.map Property.name).eraseDups ∧
        ∀ name inner, fields.lookup name = some inner ↔
          ∃ property, lastDeclaration? properties name = some property ∧
            property.type.compile = .ok (.compiled inner)) ∧
      (schema.field? "required" = some (.array (required.map .string)) ∧
        required.Perm (requiredNames properties) ∧ required.Pairwise (· ≤ ·) ∧
        (∀ name, name ∈ required ↔
          ∃ property ∈ properties, property.name = name ∧ property.optional = false) ∧
        (required.Pairwise (· < ·) ↔ (requiredNames properties).Nodup)) ∧
      schema.field? "additionalProperties" = if exact then some (.bool false) else none := by
  simp only [← schema_eq_ok_iff] at each
  obtain ⟨fields, formed⟩ := exists_propertySchemas each
  have made : (object properties exact none false).compile =
      .ok (.compiled (objectSchema exact fields (requiredNames properties))) :=
    schema_eq_ok_iff.mp (schema_object_iff.mpr
      ⟨rfl, fields, propertySchemas_eq_ok_iff.mpr formed, rfl⟩)
  refine ⟨_, collectFields fields, sortNames (requiredNames properties), made,
    ⟨?_, ?_, lookup_propertySchemas formed⟩,
    ⟨?_, perm_sortNames _, pairwise_sortNames _, ?_, pairwise_lt_sortNames_iff _⟩, ?_⟩
  · rfl
  · rw [map_fst_collectFields, map_fst_propertySchemas formed]
  · rfl
  · intro name
    rw [mem_sortNames, mem_requiredNames]
  · cases exact <;> rfl

/-- A name that is declared again, and then without a question mark. -/
theorem object_schema_declares_again :
    let properties : List (Property TypeNode) :=
      [⟨"c", .primitive .string, true⟩, ⟨"a", .primitive .number, false⟩,
        ⟨"c", .primitive .boolean, false⟩]
    (∀ property ∈ properties, ∃ schema, property.type.compile = .ok (.compiled schema)) ∧
      ∃ (schema : Json) (fields : List (String × Json)) (required : List String),
        (object properties true none false).compile = .ok (.compiled schema) ∧
        schema.field? "properties" = some (.object fields) ∧ fields.map Prod.fst = ["c", "a"] ∧
        fields.lookup "c" = some (.object (kindSchema .boolean)) ∧
        schema.field? "required" = some (.array (required.map .string)) ∧
        required.Pairwise (· < ·) ∧ "c" ∈ required ∧
        schema.field? "additionalProperties" = some (.bool false) := by
  intro properties
  have each : ∀ property ∈ properties, ∃ schema,
      property.type.compile = .ok (.compiled schema) := by
    simp [properties, compile]
  obtain ⟨schema, fields, required, made, ⟨hasFields, names, types⟩,
    ⟨hasRequired, -, -, members, isSet⟩, closed⟩ := object_schema_declares true each
  refine ⟨each, schema, fields, required, made, hasFields, names, ?_, hasRequired, ?_, ?_, closed⟩
  · exact (types _ _).mpr ⟨_, rfl, rfl⟩
  · exact isSet.mpr (by decide)
  · exact (members _).mpr ⟨⟨"c", .primitive .boolean, false⟩, by simp [properties], rfl, rfl⟩

/-- **A name that is declared twice is required twice.** -/
theorem repeated_name_required_twice :
    let properties : List (Property TypeNode) :=
      [⟨"a", .primitive .string, false⟩, ⟨"a", .primitive .number, false⟩]
    (∀ property ∈ properties, ∃ schema, property.type.compile = .ok (.compiled schema)) ∧
      ∃ schema, (object properties false none false).compile = .ok (.compiled schema) ∧
        schema.field? "required" = some (.array [.string "a", .string "a"]) ∧
        ¬ ∃ required : List String,
          schema.field? "required" = some (.array (required.map .string)) ∧
            required.Pairwise (· < ·) := by
  intro properties
  have sorted : sortNames ["a", "a"] = ["a", "a"] := List.mergeSort_of_pairwise (by decide)
  have twice : (objectSchema false [("a", .object (kindSchema .string)),
      ("a", .object (kindSchema .number))] ["a", "a"]).field? "required" =
        some (.array [.string "a", .string "a"]) := by
    show some (Json.array ((sortNames ["a", "a"]).map .string)) = _
    rw [sorted]
    rfl
  refine ⟨by simp [properties, compile], _, rfl, twice, ?_⟩
  rintro ⟨required, same, increasing⟩
  have names : required = ["a", "a"] := by
    have := Option.some.inj (same.symm.trans twice)
    exact List.map_injective_iff.mpr (fun _ _ => Json.string.inj) (Json.array.inj this)
  subst names
  exact absurd increasing (by decide)

end TypeNode

end TypeSchema
