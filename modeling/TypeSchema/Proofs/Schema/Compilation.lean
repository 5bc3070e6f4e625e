/-
**Which types have a schema, and which one.**

For each construct one statement says when it has a schema and what that schema is made of:

* `schemas_eq_ok_iff`, `propertySchemas_eq_ok_iff`: a list of types has schemas when each of them
  has one;
* `schema_nullable_iff`, `schema_tuple_iff`, `schema_union_iff`, `schema_generic_iff`: the types
  that are built from other ones;
* `schema_indexed_iff`, `schema_object_iff`: objects with an indexer and without.
-/

import Mathlib.Data.List.Forall2
import TypeSchema.Proofs.Result
import TypeSchema.Schema.Compile

namespace TypeSchema

/-! ### Lists of types -/

theorem schemas_eq_ok_iff {types : List TypeNode} {results : List Json} :
    schemas types = .ok results ↔
      List.Forall₂ (fun type schema => type.schema = .ok schema) types results := by
  induction types generalizing results with
  | nil =>
    rw [schemas, List.forall₂_nil_left_iff]
    simp [eq_comm]
  | cons type rest ih =>
    rw [schemas, bind_eq_ok_iff, List.forall₂_cons_left_iff]
    constructor
    · rintro ⟨schema, compiled, others⟩
      obtain ⟨more, compiledRest, same⟩ := bind_eq_ok_iff.mp others
      exact ⟨schema, more, compiled, ih.mp compiledRest, pure_eq_ok_iff.mp same⟩
    · rintro ⟨schema, more, compiled, compiledRest, same⟩
      exact ⟨schema, compiled,
        bind_eq_ok_iff.mpr ⟨more, ih.mpr compiledRest, pure_eq_ok_iff.mpr same⟩⟩

/-- A property and the field of its schema. -/
def HasSchema (property : Property TypeNode) (field : String × Json) : Prop :=
  field.1 = property.name ∧ property.type.schema = .ok field.2

theorem propertySchemas_eq_ok_iff {properties : List (Property TypeNode)}
    {fields : List (String × Json)} :
    propertySchemas properties = .ok fields ↔ List.Forall₂ HasSchema properties fields := by
  induction properties generalizing fields with
  | nil =>
    rw [propertySchemas, List.forall₂_nil_left_iff]
    simp [eq_comm]
  | cons property rest ih =>
    obtain ⟨name, type, optional⟩ := property
    rw [propertySchemas, bind_eq_ok_iff, List.forall₂_cons_left_iff]
    constructor
    · rintro ⟨schema, compiled, others⟩
      obtain ⟨more, compiledRest, same⟩ := bind_eq_ok_iff.mp others
      exact ⟨(name, schema), more, ⟨rfl, compiled⟩, ih.mp compiledRest, pure_eq_ok_iff.mp same⟩
    · rintro ⟨⟨_, schema⟩, more, ⟨rfl, compiled⟩, compiledRest, same⟩
      exact ⟨schema, compiled,
        bind_eq_ok_iff.mpr ⟨more, ih.mpr compiledRest, pure_eq_ok_iff.mpr same⟩⟩

/-- Property schemas keep the names of their properties. -/
theorem map_fst_propertySchemas {properties : List (Property TypeNode)}
    {fields : List (String × Json)} (each : List.Forall₂ HasSchema properties fields) :
    fields.map Prod.fst = properties.map Property.name := by
  induction each with
  | nil => rfl
  | cons first _ ih => rw [List.map_cons, List.map_cons, first.1, ih]

/-! ### Types built from other types -/

namespace TypeNode

attribute [local simp] TypeNode.schema map_eq_ok_iff

theorem schema_nullable_iff {inner : TypeNode} {schema : Json} :
    (nullable inner).schema = .ok schema ↔
      ∃ result, inner.schema = .ok result ∧
        schema = choiceSchema [.object (kindSchema .null), result] := by
  simp

theorem schema_tuple_iff {elements : List TypeNode} {schema : Json} :
    (tuple elements).schema = .ok schema ↔
      ∃ results, schemas elements = .ok results ∧ schema = arraySchema (.array results) := by
  simp

theorem schema_union_iff {alternatives : List TypeNode} {schema : Json} :
    (union alternatives).schema = .ok schema ↔
      ∃ results, schemas alternatives = .ok results ∧ schema = choiceSchema results := by
  simp

theorem schema_generic_iff {name : String} {arguments : List TypeNode} {schema : Json} :
    (generic name arguments).schema = .ok schema ↔
      ∃ inner result, arguments = [inner] ∧ inner.schema = .ok result ∧
        (name = "Array" ∧ schema = arraySchema result ∨
          name = "$Exact" ∧ schema = exactSchema result) := by
  by_cases isArray : ∃ inner, name = "Array" ∧ arguments = [inner]
  · obtain ⟨inner, rfl, rfl⟩ := isArray
    simp
  by_cases isExact : ∃ inner, name = "$Exact" ∧ arguments = [inner]
  · obtain ⟨inner, rfl, rfl⟩ := isExact
    simp
  -- Any other name, and any other number of arguments, is a defect.
  rw [TypeNode.schema]
  · constructor
    · intro compiled
      split at compiled <;> cases compiled
    · rintro ⟨inner, result, single, _, ⟨named, _⟩ | ⟨named, _⟩⟩
      · exact (isArray ⟨inner, named, single⟩).elim
      · exact (isExact ⟨inner, named, single⟩).elim
  · exact fun inner named single => isArray ⟨inner, named, single⟩
  · exact fun inner named single => isExact ⟨inner, named, single⟩

theorem schema_indexed_iff {properties : List (Property TypeNode)} {exact hasCallSignature : Bool}
    {indexer : Indexer TypeNode} {schema : Json} :
    (object properties exact (some indexer) hasCallSignature).schema = .ok schema ↔
      hasCallSignature = false ∧ properties = [] ∧
        ∃ result, indexer.value.schema = .ok result ∧ schema = indexedSchema result := by
  obtain ⟨value, key⟩ := indexer
  cases hasCallSignature with
  | true => simp
  | false =>
    cases properties with
    | nil =>
      simp [indexerSchema]
    | cons property rest => simp

theorem schema_object_iff {properties : List (Property TypeNode)} {exact hasCallSignature : Bool}
    {schema : Json} :
    (object properties exact none hasCallSignature).schema = .ok schema ↔
      hasCallSignature = false ∧ ∃ fields, propertySchemas properties = .ok fields ∧
        schema = objectSchema exact fields
          ((properties.filter fun property => !property.optional).map Property.name) := by
  cases hasCallSignature with
  | true => simp
  | false => simp

end TypeNode

end TypeSchema
