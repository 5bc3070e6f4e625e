/-
**What schemas are made of.**

`Json.Plain`: every object inside a value has distinct names, every number can be spelled, and null
stands nowhere. `plain_of_schema`: **the schema of a type that a text can denote is such a value.**
-/

import TypeSchema.Proofs.Json.Fields
import TypeSchema.Proofs.Json.Parts
import TypeSchema.Proofs.Schema.Compilation
import TypeSchema.Proofs.TypeNode.Textual

namespace TypeSchema

namespace Json

/-- A value whose names are distinct and whose numbers can be spelled; null is none. -/
def PlainPart : Json → Prop
  | null => False
  | object fields => (fields.map Prod.fst).Nodup
  | number value => value.Spellable
  | _ => True

/-- A value all of whose parts are so. -/
def Plain (value : Json) : Prop := ∀ part ∈ value.parts, part.PlainPart

theorem plain_bool (truth : Bool) : (bool truth).Plain := by simp [Plain, parts, PlainPart]

theorem plain_string (text : String) : (string text).Plain := by simp [Plain, parts, PlainPart]

theorem plain_number {value : Number} (spellable : value.Spellable) : (number value).Plain := by
  simpa [Plain, parts, PlainPart] using spellable

theorem plain_array_iff {items : List Json} :
    (array items).Plain ↔ ∀ item ∈ items, item.Plain :=
  forall_parts_array.trans (and_iff_right trivial)

theorem plain_object_iff {fields : List (String × Json)} :
    (object fields).Plain ↔ (fields.map Prod.fst).Nodup ∧ ∀ field ∈ fields, field.2.Plain :=
  forall_parts_object

end Json

attribute [local simp] Json.plain_bool Json.plain_string Json.plain_array_iff Json.plain_object_iff

/-! ### Fragments -/

theorem plain_literal (kind : Kind) {value : Json} (plain : value.Plain) :
    (Json.object (kindSchema kind ++ [("enum", .array [value])])).Plain := by
  simp [kindSchema, plain]

theorem plain_choiceSchema {alternatives : List Json} (each : ∀ schema ∈ alternatives, schema.Plain) :
    (choiceSchema alternatives).Plain := by
  simpa [choiceSchema] using each

theorem plain_arraySchema {items : Json} (plain : items.Plain) : (arraySchema items).Plain := by
  simp [arraySchema, plain]

theorem plain_indexedSchema {value : Json} (plain : value.Plain) : (indexedSchema value).Plain := by
  simp [indexedSchema, plain]

theorem plain_exactSchema {schema : Json} (plain : schema.Plain) : (exactSchema schema).Plain := by
  unfold exactSchema
  split
  · obtain ⟨distinct, each⟩ := Json.plain_object_iff.mp plain
    refine Json.plain_object_iff.mpr ⟨nodup_setField distinct, fun field member => ?_⟩
    rcases mem_of_mem_setField member with rfl | old
    · exact Json.plain_bool false
    · exact each field old
  · exact plain

theorem plain_objectSchema (exact : Bool) {properties : List (String × Json)}
    (required : List String) (each : ∀ property ∈ properties, property.2.Plain) :
    (objectSchema exact properties required).Plain := by
  have collected : (Json.object (collectFields properties)).Plain := by
    refine Json.plain_object_iff.mpr ⟨nodup_collectFields properties, ?_⟩
    exact fun property member => each property (mem_of_mem_collectFields member)
  have names : (Json.array ((sortNames required).map .string)).Plain := by simp
  cases exact <;> simp [objectSchema, collected, names]

/-! ### Schemas -/

/-- Each of some schemas is the schema of one of the types. -/
theorem exists_of_mem_schemas {types : List TypeNode} {results : List Json}
    (compiled : schemas types = .ok results) {schema : Json} (member : schema ∈ results) :
    ∃ type ∈ types, type.schema = .ok schema := by
  have each := schemas_eq_ok_iff.mp compiled
  clear compiled
  induction each with
  | nil => cases member
  | @cons type first types results isFirst _ ih =>
    rcases List.mem_cons.mp member with rfl | inRest
    · exact ⟨type, List.mem_cons_self, isFirst⟩
    · obtain ⟨other, inTypes, isSchema⟩ := ih inRest
      exact ⟨other, List.mem_cons_of_mem _ inTypes, isSchema⟩

/-- Each of some property schemas is the schema of one of the properties. -/
theorem exists_of_mem_propertySchemas {properties : List (Property TypeNode)}
    {fields : List (String × Json)} (compiled : propertySchemas properties = .ok fields)
    {field : String × Json} (member : field ∈ fields) :
    ∃ property ∈ properties, property.type.schema = .ok field.2 := by
  have each := propertySchemas_eq_ok_iff.mp compiled
  clear compiled
  induction each with
  | nil => cases member
  | @cons property first properties fields isFirst _ ih =>
    rcases List.mem_cons.mp member with rfl | inRest
    · exact ⟨property, List.mem_cons_self, isFirst.2⟩
    · obtain ⟨other, inProperties, isSchema⟩ := ih inRest
      exact ⟨other, List.mem_cons_of_mem _ inProperties, isSchema⟩

/-- **The schema of a type that a text can denote is a plain value.** -/
theorem plain_of_schema {type : TypeNode} (textual : type.Textual) {schema : Json}
    (compiled : type.schema = .ok schema) : schema.Plain := by
  induction textual generalizing schema with
  | text value =>
    cases compiled
    exact plain_literal _ (Json.plain_string value)
  | truth value =>
    cases compiled
    exact plain_literal _ (Json.plain_bool value)
  | number spellable =>
    cases compiled
    exact plain_literal _ (Json.plain_number spellable)
  | @primitive kind named =>
    cases kind with
    | void => cases compiled
    | any =>
      cases compiled
      simp
    | other name => exact absurd rfl (named name)
    | _ =>
      cases compiled
      simp [kindSchema]
  | nullable _ ih =>
    obtain ⟨result, isResult, rfl⟩ := TypeNode.schema_nullable_iff.mp compiled
    exact plain_choiceSchema (by simpa [kindSchema] using ih isResult)
  | tuple _ ih =>
    obtain ⟨results, areResults, rfl⟩ := TypeNode.schema_tuple_iff.mp compiled
    refine plain_arraySchema (Json.plain_array_iff.mpr fun schema member => ?_)
    obtain ⟨type, inside, isSchema⟩ := exists_of_mem_schemas areResults member
    exact ih type inside isSchema
  | union _ ih =>
    obtain ⟨results, areResults, rfl⟩ := TypeNode.schema_union_iff.mp compiled
    refine plain_choiceSchema fun schema member => ?_
    obtain ⟨type, inside, isSchema⟩ := exists_of_mem_schemas areResults member
    exact ih type inside isSchema
  | generic _ ih =>
    obtain ⟨inner, result, rfl, isResult, ⟨-, rfl⟩ | ⟨-, rfl⟩⟩ :=
      TypeNode.schema_generic_iff.mp compiled
    · exact plain_arraySchema (ih inner List.mem_cons_self isResult)
    · exact plain_exactSchema (ih inner List.mem_cons_self isResult)
  | @object properties exact hasCallSignature indexer _ _ ihProperties ihValues =>
    cases indexer with
    | some entry =>
      obtain ⟨-, -, result, isResult, rfl⟩ := TypeNode.schema_indexed_iff.mp compiled
      exact plain_indexedSchema (ihValues entry rfl isResult)
    | none =>
      obtain ⟨-, fields, areFields, rfl⟩ := TypeNode.schema_object_iff.mp compiled
      refine plain_objectSchema exact _ fun field member => ?_
      obtain ⟨property, inside, isSchema⟩ := exists_of_mem_propertySchemas areFields member
      exact ihProperties property inside isSchema

end TypeSchema
