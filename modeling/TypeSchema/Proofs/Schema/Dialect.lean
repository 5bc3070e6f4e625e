/-
**Valid schemas.**

* `Dialect`: what a standard leaves to its version: the names of kinds, how many schemas a list may
  have, and which lists of names may be required; `Dialect.draft7` is Draft 7;
* `Json.IsSchema`: a schema of a dialect. It has no keywords but the eight of the compiler, each
  with an argument of its form, and its inner schemas are schemas of the same dialect;
* `isSchema_object_iff`: the keywords can be looked at one by one;
* `isSchema_kind_iff` to `isSchema_objectSchema_iff`: **which of the schemas that the compiler makes
  are valid**;
* `isSchema_exactSchema_iff`: closing a schema makes no difference.
-/

import TypeSchema.Proofs.Schema.Meaning

namespace TypeSchema

/-! ### Dialects -/

/-- The seven names of kinds. -/
def kindNames : List String :=
  ["null", "boolean", "object", "array", "number", "string", "integer"]

/-- What a version of the standard allows. -/
structure Dialect where
  IsKind : String → Prop
  /-- So many schemas may be given for the places of an array. -/
  IsTuple : Nat → Prop
  /-- There may be so many alternatives. -/
  IsChoice : Nat → Prop
  /-- These names may be required. -/
  IsRequired : List String → Prop
  kinds : ∀ name ∈ kindNames, IsKind name
  pair : IsChoice 2

namespace Dialect

/-- Draft 7: lists of schemas are not empty, and required names are not repeated. -/
def draft7 : Dialect where
  IsKind name := name ∈ kindNames
  IsTuple count := count ≠ 0
  IsChoice count := count ≠ 0
  IsRequired := List.Nodup
  kinds _ := id
  pair := by decide

/-- Draft 7 with empty tuples and repeated names. -/
def lenient : Dialect := { draft7 with
  IsTuple := fun _ => True
  IsRequired := fun _ => True }

/-- Any kinds, lists and names. -/
def loose : Dialect where
  IsKind _ := True
  IsTuple _ := True
  IsChoice _ := True
  IsRequired _ := True
  kinds _ _ := trivial
  pair := trivial

end Dialect

/-! ### Patterns -/

/-- The characters that have a meaning of their own in a pattern. -/
def patternMarks : List Char := "^$\\.*+?()[]|/\x7b\x7d".toList

mutual

/-- What can be repeated: a character, any character, or a group. -/
inductive IsAtom : List Char → Prop
  | char {c : Char} (plain : c ∉ patternMarks) : IsAtom [c]
  | any : IsAtom ['.']
  | group {inside : List Char} : IsPattern inside → IsAtom ('(' :: (inside ++ [')']))

/-- Patterns without classes, escapes, anchors and bounds: alternatives of atoms in sequence, each
perhaps repeated. -/
inductive IsPattern : List Char → Prop
  | empty : IsPattern []
  | once {atom rest : List Char} : IsAtom atom → IsPattern rest → IsPattern (atom ++ rest)
  | repeated {atom rest : List Char} {mark : Char} (isMark : mark ∈ ['*', '+', '?']) :
      IsAtom atom → IsPattern rest → IsPattern (atom ++ mark :: rest)
  | either {first rest : List Char} :
      IsPattern first → IsPattern rest → IsPattern (first ++ '|' :: rest)

end

/-- The pattern of an indexer is one. -/
theorem isPattern_anyName : IsPattern anyName.toList :=
  .repeated List.mem_cons_self .any .empty

/-! ### Schemas -/

mutual

/-- A schema of a dialect: a truth value, or keywords with names of their own that it allows. -/
def Json.IsSchema (dialect : Dialect) : Json → Prop
  | .bool _ => True
  | .object keywords => (keywords.map Prod.fst).Nodup ∧ AllowedKeywords dialect keywords
  | _ => False

/-- The dialect allows some keywords with their arguments. -/
def AllowedKeywords (dialect : Dialect) : List (String × Json) → Prop
  | [] => True
  | (keyword, argument) :: rest =>
    (match keyword, argument with
      | "type", .string kind => dialect.IsKind kind
      | "enum", .array _ => True
      | "required", .array names =>
        ∃ texts : List String, names = texts.map .string ∧ dialect.IsRequired texts
      | "properties", .object schemas =>
        (schemas.map Prod.fst).Nodup ∧ AreFieldSchemas dialect schemas
      | "patternProperties", .object schemas =>
        ((schemas.map Prod.fst).Nodup ∧ ∀ field ∈ schemas, IsPattern field.1.toList) ∧
          AreFieldSchemas dialect schemas
      | "additionalProperties", schema => schema.IsSchema dialect
      | "items", .array schemas => dialect.IsTuple schemas.length ∧ AreSchemas dialect schemas
      | "items", schema => schema.IsSchema dialect
      | "anyOf", .array schemas => dialect.IsChoice schemas.length ∧ AreSchemas dialect schemas
      | _, _ => False) ∧ AllowedKeywords dialect rest

/-- The values of some fields are schemas. -/
def AreFieldSchemas (dialect : Dialect) : List (String × Json) → Prop
  | [] => True
  | (_, schema) :: rest => schema.IsSchema dialect ∧ AreFieldSchemas dialect rest

/-- The items of a list are schemas. -/
def AreSchemas (dialect : Dialect) : List Json → Prop
  | [] => True
  | schema :: rest => schema.IsSchema dialect ∧ AreSchemas dialect rest

end

/-- The dialect allows a keyword with its argument. -/
def Allows (dialect : Dialect) (keyword : String) (argument : Json) : Prop :=
  AllowedKeywords dialect [(keyword, argument)]

section Keywords

variable {dialect : Dialect}

theorem areSchemas_iff {schemas : List Json} :
    AreSchemas dialect schemas ↔ ∀ schema ∈ schemas, schema.IsSchema dialect := by
  induction schemas with
  | nil => simp [AreSchemas]
  | cons schema rest ih => rw [AreSchemas, ih, List.forall_mem_cons]

theorem areFieldSchemas_iff {fields : List (String × Json)} :
    AreFieldSchemas dialect fields ↔ ∀ field ∈ fields, field.2.IsSchema dialect := by
  induction fields with
  | nil => simp [AreFieldSchemas]
  | cons field rest ih => rw [AreFieldSchemas, ih, List.forall_mem_cons]

theorem allowedKeywords_iff {keywords : List (String × Json)} :
    AllowedKeywords dialect keywords ↔ ∀ field ∈ keywords, Allows dialect field.1 field.2 := by
  induction keywords with
  | nil => simp [AllowedKeywords]
  | cons field rest ih =>
    rw [List.forall_mem_cons, ← ih, Allows, AllowedKeywords.eq_def, AllowedKeywords.eq_def _ [_]]
    simp [AllowedKeywords]

/-- **A schema allows what each of its keywords allows.** -/
theorem isSchema_object_iff {keywords : List (String × Json)} :
    (Json.object keywords).IsSchema dialect ↔
      (keywords.map Prod.fst).Nodup ∧ ∀ field ∈ keywords, Allows dialect field.1 field.2 := by
  rw [Json.IsSchema, allowedKeywords_iff]

attribute [local simp] Allows AllowedKeywords areSchemas_iff areFieldSchemas_iff

theorem allows_type_iff {kind : String} :
    Allows dialect "type" (.string kind) ↔ dialect.IsKind kind := by simp

theorem allows_enum (values : List Json) : Allows dialect "enum" (.array values) := by simp

theorem allows_required_iff {names : List String} :
    Allows dialect "required" (.array (names.map .string)) ↔ dialect.IsRequired names := by
  have injective : Function.Injective (List.map Json.string) :=
    List.map_injective_iff.mpr fun _ _ => Json.string.inj
  simp [injective.eq_iff]

theorem allows_properties_iff {fields : List (String × Json)} :
    Allows dialect "properties" (.object fields) ↔
      (fields.map Prod.fst).Nodup ∧ ∀ field ∈ fields, field.2.IsSchema dialect := by simp

theorem allows_patterns_iff {fields : List (String × Json)} :
    Allows dialect "patternProperties" (.object fields) ↔
      ((fields.map Prod.fst).Nodup ∧ ∀ field ∈ fields, IsPattern field.1.toList) ∧
        ∀ field ∈ fields, field.2.IsSchema dialect := by simp

theorem allows_additional_iff {schema : Json} :
    Allows dialect "additionalProperties" schema ↔ schema.IsSchema dialect := by
  cases schema <;> simp

theorem allows_items_iff {keywords : List (String × Json)} :
    Allows dialect "items" (.object keywords) ↔ (Json.object keywords).IsSchema dialect := by simp

theorem allows_tuple_iff {schemas : List Json} :
    Allows dialect "items" (.array schemas) ↔
      dialect.IsTuple schemas.length ∧ ∀ schema ∈ schemas, schema.IsSchema dialect := by simp

theorem allows_choice_iff {schemas : List Json} :
    Allows dialect "anyOf" (.array schemas) ↔
      dialect.IsChoice schemas.length ∧ ∀ schema ∈ schemas, schema.IsSchema dialect := by simp

end Keywords

/-! ### The schemas of the constructs -/

section Constructs

variable {dialect : Dialect}

theorem isSchema_kind_iff {kind : Kind} :
    (Json.object (kindSchema kind)).IsSchema dialect ↔ dialect.IsKind kind.name := by
  rw [isSchema_object_iff]
  simp [kindSchema, allows_type_iff]

theorem isSchema_literal_iff {kind : Kind} {value : Json} :
    (Json.object (kindSchema kind ++ [("enum", .array [value])])).IsSchema dialect ↔
      dialect.IsKind kind.name := by
  rw [isSchema_object_iff]
  simp [kindSchema, allows_type_iff, allows_enum]

theorem isSchema_choice_iff {schemas : List Json} :
    (choiceSchema schemas).IsSchema dialect ↔
      dialect.IsChoice schemas.length ∧ ∀ schema ∈ schemas, schema.IsSchema dialect := by
  rw [choiceSchema, isSchema_object_iff]
  simp [allows_choice_iff]

theorem isSchema_arrayOf_iff {keywords : List (String × Json)} :
    (arraySchema (.object keywords)).IsSchema dialect ↔
      (Json.object keywords).IsSchema dialect := by
  have isArray : dialect.IsKind "array" := dialect.kinds _ (by decide)
  rw [arraySchema, isSchema_object_iff]
  simp [allows_type_iff, allows_items_iff, isArray]

theorem isSchema_tuple_iff {schemas : List Json} :
    (arraySchema (.array schemas)).IsSchema dialect ↔
      dialect.IsTuple schemas.length ∧ ∀ schema ∈ schemas, schema.IsSchema dialect := by
  have isArray : dialect.IsKind "array" := dialect.kinds _ (by decide)
  rw [arraySchema, isSchema_object_iff]
  simp [allows_type_iff, allows_tuple_iff, isArray]

/-- The pattern of an indexer is valid, and so is the whole if the schema of its values is. -/
theorem isSchema_indexed_iff {value : Json} :
    (indexedSchema value).IsSchema dialect ↔ value.IsSchema dialect := by
  have isObject : dialect.IsKind "object" := dialect.kinds _ (by decide)
  have closed : (Json.bool false).IsSchema dialect := by simp [Json.IsSchema]
  have isPattern : IsPattern ['.', '*'] := isPattern_anyName
  rw [indexedSchema, isSchema_object_iff]
  simp [allows_type_iff, allows_patterns_iff, allows_additional_iff, isObject, closed, isPattern]

/-- Required names are given in order, and of several schemas of a name the last one is. -/
theorem isSchema_objectSchema_iff {exact : Bool} {properties : List (String × Json)}
    {required : List String} :
    (objectSchema exact properties required).IsSchema dialect ↔
      dialect.IsRequired (sortNames required) ∧
        ∀ field ∈ collectFields properties, field.2.IsSchema dialect := by
  have isObject : dialect.IsKind "object" := dialect.kinds _ (by decide)
  have closed : (Json.bool false).IsSchema dialect := by simp [Json.IsSchema]
  have distinct := nodup_collectFields properties
  rw [objectSchema, isSchema_object_iff]
  cases exact with
  | false =>
    simp [allows_type_iff, allows_properties_iff, allows_required_iff, isObject, distinct, and_comm]
  | true =>
    simp [allows_type_iff, allows_properties_iff, allows_required_iff, allows_additional_iff,
      isObject, closed, distinct, and_comm]

/-- **Closing a schema** makes no difference to its validity. -/
theorem isSchema_exactSchema_iff {keywords : List (String × Json)} (closable : Closable keywords) :
    (exactSchema (.object keywords)).IsSchema dialect ↔
      (Json.object keywords).IsSchema dialect := by
  by_cases isObject : keywords.lookup "type" = some (.string "object")
  · have closed : Allows dialect "additionalProperties" (.bool false) :=
      allows_additional_iff.mpr (by simp [Json.IsSchema])
    rw [exactSchema_of_object isObject, isSchema_object_iff, isSchema_object_iff]
    constructor
    · rintro ⟨distinct, each⟩
      refine ⟨?_, fun field member => ?_⟩
      · rw [map_fst_setField] at distinct
        split at distinct
        · exact distinct
        · exact distinct.sublist (List.sublist_append_left _ _)
      · by_cases closes : field.1 = "additionalProperties"
        · obtain ⟨keyword, argument⟩ := field
          subst closes
          rw [closable argument member]
          exact closed
        · exact each field (mem_setField_of_ne member closes)
    · rintro ⟨distinct, each⟩
      refine ⟨nodup_setField distinct, fun field member => ?_⟩
      obtain rfl | old := mem_of_mem_setField member
      · exact closed
      · exact each field old
  · rw [exactSchema_of_other isObject]

end Constructs

end TypeSchema
