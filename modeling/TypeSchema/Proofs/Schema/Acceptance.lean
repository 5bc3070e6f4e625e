/-
**What a schema demands of a value.**

* `Json.Accepts`: a schema has no objection to a value; `accepts_object_iff`: it accepts what each
  of its keywords accepts, so that the keywords can be looked at one by one;
* `demands_type_iff` to `demands_anyOf_iff`: what the keywords demand;
* `accepts_kind_iff` to `accepts_objectSchema_iff`: **what the schemas of the single constructs
  demand**;
* `accepts_closed_iff`: closing a schema to additional properties leaves its other demands as they
  are, and forbids the names that its keywords do not cover.
-/

import TypeSchema.Proofs.Json.Equality
import TypeSchema.Proofs.Json.Fields
import TypeSchema.Schema.Validate

namespace TypeSchema

/-- A schema has no objection to a value. -/
def Json.Accepts (schema value : Json) : Prop := failures schema value = []

/-- One keyword of a schema has no objection to a value. -/
def Demands (whole : List (String × Json)) (keyword : String) (argument value : Json) : Prop :=
  keywordFailures whole [(keyword, argument)] value = []

/-! ### Keywords one by one -/

theorem keywordFailures_cons (whole : List (String × Json)) (keyword : String) (argument : Json)
    (rest : List (String × Json)) (value : Json) :
    keywordFailures whole ((keyword, argument) :: rest) value =
      keywordFailures whole [(keyword, argument)] value ++ keywordFailures whole rest value := by
  rw [keywordFailures.eq_def whole [(keyword, argument)], keywordFailures.eq_def]
  dsimp only
  rw [keywordFailures, List.append_nil]

theorem keywordFailures_eq_nil_iff (whole keywords : List (String × Json)) (value : Json) :
    keywordFailures whole keywords value = [] ↔
      ∀ keyword argument, (keyword, argument) ∈ keywords →
        Demands whole keyword argument value := by
  induction keywords with
  | nil => simp [keywordFailures]
  | cons first rest ih =>
    obtain ⟨keyword, argument⟩ := first
    rw [keywordFailures_cons, List.append_eq_nil_iff, ih]
    constructor
    · rintro ⟨head, tail⟩ other demanded member
      rcases List.mem_cons.mp member with same | inRest
      · cases same
        exact head
      · exact tail other demanded inRest
    · intro each
      exact ⟨each keyword argument List.mem_cons_self,
        fun other demanded member => each other demanded (List.mem_cons_of_mem _ member)⟩

/-- **A schema accepts what each of its keywords accepts.** -/
theorem accepts_object_iff (keywords : List (String × Json)) (value : Json) :
    (Json.object keywords).Accepts value ↔
      ∀ keyword argument, (keyword, argument) ∈ keywords →
        Demands keywords keyword argument value := by
  rw [Json.Accepts, failures, keywordFailures_eq_nil_iff]

/-! ### What the keywords demand -/

section Keywords

attribute [local simp] plainFailures keywordFailures

variable (whole : List (String × Json))

theorem demands_type_iff (name : String) (value : Json) :
    Demands whole "type" (.string name) value ↔ value.isOfKind name = true := by
  rw [Demands, keywordFailures.eq_def]
  simp

theorem demands_enum_iff (expected value : Json) :
    Demands whole "enum" (.array [expected]) value ↔ expected.same value = true := by
  rw [Demands, keywordFailures.eq_def]
  simp

theorem allFail_eq_false_iff (schemas : List Json) (value : Json) :
    allFail schemas value = false ↔ ∃ schema ∈ schemas, schema.Accepts value := by
  induction schemas with
  | nil => simp [allFail]
  | cons schema rest ih =>
    rw [allFail, Bool.and_eq_false_iff, ih]
    simp [Json.Accepts]

theorem demands_anyOf_iff (schemas : List Json) (value : Json) :
    Demands whole "anyOf" (.array schemas) value ↔ ∃ schema ∈ schemas, schema.Accepts value := by
  rw [← allFail_eq_false_iff, Demands, keywordFailures.eq_def]
  simp

/-- Every item against one schema. -/
theorem demands_items_iff (keywords : List (String × Json)) (value : Json) :
    Demands whole "items" (.object keywords) value ↔
      ∀ items, value = .array items → ∀ item ∈ items, (Json.object keywords).Accepts item := by
  cases value with
  | array items =>
    have places : Demands whole "items" (.object keywords) (.array items) ↔
        ∀ item place, (item, place) ∈ items.zipIdx → (Json.object keywords).Accepts item := by
      rw [Demands, keywordFailures.eq_def]
      simp [Json.Accepts]
    rw [places]
    constructor
    · rintro each _ ⟨⟩ item member
      obtain ⟨place, inside, rfl⟩ := List.mem_iff_getElem.mp member
      exact each items[place] place (List.mk_mem_zipIdx_iff_getElem?.mpr (by simp))
    · intro each item place member
      exact each items rfl item (List.fst_mem_of_mem_zipIdx member)
  | _ =>
    rw [Demands, keywordFailures.eq_def]
    simp

theorem tupleFailures_eq_nil_iff (place : Nat) (schemas items : List Json) :
    tupleFailures place schemas items = [] ↔
      ∀ (index : Nat) (_ : index < schemas.length) (_ : index < items.length),
        schemas[index].Accepts items[index] := by
  induction schemas generalizing place items with
  | nil => simp [tupleFailures]
  | cons schema rest ih =>
    cases items with
    | nil => simp [tupleFailures]
    | cons item items =>
      rw [tupleFailures, List.append_eq_nil_iff, List.map_eq_nil_iff, ih, forall_place_cons_iff]
      rfl

/-- Every item against the schema at its place. -/
theorem demands_tuple_iff (schemas : List Json) (value : Json) :
    Demands whole "items" (.array schemas) value ↔
      ∀ items, value = .array items →
        ∀ (index : Nat) (_ : index < schemas.length) (_ : index < items.length),
          schemas[index].Accepts items[index] := by
  rw [Demands, keywordFailures.eq_def]
  cases value with
  | array items =>
    simp [tupleFailures_eq_nil_iff]
  | _ => simp

theorem demands_required_iff (names : List String) (value : Json) :
    Demands whole "required" (.array (names.map .string)) value ↔
      ∀ fields, value = .object fields →
        ∀ name ∈ names, ∃ item, fields.lookup name = some item := by
  rw [Demands, keywordFailures.eq_def]
  cases value with
  | object fields =>
    simp [List.filterMap_eq_nil_iff, Option.isSome_iff_exists]
  | _ => simp

theorem propertyFailures_eq_nil_iff (schemas fields : List (String × Json)) :
    propertyFailures schemas fields = [] ↔
      ∀ name schema, (name, schema) ∈ schemas →
        ∀ item, fields.lookup name = some item → schema.Accepts item := by
  induction schemas with
  | nil => simp [propertyFailures]
  | cons first rest ih =>
    obtain ⟨name, schema⟩ := first
    rw [propertyFailures, List.append_eq_nil_iff, ih]
    constructor
    · rintro ⟨head, tail⟩ other demanded member item found
      rcases List.mem_cons.mp member with same | inRest
      · cases same
        rw [found] at head
        exact List.map_eq_nil_iff.mp head
      · exact tail other demanded inRest item found
    · intro each
      refine ⟨?_, fun other demanded member => each other demanded (List.mem_cons_of_mem _ member)⟩
      cases found : fields.lookup name with
      | none => rfl
      | some item => exact List.map_eq_nil_iff.mpr (each name schema List.mem_cons_self item found)

theorem demands_properties_iff (schemas : List (String × Json)) (value : Json) :
    Demands whole "properties" (.object schemas) value ↔
      ∀ fields, value = .object fields → ∀ name schema, (name, schema) ∈ schemas →
        ∀ item, fields.lookup name = some item → schema.Accepts item := by
  rw [Demands, keywordFailures.eq_def]
  cases value with
  | object fields => simp [propertyFailures_eq_nil_iff]
  | _ => simp

/-- Every field against one schema, whatever its name. -/
theorem demands_patterns_iff (schema value : Json) :
    Demands whole "patternProperties" (.object [(anyName, schema)]) value ↔
      ∀ fields, value = .object fields → ∀ field ∈ fields, schema.Accepts field.2 := by
  rw [Demands, keywordFailures.eq_def]
  cases value with
  | object fields =>
    simp [patternFailures, matchesPattern, Json.Accepts]
  | _ => simp

/-- The keywords of a schema provide for a name. -/
def Covers (keywords : List (String × Json)) (name : String) : Prop :=
  name ∈ mentioned "properties" keywords ∨
    ∃ pattern ∈ mentioned "patternProperties" keywords, matchesPattern pattern name = true

theorem additionalFields_eq_nil_iff (keywords fields : List (String × Json)) :
    additionalFields keywords fields = [] ↔ ∀ field ∈ fields, Covers keywords field.1 := by
  rw [additionalFields, List.filter_eq_nil_iff]
  refine forall₂_congr fun field _ => ?_
  simp only [Covers, Bool.and_eq_true, Bool.not_eq_true', not_and_or, Bool.not_eq_false,
    List.contains_iff_mem, List.any_eq_true]

theorem demands_closed_iff (value : Json) :
    Demands whole "additionalProperties" (.bool false) value ↔
      ∀ fields, value = .object fields → ∀ field ∈ fields, Covers whole field.1 := by
  rw [Demands, keywordFailures.eq_def]
  cases value with
  | object fields =>
    simp only [Json.object.injEq, forall_eq', ← additionalFields_eq_nil_iff]
    cases extra : additionalFields whole fields with
    | nil => simp [extra]
    | cons first rest => simp [extra]
  | _ => simp

end Keywords

/-! ### What the schemas of the constructs demand -/

theorem isOfKind_array_iff (value : Json) :
    value.isOfKind "array" = true ↔ ∃ items, value = .array items := by
  cases value <;> simp [Json.isOfKind]

theorem isOfKind_object_iff (value : Json) :
    value.isOfKind "object" = true ↔ ∃ fields, value = .object fields := by
  cases value <;> simp [Json.isOfKind]

/-- A value of one form whose content has a property. -/
theorem form_and_content_iff {α : Type} {make : α → Json} (injective : make.Injective)
    (value : Json) (holds : α → Prop) :
    ((∃ content, value = make content) ∧ ∀ content, value = make content → holds content) ↔
      ∃ content, value = make content ∧ holds content := by
  constructor
  · rintro ⟨⟨content, rfl⟩, each⟩
    exact ⟨content, rfl, each content rfl⟩
  · rintro ⟨content, rfl, held⟩
    exact ⟨⟨content, rfl⟩, fun other same => injective same ▸ held⟩

theorem array_injective : Json.array.Injective := fun _ _ => Json.array.inj

theorem object_injective : Json.object.Injective := fun _ _ => Json.object.inj

theorem accepts_kind_iff (kind : Kind) (value : Json) :
    (Json.object (kindSchema kind)).Accepts value ↔ value.isOfKind kind.name = true := by
  rw [accepts_object_iff]
  simp [kindSchema, demands_type_iff]

theorem accepts_literal_iff (kind : Kind) (expected value : Json) :
    (Json.object (kindSchema kind ++ [("enum", .array [expected])])).Accepts value ↔
      value.isOfKind kind.name = true ∧ expected.same value = true := by
  rw [accepts_object_iff]
  simp [kindSchema, or_imp, forall_and, demands_type_iff, demands_enum_iff]

theorem accepts_choice_iff (schemas : List Json) (value : Json) :
    (choiceSchema schemas).Accepts value ↔ ∃ schema ∈ schemas, schema.Accepts value := by
  rw [choiceSchema, accepts_object_iff]
  simp [demands_anyOf_iff]

/-- An array whose items all have one schema. -/
theorem accepts_arrayOf_iff (keywords : List (String × Json)) (value : Json) :
    (arraySchema (.object keywords)).Accepts value ↔
      ∃ items, value = .array items ∧ ∀ item ∈ items, (Json.object keywords).Accepts item := by
  rw [arraySchema, accepts_object_iff]
  simp only [List.mem_cons, Prod.mk.injEq, List.not_mem_nil, or_false, or_imp, forall_and,
    and_imp, forall_eq_apply_imp_iff, forall_eq, demands_type_iff, demands_items_iff,
    isOfKind_array_iff]
  exact form_and_content_iff array_injective value _

/-- An array whose items have the schemas at their places. -/
theorem accepts_tuple_iff (schemas : List Json) (value : Json) :
    (arraySchema (.array schemas)).Accepts value ↔
      ∃ items, value = .array items ∧
        ∀ (place : Nat) (_ : place < schemas.length) (_ : place < items.length),
          schemas[place].Accepts items[place] := by
  rw [arraySchema, accepts_object_iff]
  simp only [List.mem_cons, Prod.mk.injEq, List.not_mem_nil, or_false, or_imp, forall_and,
    and_imp, forall_eq_apply_imp_iff, forall_eq, demands_type_iff, demands_tuple_iff,
    isOfKind_array_iff]
  exact form_and_content_iff array_injective value _

/-- An object all of whose values have one schema, whatever their names. -/
theorem accepts_indexed_iff (schema value : Json) :
    (indexedSchema schema).Accepts value ↔
      ∃ fields, value = .object fields ∧ ∀ field ∈ fields, schema.Accepts field.2 := by
  have covers (name : String) : Covers [("type", .string "object"),
      ("patternProperties", .object [(".*", schema)]), ("additionalProperties", .bool false)]
      name := by
    simp [Covers, mentioned, lookup_first, matchesPattern, anyName]
  rw [indexedSchema, accepts_object_iff]
  simp only [List.mem_cons, Prod.mk.injEq, List.not_mem_nil, or_false, or_imp, forall_and,
    and_imp, forall_eq_apply_imp_iff, forall_eq, demands_type_iff, demands_closed_iff, covers,
    isOfKind_object_iff, implies_true, and_true]
  rw [show ".*" = anyName from rfl, demands_patterns_iff]
  exact form_and_content_iff object_injective value _

/-! ### Closing a schema -/

/-- A schema that may have additional properties or forbids them. -/
def Closable (keywords : List (String × Json)) : Prop :=
  ∀ argument, ("additionalProperties", argument) ∈ keywords → argument = .bool false

theorem mentioned_setField {name other : String} (differs : other ≠ name) (argument : Json)
    (keywords : List (String × Json)) :
    mentioned other (setField name argument keywords) = mentioned other keywords := by
  rw [mentioned, lookup_setField, if_neg differs, mentioned]

/-- A keyword looks at its neighbours only for the names that they mention. -/
theorem demands_congr {whole other : List (String × Json)}
    (properties : mentioned "properties" whole = mentioned "properties" other)
    (patterns : mentioned "patternProperties" whole = mentioned "patternProperties" other)
    (keyword : String) (argument value : Json) :
    Demands whole keyword argument value ↔ Demands other keyword argument value := by
  have additional : additionalFields whole = additionalFields other := by
    funext fields
    rw [additionalFields, additionalFields, properties, patterns]
  have message : additionalMessage whole = additionalMessage other := by
    funext names
    rw [additionalMessage, additionalMessage, patterns]
  have plain : plainFailures whole keyword argument value =
      plainFailures other keyword argument value := by
    rw [plainFailures.eq_def, plainFailures.eq_def other, additional, message]
  rw [Demands, Demands, keywordFailures.eq_def, keywordFailures.eq_def other]
  simp only [plain, additional, keywordFailures]

theorem accepts_closed_iff {keywords : List (String × Json)} (closable : Closable keywords)
    (value : Json) :
    (Json.object (setField "additionalProperties" (.bool false) keywords)).Accepts value ↔
      (Json.object keywords).Accepts value ∧
        ∀ fields, value = .object fields → ∀ field ∈ fields, Covers keywords field.1 := by
  have sameDemands (keyword : String) (argument : Json) :
      Demands (setField "additionalProperties" (.bool false) keywords) keyword argument value ↔
        Demands keywords keyword argument value :=
    demands_congr (mentioned_setField (by decide) _ _) (mentioned_setField (by decide) _ _) _ _ _
  rw [accepts_object_iff, accepts_object_iff, ← demands_closed_iff keywords]
  simp only [sameDemands]
  constructor
  · intro each
    refine ⟨fun keyword argument member => ?_, each _ _ (mem_setField_self _ _ _)⟩
    by_cases closes : keyword = "additionalProperties"
    · subst closes
      rw [closable argument member]
      exact each _ _ (mem_setField_self _ _ _)
    · exact each keyword argument (mem_setField_of_ne member closes)
  · rintro ⟨each, closed⟩ keyword argument member
    rcases mem_of_mem_setField member with same | old
    · cases same
      exact closed
    · exact each keyword argument old

/-! ### Objects with declared properties -/

/-- The keywords of an object with declared properties that may have others. -/
def declaredKeywords (properties : List (String × Json)) (required : List String) :
    List (String × Json) :=
  [("type", .string "object"), ("properties", .object (collectFields properties)),
    ("required", .array ((sortNames required).map .string))]

theorem objectSchema_eq (exact : Bool) (properties : List (String × Json))
    (required : List String) :
    objectSchema exact properties required =
      .object (if exact then
        setField "additionalProperties" (.bool false) (declaredKeywords properties required)
      else declaredKeywords properties required) := by
  cases exact <;> rfl

theorem covers_declared_iff (properties : List (String × Json)) (required : List String)
    (name : String) :
    Covers (declaredKeywords properties required) name ↔ name ∈ properties.map Prod.fst := by
  rw [← mem_map_fst_collectFields]
  simp [Covers, mentioned, declaredKeywords, lookup_first]

theorem mem_sortNames (names : List String) (name : String) :
    name ∈ sortNames names ↔ name ∈ names :=
  (List.mergeSort_perm names _).mem_iff

/-- Sorted names stand in the order of their code points. -/
theorem pairwise_sortNames (names : List String) :
    (sortNames names).Pairwise fun a b => a ≤ b := by
  have pairwise : (sortNames names).Pairwise fun a b => decide (a ≤ b) = true := by
    refine List.pairwise_mergeSort (fun a b c first second => ?_) (fun a b => ?_) names
    · simp only [decide_eq_true_eq] at first second ⊢
      exact String.le_trans first second
    · simpa using String.le_total a b
  exact pairwise.imp of_decide_eq_true

/-- Names in order depend only on the names. -/
theorem sortNames_congr {names other : List String} (perm : names.Perm other) :
    sortNames names = sortNames other := by
  refine List.Perm.eq_of_pairwise (fun a b _ _ => String.le_antisymm) (pairwise_sortNames _)
    (pairwise_sortNames _) ?_
  exact (List.mergeSort_perm names _).trans (perm.trans (List.mergeSort_perm other _).symm)

/-- The required names are there, and of several schemas of a name the last one counts. -/
theorem accepts_declared_iff (properties : List (String × Json)) (required : List String)
    (value : Json) :
    (Json.object (declaredKeywords properties required)).Accepts value ↔
      ∃ fields, value = .object fields ∧
        (∀ name ∈ required, ∃ item, fields.lookup name = some item) ∧
        ∀ name item, fields.lookup name = some item →
          ∀ schema, properties.reverse.lookup name = some schema → schema.Accepts item := by
  rw [declaredKeywords, accepts_object_iff]
  simp only [List.mem_cons, Prod.mk.injEq, List.not_mem_nil, or_false, or_imp, forall_and,
    and_imp, forall_eq_apply_imp_iff, forall_eq, demands_type_iff, demands_properties_iff,
    demands_required_iff, isOfKind_object_iff, mem_sortNames, mem_collectFields_iff]
  rw [← form_and_content_iff object_injective]
  constructor
  · rintro ⟨isObject, typed, present⟩
    exact ⟨isObject, fun fields same => ⟨present fields same, fun name item found schema last =>
      typed fields same name schema last item found⟩⟩
  · rintro ⟨isObject, each⟩
    exact ⟨isObject, fun fields same name schema last item found =>
      (each fields same).2 name item found schema last, fun fields same => (each fields same).1⟩

/-- **What the schema of an object demands**: the required names, the last schema of each name, and
no other names if the object is exact. -/
theorem accepts_objectSchema_iff (exact : Bool) (properties : List (String × Json))
    (required : List String) (value : Json) :
    (objectSchema exact properties required).Accepts value ↔
      ∃ fields, value = .object fields ∧
        (∀ name ∈ required, ∃ item, fields.lookup name = some item) ∧
        (∀ name item, fields.lookup name = some item →
          ∀ schema, properties.reverse.lookup name = some schema → schema.Accepts item) ∧
        (exact = true → ∀ field ∈ fields, field.1 ∈ properties.map Prod.fst) := by
  rw [objectSchema_eq]
  cases exact with
  | false =>
    rw [if_neg Bool.false_ne_true, accepts_declared_iff]
    simp
  | true =>
    have closable : Closable (declaredKeywords properties required) := by
      intro argument member
      simp [declaredKeywords] at member
    rw [if_pos rfl, accepts_closed_iff closable, accepts_declared_iff]
    simp only [covers_declared_iff]
    constructor
    · rintro ⟨⟨fields, rfl, present, typed⟩, only⟩
      exact ⟨fields, rfl, present, typed, fun _ => only fields rfl⟩
    · rintro ⟨fields, rfl, present, typed, only⟩
      exact ⟨⟨fields, rfl, present, typed⟩, fun _ same => Json.object.inj same ▸ only trivial⟩

end TypeSchema
