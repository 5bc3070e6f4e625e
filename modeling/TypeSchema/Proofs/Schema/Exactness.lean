/-
**Exactness.**

An object can be exact in two ways: by its own brackets, which the compiler sees when it makes the
schema, and by standing in `$Exact`, which closes a schema that was made before.

* `TypeNode.exactly`: a type in so many `$Exact`;
* `exactSchema_exactSchema`: closing a schema twice is closing it once;
* `compile_exactly_object`: an object in any number of `$Exact` is compiled as an exact one;
* `exactly_is_exactness`: **both ways agree**, for all objects and also where there is no schema, and
  `$Exact` leaves everything alone that is no object.
-/

import TypeSchema.Proofs.Schema.Meaning

namespace TypeSchema

/-! ### Closing a schema -/

/-- Writing a field again changes nothing. -/
theorem setField_setField {α : Type} (name : String) (value : α) (fields : List (String × α)) :
    setField name value (setField name value fields) = setField name value fields := by
  induction fields with
  | nil => simp [setField]
  | cons field rest ih =>
    obtain ⟨first, old⟩ := field
    by_cases same : first = name
    · simp [setField, same]
    · simp [setField, same, ih]

/-- **Closing a schema twice is closing it once.** -/
theorem exactSchema_exactSchema (schema : Json) :
    exactSchema (exactSchema schema) = exactSchema schema := by
  by_cases isObject : schema.field? "type" = some (.string "object")
  · cases schema with
    | object keywords =>
      have typed : (setField "additionalProperties" (.bool false) keywords).lookup "type" =
          some (.string "object") := by
        rw [lookup_setField, if_neg (by decide)]
        exact isObject
      rw [exactSchema_of_object isObject, exactSchema_of_object typed, setField_setField]
    | _ => cases isObject
  · rw [exactSchema_of_not_object isObject, exactSchema_of_not_object isObject]

/-- The closed schema of an object is the schema of the exact object, in the same order. -/
theorem exactSchema_objectSchema (exact : Bool) (properties : List (String × Json))
    (required : List String) :
    exactSchema (objectSchema exact properties required) = objectSchema true properties required := by
  have opened : exactSchema (objectSchema false properties required) =
      objectSchema true properties required := by
    rw [objectSchema_eq, objectSchema_eq, if_neg Bool.false_ne_true, if_pos rfl]
    exact exactSchema_of_object rfl
  cases exact with
  | false => exact opened
  | true => rw [← opened, exactSchema_exactSchema]

/-- The schema of an indexer is closed as it is. -/
theorem exactSchema_indexedSchema (value : Json) :
    exactSchema (indexedSchema value) = indexedSchema value :=
  exactSchema_of_object rfl

/-! ### Closing what was compiled -/

/-- Closing what is made of a result makes the closed thing of it, and keeps its failure. -/
theorem close_map {α : Type} {make closed : α → Json}
    (closes : ∀ made, exactSchema (make made) = closed made)
    (result : Except Defect (Compilation α)) :
    (Compilation.map exactSchema <$> do return (← result).map make) =
      do return (← result).map closed := by
  match result with
  | .error _ => rfl
  | .ok (.unsupported _) => rfl
  | .ok (.compiled made) =>
    show Except.ok (Compilation.compiled (exactSchema (make made))) = .ok (.compiled (closed made))
    rw [closes]

namespace TypeNode

/-- A type in so many `$Exact`. -/
def exactly : Nat → TypeNode → TypeNode
  | 0, type => type
  | depth + 1, type => generic "$Exact" [exactly depth type]

theorem compile_exact (type : TypeNode) :
    (generic "$Exact" [type]).compile = Compilation.map exactSchema <$> type.compile := by
  rw [compile]
  rfl

/-- `$Exact` in `$Exact` adds nothing. -/
theorem compile_exact_exact (type : TypeNode) :
    (generic "$Exact" [generic "$Exact" [type]]).compile = (generic "$Exact" [type]).compile := by
  rw [compile_exact, compile_exact]
  exact close_map exactSchema_exactSchema type.compile

section Object

variable (properties : List (Property TypeNode)) (exact : Bool)
  (indexer : Option (Indexer TypeNode)) (hasCallSignature : Bool)

/-- An object in `$Exact` is compiled as an exact one, or fails as it does. -/
theorem compile_exact_object :
    (generic "$Exact" [object properties exact indexer hasCallSignature]).compile =
      (object properties true indexer hasCallSignature).compile := by
  rw [compile_exact]
  match hasCallSignature, properties, indexer with
  | true, _, _ => simp only [compile]; rfl
  | false, _ :: _, some _ => simp only [compile]; rfl
  | false, [], some entry =>
    rw [compile, compile]
    exact close_map exactSchema_indexedSchema (compileIndexer entry)
  | false, properties, none =>
    simp only [compile]
    exact close_map (fun schemas => exactSchema_objectSchema exact schemas _)
      (compileProperties properties)

/-- **An object in any number of `$Exact` is compiled as an exact one.** -/
theorem compile_exactly_object (depth : Nat) :
    (exactly (depth + 1) (object properties exact indexer hasCallSignature)).compile =
      (object properties true indexer hasCallSignature).compile := by
  induction depth with
  | zero => exact compile_exact_object properties exact indexer hasCallSignature
  | succ depth ih =>
    unfold exactly at ih ⊢
    rw [exactly, compile_exact_exact, ih]

end Object

/-- `$Exact` leaves a type alone whose schema is not that of an object, and one without a schema. -/
theorem compile_exact_other {type : TypeNode}
    (other : ∀ schema, type.compile = .ok (.compiled schema) →
      schema.field? "type" ≠ some (.string "object")) :
    (generic "$Exact" [type]).compile = type.compile := by
  rw [compile_exact]
  match outcome : type.compile with
  | .error _ => rfl
  | .ok (.unsupported _) => rfl
  | .ok (.compiled schema) =>
    show Except.ok (Compilation.compiled (exactSchema schema)) = .ok (.compiled schema)
    rw [exactSchema_of_not_object (other schema outcome)]

/-! ### The main result -/

/-- **`$Exact` is exactness**: an object in any number of `$Exact` is compiled as the exact object,
with the same schema or the same failure; more than one `$Exact` is the same as one; and what is no
object is compiled as if there were none. -/
theorem exactly_is_exactness :
    (∀ properties exact indexer hasCallSignature depth,
      (exactly (depth + 1) (object properties exact indexer hasCallSignature)).compile =
        (object properties true indexer hasCallSignature).compile) ∧
    (∀ type, (exactly 2 type).compile = (exactly 1 type).compile) ∧
    ∀ type, (∀ schema, type.compile = .ok (.compiled schema) →
        schema.field? "type" ≠ some (.string "object")) →
      (exactly 1 type).compile = type.compile :=
  ⟨compile_exactly_object, compile_exact_exact, fun _ => compile_exact_other⟩

/-- A nullable object is no object, and stays open in `$Exact`. -/
theorem exactly_is_exactness_nullable :
    let type : TypeNode := .nullable (.object [⟨"a", .primitive .string, false⟩] false none false)
    (∀ schema, type.compile = .ok (.compiled schema) →
      schema.field? "type" ≠ some (.string "object")) ∧
    (exactly 1 type).compile = type.compile := by
  intro type
  have other : ∀ schema, type.compile = .ok (.compiled schema) →
      schema.field? "type" ≠ some (.string "object") := by
    rintro schema ⟨⟩
    simp [choiceSchema, Json.field?, lookup_first]
  exact ⟨other, exactly_is_exactness.2.2 type other⟩

end TypeNode

end TypeSchema
