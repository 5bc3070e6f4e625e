/-
**Failures lead back to where they come from.**

* `Descends.walk?`, `Descends.leads`: a keyword that descends to an inner schema says where that
  stands and which part of the value it is for;
* `Locates`: the paths of a failure lead to a keyword with its argument and to a part of the value
  of which the keyword does not hold;
* `exists_locates`: **every failure does so**, by induction on the schema;
* `records_lead_back`: so does every record that a validator reports. It reports none exactly if the
  value does not violate the schema, and if only one is wanted, it reports the first.
-/

import TypeSchema.Proofs.Schema.Validity
import TypeSchema.Proofs.Schema.Violation

namespace TypeSchema

/-! ### Inner schemas -/

section Descends

variable {keywords : List (String × Json)} {keyword : String} {argument value schema part : Json}
  {data steps : List Step}

/-- The data steps lead to the part that is checked. -/
theorem Descends.leads
    (descends : Descends keyword argument keywords value data steps schema part) :
    value.Leads data part := by
  cases descends with
  | property _ found => exact .field (mem_of_lookup found) .here
  | pattern _ among _ | additional among _ => exact .field among .here
  | item found | place _ found => exact .item found .here

/-- The schema steps lead to the inner schema, which is one of the same dialect. -/
theorem Descends.walk? {dialect : Dialect}
    (descends : Descends keyword argument keywords value data steps schema part)
    (isSchema : (Json.object keywords).IsSchema dialect)
    (member : (keyword, argument) ∈ keywords) :
    (Json.object keywords).walk? steps = some schema ∧ schema.IsSchema dialect := by
  obtain ⟨distinct, each⟩ := isSchema_object_iff.mp isSchema
  have found : keywords.lookup keyword = some argument :=
    (mem_iff_lookup distinct keyword argument).mp member
  have allows := each _ member
  have first (more : List Step) : (Json.object keywords).walk? (.key keyword :: more) =
      argument.walk? more := by
    rw [Json.walk?, Json.step?, found]
    rfl
  cases descends with
  | property inside _ =>
    obtain ⟨names, schemas⟩ := allows_properties_iff.mp allows
    rw [first, Json.walk?, Json.step?, (mem_iff_lookup names _ _).mp inside]
    exact ⟨rfl, schemas _ inside⟩
  | pattern inside _ _ =>
    obtain ⟨⟨names, -⟩, schemas⟩ := allows_patterns_iff.mp allows
    rw [first, Json.walk?, Json.step?, (mem_iff_lookup names _ _).mp inside]
    exact ⟨rfl, schemas _ inside⟩
  | additional _ _ => exact ⟨first [], allows_additional_iff.mp allows⟩
  | item _ => exact ⟨first [], allows_items_iff.mp allows⟩
  | place inside _ =>
    rw [first, Json.walk?, Json.step?, inside]
    exact ⟨rfl, (allows_tuple_iff.mp allows).2 _ (List.mem_of_getElem? inside)⟩

end Descends

/-! ### Failures -/

/-- The paths of a failure lead to a keyword with its argument, and to a part of the value of which
the keyword does not hold. -/
structure Locates (schema value : Json) (failure : Failure) (front : List Step)
    (keywords : List (String × Json)) (part : Json) : Prop where
  path : failure.schemaPath = front ++ [.key failure.keyword]
  schema : schema.walk? front = some (.object keywords)
  argument : keywords.lookup failure.keyword = some failure.argument
  data : value.Leads failure.dataPath part
  breaks : Breaks Violates failure.keyword failure.argument keywords part

/-- A failure inside is located from further up. -/
theorem Locates.under {schema value inner item part : Json} {failure : Failure}
    {front data steps : List Step} {keywords : List (String × Json)}
    (locates : Locates inner item failure front keywords part)
    (walk : schema.walk? steps = some inner) (leads : value.Leads data item) :
    Locates schema value (failure.under data steps) (steps ++ front) keywords part where
  path := by
    show steps ++ failure.schemaPath = steps ++ front ++ [.key failure.keyword]
    rw [locates.path, List.append_assoc]
  schema := by
    rw [Json.walk?_append, walk]
    exact locates.schema
  argument := locates.argument
  data := leads.append locates.data
  breaks := locates.breaks

/-- **Every failure is located by its paths.** -/
theorem exists_locates {dialect : Dialect} {schema : Json} (isSchema : schema.IsSchema dialect)
    {value : Json} {failure : Failure} (member : failure ∈ failures schema value) :
    ∃ front keywords part, Locates schema value failure front keywords part := by
  induction size : sizeOf schema using Nat.strongRecOn generalizing schema value failure with
  | _ size ih =>
  subst size
  obtain ⟨keywords, rfl⟩ := exists_keywords_of_mem member
  obtain ⟨keyword, argument, inKeywords, ofKeyword⟩ := mem_failures_iff.mp member
  obtain ⟨⟨message, rfl⟩, breaks⟩ |
    ⟨data, steps, schema, part, descends, inner, isInner, rfl⟩ := keyword_cases ofKeyword
  · refine ⟨[], keywords, value, rfl, rfl, ?_, .here, breaks.imp fun _ _ schema _ => ?_⟩
    · exact (mem_iff_lookup (isSchema_object_iff.mp isSchema).1 keyword argument).mp inKeywords
    · exact (fails_iff_violates schema value).mp
  · have smaller := Nat.lt_of_le_of_lt descends.sizeOf_le (sizeOf_argument_lt inKeywords)
    obtain ⟨walk, innerSchema⟩ := descends.walk? isSchema inKeywords
    obtain ⟨front, own, place, locates⟩ := ih _ smaller innerSchema isInner rfl
    exact ⟨steps ++ front, own, place, locates.under walk descends.leads⟩

/-! ### Records -/

/-- **The paths of a record lead back.** Its schema path has the steps from the root to a keyword
whose argument is in its parameters, its data path the steps to a part of the value, and the keyword
does not hold of that part. -/
def Record.LeadsBack (schema value : Json) (record : Record) : Prop :=
  ∃ (schemaSteps dataSteps : List Step) (keywords : List (String × Json)) (argument part : Json),
    record.schemaPath = "#/" ++ "/".intercalate (schemaSteps.map Step.schemaText) ∧
    record.dataPath = String.join (dataSteps.map Step.dataText) ∧
    record.params = [(record.keyword, argument)] ∧
    schema.walk? schemaSteps = some argument ∧
    schemaSteps.getLast? = some (.key record.keyword) ∧
    schema.walk? schemaSteps.dropLast = some (.object keywords) ∧
    value.Leads dataSteps part ∧ (value.Distinct → value.walk? dataSteps = some part) ∧
    Breaks Violates record.keyword argument keywords part

/-- A located failure is reported by a record that leads back. -/
theorem Locates.leadsBack {schema value part : Json} {failure : Failure} {front : List Step}
    {keywords : List (String × Json)} (locates : Locates schema value failure front keywords part) :
    failure.record.LeadsBack schema value := by
  refine ⟨failure.schemaPath, failure.dataPath, keywords, failure.argument, part, rfl, rfl, rfl,
    ?_, ?_, ?_, locates.data, Json.walk?_of_leads locates.data, locates.breaks⟩
  · rw [locates.path, Json.walk?_append, locates.schema]
    show (keywords.lookup failure.keyword).bind _ = _
    rw [locates.argument]
    rfl
  · rw [locates.path, List.getLast?_concat]
    rfl
  · rw [locates.path, List.dropLast_concat]
    exact locates.schema

/-- The schema of a type is one of some dialect. -/
theorem isSchema_loose {type : TypeNode} {schema : Json} (compiled : type.schema = .ok schema) :
    schema.IsSchema .loose := by
  have fits (position : TypeNode) : position.Fits .loose := by
    cases position with
    | primitive kind => cases kind <;> trivial
    | object _ _ indexer _ => cases indexer <;> trivial
    | _ => trivial
  exact (TypeNode.isSchema_iff compiled).mpr fun position _ => fits position

/-- **Every record leads back to the failure that it reports.** Whatever a cache was used for
before: if the validator that it has or makes for a name is that of the schema of a type, all records
that it reports on a value lead back; there are none exactly if the value does not violate the
schema; if only one is wanted, it is the first of them; and the check has the same answer in either
way. -/
theorem records_lead_back {type : TypeNode} {schema : Json}
    (compiled : type.compile = .ok (.compiled schema)) {cache after : Cache} {name : String}
    (made : cache.validator name = .ok (⟨schema⟩, after)) (value : Json) :
    ∃ records, cache.records name value true = .ok (records, after) ∧
      (∀ record ∈ records, record.LeadsBack schema value) ∧
      (records = [] ↔ ¬ Violates schema value) ∧
      cache.records name value false = .ok (records.head?.toList, after) ∧
      ∀ all, cache.check name value all = .ok (records.isEmpty, after) := by
  have isSchema := isSchema_loose (TypeNode.schema_eq_ok_iff.mpr compiled)
  have each (all : Bool) : cache.records name value all =
      .ok ((Validator.mk schema).records value all, after) := by
    rw [Cache.records, made]
    rfl
  refine ⟨(failures schema value).map Failure.record, each true, ?_, ?_, ?_, fun all => ?_⟩
  · intro record member
    obtain ⟨failure, isFailure, rfl⟩ := List.mem_map.mp member
    obtain ⟨front, keywords, part, locates⟩ := exists_locates isSchema isFailure
    exact locates.leadsBack
  · rw [List.map_eq_nil_iff, ← fails_iff_violates, Fails, not_not]
  · rw [each, Validator.records, if_neg Bool.false_ne_true, List.take_one]
  · rw [Cache.check, each]
    cases all with
    | true => rfl
    | false =>
      cases found : failures schema value <;> simp [Validator.records, found, Except.map]

/-- The second place of a tuple holds a text where there should be a number. -/
theorem records_lead_back_tuple :
    let schema := arraySchema (.array [.object (kindSchema .string), .object (kindSchema .number)])
    let cache := Cache.ofSchemas [("T", schema)]
    let value : Json := .array [.string "a", .string "b"]
    (TypeNode.tuple [.primitive .string, .primitive .number]).compile = .ok (.compiled schema) ∧
    ∃ after, cache.validator "T" = .ok (⟨schema⟩, after) ∧
      ∃ records, cache.records "T" value true = .ok (records, after) ∧ records ≠ [] ∧
        ∀ record ∈ records, record.LeadsBack schema value := by
  intro schema cache value
  have compiled : (TypeNode.tuple [.primitive .string, .primitive .number]).compile =
      .ok (.compiled schema) := rfl
  have made : cache.validator "T" =
      .ok (⟨schema⟩, ⟨[("T", schema)], [("T", ⟨schema⟩)]⟩) := rfl
  obtain ⟨records, reported, back, none_, -⟩ := records_lead_back compiled made value
  have violates : Violates schema value := by
    have number : Violates (.object (kindSchema .number)) (.string "b") :=
      .here List.mem_cons_self (.type rfl)
    have isSchema : [Json.object (kindSchema .string), .object (kindSchema .number)][1]? =
        some (.object (kindSchema .number)) := rfl
    have isItem : [Json.string "a", .string "b"][1]? = some (.string "b") := rfl
    exact .inside (List.mem_cons_of_mem _ List.mem_cons_self) (.place isSchema isItem) number
  exact ⟨compiled, _, made, records, reported, fun nothing => none_.mp nothing violates, back⟩

end TypeSchema
