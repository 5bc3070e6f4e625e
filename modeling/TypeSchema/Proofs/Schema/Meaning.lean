/-
**The schema of a type accepts the values of the type.**

* `namesOf_schema`: which names the keywords of a type's schema cover, and that it can be closed;
* `accepts_exactSchema_iff`: closing the schema of a type forbids the names that the type does not
  declare;
* `accepts_iff_inhabits`: **a schema accepts exactly the values of its type**, by induction on the
  type, for all values at once;
* `check_iff_inhabits`: so does the validator of the schema in a cache, whether it stops at the
  first failure or collects them all.
-/

import TypeSchema.Proofs.Schema.Acceptance
import TypeSchema.Proofs.Schema.Compilation
import TypeSchema.Proofs.TypeNode.Values
import TypeSchema.Schema.Cache

namespace TypeSchema

open TypeNode

/-! ### The names of a schema -/

/-- Keywords that cover exactly the names that a type declares, all of them if it declares none,
provided that they ask for an object. -/
structure NamesOf (names? : Option (List String)) (keywords : List (String × Json)) : Prop where
  closable : Closable keywords
  isObject : names?.isSome → keywords.lookup "type" = some (.string "object")
  covers : keywords.lookup "type" = some (.string "object") → ∀ name,
    Covers keywords name ↔ ∀ names, names? = some names → name ∈ names

theorem exactSchema_of_object {keywords : List (String × Json)}
    (isObject : keywords.lookup "type" = some (.string "object")) :
    exactSchema (.object keywords) =
      .object (setField "additionalProperties" (.bool false) keywords) := by
  have found : (Json.object keywords).field? "type" = some (.string "object") := isObject
  simp [exactSchema.eq_def, found]

theorem exactSchema_of_not_object {schema : Json}
    (other : schema.field? "type" ≠ some (.string "object")) : exactSchema schema = schema := by
  unfold exactSchema
  split
  · rename_i isObject
    exact absurd isObject other
  · rfl

theorem exactSchema_of_other {keywords : List (String × Json)}
    (other : keywords.lookup "type" ≠ some (.string "object")) :
    exactSchema (.object keywords) = .object keywords :=
  exactSchema_of_not_object other

/-- A schema that does not ask for an object declares no names. -/
theorem NamesOf.of_other {keywords : List (String × Json)} (closable : Closable keywords)
    (other : keywords.lookup "type" ≠ some (.string "object")) : NamesOf none keywords :=
  ⟨closable, fun isSome => (Bool.false_ne_true isSome).elim, fun isObject => (other isObject).elim⟩

/-- A closed schema covers the same names. -/
theorem NamesOf.close {names? : Option (List String)} {keywords : List (String × Json)}
    (named : NamesOf names? keywords) :
    NamesOf names? (setField "additionalProperties" (.bool false) keywords) := by
  have type : (setField "additionalProperties" (.bool false) keywords).lookup "type" =
      keywords.lookup "type" := by
    rw [lookup_setField, if_neg (by decide)]
  refine ⟨fun argument member => ?_, ?_, ?_⟩
  · rcases mem_of_mem_setField member with same | old
    · cases same
      rfl
    · exact named.closable argument old
  · rw [type]
    exact named.isObject
  · rw [type]
    intro isObject name
    rw [← named.covers isObject, Covers, mentioned_setField (by decide),
      mentioned_setField (by decide), Covers]

/-- **Closing the schema of a type** forbids the names that the type does not declare. -/
theorem accepts_exactSchema_iff {names? : Option (List String)} {keywords : List (String × Json)}
    (named : NamesOf names? keywords) (value : Json) :
    (exactSchema (.object keywords)).Accepts value ↔
      (Json.object keywords).Accepts value ∧
        ∀ names, names? = some names → value.HasOnly names := by
  by_cases isObject : keywords.lookup "type" = some (.string "object")
  · rw [exactSchema_of_object isObject, accepts_closed_iff named.closable]
    simp only [named.covers isObject]
    exact and_congr_right fun _ =>
      ⟨fun each names found fields same field member => each fields same field member names found,
        fun each fields same field member names found => each names found fields same field member⟩
  · rw [exactSchema_of_other isObject]
    refine (and_iff_left fun names found => ?_).symm
    exact (isObject (named.isObject (Option.isSome_iff_exists.mpr ⟨names, found⟩))).elim

/-- The schema of a kind, with or without a list of values. -/
theorem namesOf_kind (kind : Kind) (more : List (String × Json))
    (plain : ∀ field ∈ more, field.1 = "enum") :
    NamesOf (if kind.name = "object" then some [] else none) (kindSchema kind ++ more) := by
  have absent (name : String) (differs : name ≠ "enum") (other : name ≠ "type") :
      (kindSchema kind ++ more).lookup name = none := by
    rw [kindSchema, List.singleton_append, lookup_first, if_neg other, List.lookup_eq_none_iff]
    intro field member
    rw [plain field member]
    simpa using differs
  have closable : Closable (kindSchema kind ++ more) := by
    intro argument member
    have missing := absent "additionalProperties" (by decide) (by decide)
    simpa using List.lookup_eq_none_iff.mp missing _ member
  by_cases isObject : kind.name = "object"
  · rw [if_pos isObject]
    refine ⟨closable, fun _ => ?_, fun _ name => ?_⟩
    · simp [kindSchema, isObject]
    · simp [Covers, mentioned, absent]
  · rw [if_neg isObject]
    refine .of_other closable ?_
    simpa [kindSchema, lookup_first] using isObject

/-- **The names of the schema of a type.** -/
theorem namesOf_schema {type : TypeNode} {schema : Json} (compiled : type.schema = .ok schema) :
    ∃ keywords, schema = .object keywords ∧ NamesOf type.declaredNames? keywords := by
  induction type generalizing schema with
  | literal kind value =>
    rw [TypeNode.schema] at compiled
    cases compiled
    exact ⟨_, rfl, namesOf_kind kind _ (by simp)⟩
  | primitive kind =>
    cases kind with
    | any =>
      cases compiled
      exact ⟨[], rfl, .of_other (fun _ member => by cases member) (by simp)⟩
    | void => cases compiled
    | _ =>
      cases compiled
      exact ⟨_, rfl, List.append_nil (kindSchema _) ▸ namesOf_kind _ [] (by simp)⟩
  | nullable inner _ =>
    obtain ⟨result, _, rfl⟩ := schema_nullable_iff.mp compiled
    exact ⟨_, rfl, .of_other (fun _ member => by simp at member) (by simp [lookup_first])⟩
  | tuple elements _ =>
    obtain ⟨results, _, rfl⟩ := schema_tuple_iff.mp compiled
    exact ⟨_, rfl, .of_other (fun _ member => by simp at member) (by simp)⟩
  | union alternatives _ =>
    obtain ⟨results, _, rfl⟩ := schema_union_iff.mp compiled
    exact ⟨_, rfl, .of_other (fun _ member => by simp at member) (by simp [lookup_first])⟩
  | generic name arguments ih =>
    obtain ⟨inner, result, rfl, compiledInner, ⟨rfl, rfl⟩ | ⟨rfl, rfl⟩⟩ :=
      schema_generic_iff.mp compiled
    · exact ⟨_, rfl, .of_other (fun _ member => by simp at member) (by simp)⟩
    · obtain ⟨keywords, rfl, named⟩ := ih inner List.mem_cons_self compiledInner
      rw [declaredNames?]
      by_cases isObject : keywords.lookup "type" = some (.string "object")
      · exact ⟨_, exactSchema_of_object isObject, named.close⟩
      · exact ⟨_, exactSchema_of_other isObject, named⟩
  | object properties exact indexer hasCallSignature _ _ =>
    cases indexer with
    | some indexer =>
      obtain ⟨_, _, result, _, rfl⟩ := schema_indexed_iff.mp compiled
      refine ⟨_, rfl, fun argument member => ?_, fun isSome => ?_, fun _ name => ?_⟩
      · simpa using member
      · simp [declaredNames?] at isSome
      · simp [Covers, mentioned, lookup_first, matchesPattern, anyName, declaredNames?]
    | none =>
      obtain ⟨_, fields, compiledFields, rfl⟩ := schema_object_iff.mp compiled
      have names := map_fst_propertySchemas (propertySchemas_eq_ok_iff.mp compiledFields)
      have opened : NamesOf (object properties exact none hasCallSignature).declaredNames?
          (declaredKeywords fields
            ((properties.filter fun property => !property.optional).map Property.name)) := by
        refine ⟨fun argument member => ?_, fun _ => ?_, fun _ name => ?_⟩
        · simp [declaredKeywords] at member
        · simp [declaredKeywords]
        · rw [covers_declared_iff, names]
          simp [declaredNames?]
      refine ⟨_, objectSchema_eq exact fields _, ?_⟩
      cases exact with
      | false => exact opened
      | true => exact opened.close
  | stray kind =>
    rw [TypeNode.schema] at compiled
    cases compiled

/-! ### The values that a schema accepts -/

/-- Properties and the fields of their schemas are found by the same names. -/
theorem find_and_lookup {properties : List (Property TypeNode)} {fields : List (String × Json)}
    (each : List.Forall₂ HasSchema properties fields) (name : String) :
    (properties.find? (fun property => property.name == name) = none ∧
        fields.lookup name = none) ∨
      ∃ property schema, properties.find? (fun property => property.name == name) = some property ∧
        fields.lookup name = some schema ∧ property.type.schema = .ok schema := by
  induction each with
  | nil => exact .inl ⟨rfl, rfl⟩
  | @cons property field rest others first _ ih =>
    obtain ⟨named, compiled⟩ := first
    obtain ⟨other, schema⟩ := field
    subst named
    rw [lookup_first]
    by_cases same : property.name = name
    · exact .inr ⟨property, schema, List.find?_cons_of_pos (by simpa using same),
        if_pos same.symm, compiled⟩
    · rw [List.find?_cons_of_neg (by simpa using same), if_neg (Ne.symm same)]
      exact ih

/-- The schema that counts for a name is that of the declaration that counts. -/
theorem lastDeclaration_and_schema {properties : List (Property TypeNode)}
    {fields : List (String × Json)} (each : List.Forall₂ HasSchema properties fields)
    (name : String) :
    (lastDeclaration? properties name = none ∧ fields.reverse.lookup name = none) ∨
      ∃ property schema, lastDeclaration? properties name = some property ∧
        fields.reverse.lookup name = some schema ∧ property.type.schema = .ok schema :=
  find_and_lookup (List.forall₂_reverse_iff.mpr each) name

/-- **A schema accepts exactly the values of its type.** -/
theorem accepts_iff_inhabits {type : TypeNode} {schema : Json}
    (compiled : type.schema = .ok schema) (value : Json) :
    schema.Accepts value ↔ type.Inhabits value := by
  induction type generalizing schema value with
  | literal kind expected =>
    rw [TypeNode.schema] at compiled
    cases compiled
    rw [accepts_literal_iff, Inhabits, kind.holds_iff, Json.same_iff]
  | primitive kind =>
    cases kind with
    | any =>
      cases compiled
      rw [accepts_object_iff, Inhabits]
      simp
    | void => cases compiled
    | _ =>
      cases compiled
      rw [accepts_kind_iff, Inhabits, Kind.holds_iff]
      simp
  | nullable inner ih =>
    obtain ⟨result, compiledInner, rfl⟩ := schema_nullable_iff.mp compiled
    rw [accepts_choice_iff, Inhabits, ← ih compiledInner]
    simp [accepts_kind_iff, ← Kind.holds_iff, Kind.Holds]
  | tuple elements ih =>
    obtain ⟨results, compiledEach, rfl⟩ := schema_tuple_iff.mp compiled
    have each := schemas_eq_ok_iff.mp compiledEach
    rw [accepts_tuple_iff, Inhabits]
    refine exists_congr fun items => and_congr_right fun _ => forall_congr' fun place => ?_
    constructor
    · intro accepted inside inItems
      have inResults := each.length_eq ▸ inside
      exact (ih _ (List.getElem_mem inside) (each.get inside inResults) _).mp
        (accepted inResults inItems)
    · intro inhabited inResults inItems
      have inside := each.length_eq ▸ inResults
      exact (ih _ (List.getElem_mem inside) (each.get inside inResults) _).mpr
        (inhabited inside inItems)
  | union alternatives ih =>
    obtain ⟨results, compiledEach, rfl⟩ := schema_union_iff.mp compiled
    have each := schemas_eq_ok_iff.mp compiledEach
    rw [accepts_choice_iff, Inhabits]
    constructor
    · rintro ⟨_, member, accepted⟩
      obtain ⟨place, inResults, rfl⟩ := List.mem_iff_getElem.mp member
      have inside := each.length_eq ▸ inResults
      have inner := List.getElem_mem (l := alternatives) inside
      exact ⟨_, inner, (ih _ inner (each.get inside inResults) value).mp accepted⟩
    · rintro ⟨_, member, inhabited⟩
      obtain ⟨place, inside, rfl⟩ := List.mem_iff_getElem.mp member
      have inResults := each.length_eq ▸ inside
      exact ⟨_, List.getElem_mem inResults,
        (ih _ member (each.get inside inResults) value).mpr inhabited⟩
  | generic name arguments ih =>
    obtain ⟨inner, result, rfl, compiledInner, ⟨rfl, rfl⟩ | ⟨rfl, rfl⟩⟩ :=
      schema_generic_iff.mp compiled
    · obtain ⟨keywords, rfl, _⟩ := namesOf_schema compiledInner
      rw [accepts_arrayOf_iff, Inhabits]
      refine exists_congr fun items => and_congr_right fun _ => forall₂_congr fun item _ => ?_
      exact ih inner List.mem_cons_self compiledInner item
    · obtain ⟨keywords, rfl, named⟩ := namesOf_schema compiledInner
      rw [accepts_exactSchema_iff named, Inhabits, ih inner List.mem_cons_self compiledInner]
  | object properties exact indexer hasCallSignature ihProperties ihIndexer =>
    cases indexer with
    | some indexer =>
      obtain ⟨_, _, result, compiledValue, rfl⟩ := schema_indexed_iff.mp compiled
      rw [accepts_indexed_iff, Inhabits]
      refine exists_congr fun fields => and_congr_right fun _ => forall₂_congr fun field _ => ?_
      exact ihIndexer indexer rfl compiledValue field.2
    | none =>
      obtain ⟨_, results, compiledEach, rfl⟩ := schema_object_iff.mp compiled
      have each := propertySchemas_eq_ok_iff.mp compiledEach
      rw [accepts_objectSchema_iff, Inhabits, map_fst_propertySchemas each]
      refine exists_congr fun fields => and_congr_right fun same => and_congr ?_ (and_congr ?_ ?_)
      · simp only [List.forall_mem_map, List.mem_filter, Bool.not_eq_true', and_imp]
      · refine forall₃_congr fun name item _ => ?_
        rcases lastDeclaration_and_schema each name with
          ⟨absent, missing⟩ | ⟨property, schema, last, lastSchema, compiledType⟩
        · simp [absent, missing]
        · rw [last, lastSchema]
          simpa using ihProperties property (mem_of_lastDeclaration? last) compiledType item
      · refine imp_congr_right fun _ => ?_
        subst same
        exact ⟨fun only _ equal => Json.object.inj equal ▸ only, fun only => only fields rfl⟩
  | stray kind =>
    rw [TypeNode.schema] at compiled
    cases compiled

/-! ### Validators -/

/-- A validator has nothing to report exactly when its schema accepts the value. -/
theorem records_isEmpty_iff (schema value : Json) (all : Bool) :
    ((Validator.mk schema).records value all).isEmpty = true ↔ schema.Accepts value := by
  rw [List.isEmpty_iff, Validator.records, Json.Accepts]
  cases all with
  | false => simp [List.take_eq_nil_iff]
  | true => simp

/-- **A named type is checked as what it is**: among any named schemas, the check under the name of
a type's schema has an answer, and that is whether the value is one of the type. -/
theorem check_iff_inhabits {type : TypeNode} {schema : Json} (compiled : type.schema = .ok schema)
    {schemas : List (String × Json)} {name : String}
    (named : (collectFields schemas).lookup name = some schema) (value : Json) (all : Bool) :
    ∃ accepted cache, (Cache.ofSchemas schemas).check name value all = .ok (accepted, cache) ∧
      (accepted = true ↔ type.Inhabits value) := by
  have made : (Cache.ofSchemas schemas).validator name =
      .ok (⟨schema⟩, ⟨collectFields schemas, [(name, ⟨schema⟩)]⟩) := by
    simp [Cache.validator, Cache.ofSchemas, named]
  refine ⟨((Validator.mk schema).records value all).isEmpty,
    ⟨collectFields schemas, [(name, ⟨schema⟩)]⟩, ?_, ?_⟩
  · rw [Cache.check, Cache.records, made]
    rfl
  · rw [records_isEmpty_iff, accepts_iff_inhabits compiled]

/-- An exact type of objects whose only name is declared twice, under a name and beside it. -/
theorem check_iff_inhabits_exact :
    ∃ schema, (TypeNode.generic "$Exact"
        [.object [⟨"a", .literal .number (.number (.int 1)), false⟩,
          ⟨"a", .nullable (.primitive .string), true⟩] false none false]).schema = .ok schema ∧
      (collectFields [("T", Json.object []), ("T", schema)]).lookup "T" = some schema ∧
      ∃ accepted cache, (Cache.ofSchemas [("T", .object []), ("T", schema)]).check "T"
          (.object [("a", .null), ("", .bool true)]) false = .ok (accepted, cache) ∧
        (accepted = true ↔ (TypeNode.generic "$Exact"
          [.object [⟨"a", .literal .number (.number (.int 1)), false⟩,
            ⟨"a", .nullable (.primitive .string), true⟩] false none false]).Inhabits
              (.object [("a", .null), ("", .bool true)])) :=
  ⟨_, rfl, rfl, check_iff_inhabits rfl rfl _ _⟩

end TypeSchema
