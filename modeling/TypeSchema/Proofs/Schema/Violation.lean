/-
**What violates a schema.**

* `Breaks`: a keyword does not hold of a value, by itself; `Descends`: a keyword checks a part of the
  value against an inner schema, which stands at certain steps;
* `Violates`: **a value violates a schema**, because of a keyword itself or inside;
* `keyword_cases`: a failure comes from one of the keywords, and either from the keyword itself or
  from an inner schema that it descends to;
* `fails_iff_violates`: **a value has failures exactly if it violates the schema**.
-/

import TypeSchema.Proofs.Schema.Dialect
import TypeSchema.Proofs.Schema.Paths

namespace TypeSchema

/-! ### The rules -/

/-- A keyword with its argument, among the keywords of its schema, does not hold of a value by
itself, when it is known what violates the alternatives of a choice. -/
inductive Breaks (violates : Json → Json → Prop) :
    String → Json → (keywords : List (String × Json)) → (value : Json) → Prop
  | type {kind : String} {keywords : List (String × Json)} {value : Json} :
      value.isOfKind kind = false → Breaks violates "type" (.string kind) keywords value
  | enum {allowed : List Json} {keywords : List (String × Json)} {value : Json} :
      (∀ item ∈ allowed, ¬ item.Equals value) → Breaks violates "enum" (.array allowed) keywords value
  | required {names : List Json} {name : String} {keywords fields : List (String × Json)} :
      .string name ∈ names → fields.lookup name = none →
      Breaks violates "required" (.array names) keywords (.object fields)
  | closed {field : String × Json} {keywords fields : List (String × Json)} :
      field ∈ fields → ¬ Covers keywords field.1 →
      Breaks violates "additionalProperties" (.bool false) keywords (.object fields)
  | choice {schemas : List Json} {keywords : List (String × Json)} {value : Json} :
      (∀ schema ∈ schemas, violates schema value) →
      Breaks violates "anyOf" (.array schemas) keywords value

/-- A keyword checks a part of a value against an inner schema. -/
inductive Descends : String → Json → (keywords : List (String × Json)) → (value : Json) →
    (data steps : List Step) → (schema part : Json) → Prop
  | property {name : String} {schema item : Json} {schemas keywords fields : List (String × Json)} :
      (name, schema) ∈ schemas → fields.lookup name = some item →
      Descends "properties" (.object schemas) keywords (.object fields)
        [.key name] [.key "properties", .key name] schema item
  | pattern {pattern name : String} {schema item : Json} {schemas keywords fields : List (String × Json)} :
      (pattern, schema) ∈ schemas → (name, item) ∈ fields → matchesPattern pattern name = true →
      Descends "patternProperties" (.object schemas) keywords (.object fields)
        [.key name] [.key "patternProperties", .key pattern] schema item
  | additional {name : String} {schema item : Json} {keywords fields : List (String × Json)} :
      (name, item) ∈ fields → ¬ Covers keywords name →
      Descends "additionalProperties" schema keywords (.object fields)
        [.key name] [.key "additionalProperties"] schema item
  | item {inner keywords : List (String × Json)} {place : Nat} {item : Json} {items : List Json} :
      items[place]? = some item →
      Descends "items" (.object inner) keywords (.array items)
        [.index place] [.key "items"] (.object inner) item
  | place {schemas items : List Json} {keywords : List (String × Json)} {place : Nat}
      {schema item : Json} :
      schemas[place]? = some schema → items[place]? = some item →
      Descends "items" (.array schemas) keywords (.array items)
        [.index place] [.key "items", .index place] schema item

/-- **A value violates a schema.** -/
inductive Violates : Json → Json → Prop
  | here {keywords : List (String × Json)} {keyword : String} {argument value : Json} :
      (keyword, argument) ∈ keywords → Breaks Violates keyword argument keywords value →
      Violates (.object keywords) value
  | inside {keywords : List (String × Json)} {keyword : String} {argument value schema part : Json}
      {data steps : List Step} :
      (keyword, argument) ∈ keywords →
      Descends keyword argument keywords value data steps schema part → Violates schema part →
      Violates (.object keywords) value

/-! ### Keywords by themselves -/

section Own

variable {keywords : List (String × Json)} {keyword : String} {argument value : Json}
  {failure : Failure}

theorem mem_additionalFields_iff {fields : List (String × Json)} {field : String × Json} :
    field ∈ additionalFields keywords fields ↔ field ∈ fields ∧ ¬ Covers keywords field.1 := by
  unfold additionalFields Covers
  rw [List.mem_filter]
  simp

/-- A failure of a keyword that looks at the value itself is one of the rules. -/
theorem plainFailures_cases (violates : Json → Json → Prop)
    (member : failure ∈ plainFailures keywords keyword argument value) :
    (∃ message, failure = .here keyword argument message) ∧
      Breaks violates keyword argument keywords value := by
  unfold plainFailures at member
  split at member
  · split_ifs at member with holds
    · cases member
    · exact ⟨⟨_, List.mem_singleton.mp member⟩, .type (by simpa using holds)⟩
  · split_ifs at member with holds
    · cases member
    · refine ⟨⟨_, List.mem_singleton.mp member⟩, .enum fun item among equal => holds ?_⟩
      exact List.any_eq_true.mpr ⟨item, among, (Json.same_iff _ _).mpr equal⟩
  · obtain ⟨item, among, made⟩ := List.mem_filterMap.mp member
    split at made
    · split_ifs at made with present
      cases made
      exact ⟨⟨_, rfl⟩, .required among (Option.not_isSome_iff_eq_none.mp present)⟩
    · cases made
  · rename_i fields
    cases extra : additionalFields keywords fields with
    | nil =>
      rw [extra] at member
      cases member
    | cons first rest =>
      rw [extra] at member
      have isExtra : first ∈ additionalFields keywords fields := extra ▸ List.mem_cons_self
      obtain ⟨inFields, notCovered⟩ := mem_additionalFields_iff.mp isExtra
      exact ⟨⟨_, List.mem_singleton.mp member⟩, .closed inFields notCovered⟩
  · cases member

end Own

/-! ### Inner schemas -/

/-- A value has failures. -/
def Fails (schema value : Json) : Prop := failures schema value ≠ []

section Inside

variable {keywords : List (String × Json)} {keyword : String} {argument value : Json}
  {failure : Failure}

theorem mem_propertyFailures_iff {schemas fields : List (String × Json)} :
    failure ∈ propertyFailures schemas fields ↔
      ∃ name schema item, (name, schema) ∈ schemas ∧ fields.lookup name = some item ∧
        ∃ inner ∈ failures schema item,
          inner.under [.key name] [.key "properties", .key name] = failure := by
  induction schemas with
  | nil => simp [propertyFailures]
  | cons field rest ih =>
    obtain ⟨first, own⟩ := field
    rw [propertyFailures, List.mem_append, ih]
    constructor
    · rintro (here | ⟨name, schema, item, member, found, inner⟩)
      · split at here
        · exact ⟨first, own, _, List.mem_cons_self, ‹_›, List.mem_map.mp here⟩
        · cases here
      · exact ⟨name, schema, item, List.mem_cons_of_mem _ member, found, inner⟩
    · rintro ⟨name, schema, item, member, found, inner⟩
      obtain same | member := List.mem_cons.mp member
      · cases same
        rw [found]
        exact .inl (List.mem_map.mpr inner)
      · exact .inr ⟨name, schema, item, member, found, inner⟩

theorem mem_patternFailures_iff {schemas fields : List (String × Json)} :
    failure ∈ patternFailures schemas fields ↔
      ∃ pattern schema name item, (pattern, schema) ∈ schemas ∧ (name, item) ∈ fields ∧
        matchesPattern pattern name = true ∧ ∃ inner ∈ failures schema item,
          inner.under [.key name] [.key "patternProperties", .key pattern] = failure := by
  induction schemas with
  | nil => simp [patternFailures]
  | cons field rest ih =>
    obtain ⟨first, own⟩ := field
    rw [patternFailures, List.mem_append, ih, List.mem_flatMap]
    constructor
    · rintro (⟨⟨name, item⟩, among, inner⟩ | ⟨pattern, schema, name, item, member, more⟩)
      · obtain ⟨among, matching⟩ := List.mem_filter.mp among
        exact ⟨first, own, name, item, List.mem_cons_self, among, matching, List.mem_map.mp inner⟩
      · exact ⟨pattern, schema, name, item, List.mem_cons_of_mem _ member, more⟩
    · rintro ⟨pattern, schema, name, item, member, among, matching, inner⟩
      obtain same | member := List.mem_cons.mp member
      · cases same
        exact .inl ⟨(name, item), List.mem_filter.mpr ⟨among, matching⟩, List.mem_map.mpr inner⟩
      · exact .inr ⟨pattern, schema, name, item, member, among, matching, inner⟩

theorem mem_tupleFailures_iff {start : Nat} {schemas items : List Json} :
    failure ∈ tupleFailures start schemas items ↔
      ∃ place schema item, schemas[place]? = some schema ∧ items[place]? = some item ∧
        ∃ inner ∈ failures schema item,
          inner.under [.index (start + place)] [.key "items", .index (start + place)] =
            failure := by
  induction schemas generalizing start items with
  | nil => simp [tupleFailures]
  | cons own rest ih =>
    cases items with
    | nil => simp [tupleFailures]
    | cons first items =>
      rw [tupleFailures, List.mem_append, ih]
      constructor
      · rintro (here | ⟨place, schema, item, isSchema, isItem, inner⟩)
        · exact ⟨0, own, first, rfl, rfl, List.mem_map.mp here⟩
        · rw [Nat.add_right_comm, Nat.add_assoc] at inner
          exact ⟨place + 1, schema, item, isSchema, isItem, inner⟩
      · rintro ⟨place, schema, item, isSchema, isItem, inner⟩
        cases place with
        | zero =>
          cases isSchema
          cases isItem
          exact .inl (List.mem_map.mpr inner)
        | succ place =>
          rw [← Nat.add_assoc, Nat.add_right_comm] at inner
          exact .inr ⟨place, schema, item, isSchema, isItem, inner⟩

/-- Only an object of keywords has something to object to. -/
theorem exists_keywords_of_mem {schema : Json} (member : failure ∈ failures schema value) :
    ∃ keywords, schema = .object keywords := by
  cases schema with
  | object keywords => exact ⟨keywords, rfl⟩
  | _ => simp [failures] at member

theorem allFail_iff {schemas : List Json} :
    allFail schemas value = true ↔ ∀ schema ∈ schemas, Fails schema value := by
  rw [← Bool.not_eq_false, allFail_eq_false_iff]
  simp [Json.Accepts, Fails]

/-- **A failure of a keyword** is its own or one of an inner schema that it descends to. -/
theorem keyword_cases (member : failure ∈ keywordFailures keywords [(keyword, argument)] value) :
    ((∃ message, failure = .here keyword argument message) ∧
      Breaks Fails keyword argument keywords value) ∨
    ∃ data steps schema part, Descends keyword argument keywords value data steps schema part ∧
      ∃ inner ∈ failures schema part, inner.under data steps = failure := by
  rw [keywordFailures.eq_def] at member
  dsimp only at member
  rw [keywordFailures, List.append_nil, List.mem_append] at member
  obtain plain | inside := member
  · exact .inl (plainFailures_cases Fails plain)
  · split at inside
    · obtain ⟨name, schema, item, isSchema, found, inner⟩ := mem_propertyFailures_iff.mp inside
      exact .inr ⟨_, _, _, _, .property isSchema found, inner⟩
    · obtain ⟨pattern, schema, name, item, isSchema, among, matching, inner⟩ :=
        mem_patternFailures_iff.mp inside
      exact .inr ⟨_, _, _, _, .pattern isSchema among matching, inner⟩
    · obtain ⟨⟨name, item⟩, among, inner⟩ := List.mem_flatMap.mp inside
      obtain ⟨inFields, notCovered⟩ := mem_additionalFields_iff.mp among
      exact .inr ⟨_, _, _, _, .additional inFields notCovered, List.mem_map.mp inner⟩
    · obtain ⟨place, schema, item, isSchema, isItem, inner⟩ := mem_tupleFailures_iff.mp inside
      rw [Nat.zero_add] at inner
      exact .inr ⟨_, _, _, _, .place isSchema isItem, inner⟩
    · obtain ⟨⟨item, place⟩, among, inner⟩ := List.mem_flatMap.mp inside
      obtain ⟨first, isFirst, made⟩ := List.mem_map.mp inner
      obtain ⟨keywords, rfl⟩ := exists_keywords_of_mem isFirst
      exact .inr ⟨_, _, _, _, .item (List.mk_mem_zipIdx_iff_getElem?.mp among), first, isFirst, made⟩
    · split_ifs at inside with all
      · refine .inl ⟨⟨_, List.mem_singleton.mp inside⟩, .choice ?_⟩
        exact allFail_iff.mp all
      · cases inside
    · cases inside

/-- A keyword that does not hold has a failure. -/
theorem keyword_of_breaks (breaks : Breaks Fails keyword argument keywords value) :
    keywordFailures keywords [(keyword, argument)] value ≠ [] := by
  rw [keywordFailures.eq_def]
  dsimp only
  cases breaks with
  | type other => simp [plainFailures, other]
  | @enum allowed _ _ none_ =>
    have differs : allowed.any (fun item => item.same value) = false :=
      List.any_eq_false.mpr fun item among => mt (Json.same_iff item value).mp (none_ item among)
    simp [plainFailures, differs]
  | @required names name _ fields among absent =>
    intro nothing
    simp only [plainFailures, List.append_eq_nil_iff, List.filterMap_eq_nil_iff] at nothing
    simpa [absent] using nothing.1.1 _ among
  | @closed field _ fields among notCovered =>
    intro nothing
    have isExtra := mem_additionalFields_iff.mpr ⟨among, notCovered⟩
    cases extra : additionalFields keywords fields with
    | nil =>
      rw [extra] at isExtra
      cases isExtra
    | cons first rest => simp [plainFailures, extra] at nothing
  | choice each => simp [allFail_iff.mpr each]

/-- A failure of an inner schema is one of the keyword that descends to it. -/
theorem keyword_of_descends {data steps : List Step} {schema part : Json} {inner : Failure}
    (descends : Descends keyword argument keywords value data steps schema part)
    (member : inner ∈ failures schema part) :
    inner.under data steps ∈ keywordFailures keywords [(keyword, argument)] value := by
  rw [keywordFailures.eq_def]
  dsimp only
  refine List.mem_append_left _ (List.mem_append_right _ ?_)
  cases descends with
  | property isSchema found =>
    exact mem_propertyFailures_iff.mpr ⟨_, _, _, isSchema, found, inner, member, rfl⟩
  | pattern isSchema among matching =>
    exact mem_patternFailures_iff.mpr ⟨_, _, _, _, isSchema, among, matching, inner, member, rfl⟩
  | additional among notCovered =>
    exact List.mem_flatMap.mpr ⟨_, mem_additionalFields_iff.mpr ⟨among, notCovered⟩,
      List.mem_map.mpr ⟨inner, member, rfl⟩⟩
  | item found =>
    exact List.mem_flatMap.mpr ⟨_, List.mk_mem_zipIdx_iff_getElem?.mpr found,
      List.mem_map.mpr ⟨inner, member, rfl⟩⟩
  | place isSchema isItem =>
    refine mem_tupleFailures_iff.mpr ⟨_, _, _, isSchema, isItem, inner, member, ?_⟩
    rw [Nat.zero_add]

/-- The failures of a schema are those of its keywords. -/
theorem mem_failures_iff : failure ∈ failures (.object keywords) value ↔
    ∃ keyword argument, (keyword, argument) ∈ keywords ∧
      failure ∈ keywordFailures keywords [(keyword, argument)] value := by
  have among (some_ : List (String × Json)) : failure ∈ keywordFailures keywords some_ value ↔
      ∃ keyword argument, (keyword, argument) ∈ some_ ∧
        failure ∈ keywordFailures keywords [(keyword, argument)] value := by
    induction some_ with
    | nil => simp [keywordFailures]
    | cons field rest ih =>
      obtain ⟨keyword, argument⟩ := field
      rw [keywordFailures_cons, List.mem_append, ih]
      constructor
      · rintro (here | ⟨other, own, member, there⟩)
        · exact ⟨keyword, argument, List.mem_cons_self, here⟩
        · exact ⟨other, own, List.mem_cons_of_mem _ member, there⟩
      · rintro ⟨other, own, member, found⟩
        obtain same | member := List.mem_cons.mp member
        · cases same
          exact .inl found
        · exact .inr ⟨other, own, member, found⟩
  rw [failures]
  exact among keywords

end Inside

/-! ### Failures and violations -/

section Violations

variable {keywords : List (String × Json)} {keyword : String} {argument value : Json}

/-- Only the alternatives of a choice have to be looked into. -/
theorem Breaks.imp {violates other : Json → Json → Prop}
    (breaks : Breaks violates keyword argument keywords value)
    (implies : ∀ schemas, argument = .array schemas → ∀ schema ∈ schemas,
      violates schema value → other schema value) :
    Breaks other keyword argument keywords value := by
  cases breaks with
  | type isOther => exact .type isOther
  | enum none_ => exact .enum none_
  | required among absent => exact .required among absent
  | closed among notCovered => exact .closed among notCovered
  | choice each => exact .choice fun schema member => implies _ rfl schema member (each schema member)

theorem sizeOf_argument_lt (member : (keyword, argument) ∈ keywords) :
    sizeOf argument < sizeOf (Json.object keywords) := by
  have smaller : sizeOf argument < sizeOf keywords := Json.sizeOf_snd_lt member
  rw [Json.object.sizeOf_spec]
  omega

theorem Descends.sizeOf_le {data steps : List Step} {schema part : Json}
    (descends : Descends keyword argument keywords value data steps schema part) :
    sizeOf schema ≤ sizeOf argument := by
  cases descends with
  | property isSchema _ => exact Nat.le_of_lt (sizeOf_argument_lt isSchema)
  | pattern isSchema _ _ => exact Nat.le_of_lt (sizeOf_argument_lt isSchema)
  | additional _ _ | item _ => exact Nat.le_refl _
  | place isSchema _ =>
    have := List.sizeOf_lt_of_mem (List.mem_of_getElem? isSchema)
    rw [Json.array.sizeOf_spec]
    omega

theorem sizeOf_alternative_lt {schemas : List Json} {schema : Json}
    (member : (keyword, .array schemas) ∈ keywords) (among : schema ∈ schemas) :
    sizeOf schema < sizeOf (Json.object keywords) := by
  have := sizeOf_argument_lt member
  have := List.sizeOf_lt_of_mem among
  rw [Json.array.sizeOf_spec] at *
  omega

/-- **A value has failures exactly if it violates the schema.** -/
theorem fails_iff_violates (schema value : Json) : Fails schema value ↔ Violates schema value := by
  -- Inner schemas and alternatives are smaller than the schema that they stand in.
  induction size : sizeOf schema using Nat.strongRecOn generalizing schema value with
  | _ size ih =>
  subst size
  constructor
  · intro fails
    obtain ⟨failure, member⟩ := List.exists_mem_of_ne_nil _ fails
    obtain ⟨keywords, rfl⟩ := exists_keywords_of_mem member
    obtain ⟨keyword, argument, inKeywords, ofKeyword⟩ := mem_failures_iff.mp member
    obtain ⟨-, breaks⟩ | ⟨data, steps, schema, part, descends, inner, isInner, -⟩ :=
      keyword_cases ofKeyword
    · refine .here inKeywords (breaks.imp ?_)
      rintro schemas rfl schema among
      exact (ih _ (sizeOf_alternative_lt inKeywords among) schema value rfl).mp
    · have smaller := Nat.lt_of_le_of_lt descends.sizeOf_le (sizeOf_argument_lt inKeywords)
      have fails : Fails schema part := List.ne_nil_of_mem isInner
      exact .inside inKeywords descends ((ih _ smaller schema part rfl).mp fails)
  · intro violates
    cases violates with
    | here inKeywords breaks =>
      have fails := keyword_of_breaks (breaks.imp ?_)
      · obtain ⟨failure, member⟩ := List.exists_mem_of_ne_nil _ fails
        exact List.ne_nil_of_mem (mem_failures_iff.mpr ⟨_, _, inKeywords, member⟩)
      · rintro schemas rfl schema among
        exact (ih _ (sizeOf_alternative_lt inKeywords among) schema value rfl).mpr
    | inside inKeywords descends violates =>
      have smaller := Nat.lt_of_le_of_lt descends.sizeOf_le (sizeOf_argument_lt inKeywords)
      have fails := (ih _ smaller _ _ rfl).mpr violates
      obtain ⟨failure, member⟩ := List.exists_mem_of_ne_nil _ fails
      exact List.ne_nil_of_mem
        (mem_failures_iff.mpr ⟨_, _, inKeywords, keyword_of_descends descends member⟩)

end Violations

end TypeSchema
