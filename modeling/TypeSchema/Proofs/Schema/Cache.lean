/-
**A cache shows only in how long a call takes.**

* `Filled`: what a cache holds after some names have been used: a validator for each of them that
  has a schema, once, and made of that schema;
* `Filled.perform`: a call keeps that, and its answer follows from the schemas alone;
* `cache_transparent`: **every call answers as on a fresh cache**, whatever was called before it. A
  value is asserted exactly if it passes the check, a name without a schema is reported and changes
  nothing, and there are as many validators as known names since the last reset.
-/

import Mathlib.Data.List.Dedup
import TypeSchema.Proofs.Schema.Meaning

namespace TypeSchema

/-- The name that a call is about; a reset is about none. -/
def CacheCall.name? : CacheCall → Option String
  | validator name | records name _ _ | check name _ _ | assertValid name _ _ => some name
  | reset => none

/-- The names of the calls after the last reset, latest first. -/
def namesSinceReset (history : List CacheCall) : List String :=
  (history.reverse.takeWhile fun call => call.name?.isSome).filterMap CacheCall.name?

/-- A cache after one call after the other. -/
def Cache.after (cache : Cache) (history : List CacheCall) : Cache :=
  history.foldl (fun cache call => (cache.perform call).2) cache

theorem Cache.after_concat (cache : Cache) (history : List CacheCall) (call : CacheCall) :
    cache.after (history ++ [call]) = ((cache.after history).perform call).2 := by
  rw [after, List.foldl_concat]
  rfl

/-! ### Answers without a cache -/

section Answers

variable (schemas : List (String × Json))

/-- The validator of a name. -/
def validatorOf (name : String) : Except UnknownType Validator :=
  match (collectFields schemas).lookup name with
  | some schema => .ok ⟨schema⟩
  | none => .error ⟨name⟩

/-- What a call gives, told from the schemas alone. -/
def CacheCall.answer : CacheCall → Except UnknownType CacheAnswer
  | validator name => (validatorOf schemas name).map .validator
  | records name value all =>
    (validatorOf schemas name).map fun validator => .records (validator.records value all)
  | check name value all =>
    (validatorOf schemas name).map fun validator =>
      .checked (validator.records value all).isEmpty
  | assertValid name value all =>
    (validatorOf schemas name).map fun validator =>
      let records := validator.records value all
      .asserted (if records.isEmpty then .ok value else .error ⟨name, records⟩)
  | reset => .ok .done

end Answers

/-! ### One call -/

/-- **What a cache holds** after names have been used: the validators of the known ones among them,
each once and made of its schema. -/
structure Cache.Filled (schemas : List (String × Json)) (used : List String) (cache : Cache) :
    Prop where
  same : cache.schemas = collectFields schemas
  distinct : (cache.validators.map Prod.fst).Nodup
  names : ∀ name, name ∈ cache.validators.map Prod.fst ↔
    name ∈ used ∧ name ∈ schemas.map Prod.fst
  made : ∀ name validator, (name, validator) ∈ cache.validators →
    validatorOf schemas name = .ok validator

section Filled

variable {schemas : List (String × Json)} {used : List String} {cache : Cache}

theorem validatorOf_of_known {name : String} (known : name ∈ schemas.map Prod.fst) :
    ∃ schema, (collectFields schemas).lookup name = some schema ∧
      validatorOf schemas name = .ok ⟨schema⟩ := by
  obtain ⟨⟨_, schema⟩, member, rfl⟩ :=
    List.mem_map.mp ((mem_map_fst_collectFields schemas name).mpr known)
  have found := (mem_iff_lookup (nodup_collectFields schemas) _ schema).mp member
  exact ⟨schema, found, by rw [validatorOf, found]⟩

theorem lookup_of_unknown {name : String} (unknown : name ∉ schemas.map Prod.fst) :
    (collectFields schemas).lookup name = none := by
  cases found : (collectFields schemas).lookup name with
  | none => rfl
  | some schema =>
    have member := List.mem_map_of_mem (f := Prod.fst) (mem_of_lookup found)
    exact absurd ((mem_map_fst_collectFields schemas name).mp member) unknown

theorem validatorOf_of_unknown {name : String} (unknown : name ∉ schemas.map Prod.fst) :
    validatorOf schemas name = .error ⟨name⟩ := by
  rw [validatorOf, lookup_of_unknown unknown]

/-- A new cache holds nothing. -/
theorem filled_ofSchemas (schemas : List (String × Json)) :
    (Cache.ofSchemas schemas).Filled schemas [] where
  same := rfl
  distinct := List.nodup_nil
  names name := by simp [Cache.ofSchemas]
  made name validator member := nomatch member

/-- A cache without validators holds nothing. -/
theorem Cache.Filled.reset (filled : cache.Filled schemas used) :
    cache.reset.Filled schemas [] where
  same := filled.same
  distinct := List.nodup_nil
  names name := by simp [Cache.reset]
  made name validator member := nomatch member

/-- A name that is held already or has no schema changes nothing. -/
theorem Cache.Filled.cons (filled : cache.Filled schemas used) {name : String}
    (settled : name ∈ schemas.map Prod.fst → name ∈ used) :
    cache.Filled schemas (name :: used) where
  same := filled.same
  distinct := filled.distinct
  names other := by
    rw [filled.names, List.mem_cons]
    refine and_congr_left fun known => ⟨.inr, ?_⟩
    rintro (rfl | isUsed)
    · exact settled known
    · exact isUsed
  made := filled.made

/-- The validator of a name that has one, kept or made. -/
theorem Cache.Filled.validator_known (filled : cache.Filled schemas used) {name : String}
    (known : name ∈ schemas.map Prod.fst) :
    ∃ validator after, validatorOf schemas name = .ok validator ∧
      cache.validator name = .ok (validator, after) ∧ after.Filled schemas (name :: used) := by
  obtain ⟨schema, found, isValidator⟩ := validatorOf_of_known known
  cases kept : cache.validators.lookup name with
  | some validator =>
    have member := mem_of_lookup kept
    have isUsed := (filled.names name).mp (List.mem_map_of_mem (f := Prod.fst) member)
    exact ⟨validator, cache, filled.made name validator member, by rw [Cache.validator, kept],
      filled.cons fun _ => isUsed.1⟩
  | none =>
    have fresh : name ∉ cache.validators.map Prod.fst := by
      intro member
      obtain ⟨⟨_, validator⟩, isField, rfl⟩ := List.mem_map.mp member
      rw [(mem_iff_lookup filled.distinct _ validator).mp isField] at kept
      cases kept
    have isSchema : cache.schemas.lookup name = some schema := filled.same ▸ found
    refine ⟨⟨schema⟩, _, isValidator, by rw [Cache.validator, kept, isSchema], ?_⟩
    refine ⟨filled.same, ?_, fun other => ?_, fun other validator member => ?_⟩
    · rw [List.map_append, List.map_singleton, ← List.concat_eq_append, List.nodup_concat]
      exact ⟨fresh, filled.distinct⟩
    · rw [List.map_append, List.mem_append, filled.names, List.mem_cons, List.map_singleton,
        List.mem_singleton]
      constructor
      · rintro (⟨used, isKnown⟩ | rfl)
        · exact ⟨.inr used, isKnown⟩
        · exact ⟨.inl rfl, known⟩
      · rintro ⟨rfl | used, isKnown⟩
        · exact .inr rfl
        · exact .inl ⟨used, isKnown⟩
    · rcases List.mem_append.mp member with old | new
      · exact filled.made other validator old
      · cases List.mem_singleton.mp new
        exact isValidator

/-- A name without a schema has no validator. -/
theorem Cache.Filled.validator_unknown (filled : cache.Filled schemas used) {name : String}
    (unknown : name ∉ schemas.map Prod.fst) : cache.validator name = .error ⟨name⟩ := by
  have notKept : cache.validators.lookup name = none := by
    cases kept : cache.validators.lookup name with
    | none => rfl
    | some validator =>
      have member := List.mem_map_of_mem (f := Prod.fst) (mem_of_lookup kept)
      exact absurd ((filled.names name).mp member).2 unknown
  rw [Cache.validator, notKept, filled.same, lookup_of_unknown unknown]

/-- The answer of a call about a name, and what the cache holds after it. -/
theorem Cache.Filled.perform_name (filled : cache.Filled schemas used) {call : CacheCall}
    {name : String} (about : call.name? = some name) :
    (cache.perform call).1 = call.answer schemas ∧
      (cache.perform call).2.Filled schemas (name :: used) ∧
      (name ∉ schemas.map Prod.fst → cache.perform call = (.error ⟨name⟩, cache)) := by
  by_cases known : name ∈ schemas.map Prod.fst
  · obtain ⟨validator, after, isValidator, made, holds⟩ := filled.validator_known known
    have answered : (cache.perform call).1 = call.answer schemas ∧
        (cache.perform call).2.Filled schemas (name :: used) := by
      cases call <;> cases about <;>
        simpa [perform, conclude, records, check, assertValid, made, Except.map,
          CacheCall.answer, isValidator] using holds
    exact ⟨answered.1, answered.2, absurd known⟩
  · have missing := filled.validator_unknown known
    have none_ := validatorOf_of_unknown known
    have same : cache.Filled schemas (name :: used) :=
      filled.cons fun isKnown => absurd isKnown known
    cases call <;> cases about <;>
      simpa [perform, conclude, records, check, assertValid, missing, Except.map,
        CacheCall.answer, none_] using same

/-- **One call.** Its answer follows from the schemas, and the cache then holds the validator of its
name as well, or none after a reset. -/
theorem Cache.Filled.perform {history : List CacheCall}
    (filled : cache.Filled schemas (namesSinceReset history)) (call : CacheCall) :
    (cache.perform call).1 = call.answer schemas ∧
      (cache.perform call).2.Filled schemas (namesSinceReset (history ++ [call])) := by
  have latest : (history ++ [call]).reverse = call :: history.reverse := by simp
  cases about : call.name? with
  | none =>
    have nothing : namesSinceReset (history ++ [call]) = [] := by
      simp [namesSinceReset, latest, about]
    cases call <;> cases about
    exact ⟨rfl, nothing ▸ filled.reset⟩
  | some name =>
    have more : namesSinceReset (history ++ [call]) = name :: namesSinceReset history := by
      simp [namesSinceReset, latest, about]
    obtain ⟨answer, holds, -⟩ := filled.perform_name about
    exact ⟨answer, more ▸ holds⟩

/-- A cache that is used holds the validators of the known names since the last reset. -/
theorem filled_after (schemas : List (String × Json)) (history : List CacheCall) :
    ((Cache.ofSchemas schemas).after history).Filled schemas (namesSinceReset history) := by
  induction history using List.reverseRecOn with
  | nil => exact filled_ofSchemas schemas
  | append_singleton earlier last ih =>
    rw [Cache.after_concat]
    exact (ih.perform last).2

/-- As many validators as different names that are used and known. -/
theorem Cache.Filled.size (filled : cache.Filled schemas used) :
    cache.size = (used.filter (· ∈ schemas.map Prod.fst)).dedup.length := by
  rw [Cache.size, ← List.length_map (f := Prod.fst)]
  refine ((List.perm_ext_iff_of_nodup filled.distinct (List.nodup_dedup _)).mpr ?_).length_eq
  intro name
  rw [filled.names, List.mem_dedup, List.mem_filter, decide_eq_true_eq]

end Filled

/-! ### Any calls -/

/-- **A cache is transparent.** Whatever was called before, a call answers as on a fresh cache of
the same schemas. For a known name there are records, the check says whether there are any, in
either way of collecting them, and the assertion gives the value itself if there are none and is
rejected with them otherwise. For an unknown name the call says so and leaves the cache as it is.
The cache holds as many validators as different known names have been used since the last reset. -/
theorem cache_transparent (schemas : List (String × Json)) (history : List CacheCall) :
    let fresh := Cache.ofSchemas schemas
    let cache := fresh.after history
    (∀ call, (cache.perform call).1 = (fresh.perform call).1) ∧
    (∀ name value all, name ∈ schemas.map Prod.fst → ∃ records,
      (cache.perform (.records name value all)).1 = .ok (.records records) ∧
      (∀ any, (cache.perform (.check name value any)).1 = .ok (.checked records.isEmpty)) ∧
      (cache.perform (.assertValid name value all)).1 =
        .ok (.asserted (if records = [] then .ok value else .error ⟨name, records⟩))) ∧
    (∀ call name, call.name? = some name → name ∉ schemas.map Prod.fst →
      cache.perform call = (.error ⟨name⟩, cache)) ∧
    cache.size =
      ((namesSinceReset history).filter (· ∈ schemas.map Prod.fst)).dedup.length := by
  intro fresh cache
  have filled := filled_after schemas history
  have answers (call : CacheCall) : (cache.perform call).1 = call.answer schemas :=
    (filled.perform call).1
  refine ⟨fun call => ?_, fun name value all known => ?_, fun call name about unknown => ?_,
    filled.size⟩
  · rw [answers call]
    exact ((filled_after schemas []).perform call).1.symm
  · obtain ⟨schema, -, isValidator⟩ := validatorOf_of_known known
    refine ⟨(Validator.mk schema).records value all, ?_, fun any => ?_, ?_⟩
    · rw [answers, CacheCall.answer, isValidator]
      rfl
    · have alike : ((Validator.mk schema).records value any).isEmpty =
          ((Validator.mk schema).records value all).isEmpty := by
        rw [Bool.eq_iff_iff, records_isEmpty_iff, records_isEmpty_iff]
      rw [answers, CacheCall.answer, isValidator, ← alike]
      rfl
    · rw [answers, CacheCall.answer, isValidator]
      simp [Except.map, List.isEmpty_iff]
  · exact (filled.perform_name about).2.2 unknown

/-- A failed call, a reset and a second use leave one validator. -/
theorem cache_transparent_afterReset :
    let schemas := [("A", Json.object (kindSchema .string)), ("B", .object (kindSchema .number))]
    let history : List CacheCall := [.check "A" .null true, .validator "C", .reset,
      .records "B" .null false, .assertValid "B" .null true]
    let cache := (Cache.ofSchemas schemas).after history
    "B" ∈ schemas.map Prod.fst ∧ (CacheCall.validator "C").name? = some "C" ∧
      "C" ∉ schemas.map Prod.fst ∧
      cache.perform (.validator "C") = (.error ⟨"C"⟩, cache) ∧
      (∃ records, (cache.perform (.records "B" .null true)).1 = .ok (.records records) ∧
        ∀ any, (cache.perform (.check "B" .null any)).1 = .ok (.checked records.isEmpty)) ∧
      cache.size = 1 := by
  intro schemas history cache
  have known : "B" ∈ schemas.map Prod.fst := by decide
  have unknown : "C" ∉ schemas.map Prod.fst := by decide
  obtain ⟨-, reported, missing, size⟩ := cache_transparent schemas history
  obtain ⟨records, isRecords, checked, -⟩ := reported "B" .null true known
  exact ⟨known, rfl, unknown, missing _ _ rfl unknown, ⟨records, isRecords, checked⟩, size⟩

end TypeSchema
