/-
**Validators for named schemas.**

A `Cache` holds named schemas and the validators that have been made for some of them. A validator
is made at its first use and kept until `reset`; whether it was made before never shows in an
answer.
-/

import TypeSchema.Schema.Validate

namespace TypeSchema

/-- A schema that is ready to check values. -/
structure Validator where
  schema : Json

/-- The failures of a value; only the first one unless all are wanted. -/
def Validator.records (validator : Validator) (value : Json) (all : Bool) : List Record :=
  let found := (failures validator.schema value).map Failure.record
  if all then found else found.take 1

/-- A name without a schema. -/
structure UnknownType where
  name : String
deriving DecidableEq

/-- The wording of an unknown name. -/
def UnknownType.message (error : UnknownType) : String := quote ("unknown type " ++ error.name)

/-- Named schemas, and the validators made so far. -/
structure Cache where
  schemas : List (String × Json)
  validators : List (String × Validator)

namespace Cache

/-- A cache without validators. -/
def ofSchemas (schemas : List (String × Json)) : Cache := ⟨collectFields schemas, []⟩

/-- The number of validators. -/
def size (cache : Cache) : Nat := cache.validators.length

/-- Whether the validator of a name has been made. -/
def holds (cache : Cache) (name : String) : Bool := (cache.validators.lookup name).isSome

/-- The validator of a name, made if need be. -/
def validator (cache : Cache) (name : String) : Except UnknownType (Validator × Cache) :=
  match cache.validators.lookup name with
  | some validator => .ok (validator, cache)
  | none =>
    match cache.schemas.lookup name with
    | none => .error ⟨name⟩
    | some schema =>
      .ok (⟨schema⟩, { cache with validators := cache.validators ++ [(name, ⟨schema⟩)] })

/-- The failures of a value against a named schema. -/
def records (cache : Cache) (name : String) (value : Json) (all : Bool) :
    Except UnknownType (List Record × Cache) :=
  (cache.validator name).map fun (validator, cache) => (validator.records value all, cache)

/-- Whether a value has no failures. -/
def check (cache : Cache) (name : String) (value : Json) (all : Bool) :
    Except UnknownType (Bool × Cache) :=
  (cache.records name value all).map fun (records, cache) => (records.isEmpty, cache)

/-- The value itself, or its rejection. -/
def assertValid (cache : Cache) (name : String) (value : Json) (all : Bool) :
    Except UnknownType (Except Rejection Json × Cache) :=
  (cache.records name value all).map fun (records, cache) =>
    (if records.isEmpty then .ok value else .error ⟨name, records⟩, cache)

/-- The cache without its validators. -/
def reset (cache : Cache) : Cache := { cache with validators := [] }

end Cache

/-- A use of a cache. -/
inductive CacheCall where
  | validator (name : String)
  | records (name : String) (value : Json) (all : Bool)
  | check (name : String) (value : Json) (all : Bool)
  | assertValid (name : String) (value : Json) (all : Bool)
  | reset

/-- What a use of a cache gives. -/
inductive CacheAnswer where
  | validator (validator : Validator)
  | records (records : List Record)
  | checked (accepted : Bool)
  | asserted (result : Except Rejection Json)
  | done

namespace Cache

variable {α : Type}

/-- The answer that an operation comes to, and the cache after it: an unknown name is reported
before anything is written. -/
def conclude (cache : Cache) (answer : α → CacheAnswer) :
    Except UnknownType (α × Cache) → Except UnknownType CacheAnswer × Cache
  | .ok (value, after) => (.ok (answer value), after)
  | .error error => (.error error, cache)

/-- Uses a cache: the answer, and the cache after it. -/
def perform (cache : Cache) : CacheCall → Except UnknownType CacheAnswer × Cache
  | .validator name => cache.conclude .validator (cache.validator name)
  | .records name value all => cache.conclude .records (cache.records name value all)
  | .check name value all => cache.conclude .checked (cache.check name value all)
  | .assertValid name value all => cache.conclude .asserted (cache.assertValid name value all)
  | .reset => (.ok .done, cache.reset)

end Cache

end TypeSchema
