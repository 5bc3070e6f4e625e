/-
**Failures of validation.**

* `Step`: a step into a value or a schema, by key or by index;
* `Failure`: the keyword that does not hold, the steps to the value and to the keyword, and the
  keyword's own value;
* `Record`: a failure with its paths as texts, `.key` and `[index]` for the value, steps joined by
  slashes for the schema;
* `Rejection`: what a value that fails an assertion is reported with.
-/

import TypeSchema.Json.Literal

namespace TypeSchema

/-- A step into a value or a schema. -/
inductive Step where
  | key (name : String)
  | index (place : Nat)
deriving DecidableEq, Repr

namespace Step

/-- A step of a path into a value. -/
def dataText : Step → String
  | key name => "." ++ name
  | index place => s!"[{place}]"

/-- A step of a path into a schema. -/
def schemaText : Step → String
  | key name => name
  | index place => toString place

end Step

/-- A keyword that does not hold of a value. -/
structure Failure where
  keyword : String
  dataPath : List Step
  schemaPath : List Step
  argument : Json
  message : String

namespace Failure

/-- A failure at the value and the schema themselves. -/
def here (keyword : String) (argument : Json) (message : String) : Failure :=
  ⟨keyword, [], [.key keyword], argument, message⟩

/-- A failure seen from further up. -/
def under (data schema : List Step) (failure : Failure) : Failure :=
  { failure with
    dataPath := data ++ failure.dataPath
    schemaPath := schema ++ failure.schemaPath }

end Failure

/-- A failure as it is reported. -/
structure Record where
  keyword : String
  dataPath : String
  schemaPath : String
  params : List (String × Json)
  message : String

/-- The report of a failure. -/
def Failure.record (failure : Failure) : Record where
  keyword := failure.keyword
  dataPath := String.join (failure.dataPath.map Step.dataText)
  schemaPath := "#/" ++ "/".intercalate (failure.schemaPath.map Step.schemaText)
  params := [(failure.keyword, failure.argument)]
  message := failure.message

/-- A value that does not have the type it was asserted to have. -/
structure Rejection where
  typeName : String
  records : List Record

/-- The wording of a rejection: the first record. -/
def Rejection.message (rejection : Rejection) : String :=
  match rejection.records with
  | [] => "(no errors)"
  | first :: _ => rejection.typeName ++ first.dataPath ++ ": " ++ first.message

end TypeSchema
