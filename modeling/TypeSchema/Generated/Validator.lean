/-
**The generated validator module.**

`Registry.validatorModule` writes a module with the source texts of the types, their schemas, and
for each type a check and an assert function. `functionSuffix` makes a name fit for a function:
characters that may not stand in one become underscores.
-/

import TypeSchema.Generated.Layout
import TypeSchema.Registry
import TypeSchema.Text.Path
import TypeSchema.Text.Word

namespace TypeSchema

/-- The name of a type as part of a function name. -/
def functionSuffix (name : String) : String :=
  String.ofList (name.toList.map fun c => if isWord c then c else '_')

/-- A text as literals in parentheses, one for each line. -/
def textBlock (text : String) : String :=
  let lines :=
    match linesKept text.toList with
    | [] => [[]]
    | lines => lines
  "(\n" ++ "\n".intercalate (lines.map fun line => "    " ++ String.ofList (quoted line)) ++ "\n)"

/-- The beginning of a module generated from a file. -/
def moduleHeader (source : String) : String :=
  "\"\"\"Validators generated by flow-jsonschema from " ++ source ++ ".\n" ++
    "\n" ++
    "DO NOT EDIT.\n" ++
    "\"\"\"\n" ++
    "\n" ++
    "from flow_jsonschema.runtime import ValidationError, ValidatorCache\n" ++
    "\n"

/-- The check and the assert function of a type. -/
def validatorFunctions (name : String) : String :=
  "\n\ndef check" ++ functionSuffix name ++ "(value, all_errors=False):\n" ++
    "    \"\"\"Check whether \x60\x60value\x60\x60 is a valid " ++ name ++ ".\"\"\"\n" ++
    "    return VALIDATORS.check(" ++ quote name ++ ", value, all_errors=all_errors)\n" ++
    "\n\ndef assert" ++ functionSuffix name ++ "(value, all_errors=False):\n" ++
    "    \"\"\"Return \x60\x60value\x60\x60 if it is a valid " ++ name ++
    "; raise ValidationError otherwise.\"\"\"\n" ++
    "    return VALIDATORS.assert_valid(" ++ quote name ++ ", value, all_errors=all_errors)\n"

/-- The names that a module offers. -/
def offeredNames (names : List String) : List String :=
  ["ValidationError", "VALIDATORS"] ++
    names.flatMap fun name => ["check" ++ functionSuffix name, "assert" ++ functionSuffix name]

namespace Registry

/-- All source texts, in the order of the names. -/
def sourceText (registry : Registry) : String :=
  "\n".intercalate (registry.sources.map Prod.snd)

/-- The schemas as a literal in lines. -/
def schemaLiteral (registry : Registry) : String := (Json.object registry.schemas).layout 0 0

/-- The validator module of the types of a file. -/
def validatorModule (registry : Registry) (source : String) : String :=
  moduleHeader (normalPath source) ++
    "FLOW_SOURCE = " ++ textBlock registry.sourceText ++ "\n\n" ++
    "SCHEMAS = " ++ registry.schemaLiteral ++ "\n\n" ++
    "VALIDATORS = ValidatorCache(SCHEMAS)\n" ++
    String.join (registry.names.map validatorFunctions) ++
    "\n\n__all__ = [\n" ++
    "\n".intercalate ((offeredNames registry.names).map fun name => "    " ++ quote name ++ ",") ++
    "\n]\n"

end Registry

/-- A path for which no name of a validator module can be made. -/
structure NotAModule where
  path : Path
deriving DecidableEq

/-- The wording of such a path. -/
def NotAModule.message (error : NotAModule) : String :=
  "Input must be a .js file when no output path is given: " ++ error.path.text

/-- The path of the validator module of a file. -/
def validatorPath (path : Path) : Except NotAModule Path :=
  if path.suffix = ".js" then .ok (path.withName (path.stem ++ "_validator.py"))
  else .error ⟨path⟩

end TypeSchema
