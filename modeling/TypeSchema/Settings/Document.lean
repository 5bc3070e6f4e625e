/-
**Settings in documents.**

* `Settings.ofEntries?`: settings from named values; what is not named keeps its usual value, and a
  name that is unknown or a value out of bounds refuses all;
* `Settings.ofText` and `Settings.text`: settings in a YAML or a JSON document, by the suffix of its
  path. An empty document holds the usual settings.
-/

import TypeSchema.Json.Read
import TypeSchema.Json.Write
import TypeSchema.Settings.Basic
import TypeSchema.Settings.Coercion
import TypeSchema.Text.Newline
import TypeSchema.Text.Path

namespace TypeSchema

/-- Why a document holds no settings. -/
inductive SettingsError where
  /-- A text that is no JSON document. -/
  | json
  | yaml (error : Yaml.Error)
  /-- A document that is no mapping, with the kind of its value. -/
  | shape (kind : String)
  /-- A name that is no text. -/
  | name
  /-- An unknown name, or a value out of bounds. -/
  | field (path : Path)

/-- The wording of a document without settings. -/
def SettingsError.message : SettingsError → String
  | json => ""
  | yaml error => error.message
  | shape kind =>
    "flow_jsonschema.config.GeneratorConfig() argument after ** must be a mapping, not " ++ kind
  | name => "keywords must be strings"
  | field path => "Invalid config " ++ path.text

/-- Settings that cannot be written: an integer has more digits than a text may have. -/
structure LongInteger

/-- The wording of an integer that is too long. -/
def LongInteger.message (_ : LongInteger) : String :=
  s!"Exceeds the limit ({digitLimit} digits) for integer string conversion; " ++
    "use sys.set_int_max_str_digits() to increase the limit"

namespace Datum

/-- The kind of a value, in words. -/
def kindName : Datum → String
  | null => "NoneType"
  | bool _ => "bool"
  | number (.int _) => "int"
  | number (.real _) => "float"
  | string _ => "str"
  | sequence _ => "list"
  | mapping _ => "dict"
  | rare .date _ => "datetime.date"
  | rare .moment _ => "datetime.datetime"
  | rare (.binary _) _ => "bytes"
  | rare .set _ => "set"
  | rare .cycle _ => "dict"

/-- Whether a value is empty: null, false, zero, or without content. -/
def isEmpty : Datum → Bool
  | null => true
  | bool value => !value
  | number value => value.same (.int 0)
  | string text => text.isEmpty
  | sequence items => items.isEmpty
  | mapping entries => entries.isEmpty
  | rare _ isEmpty => isEmpty

/-- The text that a key is. -/
def keyText? : Datum × Datum → Option (String × Datum)
  | (.string name, value) => some (name, value)
  | _ => none

end Datum

namespace Settings

/-- The settings with one of them set, unless its name is unknown or the value out of bounds. -/
def set? (settings : Settings) (name : String) (value : Datum) : Option Settings :=
  if name = "flow_path" then do
    let path ← value.toText?
    if IsVisible path then some { settings with flowPath := path } else none
  else if name = "max_retries" then do
    return { settings with maxRetries := ← value.toNatural? 1 }
  else if name = "retry_interval" then do
    let interval ← value.toReal?
    if IsPositive interval then some { settings with retryInterval := interval } else none
  else if name = "call_timeout" then
    match value with
    | .null => some { settings with callTimeout := none }
    | _ => do
      let limit ← value.toReal?
      if IsPositive limit then some { settings with callTimeout := some limit } else none
  else if name = "concurrency" then do
    return { settings with concurrency := ← value.toNatural? 1 }
  else if name = "max_reexport_depth" then do
    return { settings with maxReexportDepth := ← value.toNatural? 0 }
  else if name = "status_notice_delay" then do
    let delay ← value.toReal?
    if IsNonnegative delay then some { settings with statusNoticeDelay := delay } else none
  else if name = "min_position_query_version" then do
    return { settings with minPositionQueryVersion := ← value.toText? }
  else none

/-- The settings that named values make. -/
def ofEntries? (entries : List (String × Datum)) : Option Settings :=
  entries.foldlM (fun settings entry => settings.set? entry.1 entry.2) {}

/-- The settings that the value of a document makes. -/
def ofDatum (path : Path) (datum : Datum) : Except SettingsError Settings :=
  if datum.isEmpty then .ok {}
  else
    match datum with
    | .mapping entries =>
      match entries.mapM Datum.keyText? with
      | none => .error .name
      | some named =>
        match ofEntries? named with
        | none => .error (.field path)
        | some settings => .ok settings
    | other => .error (.shape other.kindName)

/-- Whether a path is that of a YAML document. -/
def isYamlPath (path : Path) : Bool := path.suffix == ".yaml" || path.suffix == ".yml"

/-- The value of the document in a file. -/
def readDatum (path : Path) (text : String) : Except SettingsError Datum :=
  let text := String.ofList (unixLines text.toList)
  if isYamlPath path then (Datum.ofYaml text).mapError .yaml
  else
    match Json.parse? text with
    | none => .error .json
    | some value => .ok (.ofJson value)

/-- The settings in a file. -/
def ofText (path : Path) (text : String) : Except SettingsError Settings := do
  ofDatum path (← readDatum path text)

/-- A scalar as a JSON value. -/
def scalarJson : Yaml.Scalar → Json
  | .null => .null
  | .number value => .number value
  | .text value => .string value

/-- The integers among settings. -/
def integers (settings : Settings) : List Nat :=
  [settings.maxRetries, settings.concurrency, settings.maxReexportDepth]

/-- The file of settings. An integer with too many digits has no text. -/
def text (settings : Settings) (path : Path) : Except LongInteger String :=
  if settings.integers.any fun value => digitLimit < (Nat.toDigits 10 value).length then .error ⟨⟩
  else if isYamlPath path then .ok (Yaml.document settings.fields)
  else
    .ok (Json.object (settings.fields.map fun (name, value) => (name, scalarJson value))).indented

end Settings

end TypeSchema
