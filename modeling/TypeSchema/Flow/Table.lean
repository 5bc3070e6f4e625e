/-
**A type checker that answers from a table.**

* `AnswerTable`: the processes that answer each question. Modules are found under the file that
  names them and their name, else under the name; types under their place, else under the name that
  stands there;
* `AnswerTable.tool`: the program that gives these answers about some files;
* `AnswerTable.ofJson`: a table in JSON, where a text stands for the process that prints it.
-/

import TypeSchema.Files.Tree
import TypeSchema.Run.Description
import TypeSchema.Run.Session
import TypeSchema.TypeExpr.Alias

namespace TypeSchema

/-- How a type is told: by the right side of its alias, or by a process of another kind. -/
inductive TypeAnswer where
  | side (text : String)
  | process (child : Child)

/-- The processes that answer each question. -/
structure AnswerTable where
  status : List Child
  version : List Child
  modules : List (String × List Child)
  types : List (String × List TypeAnswer)
  flowFiles : List Child

/-- A process that prints a text. -/
def Child.printing (text : String) : Child := { output := textBytes text }

/-- A process that fails with a complaint. -/
def Child.failing (complaint : String) : Child := { code := 1, complaint := textBytes complaint }

/-- The identifier that stands at a place of a text. -/
def identifierAt (text : List Char) (line column : Nat) : String :=
  let row := ((splitAt '\n' text)[line - 1]?).getD []
  String.ofList ((row.drop (column - 1)).takeWhile isIdentifierPart)

/-- The process that tells the type of a name. -/
def TypeAnswer.child (name : String) : TypeAnswer → Child
  | .side text => .printing (Json.object [("type", .string s!"type {name} = {text}")]).compact
  | .process child => child

namespace AnswerTable

/-- The items of a JSON array, or the value itself. -/
def oneOrMore : Json → List Json
  | .array items => items
  | json => [json]

/-- How a JSON value tells a type. -/
def typeAnswer : Json → TypeAnswer
  | .string text => .side text
  | json => .process (.ofJson json)

/-- The process of a text to print, or of a description. -/
def printedChild (render : String → String) : Json → Child
  | .string text => .printing (render text)
  | json => .ofJson json

/-- The processes of a field, of the usual text if it is missing. -/
def fieldChildren (json : Json) (name : String) (render : String → String) (usual : String) :
    List Child :=
  (oneOrMore ((json.field? name).getD (.string usual))).map (printedChild render)

/-- The fields of an object. -/
def entries (json : Json) (name : String) : List (String × Json) :=
  match json.field? name with
  | some (.object fields) => fields
  | _ => []

/-- The document that a version is told in. -/
def versionDocument (version : String) : String :=
  (Json.object [("semver", .string version)]).compact

/-- The version of a type checker that does not tell another one. -/
def usualVersion : String := "0.120.0"

/-- The table that a JSON object describes. -/
def ofJson (json : Json) : AnswerTable where
  status := fieldChildren json "status" id ""
  version := fieldChildren json "version" versionDocument usualVersion
  modules := (entries json "modules").map fun (key, value) =>
    (key, (oneOrMore value).map (printedChild (· ++ "\n")))
  types := (entries json "types").map fun (key, value) => (key, (oneOrMore value).map typeAnswer)
  flowFiles := fieldChildren json "gen_flow_files" id ""

/-- The first key with an entry. -/
def firstKey {α : Type} (entries : List (String × α)) (keys : List String) :
    Option (String × α) :=
  keys.findSome? fun key => (entries.lookup key).map fun value => (key, value)

/-- The processes that find a module. -/
def moduleSupply (table : AnswerTable) (name path : String) : Supply :=
  match firstKey table.modules [path ++ " " ++ name, name] with
  | some (key, children) => ⟨"module " ++ key, children⟩
  | none => ⟨"no module", [.failing ("no module " ++ name)]⟩

/-- The processes that tell the type at a place. -/
def typeSupply (table : AnswerTable) (files : FileTree) (path line column : String) : Supply :=
  let text := ((files.read (Path.ofText path)).toOption.getD "").toList
  let name := identifierAt text (line.toNat?.getD 0) (column.toNat?.getD 0)
  match firstKey table.types [path ++ ":" ++ line ++ ":" ++ column, name] with
  | some (key, answers) => ⟨"type " ++ key, answers.map (TypeAnswer.child name)⟩
  | none => ⟨"no type", [.failing ("no type " ++ name)]⟩

/-- The processes that a command line starts. -/
def supply (table : AnswerTable) (files : FileTree) : List String → Supply
  | "status" :: _ => ⟨"status", table.status⟩
  | "version" :: _ => ⟨"version", table.version⟩
  | ["find-module", _, name, path] => table.moduleSupply name path
  | ["type-at-pos", _, _, _, path, line, column] => table.typeSupply files path line column
  | _ => ⟨"listing", table.flowFiles⟩

/-- The program that gives the answers of a table about some files. -/
def tool (table : AnswerTable) (files : FileTree) (program : String) : Tool :=
  ⟨program, table.supply files, .styled⟩

end AnswerTable

end TypeSchema
