/-
**What the type checker is asked.**

* `Command`: the questions, with their command lines;
* `Command.answer`: what is read off the output of each. The server is ready even if the project has
  type errors; a version and a type are fields of JSON documents; a module is a path.
-/

import TypeSchema.Json.Read
import TypeSchema.Run.Call
import TypeSchema.Text.Path

namespace TypeSchema

/-- A question to the type checker. -/
inductive Command where
  /-- Whether the server is ready. -/
  | status
  | version
  /-- The file of a module that another file names. -/
  | findModule (name path : String)
  /-- The type of the name at a position. -/
  | typeAt (path : String) (line column : Int)
  /-- The types that a file exports. -/
  | flowFiles (path : String)
deriving DecidableEq, Repr

/-- The code of a server that is ready and has type errors to report. -/
def typeErrorsCode : Int := 2

/-- A field of a JSON document that a command prints. -/
def readField (command key output : String) : Except RunError String :=
  match Json.parse? output with
  | none => .error (.notJson command output)
  | some document =>
    match document.field? key with
    | some (.string text) => .ok text
    | some value => .ok value.literal
    | none => .error (.noField command key output)

namespace Command

/-- The command line of a question. -/
def args : Command → List String
  | status => ["status", "--quiet"]
  | version => ["version", "--json"]
  | findModule name path => ["find-module", "--quiet", name, path]
  | typeAt path line column =>
    ["type-at-pos", "--quiet", "--json", "--expand-type-aliases", path, intText line,
      intText column]
  | flowFiles path => ["gen-flow-files", "--quiet", path]

/-- Whether a question may be asked again while it waits. -/
def isRetried : Command → Bool
  | findModule _ _ => true
  | typeAt _ _ _ => true
  | _ => false

/-- What an answer says. -/
def answer (command : Command) (result : Except RunError String) : Except RunError String :=
  match command, result with
  | status, .ok _ => .ok ""
  | status, .error (.exited args code complaint) =>
    if code = typeErrorsCode then .ok "" else .error (.exited args code complaint)
  | version, .ok output => readField "version" "semver" output
  | findModule _ _, .ok output => .ok (normalPath (String.ofList (trim output.toList)))
  | typeAt _ _ _, .ok output => readField "type-at-pos" "type" output
  | flowFiles _, .ok output => .ok output
  | _, .error error => .error error

/-- Asks a question from an instant on: when the answer comes, and what it says. -/
def ask (command : Command) (tool : Tool) (policy : Policy) (now : Instant) (session : Session) :
    Instant × Except RunError String × Session :=
  let (time, result, session) :=
    if command.isRetried then Call.run command.args tool policy none now session
    else session.ask tool command.args now
  (time, command.answer result, session)

end Command

end TypeSchema
