/-
**Processes described in JSON.**

`Child.ofJson` reads a description: what the process prints, as text or as hexadecimal bytes, its
code, how long it runs (null for ever) and takes to start, and what becomes of starting and killing
it. `Child.listOf` reads one or several.
-/

import TypeSchema.Json.Read
import TypeSchema.Run.Child

namespace TypeSchema

namespace Json

/-- The text of a field. -/
def textField? (json : Json) (name : String) : Option String :=
  match json.field? name with
  | some (.string text) => some text
  | _ => none

/-- A number of seconds as a double precision number. -/
def seconds? : Json → Option Binary64
  | .number (.int value) => some (.ofInt value)
  | .number (.real value) => some value
  | _ => none

/-- The span of a field in seconds. -/
def spanField? (json : Json) (name : String) : Option Nat :=
  ((json.field? name).bind seconds?).bind Binary64.span?

/-- The integer of a value. -/
def integer? : Json → Option Int
  | .number (.int value) => some value
  | .number (.real value) => value.toInt?
  | _ => none

end Json

/-- The bytes that hexadecimal digits denote, two for each. -/
def hexBytes : List Char → List UInt8
  | high :: low :: rest => UInt8.ofNat (hexValue [high, low]) :: hexBytes rest
  | _ => []

/-- The bytes of a text. -/
def textBytes (text : String) : List UInt8 := text.toUTF8.toList

namespace Child

/-- What a field says that a process prints. -/
def printed (json : Json) (name : String) : List UInt8 :=
  match json.textField? (name ++ "_hex") with
  | some digits => hexBytes digits.toList
  | none => textBytes ((json.textField? name).getD "")

/-- Why a described process cannot be started. -/
def startFaultOf (json : Json) : Option StartFault :=
  match json.field? "spawn_error" with
  | some (.array [number, .string text]) => some (.refused (number.integer?.getD 0) text)
  | _ => (json.textField? "spawn_crash").map .crash

/-- Why a described process cannot be killed. -/
def killFaultOf (json : Json) : Option KillFault :=
  (json.textField? "kill_error").map fun text =>
    if text = "ProcessLookupError" then .gone else .refused text

/-- A described process. -/
def ofJson (json : Json) : Child where
  output := printed json "stdout"
  complaint := printed json "stderr"
  code := ((json.field? "code").bind Json.integer?).getD 0
  lifetime := if json.field? "after" matches some .null then none
    else some ((json.spanField? "after").getD 0)
  startup := (json.spanField? "spawn_after").getD 0
  startFault := startFaultOf json
  killFault := killFaultOf json
  dying := (json.spanField? "dies_after").getD 0
  givesUp := json.field? "cancelled" matches some (.bool true)

/-- The processes of a description, one or several. -/
def listOf : Json → List Child
  | .array items => items.map ofJson
  | json => [ofJson json]

end Child

end TypeSchema
