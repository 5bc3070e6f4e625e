/-
**Why a question to the type checker fails.**

`RunError` has a case for each way in which a process or its answer can fail; `RunError.message` is
its wording. `RunError.isRetryable` holds of the failures after which another process may still
succeed: a process that took too long or was killed.
-/

import TypeSchema.Json.Literal
import TypeSchema.Json.Write

namespace TypeSchema

/-- The failure of a question. -/
inductive RunError where
  /-- The system refused to start the program, with an error number and its text. -/
  | notStarted (program : String) (args : List String) (number : Int) (text : String)
  /-- The process ended with another code than zero. -/
  | exited (args : List String) (code : Int) (complaint : String)
  /-- The process ran past its limit in seconds, and ended with a code after it was killed. -/
  | timedOut (args : List String) (limit : Binary64) (code : Int)
  | killed (args : List String) (code : Int) (complaint : String)
  /-- Reading an attempt was given up. -/
  | givenUp
  /-- An answer that is no JSON document. -/
  | notJson (command output : String)
  /-- An answer without the field that was asked for. -/
  | noField (command key output : String)
  /-- All attempts failed in ways that could be retried. -/
  | exhausted (args : List String)
  /-- An answer that is no text. -/
  | notText
  /-- The system refused to kill a process. -/
  | killRefused (text : String)
  /-- Starting a process failed without an error number. -/
  | crashed (text : String)
  /-- What the console objects to in a line that it does not print. -/
  | unprintable (text : String)
  | cancelled
  /-- Nothing more will ever happen. -/
  | endless
deriving DecidableEq

namespace RunError

/-- The wording of a failure to start. -/
def startMessage (program : String) (number : Int) (text : String) : String :=
  s!"failed to start {program}: [Errno {intText number}] {text}: " ++ quote program

/-- A command line as it is shown. -/
def commandText (args : List String) : String := "flow " ++ " ".intercalate args

/-- The text of a failed process, without white space at its ends. -/
def trimmed (text : String) : String := String.ofList (trim text.toList)

/-- The wording of a failure. -/
def message : RunError → String
  | notStarted program _ number text => startMessage program number text
  | exited args code complaint =>
    s!"{commandText args} exited with code {intText code}: {trimmed complaint}"
  | timedOut args limit _ =>
    s!"{commandText args} timed out after {(Number.real limit).literal}s"
  | killed args _ _ => s!"{commandText args} was killed"
  | givenUp => "flow attempt was cancelled"
  | notJson command output => s!"flow {command} returned invalid JSON: {quote output}"
  | noField command key output =>
    s!"flow {command} returned no {quote key} field: {quote output}"
  | exhausted args =>
    "max retry count exceeded while executing flow " ++
      (Json.array (args.map Json.string)).compact
  | notText => ""
  | killRefused text => text
  | crashed text => text
  | unprintable text => text
  | cancelled => ""
  | endless => ""

/-- Whether another process may still succeed. -/
def isRetryable : RunError → Bool
  | timedOut _ _ _ => true
  | killed _ _ _ => true
  | givenUp => true
  | _ => false

/-- The code with which the process ended, where it did. -/
def code? : RunError → Option Int
  | exited _ code _ => some code
  | timedOut _ _ code => some code
  | killed _ code _ => some code
  | _ => none

/-- The command line that failed. -/
def args : RunError → List String
  | notStarted _ args _ _ => args
  | exited args _ _ => args
  | timedOut args _ _ => args
  | killed args _ _ => args
  | _ => []

/-- What the process said about its failure. -/
def complaint : RunError → String
  | exited _ _ complaint => complaint
  | killed _ _ complaint => complaint
  | _ => ""

end RunError

end TypeSchema
