/-
**The command line.**

The first line of standard input is a JSON object: under `files` the texts by their paths, under
`flow` the answers of the type checker. The command runs on them, and its report is printed as JSON:
what the command prints, its lines, the files that it wrote, and its error. The exit code is that of
the command.
-/

import TypeSchema.CommandLine.Report
import TypeSchema.Flow.Table

namespace TypeSchema

/-- The files of a workspace. -/
def workspaceFiles (workspace : Json) : FileTree :=
  .ofFiles <| (AnswerTable.entries workspace "files").map fun (path, text) =>
    (path, match text with
      | .string text => text
      | _ => "")

/-- The report of a command line on a workspace. -/
def workspaceReport (workspace : Json) (words : List String) : Report :=
  let files := workspaceFiles workspace
  let table := AnswerTable.ofJson ((workspace.field? "flow").getD .null)
  report ⟨table.tool files, .styled, .sound⟩ files words

/-- A report as a JSON object; `files` are those from before. -/
def Report.document (files : FileTree) (report : Report) : Json :=
  .object [
    ("output", .string report.output),
    ("lines", .array (report.session.lines.map .string)),
    ("files", .object ((files.changed report.files).map fun (names, text) =>
      ("/".intercalate names, .string text))),
    ("error", match report.error with
      | none => .null
      | some error => .string error.message)]

/-- What is printed for a workspace and the words of a command line, and the exit code. -/
def commandAnswer (workspace : String) (words : List String) : String × UInt32 :=
  match Json.parse? workspace with
  | none => ("the workspace is no JSON document", .ofNat usageCode)
  | some workspace =>
    let report := workspaceReport workspace words
    ((report.document (workspaceFiles workspace)).compact, .ofNat report.code)

end TypeSchema

/-- Runs a command line on the workspace in standard input. -/
def main (words : List String) : IO UInt32 := do
  let workspace ← (← IO.getStdin).getLine
  let (text, code) := TypeSchema.commandAnswer workspace words
  IO.println text
  return code
