/-
**What a command comes to.**

* `writeValidator`: writes the validator module of a file, next to it if no other path is given;
* `dumpSchemas`: gives the schemas of a registry, and writes them if a path is given;
* `validatorReport`, `schemasReport`: the lines that confirm what was written;
* `Invocation.work`: what a command does, its exit code, and what it prints, without tags;
* `Report`: the exit code, what is printed, the workspace afterwards, and why the command failed;
* `Invocation.report` and `report`: the report of a command and of a command line.
-/

import TypeSchema.CommandLine.Arguments
import TypeSchema.CommandLine.Workspace

namespace TypeSchema

/-- Where the validator module of a file is written. -/
def outputPath (input : Path) (output : Option Path) : Except NotAModule Path :=
  match output with
  | some output => .ok output
  | none => validatorPath input

/-- Writes the validator module of a file, and gives its path. -/
def writeValidator (machine : Machine) (settings : Settings) (input : Path)
    (output : Option Path) : Work Path := do
  let path ← ExceptT.mk (pure ((outputPath input output).mapError .outputPath))
  let registry ← Work.registry machine settings input
  Work.writeText machine.storage path (registry.validatorModule input.text)
  return path

/-- Gives the document of a registry, and writes it to a path, if one is given. -/
def dumpSchemas (storage : Storage) (registry : Registry) (output : Option Path) : Work String := do
  match output with
  | none => return registry.document
  | some path =>
    Work.writeText storage path registry.document
    return registry.document

/-- The settings in the document that the options name, or the usual ones. -/
def SettingsOptions.written (options : SettingsOptions) (files : FileTree) :
    Except CommandError Settings :=
  match options.document with
  | none => .ok {}
  | some document => do
    let path := Path.ofText document
    let text ← (files.read path).mapError .file
    (Settings.ofText path text).mapError .settings

/-- Settings with the program that the options name, if they name one. -/
def SettingsOptions.override (options : SettingsOptions) (settings : Settings) : Settings :=
  match options.program with
  | none => settings
  | some program => if program.isEmpty then settings else { settings with flowPath := program }

/-- The settings that the options ask for. -/
def SettingsOptions.settings (options : SettingsOptions) (files : FileTree) :
    Except CommandError Settings :=
  (options.written files).map options.override

/-- The settings that the options ask for, read from the files of the workspace. -/
def SettingsOptions.work (options : SettingsOptions) : Work Settings := do
  let workspace ← get
  ExceptT.mk (pure (options.settings workspace.files))

/-- The code of a command that fails. -/
def failureCode : Nat := 1

/-- The code of words that call no command. -/
def usageCode : Nat := 2

/-- The version of this program. -/
def programVersion : String := "0.3.0"

/-- How the generation of validators is called. -/
def generateUsage : String :=
  "Usage: flow-jsonschema generate <input path>\n" ++
    "Usage: flow-jsonschema generate <input path> <output path>\n"

/-- The paths of a module and of its validators. -/
def generatePaths? : List String → Option (Path × Option Path)
  | [input] => some (.ofText input, none)
  | [input, output] => some (.ofText input, some (.ofText output))
  | _ => none

/-- The lines that say that a validator module was written, with their tags. -/
def validatorReport (path : Path) : List String :=
  [s!"[bold green]Validator written:[/] {path.text}"]

/-- The type that a schema states, as it is shown in a table. -/
def shownType (schema : Json) : String :=
  match schema.field? "type" with
  | none => "-"
  | some (.string name) => name
  | some value => value.literal

/-- The lines that say that schemas were written, with their tags: first a table of the types, column
by column before its title. -/
def schemasReport (registry : Registry) (input : Path) (output : Path) : List String :=
  "Name" :: registry.entries.map TypeEntry.name ++
    "Defined in" :: registry.entries.map TypeEntry.sourcePath ++
    "Schema type" :: registry.entries.map (fun entry => shownType entry.schema) ++
    [s!"Types ({input.text})", s!"[bold green]Schemas written:[/] {output.text}"]

/-- What a command does on a machine: its code, and what it prints. -/
def Invocation.work (machine : Machine) : Invocation → Work (Nat × String)
  | version => return (0, programVersion ++ "\n")
  | generate paths options =>
    match generatePaths? paths with
    | none => return (failureCode, generateUsage)
    | some (input, output) => do
      let settings ← options.work
      let path ← writeValidator machine settings input output
      Work.print machine.console (validatorReport path)
      return (0, s!"Validator written: {path.text}\n")
  | schema path output options => do
    let settings ← options.work
    let registry ← Work.registry machine settings (.ofText path)
    let document ← dumpSchemas machine.storage registry (output.map Path.ofText)
    match output with
    | none => return (0, document ++ "\n")
    | some output =>
      Work.print machine.console (schemasReport registry (.ofText path) (.ofText output))
      return (0, s!"Schemas written: {normalPath output}\n")

/-- What a command comes to. -/
structure Report extends Workspace where
  code : Nat
  /-- What is printed. -/
  output : String
  error : Option CommandError := none

/-- The report of work that was done, or not. -/
def Report.ofResult : Except CommandError (Nat × String) × Workspace → Report
  | (.error error, workspace) =>
    { workspace with code := failureCode, output := "", error := some error }
  | (.ok (code, output), workspace) => { workspace with code := code, output := output }

/-- What a command comes to on a machine. -/
def Invocation.report (machine : Machine) (files : FileTree) (invocation : Invocation) : Report :=
  .ofResult ((invocation.work machine).run.run { files := files })

/-- What a command line comes to on a machine. -/
def report (machine : Machine) (files : FileTree) (words : List String) : Report :=
  match Invocation.ofArguments? files words with
  | none => { code := usageCode, output := "", files := files }
  | some invocation => invocation.report machine files

end TypeSchema
