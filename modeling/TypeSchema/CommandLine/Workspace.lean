/-
**Work on a tree of files.**

* `CommandError`: why work fails;
* `Storage`: what becomes of files that are written; `Machine`: where work is done;
* `Workspace`: the files, and what happened while a registry was made;
* `Work`: steps that read and change a workspace. A step that fails ends the work, and what the
  steps before it did stays done;
* `Work.print`: prints texts with tags, to which the console may object;
* `Work.registry`: makes the registry of a module;
* `Work.writeText`: opens a file, which empties it, and writes a text into it.
-/

import TypeSchema.Assembly.Run
import TypeSchema.Generated.Validator
import TypeSchema.Settings.Document

namespace TypeSchema

/-- Why a file is not opened or not filled, with an error number and its text. -/
structure StorageFault where
  number : Int
  text : String
deriving DecidableEq, Repr

/-- The wording of a fault. -/
def StorageFault.message (fault : StorageFault) : String :=
  s!"[Errno {intText fault.number}] {fault.text}"

/-- Why work fails. -/
inductive CommandError where
  | settings (error : SettingsError)
  | file (error : FileError)
  | outputPath (error : NotAModule)
  | assembly (error : AssemblyError)
  /-- A file was not opened. -/
  | refused (fault : StorageFault) (path : Path)
  /-- A file was opened, and a text did not go into it. -/
  | lost (fault : StorageFault)
  /-- What the console objects to in a text that it does not print. -/
  | unprintable (objection : String)

/-- The wording of a failure. -/
def CommandError.message : CommandError → String
  | settings error => error.message
  | file error => error.message
  | outputPath error => error.message
  | assembly error => error.message
  | refused fault path => fault.message ++ ": " ++ quote path.text
  | lost fault => fault.message
  | unprintable objection => objection

/-- What becomes of the files that are written. -/
structure Storage where
  /-- Why a file is not opened, if it is not. -/
  refusal : List String → Option StorageFault
  /-- Why a text does not go into a file that was opened, and what is in the file then. -/
  loss : List String → String → Option (StorageFault × String)

/-- A storage that takes every text. -/
def Storage.sound : Storage := ⟨fun _ => none, fun _ _ => none⟩

/-- Where work is done: the programs that answer questions, the console and the storage. -/
structure Machine where
  tools : String → Tool
  console : Console
  storage : Storage

/-- What work changes. -/
structure Workspace where
  files : FileTree
  session : Session := {}
  /-- The program that was run. -/
  program : Option String := none

/-- Work that may fail, and may have changed the workspace by then. -/
abbrev Work := ExceptT CommandError (StateM Workspace)

namespace Work

/-- Prints texts with tags. The first one to which the console objects ends the work. -/
def print (console : Console) (texts : List String) : Work Unit :=
  ExceptT.mk <| pure <|
    match texts.findSome? console.objection with
    | none => .ok ()
    | some objection => .error (.unprintable objection)

/-- The line that says that a module is looked at, with its tags. -/
def processingLine (input : Path) : String := s!"[cyan]Processing[/] {input.text}..."

/-- Makes the registry of a module with the program of the settings. -/
def registry (machine : Machine) (settings : Settings) (input : Path) : Work Registry := do
  print machine.console [processingLine input]
  let workspace ← get
  let (result, session) :=
    assemble (machine.tools settings.flowPath) settings workspace.files input
  let program := if session.launches.isEmpty then none else some settings.flowPath
  set { workspace with session := session, program := program }
  ExceptT.mk (pure (result.mapError .assembly))

/-- Opens a file to write it anew. -/
def openFile (storage : Storage) (path : Path) : Work (List String) := do
  let workspace ← get
  match workspace.files.fileNames path with
  | .error fault => throw (.file ⟨fault, path⟩)
  | .ok names =>
    match storage.refusal names with
    | some fault => throw (.refused fault path)
    | none =>
      set { workspace with files := workspace.files.set names "" }
      return names

/-- Writes a text into the file at a path. -/
def writeText (storage : Storage) (path : Path) (text : String) : Work Unit := do
  let names ← openFile storage path
  match storage.loss names text with
  | none => modify fun workspace => { workspace with files := workspace.files.set names text }
  | some (fault, left) =>
    modify fun workspace => { workspace with files := workspace.files.set names left }
    throw (.lost fault)

end Work

end TypeSchema
