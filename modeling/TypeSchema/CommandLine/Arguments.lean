/-
**Command lines.**

* `Arguments`: the options of a command with their values, and its operands. An option is a name
  and the word after it, or `--name=value`, wherever it stands; after `--` there are only operands;
* `Invocation`: the commands;
* `Invocation.ofArguments?`: the command that some words call, none if there is no such command or
  its arguments do not fit. Documents that are read must be there.
-/

import TypeSchema.Files.Tree

namespace TypeSchema

/-- Options with values, in order, and operands. -/
structure Arguments where
  options : List (String × String)
  operands : List String

/-- Whether a word is an option. -/
def isOption (word : List Char) : Bool :=
  match word with
  | '-' :: _ :: _ => true
  | _ => false

/-- The name of an option and the value that is written with it. -/
def optionParts (word : List Char) : String × Option String :=
  let value := word.dropWhile (· != '=')
  (String.ofList (word.takeWhile (· != '=')),
    if value.isEmpty then none else some (String.ofList value.tail))

namespace Arguments

/-- One more option in front. -/
def withOption (name value : String) (arguments : Arguments) : Arguments :=
  { arguments with options := (name, value) :: arguments.options }

/-- One more operand in front. -/
def withOperand (operand : String) (arguments : Arguments) : Arguments :=
  { arguments with operands := operand :: arguments.operands }

/-- Reads words, where the options have some names; none if one has another name or no value. -/
def ofWords? (names : List String) (words : List String) : Option Arguments :=
  match words with
  | [] => some ⟨[], []⟩
  | word :: rest =>
    if word = "--" then some ⟨[], rest⟩
    else if isOption word.toList then
      let (name, value) := optionParts word.toList
      if name ∈ names then
        match value, rest with
        | some value, rest => (ofWords? names rest).map (withOption name value)
        | none, value :: rest => (ofWords? names rest).map (withOption name value)
        | none, [] => none
      else none
    else (ofWords? names rest).map (withOperand word)
termination_by words.length

/-- The value of an option; the last one counts. -/
def option? (arguments : Arguments) (name : String) : Option String :=
  arguments.options.reverse.lookup name

end Arguments

/-- The options that say which settings hold. -/
structure SettingsOptions where
  /-- The document of the settings. -/
  document : Option String
  /-- The program of the type checker, in place of the one in the settings. -/
  program : Option String

/-- A command with its arguments. -/
inductive Invocation where
  | version
  /-- Writes the validators of a module. -/
  | generate (paths : List String) (options : SettingsOptions)
  /-- Prints the schemas of a module, or writes them. -/
  | schema (path : String) (output : Option String) (options : SettingsOptions)

/-- Whether there is something at a path as it is written. A path that ends with a slash or a point
is that of a directory. -/
def FileTree.isThere (files : FileTree) (text : String) : Bool :=
  let path := Path.ofText text
  match (splitAt '/' text.toList).getLast? with
  | some last =>
    if text.isEmpty then false
    else if last = [] ∨ last = ['.'] then
      (files.place path).toOption.any files.isDirectoryPlace
    else files.holds path
  | none => false

namespace Invocation

/-- The option for the document of the settings. -/
def configName : String := "--config"

/-- The option for the program of the type checker. -/
def flowName : String := "--flow"

/-- The option for the file that the schemas are written to. -/
def outName : String := "--out"

/-- The options that say which settings hold; their document must be there. -/
def settingsOptions? (files : FileTree) (arguments : Arguments) : Option SettingsOptions :=
  let document := arguments.option? configName
  if document.all files.isThere then some ⟨document, arguments.option? flowName⟩ else none

/-- The command that some words call. -/
def ofCommand? (files : FileTree) : List String → Option Invocation
  | "version" :: words => do
    let arguments ← Arguments.ofWords? [] words
    if arguments.operands.isEmpty then return version else none
  | "generate" :: words => do
    let arguments ← Arguments.ofWords? [configName, flowName] words
    return generate arguments.operands (← settingsOptions? files arguments)
  | "schema" :: words => do
    let arguments ← Arguments.ofWords? [outName, configName, flowName] words
    match arguments.operands with
    | [path] =>
      if files.isThere path then
        return schema path (arguments.option? outName) (← settingsOptions? files arguments)
      else none
    | _ => none
  | _ => none

/-- The command of a command line. -/
def ofArguments? (files : FileTree) : List String → Option Invocation
  | "--" :: words => ofCommand? files words
  | words => ofCommand? files words

end Invocation

end TypeSchema
