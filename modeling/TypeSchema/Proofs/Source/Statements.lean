/-
**Written modules.**

* `StatementText`: a type alias, an import of types, an export of types, each as it is written;
* `Part`: white space, a comment or a mark of a flow comment, or a statement;
* `IsModule`: **how parts make up a module**: comments stand between statements, and flow comments
  around runs of them;
* `located`: the statements of a module, each with its offset;
* `StatementText.aliasAt`, `importsAt`, `exportsAt`: what a statement at an offset declares.
-/

import TypeSchema.Proofs.Source.RightSide

namespace TypeSchema

/-! ### Statements -/

/-- A new name, and the white space on both sides of the word `as` before it. -/
structure Rename where
  gap : List Char
  space : List Char
  name : List Char

/-- A name in braces, perhaps renamed, with white space around it. -/
structure SpecifierText where
  front : List Char
  given : List Char
  rename : Option Rename
  behind : List Char

/-- The names in braces with commas between them, perhaps one more comma, and white space. -/
structure NamesText where
  specifiers : List SpecifierText
  comma : Bool
  tail : List Char

/-- The name of a module in quotes. -/
structure ModuleText where
  quote : Char
  name : List Char

/-- A statement of a module: the definition of a type, an import or an export of types by name. -/
inductive StatementText where
  | define (exported : Bool) (name side : List Char)
  | fetch (names : NamesText) (module : ModuleText)
  | offer (names : NamesText) (module : Option ModuleText)

namespace Rename

/-- The text of a new name. -/
def text (rename : Rename) : List Char :=
  rename.gap ++ (['a', 's'] ++ (rename.space ++ rename.name))

/-- White space stands on both sides of `as`, and a name follows. -/
structure WellFormed (rename : Rename) : Prop where
  gap : AllBlank rename.gap ∧ rename.gap ≠ []
  space : AllBlank rename.space ∧ rename.space ≠ []
  name : IsIdentifier rename.name

end Rename

namespace SpecifierText

/-- The name and what it is renamed to. -/
def core (specifier : SpecifierText) : List Char :=
  specifier.given ++ ((specifier.rename.map Rename.text).getD [])

/-- The text of a name in braces. -/
def text (specifier : SpecifierText) : List Char :=
  specifier.front ++ (specifier.core ++ specifier.behind)

/-- The name on the other side of the module. -/
def renamed (specifier : SpecifierText) : List Char :=
  (specifier.rename.map Rename.name).getD specifier.given

/-- Names are identifiers, and white space stands around them. -/
structure WellFormed (specifier : SpecifierText) : Prop where
  front : AllBlank specifier.front
  given : IsIdentifier specifier.given
  rename : ∀ rename, specifier.rename = some rename → rename.WellFormed
  behind : AllBlank specifier.behind

end SpecifierText

namespace NamesText

/-- Names with commas between them. -/
def listed : List SpecifierText → List Char
  | [] => []
  | [specifier] => specifier.text
  | specifier :: rest => specifier.text ++ ',' :: listed rest

/-- The text between the braces. -/
def text (names : NamesText) : List Char :=
  listed names.specifiers ++ ((if names.comma then [','] else []) ++ names.tail)

/-- Every name is well-formed, and white space stands at the end. -/
structure WellFormed (names : NamesText) : Prop where
  specifiers : ∀ specifier ∈ names.specifiers, specifier.WellFormed
  tail : AllBlank names.tail

/-- The names with their offsets, the first of them written at an offset. -/
def locate (offset : Nat) : List SpecifierText → List (Nat × SpecifierText)
  | [] => []
  | specifier :: rest =>
    (offset + specifier.front.length, specifier) ::
      locate (offset + specifier.text.length + 1) rest

end NamesText

namespace ModuleText

/-- The name in its quotes. -/
def text (module : ModuleText) : List Char := module.quote :: (module.name ++ [module.quote])

/-- What masking shows of it. -/
def shown (module : ModuleText) : ModuleText :=
  ⟨module.quote, List.replicate module.name.length ' '⟩

/-- Neither the quote nor a backslash nor a line feed stands in the name. -/
structure WellFormed (module : ModuleText) : Prop where
  quote : module.quote = '"' ∨ module.quote = '\''
  name : module.quote ∉ module.name ∧ '\\' ∉ module.name ∧ '\n' ∉ module.name

end ModuleText

namespace StatementText

/-- The word before an exported definition. -/
def exportWord (exported : Bool) : List Char := if exported then "export ".toList else []

/-- The word before the name of a type. -/
def typeWord : List Char := "type ".toList

/-- The sign between the name of a type and its right side. -/
def equalsSign : List Char := " = ".toList

/-- The beginning of an import. -/
def importHead : List Char := "import type \x7b".toList

/-- The beginning of an export by name. -/
def exportHead : List Char := "export type \x7b".toList

/-- The word before the name of a module. -/
def fromWord : List Char := " from ".toList

/-- What stands between the closing brace and the semicolon. -/
def fromText (module : Option ModuleText) : List Char :=
  (module.map fun module => fromWord ++ module.text).getD []

/-- The text of a statement. -/
def text : StatementText → List Char
  | define exported name side =>
    exportWord exported ++ (typeWord ++ (name ++ (equalsSign ++ (side ++ [';']))))
  | fetch names module =>
    importHead ++ (names.text ++ ('\x7d' :: (fromText (some module) ++ [';'])))
  | offer names module =>
    exportHead ++ (names.text ++ ('\x7d' :: (fromText module ++ [';'])))

/-- What masking shows of a statement. -/
def shown : StatementText → StatementText
  | define exported name side => define exported name (mask side)
  | fetch names module => fetch names module.shown
  | offer names module => offer names (module.map ModuleText.shown)

end StatementText

/-- Line feeds outside of brackets stand after a bar or a question mark or before a bar, white space
aside. -/
def BreaksAtBars (side : List Char) : Prop :=
  ∀ front back, mask side = front ++ '\n' :: back → textLevel 0 front = some 0 →
    (trimEnd front).getLast? = some '|' ∨ (trimEnd front).getLast? = some '?' ∨
      (trimStart back).head? = some '|'

namespace StatementText

/-- A definition has a name, and a right side that is an accepted text; names in braces and the name
of a module are well-formed. -/
def WellFormed : StatementText → Prop
  | define _ name side =>
    IsIdentifier name ∧ (∃ path start node, TypeNode.ofText side path start = .ok node) ∧
      (trimEnd side).getLast? ≠ some ';' ∧ BreaksAtBars side
  | fetch names module => names.WellFormed ∧ module.WellFormed
  | offer names module => names.WellFormed ∧ ∀ found, module = some found → found.WellFormed

end StatementText

/-! ### Modules -/

/-- A part of a module: white space, a comment or a mark of a flow comment, or a statement. -/
inductive Part where
  | space (text : List Char)
  | hidden (text : List Char)
  | statement (written : StatementText)

namespace Part

/-- The text of a part. -/
def text : Part → List Char
  | space text => text
  | hidden text => text
  | statement written => written.text

/-- What masking shows of a part. -/
def shown : Part → List Char
  | space text => text
  | hidden text => blanked text
  | statement written => written.shown.text

end Part

/-- The text of a module. -/
def moduleText (parts : List Part) : List Char := parts.flatMap Part.text

/-- The parts of a module, or of the rest of one that begins inside a flow comment. A comment may
have any content that does not end it and does not make it a flow comment. -/
inductive IsModule : Bool → List Part → Prop
  | nil : IsModule false []
  | space {inFlow : Bool} {text : List Char} {rest : List Part} (blank : AllBlank text)
      (more : IsModule inFlow rest) : IsModule inFlow (.space text :: rest)
  | lineComment {inFlow : Bool} {content : List Char} {rest : List Part}
      (oneLine : '\n' ∉ content) (more : IsModule inFlow rest) :
      IsModule inFlow (.hidden ('/' :: '/' :: (content ++ ['\n'])) :: rest)
  | blockComment {inFlow : Bool} {content : List Char} {rest : List Part}
      (noEnd : ¬ ['*', '/'] <:+: content)
      (noFlow : ¬ "::".toList <+: content ∧ ¬ "flow-include".toList <+: content)
      (more : IsModule inFlow rest) :
      IsModule inFlow (.hidden ('/' :: '*' :: (content ++ ['*', '/'])) :: rest)
  | statement {inFlow : Bool} {written : StatementText} {rest : List Part}
      (wellFormed : written.WellFormed) (more : IsModule inFlow rest) :
      IsModule inFlow (.statement written :: rest)
  | opening {opener : List Char} {rest : List Part} (isOpener : opener ∈ flowOpeners)
      (more : IsModule true rest) : IsModule false (.hidden opener :: rest)
  | closing {rest : List Part} (more : IsModule false rest) :
      IsModule true (.hidden ['*', '/'] :: rest)

/-- The statements with their offsets, the first part written at an offset. -/
def located (offset : Nat) : List Part → List (Nat × StatementText)
  | [] => []
  | .statement written :: rest =>
    (offset, written) :: located (offset + written.text.length) rest
  | part :: rest => located (offset + part.text.length) rest

/-! ### What statements declare -/

namespace StatementText

/-- The alias that a statement at an offset defines. -/
def aliasAt (source : List Char) (offset : Nat) : StatementText → Option AliasDeclaration
  | define exported name side =>
    let nameStart := offset + (exportWord exported).length + 5
    let sideStart := nameStart + name.length + 3 + (side.length - (trimStart side).length)
    some {
      name := String.ofList name
      exported
      position := positionAt source nameStart
      start := offset
      stop := offset + (define exported name side).text.length
      sideStart
      sideStop := sideStart + (trim side).length }
  | _ => none

/-- The imports that a statement at an offset makes. -/
def importsAt (source : List Char) (offset : Nat) : StatementText → List ImportBinding
  | fetch names module =>
    (NamesText.locate (offset + 13) names.specifiers).map fun (place, specifier) =>
      ⟨String.ofList specifier.given, String.ofList specifier.renamed,
        String.ofList module.name, positionAt source place⟩
  | _ => []

/-- The exports that a statement at an offset makes. -/
def exportsAt (source : List Char) (offset : Nat) : StatementText → List Export
  | define true name side => ((define true name side).aliasAt source offset).toList.map .declared
  | offer names module =>
    (NamesText.locate (offset + 13) names.specifiers).map fun (place, specifier) =>
      .specifier ⟨String.ofList specifier.given, String.ofList specifier.renamed,
        module.map fun module => String.ofList module.name, positionAt source place⟩
  | _ => []

end StatementText

end TypeSchema
