/-
**Finding the declarations of a source file.**

* `findAll`: the matches of a pattern from left to right, each after the end of the last one;
* `aliasEnd`: where the right side of an alias and its statement end: at a semicolon or an unmatched
  closing bracket, or at a line feed after some content, unless the last character before it or
  the first one after it shows that the type goes on;
* `Declarations.ofSource`: the declarations of a source. They are found in the masked source; their
  positions and the names of modules are those of the source itself.
-/

import TypeSchema.Source.Declaration
import TypeSchema.Source.Mask
import TypeSchema.TypeExpr.Alias

namespace TypeSchema

/-- The matches of a pattern with their offsets. The pattern sees the character before its place and
the text from there, and gives what it found and how many characters that takes; `skip` characters
still belong to the last match. -/
def findAll {α : Type} (pattern : Option Char → List Char → Option (α × Nat)) (skip : Nat)
    (before : Option Char) (offset : Nat) : List Char → List (Nat × α)
  | [] => []
  | c :: rest =>
    match skip with
    | skip + 1 => findAll pattern skip (some c) (offset + 1) rest
    | 0 =>
      match pattern before (c :: rest) with
      | some (found, width) =>
        (offset, found) :: findAll pattern (width - 1) (some c) (offset + 1) rest
      | none => findAll pattern 0 (some c) (offset + 1) rest

/-- Whether a word may begin after a character: not inside a name, nor after a point. -/
def mayBeginWord (before : Option Char) : Bool :=
  match before with
  | none => true
  | some c => !isIdentifierPart c && c != '.'

/-- The beginning of an alias statement: whether it is exported, its name, and how far from its
start the name begins and ends. -/
structure AliasStart where
  exported : Bool
  name : List Char
  nameStart : Nat
  nameStop : Nat

/-- The beginning of an alias statement at the start of a text. -/
def aliasStart? (before : Option Char) (text : List Char) : Option (AliasStart × Nat) :=
  if mayBeginWord before then do
    let head := afterWord? "export".toList text
    let start ← afterWord? "type".toList (head.getD text)
    let (name, rest) ← identifier? start
    let found : AliasStart :=
      ⟨head.isSome, name, text.length - start.length, text.length - rest.length⟩
    return (found, found.nameStop)
  else none

/-- Whether a statement may begin at an offset: at the start, after `;`, `{` or `}`, or on a line of
its own. -/
def beginsStatement (masked : List Char) (offset : Nat) : Bool :=
  let before := trimEnd (masked.take offset)
  match before.getLast? with
  | none => true
  | some c =>
    c == ';' || c == '\x7b' || c == '\x7d' || (slice masked before.length offset).contains '\n'

/-- The characters after which a type goes on in the next line. -/
def continuesAfter (c : Char) : Bool :=
  c == '|' || c == '&' || c == '?' || c == ':' || c == ',' || c == '='

/-- The characters before which a type goes on from the line before. -/
def continuesBefore (c : Char) : Bool := c == '|' || c == '&'

/-- Whether a character opens a bracket. -/
def opensBracket (c : Char) : Bool := c == '(' || c == '[' || c == '\x7b' || c == '<'

/-- Whether a character closes a bracket. -/
def closesBracket (c : Char) : Bool := c == ')' || c == ']' || c == '\x7d' || c == '>'

/-- The offsets at which the right side and the statement of an alias end. `before` is the character
before the text, `depth` the number of open brackets, `last` the last character that is no white
space. -/
def aliasEnd (before : Char) (depth : Nat) (last : Option Char) (offset : Nat) :
    List Char → Nat × Nat
  | [] => (offset, offset)
  | c :: rest =>
    let seen := if isBlank c then last else some c
    if opensBracket c then aliasEnd c (depth + 1) seen (offset + 1) rest
    else if c = '>' ∧ before = '=' then aliasEnd c depth seen (offset + 1) rest
    else if closesBracket c then
      match depth with
      | 0 => (offset, offset)
      | depth + 1 => aliasEnd c depth seen (offset + 1) rest
    else if c = ';' ∧ depth = 0 then (offset, offset + 1)
    else if c = '\n' ∧ depth = 0 ∧ last.isSome ∧ ¬last.any continuesAfter ∧
        ¬(trimStart rest).head?.any continuesBefore then (offset, offset)
    else aliasEnd c depth seen (offset + 1) rest

/-- The alias that begins at an offset, if its name is followed by `=`, perhaps after type
parameters. -/
def aliasAt? (source masked : List Char) (offset : Nat) (head : AliasStart) :
    Option AliasDeclaration :=
  if beginsStatement masked offset then
    match rightSideStart? masked (offset + head.nameStop) with
    | none => none
    | some side =>
      match (trim (slice masked (offset + head.nameStop) (side - 1))).head? with
      | none | some '<' =>
        let (sideEnd, stop) := aliasEnd '=' 0 none side (masked.drop side)
        let whole := slice masked side sideEnd
        let sideStart := side + (whole.length - (trimStart whole).length)
        some {
          name := String.ofList head.name
          exported := head.exported
          position := positionAt source (offset + head.nameStart : Nat)
          start := offset
          stop
          sideStart
          sideStop := sideStart + (trim whole).length }
      | _ => none
  else none

/-- A block of names in braces: whether they are exported, how far from its start the names begin,
their text, and the place of the module's name between its quotes. -/
structure SpecifierBlock where
  exported : Bool
  bodyStart : Nat
  body : List Char
  moduleStart : Option Nat
  moduleWidth : Nat

/-- The place of a module's name after the names of a block, and how many characters it takes with
what stands around it. -/
def fromModule? (text : List Char) : Option (Nat × Nat × Nat) :=
  let word := trimStart text
  if "from".toList.isPrefixOf word then
    match trimStart (word.drop 4) with
    | quote :: rest =>
      let inside := rest.takeWhile fun c => c != '\'' && c != '"' && c != '\n'
      if (quote == '\'' || quote == '"') && (rest.drop inside.length).head? == some quote then
        some (text.length - rest.length, inside.length,
          text.length - rest.length + inside.length + 1)
      else none
    | [] => none
  else none

/-- A block of names at the start of a text. -/
def specifierBlock? (before : Option Char) (text : List Char) : Option (SpecifierBlock × Nat) :=
  if mayBeginWord before then do
    let head := afterWord? "export".toList text
    let rest ← head.or (afterWord? "import".toList text)
    if "type".toList.isPrefixOf rest then
      match trimStart (rest.drop 4) with
      | '\x7b' :: inside =>
        let body := inside.takeWhile (· != '\x7d')
        match inside.drop body.length with
        | _ :: after =>
          let bodyStart := text.length - inside.length
          let width := text.length - after.length
          match fromModule? after with
          | some (start, size, more) =>
            some (⟨head.isSome, bodyStart, body, some (width + start), size⟩, width + more)
          | none => some (⟨head.isSome, bodyStart, body, none, 0⟩, width)
        | [] => none
      | _ => none
    else none
  else none

/-- A name of a block, and its name on the other side of the module. -/
structure Specifier where
  given : List Char
  renamed : List Char

/-- A name at the start of a text, perhaps followed by `as` and another one. -/
def specifier? (_before : Option Char) (text : List Char) : Option (Specifier × Nat) := do
  let (given, rest) ← identifier? text
  let renamed := do
    let word ← if rest.head?.any isBlank then some (trimStart rest) else none
    identifier? (← afterWord? "as".toList word)
  match renamed with
  | some (name, last) => some (⟨given, name⟩, text.length - last.length)
  | none => some (⟨given, given⟩, text.length - rest.length)

/-- The names of a block that begins at an offset, with their positions. -/
def specifiersOf (source : List Char) (offset : Nat) (block : SpecifierBlock) :
    List (Specifier × Position) :=
  (findAll specifier? 0 none 0 block.body).map fun (place, specifier) =>
    (specifier, positionAt source (offset + block.bodyStart + place : Nat))

/-- The module of a block that begins at an offset. -/
def moduleOf (source : List Char) (offset : Nat) (block : SpecifierBlock) : Option String :=
  block.moduleStart.map fun start =>
    String.ofList (slice source (offset + start) (offset + start + block.moduleWidth))

/-- The aliases of a source that is masked. -/
def findAliases (source masked : List Char) : List AliasDeclaration :=
  (findAll aliasStart? 0 none 0 masked).filterMap fun (offset, head) =>
    aliasAt? source masked offset head

/-- The blocks of names of a masked source, with their offsets. -/
def findBlocks (masked : List Char) : List (Nat × SpecifierBlock) :=
  (findAll specifierBlock? 0 none 0 masked).filter fun (offset, _) =>
    beginsStatement masked offset

/-- The imports that a block makes. -/
def importsOf (source : List Char) (offset : Nat) (block : SpecifierBlock) :
    List ImportBinding :=
  match block.exported, moduleOf source offset block with
  | false, some module =>
    (specifiersOf source offset block).map fun (specifier, position) =>
      ⟨String.ofList specifier.given, String.ofList specifier.renamed, module, position⟩
  | _, _ => []

/-- The exports that a block makes, with its offset. -/
def exportsOf (source : List Char) (offset : Nat) (block : SpecifierBlock) :
    List (Nat × Export) :=
  if block.exported then
    (specifiersOf source offset block).map fun (specifier, position) =>
      (offset, .specifier ⟨String.ofList specifier.given, String.ofList specifier.renamed,
        moduleOf source offset block, position⟩)
  else []

/-- The declarations of a source file. -/
def Declarations.ofSource (path : String) (source : List Char) : Declarations :=
  let masked := mask source
  let aliases := findAliases source masked
  let blocks := findBlocks masked
  let exported := (aliases.filter (·.exported)).map fun declaration =>
    (declaration.start, Export.declared declaration)
  let specified := blocks.flatMap fun (offset, block) => exportsOf source offset block
  { path
    source
    aliases := collectFields (aliases.map fun declaration => (declaration.name, declaration))
    imports := collectFields ((blocks.flatMap fun (offset, block) =>
      importsOf source offset block).map fun binding => (binding.localName, binding))
    exports := ((exported ++ specified).mergeSort fun a b => decide (a.1 ≤ b.1)).map Prod.snd }

end TypeSchema
