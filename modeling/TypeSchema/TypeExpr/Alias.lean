/-
**Type aliases.**

* `aliasHead?`: the name of `type Name` at the beginning of a text, after white space and the words
  `declare` and `export`;
* `rightSideStart?`: the offset after the `=` that follows a name and its type parameters; an arrow
  is no such sign;
* `Alias.ofText`: the name, the type, and where the right side stands in the text.
-/

import TypeSchema.Text.Blank
import TypeSchema.Text.Word
import TypeSchema.TypeExpr.Meaning

namespace TypeSchema

/-- Whether a character may stand inside an identifier. -/
def isIdentifierPart (c : Char) : Bool := isWord c || c == '$'

/-- The identifier at the beginning of a text, and what follows it. -/
def identifier? : List Char → Option (List Char × List Char)
  | c :: rest =>
    if isNameStart c then
      some (c :: rest.takeWhile isIdentifierPart, rest.dropWhile isIdentifierPart)
    else none
  | [] => none

/-- What follows a word and at least one white space character after it. -/
def afterWord? (word text : List Char) : Option (List Char) :=
  if word.isPrefixOf text then
    match text.drop word.length with
    | c :: rest => if isBlank c then some (trimStart rest) else none
    | [] => none
  else none

/-- The text after a word that may be missing. -/
def skipWord (word text : List Char) : List Char := (afterWord? word text).getD text

/-- The name of an alias statement and the offset after it. -/
def aliasHead? (text : List Char) : Option (List Char × Nat) := do
  let start := skipWord "export".toList (skipWord "declare".toList (trimStart text))
  let (name, rest) ← identifier? (← afterWord? "type".toList start)
  return (name, text.length - rest.length)

/-- The offset after the `=` of an alias in the text from an offset on. `before` is the character
before that text, `depth` the number of open angle brackets. -/
def rightSide? (before : Option Char) (depth : Int) (offset : Int) : List Char → Option Int
  | [] => none
  | c :: rest =>
    if c = '<' then rightSide? (some c) (depth + 1) (offset + 1) rest
    else if c = '>' ∧ before ≠ some '=' then rightSide? (some c) (depth - 1) (offset + 1) rest
    else if c = '=' ∧ depth = 0 ∧ rest.head? ≠ some '>' then some (offset + 1)
    else rightSide? (some c) depth (offset + 1) rest

/-- The offset after the `=` that follows the name of an alias ending at `nameEnd`. -/
def rightSideStart? (text : List Char) (nameEnd : Nat) : Option Nat :=
  (rightSide? (text.take nameEnd).getLast? 0 nameEnd (text.drop nameEnd)).map Int.toNat

/-- The number of open angle brackets after a text. -/
def bracketDepth (before : Option Char) (depth : Int) : List Char → Int
  | [] => depth
  | c :: rest =>
    if c = '<' then bracketDepth (some c) (depth + 1) rest
    else if c = '>' ∧ before ≠ some '=' then bracketDepth (some c) (depth - 1) rest
    else bracketDepth (some c) depth rest

/-- The offset after the `=` that follows any offset. The text counts as a ring: its last character
stands before the first one, and an offset below zero is that of a place near the end, from which
the search goes on at the start. The last character of the text is then never part of an arrow. -/
def rightSideFrom? (text : List Char) (offset : Int) : Option Int :=
  if 0 ≤ offset then
    rightSide? (text.take offset.toNat |>.getLast? |>.or text.getLast?) 0 offset
      (text.drop offset.toNat)
  else
    let back := (-offset).toNat
    let before := (text.take (text.length - back)).getLast?
    let tail := (text.drop (text.length - back)).dropLast
    (rightSide? before 0 offset tail).or
      (rightSide? (tail.getLast?.or before) (bracketDepth before 0 tail) (-1)
        (text.getLast?.toList ++ text))

/-- An alias statement: its name, its type, and the right side with its offsets. -/
structure Alias where
  name : String
  type : TypeNode
  source : String
  start : Nat
  stop : Nat

namespace Alias

/-- The offset after the right side: before a final semicolon and white space. -/
def sourceEnd (text : List Char) : Nat :=
  let trimmed := trimEnd text
  if trimmed.getLast? = some ';' then (trimEnd trimmed.dropLast).length else trimmed.length

/-- The alias statement of a text that begins at a place of a file. -/
def ofText (text : List Char) (path : Option String) (start : Position) :
    Except SyntaxError Alias :=
  match aliasHead? text with
  | none => .error ⟨.noAlias, path, start⟩
  | some (name, nameEnd) =>
    match rightSideStart? text nameEnd with
    | none => .error ⟨.noAlias, path, start⟩
    | some sideStart =>
      let stop := sourceEnd text
      let begin := text.length - (trimStart (text.drop sideStart)).length
      let source := (text.take stop).drop begin
      match TypeNode.ofText source path (start.within (positionAt text begin)) with
      | .error error => .error error
      | .ok type => .ok ⟨String.ofList name, type, String.ofList source, begin, stop⟩

end Alias

end TypeSchema
