/-
**Places in a YAML text.**

* `Cursor`: the text that is left, with the index, line and column of its first character, all
  counted from zero;
* a line ends at a line feed, a carriage return, both together, or one of the separators of other
  scripts; a byte order mark takes no column.
-/

namespace TypeSchema.Yaml

/-- Whether a character ends a line. -/
def isBreak (c : Char) : Bool :=
  c == '\n' || c == '\r' || c == '\u0085' || c == '\u2028' || c == '\u2029'

/-- Whether a character is a space or a tab. -/
def isGap (c : Char) : Bool := c == ' ' || c == '\t'

/-- The end of the text or of a line. -/
def endsLine : Option Char → Bool
  | none => true
  | some c => isBreak c

/-- The end of the text or of a line, or a space. -/
def endsWord : Option Char → Bool
  | none => true
  | some c => c == ' ' || isBreak c

/-- The end of the text or of a line, a space or a tab. -/
def isBlankOrEnd : Option Char → Bool
  | none => true
  | some c => isGap c || isBreak c

/-- A place in a text. -/
structure Cursor where
  rest : List Char
  index : Nat
  line : Nat
  column : Nat

namespace Cursor

/-- The start of a text. -/
def ofText (text : List Char) : Cursor := ⟨text, 0, 0, 0⟩

/-- The character at the cursor. -/
def peek (cursor : Cursor) : Option Char := cursor.rest.head?

/-- The character some places after the cursor. -/
def peekAt (cursor : Cursor) (distance : Nat) : Option Char := cursor.rest[distance]?

/-- The place after the character at the cursor. -/
def next (cursor : Cursor) : Cursor :=
  match cursor.rest with
  | [] => cursor
  | c :: rest =>
    if c = '\n' ∨ c = '\u0085' ∨ c = '\u2028' ∨ c = '\u2029' ∨
        (c = '\r' ∧ rest.head? ≠ some '\n') then
      ⟨rest, cursor.index + 1, cursor.line + 1, 0⟩
    else if c = '\uFEFF' then ⟨rest, cursor.index + 1, cursor.line, cursor.column⟩
    else ⟨rest, cursor.index + 1, cursor.line, cursor.column + 1⟩

/-- The place some characters further on. -/
def advance : Nat → Cursor → Cursor
  | 0, cursor => cursor
  | count + 1, cursor => advance count cursor.next

/-- The characters that satisfy a test, and the place after them. -/
def takeWhile (test : Char → Bool) (cursor : Cursor) : List Char × Cursor :=
  let taken := cursor.rest.takeWhile test
  (taken, cursor.advance taken.length)

/-- The place after the characters that satisfy a test. -/
def skipWhile (test : Char → Bool) (cursor : Cursor) : Cursor := (cursor.takeWhile test).2

/-- The place after the spaces at the cursor. -/
def skipSpaces (cursor : Cursor) : Cursor := cursor.skipWhile (· == ' ')

/-- The line break at the cursor as it counts in a text, and the place after it. -/
def takeBreak (cursor : Cursor) : List Char × Cursor :=
  match cursor.rest with
  | '\r' :: '\n' :: _ => (['\n'], cursor.advance 2)
  | c :: _ =>
    if c = '\n' ∨ c = '\r' ∨ c = '\u0085' then (['\n'], cursor.next)
    else if c = '\u2028' ∨ c = '\u2029' then ([c], cursor.next)
    else ([], cursor)
  | [] => ([], cursor)

/-- Whether the next three characters are one of the marks between documents. -/
def atSeparator (cursor : Cursor) : Bool :=
  (['-', '-', '-'].isPrefixOf cursor.rest || ['.', '.', '.'].isPrefixOf cursor.rest) &&
    isBlankOrEnd (cursor.peekAt 3)

/-- The place after a comment at the cursor. -/
def skipComment (cursor : Cursor) : Cursor :=
  if cursor.peek = some '#' then cursor.skipWhile fun c => !isBreak c else cursor

end Cursor

end TypeSchema.Yaml
