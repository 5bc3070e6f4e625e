/-
**Literals laid out in lines.**

`Json.layout` writes a value as a literal in lines of at most `lineWidth` characters where that can
be done by breaking between items:

* a value that fits is written on one line; `room` characters are taken at its left and right;
* items that do not fit stand below each other, four places to the right of their bracket;
* a long string is cut after its line ends and, where a line is too long, between words; the pieces
  are literals that stand below each other.
-/

import TypeSchema.Json.Literal
import TypeSchema.Text.Blank
import TypeSchema.Text.Lines

namespace TypeSchema

/-- The number of characters in a line. -/
def lineWidth : Nat := 100

/-- A new line and an indentation. -/
def lineBreak (indent : Nat) : String := "\n" ++ String.ofList (List.replicate indent ' ')

/-- A word with the white space after it, and the rest of the text. -/
def firstWord (text : List Char) : List Char × List Char :=
  let word := text.takeWhile fun c => !isBlank c
  let rest := text.drop word.length
  (word ++ rest.takeWhile isBlank, rest.dropWhile isBlank)

theorem firstWord_rest_lt (c : Char) (rest : List Char) :
    (firstWord (c :: rest)).2.length < (c :: rest).length := by
  have shorter : ∀ (p : Char → Bool) (l : List Char), (l.dropWhile p).length ≤ l.length := by
    intro p l
    exact List.Sublist.length_le (List.dropWhile_sublist p)
  by_cases blank : isBlank c
  · have := shorter isBlank rest
    simp [firstWord, blank]; omega
  · have := shorter isBlank (rest.drop (rest.takeWhile fun c => !isBlank c).length)
    simp [firstWord, blank] at this ⊢
    omega

/-- The words of a text, each with the white space after it. -/
def words (text : List Char) : List (List Char) :=
  match text with
  | [] => []
  | c :: rest => (firstWord (c :: rest)).1 :: words (firstWord (c :: rest)).2
termination_by text.length
decreasing_by exact firstWord_rest_lt c rest

/-- Joins words as long as their literal fits; `right` characters must stay free after the last
word. -/
def joinWords (room right : Nat) (current : List Char) : List (List Char) → List (List Char)
  | [] => if current = [] then [] else [current]
  | word :: rest =>
    let free := if rest = [] then right else 0
    if (quoted (current ++ word)).length + free ≤ room then
      joinWords room right (current ++ word) rest
    else if current = [] then joinWords room right word rest
    else current :: joinWords room right word rest

/-- The pieces of the lines of a string; `right` characters must stay free after the last line. -/
def stringPieces (room right : Nat) : List (List Char) → List (List Char)
  | [] => []
  | line :: rest =>
    let free := if rest = [] then right else 0
    (if (quoted line).length + free ≤ room then [line] else joinWords room free [] (words line)) ++
      stringPieces room right rest

/-- A string that does not fit on one line. -/
def stringLayout (indent right : Nat) (text : String) : String :=
  let pieces := stringPieces (lineWidth - indent) right (linesKept text.toList)
  (lineBreak indent).intercalate (pieces.map fun piece => String.ofList (quoted piece))

namespace Json

/-- Whether a text fits into a line with `indent` characters before and `right` after it. -/
def fits (indent right : Nat) (text : String) : Bool := text.length + indent + right ≤ lineWidth

mutual

/-- A value at an indentation, with `right` characters after it on its last line. -/
def layout (indent right : Nat) : Json → String
  | array items =>
    let whole := literal (array items)
    if fits indent right whole then whole
    else "[   " ++ layoutItems (indent + 4) (right + 1) items ++ "]"
  | object fields =>
    let whole := literal (object fields)
    if fits indent right whole then whole
    else "\x7b   " ++ layoutFields (indent + 4) (right + 1) fields ++ "\x7d"
  | string text =>
    if fits indent right (quote text) ∨ text = "" then quote text
    else stringLayout indent right text
  | null => literal null
  | bool value => literal (bool value)
  | number value => literal (number value)

/-- The items of an array below each other. -/
def layoutItems (indent right : Nat) : List Json → String
  | [] => ""
  | [item] => layout indent right item
  | item :: rest =>
    layout indent 1 item ++ "," ++ lineBreak indent ++ layoutItems indent right rest

/-- The fields of an object below each other. -/
def layoutFields (indent right : Nat) : List (String × Json) → String
  | [] => ""
  | [(name, value)] =>
    quote name ++ ": " ++ layout (indent + (quote name).length + 2) right value
  | (name, value) :: rest =>
    quote name ++ ": " ++ layout (indent + (quote name).length + 2) 1 value ++ "," ++
      lineBreak indent ++ layoutFields indent right rest

end

end Json

end TypeSchema
