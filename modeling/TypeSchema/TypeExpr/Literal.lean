/-
**The values of string and number literals.**

* `unescape`: escapes by letter, by two or four hexadecimal digits, or by digits in braces; a
  backslash before any other character stands for that character. An escape by number stands for its
  code point, also that of a surrogate;
* `unquote`: the text of a string literal between its quotes, as code points;
* `numberOf`: an integer of limited length, or the nearest double precision number.
-/

import TypeSchema.Number.Numeral
import TypeSchema.Text.CodePoint
import TypeSchema.Text.Hexadecimal
import TypeSchema.TypeExpr.Error

namespace TypeSchema

/-- The code point with a number. -/
def codePointOf (number : Nat) : Except LiteralError CodePoint :=
  if inRange : number < 0x110000 then .ok ⟨number, inRange⟩
  else if number < 0x80000000 then .error .codePoint
  else .error .codePointSize

/-- The control characters that a letter after a backslash stands for. -/
def escapeLetter (c : Char) : Char :=
  if c = 'n' then '\n'
  else if c = 't' then '\t'
  else if c = 'r' then '\r'
  else if c = 'b' then '\x08'
  else if c = 'f' then '\x0c'
  else if c = 'v' then '\x0b'
  else if c = '0' then '\x00'
  else c

/-- The code point of an escape by number, and how many characters its digits and braces take. The
text begins after the backslash and the letter. -/
def numberEscape? (letter : Char) (text : List Char) : Option (Nat × Nat) :=
  let digits := text.takeWhile isHexDigit
  if letter = 'u' ∧ text.head? = some '\x7b' then
    let inside := text.tail.takeWhile isHexDigit
    if inside ≠ [] ∧ (text.tail.drop inside.length).head? = some '\x7d' then
      some (hexValue inside, inside.length + 2)
    else none
  else if letter = 'u' ∧ 4 ≤ digits.length then some (hexValue (digits.take 4), 4)
  else if letter = 'x' ∧ 2 ≤ digits.length then some (hexValue (digits.take 2), 2)
  else none

/-- The code points that escaped characters denote. The first escape that denotes none fails. -/
def unescape : List Char → Except LiteralError (List CodePoint)
  | [] => .ok []
  | '\\' :: letter :: rest =>
    match numberEscape? letter rest with
    | some (number, width) => do
      let point ← codePointOf number
      let more ← unescape (rest.drop width)
      return point :: more
    | none => do
      let more ← unescape rest
      return .ofChar (escapeLetter letter) :: more
  | c :: rest => do
    let more ← unescape rest
    return .ofChar c :: more
termination_by text => text.length
decreasing_by all_goals simp_all; try omega

/-- The text without its first and last character. -/
def inner (literal : List Char) : List Char := literal.tail.dropLast

/-- The code points that a string literal denotes. -/
def unquote (literal : List Char) : Except LiteralError (List CodePoint) :=
  unescape (inner literal)

/-- The number that a numeral denotes. Only integers are limited in length. -/
def numberOf (spelling : List Char) : Except LiteralError Number :=
  match Numeral.read? spelling with
  | some (numeral, _) =>
    if numeral.isInteger then
      if digitLimit < numeral.whole.length then .error (.digits numeral.whole.length)
      else .ok (.int numeral.toInt)
    else .ok (.real numeral.toBinary64)
  | none => .ok (.int 0)

end TypeSchema
