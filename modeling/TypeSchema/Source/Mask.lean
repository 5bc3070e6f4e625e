/-
**Masking comments and strings.**

`mask` puts a space in place of every character of a comment and of the inside of every string, and
keeps line feeds and all other characters, so that offsets do not change.

* `/*::` and `/*flow-include` open a flow comment: only the marks at its ends are masked, the text
  between them is code;
* other `/* */` and `//` comments are masked whole, the line feed after a `//` comment aside;
* a string ends at its own quote, a single or double quoted one also at a line feed; a backslash
  takes the next character with it.
-/

namespace TypeSchema

/-- A text with spaces in place of all characters but line feeds. -/
def blanked (text : List Char) : List Char := text.map fun c => if c = '\n' then c else ' '

/-- The marks that open a flow comment. -/
def flowOpeners : List (List Char) := ["/*::".toList, "/*flow-include".toList]

/-- The mark of a flow comment that a text begins with. -/
def flowOpener? (text : List Char) : Option (List Char) :=
  flowOpeners.find? fun opener => opener.isPrefixOf text

/-- How many characters there are up to the next end of a comment, that end included; all of them
if there is none. -/
def commentWidth : List Char → Nat
  | [] => 0
  | '*' :: '/' :: _ => 2
  | _ :: rest => commentWidth rest + 1

/-- Whether a character opens a string. -/
def opensString (c : Char) : Bool := c == '\'' || c == '"' || c == '\x60'

/-- How many characters a string has between its opening quote and its end. -/
def stringWidth (quote : Char) : List Char → Nat
  | [] => 0
  | '\\' :: _ :: rest => stringWidth quote rest + 2
  | c :: rest =>
    if c = quote ∨ (c = '\n' ∧ quote ≠ '\x60') then 0 else stringWidth quote rest + 1

/-- Masks a text that begins at code level, outside or inside a flow comment. -/
def maskFrom (inFlow : Bool) (text : List Char) : List Char :=
  match text with
  | [] => []
  | c :: rest =>
    if inFlow ∧ ['*', '/'].isPrefixOf text then ' ' :: ' ' :: maskFrom false (rest.drop 1)
    else
      match (if inFlow then none else flowOpener? text) with
      | some opener => blanked opener ++ maskFrom true (rest.drop (opener.length - 1))
      | none =>
        if ['/', '*'].isPrefixOf text then
          let width := commentWidth (text.drop 2) + 2
          blanked (text.take width) ++ maskFrom inFlow (rest.drop (width - 1))
        else if ['/', '/'].isPrefixOf text then
          let width := (text.takeWhile (· ≠ '\n')).length
          blanked (text.take width) ++ maskFrom inFlow (rest.drop (width - 1))
        else if opensString c then
          let width := stringWidth c rest
          c :: blanked (rest.take width) ++ (rest.drop width).take 1 ++
            maskFrom inFlow (rest.drop (width + 1))
        else c :: maskFrom inFlow rest
termination_by text.length
decreasing_by all_goals simp_all; try omega

/-- The source with its comments and the insides of its strings masked. -/
def mask (source : List Char) : List Char := maskFrom false source

end TypeSchema
