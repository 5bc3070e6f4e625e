/-
**Tokens of type texts.**

* `Terminal`: the kinds of tokens;
* `Terminal.width?`: how many characters the longest token of a kind takes at the beginning of a
  text;
* `firstToken?`: the token that a text begins with, among the kinds that are allowed. Literals and
  names come first, then longer signs before shorter ones.
-/

import TypeSchema.Number.Numeral

namespace TypeSchema

/-- The kinds of tokens. -/
inductive Terminal where
  | text
  | numeral
  | name
  | ellipsis
  | openExact
  | closeExact
  | openBrace
  | closeBrace
  | openBracket
  | closeBracket
  | openParen
  | closeParen
  | less
  | greater
  | bar
  | question
  | comma
  | semicolon
  | colon
  | dot
  | variance
deriving DecidableEq, Repr

/-- Whether a character may begin a name. -/
def isNameStart (c : Char) : Bool := c.isAlpha || c == '_' || c == '$'

/-- Whether a character may stand inside a name. -/
def isNamePart (c : Char) : Bool := c.isAlphanum || c == '_' || c == '$'

/-- White space between tokens. -/
def isTokenSpace (c : Char) : Bool :=
  c == ' ' || c == '\t' || c == '\x0c' || c == '\r' || c == '\n'

/-- How many characters a string literal takes after its opening quote. No line feed may stand
in it, not even after a backslash. -/
def stringRest? (quote : Char) : List Char → Option Nat
  | [] => none
  | '\\' :: c :: rest => if c = '\n' then none else (stringRest? quote rest).map (· + 2)
  | c :: rest =>
    if c = quote then some 1
    else if c = '\n' ∨ c = '\\' then none
    else (stringRest? quote rest).map (· + 1)

/-- The length of a word at the beginning of a text, if the text begins with it. -/
def spelled? (word text : List Char) : Option Nat :=
  if word.isPrefixOf text then some word.length else none

namespace Terminal

/-- How many characters the token of a kind takes at the beginning of a text. -/
def width? (text : List Char) : Terminal → Option Nat
  | .text =>
    match text with
    | c :: rest => if c = '"' ∨ c = '\'' then (stringRest? c rest).map (· + 1) else none
    | [] => none
  | numeral => (Numeral.read? text).map fun (_, rest) => text.length - rest.length
  | name =>
    match text with
    | c :: rest => if isNameStart c then some ((rest.takeWhile isNamePart).length + 1) else none
    | [] => none
  | ellipsis => spelled? ['.', '.', '.'] text
  | openExact => spelled? ['\x7b', '|'] text
  | closeExact => spelled? ['|', '\x7d'] text
  | openBrace => spelled? ['\x7b'] text
  | closeBrace => spelled? ['\x7d'] text
  | openBracket => spelled? ['['] text
  | closeBracket => spelled? [']'] text
  | openParen => spelled? ['('] text
  | closeParen => spelled? [')'] text
  | less => spelled? ['<'] text
  | greater => spelled? ['>'] text
  | bar => spelled? ['|'] text
  | question => spelled? ['?'] text
  | comma => spelled? [','] text
  | semicolon => spelled? [';'] text
  | colon => spelled? [':'] text
  | dot => spelled? ['.'] text
  | variance => (spelled? ['+'] text).or (spelled? ['-'] text)

/-- All kinds, in the order in which they are tried. -/
def all : List Terminal :=
  [.text, numeral, name, ellipsis, openExact, closeExact, openBrace, closeBrace, openBracket,
    closeBracket, openParen, closeParen, less, greater, bar, question, comma, semicolon, colon,
    dot, variance]

end Terminal

/-- The kind and the width of the token at the beginning of a text, among the allowed kinds. -/
def firstToken? (allowed : Terminal → Bool) (text : List Char) : Option (Terminal × Nat) :=
  Terminal.all.findSome? fun terminal =>
    if allowed terminal then (terminal.width? text).map fun width => (terminal, width) else none

end TypeSchema
