/-
**Quoted text.**

`quoted` shows a text between quotes so that it can be read back:

* single quotes, unless the text has a single quote and no double quote;
* a backslash before the quote in use and before a backslash;
* `\n`, `\r` and `\t` by letter, other unprintable characters by code point in hexadecimal.
-/

import TypeSchema.Text.Hexadecimal
import TypeSchema.Text.Printable

namespace TypeSchema

/-- The quote that surrounds a text. -/
def quoteFor (text : List Char) : Char :=
  if text.contains '\'' && !text.contains '"' then '"' else '\''

/-- A code point by number, in the shortest of the three forms that can hold it. -/
def escapedCodePoint (c : Char) : List Char :=
  if c.toNat < 0x100 then '\\' :: 'x' :: hexadecimal 2 c.toNat
  else if c.toNat < 0x10000 then '\\' :: 'u' :: hexadecimal 4 c.toNat
  else '\\' :: 'U' :: hexadecimal 8 c.toNat

/-- One character as it is written between the given quotes. -/
def quotedChar (quote : Char) (c : Char) : List Char :=
  if c = quote || c = '\\' then ['\\', c]
  else if c = '\n' then ['\\', 'n']
  else if c = '\r' then ['\\', 'r']
  else if c = '\t' then ['\\', 't']
  else if isPrintable c then [c]
  else escapedCodePoint c

/-- A text between quotes. -/
def quoted (text : List Char) : List Char :=
  let quote := quoteFor text
  quote :: text.flatMap (quotedChar quote) ++ [quote]

/-- A string between quotes. -/
def quote (text : String) : String := String.ofList (quoted text.toList)

end TypeSchema
