/-
**JSON documents as text.**

* `Json.compact` writes a value on one line without spaces, `Json.indented` with two spaces for
  each level;
* only ASCII is written: other characters become `\u` escapes, in pairs above the basic plane, and
  a slash is escaped too;
* `documentNumeral` is the style of double precision numbers.
-/

import TypeSchema.Json.Literal

namespace TypeSchema

/-- Numbers in documents have an exponent without padding. -/
def documentNumeral : NumeralStyle where
  exponentDigits := 1
  pointBeforeExponent := false
  infinity := "Infinity"
  nan := "NaN"

/-- A number in a document. -/
def Number.document : Number → String
  | int value => intText value
  | real value => String.ofList (value.write documentNumeral)

/-- One unit of sixteen bits as an escape. -/
def unitEscape (unit : Nat) : List Char := '\\' :: 'u' :: hexadecimal 4 unit

/-- One character inside a string of a document. -/
def documentChar (c : Char) : List Char :=
  if c = '"' || c = '\\' || c = '/' then ['\\', c]
  else if c = '\x08' then ['\\', 'b']
  else if c = '\x0c' then ['\\', 'f']
  else if c = '\n' then ['\\', 'n']
  else if c = '\r' then ['\\', 'r']
  else if c = '\t' then ['\\', 't']
  else if c.toNat < 0x20 then unitEscape c.toNat
  else if c.toNat < 0x80 then [c]
  else if c.toNat < 0x10000 then unitEscape c.toNat
  else
    unitEscape (0xD800 + (c.toNat - 0x10000) / 0x400) ++
      unitEscape (0xDC00 + (c.toNat - 0x10000) % 0x400)

/-- A string of a document. -/
def documentString (text : String) : String :=
  "\"" ++ String.ofList (text.toList.flatMap documentChar) ++ "\""

namespace Json

mutual

/-- A value on one line. -/
def compact : Json → String
  | null => "null"
  | bool true => "true"
  | bool false => "false"
  | number value => value.document
  | string value => documentString value
  | array items => "[" ++ ",".intercalate (compactItems items) ++ "]"
  | object fields => "\x7b" ++ ",".intercalate (compactFields fields) ++ "\x7d"

/-- The values of an array on one line. -/
def compactItems : List Json → List String
  | [] => []
  | item :: rest => compact item :: compactItems rest

/-- The fields of an object on one line. -/
def compactFields : List (String × Json) → List String
  | [] => []
  | (name, value) :: rest => (documentString name ++ ":" ++ compact value) :: compactFields rest

end

/-- A new line with two spaces for each level. -/
def newline (level : Nat) : String := "\n" ++ String.ofList (List.replicate (2 * level) ' ')

/-- Brackets around parts that stand on lines of their own, one level deeper. -/
def block (opening closing : String) (level : Nat) : List String → String
  | [] => opening ++ closing
  | parts =>
    opening ++ newline (level + 1) ++ ("," ++ newline (level + 1)).intercalate parts ++
      newline level ++ closing

mutual

/-- A value whose parts stand on lines of their own, at a level of indentation. -/
def indentedAt (level : Nat) : Json → String
  | array items => block "[" "]" level (indentedItems (level + 1) items)
  | object fields => block "\x7b" "\x7d" level (indentedFields (level + 1) fields)
  | null => "null"
  | bool true => "true"
  | bool false => "false"
  | number value => value.document
  | string value => documentString value

/-- The values of an array at a level of indentation. -/
def indentedItems (level : Nat) : List Json → List String
  | [] => []
  | item :: rest => indentedAt level item :: indentedItems level rest

/-- The fields of an object at a level of indentation. -/
def indentedFields (level : Nat) : List (String × Json) → List String
  | [] => []
  | (name, value) :: rest =>
    (documentString name ++ ": " ++ indentedAt level value) :: indentedFields level rest

end

/-- A value with two spaces of indentation for each level. -/
def indented (value : Json) : String := indentedAt 0 value

end Json

end TypeSchema
