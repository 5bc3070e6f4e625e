/-
**Values as literals.**

`Json.literal` shows a value the way generated modules and error messages do: `None`, `True` and
`False`, quoted strings, brackets around items and braces around fields. `literalNumeral` is the
style of its numbers.
-/

import TypeSchema.Json.Basic
import TypeSchema.Number.Numeral
import TypeSchema.Text.Quoted

namespace TypeSchema

/-- Numbers in literals have an exponent of at least two digits. -/
def literalNumeral : NumeralStyle where
  exponentDigits := 2
  pointBeforeExponent := false
  infinity := "inf"
  nan := "nan"

/-- An integer in decimal digits. -/
def intText (value : Int) : String :=
  if value < 0 then "-" ++ String.ofList (Nat.toDigits 10 value.natAbs)
  else String.ofList (Nat.toDigits 10 value.natAbs)

/-- A number as a literal. -/
def Number.literal : Number → String
  | int value => intText value
  | real value => String.ofList (value.write literalNumeral)

namespace Json

mutual

/-- A value as a literal. -/
def literal : Json → String
  | null => "None"
  | bool true => "True"
  | bool false => "False"
  | number value => value.literal
  | string value => quote value
  | array items => "[" ++ ", ".intercalate (literalItems items) ++ "]"
  | object fields => "\x7b" ++ ", ".intercalate (literalFields fields) ++ "\x7d"

/-- The literals of a list of values. -/
def literalItems : List Json → List String
  | [] => []
  | item :: rest => literal item :: literalItems rest

/-- The literals of a list of fields. -/
def literalFields : List (String × Json) → List String
  | [] => []
  | (name, value) :: rest => (quote name ++ ": " ++ literal value) :: literalFields rest

end

end Json

end TypeSchema
