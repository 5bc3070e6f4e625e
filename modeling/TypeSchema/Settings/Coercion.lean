/-
**Values as settings.**

A setting takes values of more than one kind.

* `Datum.toInteger?`: an integer, a number without a fraction, a truth value as one or zero, or a
  text that names an integer;
* `Datum.toReal?`: a number, a truth value, or a text that names a number;
* `Datum.toText?`: a text only.

Bytes stand for the text that they encode.
-/

import TypeSchema.TypeExpr.Error
import TypeSchema.Yaml.Value

namespace TypeSchema

/-- A text without its underscores, if none stands at an end or beside another one. -/
def joinGroups? (text : List Char) : Option (List Char) :=
  let pieces := splitAt '_' text
  if 1 < pieces.length ∧ pieces.all (· ≠ []) then some pieces.flatten else none

/-- A numeral from its first digit that counts. Underscores may stand among the leading zeros; the
last zero stays before a point or at the end. -/
def fromFirstDigit? (last : Char) : List Char → Option (List Char)
  | [] => some [last]
  | c :: rest =>
    if c = '0' ∨ c = '_' then fromFirstDigit? c rest
    else if c.isDigit then some (c :: rest)
    else if c = '.' then some (last :: c :: rest)
    else none

/-- A numeral without its leading zeros; one with a minus sign is left as it is. -/
def withoutLeadingZeros? : List Char → Option (List Char)
  | [] => none
  | c :: rest =>
    if c = '0' then fromFirstDigit? c rest
    else if c.isDigit ∨ c = '-' then some (c :: rest)
    else none

/-- A numeral without a fraction of zeros. -/
def withoutZeroFraction (text : List Char) : List Char :=
  let whole := text.takeWhile (· != '.')
  if (text.drop (whole.length + 1)).all (· == '0') then whole else text

/-- The natural number that digits denote, of limited length and without a leading zero. -/
def strictDigits? (digits : List Char) : Option Nat :=
  if digits ≠ [] ∧ digits.all Char.isDigit ∧ (digits.length = 1 ∨ digits.head? ≠ some '0') ∧
      digits.length ≤ digitLimit then
    some (digitsValue digits)
  else none

/-- The integer that a text names. -/
def integerText? (text : String) : Option Int := do
  let signed := trimSpaces text.toList
  let unsigned ←
    match signed with
    | '+' :: '-' :: _ => none
    | '+' :: rest => some rest
    | rest => some rest
  let whole := withoutZeroFraction (← withoutLeadingZeros? unsigned)
  match (joinGroups? whole).getD whole with
  | '-' :: digits => (strictDigits? digits).map fun value => -(value : Int)
  | digits => (strictDigits? digits).map fun value => (value : Int)

/-- The number that a text in ASCII names. -/
def asciiReal? (text : List Char) : Option Binary64 :=
  if text.all (fun c => c.toNat < 0x80) then Binary64.read? text else none

/-- The number that a text names. -/
def realText? (text : String) : Option Binary64 :=
  (asciiReal? (trimSpaces text.toList)).or ((joinGroups? text.toList).bind asciiReal?)

/-- The first integer that does not fit into sixty-four bits with a sign. -/
def wordLimit : Int := 0x8000000000000000

namespace Datum

/-- The integer that a value stands for. -/
def toInteger? : Datum → Option Int
  | .number (.int value) => some value
  | .number (.real value) =>
    value.toInt?.filter fun value => -wordLimit < value && value < wordLimit
  | .bool value => some (if value then 1 else 0)
  | .string text => integerText? text
  | .rare (.binary text) _ => text.bind integerText?
  | _ => none

/-- The natural number, at least as great as a bound, that a value stands for. -/
def toNatural? (least : Nat) (datum : Datum) : Option Nat :=
  datum.toInteger?.bind fun value => if (least : Int) ≤ value then some value.toNat else none

/-- The number that a value stands for. -/
def toReal? : Datum → Option Binary64
  | .number (.int value) =>
    match Binary64.ofInt value with
    | .infinite _ => none
    | real => some real
  | .number (.real value) => some value
  | .bool value => some (Binary64.ofInt (if value then 1 else 0))
  | .string text => realText? text
  | .rare (.binary text) _ => text.bind realText?
  | _ => none

/-- The text that a value is. -/
def toText? : Datum → Option String
  | .string text => some text
  | .rare (.binary text) _ => text
  | _ => none

end Datum

end TypeSchema
