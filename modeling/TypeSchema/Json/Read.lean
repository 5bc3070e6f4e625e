/-
**Reading JSON documents.**

* `Json.parse?`: the value of a text, if the whole text is one document;
* integers may have any size, `NaN` and infinities are numbers, a string may hold any character raw;
* of fields with the same name the last value counts, at the place of the first.

The reader takes a bound on the number of its steps; `Json.parse?` gives it one that suffices.
-/

import TypeSchema.Json.Basic
import TypeSchema.Number.Numeral
import TypeSchema.Text.Hexadecimal

namespace TypeSchema.Json

/-- The characters that may stand between the parts of a document. -/
def isSpace (c : Char) : Bool := c == ' ' || c == '\t' || c == '\n' || c == '\r'

/-- The text from its first character that is no space. -/
def skipSpaces (text : List Char) : List Char := text.dropWhile isSpace

/-- Whether a character is one of the ten ASCII digits. -/
def isDigit (c : Char) : Bool := c.isDigit

/-- The four hexadecimal digits of a unit of sixteen bits, and what follows them. -/
def readUnit? : List Char → Option (Nat × List Char)
  | a :: b :: c :: d :: rest =>
    if [a, b, c, d].all isHexDigit then some (hexValue [a, b, c, d], rest) else none
  | _ => none

/-- The character of an escape after its backslash, and what follows it. A high unit must be
followed by the escape of a low one. -/
def readEscape? : List Char → Option (Char × List Char)
  | 'b' :: rest => some ('\x08', rest)
  | 'f' :: rest => some ('\x0c', rest)
  | 'n' :: rest => some ('\n', rest)
  | 'r' :: rest => some ('\r', rest)
  | 't' :: rest => some ('\t', rest)
  | 'u' :: rest =>
    match readUnit? rest with
    | none => none
    | some (high, after) =>
      if 0xD800 ≤ high ∧ high < 0xDC00 then
        match after with
        | '\\' :: 'u' :: more =>
          match readUnit? more with
          | some (low, last) =>
            if 0xDC00 ≤ low ∧ low < 0xE000 then
              some (Char.ofNat (0x10000 + (high - 0xD800) * 0x400 + (low - 0xDC00)), last)
            else none
          | none => none
        | _ => none
      else some (Char.ofNat high, after)
  | c :: rest => if c = '"' ∨ c = '\\' ∨ c = '/' then some (c, rest) else none
  | [] => none

/-- The characters of a string up to its closing quote, and what follows it. -/
def readString? (fuel : Nat) (text : List Char) : Option (List Char × List Char) :=
  match fuel, text with
  | _, [] => none
  | 0, _ => none
  | _, '"' :: rest => some ([], rest)
  | fuel + 1, '\\' :: rest =>
    match readEscape? rest with
    | some (c, after) =>
      (readString? fuel after).map fun (value, last) => (c :: value, last)
    | none => none
  | fuel + 1, c :: rest =>
    if c = '\x00' then none
    else (readString? fuel rest).map fun (value, last) => (c :: value, last)

/-- The digits of a number after its sign. A point or a power of ten makes it a double precision
number, and their digits may be missing. -/
def readMagnitude (negative : Bool) (text : List Char) : Number × List Char :=
  let whole := text.takeWhile isDigit
  let (fraction, rest) :=
    match text.dropWhile isDigit with
    | '.' :: rest => (some (rest.takeWhile isDigit), rest.dropWhile isDigit)
    | rest => (none, rest)
  let (exponent, rest) :=
    match rest with
    | mark :: rest' =>
      if mark = 'e' ∨ mark = 'E' then
        let (down, rest') :=
          match rest' with
          | '-' :: more => (true, more)
          | '+' :: more => (false, more)
          | _ => (false, rest')
        let size : Int := digitsValue (rest'.takeWhile isDigit)
        (some (if down then -size else size), rest'.dropWhile isDigit)
      else (none, rest)
    | [] => (none, rest)
  let numeral : Numeral := ⟨negative, whole, fraction, exponent⟩
  (if numeral.isInteger then .int numeral.toInt else .real numeral.toBinary64, rest)

/-- A number at the beginning of a text. -/
def readNumber? : List Char → Option (Number × List Char)
  | 'N' :: 'a' :: 'N' :: rest => some (.real .nan, rest)
  | 'I' :: 'n' :: 'f' :: 'i' :: 'n' :: 'i' :: 't' :: 'y' :: rest =>
    some (.real (.infinite false), rest)
  | '-' :: 'I' :: 'n' :: 'f' :: 'i' :: 'n' :: 'i' :: 't' :: 'y' :: rest =>
    some (.real (.infinite true), rest)
  | '-' :: rest => some (readMagnitude true rest)
  | c :: rest => if isDigit c then some (readMagnitude false (c :: rest)) else none
  | [] => none

mutual

/-- A value at the beginning of a text, and what follows it. -/
def readValue? (fuel : Nat) (text : List Char) : Option (Json × List Char) :=
  match fuel with
  | 0 => none
  | fuel + 1 =>
    match skipSpaces text with
    | 'n' :: 'u' :: 'l' :: 'l' :: rest => some (null, rest)
    | 't' :: 'r' :: 'u' :: 'e' :: rest => some (bool true, rest)
    | 'f' :: 'a' :: 'l' :: 's' :: 'e' :: rest => some (bool false, rest)
    | '"' :: rest =>
      (readString? (rest.length + 1) rest).map fun (value, last) =>
        (string (String.ofList value), last)
    | '[' :: rest =>
      match skipSpaces rest with
      | ']' :: last => some (array [], last)
      | _ => (readItems? fuel rest).map fun (items, last) => (array items, last)
    | '\x7b' :: rest =>
      match skipSpaces rest with
      | '\x7d' :: last => some (object [], last)
      | _ =>
        (readFields? fuel rest).map fun (fields, last) => (object (collectFields fields), last)
    | rest => (readNumber? rest).map fun (value, last) => (number value, last)

/-- The items of an array up to its closing bracket. -/
def readItems? (fuel : Nat) (text : List Char) : Option (List Json × List Char) :=
  match fuel with
  | 0 => none
  | fuel + 1 =>
    match readValue? fuel text with
    | none => none
    | some (item, rest) =>
      match skipSpaces rest with
      | ']' :: last => some ([item], last)
      | ',' :: more => (readItems? fuel more).map fun (items, last) => (item :: items, last)
      | _ => none

/-- The fields of an object up to its closing brace. -/
def readFields? (fuel : Nat) (text : List Char) : Option (List (String × Json) × List Char) :=
  match fuel with
  | 0 => none
  | fuel + 1 =>
    match skipSpaces text with
    | '"' :: rest =>
      match readString? (rest.length + 1) rest with
      | none => none
      | some (name, after) =>
        match skipSpaces after with
        | ':' :: more =>
          match readValue? fuel more with
          | none => none
          | some (value, last) =>
            match skipSpaces last with
            | '\x7d' :: last => some ([(String.ofList name, value)], last)
            | ',' :: more =>
              (readFields? fuel more).map fun (fields, last) =>
                ((String.ofList name, value) :: fields, last)
            | _ => none
        | _ => none
    | _ => none

end

/-- The value of a text that is one document, spaces around it aside. -/
def parse? (text : String) : Option Json :=
  match readValue? (2 * text.length + 2) text.toList with
  | some (value, rest) => if skipSpaces rest = [] then some value else none
  | none => none

end TypeSchema.Json
