/-
**Writing YAML documents.**

* `Scalar.write`: a null, a number or a text after its name. A text is plain where that reads back,
  else in single quotes, and in double quotes if it has other characters than ASCII text and line
  feeds, or spaces beside a line feed;
* `document`: named scalars, one for each line. Past eighty columns a text goes on in the next line,
  indented by two spaces.
-/

import TypeSchema.Json.Literal
import TypeSchema.Text.Hexadecimal
import TypeSchema.Text.Split
import TypeSchema.Yaml.Node

namespace TypeSchema.Yaml

/-- A value that stands beside its name. -/
inductive Scalar where
  | null
  | number (value : Number)
  | text (value : String)
deriving DecidableEq

/-- Numbers have a point, and an exponent of at least two digits. -/
def yamlNumeral : NumeralStyle where
  exponentDigits := 2
  pointBeforeExponent := true
  infinity := ".inf"
  nan := ".nan"

/-- The column after which a text goes on in the next line. -/
def lineWidth : Nat := 80

/-- The beginning of a line on which a text goes on. -/
def continuation : List Char := ['\n', ' ', ' ']

/-- Whether a character may stand in a document as it is. -/
def isPrintableAscii (c : Char) : Bool := ' ' ≤ c && c ≤ '~'

/-- Whether a space and a line feed stand beside each other. -/
def hasSpaceAtBreak : List Char → Bool
  | ' ' :: '\n' :: _ => true
  | '\n' :: ' ' :: _ => true
  | _ :: rest => hasSpaceAtBreak rest
  | [] => false

/-- Whether a text can only be written in double quotes. -/
def needsEscapes (text : List Char) : Bool :=
  text.any (fun c => c != '\n' && !isPrintableAscii c) || hasSpaceAtBreak text

/-- Whether a word has a character that ends a plain scalar: a colon before white space, or a number
sign after it. -/
def hasPlainEnd (before : Char) : List Char → Bool
  | [] => false
  | c :: rest =>
    (c == ':' && rest.head?.all (· == ' ')) || (c == '#' && before == ' ') || hasPlainEnd c rest

/-- Whether the first characters of a text mean something other than a plain scalar. -/
def hasMarkAtStart (text : List Char) : Bool :=
  match text with
  | [] => false
  | c :: rest =>
    "#,[]\x7b\x7d&*!|>'\"%@\x60".toList.contains c ||
      ((c == '?' || c == ':' || c == '-') && rest.head?.all (· == ' ')) ||
      "---".toList.isPrefixOf text || "...".toList.isPrefixOf text

/-- Whether a text can be written without quotes. -/
def isPlainText (text : List Char) : Bool :=
  impliedTag (String.ofList text) == basicTag "str" && !needsEscapes text &&
    !text.contains '\n' && text.head? != some ' ' && text.getLast? != some ' ' &&
    !hasMarkAtStart text && !hasPlainEnd 'x' text

/-- Words with the spaces between them, from a column on. A space alone between two words becomes a
line break past the width. -/
def foldWords (column : Nat) : List (List Char) → List Char
  | [] => []
  | [word] => word
  | word :: next :: rest =>
    if word ≠ [] ∧ next ≠ [] ∧ lineWidth < column + word.length then
      word ++ continuation ++ foldWords 2 (next :: rest)
    else word ++ ' ' :: foldWords (column + word.length + 1) (next :: rest)

/-- One line of a text from a column on. -/
def foldLine (column : Nat) (line : List Char) : List Char := foldWords column (splitAt ' ' line)

/-- The lines of a text in single quotes. One more line break comes before each run of them, and an
indentation after it. -/
def foldLines (first : Bool) (column : Nat) : List (List Char) → List Char
  | [] => []
  | [line] => foldLine column line
  | line :: next :: rest =>
    foldLine column line ++ (if first ∨ line ≠ [] then ['\n', '\n'] else ['\n']) ++
      (if next ≠ [] ∨ rest = [] then [' ', ' '] else []) ++ foldLines false 2 (next :: rest)

/-- A text in single quotes, in which a quote is written twice. -/
def singleQuoted (column : Nat) (text : List Char) : List Char :=
  let doubled := text.flatMap fun c => if c = '\'' then ['\'', '\''] else [c]
  '\'' :: foldLines true (column + 1) (splitAt '\n' doubled) ++ ['\'']

/-- A hexadecimal numeral in upper case. -/
def upperHex (width value : Nat) : List Char := (hexadecimal width value).map Char.toUpper

/-- An escape of a character. -/
def escaped (c : Char) : List Char :=
  '\\' ::
    if c = '\x00' then ['0']
    else if c = '\x07' then ['a']
    else if c = '\x08' then ['b']
    else if c = '\t' then ['t']
    else if c = '\n' then ['n']
    else if c = '\x0b' then ['v']
    else if c = '\x0c' then ['f']
    else if c = '\r' then ['r']
    else if c = '\x1b' then ['e']
    else if c = '"' ∨ c = '\\' then [c]
    else if c = '\u0085' then ['N']
    else if c = '\u00a0' then ['_']
    else if c = '\u2028' then ['L']
    else if c = '\u2029' then ['P']
    else if c.toNat < 0x100 then 'x' :: upperHex 2 c.toNat
    else if c.toNat < 0x10000 then 'u' :: upperHex 4 c.toNat
    else 'U' :: upperHex 8 c.toNat

/-- The rest of a text in double quotes from a column on. A line may end before a space, and after
an escape; `broken` says that it may end here, which no text does before its first character or its
last one. A space that would begin a line is escaped. -/
def doubleRest (first broken : Bool) (column : Nat) : List Char → List Char
  | [] => []
  | c :: rest =>
    if isPrintableAscii c ∧ c ≠ '"' ∧ c ≠ '\\' then
      if ¬first ∧ rest ≠ [] ∧ (c = ' ' ∨ broken) ∧ lineWidth < column then
        '\\' :: continuation ++ (if c = ' ' then ['\\', ' '] else [c]) ++
          doubleRest false false (if c = ' ' then 4 else 3) rest
      else c :: doubleRest false false (column + 1) rest
    else
      let column := column + (escaped c).length
      if ¬first ∧ rest ≠ [] ∧ lineWidth + 1 < column then
        escaped c ++ '\\' :: continuation ++
          (if rest.head? = some ' ' then '\\' :: doubleRest false true 3 rest
          else doubleRest false true 2 rest)
      else escaped c ++ doubleRest false true column rest

/-- A text in double quotes. -/
def doubleQuoted (column : Nat) (text : List Char) : List Char :=
  '"' :: doubleRest true false (column + 1) text ++ ['"']

/-- A text from a column on. -/
def writeText (column : Nat) (text : List Char) : List Char :=
  if isPlainText text then foldLine column text
  else if needsEscapes text then doubleQuoted column text
  else singleQuoted column text

/-- A scalar from a column on. -/
def Scalar.write (column : Nat) : Scalar → List Char
  | null => "null".toList
  | number (.int value) => (intText value).toList
  | number (.real value) => value.write yamlNumeral
  | text value => writeText column value.toList

/-- Named scalars, one for each line. -/
def document (fields : List (String × Scalar)) : String :=
  String.join (fields.map fun (name, value) =>
    name ++ ": " ++ String.ofList (value.write (name.length + 2)) ++ "\n")

end TypeSchema.Yaml
