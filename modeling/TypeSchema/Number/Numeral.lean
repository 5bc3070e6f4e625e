/-
**Numerals: numbers as they are written.**

* `NumeralStyle`: the decisions of a format that writes double precision numbers, and
  `Binary64.write`, which lays out the shortest digits in that style;
* `Numeral.read?`: the longest numeral at the beginning of a text, with digits of any script;
* `Numeral.toBinary64`: its value, rounded once;
* `Binary64.read?`: a signed numeral or one of the words for what is not finite.
-/

import TypeSchema.Number.Decimal
import TypeSchema.Text.Blank
import TypeSchema.Text.DecimalDigit

namespace TypeSchema

/-- How a format writes double precision numbers. -/
structure NumeralStyle where
  /-- How many exponent digits there are at least. -/
  exponentDigits : Nat
  /-- Whether a single digit before an exponent is followed by a point and a zero. -/
  pointBeforeExponent : Bool
  infinity : String
  nan : String

namespace Decimal

/-- Positional digits, with at least one digit on either side of the point. -/
def positional (decimal : Decimal) : List Char :=
  let digits := decimal.digits
  let point := decimal.pointPosition
  if point ≤ 0 then ['0', '.'] ++ List.replicate (-point).toNat '0' ++ digits
  else if digits.length ≤ point then
    digits ++ List.replicate (point.toNat - digits.length) '0' ++ ['.', '0']
  else digits.take point.toNat ++ '.' :: digits.drop point.toNat

/-- One digit before the point and a signed exponent. -/
def scientific (style : NumeralStyle) (decimal : Decimal) : List Char :=
  let exponent := decimal.pointPosition - 1
  let fraction :=
    match decimal.digits.tail with
    | [] => if style.pointBeforeExponent then ['.', '0'] else []
    | more => '.' :: more
  let size := Nat.toDigits 10 exponent.natAbs
  decimal.digits.take 1 ++ fraction ++ ['e', if exponent < 0 then '-' else '+'] ++
    List.replicate (style.exponentDigits - size.length) '0' ++ size

/-- Positional notation from a ten thousandth up to sixteen digits before the point, exponents
otherwise. -/
def write (style : NumeralStyle) (decimal : Decimal) : List Char :=
  if -4 < decimal.pointPosition ∧ decimal.pointPosition ≤ 16 then decimal.positional
  else decimal.scientific style

end Decimal

namespace Binary64

/-- A number in the given style. -/
def write (style : NumeralStyle) : Binary64 → List Char
  | nan => style.nan.toList
  | infinite negative => (if negative then ['-'] else []) ++ style.infinity.toList
  | finite negative units _ =>
    (if negative then ['-'] else []) ++
      if units = 0 then ['0', '.', '0'] else (shortest units).write style

end Binary64

/-- A numeral: digits, perhaps a point and more digits, perhaps a power of ten. -/
structure Numeral where
  negative : Bool
  whole : List Char
  fraction : Option (List Char)
  exponent : Option Int
deriving DecidableEq, Repr

namespace Numeral

/-- The power of ten at the beginning of a text: a mark, an optional sign, digits. -/
def readExponent (text : List Char) : Option Int × List Char :=
  match text with
  | mark :: '-' :: rest =>
    if (mark == 'e' || mark == 'E') && (rest.takeWhile isDecimalDigit) != [] then
      (some (-(digitsValue (rest.takeWhile isDecimalDigit) : Int)), rest.dropWhile isDecimalDigit)
    else (none, text)
  | mark :: '+' :: rest =>
    if (mark == 'e' || mark == 'E') && (rest.takeWhile isDecimalDigit) != [] then
      (some (digitsValue (rest.takeWhile isDecimalDigit) : Int), rest.dropWhile isDecimalDigit)
    else (none, text)
  | mark :: rest =>
    if (mark == 'e' || mark == 'E') && (rest.takeWhile isDecimalDigit) != [] then
      (some (digitsValue (rest.takeWhile isDecimalDigit) : Int), rest.dropWhile isDecimalDigit)
    else (none, text)
  | [] => (none, text)

/-- The longest numeral without a sign at the beginning of a text. Digits may be missing on one
side of the point, not on both. -/
def readUnsigned? (text : List Char) : Option (Numeral × List Char) :=
  let whole := text.takeWhile isDecimalDigit
  match text.dropWhile isDecimalDigit with
  | '.' :: rest =>
    let fraction := rest.takeWhile isDecimalDigit
    if whole = [] ∧ fraction = [] then none
    else
      let (exponent, rest) := readExponent (rest.dropWhile isDecimalDigit)
      some (⟨false, whole, some fraction, exponent⟩, rest)
  | rest =>
    if whole = [] then none
    else
      let (exponent, rest) := readExponent rest
      some (⟨false, whole, none, exponent⟩, rest)

/-- The longest numeral at the beginning of a text; a minus sign may precede it. -/
def read? : List Char → Option (Numeral × List Char)
  | '-' :: text => (readUnsigned? text).map fun (numeral, rest) =>
    ({ numeral with negative := true }, rest)
  | text => readUnsigned? text

/-- Whether a numeral has neither a point nor a power of ten. -/
def isInteger (numeral : Numeral) : Bool := numeral.fraction.isNone && numeral.exponent.isNone

/-- The integer that the digits before the point denote. -/
def toInt (numeral : Numeral) : Int :=
  if numeral.negative then -(digitsValue numeral.whole : Int) else digitsValue numeral.whole

/-- The nearest double precision number. -/
def toBinary64 (numeral : Numeral) : Binary64 :=
  let fraction := numeral.fraction.getD []
  Binary64.ofDecimal numeral.negative (digitsValue (numeral.whole ++ fraction))
    (numeral.exponent.getD 0 - fraction.length)

end Numeral

/-- The text without its underscores, if each of them stands between two digits. -/
def joinDigitGroups? (before : Option Char) : List Char → Option (List Char)
  | [] => some []
  | '_' :: rest =>
    if (before.map isDecimalDigit).getD false && (rest.head?.map isDecimalDigit).getD false then
      joinDigitGroups? (some '_') rest
    else none
  | c :: rest => (joinDigitGroups? (some c) rest).map (c :: ·)

/-- A text in ASCII lower case. -/
def lowered (text : List Char) : List Char := text.map Char.toLower

/-- The number that a text without a sign names: a word for infinity or for no number, or a
numeral. -/
def Binary64.readMagnitude? (negative : Bool) (text : List Char) : Option Binary64 :=
  if lowered text = "inf".toList ∨ lowered text = "infinity".toList then some (.infinite negative)
  else if lowered text = "nan".toList then some .nan
  else
    match Numeral.readUnsigned? text with
    | some (numeral, []) => some { numeral with negative }.toBinary64
    | _ => none

/-- The number that a text names, after an optional sign. -/
def Binary64.read? : List Char → Option Binary64
  | '-' :: text => readMagnitude? true text
  | '+' :: text => readMagnitude? false text
  | text => readMagnitude? false text

/-- The number that a text names, with underscores between digits and white space around it. -/
def Binary64.readLiteral? (text : List Char) : Option Binary64 :=
  (joinDigitGroups? none (trim text)).bind read?

end TypeSchema
