/-
**Double precision numbers.**

A finite number is a sign and a count of units of `2 ^ -1074`, the smallest positive step.

* `Representable`: the counts that fit into 53 significant bits below `2 ^ 2098` units;
* `Binary64.ofQuotient`: the nearest representable number, ties to the even significand, infinite
  when the nearest step lies past the largest finite number;
* `Binary64.ofDecimal`: a decimal numeral, rounded once from its exact value;
* `Binary64.compare?`: the order of the extended reals, in which no number is related to `nan`.
-/

namespace TypeSchema

/-- The number of units in one. -/
def unitsPerOne : Nat := Nat.pow 2 1074

/-- The first count of units past the largest finite number. -/
def unitsLimit : Nat := Nat.pow 2 2098

/-- The distance between neighbouring representable counts of the size of `units`. -/
def spacing (units : Nat) : Nat := Nat.pow 2 (units.log2 - 52)

/-- A count of units that 53 significant bits can hold. -/
def Representable (units : Nat) : Prop := units < unitsLimit ∧ spacing units ∣ units

instance (units : Nat) : Decidable (Representable units) :=
  inferInstanceAs (Decidable (_ ∧ _))

/-- A double precision number: not a number, an infinity, or a signed count of units. -/
inductive Binary64 where
  | nan
  | infinite (negative : Bool)
  | finite (negative : Bool) (units : Nat) (representable : Representable units)
deriving DecidableEq

/-- The nearest integer to a quotient; a half goes to the even neighbour. -/
def roundHalfEven (numerator denominator : Nat) : Nat :=
  let quotient := numerator / denominator
  let remainder := numerator % denominator
  if 2 * remainder < denominator then quotient
  else if denominator < 2 * remainder then quotient + 1
  else if quotient % 2 = 0 then quotient
  else quotient + 1

/-- The multiple of the local spacing that is nearest to a quotient of units. -/
def nearestUnits (numerator denominator : Nat) : Nat :=
  let step := spacing (numerator / denominator)
  roundHalfEven numerator (denominator * step) * step

namespace Binary64

instance : Inhabited Binary64 := ⟨nan⟩

/-- A number from its sign and its count of units, infinite when the count is too large. -/
def ofUnits (negative : Bool) (units : Nat) : Binary64 :=
  if representable : Representable units then finite negative units representable
  else infinite negative

/-- The number nearest to a quotient of units. -/
def ofQuotient (negative : Bool) (numerator denominator : Nat) : Binary64 :=
  ofUnits negative (nearestUnits numerator denominator)

/-- Zero with a sign. -/
def zero (negative : Bool) : Binary64 := ofUnits negative 0

/-- The number nearest to an integer. -/
def ofInt (value : Int) : Binary64 :=
  ofQuotient (value < 0) (value.natAbs * unitsPerOne) 1

/-- How many decimal digits a number has. -/
def decimalLength (value : Nat) : Nat := (Nat.toDigits 10 value).length

/-- The number nearest to `coefficient * 10 ^ exponent`. Exponents that are out of range whatever
the digits are settled first. -/
def ofDecimal (negative : Bool) (coefficient : Nat) (exponent : Int) : Binary64 :=
  if coefficient = 0 then zero negative
  else if decimalLength coefficient + exponent > 400 then infinite negative
  else if decimalLength coefficient + exponent < -400 then zero negative
  else if 0 ≤ exponent then
    ofQuotient negative (coefficient * Nat.pow 10 exponent.toNat * unitsPerOne) 1
  else
    ofQuotient negative (coefficient * unitsPerOne) (Nat.pow 10 (-exponent).toNat)

/-- Units with their sign. -/
def signedUnits (negative : Bool) (units : Nat) : Int :=
  if negative then -(units : Int) else units

/-- A number whose sign is that of the given units; zero takes the given sign. -/
def ofSignedUnits (zeroSign : Bool) (units : Int) : Binary64 :=
  ofQuotient (if units = 0 then zeroSign else units < 0) units.natAbs 1

/-- The opposite number. -/
def neg : Binary64 → Binary64
  | nan => nan
  | infinite negative => infinite !negative
  | finite negative units representable => finite (!negative) units representable

/-- The sum, rounded once. -/
def add : Binary64 → Binary64 → Binary64
  | nan, _ => nan
  | _, nan => nan
  | infinite first, infinite second => if first = second then infinite first else nan
  | infinite negative, _ => infinite negative
  | _, infinite negative => infinite negative
  | finite first units _, finite second others _ =>
    ofSignedUnits (first && second) (signedUnits first units + signedUnits second others)

/-- The product, rounded once. -/
def mul : Binary64 → Binary64 → Binary64
  | nan, _ => nan
  | _, nan => nan
  | infinite first, infinite second => infinite (first != second)
  | infinite first, finite second units _ =>
    if units = 0 then nan else infinite (first != second)
  | finite first units _, infinite second =>
    if units = 0 then nan else infinite (first != second)
  | finite first units _, finite second others _ =>
    ofQuotient (first != second) (units * others) unitsPerOne

instance : Add Binary64 := ⟨add⟩
instance : Mul Binary64 := ⟨mul⟩
instance : Neg Binary64 := ⟨neg⟩

/-- The order of two numbers as extended reals; none when either is not a number. -/
def compare? : Binary64 → Binary64 → Option Ordering
  | nan, _ => none
  | _, nan => none
  | infinite first, infinite second => some (compare second.toNat first.toNat)
  | infinite negative, _ => some (if negative then .lt else .gt)
  | _, infinite negative => some (if negative then .gt else .lt)
  | finite first units _, finite second others _ =>
    some (compare (signedUnits first units) (signedUnits second others))

/-- The order of a number against an exact integer. -/
def compareInt? : Binary64 → Int → Option Ordering
  | nan, _ => none
  | infinite negative, _ => some (if negative then .lt else .gt)
  | finite negative units _, value =>
    some (compare (signedUnits negative units) (value * unitsPerOne))

/-- The integer that a number is, if it is one. -/
def toInt? : Binary64 → Option Int
  | nan => none
  | infinite _ => none
  | finite negative units _ =>
    if units % unitsPerOne = 0 then some (signedUnits negative (units / unitsPerOne)) else none

end Binary64

end TypeSchema
