/-
**The shortest decimal of a number.**

`Binary64.shortest` finds, among the decimals that round to a number, those with the fewest digits,
and of these the nearest one. The candidates of a given length are the two neighbours of the number
on the grid of that length; each is tested by reading it back.
-/

import TypeSchema.Number.Binary64

namespace TypeSchema

/-- A positive decimal: the digits of `coefficient`, shifted by a power of ten. -/
structure Decimal where
  coefficient : Nat
  exponent : Int
deriving DecidableEq, Repr

namespace Decimal

/-- Moves the trailing zeros of the coefficient into the exponent. -/
def normalise (decimal : Decimal) : Decimal :=
  if positive : 0 < decimal.coefficient ∧ decimal.coefficient % 10 = 0 then
    normalise ⟨decimal.coefficient / 10, decimal.exponent + 1⟩
  else decimal
termination_by decimal.coefficient
decreasing_by exact Nat.div_lt_self positive.1 (by decide)

/-- The significant digits. -/
def digits (decimal : Decimal) : List Char := Nat.toDigits 10 decimal.coefficient

/-- Where the decimal point stands, counted from before the first digit. -/
def pointPosition (decimal : Decimal) : Int := decimal.digits.length + decimal.exponent

end Decimal

namespace Binary64

/-- Whether a decimal rounds to the given units. -/
def readsBack (units : Nat) (decimal : Decimal) : Bool :=
  match ofDecimal false decimal.coefficient decimal.exponent with
  | finite _ others _ => others == units
  | _ => false

/-- A positive count of units as a quotient in steps of `10 ^ exponent`. -/
def stepsOfTen (units : Nat) (exponent : Int) : Nat × Nat :=
  if 0 ≤ exponent then (units, unitsPerOne * Nat.pow 10 exponent.toNat)
  else (units * Nat.pow 10 (-exponent).toNat, unitsPerOne)

/-- The position of the decimal point of a positive count of units: the number lies between the
powers of ten with this exponent and the one below. -/
def pointPosition (units : Nat) : Int :=
  decimalLength (units * Nat.pow 10 350 / unitsPerOne) - 350

/-- The nearest decimal with the given number of digits that rounds to the units. -/
def shortestOf (units : Nat) (length : Nat) : Option Decimal :=
  let exponent := pointPosition units - length
  let steps := stepsOfTen units exponent
  let below : Decimal := ⟨steps.1 / steps.2, exponent⟩
  let above : Decimal := ⟨steps.1 / steps.2 + 1, exponent⟩
  let nearest : Decimal := ⟨roundHalfEven steps.1 steps.2, exponent⟩
  if readsBack units nearest then some nearest
  else if readsBack units below then some below
  else if readsBack units above then some above
  else none

/-- The decimal that equals a count of units exactly. -/
def exactDecimal (units : Nat) : Decimal := ⟨units * Nat.pow 5 1074, -1074⟩

/-- The shortest decimal that rounds to a positive count of units. -/
def shortest (units : Nat) : Decimal :=
  (((List.range 17).findSome? fun length => shortestOf units (length + 1)).getD
    (exactDecimal units)).normalise

end Binary64

end TypeSchema
