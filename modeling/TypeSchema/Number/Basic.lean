/-
**Numbers of a document.**

A number is an exact integer of any size or a double precision number. Two numbers are the same
when they have the same value, whichever way they are held.
-/

import TypeSchema.Number.Binary64

namespace TypeSchema

/-- An integer, or a double precision number. -/
inductive Number where
  | int (value : Int)
  | real (value : Binary64)
deriving DecidableEq, Inhabited

namespace Number

/-- The order of two numbers by value; none when either is not a number. -/
def compare? : Number → Number → Option Ordering
  | int first, int second => some (compare first second)
  | int first, real second => (second.compareInt? first).map Ordering.swap
  | real first, int second => first.compareInt? second
  | real first, real second => first.compare? second

/-- Whether two numbers have the same value. -/
def same (first second : Number) : Bool := first.compare? second == some .eq

/-- Whether a number is below another. -/
def below (first second : Number) : Bool := first.compare? second == some .lt

/-- Whether a number is below another or has its value. -/
def atMost (first second : Number) : Bool := first.below second || first.same second

end Number

end TypeSchema
