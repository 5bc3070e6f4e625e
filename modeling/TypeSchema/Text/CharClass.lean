/-
**Classes of characters given by ranges of code points.**

* `CharClass.contains`: a character belongs to a class when one of its ranges holds the code point;
* `CharClass.offset?`: how far into its range a character stands, for classes whose ranges count
  something (the ten digits of a script).
-/

namespace TypeSchema

/-- A class of characters: inclusive ranges of code points, in increasing order. -/
abbrev CharClass := List (Nat × Nat)

namespace CharClass

/-- Whether one of the ranges of the class holds the character. -/
def contains (ranges : CharClass) (c : Char) : Bool :=
  ranges.any fun range => range.1 ≤ c.toNat && c.toNat ≤ range.2

/-- The distance of a character from the start of the range that holds it. -/
def offset? (ranges : CharClass) (c : Char) : Option Nat :=
  (ranges.find? fun range => range.1 ≤ c.toNat && c.toNat ≤ range.2).map fun range =>
    c.toNat - range.1

end CharClass

end TypeSchema
