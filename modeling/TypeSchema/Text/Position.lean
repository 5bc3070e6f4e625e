/-
**Lines and columns.**

* `positionAt`: the line and column of an offset, both counted from one; only a line feed ends a
  line;
* an offset below zero counts from the end when lines are counted, and one past the end stops there.
-/

namespace TypeSchema

/-- A place in a text: line and column, counted from one. -/
structure Position where
  line : Int
  column : Int
deriving DecidableEq, Repr, Inhabited

/-- The first place of a text. -/
def Position.first : Position := ⟨1, 1⟩

/-- How many characters of a text of the given length stand before an offset. -/
def charactersBefore (length : Nat) (offset : Int) : Nat :=
  if offset < 0 then (length + offset).toNat else min length offset.toNat

/-- The characters after the last line feed. -/
def lastLine (text : List Char) : List Char :=
  (text.reverse.takeWhile (· != '\n')).reverse

/-- The line and column of an offset. -/
def positionAt (text : List Char) (offset : Int) : Position :=
  let before := text.take (charactersBefore text.length offset)
  { line := before.count '\n' + 1
    column := offset - (before.length - (lastLine before).length) + 1 }

end TypeSchema
