/-
**Code points.**

An escape by number denotes any code point, also that of a surrogate, which is no character.

* `CodePoint`: a number up to 0x10FFFF;
* `CodePoint.ofChar` and `CodePoint.char`: the code point of a character, and the character of a code
  point, where the replacement character stands for every surrogate;
* `pointsOf` and `textOf`: the code points of a text, and the text of code points.
-/

namespace TypeSchema

/-- A code point, which may be that of a surrogate. -/
abbrev CodePoint := Fin 0x110000

theorem toNat_lt (c : Char) : c.toNat < 0x110000 := by
  have valid : c.toNat.isValidChar := c.valid
  unfold Nat.isValidChar at valid
  omega

namespace CodePoint

/-- The code point of a character. -/
def ofChar (c : Char) : CodePoint := ⟨c.toNat, toNat_lt c⟩

/-- The character with a code point. The replacement character stands for surrogates. -/
def char (point : CodePoint) : Char :=
  if point.val.isValidChar then Char.ofNat point.val else '\uFFFD'

@[simp]
theorem char_ofChar (c : Char) : (ofChar c).char = c := by
  have valid : c.toNat.isValidChar := c.valid
  rw [char, if_pos (by exact valid)]
  exact c.ofNat_toNat

end CodePoint

/-- The code points of a text. -/
def pointsOf (text : List Char) : List CodePoint := text.map CodePoint.ofChar

/-- The text of code points. -/
def textOf (points : List CodePoint) : String := String.ofList (points.map CodePoint.char)

@[simp]
theorem textOf_pointsOf (text : List Char) : textOf (pointsOf text) = String.ofList text := by
  rw [textOf, pointsOf, List.map_map]
  congr 1
  exact (List.map_congr_left fun c _ => CodePoint.char_ofChar c).trans (List.map_id text)

end TypeSchema
