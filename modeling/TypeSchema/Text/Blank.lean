/-
**White space.**

* `isBlank` decides white space of every script; `trimStart`, `trimEnd` and `trim` remove it from
  the ends of a text;
* `isSpace` leaves out the four separators among the ASCII controls.
-/

import TypeSchema.Text.CharClass

namespace TypeSchema

/-- The white space characters: ASCII controls and separators, and the spaces of other blocks. -/
def blankClass : CharClass :=
  [(0x9, 0xD), (0x1C, 0x20), (0x85, 0x85), (0xA0, 0xA0), (0x1680, 0x1680), (0x2000, 0x200A),
   (0x2028, 0x2029), (0x202F, 0x202F), (0x205F, 0x205F), (0x3000, 0x3000)]

/-- Whether a character is white space. -/
def isBlank (c : Char) : Bool := blankClass.contains c

/-- The text without the white space it begins with. -/
def trimStart (text : List Char) : List Char := text.dropWhile isBlank

/-- The text without the white space it ends with. -/
def trimEnd (text : List Char) : List Char := (text.reverse.dropWhile isBlank).reverse

/-- The text without the white space at either end. -/
def trim (text : List Char) : List Char := trimEnd (trimStart text)

/-- Whether a character is white space and none of the four separators of files, groups, records and
units. -/
def isSpace (c : Char) : Bool := isBlank c && !(0x1C ≤ c.toNat && c.toNat ≤ 0x1F)

/-- The text without the spaces at either end. -/
def trimSpaces (text : List Char) : List Char :=
  ((text.dropWhile isSpace).reverse.dropWhile isSpace).reverse

end TypeSchema
