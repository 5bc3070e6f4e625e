/-
**Errors in type texts.**

* `LiteralError`: a string escape or an integer that denotes no value;
* `SyntaxFault`: what is wrong with a text;
* `SyntaxError`: the fault and its place in a file; `SyntaxError.message` is its wording.
-/

import TypeSchema.Json.Literal
import TypeSchema.Text.Position

namespace TypeSchema

/-- A literal that denotes no value. -/
inductive LiteralError where
  /-- An escape above the last code point. -/
  | codePoint
  /-- An escape above the largest signed number of 32 bits. -/
  | codePointSize
  /-- An integer with too many digits. -/
  | digits (count : Nat)
deriving DecidableEq, Repr

/-- How many digits an integer may have. -/
def digitLimit : Nat := 4300

/-- The wording of a literal error. -/
def LiteralError.message : LiteralError → String
  | codePoint => "chr() arg not in range(0x110000)"
  | codePointSize => "Python int too large to convert to C int"
  | digits count =>
    s!"Exceeds the limit ({digitLimit} digits) for integer string conversion: value has {count} " ++
      "digits; use sys.set_int_max_str_digits() to increase the limit"

/-- What is wrong with a text. -/
inductive SyntaxFault where
  | token (text : String)
  | character (c : Char)
  | endOfInput
  | literal (error : LiteralError)
  | noAlias
  | described (text : String)
deriving DecidableEq, Repr

/-- The wording of a fault. -/
def SyntaxFault.message : SyntaxFault → String
  | token text => "unexpected token " ++ quote text
  | character c => "unexpected character " ++ quote (String.singleton c)
  | endOfInput => "unexpected end of input"
  | literal error => error.message
  | noAlias => "expected a type alias"
  | described text => text

/-- A fault at a place, in a file if one is known. -/
structure SyntaxError where
  fault : SyntaxFault
  path : Option String
  position : Position
deriving DecidableEq, Repr

/-- The file of an error as it is shown. -/
def SyntaxError.shownPath (error : SyntaxError) : String :=
  match error.path with
  | none => "<type>"
  | some path => if path.isEmpty then "<type>" else path

/-- The wording of an error. -/
def SyntaxError.message (error : SyntaxError) : String :=
  s!"failed to parse type at {error.shownPath} " ++ intText error.position.line ++ ":" ++
    intText error.position.column ++ ": " ++ error.fault.message

end TypeSchema
