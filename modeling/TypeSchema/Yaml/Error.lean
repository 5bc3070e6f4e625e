/-
**Errors in YAML texts.**

The stages of reading fail in different ways: a character that may not occur, a token that cannot be
read, tokens in the wrong order, an anchor or a document too many, a node without a value.
-/

import TypeSchema.TypeExpr.Error

namespace TypeSchema.Yaml

/-- A value of a date or time that is out of range. -/
inductive DateError where
  | year
  | month
  | day
  | hour
  | minute
  | second
deriving DecidableEq, Repr

/-- The wording of a date or time out of range. -/
def DateError.message : DateError → String
  | year => "year 0 is out of range"
  | month => "month must be in 1..12"
  | day => "day is out of range for month"
  | hour => "hour must be in 0..23"
  | minute => "minute must be in 0..59"
  | second => "second must be in 0..59"

/-- Why a text has no value. -/
inductive Error where
  /-- A character that may not occur. -/
  | character
  /-- Text that is no token. -/
  | token
  /-- Tokens in the wrong order. -/
  | arrangement
  /-- An unknown or repeated anchor, or more than one document. -/
  | reference
  /-- A node that its tag cannot turn into a value. -/
  | construction
  | literal (error : LiteralError)
  /-- A word that is neither true nor false. -/
  | truth (word : String)
  /-- Text that is no integer in a base. -/
  | numeral (base : Nat) (text : String)
  /-- Text that is no double precision number. -/
  | real (text : String)
  | date (error : DateError)
deriving DecidableEq, Repr

/-- The wording of an error of a value. -/
def Error.message : Error → String
  | literal error => error.message
  | truth word => quote word
  | numeral base text => s!"invalid literal for int() with base {base}: " ++ quote text
  | real text => "could not convert string to float: " ++ quote text
  | date error => error.message
  | _ => ""

end TypeSchema.Yaml
