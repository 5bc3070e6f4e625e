/-
**File paths.**

* `Path.ofText`: repeated slashes and `.` parts are dropped, `..` parts are kept; two slashes at the
  start, and no more, are a root of their own;
* `Path.text`: the path as it is shown, `.` when it is empty;
* `Path.suffix` and `Path.stem`: the last part from its last point on, and before it. A point at
  either end of a name starts no suffix.
-/

import TypeSchema.Text.Split

namespace TypeSchema

/-- The root of a path and the names under it. -/
structure Path where
  root : String
  parts : List String
deriving DecidableEq, Repr

namespace Path

/-- The root of a path: its leading slashes, of which only exactly two are more than one. -/
def rootOf (text : List Char) : String :=
  match (text.takeWhile (· = '/')).length with
  | 0 => ""
  | 2 => "//"
  | _ => "/"

/-- The path that a text names. -/
def ofText (text : String) : Path where
  root := rootOf text.toList
  parts := ((splitAt '/' text.toList).filter fun part => part != [] && part != ['.']).map
    String.ofList

/-- A path as it is shown. -/
def text (path : Path) : String :=
  if path.root = "" ∧ path.parts = [] then "." else path.root ++ "/".intercalate path.parts

/-- The last part. -/
def name (path : Path) : String := path.parts.getLast?.getD ""

/-- Where the suffix of a name begins. -/
def suffixStart? (name : List Char) : Option Nat :=
  let after := (name.reverse.takeWhile (· != '.')).length
  if after = 0 ∨ name.length ≤ after + 1 then none else some (name.length - after - 1)

/-- The last part from its last point on. -/
def suffix (path : Path) : String :=
  match suffixStart? path.name.toList with
  | some start => String.ofList (path.name.toList.drop start)
  | none => ""

/-- The last part before its suffix. -/
def stem (path : Path) : String :=
  match suffixStart? path.name.toList with
  | some start => String.ofList (path.name.toList.take start)
  | none => path.name

/-- The path with another last part. -/
def withName (path : Path) (name : String) : Path :=
  { path with parts := path.parts.dropLast ++ [name] }

end Path

/-- A path as it is shown. -/
def normalPath (text : String) : String := (Path.ofText text).text

end TypeSchema
