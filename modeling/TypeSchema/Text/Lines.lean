/-
**Lines with their ends.**

`linesKept` cuts a text after every line end and keeps the ends, so that the pieces joined give the
text back. A carriage return and a line feed together are one line end.
-/

namespace TypeSchema

/-- The characters that end a line by themselves. -/
def isLineEnd (c : Char) : Bool :=
  c == '\n' || c == '\r' || c == '\x0b' || c == '\x0c' || c == '\x1c' || c == '\x1d' ||
    c == '\x1e' || c == '\u0085' || c == '\u2028' || c == '\u2029'

/-- The first line with its end, and what follows it. -/
def firstLine : List Char → List Char × List Char
  | [] => ([], [])
  | '\r' :: '\n' :: rest => (['\r', '\n'], rest)
  | c :: rest =>
    if isLineEnd c then ([c], rest)
    else
      let (line, after) := firstLine rest
      (c :: line, after)

theorem firstLine_rest_le (text : List Char) : (firstLine text).2.length ≤ text.length := by
  fun_induction firstLine text <;> simp_all <;> omega

theorem firstLine_rest_lt (c : Char) (rest : List Char) :
    (firstLine (c :: rest)).2.length < (c :: rest).length := by
  have shorter := firstLine_rest_le rest
  unfold firstLine
  split
  · contradiction
  · rename_i same
    cases same
    exact Nat.lt_succ_of_lt (Nat.lt_succ_self _)
  · rename_i same
    cases same
    split
    · exact Nat.lt_succ_self _
    · exact Nat.lt_succ_of_le shorter

/-- The lines of a text, each with its end. -/
def linesKept : List Char → List (List Char)
  | [] => []
  | c :: rest => (firstLine (c :: rest)).1 :: linesKept (firstLine (c :: rest)).2
termination_by text => text.length
decreasing_by exact firstLine_rest_lt c rest

end TypeSchema
