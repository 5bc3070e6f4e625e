/-
**Line ends of files.**

`unixLines` reads every carriage return, with or without a line feed after it, as one line feed.
-/

namespace TypeSchema

/-- A text with line feeds as its only line ends. -/
def unixLines : List Char → List Char
  | [] => []
  | '\r' :: '\n' :: rest => '\n' :: unixLines rest
  | '\r' :: rest => '\n' :: unixLines rest
  | c :: rest => c :: unixLines rest

end TypeSchema
