/-
**Splitting a text at a character.**

`splitAt` gives the pieces between the occurrences of a character, one more than there are
occurrences.
-/

namespace TypeSchema

/-- The pieces of a text between the occurrences of a character. -/
def splitAt (separator : Char) : List Char → List (List Char)
  | [] => [[]]
  | c :: rest =>
    if c = separator then [] :: splitAt separator rest
    else
      match splitAt separator rest with
      | [] => [[c]]
      | first :: more => (c :: first) :: more

end TypeSchema
