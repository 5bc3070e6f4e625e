/-
**Pieces of a text.**

* `joined`: pieces with a character between them;
* `joined_splitAt`: a text is its pieces joined again;
* `splitAt_flatMap`: a change of single characters that keeps the separators is made in each piece.
-/

import TypeSchema.Text.Split

namespace TypeSchema

/-- Pieces with a character between them. -/
def joined (separator : Char) : List (List Char) → List Char
  | [] => []
  | [piece] => piece
  | piece :: next :: rest => piece ++ separator :: joined separator (next :: rest)

variable {separator : Char}

theorem splitAt_ne_nil (separator : Char) (text : List Char) : splitAt separator text ≠ [] := by
  cases text with
  | nil => simp [splitAt]
  | cons c rest =>
    unfold splitAt
    split
    · simp
    · split <;> simp

theorem exists_splitAt (separator : Char) (text : List Char) :
    ∃ first more, splitAt separator text = first :: more :=
  List.exists_cons_of_ne_nil (splitAt_ne_nil separator text)

theorem splitAt_separator (rest : List Char) :
    splitAt separator (separator :: rest) = [] :: splitAt separator rest := by
  rw [splitAt, if_pos rfl]

theorem splitAt_cons {c : Char} (other : c ≠ separator) {rest first : List Char}
    {more : List (List Char)} (pieces : splitAt separator rest = first :: more) :
    splitAt separator (c :: rest) = (c :: first) :: more := by
  rw [splitAt, if_neg other, pieces]

theorem joined_cons_cons (c : Char) (first : List Char) (more : List (List Char)) :
    joined separator ((c :: first) :: more) = c :: joined separator (first :: more) := by
  cases more with
  | nil => rfl
  | cons next rest => rfl

/-- **A text is its pieces joined again.** -/
theorem joined_splitAt (separator : Char) (text : List Char) :
    joined separator (splitAt separator text) = text := by
  induction text with
  | nil => rfl
  | cons c rest ih =>
    obtain ⟨first, more, pieces⟩ := exists_splitAt separator rest
    rw [pieces] at ih
    by_cases same : c = separator
    · subst same
      rw [splitAt_separator, pieces, joined, ih]
      rfl
    · rw [splitAt_cons same pieces, joined_cons_cons, ih]

/-- The characters of a piece are those of the text, without the separator. -/
theorem mem_of_mem_splitAt {text piece : List Char} (isPiece : piece ∈ splitAt separator text)
    {c : Char} (member : c ∈ piece) : c ∈ text ∧ c ≠ separator := by
  induction text generalizing piece with
  | nil =>
    cases List.mem_singleton.mp isPiece
    cases member
  | cons d rest ih =>
    obtain ⟨first, more, pieces⟩ := exists_splitAt separator rest
    rw [pieces] at ih
    by_cases same : d = separator
    · subst same
      rw [splitAt_separator, pieces] at isPiece
      obtain rfl | others := List.mem_cons.mp isPiece
      · cases member
      · exact ⟨List.mem_cons_of_mem _ (ih others member).1, (ih others member).2⟩
    · rw [splitAt_cons same pieces] at isPiece
      obtain rfl | others := List.mem_cons.mp isPiece
      · obtain rfl | later := List.mem_cons.mp member
        · exact ⟨List.mem_cons_self, same⟩
        · have inside := ih List.mem_cons_self later
          exact ⟨List.mem_cons_of_mem _ inside.1, inside.2⟩
      · have inside := ih (List.mem_cons_of_mem _ others) member
        exact ⟨List.mem_cons_of_mem _ inside.1, inside.2⟩

/-- The last piece is not empty if the text does not end with the separator. -/
theorem getLast?_splitAt {text : List Char} (nonempty : text ≠ [])
    (ends : text.getLast? ≠ some separator) : (splitAt separator text).getLast? ≠ some [] := by
  induction text with
  | nil => exact absurd rfl nonempty
  | cons c rest ih =>
    cases rest with
    | nil =>
      have other : c ≠ separator := by
        rintro rfl
        exact ends rfl
      simp [splitAt, other]
    | cons d rest =>
      rw [List.getLast?_cons_cons] at ends
      have later := ih nofun ends
      obtain ⟨first, more, pieces⟩ := exists_splitAt separator (d :: rest)
      rw [pieces] at later
      by_cases same : c = separator
      · subst same
        rw [splitAt_separator, pieces, List.getLast?_cons_cons]
        exact later
      · rw [splitAt_cons same pieces]
        cases more with
        | nil => simp
        | cons next others =>
          rw [List.getLast?_cons_cons] at later ⊢
          exact later

theorem splitAt_append {front : List Char} (other : separator ∉ front) {rest first : List Char}
    {more : List (List Char)} (pieces : splitAt separator rest = first :: more) :
    splitAt separator (front ++ rest) = (front ++ first) :: more := by
  induction front with
  | nil => exact pieces
  | cons c front ih =>
    rw [List.mem_cons, not_or] at other
    exact splitAt_cons (Ne.symm other.1) (ih other.2)

/-- **A change of single characters that keeps the separators is made in each piece.** -/
theorem splitAt_flatMap {change : Char → List Char} (kept : change separator = [separator])
    (others : ∀ c, c ≠ separator → separator ∉ change c) (text : List Char) :
    splitAt separator (text.flatMap change) =
      (splitAt separator text).map fun piece => piece.flatMap change := by
  induction text with
  | nil => rfl
  | cons c rest ih =>
    obtain ⟨first, more, pieces⟩ := exists_splitAt separator rest
    rw [List.flatMap_cons]
    by_cases same : c = separator
    · subst same
      rw [kept, List.singleton_append, splitAt_separator, splitAt_separator, ih]
      rfl
    · rw [pieces, List.map_cons] at ih
      rw [splitAt_append (others c same) ih, splitAt_cons same pieces]
      rfl

end TypeSchema
