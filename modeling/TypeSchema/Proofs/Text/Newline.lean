/-
**Line ends.**

* `unixLines_of_noReturn`: a text without carriage returns stays as it is;
* `unixLines_append`, `unixLines_append_of_head`: the line ends of two texts one after the other.
-/

import TypeSchema.Text.Newline

namespace TypeSchema

theorem unixLines_cons {c : Char} (other : c ≠ '\r') (rest : List Char) :
    unixLines (c :: rest) = c :: unixLines rest := by
  rw [unixLines]
  · rintro _ rfl
    exact absurd rfl other
  · exact other

theorem unixLines_append {front : List Char} (noReturn : '\r' ∉ front) (back : List Char) :
    unixLines (front ++ back) = front ++ unixLines back := by
  induction front with
  | nil => rfl
  | cons c rest ih =>
    obtain ⟨other, later⟩ := not_or.mp (mt List.mem_cons.mpr noReturn)
    rw [List.cons_append, unixLines_cons (Ne.symm other), ih later]
    rfl

/-- Line ends do not reach into what begins with something else than a line feed. -/
theorem unixLines_append_of_head {back : List Char} (noFeed : back.head? ≠ some '\n')
    (front : List Char) : unixLines (front ++ back) = unixLines front ++ unixLines back := by
  fun_induction unixLines front with
  | case1 => rfl
  | case2 rest ih => simp only [List.cons_append, unixLines, ih]
  | case3 rest noPair ih =>
    have noPair' : ∀ more, rest ++ back ≠ '\n' :: more := by
      cases rest with
      | nil =>
        rintro more same
        exact noFeed (congrArg List.head? same)
      | cons c rest =>
        rintro more same
        obtain ⟨rfl, -⟩ := List.cons.inj same
        exact noPair rest rfl
    rw [List.cons_append, unixLines, ih]
    · rfl
    · exact noPair'
  | case4 c rest _ other ih =>
    rw [List.cons_append, unixLines_cons other, ih]
    rfl

theorem unixLines_of_noReturn {text : List Char} (noReturn : '\r' ∉ text) :
    unixLines text = text := by
  have whole := unixLines_append noReturn []
  rwa [List.append_nil, unixLines, List.append_nil] at whole

end TypeSchema
