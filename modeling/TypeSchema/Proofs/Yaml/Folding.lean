/-
**Folded texts in single quotes.**

* `inside_foldLine`: a line is read as its words with the spaces between them, wherever it is folded;
* `inside_foldLines`: lines with the breaks between them. After a line that is not empty two breaks
  are written, and they count as one;
* `singleQuoted_reads`: **a text in single quotes reads back**, if it has only printable characters
  and line breaks, and no space beside a line break.
-/

import TypeSchema.Proofs.Text.Split
import TypeSchema.Proofs.Yaml.Quoted

namespace TypeSchema.Yaml

/-! ### Words -/

/-- A text in which each single quote is written twice. -/
def doubled (text : List Char) : List Char :=
  text.flatMap fun c => if c = '\'' then ['\'', '\''] else [c]

theorem doubled_eq_nil {text : List Char} : doubled text = [] ↔ text = [] := by
  cases text with
  | nil => simp [doubled]
  | cons c rest =>
    simp only [doubled, List.flatMap_cons]
    split <;> simp

/-- A character of a word: printable, and no space. -/
def IsWordChar (c : Char) : Prop := isPrintableAscii c = true ∧ c ≠ ' '

instance (c : Char) : Decidable (IsWordChar c) := inferInstanceAs (Decidable (_ ∧ _))

theorem IsWordChar.ink {c : Char} (isChar : IsWordChar c) : IsInk c :=
  isInk_of_isPrintableAscii isChar.1 isChar.2

/-- The characters of the words of a printable line. -/
theorem isWordChar_of_mem_splitAt {line : List Char}
    (printable : ∀ c ∈ line, isPrintableAscii c = true) :
    ∀ word ∈ splitAt ' ' line, ∀ c ∈ word, IsWordChar c := by
  intro word isWord c member
  have inside := mem_of_mem_splitAt isWord member
  exact ⟨printable c inside.1, inside.2⟩

/-- What is written for a word begins with ink. -/
theorem ink_doubled {word : List Char} (chars : ∀ c ∈ word, IsWordChar c) (nonempty : word ≠ [])
    (written : List Char) : ∃ c more, doubled word ++ written = c :: more ∧ IsInk c := by
  obtain ⟨c, rest, rfl⟩ := List.exists_cons_of_ne_nil nonempty
  have ink := (chars c List.mem_cons_self).ink
  by_cases quote : c = '\''
  · subst quote
    exact ⟨'\'', '\'' :: (doubled rest ++ written), rfl, ink⟩
  · refine ⟨c, doubled rest ++ written, ?_, ink⟩
    simp [doubled, quote]

/-- Folded words begin with the first one. -/
theorem exists_foldWords (column : Nat) (word : List Char) (more : List (List Char)) :
    ∃ after, foldWords column (word :: more) = word ++ after := by
  cases more with
  | nil => exact ⟨[], (List.append_nil _).symm⟩
  | cons next rest =>
    unfold foldWords
    split
    · exact ⟨_, List.append_assoc _ _ _⟩
    · exact ⟨_, rfl⟩

/-- What is written for words begins with ink if the first one is not empty. -/
theorem ink_foldWords {word : List Char} (chars : ∀ c ∈ word, IsWordChar c) (nonempty : word ≠ [])
    (column : Nat) (more : List (List Char)) (written : List Char) :
    ∃ c others, foldWords column ((word :: more).map doubled) ++ written = c :: others ∧
      IsInk c := by
  obtain ⟨after, front⟩ := exists_foldWords column (doubled word) (more.map doubled)
  rw [List.map_cons, front, List.append_assoc]
  exact ink_doubled chars nonempty _

section Words

variable {written text rest : List Char}

theorem inside_word {word : List Char} (chars : ∀ c ∈ word, IsWordChar c)
    (inside : Inside false written text rest) :
    Inside false (doubled word ++ written) (word ++ text) rest := by
  induction word with
  | nil => exact inside
  | cons c word ih =>
    rw [List.forall_mem_cons] at chars
    have more := ih chars.2
    by_cases quote : c = '\''
    · subst quote
      exact .quote rfl more
    · have single : doubled (c :: word) = c :: doubled word := by simp [doubled, quote]
      rw [single]
      exact .char ⟨chars.1.ink, quote, nofun⟩ more

/-- A fold in front of a text counts as a space. -/
theorem inside_fold (ink : ∃ c more, written = c :: more ∧ IsInk c)
    (inside : Inside false written text rest) :
    Inside false (continuation ++ written) (' ' :: text) rest :=
  .line (spaces_line (breaks_indented ink)) (Nat.le_add_right _ 2) inside

variable {words : List (List Char)}

/-- Words are followed by something solid if the last one is not empty. -/
theorem solid_foldWords (chars : ∀ word ∈ words, ∀ c ∈ word, IsWordChar c) (some_ : words ≠ [])
    (ends : words.getLast? ≠ some [] ∨ Solid written) (column : Nat) :
    Solid (foldWords column (words.map doubled) ++ written) := by
  induction words generalizing column with
  | nil => exact absurd rfl some_
  | cons word more ih =>
    rw [List.forall_mem_cons] at chars
    by_cases empty : word = []
    · subst empty
      cases more with
      | nil => exact ends.resolve_left (fun last => last rfl)
      | cons next rest => exact solid_cons_space (ih chars.2 (List.cons_ne_nil _ _) ends _)
    · obtain ⟨c, others, here, ink⟩ := ink_foldWords chars.1 empty column more written
      rw [here]
      exact solid_cons_ink ink others

theorem inside_foldWords (chars : ∀ word ∈ words, ∀ c ∈ word, IsWordChar c)
    (ends : words.getLast? ≠ some [] ∨ Solid written) (inside : Inside false written text rest)
    (column : Nat) :
    Inside false (foldWords column (words.map doubled) ++ written) (joined ' ' words ++ text)
      rest := by
  induction words generalizing column with
  | nil => exact inside
  | cons word more ih =>
    rw [List.forall_mem_cons] at chars
    cases more with
    | nil => exact inside_word chars.1 inside
    | cons next others =>
      have later := ih chars.2 ends
      simp only [List.map_cons, foldWords, joined]
      split
      next fold =>
        rw [List.append_assoc, List.append_assoc, List.append_assoc]
        have nonempty : next ≠ [] := fun empty => fold.2.1 (doubled_eq_nil.mpr empty)
        exact inside_word chars.1
          (inside_fold (ink_foldWords (List.forall_mem_cons.mp chars.2).1 nonempty 2 others _)
            (later 2))
      next =>
        rw [List.append_assoc, List.append_assoc]
        exact inside_word chars.1
          (.space (solid_foldWords chars.2 (List.cons_ne_nil _ _) ends _) (later _))

end Words

/-! ### Lines -/

/-- Two lines that follow each other have no space at their common break. -/
def Apart (line next : List Char) : Prop := line.getLast? ≠ some ' ' ∧ next.head? ≠ some ' '

theorem hasSpaceAtBreak_cons {c : Char} {rest : List Char}
    (none_ : hasSpaceAtBreak (c :: rest) = false) :
    hasSpaceAtBreak rest = false ∧ ¬(c = ' ' ∧ rest.head? = some '\n') ∧
      ¬(c = '\n' ∧ rest.head? = some ' ') := by
  unfold hasSpaceAtBreak at none_
  split at none_
  · cases none_
  · cases none_
  next first second third =>
    cases third
    refine ⟨none_, ?_, ?_⟩
    · rintro ⟨rfl, head⟩
      obtain ⟨more, rfl⟩ := List.head?_eq_some_iff.mp head
      exact first _ rfl rfl
    · rintro ⟨rfl, head⟩
      obtain ⟨more, rfl⟩ := List.head?_eq_some_iff.mp head
      exact second _ rfl rfl
  next empty => cases empty

/-- The lines of a text without a space beside a line break. -/
theorem isChain_apart {text : List Char} (none_ : hasSpaceAtBreak text = false) :
    (splitAt '\n' text).IsChain Apart := by
  induction text with
  | nil => exact .singleton _
  | cons c rest ih =>
    obtain ⟨later, atEnd, atStart⟩ := hasSpaceAtBreak_cons none_
    have chain := ih later
    have whole := joined_splitAt '\n' rest
    obtain ⟨first, more, pieces⟩ := exists_splitAt '\n' rest
    rw [pieces] at chain whole
    by_cases isBreak : c = '\n'
    · subst isBreak
      rw [splitAt_separator, pieces, List.isChain_cons_cons]
      refine ⟨⟨nofun, fun space => ?_⟩, chain⟩
      obtain ⟨others, rfl⟩ := List.head?_eq_some_iff.mp space
      rw [joined_cons_cons] at whole
      exact atStart ⟨rfl, by rw [← whole]; rfl⟩
    · rw [splitAt_cons isBreak pieces]
      cases more with
      | nil => exact .singleton _
      | cons next others =>
        rw [List.isChain_cons_cons] at chain ⊢
        refine ⟨⟨?_, chain.1.2⟩, chain.2⟩
        cases first with
        | nil =>
          intro space
          refine atEnd ⟨by simpa using space, ?_⟩
          rw [← whole]
          rfl
        | cons d first =>
          rw [List.getLast?_cons_cons]
          exact chain.1.1

section Lines

variable {rest : List Char}

/-- **A line is read as it is**, if a space at its end is followed by something solid. -/
theorem inside_foldLine {line : List Char} (printable : ∀ c ∈ line, isPrintableAscii c = true)
    {written text : List Char} (ends : line.getLast? ≠ some ' ' ∨ Solid written)
    (inside : Inside false written text rest) (column : Nat) :
    Inside false (foldLine column (doubled line) ++ written) (line ++ text) rest := by
  by_cases empty : line = []
  · subst empty
    exact inside
  have pieces : splitAt ' ' (doubled line) = (splitAt ' ' line).map doubled := by
    refine splitAt_flatMap (by decide) (fun c other => ?_) line
    split
    · decide
    · simpa using other.symm
  have read := inside_foldWords (isWordChar_of_mem_splitAt printable)
    (ends.imp_left (getLast?_splitAt empty)) inside column
  unfold foldLine
  rw [pieces]
  rwa [joined_splitAt] at read

/-- A folded line begins like the line. -/
theorem exists_foldLine {front : List Char} (noSpace : ' ' ∉ front) (more : List Char)
    (column : Nat) : ∃ after, foldLine column (front ++ more) = front ++ after := by
  obtain ⟨first, others, pieces⟩ := exists_splitAt ' ' more
  obtain ⟨after, begins⟩ := exists_foldWords column (front ++ first) others
  exact ⟨first ++ after, by rw [foldLine, splitAt_append noSpace pieces, begins, List.append_assoc]⟩

/-- What stands after a line break reads as more breaks and a text. -/
def AfterBreak (written text rest : List Char) : Prop :=
  ∃ breaks after more, GivesWithin quotedBreaks written breaks after ∧
    after.length ≤ written.length ∧ Inside false after more rest ∧ text = breaks ++ more

variable {written text : List Char}

theorem AfterBreak.line (after : AfterBreak written text rest) :
    AfterBreak ('\n' :: written) ('\n' :: text) rest := by
  obtain ⟨breaks, place, more, read, shorter, inside, rfl⟩ := after
  exact ⟨'\n' :: breaks, place, more, breaks_line read, Nat.le_succ_of_le shorter, inside, rfl⟩

theorem AfterBreak.indented (ink : ∃ c more, written = c :: more ∧ IsInk c)
    (inside : Inside false written text rest) : AfterBreak (' ' :: ' ' :: written) text rest :=
  ⟨[], written, text, breaks_indented ink, Nat.le_add_right _ 2, inside, rfl⟩

/-- Two line breaks count as one. -/
theorem inside_break (after : AfterBreak written text rest) :
    Inside false ('\n' :: '\n' :: written) ('\n' :: text) rest := by
  obtain ⟨breaks, place, more, read, shorter, inside, rfl⟩ := after
  exact .line (spaces_line (breaks_line read)) (Nat.le_succ_of_le shorter) inside

/-- The lines after the first one, with the indentation that comes before a line with text and
before the last line. -/
def laterLines : List (List Char) → List Char
  | [] => []
  | next :: rest =>
    (if next ≠ [] ∨ rest = [] then [' ', ' '] else []) ++ foldLines false 2 (next :: rest)

theorem foldLines_cons_cons (first : Bool) (column : Nat) (line next : List Char)
    (rest : List (List Char)) :
    foldLines first column (line :: next :: rest) = foldLine column line ++
      ((if first ∨ line ≠ [] then ['\n', '\n'] else ['\n']) ++ laterLines (next :: rest)) := by
  rw [foldLines, laterLines, List.append_assoc, List.append_assoc]

/-- What is written for lines begins with ink, if it is not a space that the first one begins with
and the first one is not empty. -/
theorem ink_foldLines {c : Char} (isChar : IsWordChar c) (line : List Char)
    (more : List (List Char)) (first : Bool) (column : Nat) (written : List Char) :
    ∃ d others, foldLines first column (((c :: line) :: more).map doubled) ++ written =
      d :: others ∧ IsInk d := by
  have begins : ∃ others, doubled (c :: line) = c :: others := by
    by_cases quote : c = '\''
    · subst quote
      exact ⟨_, rfl⟩
    · exact ⟨doubled line, by simp [doubled, quote]⟩
  obtain ⟨others, begins⟩ := begins
  have noSpace : ' ' ∉ [c] := fun member => isChar.2 (List.mem_singleton.mp member).symm
  obtain ⟨after, front⟩ : ∃ after, foldLine column (c :: others) = c :: after :=
    exists_foldLine noSpace others column
  rw [List.map_cons, begins]
  cases more with
  | nil => exact ⟨c, _, by rw [List.map_nil, foldLines, front]; rfl, isChar.ink⟩
  | cons next rest =>
    exact ⟨c, _, by rw [List.map_cons, foldLines_cons_cons, front]; rfl, isChar.ink⟩

variable {lines : List (List Char)}

/-- **Lines are read with the breaks between them**: in front of the closing quote, and after a
line break. -/
theorem inside_foldLines (printable : ∀ line ∈ lines, ∀ c ∈ line, isPrintableAscii c = true)
    (apart : lines.IsChain Apart) (single : rest.head? ≠ some '\'') :
    (∀ first column, first = true ∨ lines.head? ≠ some [] ∨ lines.length = 1 →
      Inside false (foldLines first column (lines.map doubled) ++ '\'' :: rest)
        (joined '\n' lines) rest) ∧
    (lines.head?.bind List.head? ≠ some ' ' → lines ≠ [] →
      AfterBreak (laterLines (lines.map doubled) ++ '\'' :: rest) (joined '\n' lines) rest) := by
  have closed : Inside false ('\'' :: rest) [] rest := .close rfl fun _ => single
  have quoteInk : IsInk '\'' := by decide
  induction lines with
  | nil => exact ⟨fun _ _ _ => closed, fun _ some_ => absurd rfl some_⟩
  | cons line more ih =>
    rw [List.forall_mem_cons] at printable
    have whole : ∀ first column, first = true ∨ (line :: more).head? ≠ some [] ∨
        (line :: more).length = 1 →
        Inside false (foldLines first column ((line :: more).map doubled) ++ '\'' :: rest)
          (joined '\n' (line :: more)) rest := by
      intro first column opens
      cases more with
      | nil =>
        have read := inside_foldLine printable.1 (.inr (solid_cons_ink quoteInk rest)) closed column
        rwa [List.append_nil] at read
      | cons next others =>
        rw [List.isChain_cons_cons] at apart
        have after := (ih printable.2 apart.2).2 apart.1.2 nofun
        have twice : first = true ∨ doubled line ≠ [] := by
          refine opens.imp_right fun others empty => ?_
          rw [doubled_eq_nil.mp empty] at others
          simp at others
        rw [List.map_cons, List.map_cons, foldLines_cons_cons, if_pos twice, joined,
          List.append_assoc]
        exact inside_foldLine printable.1 (.inl apart.1.1) (inside_break after) column
    refine ⟨whole, fun noSpace _ => ?_⟩
    by_cases indented : line ≠ [] ∨ more = []
    · have written : laterLines ((line :: more).map doubled) =
          ' ' :: ' ' :: foldLines false 2 ((line :: more).map doubled) := by
        rw [List.map_cons, laterLines, if_pos (indented.imp (mt doubled_eq_nil.mp) (by simp [·]))]
        rfl
      rw [written]
      refine .indented ?_ (whole false 2 ?_)
      · cases line with
        | nil =>
          rw [indented.resolve_left (fun empty => empty rfl)]
          exact ⟨_, _, rfl, quoteInk⟩
        | cons c line =>
          have isChar : IsWordChar c :=
            ⟨printable.1 c List.mem_cons_self, fun space => noSpace (by rw [space]; rfl)⟩
          exact ink_foldLines isChar line more false 2 _
      · refine .inr (indented.imp (by simp) (by simp [·]))
    · rw [not_or, not_not] at indented
      obtain ⟨rfl, some_⟩ := indented
      obtain ⟨next, others, rfl⟩ := List.exists_cons_of_ne_nil some_
      rw [List.isChain_cons_cons] at apart
      exact .line ((ih printable.2 apart.2).2 apart.1.2 nofun)

end Lines

/-- **A text in single quotes reads back**, if it has only printable characters and line breaks, and
no space beside a line break. -/
theorem singleQuoted_reads {text : List Char} (simple : needsEscapes text = false) (column : Nat)
    {rest : List Char} (single : rest.head? ≠ some '\'') :
    Gives (quotedScalar false) (singleQuoted column text ++ rest) text rest := by
  obtain ⟨chars, noSpace⟩ := Bool.or_eq_false_iff.mp simple
  have printable : ∀ line ∈ splitAt '\n' text, ∀ c ∈ line, isPrintableAscii c = true := by
    intro line isLine c member
    have inside := mem_of_mem_splitAt isLine member
    have clean := List.any_eq_false.mp chars c inside.1
    simpa [inside.2] using clean
  have pieces : splitAt '\n' (doubled text) = (splitAt '\n' text).map doubled := by
    refine splitAt_flatMap (by decide) (fun c other => ?_) text
    split
    · decide
    · simpa using other.symm
  have read := ((inside_foldLines printable (isChain_apart noSpace) single).1 true (column + 1)
    (.inl rfl)).scalar
  rw [joined_splitAt, ← pieces] at read
  have written : singleQuoted column text ++ rest =
      '\'' :: (foldLines true (column + 1) (splitAt '\n' (doubled text)) ++ '\'' :: rest) := by
    rw [singleQuoted, List.append_assoc]
    rfl
  rw [written]
  exact read

end TypeSchema.Yaml
