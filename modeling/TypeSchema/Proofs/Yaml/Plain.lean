/-
**Plain scalars read back.**

* `IsPlainWord`: a word that a plain scalar may have: it neither begins a comment nor ends with a
  colon;
* `Spaced`: a text and what may be written for it: words with spaces between them, where a space
  alone may be a fold;
* `plainScalar_spaced`: **a plain scalar is read as its text**, up to the end of its last line;
* `spaced_foldLine`: **a plain text is written like that**, wherever it is folded.
-/

import TypeSchema.Proofs.Yaml.Folding

namespace TypeSchema.Yaml

/-! ### Words -/

/-- A word of a plain scalar. -/
structure IsPlainWord (word : List Char) : Prop where
  nonempty : word ≠ []
  chars : ∀ c ∈ word, IsWordChar c
  noComment : word.head? ≠ some '#'
  noColon : word.getLast? ≠ some ':'

theorem isBlankOrEnd_ink {c : Char} (ink : IsInk c) : isBlankOrEnd (some c) = false := by
  simp [isBlankOrEnd, ink.1, ink.2]

/-- A run takes a word up to where it may stop. -/
theorem plainRun_append {word : List Char} (chars : ∀ c ∈ word, IsWordChar c)
    (noColon : word.getLast? ≠ some ':') {rest : List Char} (stops : plainRun false rest = []) :
    plainRun false (word ++ rest) = word := by
  induction word with
  | nil => exact stops
  | cons c word ih =>
    rw [List.forall_mem_cons] at chars
    have later : plainRun false (word ++ rest) = word := by
      cases word with
      | nil => exact stops
      | cons d word => exact ih chars.2 (by rwa [List.getLast?_cons_cons] at noColon)
    have goesOn : endsPlain false c (word ++ rest).head? = false := by
      have noColonHere : c = ':' → isBlankOrEnd (word ++ rest).head? = false := by
        rintro rfl
        cases word with
        | nil => exact absurd rfl noColon
        | cons d word => exact isBlankOrEnd_ink (chars.2 d List.mem_cons_self).ink
      have ink := chars.1.ink
      simpa [endsPlain, ink.1, ink.2] using noColonHere
    rw [List.cons_append, plainRun, goesOn, later]
    rfl

/-- White space ends a run. -/
theorem plainRun_blank {c : Char} (blank : isGap c = true ∨ isBreak c = true) (rest : List Char) :
    plainRun false (c :: rest) = [] := by
  rw [plainRun, if_pos]
  obtain gap | lineBreak := blank <;> simp [endsPlain, *]

/-! ### Between the words -/

/-- The beginning of a line that goes on with nothing or with a new entry. -/
def StartsLine (rest : List Char) : Prop :=
  ∀ c ∈ rest.head?, IsWordChar c ∧ c ≠ '#' ∧ c ≠ '-' ∧ c ≠ '.'

theorem startsLine_noMark {cursor : Cursor} (starts : StartsLine cursor.rest) :
    cursor.atSeparator = false := by
  unfold Cursor.atSeparator
  cases here : cursor.rest with
  | nil => rfl
  | cons c rest =>
    obtain ⟨-, -, noDash, noDot⟩ := starts c (by rw [here]; rfl)
    simp [noDash.symm, noDot.symm]

section Spaces

variable {rest : List Char} (index line column : Nat)

theorem plainSpaces_run (count : Nat) {c : Char} (ink : IsInk c) :
    plainSpaces ⟨List.replicate count ' ' ++ c :: rest, index, line, column⟩ =
      (List.replicate count ' ', ⟨c :: rest, index + count, line, column + count⟩, false) := by
  have visible : c ≠ ' ' := by
    rintro rfl
    exact absurd ink.1 (by decide)
  have spaces : ∀ d ∈ List.replicate count ' ', (d == ' ') = true := fun d member => by
    rw [List.eq_of_mem_replicate member]
    rfl
  have moved := Cursor.advance_spaces count (c :: rest) index line column
  unfold plainSpaces
  rw [Cursor.takeWhile_append _ (c :: rest) spaces (by simpa using visible) rfl,
    List.length_replicate, moved]
  simp [Cursor.peek, ink.2]

/-- A line ends: the next text counts as one space away. -/
theorem plainSpaces_break (count : Nat) (starts : ∀ c ∈ rest.head?, IsInk c)
    (noMark : Cursor.atSeparator
      ⟨List.replicate count ' ' ++ rest, index + 1, line + 1, 0⟩ = false) :
    plainSpaces ⟨'\n' :: (List.replicate count ' ' ++ rest), index, line, column⟩ =
      ([' '], ⟨rest, index + 1 + count, line + 1, count⟩, true) := by
  have none_ : (Cursor.mk ('\n' :: (List.replicate count ' ' ++ rest)) index line column).takeWhile
      (· == ' ') = ([], ⟨'\n' :: (List.replicate count ' ' ++ rest), index, line, column⟩) :=
    Cursor.takeWhile_nothing rfl
  have spaces : ∀ d ∈ List.replicate count ' ', (d == ' ') = true := fun d member => by
    rw [List.eq_of_mem_replicate member]
    rfl
  have visible : rest.head?.any (· == ' ') = false := by
    cases rest with
    | nil => rfl
    | cons c rest =>
      have ink := starts c rfl
      simp only [isGap, IsInk, Bool.or_eq_false_iff] at ink
      simpa using ink.1.1
  have noBreak : rest.head?.any isBreak = false := by
    cases rest with
    | nil => rfl
    | cons c rest => simpa using (starts c rfl).2
  have moved := Cursor.advance_spaces count rest (index + 1) (line + 1) 0
  rw [Nat.zero_add] at moved
  have skipped : (Cursor.mk (List.replicate count ' ' ++ rest) (index + 1) (line + 1) 0).skipSpaces =
      ⟨rest, index + 1 + count, line + 1, count⟩ := by
    unfold Cursor.skipSpaces Cursor.skipWhile
    rw [Cursor.takeWhile_append _ rest spaces visible rfl, List.length_replicate, moved]
  unfold plainSpaces
  rw [none_]
  simp only [Cursor.peek, List.head?_cons, Option.any_some, isBreak, Cursor.takeBreak_lineFeed,
    noMark, beq_self_eq_true, Bool.true_or, if_true, Bool.false_eq_true, if_false, Cursor.bound,
    plainBreaks, skipped, noBreak]
  rfl

theorem plainSpaces_lineEnd (starts : StartsLine rest) {cursor : Cursor}
    (here : cursor.rest = '\n' :: rest) :
    ∃ place, plainSpaces cursor = ([' '], place, true) ∧ place.rest = rest ∧ place.column = 0 := by
  obtain ⟨_, index, line, column⟩ := cursor
  cases here
  exact ⟨_, plainSpaces_break index line column 0 (fun c head => (starts c head).1.ink)
    (startsLine_noMark starts), rfl, rfl⟩

/-- What may be written for the spaces between two words: themselves, or a fold for a space that
stands alone. -/
inductive Between : List Char → List Char → Prop
  | spaces (count : Nat) : Between (List.replicate (count + 1) ' ') (List.replicate (count + 1) ' ')
  | fold : Between [' '] continuation

variable {gap between : List Char}

theorem Between.stops (isGap : Between gap between) (rest : List Char) :
    plainRun false (between ++ rest) = [] := by
  cases isGap with
  | spaces count => exact plainRun_blank (.inl rfl) _
  | fold => exact plainRun_blank (.inr rfl) _

theorem Between.ne_nil (isGap : Between gap between) : gap ≠ [] := by
  cases isGap <;> exact List.cons_ne_nil _ _

/-- **What stands between two words is read as their spaces**; the next word is indented. -/
theorem Between.read (isGap : Between gap between) {c : Char} (ink : IsInk c) (rest : List Char)
    {cursor : Cursor} (here : cursor.rest = between ++ c :: rest) :
    ∃ place lineEnded, plainSpaces cursor = (gap, place, lineEnded) ∧ place.rest = c :: rest ∧
      0 < place.column := by
  obtain ⟨written, index, line, column⟩ := cursor
  cases isGap with
  | spaces count =>
    cases here
    exact ⟨_, _, plainSpaces_run index line column (count + 1) ink, rfl, Nat.succ_pos _⟩
  | fold =>
    cases here
    have starts : ∀ d ∈ (c :: rest).head?, IsInk d := by
      intro d head
      cases head
      exact ink
    exact ⟨_, _, plainSpaces_break index line column 2 starts rfl, rfl, Nat.succ_pos 1⟩

end Spaces

/-! ### Whole scalars -/

/-- A text and what is written for it, word by word. -/
inductive Spaced : List Char → List Char → Prop
  | word {word : List Char} (isWord : IsPlainWord word) : Spaced word word
  | more {word gap between text written : List Char} (isWord : IsPlainWord word)
      (isGap : Between gap between) (more : Spaced text written) :
      Spaced (word ++ (gap ++ text)) (word ++ (between ++ written))

theorem IsPlainWord.exists_cons {word : List Char} (isWord : IsPlainWord word) :
    ∃ c rest, word = c :: rest ∧ IsInk c ∧ c ≠ '#' := by
  obtain ⟨c, rest, rfl⟩ := List.exists_cons_of_ne_nil isWord.nonempty
  exact ⟨c, rest, rfl, (isWord.chars c List.mem_cons_self).ink, fun comment =>
    isWord.noComment (by rw [comment]; rfl)⟩

/-- What is written begins with ink that begins no comment. -/
theorem Spaced.exists_cons {text written : List Char} (spaced : Spaced text written) :
    ∃ c rest, written = c :: rest ∧ IsInk c ∧ c ≠ '#' := by
  cases spaced with
  | word isWord => exact isWord.exists_cons
  | more isWord isGap more =>
    obtain ⟨c, rest, rfl, ink⟩ := isWord.exists_cons
    exact ⟨c, _, rfl, ink⟩

/-- One word of a plain scalar, and the spaces after it. -/
theorem plainRest_word {word after : List Char} (isWord : IsPlainWord word)
    (stops : plainRun false after = []) (indent : Int) (fuel : Nat) (gap text : List Char)
    {cursor : Cursor} (here : cursor.rest = word ++ after) (ended : Bool) {spaces : List Char}
    {place : Cursor} {lineEnded : Bool}
    (read : plainSpaces (cursor.advance word.length) = (spaces, place, lineEnded)) :
    plainRest false indent (fuel + 1) gap ⟨text, cursor, ended⟩ =
      if spaces = [] ∨ place.peek = some '#' ∨ place.column < indent then
        ⟨text ++ gap ++ word, place, lineEnded⟩
      else plainRest false indent fuel spaces ⟨text ++ gap ++ word, place, lineEnded⟩ := by
  have run := plainRun_append isWord.chars isWord.noColon stops
  obtain ⟨c, more, begins, -, noComment⟩ := isWord.exists_cons
  have first : cursor.peek ≠ some '#' := by
    rw [Cursor.peek, here, begins]
    simpa using noComment
  rw [plainRest]
  dsimp only
  rw [here, run, if_neg (by simp [first, isWord.nonempty]), read]
  simp

/-- **A plain scalar is read as its text**, up to the end of its last line. -/
theorem plainRest_spaced {text written rest : List Char} (spaced : Spaced text written)
    (starts : StartsLine rest) {fuel : Nat} (enough : written.length < fuel)
    (gap front : List Char) {cursor : Cursor} (here : cursor.rest = written ++ '\n' :: rest)
    (ended : Bool) :
    ∃ place, plainRest false 1 fuel gap ⟨front, cursor, ended⟩ =
      ⟨front ++ gap ++ text, place, true⟩ ∧ place.rest = rest ∧ place.column = 0 := by
  induction spaced generalizing fuel gap front cursor ended with
  | @word word isWord =>
    obtain ⟨fuel, rfl⟩ := Nat.exists_eq_add_of_lt enough
    have after : (cursor.advance word.length).rest = '\n' :: rest := by
      rw [Cursor.rest_advance, here, List.drop_left]
    obtain ⟨place, read, left, column⟩ := plainSpaces_lineEnd starts after
    have ends : (place.column : Int) < 1 := by rw [column]; decide
    rw [plainRest_word isWord (plainRun_blank (.inr rfl) rest) 1 _ gap front here ended read,
      if_pos (.inr (.inr ends))]
    exact ⟨place, rfl, left, column⟩
  | @more word gap' between text written isWord isGap more ih =>
    obtain ⟨fuel, rfl⟩ := Nat.exists_eq_succ_of_ne_zero (Nat.ne_of_gt (Nat.zero_lt_of_lt enough))
    obtain ⟨c, after, rfl, ink, noComment⟩ := more.exists_cons
    have size : (c :: after).length < fuel := by
      have := List.length_pos_iff.mpr isWord.nonempty
      simp only [List.length_append] at enough
      omega
    rw [List.append_assoc, List.append_assoc] at here
    have others : (cursor.advance word.length).rest = between ++ c :: (after ++ '\n' :: rest) := by
      rw [Cursor.rest_advance, here, List.drop_left]
      rfl
    obtain ⟨place, lineEnded, read, left, indented⟩ := isGap.read ink _ others
    obtain ⟨last, goesOn, ends⟩ := ih size gap' (front ++ gap ++ word) left lineEnded
    have noEnd : ¬(gap' = [] ∨ place.peek = some '#' ∨ (place.column : Int) < 1) := by
      rw [Cursor.peek, left]
      simp [isGap.ne_nil, noComment]
      omega
    refine ⟨last, ?_, ends⟩
    rw [plainRest_word isWord (isGap.stops _) 1 fuel gap front here ended read, if_neg noEnd, goesOn]
    simp only [List.append_assoc]

/-- **The plain scalar at a place is read as its text**, up to the end of its last line. -/
theorem plainScalar_spaced {text written rest : List Char} (spaced : Spaced text written)
    (starts : StartsLine rest) {cursor : Cursor} (here : cursor.rest = written ++ '\n' :: rest) :
    ∃ place, plainScalar false 1 cursor = ⟨text, place, true⟩ ∧ place.rest = rest ∧
      place.column = 0 :=
  plainRest_spaced spaced starts (by rw [Cursor.bound, here]; simp; omega) [] [] here false

/-- A word in front of a colon is read as a plain scalar that ends on its line. -/
theorem plainScalar_name {name : List Char} (isWord : IsPlainWord name) (indent : Int)
    {rest : List Char} {cursor : Cursor} (here : cursor.rest = name ++ ':' :: ' ' :: rest) :
    plainScalar false indent cursor = ⟨name, cursor.advance name.length, false⟩ := by
  have stops : plainRun false (':' :: ' ' :: rest) = [] := rfl
  have left : (cursor.advance name.length).rest = ':' :: ' ' :: rest := by
    rw [Cursor.rest_advance, here, List.drop_left]
  have read : plainSpaces (cursor.advance name.length) = ([], cursor.advance name.length, false) := by
    unfold plainSpaces
    rw [Cursor.takeWhile_nothing (by rw [left]; rfl)]
    simp [Cursor.peek, left, isBreak]
  rw [plainScalar, Cursor.bound, plainRest_word isWord stops indent _ [] [] here false read,
    if_pos (.inl rfl)]
  rfl

/-! ### Plain texts -/

/-- The words of a text without a plain end: none ends with a colon, and none begins with a number
sign, but perhaps the first one. -/
theorem words_of_hasPlainEnd {before : Char} {text first : List Char} {more : List (List Char)}
    (none_ : hasPlainEnd before text = false) (pieces : splitAt ' ' text = first :: more) :
    first.getLast? ≠ some ':' ∧ (before = ' ' → first.head? ≠ some '#') ∧
      ∀ word ∈ more, word.getLast? ≠ some ':' ∧ word.head? ≠ some '#' := by
  induction text generalizing before first more with
  | nil =>
    cases pieces
    exact ⟨nofun, fun _ => nofun, nofun⟩
  | cons c rest ih =>
    simp only [hasPlainEnd, Bool.or_eq_false_iff, Bool.and_eq_false_imp, beq_iff_eq] at none_
    obtain ⟨⟨noColon, noComment⟩, later⟩ := none_
    obtain ⟨next, others, same⟩ := exists_splitAt ' ' rest
    obtain ⟨ends, begins, all⟩ := ih later same
    by_cases space : c = ' '
    · subst space
      rw [splitAt_separator, same] at pieces
      cases pieces
      exact ⟨nofun, fun _ => nofun, List.forall_mem_cons.mpr ⟨⟨ends, begins rfl⟩, all⟩⟩
    · rw [splitAt_cons space same] at pieces
      cases pieces
      refine ⟨?_, ?_, all⟩
      · cases next with
        | nil =>
          intro colon
          have ended : rest.head?.all (· == ' ') = true := by
            cases rest with
            | nil => rfl
            | cons d rest =>
              by_cases blank : d = ' '
              · simp [blank]
              · obtain ⟨_, _, pieces⟩ := exists_splitAt ' ' rest
                rw [splitAt_cons blank pieces] at same
                cases same
          rw [noColon (by simpa using colon)] at ended
          cases ended
        | cons d next =>
          rw [List.getLast?_cons_cons]
          exact ends
      · intro blank comment
        exact absurd blank (by simpa using noComment (by simpa using comment))

/-- Folded words read like the words with single spaces between them; empty words at the beginning
are spaces. -/
theorem spaced_foldWords {words : List (List Char)} (some_ : words ≠ [])
    (good : ∀ word ∈ words, word ≠ [] → IsPlainWord word) (ends : words.getLast? ≠ some [])
    (column : Nat) :
    ∃ count text written, joined ' ' words = List.replicate count ' ' ++ text ∧
      foldWords column words = List.replicate count ' ' ++ written ∧ Spaced text written ∧
      (words.head? ≠ some [] → count = 0) := by
  induction words generalizing column with
  | nil => exact absurd rfl some_
  | cons word more ih =>
    rw [List.forall_mem_cons] at good
    cases more with
    | nil =>
      have isWord := good.1 (fun empty => ends (by rw [empty]; rfl))
      exact ⟨0, word, word, rfl, rfl, .word isWord, fun _ => rfl⟩
    | cons next rest =>
      have later := ih nofun good.2 ends
      by_cases empty : word = []
      · subst empty
        obtain ⟨count, text, written, whole, folded, spaced, -⟩ := later (column + 0 + 1)
        refine ⟨count + 1, text, written, ?_, ?_, spaced, fun other => absurd rfl other⟩
        · rw [joined, whole]
          rfl
        · rw [foldWords, if_neg (by simp)]
          exact congrArg (' ' :: ·) folded
      · have isWord := good.1 empty
        rw [foldWords, joined]
        split
        next fold =>
          obtain ⟨count, text, written, whole, folded, spaced, front⟩ := later 2
          cases front (by simpa using fold.2.1)
          refine ⟨0, _, _, ?_, ?_, .more isWord .fold spaced, fun _ => rfl⟩
          · rw [whole]
            rfl
          · rw [folded, List.append_assoc]
            rfl
        next =>
          obtain ⟨count, text, written, whole, folded, spaced, -⟩ :=
            later (column + word.length + 1)
          refine ⟨0, _, _, ?_, ?_, .more isWord (.spaces count) spaced, fun _ => rfl⟩
          · rw [whole]
            rfl
          · rw [folded]
            rfl

/-- A text that can be written without quotes. -/
structure PlainText (text : List Char) : Prop where
  implied : impliedTag (String.ofList text) = basicTag "str"
  printable : ∀ c ∈ text, isPrintableAscii c = true
  noSpaceBefore : text.head? ≠ some ' '
  noSpaceAfter : text.getLast? ≠ some ' '
  noMark : hasMarkAtStart text = false
  noEnd : hasPlainEnd 'x' text = false

theorem plainText_of_isPlainText {text : List Char} (isPlain : isPlainText text = true) :
    PlainText text := by
  simp only [isPlainText, needsEscapes, Bool.and_eq_true, Bool.not_eq_true', Bool.or_eq_false_iff,
    beq_iff_eq, bne_iff_ne, List.contains_eq_mem, decide_eq_false_iff_not] at isPlain
  obtain ⟨⟨⟨⟨⟨⟨implied, clean, -⟩, noBreak⟩, before⟩, after⟩, noMark⟩, noEnd⟩ := isPlain
  refine ⟨implied, fun c member => ?_, before, after, noMark, noEnd⟩
  have other : c ≠ '\n' := fun same => noBreak (same ▸ member)
  simpa [other] using List.any_eq_false.mp clean c member

namespace PlainText

variable {text : List Char} (plain : PlainText text)

include plain

theorem ne_nil : text ≠ [] := by
  rintro rfl
  exact absurd plain.implied (by decide)

/-- **A plain text is written as one that reads back**, wherever it is folded. -/
theorem spaced_foldLine (column : Nat) : Spaced text (foldLine column text) := by
  obtain ⟨c, rest, rfl⟩ := List.exists_cons_of_ne_nil plain.ne_nil
  have visible : c ≠ ' ' := fun space => plain.noSpaceBefore (by rw [space]; rfl)
  obtain ⟨next, more, same⟩ := exists_splitAt ' ' rest
  have pieces := splitAt_cons visible same
  obtain ⟨ends, -, others⟩ := words_of_hasPlainEnd plain.noEnd pieces
  have noComment : c ≠ '#' := by
    rintro rfl
    exact absurd plain.noMark (by simp [hasMarkAtStart])
  have good : ∀ word ∈ splitAt ' ' (c :: rest), word ≠ [] → IsPlainWord word := by
    intro word isWord nonempty
    have chars := isWordChar_of_mem_splitAt plain.printable word isWord
    rw [pieces] at isWord
    obtain rfl | later := List.mem_cons.mp isWord
    · exact ⟨nonempty, chars, fun comment => noComment (Option.some.inj comment), ends⟩
    · exact ⟨nonempty, chars, (others word later).2, (others word later).1⟩
  obtain ⟨count, front, written, whole, folded, spaced, start⟩ :=
    spaced_foldWords (splitAt_ne_nil ' ' _) good
      (getLast?_splitAt plain.ne_nil plain.noSpaceAfter) column
  cases start (by rw [pieces]; simp)
  rw [joined_splitAt] at whole
  rw [foldLine, folded, whole]
  exact spaced

end PlainText

end TypeSchema.Yaml
