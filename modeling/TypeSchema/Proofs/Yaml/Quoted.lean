/-
**Quoted scalars read back.**

* `Gives`, `GivesWithin`: wherever a written text stands, a reader gives the same text for it and
  stops in front of the same rest;
* `Inside`: what may stand between quotes, one rule for a character, two single quotes, an escape,
  a space and a line break. A break must not follow the spaces, since it would swallow them;
* `Inside.reads`: the reader takes what these rules give;
* `Inside.scalar`: **a text in quotes reads back**, however it is folded.
-/

import TypeSchema.Proofs.Text.Hexadecimal
import TypeSchema.Proofs.TypeExpr.Meaning
import TypeSchema.Proofs.Yaml.Cursor

namespace TypeSchema.Yaml

/-! ### Readers -/

/-- A reader gives a text for what is written, and stops in front of the rest. -/
def Gives (read : Cursor → Except Error (List Char × Cursor)) (written text rest : List Char) :
    Prop :=
  ∀ cursor : Cursor, cursor.rest = written →
    ∃ last : Cursor, last.rest = rest ∧ read cursor = .ok (text, last)

/-- The same of a reader that takes a bound on its steps. -/
def GivesWithin (read : Nat → Cursor → Except Error (List Char × Cursor))
    (written text rest : List Char) : Prop :=
  ∀ fuel, written.length < fuel → Gives (read fuel) written text rest

/-! ### Line breaks -/

section Breaks

variable {written text rest : List Char}

/-- A line that is indented has no more breaks before its text. -/
theorem breaks_indented (ink : ∃ c more, written = c :: more ∧ IsInk c) :
    GivesWithin quotedBreaks (' ' :: ' ' :: written) [] written := by
  obtain ⟨c, more, rfl, noGap, noBreak⟩ := ink
  intro fuel enough cursor here
  obtain ⟨fuel, rfl⟩ := Nat.exists_eq_add_of_lt enough
  have skipped : cursor.skipWhile isGap = cursor.advance 2 := by
    unfold Cursor.skipWhile
    rw [Cursor.takeWhile_append [' ', ' '] (c :: more) (by simp [isGap])
      (by simpa using noGap) here]
    rfl
  have left : (cursor.advance 2).rest = c :: more := by
    rw [Cursor.rest_advance, here]
    rfl
  refine ⟨cursor.advance 2, left, ?_⟩
  unfold quotedBreaks
  simp [Cursor.atSeparator, here, skipped, Cursor.peek, left, noBreak]

theorem breaks_line (more : GivesWithin quotedBreaks written text rest) :
    GivesWithin quotedBreaks ('\n' :: written) ('\n' :: text) rest := by
  intro fuel enough cursor here
  obtain ⟨fuel, rfl⟩ := Nat.exists_eq_succ_of_ne_zero (Nat.ne_of_gt (Nat.zero_lt_of_lt enough))
  obtain ⟨_, index, line, column⟩ := cursor
  cases here
  obtain ⟨last, left, read⟩ := more fuel (Nat.lt_of_succ_lt_succ enough)
    ⟨written, index + 1, line + 1, 0⟩ rfl
  have skipped : (Cursor.mk ('\n' :: written) index line column).skipWhile isGap =
      ⟨'\n' :: written, index, line, column⟩ := by
    unfold Cursor.skipWhile
    rw [Cursor.takeWhile_nothing (by simp [isGap])]
  refine ⟨last, left, ?_⟩
  unfold quotedBreaks
  rw [skipped]
  simp [Cursor.atSeparator, Cursor.peek, isBreak, Cursor.takeBreak_lineFeed, read, bind,
    Except.bind, pure, Except.pure]

/-- A line break with the breaks after it: alone it counts as a space. -/
theorem spaces_line (more : GivesWithin quotedBreaks written text rest) :
    Gives quotedSpaces ('\n' :: written) (if text = [] then [' '] else text) rest := by
  intro cursor here
  obtain ⟨_, index, line, column⟩ := cursor
  cases here
  have none_ : (Cursor.mk ('\n' :: written) index line column).takeWhile isGap =
      ([], ⟨'\n' :: written, index, line, column⟩) :=
    Cursor.takeWhile_nothing (by simp [isGap])
  obtain ⟨last, left, read⟩ := more (written.length + 2) (by omega)
    ⟨written, index + 1, line + 1, 0⟩ rfl
  refine ⟨last, left, ?_⟩
  unfold quotedSpaces
  rw [none_]
  simp [Cursor.peek, isBreak, Cursor.takeBreak_lineFeed, Cursor.bound, read, bind, Except.bind,
    pure, Except.pure, foldedBreaks]

end Breaks

/-- A text has something other than a line break after the spaces at its beginning. -/
def Solid (written : List Char) : Prop :=
  ∃ count c rest, written = List.replicate count ' ' ++ c :: rest ∧ IsInk c

theorem solid_cons_ink {c : Char} (ink : IsInk c) (rest : List Char) : Solid (c :: rest) :=
  ⟨0, c, rest, rfl, ink⟩

theorem solid_cons_space {rest : List Char} (solid : Solid rest) : Solid (' ' :: rest) := by
  obtain ⟨count, c, more, rfl, ink⟩ := solid
  exact ⟨count + 1, c, more, rfl, ink⟩

/-! ### Between the quotes -/

/-- The quote of a scalar. -/
def quoteOf (double : Bool) : Char := if double then '"' else '\''

/-- A character that stands for itself between quotes. -/
def IsOwn (double : Bool) (c : Char) : Prop :=
  IsInk c ∧ c ≠ quoteOf double ∧ (double = true → c ≠ '\\')

/-- What may stand between quotes, the text that it means, and what follows the closing quote. -/
inductive Inside (double : Bool) : List Char → List Char → List Char → Prop
  | close {c : Char} {rest : List Char} (closing : c = quoteOf double)
      (single : double = false → rest.head? ≠ some '\'') : Inside double (c :: rest) [] rest
  | char {c : Char} {written text rest : List Char} (own : IsOwn double c)
      (inside : Inside double written text rest) : Inside double (c :: written) (c :: text) rest
  | quote {written text rest : List Char} (single : double = false)
      (inside : Inside double written text rest) :
      Inside double ('\'' :: '\'' :: written) ('\'' :: text) rest
  | escape {escaped first written text rest : List Char} (isDouble : double = true)
      (escapes : Gives escape escaped first written) (shorter : written.length ≤ escaped.length)
      (inside : Inside double written text rest) :
      Inside double ('\\' :: escaped) (first ++ text) rest
  | space {written text rest : List Char} (solid : Solid written)
      (inside : Inside double written text rest) :
      Inside double (' ' :: written) (' ' :: text) rest
  | line {before gap written text rest : List Char}
      (spaces : Gives quotedSpaces ('\n' :: before) gap written)
      (shorter : written.length ≤ before.length) (inside : Inside double written text rest) :
      Inside double ('\n' :: before) (gap ++ text) rest

namespace Inside

variable {double : Bool} {written text rest : List Char}

theorem of_space (inside : Inside double (' ' :: written) text rest) :
    ∃ more, text = ' ' :: more ∧ Inside double written more rest ∧ Solid written := by
  generalize here : ' ' :: written = front at inside
  cases inside with
  | close closing single =>
    cases here
    cases double <;> cases closing
  | char own inside =>
    cases here
    exact absurd own.1.1 (by decide)
  | quote | escape | line => cases here
  | space solid inside =>
    cases here
    exact ⟨_, rfl, inside, solid⟩

/-- All spaces at the beginning. -/
theorem of_spaces (count : Nat)
    (inside : Inside double (List.replicate count ' ' ++ written) text rest) :
    ∃ more, text = List.replicate count ' ' ++ more ∧ Inside double written more rest := by
  induction count generalizing text with
  | zero => exact ⟨text, rfl, inside⟩
  | succ count ih =>
    obtain ⟨more, rfl, others, -⟩ := of_space inside
    obtain ⟨last, rfl, afterAll⟩ := ih others
    exact ⟨last, rfl, afterAll⟩

end Inside

/-! ### Reading what is between the quotes -/

section Runs

variable {double : Bool} {c : Char} {written text rest : List Char}

/-- A run stops at white space and at the closing quote. -/
theorem run_stop (stops : isGap c = true ∨ isBreak c = true ∨
      (c = quoteOf double ∧ (double = false → rest.head? ≠ some '\''))) :
    GivesWithin (quotedRun double) (c :: rest) [] (c :: rest) := by
  intro fuel enough cursor here
  obtain ⟨fuel, rfl⟩ := Nat.exists_eq_succ_of_ne_zero (Nat.ne_of_gt (Nat.zero_lt_of_lt enough))
  refine ⟨cursor, here, ?_⟩
  unfold quotedRun
  rw [here]
  dsimp only
  obtain gap | lineBreak | ⟨rfl, single⟩ := stops
  · rw [if_pos (.inl gap)]
  · rw [if_pos (.inr lineBreak)]
  · cases double with
    | true => simp [quoteOf, isGap, isBreak]
    | false => simp [quoteOf, isGap, isBreak, single]

theorem run_char (own : IsOwn double c) (run : GivesWithin (quotedRun double) written text rest) :
    GivesWithin (quotedRun double) (c :: written) (c :: text) rest := by
  intro fuel enough cursor here
  obtain ⟨fuel, rfl⟩ := Nat.exists_eq_succ_of_ne_zero (Nat.ne_of_gt (Nat.zero_lt_of_lt enough))
  obtain ⟨last, left, read⟩ := run fuel (Nat.lt_of_succ_lt_succ enough) cursor.next
    (by rw [Cursor.rest_next, here]; rfl)
  refine ⟨last, left, ?_⟩
  obtain ⟨⟨noGap, noBreak⟩, noQuote, noEscape⟩ := own
  unfold quotedRun
  rw [here]
  dsimp only
  rw [read, if_neg (by simp [noGap, noBreak])]
  cases double with
  | true =>
    rw [if_neg (by simpa using noEscape), if_neg (by simpa [quoteOf] using noQuote),
      if_neg (by simp)]
    rfl
  | false =>
    rw [if_neg (by simp), if_neg (by simp), if_neg (by simpa [quoteOf] using noQuote)]
    rfl

theorem run_quote (run : GivesWithin (quotedRun false) written text rest) :
    GivesWithin (quotedRun false) ('\'' :: '\'' :: written) ('\'' :: text) rest := by
  intro fuel enough cursor here
  obtain ⟨fuel, rfl⟩ := Nat.exists_eq_succ_of_ne_zero (Nat.ne_of_gt (Nat.zero_lt_of_lt enough))
  obtain ⟨last, left, read⟩ := run fuel
    (Nat.lt_of_succ_lt (Nat.lt_of_succ_lt_succ enough)) (cursor.advance 2)
    (by rw [Cursor.rest_advance, here]; rfl)
  refine ⟨last, left, ?_⟩
  unfold quotedRun
  rw [here]
  simp [isGap, isBreak, read, bind, Except.bind, pure, Except.pure]

theorem run_escape {escaped first : List Char} (escapes : Gives escape escaped first written)
    (shorter : written.length ≤ escaped.length)
    (run : GivesWithin (quotedRun true) written text rest) :
    GivesWithin (quotedRun true) ('\\' :: escaped) (first ++ text) rest := by
  intro fuel enough cursor here
  obtain ⟨fuel, rfl⟩ := Nat.exists_eq_succ_of_ne_zero (Nat.ne_of_gt (Nat.zero_lt_of_lt enough))
  obtain ⟨after, stands, meant⟩ := escapes cursor.next (by rw [Cursor.rest_next, here]; rfl)
  obtain ⟨last, left, read⟩ := run fuel
    (Nat.lt_of_le_of_lt shorter (Nat.lt_of_succ_lt_succ enough)) after stands
  refine ⟨last, left, ?_⟩
  unfold quotedRun
  rw [here]
  simp [isGap, isBreak, meant, read, bind, Except.bind, pure, Except.pure]

end Runs

/-- Spaces in front of a text. -/
theorem spaces_run (count : Nat) {c : Char} {rest : List Char} (ink : IsInk c) :
    Gives quotedSpaces (List.replicate count ' ' ++ c :: rest) (List.replicate count ' ')
      (c :: rest) := by
  intro cursor here
  have taken : cursor.takeWhile isGap =
      (List.replicate count ' ', cursor.advance (List.replicate count ' ').length) :=
    Cursor.takeWhile_append _ _ (fun d member => by rw [List.eq_of_mem_replicate member]; rfl)
      (by simpa using ink.1) here
  have left : (cursor.advance (List.replicate count ' ').length).rest = c :: rest := by
    rw [Cursor.rest_advance, here, List.drop_left]
  refine ⟨_, left, ?_⟩
  unfold quotedSpaces
  rw [taken]
  simp only [Cursor.peek, left, List.head?_cons, ink.2]
  rfl

/-- How a text between quotes is read: one run up to the closing quote, or up to white space after
which the rest is read. -/
inductive Parts (double : Bool) (written : List Char) : List Char → List Char → Prop
  | closed {text rest : List Char}
      (run : GivesWithin (quotedRun double) written text (quoteOf double :: rest)) :
      Parts double written text rest
  | goesOn {front middle gap after back rest : List Char}
      (run : GivesWithin (quotedRun double) written front middle)
      (notClosed : middle.head? ≠ some (quoteOf double))
      (spaces : Gives quotedSpaces middle gap after) (shorter : after.length < written.length)
      (inside : Inside double after back rest) :
      Parts double written (front ++ (gap ++ back)) rest

variable {double : Bool} {written text rest : List Char}

/-- A longer first run. -/
theorem Parts.extend (first : List Char) {longer : List Char} (parts : Parts double written text rest)
    (length : written.length ≤ longer.length)
    (extend : ∀ run middle, GivesWithin (quotedRun double) written run middle →
      GivesWithin (quotedRun double) longer (first ++ run) middle) :
    Parts double longer (first ++ text) rest := by
  cases parts with
  | closed run => exact .closed (extend _ _ run)
  | goesOn run notClosed spaces shorter inside =>
    rw [← List.append_assoc]
    exact .goesOn (extend _ _ run) notClosed spaces (Nat.lt_of_lt_of_le shorter length) inside

theorem Inside.parts (inside : Inside double written text rest) :
    Parts double written text rest := by
  induction inside with
  | close closing single =>
    subst closing
    exact .closed (run_stop (.inr (.inr ⟨rfl, single⟩)))
  | @char c _ _ _ own inside ih =>
    exact ih.extend [c] (Nat.le_succ _) fun run middle first => run_char own first
  | quote single inside ih =>
    subst single
    exact ih.extend ['\''] (Nat.le_add_right _ 2) fun run middle first => run_quote first
  | @escape _ front _ _ _ isDouble escapes shorter inside ih =>
    subst isDouble
    exact ih.extend front (Nat.le_succ_of_le shorter) fun run middle first =>
      run_escape escapes shorter first
  | space solid inside =>
    obtain ⟨count, c, more, rfl, ink⟩ := solid
    obtain ⟨back, rfl, afterAll⟩ := inside.of_spaces count
    have run : GivesWithin (quotedRun double) (' ' :: (List.replicate count ' ' ++ c :: more)) []
        (' ' :: (List.replicate count ' ' ++ c :: more)) := run_stop (.inl rfl)
    refine .goesOn run ?_ (spaces_run (count + 1) ink) ?_ afterAll
    · cases double <;> simp [quoteOf]
    · simp only [List.length_cons, List.length_append]
      omega
  | line spaces shorter inside =>
    refine .goesOn (run_stop (.inr (.inl rfl))) ?_ spaces (Nat.lt_succ_of_le shorter) inside
    cases double <;> simp [quoteOf]

/-- **What stands between quotes is read as the text that it means.** -/
theorem Inside.reads (inside : Inside double written text rest) :
    GivesWithin (quotedRest double) written text rest := by
  induction length : written.length using Nat.strongRecOn generalizing written text with
  | _ size ih =>
    intro fuel enough cursor here
    obtain ⟨fuel, rfl⟩ := Nat.exists_eq_succ_of_ne_zero (Nat.ne_of_gt (Nat.zero_lt_of_lt enough))
    have bound : written.length < cursor.bound := by
      rw [Cursor.bound, here]
      omega
    cases inside.parts with
    | closed run =>
      obtain ⟨place, left, read⟩ := run _ bound cursor here
      refine ⟨place.next, by rw [Cursor.rest_next, left]; rfl, ?_⟩
      unfold quotedRest
      rw [read]
      simp [Cursor.peek, left, quoteOf, bind, Except.bind]
    | goesOn run notClosed spaces shorter inside =>
      obtain ⟨place, left, read⟩ := run _ bound cursor here
      obtain ⟨after, stands, skipped⟩ := spaces place left
      obtain ⟨last, ends, others⟩ := ih _ (length ▸ shorter) inside rfl fuel
        (Nat.lt_of_lt_of_le shorter (Nat.le_of_lt_succ enough)) after stands
      refine ⟨last, ends, ?_⟩
      have opened : place.peek ≠ some (if double then '"' else '\'') := by
        rw [Cursor.peek, left]
        exact notClosed
      unfold quotedRest
      rw [read]
      simp [opened, skipped, others, bind, Except.bind, pure, Except.pure]

/-- **A scalar in quotes is read as the text that it means.** -/
theorem Inside.scalar (inside : Inside double written text rest) :
    Gives (quotedScalar double) (quoteOf double :: written) text rest := by
  intro cursor here
  exact inside.reads cursor.bound (by rw [Cursor.bound, here, List.length_cons]; omega) cursor.next
    (by rw [Cursor.rest_next, here]; rfl)

end TypeSchema.Yaml
