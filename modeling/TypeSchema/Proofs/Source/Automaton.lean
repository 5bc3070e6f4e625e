/-
**Masking, one character after the other.**

* `MaskMode`: where a character stands: in code, in a mark or after a backslash, in a comment, or
  in a string. `MaskMode.step` says whether the character is blanked, and where the next one stands;
* `MaskMode.selects`: the characters of a text that are blanked, from left to right;
* `MaskMode.Passes`: a text inside which the mode stays as it is, whatever it looks like;
* `maskFrom_eq_shown`: each piece that is masked at once is masked by the automaton too;
* `mask_by_automaton`: **masking blanks exactly the characters that the automaton selects**, line
  feeds aside, so comment marks in strings and quotes in comments have no effect.
-/

import TypeSchema.Proofs.Source.Mask

namespace TypeSchema

/-! ### The automaton -/

/-- Where a character of a source stands. `inFlow` says whether code is inside a flow comment. -/
inductive MaskMode where
  | code (inFlow : Bool)
  /-- In a comment up to its closing mark. -/
  | block (inFlow : Bool)
  /-- In a comment up to the end of its line. -/
  | line (inFlow : Bool)
  | text (quote : Char) (inFlow : Bool)
  /-- The character and `more` characters after it are blanked, whatever they are. -/
  | taken (more : Nat) (next : MaskMode)

namespace MaskMode

/-- Whether a character of code is blanked, and where the next one stands. -/
def stepCode (inFlow : Bool) (c : Char) (rest : List Char) : Bool × MaskMode :=
  if inFlow && ['*', '/'].isPrefixOf (c :: rest) then (true, taken 0 (code false))
  else if !inFlow && "/*::".toList.isPrefixOf (c :: rest) then (true, taken 2 (code true))
  else if !inFlow && "/*flow-include".toList.isPrefixOf (c :: rest) then
    (true, taken 12 (code true))
  else if ['/', '*'].isPrefixOf (c :: rest) then (true, taken 0 (block inFlow))
  else if ['/', '/'].isPrefixOf (c :: rest) then (true, line inFlow)
  else if opensString c then (false, text c inFlow)
  else (false, code inFlow)

/-- Where no mark of a flow comment stands, other comments, strings and code are told apart. -/
theorem stepCode_of_noMark {inFlow : Bool} {c : Char} {rest : List Char}
    (goesOn : ¬ (inFlow = true ∧ ['*', '/'].isPrefixOf (c :: rest) = true))
    (noFlow : (if inFlow = true then none else flowOpener? (c :: rest)) = none) :
    stepCode inFlow c rest =
      if ['/', '*'].isPrefixOf (c :: rest) then (true, taken 0 (block inFlow))
      else if ['/', '/'].isPrefixOf (c :: rest) then (true, line inFlow)
      else if opensString c then (false, text c inFlow)
      else (false, code inFlow) := by
  cases inFlow with
  | true =>
    have noMark : ['*', '/'].isPrefixOf (c :: rest) = false := by simpa only [true_and,
      Bool.not_eq_true] using goesOn
    simp only [stepCode, noMark, Bool.and_false, Bool.not_true, Bool.false_and, Bool.false_eq_true,
      if_false]
  | false =>
    simp only [Bool.false_eq_true, if_false, flowOpener?, flowOpeners, List.find?_eq_none,
      List.forall_mem_cons, Bool.not_eq_true] at noFlow
    simp only [stepCode, noFlow.1, noFlow.2.1, Bool.false_and, Bool.and_false, Bool.false_eq_true,
      if_false]

/-- A mark that opens a flow comment is blanked. -/
theorem stepCode_of_opener {c : Char} {rest opener : List Char}
    (opens : flowOpener? (c :: rest) = some opener) :
    stepCode false c rest = (true, taken (opener.length - 2) (code true)) := by
  simp only [flowOpener?, flowOpeners, List.find?_cons, List.find?_nil] at opens
  simp only [stepCode, Bool.false_and, Bool.false_eq_true, if_false, Bool.not_false, Bool.true_and]
  split at opens
  · rename_i isFirst
    cases opens
    rw [if_pos isFirst]
    rfl
  · rename_i notFirst
    split at opens
    · rename_i isSecond
      cases opens
      rw [if_neg (by rw [notFirst]; simp), if_pos isSecond]
      rfl
    · cases opens

/-- Whether a character is blanked, and where the next one stands. The text behind the character is
looked at for the marks of comments only. -/
def step : MaskMode → (c : Char) → (rest : List Char) → Bool × MaskMode
  | code inFlow, c, rest => stepCode inFlow c rest
  | block inFlow, c, rest =>
    if ['*', '/'].isPrefixOf (c :: rest) then (true, taken 0 (code inFlow))
    else (true, block inFlow)
  | line inFlow, c, _ => if c = '\n' then (false, code inFlow) else (true, line inFlow)
  | text quote inFlow, c, _ =>
    if c = '\\' then (true, taken 0 (text quote inFlow))
    else if c = quote ∨ (c = '\n' ∧ quote ≠ '\x60') then (false, code inFlow)
    else (true, text quote inFlow)
  | taken 0 next, _, _ => (true, next)
  | taken (more + 1) next, _, _ => (true, taken more next)

/-- Which characters of a text are blanked. -/
def selects (mode : MaskMode) : List Char → List Bool
  | [] => []
  | c :: rest => (mode.step c rest).1 :: (mode.step c rest).2.selects rest

/-- The text with the selected characters blanked. Line feeds are kept. -/
def shown (mode : MaskMode) (text : List Char) : List Char :=
  List.zipWith (fun c selected => if selected = true ∧ c ≠ '\n' then ' ' else c) text
    (mode.selects text)

variable {mode next : MaskMode} {c : Char} {body rest : List Char} {inFlow : Bool} {quote : Char}

theorem length_selects (mode : MaskMode) (text : List Char) :
    (mode.selects text).length = text.length := by
  induction text generalizing mode with
  | nil => rfl
  | cons c rest ih => exact congrArg (· + 1) (ih _)

@[simp] theorem shown_nil (mode : MaskMode) : mode.shown [] = [] := rfl

/-- A character that is kept. -/
theorem shown_keep (keeps : mode.step c rest = (false, next)) :
    mode.shown (c :: rest) = c :: next.shown rest := by
  simp [shown, selects, keeps]

/-- A character that is blanked. -/
theorem shown_blank (blanks : mode.step c rest = (true, next)) :
    mode.shown (c :: rest) = blanked [c] ++ next.shown rest := by
  rw [shown, selects, blanks]
  by_cases line : c = '\n' <;> simp [shown, blanked, line]

/-! ### Texts inside which the mode stays -/

/-- A text is blanked, and what follows it stands where the text stands. -/
def Passes (mode : MaskMode) (body rest : List Char) : Prop :=
  mode.selects (body ++ rest) = List.replicate body.length true ++ mode.selects rest

theorem passes_of_step (stays : ∀ front c back, body = front ++ c :: back →
    mode.step c (back ++ rest) = (true, mode)) : mode.Passes body rest := by
  induction body with
  | nil => rfl
  | cons c back ih =>
    have here := stays [] c back rfl
    have behind : mode.Passes back rest := ih fun front d more same =>
      stays (c :: front) d more (by rw [same]; rfl)
    rw [Passes, List.cons_append, selects, here, behind]
    rfl

/-- **Comment marks in strings** have no effect. -/
theorem passes_text (plain : ∀ c ∈ body, c ≠ '\\' ∧ c ≠ quote ∧ (c = '\n' → quote = '\x60'))
    (rest : List Char) : (text quote inFlow).Passes body rest := by
  refine passes_of_step fun front c back same => ?_
  obtain ⟨noEscape, noQuote, noLine⟩ := plain c (by simp [same])
  rw [step, if_neg noEscape, if_neg]
  rintro (isQuote | ⟨isLine, single⟩)
  · exact noQuote isQuote
  · exact single (noLine isLine)

/-- **Quotes in comments** have no effect. -/
theorem passes_line (oneLine : '\n' ∉ body) (rest : List Char) :
    (line inFlow).Passes body rest := by
  refine passes_of_step fun front c back same => if_neg ?_
  rintro rfl
  exact oneLine (by simp [same])

/-- **Quotes in comments** have no effect, nor have marks that open comments. -/
theorem passes_block (noEnd : ¬ ['*', '/'] <:+: body) (rest : List Char) :
    (block inFlow).Passes body ('*' :: rest) := by
  refine passes_of_step fun front c back same => if_neg fun closes => ?_
  obtain ⟨more, isMore⟩ := List.isPrefixOf_iff_prefix.mp closes
  cases back with
  | nil => simp at isMore
  | cons d back =>
    obtain ⟨rfl, rfl, -⟩ : c = '*' ∧ d = '/' ∧ more = back ++ '*' :: rest := by
      simpa [eq_comm] using isMore
    exact noEnd ⟨front, back, by simp [same]⟩

/-! ### Pieces that are masked at once -/

theorem blanked_append (text other : List Char) :
    blanked (text ++ other) = blanked text ++ blanked other := List.map_append

/-- Characters that are blanked whatever they are. -/
theorem shown_taken (more : Nat) (next : MaskMode) (text : List Char) :
    (taken more next).shown text =
      blanked (text.take (more + 1)) ++ next.shown (text.drop (more + 1)) := by
  induction more generalizing text with
  | zero =>
    cases text with
    | nil => rfl
    | cons c rest => exact shown_blank rfl
  | succ more ih =>
    cases text with
    | nil => rfl
    | cons c rest =>
      have blanks : (taken (more + 1) next).step c rest = (true, taken more next) := rfl
      rw [shown_blank blanks, ih, ← List.append_assoc, ← blanked_append]
      rfl

/-- A comment up to its closing mark. -/
theorem shown_block (inFlow : Bool) (text : List Char) :
    (block inFlow).shown text = blanked (text.take (commentWidth text)) ++
      (code inFlow).shown (text.drop (commentWidth text)) := by
  fun_induction commentWidth text with
  | case1 => rfl
  | case2 rest =>
    have closes : (block inFlow).step '*' ('/' :: rest) = (true, taken 0 (code inFlow)) := rfl
    rw [shown_blank closes, shown_taken, ← List.append_assoc, ← blanked_append]
    rfl
  | case3 c rest goesOn ih =>
    have stays : (block inFlow).step c rest = (true, block inFlow) := by
      refine if_neg fun closes => ?_
      obtain ⟨more, isMore⟩ := List.isPrefixOf_iff_prefix.mp closes
      obtain ⟨rfl, rfl⟩ := List.cons.inj isMore
      exact goesOn more rfl rfl
    rw [shown_blank stays, ih, ← List.append_assoc, ← blanked_append]
    rfl

/-- How many characters a comment has up to the end of its line. -/
def lineWidth (text : List Char) : Nat := (text.takeWhile (· ≠ '\n')).length

/-- A comment up to the end of its line. -/
theorem shown_line (inFlow : Bool) (text : List Char) :
    (line inFlow).shown text =
      blanked (text.take (lineWidth text)) ++ (code inFlow).shown (text.drop (lineWidth text)) := by
  induction text with
  | nil => rfl
  | cons c rest ih =>
    by_cases isLine : c = '\n'
    · subst isLine
      have leaves : (line inFlow).step '\n' rest = (false, code inFlow) := rfl
      have keeps : (code inFlow).step '\n' rest = (false, code inFlow) := by
        cases inFlow <;> rfl
      have none : lineWidth ('\n' :: rest) = 0 := rfl
      rw [shown_keep leaves, none, List.drop_zero, shown_keep keeps]
      rfl
    · have stays : (line inFlow).step c rest = (true, line inFlow) := if_neg isLine
      have oneMore : lineWidth (c :: rest) = lineWidth rest + 1 := by
        rw [lineWidth, List.takeWhile_cons_of_pos (by simpa using isLine)]
        rfl
      rw [shown_blank stays, ih, oneMore, ← List.append_assoc, ← blanked_append]
      rfl

/-- A string up to its end, and the character that ends it. -/
theorem shown_text (isQuote : opensString quote = true) (inFlow : Bool) (rest : List Char) :
    (text quote inFlow).shown rest = blanked (rest.take (stringWidth quote rest)) ++
      ((rest.drop (stringWidth quote rest)).take 1 ++
        (code inFlow).shown (rest.drop (stringWidth quote rest + 1))) := by
  have notEscape : quote ≠ '\\' := by
    rintro rfl
    cases isQuote
  fun_induction stringWidth quote rest with
  | case1 => rfl
  | case2 c rest ih =>
    have escape : (text quote inFlow).step '\\' (c :: rest) =
        (true, taken 0 (text quote inFlow)) := rfl
    rw [shown_blank escape, shown_taken, List.drop_succ_cons, List.drop_zero, ih,
      ← List.append_assoc, ← List.append_assoc, ← blanked_append, ← blanked_append]
    rfl
  | case3 c rest noLetter ends =>
    have plain : c ≠ '\\' := by
      rintro rfl
      rcases ends with same | ⟨isLine, -⟩
      · exact notEscape same.symm
      · cases isLine
    have leaves : (text quote inFlow).step c rest = (false, code inFlow) := by
      rw [step, if_neg plain, if_pos ends]
    rw [shown_keep leaves]
    rfl
  | case4 c rest noLetter goesOn ih =>
    by_cases escape : c = '\\'
    · -- A backslash at the very end has no character to take with it.
      obtain rfl : rest = [] := by
        cases rest with
        | nil => rfl
        | cons letter rest => exact (noLetter letter rest escape rfl).elim
      have blanks : (text quote inFlow).step c [] = (true, taken 0 (text quote inFlow)) :=
        if_pos escape
      rw [shown_blank blanks]
      rfl
    · have stays : (text quote inFlow).step c rest = (true, text quote inFlow) := by
        rw [step, if_neg escape, if_neg goesOn]
      rw [shown_blank stays, ih, ← List.append_assoc, ← blanked_append]
      rfl

/-- The character with which a piece begins, and the rest of the piece. -/
theorem blanked_piece (c : Char) (rest : List Char) {width : Nat} (some_ : 0 < width) :
    blanked ((c :: rest).take width) = blanked [c] ++ blanked (rest.take (width - 1)) := by
  obtain ⟨width, rfl⟩ := Nat.exists_eq_add_of_lt some_
  rw [← blanked_append, Nat.zero_add]
  rfl

theorem two_le_length_of_mem_flowOpeners : ∀ opener ∈ flowOpeners, 2 ≤ opener.length := by decide

/-- A flow comment that opens is blanked. -/
theorem shown_opener {c : Char} {rest opener : List Char}
    (opens : flowOpener? (c :: rest) = some opener) :
    (code false).shown (c :: rest) =
      blanked opener ++ (code true).shown (rest.drop (opener.length - 1)) := by
  have steps : (code false).step c rest = (true, taken (opener.length - 2) (code true)) :=
    stepCode_of_opener opens
  obtain ⟨isOpener, more, isMore⟩ := flowOpener?_eq_some opens
  obtain ⟨width, isWidth⟩ : ∃ width, opener.length = width + 2 :=
    ⟨_, (Nat.sub_add_cancel (two_le_length_of_mem_flowOpeners opener isOpener)).symm⟩
  have front : opener = (c :: rest).take (width + 2) := by
    rw [← isMore, ← isWidth, List.take_left]
  have pieces : blanked opener = blanked [c] ++ blanked (rest.take (width + 1)) := by
    rw [front, blanked_piece c rest (Nat.succ_pos _)]
    rfl
  simp only [isWidth, shown_blank steps, shown_taken, pieces, List.append_assoc]
  rfl

/-- **Each piece that is masked at once** is masked by the automaton, character by character. -/
theorem maskFrom_eq_shown (inFlow : Bool) (text : List Char) :
    maskFrom inFlow text = (code inFlow).shown text := by
  fun_induction maskFrom inFlow text with
  | case1 => rfl
  | case2 inFlow c rest closes ih =>
    obtain ⟨rfl, isMark⟩ := closes
    rw [if_pos ⟨rfl, isMark⟩]
    have steps : (code true).step c rest = (true, taken 0 (code false)) := if_pos isMark
    obtain ⟨more, isMore⟩ := List.isPrefixOf_iff_prefix.mp isMark
    cases isMore
    rw [shown_blank steps, shown_taken, ih]
    rfl
  | case3 inFlow c rest opener goesOn opens ih =>
    rw [dite_eq_ite] at opens
    rw [if_neg goesOn, opens]
    cases inFlow with
    | true => cases opens
    | false => exact (congrArg (blanked opener ++ ·) ih).trans (shown_opener opens).symm
  | case4 inFlow c rest goesOn noFlow comment width ih =>
    rw [dite_eq_ite] at noFlow
    rw [if_neg goesOn, noFlow, if_pos comment]
    have steps : (code inFlow).step c rest = (true, taken 0 (block inFlow)) := by
      rw [step, stepCode_of_noMark goesOn noFlow, if_pos comment]
    rw [shown_blank steps, shown_taken, shown_block]
    obtain ⟨more, isMore⟩ := List.isPrefixOf_iff_prefix.mp comment
    cases isMore
    exact congrArg (fun shown => ' ' :: ' ' :: blanked (more.take (commentWidth more)) ++ shown) ih
  | case5 inFlow c rest goesOn noFlow noBlock comment width ih =>
    rw [dite_eq_ite] at noFlow
    rw [if_neg goesOn, noFlow, if_neg noBlock, if_pos comment]
    have steps : (code inFlow).step c rest = (true, line inFlow) := by
      rw [step, stepCode_of_noMark goesOn noFlow, if_neg noBlock, if_pos comment]
    rw [shown_blank steps, shown_line]
    obtain ⟨more, isMore⟩ := List.isPrefixOf_iff_prefix.mp comment
    cases isMore
    exact congrArg (fun shown =>
      ' ' :: blanked (('/' :: more).take (lineWidth ('/' :: more))) ++ shown) ih
  | case6 inFlow c rest quote width goesOn noFlow noBlock noLine ih =>
    rw [dite_eq_ite] at noFlow
    rw [if_neg goesOn, noFlow, if_neg noBlock, if_neg noLine, if_pos quote]
    have steps : (code inFlow).step c rest = (false, text c inFlow) := by
      rw [step, stepCode_of_noMark goesOn noFlow, if_neg noBlock, if_neg noLine, if_pos quote]
    rw [shown_keep steps, shown_text quote, ← ih]
    simp [width]
  | case7 inFlow c rest noQuote goesOn noFlow noBlock noLine ih =>
    rw [dite_eq_ite] at noFlow
    rw [if_neg goesOn, noFlow, if_neg noBlock, if_neg noLine, if_neg noQuote]
    have steps : (code inFlow).step c rest = (false, code inFlow) := by
      rw [step, stepCode_of_noMark goesOn noFlow, if_neg noBlock, if_neg noLine, if_neg noQuote]
    rw [shown_keep steps, ih]

/-- What is shown of a character: itself or a space, and a line feed for a line feed only. -/
theorem shown_of_mem_zip (mode : MaskMode) (text : List Char) {pair : Char × Char}
    (isPair : pair ∈ text.zip (mode.shown text)) :
    (pair.2 = pair.1 ∨ pair.2 = ' ') ∧ (pair.2 = '\n' ↔ pair.1 = '\n') := by
  induction text generalizing mode with
  | nil => cases isPair
  | cons c rest ih =>
    simp only [shown, selects, List.zipWith_cons_cons, List.zip_cons_cons, List.mem_cons] at isPair
    rcases isPair with rfl | inRest
    · split
      · rename_i blanks
        have notLine : ' ' ≠ '\n' := by decide
        exact ⟨.inr rfl, fun same => absurd same notLine, fun same => absurd same blanks.2⟩
      · exact ⟨.inl rfl, Iff.rfl⟩
    · exact ih _ inRest

end MaskMode

open MaskMode

/-- **Masking blanks exactly the characters that the automaton selects**, line feeds aside. It keeps
the length and all line feeds. Marks of comments in strings and quotes in comments have no
effect. -/
theorem mask_by_automaton (source : List Char) :
    (mask source).length = source.length ∧
      (∀ pair ∈ source.zip (mask source),
        (pair.2 = pair.1 ∨ pair.2 = ' ') ∧ (pair.2 = '\n' ↔ pair.1 = '\n')) ∧
      ((code false).selects source).length = source.length ∧
      mask source = List.zipWith (fun c selected => if selected = true ∧ c ≠ '\n' then ' ' else c)
        source ((code false).selects source) ∧
      (∀ quote inFlow (body rest : List Char),
        (∀ c ∈ body, c ≠ '\\' ∧ c ≠ quote ∧ (c = '\n' → quote = '\x60')) →
          (text quote inFlow).selects (body ++ rest) =
            List.replicate body.length true ++ (text quote inFlow).selects rest) ∧
      (∀ inFlow (body rest : List Char), '\n' ∉ body →
        (line inFlow).selects (body ++ rest) =
          List.replicate body.length true ++ (line inFlow).selects rest) ∧
      (∀ inFlow (body rest : List Char), ¬ ['*', '/'] <:+: body →
        (block inFlow).selects (body ++ '*' :: rest) =
          List.replicate body.length true ++ (block inFlow).selects ('*' :: rest)) := by
  have isShown : mask source = (code false).shown source := maskFrom_eq_shown false source
  refine ⟨length_mask source, fun pair isPair => ?_, length_selects _ source, isShown,
    fun _ _ _ rest plain => passes_text plain rest,
    fun _ _ rest oneLine => passes_line oneLine rest,
    fun _ _ rest noEnd => passes_block noEnd rest⟩
  rw [isShown] at isPair
  exact shown_of_mem_zip _ source isPair

/-- A source with a quote in a comment and a mark of a comment in a string. -/
def crossedSource : List Char := "/*'*/'//'//".toList

/-- The string and the comments of `crossedSource` are told apart. -/
theorem mask_by_automaton_crossedSource :
    mask crossedSource = "     '  '  ".toList ∧
      (text '\'' false).selects "//'".toList = [true, true, false] ∧
      (block false).selects "'*/".toList = [true, true, true] ∧
      (line false).selects "'\n".toList = [true, false] := by
  obtain ⟨-, -, -, byAutomaton, inStrings, inLines, inBlocks⟩ := mask_by_automaton crossedSource
  exact ⟨byAutomaton.trans (by decide), inStrings '\'' false ['/', '/'] ['\''] (by simp),
    inBlocks false ['\''] ['/'] (by decide), inLines false ['\''] ['\n'] (by decide)⟩

end TypeSchema
