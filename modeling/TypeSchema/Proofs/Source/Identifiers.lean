/-
**Identifiers at lines and columns.**

* `offsetAt`, `offsetAt_positionAt`: a line and a column give back the offset that they stand for;
* `identifier?_mask`: **an identifier that is seen in the mask of a source stands in the source**,
  and ends there where it ends in the mask;
* `ReadsAt`: a source has an identifier at a line and column.
-/

import TypeSchema.Proofs.Source.Automaton
import TypeSchema.Proofs.TypeExpr.Places

namespace TypeSchema

variable {source text back rest name : List Char} {c : Char} {offset : Nat} {position : Position}

/-! ### Offsets of lines and columns -/

/-- How many characters there are up to some line feeds, those included. -/
def lineStart : (breaks : Nat) → List Char → Nat
  | 0, _ => 0
  | _ + 1, [] => 0
  | breaks + 1, c :: rest => lineStart (if c = '\n' then breaks else breaks + 1) rest + 1

/-- The offset of a line and column. -/
def offsetAt (text : List Char) (position : Position) : Nat :=
  lineStart (position.line - 1).toNat text + (position.column - 1).toNat

/-- The last line of a text begins behind all its line feeds. -/
theorem lineStart_count (front back : List Char) :
    lineStart (front.count '\n') (front ++ back) + (lastLine front).length = front.length := by
  induction front with
  | nil => simp [lineStart, lastLine]
  | cons c rest ih =>
    by_cases line : c = '\n'
    · subst line
      have last : lastLine ('\n' :: rest) = lastLine rest := by
        have stop : ['\n'].takeWhile (· != '\n') = [] := rfl
        rw [lastLine, lastLine, List.reverse_cons, List.takeWhile_append, stop, List.append_nil]
        split
        · rw [(List.takeWhile_prefix _).eq_of_length ‹_›]
        · rfl
      rw [List.count_cons_self, List.cons_append, lineStart, if_pos rfl, last, List.length_cons]
      omega
    · have count : (c :: rest).count '\n' = rest.count '\n' := List.count_cons_of_ne line
      rw [count, List.cons_append]
      by_cases plain : '\n' ∈ rest
      · obtain ⟨breaks, isCount⟩ : ∃ breaks, rest.count '\n' = breaks + 1 :=
          Nat.exists_eq_add_of_le' (List.count_pos_iff.mpr plain)
        have last : lastLine (c :: rest) = lastLine rest :=
          @lastLine_append_of_mem rest [c] plain
        rw [isCount] at ih ⊢
        rw [lineStart, if_neg line, last, List.length_cons]
        omega
      · have whole : '\n' ∉ c :: rest := by
          simp only [List.mem_cons, not_or]
          exact ⟨Ne.symm line, plain⟩
        have last : lastLine (c :: rest) = c :: rest := by
          have alone := @lastLine_append_of_notMem (c :: rest) [] whole
          simpa [lastLine] using alone
        rw [List.count_eq_zero.mpr plain, lineStart, last, Nat.zero_add]

/-- **A line and a column give back the offset** that they stand for. -/
theorem offsetAt_positionAt (inside : offset ≤ text.length) :
    offsetAt text (positionAt text offset) = offset := by
  rw [positionAt_of_le inside, offsetAt]
  have start := lineStart_count (text.take offset) (text.drop offset)
  rw [List.take_append_drop, List.length_take_of_le inside] at start
  simp only [Int.add_sub_cancel, Int.toNat_natCast]
  exact start

/-! ### What is seen in a mask -/

namespace MaskMode

variable {mode : MaskMode} {inFlow : Bool}

/-- What stands behind a place of a text is shown in some mode. -/
theorem drop_shown (mode : MaskMode) (text : List Char) (count : Nat) :
    ∃ later : MaskMode, (mode.shown text).drop count = later.shown (text.drop count) := by
  induction text generalizing mode count with
  | nil => exact ⟨mode, by simp⟩
  | cons c rest ih =>
    cases count with
    | zero => exact ⟨mode, rfl⟩
    | succ count => exact ih (mode.step c rest).2 count

/-- Code begins with what is seen of it, unless a comment begins there or ends. -/
theorem eq_of_selected (selected : ((code inFlow).step c rest).1 = true) : c = '/' ∨ c = '*' := by
  have mark {d : Char} {word : List Char} (begins : (d :: word).isPrefixOf (c :: rest) = true) :
      c = d := by
    obtain ⟨more, same⟩ := List.isPrefixOf_iff_prefix.mp begins
    exact (List.cons.inj same).1.symm
  simp only [step, stepCode, Bool.and_eq_true] at selected
  split_ifs at selected with closes opens includes block line
  · exact .inr (mark closes.2)
  · exact .inl (mark opens.2)
  · exact .inl (mark includes.2)
  · exact .inl (mark block)
  · exact .inl (mark line)

/-- Behind a part of an identifier that is seen stands code. -/
theorem code_of_kept (part : isIdentifierPart c) (kept : (mode.step c rest).1 = false) :
    ∃ inFlow, (mode.step c rest).2 = code inFlow := by
  have noQuote : opensString c = false := by
    by_contra quote
    simp only [opensString, Bool.not_eq_false, Bool.or_eq_true, beq_iff_eq] at quote
    rcases quote with (rfl | rfl) | rfl <;> cases part
  cases mode with
  | code inFlow =>
    simp only [step, stepCode] at kept ⊢
    split_ifs at kept ⊢ with _ _ _ _ _ quote
    · rw [noQuote] at quote
      cases quote
    · exact ⟨inFlow, rfl⟩
  | block inFlow =>
    simp only [step] at kept
    split_ifs at kept
  | line inFlow =>
    simp only [step] at kept ⊢
    split_ifs at kept ⊢
    exact ⟨inFlow, rfl⟩
  | text quote inFlow =>
    simp only [step] at kept ⊢
    split_ifs at kept ⊢
    exact ⟨inFlow, rfl⟩
  | taken more next => cases more <;> cases kept

theorem shown_cons (mode : MaskMode) (c : Char) (rest : List Char) :
    mode.shown (c :: rest) =
      (if (mode.step c rest).1 = true ∧ c ≠ '\n' then ' ' else c) ::
        (mode.step c rest).2.shown rest := rfl

/-- **An identifier that is seen** stands in the text, and no further part of one behind it. -/
theorem exists_back (parts : ∀ d ∈ name, isIdentifierPart d) (some_ : name ≠ [])
    (stops : ∀ d, rest.head? = some d → isIdentifierPart d = false)
    (isShown : mode.shown text = name ++ rest) :
    ∃ back, text = name ++ back ∧ ∀ d, back.head? = some d → isIdentifierPart d = false := by
  induction name generalizing mode text with
  | nil => exact absurd rfl some_
  | cons c name ih =>
    obtain ⟨part, others⟩ := List.forall_mem_cons.mp parts
    cases text with
    | nil => cases isShown
    | cons d text =>
      rw [shown_cons, List.cons_append, List.cons.injEq] at isShown
      obtain ⟨first, isRest⟩ := isShown
      have kept : (mode.step d text).1 = false := by
        by_contra selected
        have blank : c = ' ' ∨ c = '\n' := by
          by_cases line : d = '\n'
          · rw [if_neg (fun both => both.2 line)] at first
            exact .inr (first.symm.trans line)
          · rw [if_pos ⟨(Bool.not_eq_false _).mp selected, line⟩] at first
            exact .inl first.symm
        rcases blank with rfl | rfl <;> cases part
      rw [kept, if_neg (fun both => nomatch both.1)] at first
      subst first
      obtain ⟨inFlow, isCode⟩ := code_of_kept part kept
      rw [isCode] at isRest
      cases name with
      | nil =>
        refine ⟨text, rfl, fun e isFirst => ?_⟩
        cases text with
        | nil => cases isFirst
        | cons e' text =>
          cases isFirst
          rw [shown_cons] at isRest
          by_cases selected : ((code inFlow).step e text).1 = true
          · rcases eq_of_selected selected with rfl | rfl <;> decide
          · rw [if_neg (fun both => selected both.1)] at isRest
            exact stops e (by rw [← List.nil_append rest, ← isRest]; rfl)
      | cons c' name =>
        obtain ⟨back, rfl, ends⟩ := ih others (List.cons_ne_nil _ _) isRest
        exact ⟨back, rfl, ends⟩

end MaskMode

theorem identifier?_rest (found : identifier? text = some (name, rest)) :
    ∀ d, rest.head? = some d → isIdentifierPart d = false := by
  unfold identifier? at found
  split at found
  · split at found
    · rename_i c more starts
      cases found
      intro d first
      have head := List.head?_dropWhile_not isIdentifierPart more
      rw [first] at head
      simpa using head
    · cases found
  · cases found

theorem exists_drop_mask (source : List Char) (offset : Nat) :
    ∃ later : MaskMode, (mask source).drop offset = later.shown (source.drop offset) := by
  rw [mask, MaskMode.maskFrom_eq_shown]
  exact MaskMode.drop_shown (.code false) source offset

/-- **An identifier that is seen in the mask of a source stands in the source.** -/
theorem identifier?_mask (found : identifier? ((mask source).drop offset) = some (name, rest)) :
    ∃ back, identifier? (source.drop offset) = some (name, back) := by
  obtain ⟨isIdentifier, isText⟩ := identifier?_eq_some found
  obtain ⟨later, isShown⟩ := exists_drop_mask source offset
  rw [isText] at isShown
  have some_ : name ≠ [] := by
    obtain ⟨c, more, rfl, -⟩ := isIdentifier
    exact List.cons_ne_nil _ _
  obtain ⟨back, same, ends⟩ :=
    MaskMode.exists_back isIdentifier.parts some_ (identifier?_rest found) isShown.symm
  exact ⟨back, by rw [same, identifier?_append isIdentifier ends]⟩

/-- A character that is seen in the mask of a source stands in the source. -/
theorem getElem?_of_mask (found : (mask source)[offset]? = some c) (visible : c ≠ ' ') :
    source[offset]? = some c := by
  obtain ⟨later, isShown⟩ := exists_drop_mask source offset
  rw [← List.head?_drop] at found ⊢
  rw [isShown] at found
  cases text : source.drop offset with
  | nil =>
    rw [text] at found
    cases found
  | cons d rest =>
    rw [text, MaskMode.shown_cons, List.head?_cons, Option.some.injEq] at found
    split_ifs at found
    · exact absurd found.symm visible
    · rw [List.head?_cons, found]

/-! ### Reading at a place -/

/-- A source has an identifier at a line and column, which are those of a place in it. -/
structure ReadsAt (source : List Char) (position : Position) (name : String) : Prop where
  place : positionAt source (offsetAt source position) = position
  reads : ∃ rest, identifier? (source.drop (offsetAt source position)) = some (name.toList, rest)

/-- What is seen in the mask at an offset can be read at its line and column. -/
theorem readsAt_of_mask (found : identifier? ((mask source).drop offset) = some (name, rest)) :
    offsetAt source (positionAt source offset) = offset ∧
      ReadsAt source (positionAt source offset) (String.ofList name) := by
  have inside : offset ≤ source.length := by
    by_contra outside
    rw [List.drop_of_length_le (by rw [length_mask]; omega)] at found
    cases found
  have back := offsetAt_positionAt inside
  refine ⟨back, by rw [back], ?_⟩
  rw [back, String.toList_ofList]
  exact identifier?_mask found

end TypeSchema
