/-
**How far a right side extends.**

* `openings`, `closings`: how many brackets a part of a text opens and closes; the head of an arrow
  closes none;
* `StopsAt`: a place outside brackets with a semicolon, with a closing bracket that none was opened
  for, or with a line feed at which nothing shows that the type goes on;
* `Searched`: what holds of the search for the end of a right side when it has come to an offset;
  `Searched.next`: and when it goes on by a character;
* `right_side_respects_brackets`: **a right side closes its brackets, and ends at the first place at
  which it can**, or at the end of the text.
-/

import TypeSchema.Proofs.Text.Blank
import TypeSchema.Source.Scan

namespace TypeSchema

variable {text rest : List Char} {start offset place depth : Nat} {before c : Char}
  {last : Option Char}

/-! ### Brackets -/

/-- A bracket is opened at a place. -/
def opensAt (text : List Char) (place : Nat) : Bool :=
  text[place]?.any fun c => ['(', '[', '\x7b', '<'].contains c

/-- The head of an arrow stands at a place: `>` right after `=`. -/
def arrowAt (text : List Char) (place : Nat) : Bool :=
  text[place]? = some '>' ∧ 0 < place ∧ text[place - 1]? = some '='

/-- A bracket is closed at a place. -/
def closesAt (text : List Char) (place : Nat) : Bool :=
  text[place]?.any (fun c => [')', ']', '\x7d', '>'].contains c) && !arrowAt text place

/-- How many brackets are opened from an offset up to another one. -/
def openings (text : List Char) (start stop : Nat) : Nat :=
  (List.range' start (stop - start)).countP (opensAt text)

/-- How many brackets are closed from an offset up to another one. -/
def closings (text : List Char) (start stop : Nat) : Nat :=
  (List.range' start (stop - start)).countP (closesAt text)

/-! ### Places to stop at -/

/-- A line feed stands at a place after some content, and neither the last thing before it nor the
first one after it shows that the type goes on. -/
structure BreaksAt (text : List Char) (start place : Nat) : Prop where
  lineFeed : text[place]? = some '\n'
  content : ∃ c ∈ slice text start place, isBlank c = false
  after : ∀ c ∈ ['|', '&', '?', ':', ',', '='], (trimEnd (slice text start place)).getLast? ≠ some c
  before : ∀ c ∈ ['|', '&'], (trimStart (text.drop place)).head? ≠ some c

/-- A place at which a right side ends that begins at `start`. -/
structure StopsAt (text : List Char) (start place : Nat) : Prop where
  outside : openings text start place = closings text start place
  mark : text[place]? = some ';' ∨ closesAt text place = true ∨ BreaksAt text start place

/-- How far a right side extends that begins at `start`: up to `ends.1`, and its statement up to
`ends.2`. -/
structure Extends (text : List Char) (start : Nat) (ends : Nat × Nat) : Prop where
  start_le : start ≤ ends.1
  stop_le : ends.1 ≤ ends.2
  inText : ends.2 ≤ text.length
  nested : ∀ place ≤ ends.1, closings text start place ≤ openings text start place
  closed : ends.1 ≠ text.length → openings text start ends.1 = closings text start ends.1
  stops : ends.1 ≠ text.length → StopsAt text start ends.1
  first : ∀ place, start ≤ place → place < ends.1 → ¬ StopsAt text start place
  statement : ends.2 = if text[ends.1]? = some ';' then ends.1 + 1 else ends.1

/-! ### Characters -/

theorem opensAt_eq (here : text[place]? = some c) : opensAt text place = opensBracket c := by
  rw [Bool.eq_iff_iff]
  simp [opensAt, here, opensBracket, or_assoc]

theorem closesAt_eq (here : text[place]? = some c) :
    closesAt text place = (closesBracket c && !arrowAt text place) := by
  rw [Bool.eq_iff_iff]
  simp [closesAt, here, closesBracket, or_assoc]

/-- A character that opens a bracket is no other mark. -/
theorem of_opensBracket (opens : opensBracket c) :
    closesBracket c = false ∧ c ≠ ';' ∧ c ≠ '\n' ∧ c ≠ '>' := by
  simp only [opensBracket, Bool.or_eq_true, beq_iff_eq] at opens
  rcases opens with ((rfl | rfl) | rfl) | rfl <;> decide

/-- A character that closes a bracket is no other mark. -/
theorem of_closesBracket (closes : closesBracket c) :
    opensBracket c = false ∧ c ≠ ';' ∧ c ≠ '\n' := by
  simp only [closesBracket, Bool.or_eq_true, beq_iff_eq] at closes
  rcases closes with ((rfl | rfl) | rfl) | rfl <;> decide

/-! ### Counting -/

theorem openings_succ (text : List Char) (inOrder : start ≤ offset) : openings text start (offset + 1) =
    openings text start offset + (opensAt text offset).toNat := by
  rw [openings, Nat.sub_add_comm inOrder, List.range'_1_concat, List.countP_append,
    Nat.add_sub_cancel' inOrder, List.countP_singleton, openings]
  cases opensAt text offset <;> rfl

theorem closings_succ (text : List Char) (inOrder : start ≤ offset) : closings text start (offset + 1) =
    closings text start offset + (closesAt text offset).toNat := by
  rw [closings, Nat.sub_add_comm inOrder, List.range'_1_concat, List.countP_append,
    Nat.add_sub_cancel' inOrder, List.countP_singleton, closings]
  cases closesAt text offset <;> rfl

theorem slice_succ (inOrder : start ≤ offset) (here : text[offset]? = some c) :
    slice text start (offset + 1) = slice text start offset ++ [c] := by
  obtain ⟨inside, rfl⟩ := List.getElem?_eq_some_iff.mp here
  rw [slice, slice, List.take_add_one, here, Option.toList_some, List.drop_append_of_le_length]
  rwa [List.length_take_of_le inside.le]

/-! ### The search for the end -/

/-- What holds of the search for the end of a right side when it has come to an offset, behind the
character `before` and inside `depth` brackets: it has not come by a place to stop at. -/
structure Searched (text : List Char) (start : Nat) (before : Char) (depth : Nat)
    (last : Option Char) (offset : Nat) : Prop where
  inOrder : start ≤ offset
  inside : offset ≤ text.length
  behind : 0 < offset ∧ text[offset - 1]? = some before
  level : openings text start offset = closings text start offset + depth
  nested : ∀ place ≤ offset, closings text start place ≤ openings text start place
  last : (trimEnd (slice text start offset)).getLast? = last
  first : ∀ place, start ≤ place → place < offset → ¬ StopsAt text start place

namespace Searched

/-- The search begins behind an equals sign. -/
theorem begin (equals : text[place]? = some '=') :
    Searched text (place + 1) '=' 0 none (place + 1) := by
  obtain ⟨inside, -⟩ := List.getElem?_eq_some_iff.mp equals
  have nothing (stop : Nat) (early : stop ≤ place + 1) : closings text (place + 1) stop = 0 := by
    rw [closings, Nat.sub_eq_zero_of_le early]
    rfl
  refine ⟨Nat.le_refl _, inside, ⟨Nat.succ_pos _, equals⟩, ?_, fun stop early => ?_, ?_, ?_⟩
  · rw [nothing _ (Nat.le_refl _), openings, Nat.sub_self]
    rfl
  · exact nothing stop early ▸ Nat.zero_le _
  · rw [slice, List.drop_eq_nil_of_le (List.length_take_le _ _)]
    rfl
  · intro stop late early
    omega

variable (searched : Searched text start before depth last offset)

include searched

/-- The search goes on by a character. -/
theorem next {deeper : Nat} (here : text[offset]? = some c) (goesOn : ¬ StopsAt text start offset)
    (level : depth + (opensAt text offset).toNat = deeper + (closesAt text offset).toNat) :
    Searched text start c deeper (if isBlank c then last else some c) (offset + 1) := by
  obtain ⟨inOrder, -, -, before, nested, seen, first⟩ := searched
  obtain ⟨inside, -⟩ := List.getElem?_eq_some_iff.mp here
  have opened := openings_succ text inOrder
  have closed := closings_succ text inOrder
  refine ⟨Nat.le_succ_of_le inOrder, inside, ⟨Nat.succ_pos _, here⟩, by omega, ?_, ?_, ?_⟩
  · intro place early
    rcases Nat.lt_succ_iff_lt_or_eq.mp (Nat.lt_succ_of_le early) with earlier | rfl
    · exact nested place (Nat.le_of_lt_succ earlier)
    · omega
  · rw [slice_succ inOrder here, getLast?_trimEnd_concat, seen]
  · intro place late early
    rcases Nat.lt_succ_iff_lt_or_eq.mp early with earlier | rfl
    · exact first place late earlier
    · exact goesOn

theorem arrowAt_iff (here : text[offset]? = some c) :
    arrowAt text offset = true ↔ c = '>' ∧ before = '=' := by
  simp [arrowAt, here, searched.behind]

/-- A line feed at which nothing shows that the type goes on. -/
theorem breaksAt_iff (here : text[offset]? = some c) (isRest : text.drop (offset + 1) = rest) :
    BreaksAt text start offset ↔ c = '\n' ∧ last.isSome ∧ ¬ last.any continuesAfter ∧
      ¬ (trimStart rest).head?.any continuesBefore := by
  have content : (∃ d ∈ slice text start offset, isBlank d = false) ↔ last.isSome := by
    rw [← searched.last, List.getLast?_isSome, ← not_iff_not, not_not]
    simp only [not_exists, not_and, Bool.not_eq_false]
    exact ⟨fun blank => trimEnd_blank blank, allBlank_of_trimEnd⟩
  have after : (∀ d ∈ ['|', '&', '?', ':', ',', '='],
      (trimEnd (slice text start offset)).getLast? ≠ some d) ↔ ¬ last.any continuesAfter := by
    rw [searched.last]
    cases last <;> simp [continuesAfter, and_assoc]
  have behind (lineFeed : c = '\n') : (∀ d ∈ ['|', '&'],
      (trimStart (text.drop offset)).head? ≠ some d) ↔
        ¬ (trimStart rest).head?.any continuesBefore := by
    have gap : AllBlank ['\n'] := List.forall_mem_singleton.mpr (by decide)
    have same : trimStart (text.drop offset) = trimStart rest := by
      obtain ⟨inside, rfl⟩ := List.getElem?_eq_some_iff.mp here
      rw [List.drop_eq_getElem_cons inside, isRest, lineFeed, ← List.singleton_append,
        trimStart_gap gap]
    rw [same]
    cases (trimStart rest).head? <;> simp [continuesBefore]
  constructor
  · rintro ⟨lineFeed, isContent, isAfter, isBefore⟩
    obtain rfl : c = '\n' := Option.some.inj (here.symm.trans lineFeed)
    exact ⟨rfl, content.mp isContent, after.mp isAfter, (behind rfl).mp isBefore⟩
  · rintro ⟨rfl, isSome, isAfter, isBefore⟩
    exact ⟨here, content.mpr isSome, after.mpr isAfter, (behind rfl).mpr isBefore⟩

/-- Whether the search stops at a character. -/
theorem stopsAt_iff (here : text[offset]? = some c) (isRest : text.drop (offset + 1) = rest) :
    StopsAt text start offset ↔ depth = 0 ∧ (c = ';' ∨
      (closesBracket c = true ∧ ¬ (c = '>' ∧ before = '=')) ∨
      (c = '\n' ∧ last.isSome ∧ ¬ last.any continuesAfter ∧
        ¬ (trimStart rest).head?.any continuesBefore)) := by
  have outside : openings text start offset = closings text start offset ↔ depth = 0 := by
    have := searched.level
    omega
  have semicolon : text[offset]? = some ';' ↔ c = ';' := by rw [here, Option.some.injEq]
  have closes : closesAt text offset = true ↔
      closesBracket c = true ∧ ¬ (c = '>' ∧ before = '=') := by
    rw [closesAt_eq here, Bool.and_eq_true, Bool.not_eq_true', ← Bool.not_eq_true,
      searched.arrowAt_iff here]
  rw [← outside, ← semicolon, ← closes, ← searched.breaksAt_iff here isRest]
  exact ⟨fun ⟨outside, mark⟩ => ⟨outside, mark⟩, fun ⟨outside, mark⟩ => ⟨outside, mark⟩⟩

/-- The search ends here. -/
theorem extends_here (here : text[offset]? = some c) (stops : StopsAt text start offset) :
    Extends text start (offset, if c = ';' then offset + 1 else offset) := by
  obtain ⟨inside, -⟩ := List.getElem?_eq_some_iff.mp here
  refine ⟨searched.inOrder, ?_, ?_, searched.nested, fun _ => stops.outside, fun _ => stops,
    searched.first, ?_⟩
  · dsimp only
    split_ifs <;> omega
  · dsimp only
    split_ifs <;> omega
  · simp only [here, Option.some.injEq]

/-- **The search ends at the first place to stop at**, or at the end of the text. -/
theorem extends_of_rest (isRest : text.drop offset = rest) :
    Extends text start (aliasEnd before depth last offset rest) := by
  induction rest generalizing before depth last offset with
  | nil =>
    have atEnd : offset = text.length :=
      Nat.le_antisymm searched.inside (List.drop_eq_nil_iff.mp isRest)
    subst atEnd
    refine ⟨searched.inOrder, Nat.le_refl _, Nat.le_refl _, searched.nested,
      fun inside => (inside rfl).elim, fun inside => (inside rfl).elim, searched.first, ?_⟩
    simp [aliasEnd]
  | cons c rest ih =>
    have here : text[offset]? = some c := by rw [← List.head?_drop, isRest, List.head?_cons]
    have isMore : text.drop (offset + 1) = rest := by
      rw [← List.drop_drop, isRest, List.drop_one, List.tail_cons]
    have stops := searched.stopsAt_iff here isMore
    have arrow := searched.arrowAt_iff here
    have goOn (deeper : Nat) (goesOn : ¬ StopsAt text start offset)
        (level : depth + (opensBracket c).toNat =
          deeper + (closesBracket c && !arrowAt text offset).toNat) :=
      ih (searched.next here goesOn (by rwa [opensAt_eq here, closesAt_eq here])) isMore
    have stopHere {stop : Nat} (stops : StopsAt text start offset)
        (statement : stop = if c = ';' then offset + 1 else offset) :
        Extends text start (offset, stop) := statement ▸ searched.extends_here here stops
    rw [aliasEnd.eq_def]
    dsimp only
    generalize (if isBlank c then last else some c) = seen at goOn ⊢
    split_ifs with opens isArrow closes isEnd isBreak
    · obtain ⟨noClosing, noEnd, noBreak, -⟩ := of_opensBracket opens
      refine goOn _ (fun ends => ?_) (by simp [opens, noClosing])
      simpa [noClosing, noEnd, noBreak] using (stops.mp ends).2
    · have isHead := arrow.mpr isArrow
      refine goOn _ (fun ends => ?_) (by simp [opens, isHead])
      simpa [isArrow] using (stops.mp ends).2
    · obtain ⟨-, noEnd, -⟩ := of_closesBracket closes
      have noHead := mt arrow.mp isArrow
      cases depth with
      | zero => exact stopHere (stops.mpr ⟨rfl, .inr (.inl ⟨closes, isArrow⟩)⟩) (if_neg noEnd).symm
      | succ depth =>
        refine goOn _ (fun ends => ?_) (by simp [opens, closes, noHead])
        exact Nat.succ_ne_zero _ (stops.mp ends).1
    · exact stopHere (stops.mpr ⟨isEnd.2, .inl isEnd.1⟩) (if_pos isEnd.1).symm
    · obtain ⟨isLine, outside, after⟩ := isBreak
      refine stopHere (stops.mpr ⟨outside, .inr (.inr ⟨isLine, after⟩)⟩) (if_neg ?_).symm
      rw [isLine]
      decide
    · refine goOn _ (fun ends => ?_) (by simp [opens, closes])
      obtain ⟨outside, isSemicolon | closing | breaks⟩ := stops.mp ends
      · exact isEnd ⟨isSemicolon, outside⟩
      · exact closes closing.1
      · exact isBreak ⟨breaks.1, outside, breaks.2⟩

end Searched

/-- **A right side respects brackets.** What stands behind an equals sign closes no bracket that it
has not opened. It ends outside brackets, at the first place at which the text has a semicolon, a
closing bracket without an opening one, or a line feed at which nothing shows that the type goes on;
without such a place it ends with the text. -/
theorem right_side_respects_brackets (text : List Char) (place : Nat)
    (equals : text[place]? = some '=') :
    Extends text (place + 1) (aliasEnd '=' 0 none (place + 1) (text.drop (place + 1))) :=
  (Searched.begin equals).extends_of_rest rfl

/-- A type of four lines, and a line behind it. -/
def arrowText : List Char := "T = (x) => [\n;]\n | B\nC".toList

/-- The type goes on over the first line feeds and a semicolon in brackets, and ends at the last line
feed. -/
theorem right_side_respects_brackets_arrow :
    arrowText[2]? = some '=' ∧ Extends arrowText 3 (20, 20) ∧ StopsAt arrowText 3 20 := by
  have equals : arrowText[2]? = some '=' := by decide
  have ends : aliasEnd '=' 0 none 3 (arrowText.drop 3) = (20, 20) := by decide
  have extends_ := right_side_respects_brackets arrowText 2 equals
  rw [ends] at extends_
  exact ⟨equals, extends_, extends_.stops (by decide)⟩

end TypeSchema
