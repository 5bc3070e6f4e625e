/-
**Searching a text from left to right.**

* `filterMap_findAll`: where the pattern finds nothing that is kept, and no match reaches past the
  end, the search goes on after that part of the text as if it began there;
* `NoneFound`: nothing at all is found in a part of a text;
* `findAll_found`: a match is found, and the search goes on after it.
-/

import TypeSchema.Source.Scan

namespace TypeSchema

variable {α β : Type} {pattern : Option Char → List Char → Option (α × Nat)} {keep : Nat × α → Option β}

theorem filterMap_cons_toList (keep : α → Option β) (first : α) (rest : List α) :
    (first :: rest).filterMap keep = (keep first).toList ++ rest.filterMap keep := by
  cases isKept : keep first with
  | none => rw [List.filterMap_cons_none isKept, Option.toList_none, List.nil_append]
  | some value => rw [List.filterMap_cons_some isKept, Option.toList_some, List.singleton_append]

/-- The last character of a text, or the one before it if the text is empty. -/
def lastOf (before : Option Char) (text : List Char) : Option Char := text.getLast?.or before

theorem lastOf_cons (before : Option Char) (c : Char) (rest : List Char) :
    lastOf before (c :: rest) = lastOf (some c) rest := by
  cases rest <;> simp [lastOf, List.getLast?_cons]

theorem lastOf_append (before : Option Char) (text other : List Char) :
    lastOf before (text ++ other) = lastOf (lastOf before text) other := by
  rw [lastOf, lastOf, lastOf, List.getLast?_append, Option.or_assoc]

/-- **A part of a text without matches to keep** is passed over. -/
theorem filterMap_findAll {before : Option Char} {region : List Char} (rest : List Char)
    (skip offset : Nat) (fits : skip ≤ region.length)
    (rejected : ∀ front c back found width, region = front ++ c :: back →
      pattern (lastOf before front) (c :: back ++ rest) = some (found, width) →
      width ≤ back.length + 1 ∧ keep (offset + front.length, found) = none) :
    (findAll pattern skip before offset (region ++ rest)).filterMap keep =
      (findAll pattern 0 (lastOf before region) (offset + region.length) rest).filterMap keep := by
  induction region generalizing before skip offset with
  | nil =>
    cases Nat.le_zero.mp fits
    rfl
  | cons c back ih =>
    have later : ∀ front d more found width, back = front ++ d :: more →
        pattern (lastOf (some c) front) (d :: more ++ rest) = some (found, width) →
        width ≤ more.length + 1 ∧ keep (offset + 1 + front.length, found) = none := by
      intro front d more found width same isMatch
      have isRejected := rejected (c :: front) d more found width (by rw [same]; rfl)
        (by rw [lastOf_cons]; exact isMatch)
      rwa [List.length_cons, Nat.add_comm front.length, ← Nat.add_assoc] at isRejected
    have count : offset + (c :: back).length = offset + 1 + back.length := by
      rw [List.length_cons]
      omega
    rw [lastOf_cons, count, List.cons_append]
    match skip with
    | skip + 1 =>
      rw [findAll]
      exact ih skip (offset + 1) (Nat.le_of_succ_le_succ fits) later
    | 0 =>
      rw [findAll]
      cases isMatch : pattern before (c :: (back ++ rest)) with
      | none => exact ih 0 (offset + 1) (Nat.zero_le _) later
      | some result =>
        obtain ⟨found, width⟩ := result
        obtain ⟨inside, isRejected⟩ := rejected [] c back found width rfl isMatch
        rw [List.length_nil, Nat.add_zero] at isRejected
        rw [List.filterMap_cons_none isRejected]
        exact ih (width - 1) (offset + 1) (by omega) later

/-- Nothing is found in a text before another one: a search passes over it. -/
def NoneFound (pattern : Option Char → List Char → Option (α × Nat)) (text rest : List Char) : Prop :=
  ∀ before offset, findAll pattern 0 before offset (text ++ rest) =
    findAll pattern 0 (lastOf before text) (offset + text.length) rest

/-- **A part of a text without matches** is passed over. -/
theorem noneFound_of_none {text rest : List Char}
    (none_ : ∀ before front c back, text = front ++ c :: back →
      pattern (lastOf before front) (c :: back ++ rest) = none) : NoneFound pattern text rest := by
  intro before offset
  have passed := @filterMap_findAll _ _ pattern some before text rest 0 offset (Nat.zero_le _)
    fun front c back found width same isMatch => by
      rw [none_ before front c back same] at isMatch
      cases isMatch
  rwa [List.filterMap_some, List.filterMap_some] at passed

theorem noneFound_of_chars {text : List Char}
    (none_ : ∀ c ∈ text, ∀ before rest, pattern before (c :: rest) = none) (rest : List Char) :
    NoneFound pattern text rest := by
  refine noneFound_of_none fun before front c back same => none_ c ?_ _ _
  rw [same]
  simp

theorem NoneFound.append {text other rest : List Char}
    (first : NoneFound pattern text (other ++ rest)) (second : NoneFound pattern other rest) :
    NoneFound pattern (text ++ other) rest := by
  intro before offset
  rw [List.append_assoc, first, second, lastOf_append, List.length_append, Nat.add_assoc]

theorem findAll_skip (before : Option Char) (offset : Nat) (skipped rest : List Char) :
    findAll pattern skipped.length before offset (skipped ++ rest) =
      findAll pattern 0 (lastOf before skipped) (offset + skipped.length) rest := by
  induction skipped generalizing before offset with
  | nil => rfl
  | cons c skipped ih =>
    rw [List.length_cons, List.cons_append, findAll, ih, lastOf_cons, Nat.add_assoc,
      Nat.add_comm 1]

/-- **A match** is found, and the search goes on after it. -/
theorem findAll_found {before : Option Char} {front rest : List Char} {found : α} {width : Nat}
    (some_ : front ≠ []) (isWidth : front.length = width)
    (isMatch : pattern before (front ++ rest) = some (found, width)) (offset : Nat) :
    findAll pattern 0 before offset (front ++ rest) =
      (offset, found) :: findAll pattern 0 (lastOf before front) (offset + width) rest := by
  cases front with
  | nil => exact absurd rfl some_
  | cons c front =>
    subst isWidth
    rw [List.cons_append] at isMatch ⊢
    rw [findAll, isMatch]
    dsimp only
    rw [List.length_cons, Nat.add_sub_cancel, findAll_skip, lastOf_cons, Nat.add_assoc,
      Nat.add_comm 1]

end TypeSchema
