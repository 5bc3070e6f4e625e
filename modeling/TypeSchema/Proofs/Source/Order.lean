/-
**The exports of a source in order.**

* `mergeSort_stable`: sorting brings keys in order and keeps the order of elements with one key;
* `pairwise_mergeSort_key`: what holds of elements with one key before sorting holds afterwards;
* `mergeSort_eq_of_filter`: a list in order with the same elements at every key is what sorting
  gives;
* `mergeSort_flatMap`: **two kinds of values from the same places** are brought back into the order
  of the places;
* `exports_ofSource`: exports that are found in order are the exports as they are.
-/

import Mathlib.Data.List.Perm.Basic
import TypeSchema.Source.Scan

namespace TypeSchema

/-! ### Sorting by a key -/

section Sorting

variable {α β : Type} {key : α → Nat} {values sorted : List α}

/-- Lists in order with the same elements at every key are equal. -/
theorem eq_of_filter (inOrder : values.Pairwise fun a b => key a ≤ key b)
    (isSorted : sorted.Pairwise fun a b => key a ≤ key b) (perm : values.Perm sorted)
    (same : ∀ k, values.filter (key · = k) = sorted.filter (key · = k)) : values = sorted := by
  induction values generalizing sorted with
  | nil => exact perm.nil_eq
  | cons a values ih =>
    cases sorted with
    | nil => exact perm.eq_nil
    | cons b sorted =>
      obtain ⟨least, restInOrder⟩ := List.pairwise_cons.mp inOrder
      obtain ⟨first, restIsSorted⟩ := List.pairwise_cons.mp isSorted
      -- Both keys are least, so they are the same.
      have atMost : key a ≤ key b := by
        rcases List.mem_cons.mp (perm.mem_iff.mpr List.mem_cons_self) with rfl | member
        · exact Nat.le_refl _
        · exact least b member
      have atLeast : key b ≤ key a := by
        rcases List.mem_cons.mp (perm.mem_iff.mp List.mem_cons_self) with rfl | member
        · exact Nat.le_refl _
        · exact first a member
      have equal : key b = key a := Nat.le_antisymm atLeast atMost
      have heads := same (key a)
      simp only [List.filter_cons, equal, decide_true, if_true, List.cons.injEq] at heads
      obtain ⟨rfl, -⟩ := heads
      refine congrArg (List.cons a) (ih restInOrder restIsSorted perm.cons_inv fun k => ?_)
      have whole := same k
      by_cases here : key a = k
      · simpa [List.filter_cons, here] using whole
      · simpa [List.filter_cons, here] using whole

/-- Sorting brings the keys in order and moves no elements with one key past each other. -/
theorem mergeSort_stable (key : α → Nat) (values : List α) :
    (values.mergeSort fun a b => decide (key a ≤ key b)).Pairwise (fun a b => key a ≤ key b) ∧
      ∀ k, (values.mergeSort fun a b => decide (key a ≤ key b)).filter (key · = k) =
        values.filter (key · = k) := by
  have trans (a b c : α) (first : decide (key a ≤ key b) = true)
      (second : decide (key b ≤ key c) = true) : decide (key a ≤ key c) = true := by
    simp only [decide_eq_true_eq] at first second ⊢
    omega
  have total (a b : α) : (decide (key a ≤ key b) || decide (key b ≤ key a)) = true := by
    simp only [Bool.or_eq_true, decide_eq_true_eq]
    omega
  refine ⟨(List.pairwise_mergeSort trans total values).imp of_decide_eq_true, fun k => ?_⟩
  have equalKeys :
      (values.filter (key · = k)).Pairwise fun a b => decide (key a ≤ key b) = true := by
    refine List.pairwise_of_forall_mem_list fun a isA b isB => ?_
    simp only [List.mem_filter, decide_eq_true_eq] at isA isB ⊢
    omega
  have kept := (List.sublist_mergeSort trans total equalKeys List.filter_sublist).filter (key · = k)
  rw [List.filter_filter] at kept
  simp only [Bool.and_self] at kept
  exact (kept.eq_of_length ((List.mergeSort_perm values _).filter _).length_eq.symm).symm

/-- **Sorting breaks ties by the order before**: what holds of elements with one key in that order
holds of them afterwards. -/
theorem pairwise_mergeSort_key {key : α → Nat} {values : List α} {ordered : α → α → Prop}
    (same : values.Pairwise fun a b => key a = key b → ordered a b) :
    (values.mergeSort fun a b => decide (key a ≤ key b)).Pairwise fun a b =>
      key a < key b ∨ key a = key b ∧ ordered a b := by
  obtain ⟨inOrder, kept⟩ := mergeSort_stable key values
  have atKey (k : Nat) : ((values.mergeSort fun a b => decide (key a ≤ key b)).filter
      (key · = k)).Pairwise ordered := by
    rw [kept k]
    refine (same.filter _).imp_of_mem fun {a b} isA isB ordered => ordered ?_
    simp only [List.mem_filter, decide_eq_true_eq] at isA isB
    exact isA.2.trans isB.2.symm
  generalize values.mergeSort (fun a b => decide (key a ≤ key b)) = result at inOrder atKey
  induction result with
  | nil => exact .nil
  | cons a rest ih =>
    obtain ⟨least, restInOrder⟩ := List.pairwise_cons.mp inOrder
    refine .cons (fun b member => ?_) (ih restInOrder fun k =>
      (atKey k).sublist ((List.sublist_cons_self a rest).filter _))
    rcases Nat.lt_or_eq_of_le (least b member) with less | equal
    · exact .inl less
    · have first := atKey (key a)
      rw [List.filter_cons_of_pos (by simp), List.pairwise_cons] at first
      exact .inr ⟨equal, first.1 b (List.mem_filter.mpr ⟨member, by simp [equal]⟩)⟩

/-- **A list in order with the same elements at every key is what sorting gives.** -/
theorem mergeSort_eq_of_filter (isSorted : sorted.Pairwise fun a b => key a ≤ key b)
    (perm : values.Perm sorted)
    (same : ∀ k, values.filter (key · = k) = sorted.filter (key · = k)) :
    values.mergeSort (fun a b => decide (key a ≤ key b)) = sorted := by
  obtain ⟨inOrder, kept⟩ := mergeSort_stable key values
  exact eq_of_filter inOrder isSorted ((List.mergeSort_perm values _).trans perm) fun k =>
    (kept k).trans (same k)

/-- **Two kinds of values from the same places** are brought back into the order of the places. -/
theorem mergeSort_flatMap {places : List β} {offset : β → Nat}
    (increasing : places.Pairwise fun place later => offset place < offset later)
    {first second : β → List α} (atFirst : ∀ place, ∀ value ∈ first place, key value = offset place)
    (atSecond : ∀ place, ∀ value ∈ second place, key value = offset place) :
    (places.flatMap first ++ places.flatMap second).mergeSort (fun a b => decide (key a ≤ key b)) =
      places.flatMap fun place => first place ++ second place := by
  have here {place : β} {value : α} (member : value ∈ first place ++ second place) :
      key value = offset place :=
    (List.mem_append.mp member).elim (atFirst place value) (atSecond place value)
  refine mergeSort_eq_of_filter ?_ (List.flatMap_append_perm places first second) fun k => ?_
  · rw [List.pairwise_flatMap]
    refine ⟨fun place _ => List.pairwise_of_forall_mem_list fun a isA b isB => ?_,
      increasing.imp fun less a isA b isB => ?_⟩
    · exact Nat.le_of_eq ((here isA).trans (here isB).symm)
    · rw [here isA, here isB]
      exact Nat.le_of_lt less
  · induction places with
    | nil => rfl
    | cons place places ih =>
      obtain ⟨later, rest⟩ := List.pairwise_cons.mp increasing
      have same := ih rest
      simp only [List.flatMap_cons, List.filter_append] at same ⊢
      by_cases isKey : offset place = k
      · -- No later place has the same key.
        have nothing {values : β → List α}
            (at_ : ∀ place, ∀ value ∈ values place, key value = offset place) :
            (places.flatMap values).filter (key · = k) = [] := by
          refine List.filter_eq_nil_iff.mpr fun value member => ?_
          obtain ⟨other, isOther, inside⟩ := List.mem_flatMap.mp member
          have less := later other isOther
          rw [at_ other value inside, decide_eq_true_eq]
          omega
        rw [nothing atFirst, nothing atSecond, List.append_nil] at same
        rw [nothing atFirst, nothing atSecond, ← same, List.append_nil, List.append_nil,
          List.append_nil]
      · have nothing {values : List α} (at_ : ∀ value ∈ values, key value = offset place) :
            values.filter (key · = k) = [] := by
          refine List.filter_eq_nil_iff.mpr fun value member => ?_
          rw [at_ value member, decide_eq_true_eq]
          exact isKey
        rw [nothing (atFirst place), nothing (atSecond place), List.nil_append, List.nil_append,
          same]
        rfl

end Sorting

/-! ### Exports -/

/-- The exports of a source with their offsets, the aliases first. -/
def locatedExports (source : List Char) : List (Nat × Export) :=
  ((findAliases source (mask source)).filter (·.exported)).map (fun declaration =>
    (declaration.start, .declared declaration)) ++
  (findBlocks (mask source)).flatMap fun (offset, block) => exportsOf source offset block

/-- Exports that come in order are not moved. -/
theorem exports_ofSource (path : String) {source : List Char} {found : List (Nat × Export)}
    (located : locatedExports source = found)
    (sorted : found.Pairwise fun first second => first.1 ≤ second.1) :
    (Declarations.ofSource path source).exports = found.map Prod.snd := by
  change ((locatedExports source).mergeSort fun a b => decide (a.1 ≤ b.1)).map Prod.snd = _
  rw [located, List.mergeSort_of_pairwise (sorted.imp decide_eq_true)]

end TypeSchema
