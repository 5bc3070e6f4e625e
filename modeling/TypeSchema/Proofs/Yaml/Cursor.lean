/-
**Moving through a YAML text.**

* `Cursor.rest_next`, `Cursor.rest_advance`: what is left after some characters;
* `Cursor.advance_printable`: printable characters move a place along its line, each by one column;
* `Cursor.takeWhile_append`: a run of characters that satisfy a test.
-/

import TypeSchema.Yaml.Write

namespace TypeSchema.Yaml

/-- A character that neither ends a line nor separates words. -/
def IsInk (c : Char) : Prop := isGap c = false ∧ isBreak c = false

instance (c : Char) : Decidable (IsInk c) := inferInstanceAs (Decidable (_ ∧ _))

theorem toNat_of_isPrintableAscii {c : Char} (printable : isPrintableAscii c = true) :
    0x20 ≤ c.toNat ∧ c.toNat ≤ 0x7e := by
  simp only [isPrintableAscii, Bool.and_eq_true, decide_eq_true_eq, Char.le_def,
    UInt32.le_iff_toNat_le] at printable
  exact printable

theorem isBreak_of_isPrintableAscii {c : Char} (printable : isPrintableAscii c = true) :
    isBreak c = false := by
  have bounds := toNat_of_isPrintableAscii printable
  unfold isBreak
  simp only [Bool.or_eq_false_iff, beq_eq_false_iff_ne]
  refine ⟨⟨⟨⟨?_, ?_⟩, ?_⟩, ?_⟩, ?_⟩ <;>
  · rintro rfl
    exact absurd bounds (by decide)

theorem isInk_of_isPrintableAscii {c : Char} (printable : isPrintableAscii c = true)
    (visible : c ≠ ' ') : IsInk c := by
  refine ⟨?_, isBreak_of_isPrintableAscii printable⟩
  have bounds := toNat_of_isPrintableAscii printable
  simp only [isGap, Bool.or_eq_false_iff, beq_eq_false_iff_ne]
  refine ⟨visible, ?_⟩
  rintro rfl
  exact absurd bounds (by decide)

namespace Cursor

theorem rest_next (cursor : Cursor) : cursor.next.rest = cursor.rest.tail := by
  unfold next
  cases rest : cursor.rest with
  | nil => exact rest
  | cons c more =>
    dsimp only
    split
    · rfl
    · split <;> rfl

theorem rest_advance (count : Nat) (cursor : Cursor) :
    (cursor.advance count).rest = cursor.rest.drop count := by
  induction count generalizing cursor with
  | zero => rfl
  | succ count ih => rw [advance, ih, rest_next, List.drop_tail]

/-- A printable character takes one column. -/
theorem next_printable {c : Char} {rest : List Char} {index line column : Nat}
    (printable : isPrintableAscii c = true) :
    (Cursor.mk (c :: rest) index line column).next = ⟨rest, index + 1, line, column + 1⟩ := by
  have noBreak := isBreak_of_isPrintableAscii printable
  have bounds := toNat_of_isPrintableAscii printable
  simp only [isBreak, Bool.or_eq_false_iff, beq_eq_false_iff_ne] at noBreak
  have noMark : c ≠ '\uFEFF' := by
    rintro rfl
    exact absurd bounds (by decide)
  simp [next, noBreak, noMark]

/-- A line feed goes to the start of the next line. -/
theorem next_lineFeed (rest : List Char) (index line column : Nat) :
    (Cursor.mk ('\n' :: rest) index line column).next = ⟨rest, index + 1, line + 1, 0⟩ := by
  simp [next]

/-- **Printable characters move a place along its line.** -/
theorem advance_printable {front rest : List Char}
    (printable : ∀ c ∈ front, isPrintableAscii c = true) {cursor : Cursor}
    (here : cursor.rest = front ++ rest) :
    cursor.advance front.length =
      ⟨rest, cursor.index + front.length, cursor.line, cursor.column + front.length⟩ := by
  induction front generalizing cursor with
  | nil =>
    cases here
    rfl
  | cons c front ih =>
    rw [List.forall_mem_cons] at printable
    obtain ⟨_, index, line, column⟩ := cursor
    cases here
    rw [List.length_cons, advance]
    change advance front.length (Cursor.next ⟨c :: (front ++ rest), index, line, column⟩) = _
    rw [next_printable printable.1, ih printable.2 rfl, Nat.add_right_comm,
      Nat.add_right_comm column, Nat.add_assoc, Nat.add_assoc]

theorem advance_spaces (count : Nat) (rest : List Char) (index line column : Nat) :
    (Cursor.mk (List.replicate count ' ' ++ rest) index line column).advance count =
      ⟨rest, index + count, line, column + count⟩ := by
  have printable : ∀ c ∈ List.replicate count ' ', isPrintableAscii c = true := fun c member => by
    rw [List.eq_of_mem_replicate member]
    rfl
  have moved := advance_printable printable
    (show (Cursor.mk (List.replicate count ' ' ++ rest) index line column).rest = _ from rfl)
  rwa [List.length_replicate] at moved

theorem takeWhile_append {test : Char → Bool} (front rest : List Char)
    (inside : ∀ c ∈ front, test c = true) (outside : rest.head?.any test = false)
    {cursor : Cursor} (here : cursor.rest = front ++ rest) :
    cursor.takeWhile test = (front, cursor.advance front.length) := by
  have taken : cursor.rest.takeWhile test = front := by
    rw [here, List.takeWhile_append_of_pos inside]
    cases rest with
    | nil => simp
    | cons c rest => simp_all
  unfold takeWhile
  rw [taken]

/-- Nothing is taken where the first character fails the test. -/
theorem takeWhile_nothing {test : Char → Bool} {cursor : Cursor}
    (outside : cursor.rest.head?.any test = false) : cursor.takeWhile test = ([], cursor) :=
  takeWhile_append [] _ nofun outside rfl

theorem takeBreak_lineFeed (rest : List Char) (index line column : Nat) :
    (Cursor.mk ('\n' :: rest) index line column).takeBreak =
      (['\n'], ⟨rest, index + 1, line + 1, 0⟩) := by
  simp [takeBreak, next_lineFeed]

end Cursor

end TypeSchema.Yaml
