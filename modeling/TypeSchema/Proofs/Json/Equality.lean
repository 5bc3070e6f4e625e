/-
**Equality of JSON values.**

* `Extent`: what a number measures, whichever way it is held;
* `Number.same_iff`: two numbers are the same when they measure the same;
* `Json.Equals`: equal numbers measure the same, arrays are equal place by place, and objects field
  by field, in any order; a boolean equals no number;
* `Json.same_iff`: **the comparison of values decides it.**
-/

import Mathlib.Data.List.Basic
import TypeSchema.Json.Basic

namespace TypeSchema

/-! ### Numbers -/

/-- What a number measures: a count of units, or more than every count. -/
inductive Extent where
  | units (count : Int)
  | endless (negative : Bool)
deriving DecidableEq

/-- What a double precision number measures, if it is a number at all. -/
def Binary64.extent? : Binary64 → Option Extent
  | .nan => none
  | .infinite negative => some (.endless negative)
  | .finite negative units _ => some (.units (signedUnits negative units))

/-- What a number measures. -/
def Number.extent? : Number → Option Extent
  | .int value => some (.units (value * unitsPerOne))
  | .real value => value.extent?

theorem unitsPerOne_pos : 0 < unitsPerOne := by
  unfold unitsPerOne
  generalize 1074 = exponent
  exact Nat.two_pow_pos exponent

theorem units_inj {first second : Int} :
    first * unitsPerOne = second * unitsPerOne ↔ first = second :=
  Int.mul_eq_mul_right_iff (Int.natCast_ne_zero.mpr (Nat.ne_of_gt unitsPerOne_pos))

theorem swap_eq_eq_iff (order : Ordering) : order.swap = .eq ↔ order = .eq := by
  cases order <;> simp

theorem compare_units_iff (first second : Int) :
    some (compare first second) = some .eq ↔
      ∃ extent, some (Extent.units first) = some extent ∧ some (.units second) = some extent := by
  rw [Option.some.injEq, Std.compare_eq_iff_eq]
  constructor
  · rintro rfl
    exact ⟨_, rfl, rfl⟩
  · rintro ⟨_, ⟨⟩, ⟨⟩⟩
    rfl

theorem Binary64.compareInt?_eq_iff (value : Binary64) (other : Int) :
    value.compareInt? other = some .eq ↔
      ∃ extent, value.extent? = some extent ∧
        some (.units (other * unitsPerOne)) = some extent := by
  cases value with
  | nan => exact ⟨nofun, by rintro ⟨_, ⟨⟩, _⟩⟩
  | infinite negative => cases negative <;> exact ⟨nofun, by rintro ⟨_, ⟨⟩, ⟨⟩⟩⟩
  | finite negative units _ => exact compare_units_iff _ _

theorem Binary64.compare?_eq_iff (first second : Binary64) :
    first.compare? second = some .eq ↔
      ∃ extent, first.extent? = some extent ∧ second.extent? = some extent := by
  cases first with
  | nan => exact ⟨nofun, by rintro ⟨_, ⟨⟩, _⟩⟩
  | infinite negative =>
    cases second with
    | nan => exact ⟨nofun, by rintro ⟨_, _, ⟨⟩⟩⟩
    | infinite other => cases negative <;> cases other <;> decide
    | finite other units _ => cases negative <;> exact ⟨nofun, by rintro ⟨_, ⟨⟩, ⟨⟩⟩⟩
  | finite negative units _ =>
    cases second with
    | nan => exact ⟨nofun, by rintro ⟨_, _, ⟨⟩⟩⟩
    | infinite other => cases other <;> exact ⟨nofun, by rintro ⟨_, ⟨⟩, ⟨⟩⟩⟩
    | finite other others _ => exact compare_units_iff _ _

/-- **Two numbers are the same when they measure the same.** -/
theorem Number.same_iff (first second : Number) :
    first.same second = true ↔
      ∃ extent, first.extent? = some extent ∧ second.extent? = some extent := by
  rw [same, beq_iff_eq]
  cases first with
  | int value =>
    cases second with
    | int other =>
      have scaled : some (compare value other) = some .eq ↔
          some (compare (value * unitsPerOne) (other * unitsPerOne)) = some .eq := by
        rw [Option.some.injEq, Option.some.injEq, Std.compare_eq_iff_eq, Std.compare_eq_iff_eq,
          units_inj]
      exact scaled.trans (compare_units_iff _ _)
    | real other =>
      show (other.compareInt? value).map Ordering.swap = some .eq ↔ _
      rw [Option.map_eq_some_iff]
      simp only [swap_eq_eq_iff, exists_eq_right]
      rw [Binary64.compareInt?_eq_iff]
      exact exists_congr fun extent => and_comm
  | real value =>
    cases second with
    | int other => exact Binary64.compareInt?_eq_iff value other
    | real other => exact Binary64.compare?_eq_iff value other

/-! ### Values -/

/-- What holds place by place of two lists holds of their first items and of the others. -/
theorem forall_place_cons_iff {α β : Type} {first : α} {rest : List α} {second : β}
    {others : List β} {holds : α → β → Prop} :
    (∀ (place : Nat) (_ : place < (first :: rest).length) (_ : place < (second :: others).length),
        holds (first :: rest)[place] (second :: others)[place]) ↔
      holds first second ∧ ∀ (place : Nat) (_ : place < rest.length) (_ : place < others.length),
        holds rest[place] others[place] := by
  constructor
  · intro each
    refine ⟨each 0 (Nat.succ_pos _) (Nat.succ_pos _), fun place inRest inOthers => ?_⟩
    exact each (place + 1) (Nat.succ_lt_succ inRest) (Nat.succ_lt_succ inOthers)
  · rintro ⟨head, tail⟩ place inFirst inSecond
    cases place with
    | zero => exact head
    | succ place =>
      exact tail place (Nat.lt_of_succ_lt_succ inFirst) (Nat.lt_of_succ_lt_succ inSecond)

namespace Json

theorem sizeOf_snd_lt {field : String × Json} {fields : List (String × Json)}
    (member : field ∈ fields) : sizeOf field.2 < sizeOf fields := by
  have inner : sizeOf field.2 < sizeOf field := by
    obtain ⟨name, value⟩ := field
    rw [Prod.mk.sizeOf_spec]
    dsimp only
    omega
  exact Nat.lt_trans inner (List.sizeOf_lt_of_mem member)

/-- Equal values. -/
def Equals : Json → Json → Prop
  | null, value => value = null
  | bool truth, value => value = bool truth
  | number first, value =>
    ∃ second, value = number second ∧
      ∃ extent, first.extent? = some extent ∧ second.extent? = some extent
  | string text, value => value = string text
  | array items, value =>
    ∃ others, value = array others ∧ items.length = others.length ∧
      ∀ (place : Nat) (_ : place < items.length) (_ : place < others.length),
        items[place].Equals others[place]
  | object fields, value =>
    ∃ others, value = object others ∧ fields.length = others.length ∧
      ∀ (field : String × Json) (_ : field ∈ fields),
        ∃ other, others.lookup field.1 = some other ∧ field.2.Equals other
termination_by value => sizeOf value
decreasing_by
  all_goals simp_wf
  · have := List.sizeOf_lt_of_mem (List.getElem_mem (l := items) ‹_›)
    omega
  · have := sizeOf_snd_lt ‹field ∈ fields›
    omega

mutual

/-- **The comparison of values decides whether they are equal.** -/
theorem same_iff : (first second : Json) → (first.same second = true ↔ first.Equals second)
  | null, second => by cases second <;> simp [same, Equals]
  | bool truth, second => by cases second <;> simp [same, Equals, eq_comm (a := truth)]
  | number value, second => by cases second <;> simp [same, Equals, Number.same_iff]
  | string text, second => by cases second <;> simp [same, Equals, eq_comm (a := text)]
  | array items, second => by
    cases second with
    | array others =>
      rw [same, sameItems_iff items others, Equals]
      simp
    | _ => simp [same, Equals]
  | object fields, second => by
    cases second with
    | object others =>
      rw [same, Bool.and_eq_true, beq_iff_eq, sameFields_iff fields others, Equals]
      simp
    | _ => simp [same, Equals]

theorem sameItems_iff : (first second : List Json) → (sameItems first second = true ↔
    first.length = second.length ∧
      ∀ (place : Nat) (_ : place < first.length) (_ : place < second.length),
        first[place].Equals second[place])
  | [], second => by cases second <;> simp [sameItems]
  | first :: rest, [] => by simp [sameItems]
  | first :: rest, second :: others => by
    rw [sameItems, Bool.and_eq_true, same_iff first second, sameItems_iff rest others,
      forall_place_cons_iff, List.length_cons, List.length_cons, Nat.add_right_cancel_iff]
    exact and_left_comm

theorem sameFields_iff : (fields others : List (String × Json)) →
    (sameFields fields others = true ↔ ∀ field ∈ fields,
      ∃ other, others.lookup field.1 = some other ∧ field.2.Equals other)
  | [], others => by simp [sameFields]
  | (name, value) :: rest, others => by
    rw [sameFields, Bool.and_eq_true, sameFields_iff rest others, List.forall_mem_cons]
    cases found : others.lookup name with
    | none => simp
    | some other => simp [same_iff value other]

end

end Json

end TypeSchema
