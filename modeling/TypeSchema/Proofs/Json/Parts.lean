/-
**The parts of a JSON value.**

`Json.parts` lists a value and everything inside it; what holds of every part of items and of fields
holds of every part of the value that is made of them, and the other way round.
-/

import Mathlib.Data.List.Basic
import TypeSchema.Json.Basic

namespace TypeSchema.Json

mutual

/-- A value and everything inside it. -/
def parts : Json → List Json
  | array items => array items :: partsItems items
  | object fields => object fields :: partsFields fields
  | value => [value]

/-- Everything inside items. -/
def partsItems : List Json → List Json
  | [] => []
  | item :: rest => parts item ++ partsItems rest

/-- Everything inside fields. -/
def partsFields : List (String × Json) → List Json
  | [] => []
  | (_, value) :: rest => parts value ++ partsFields rest

end

variable {holds : Json → Prop}

theorem mem_partsItems {items : List Json} {part : Json} :
    part ∈ partsItems items ↔ ∃ item ∈ items, part ∈ item.parts := by
  induction items with
  | nil => simp [partsItems]
  | cons item rest ih => simp [partsItems, ih]

theorem mem_partsFields {fields : List (String × Json)} {part : Json} :
    part ∈ partsFields fields ↔ ∃ field ∈ fields, part ∈ field.2.parts := by
  induction fields with
  | nil => simp [partsFields]
  | cons field rest ih => simp [partsFields, ih]

theorem forall_parts_array {items : List Json} :
    (∀ part ∈ (array items).parts, holds part) ↔
      holds (array items) ∧ ∀ item ∈ items, ∀ part ∈ item.parts, holds part := by
  rw [parts, List.forall_mem_cons]
  refine and_congr_right fun _ => ?_
  simp only [mem_partsItems]
  exact ⟨fun all item member part isPart => all part ⟨item, member, isPart⟩,
    fun all part ⟨item, member, isPart⟩ => all item member part isPart⟩

theorem forall_parts_object {fields : List (String × Json)} :
    (∀ part ∈ (object fields).parts, holds part) ↔
      holds (object fields) ∧ ∀ field ∈ fields, ∀ part ∈ field.2.parts, holds part := by
  rw [parts, List.forall_mem_cons]
  refine and_congr_right fun _ => ?_
  simp only [mem_partsFields]
  exact ⟨fun all field member part isPart => all part ⟨field, member, isPart⟩,
    fun all part ⟨field, member, isPart⟩ => all field member part isPart⟩

/-- A value is a part of itself. -/
theorem mem_parts_self (value : Json) : value ∈ value.parts := by
  cases value <;> exact List.mem_cons_self

end TypeSchema.Json
