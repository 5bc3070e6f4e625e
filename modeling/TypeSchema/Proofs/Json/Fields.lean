/-
**Fields that are written one after the other.**

* `lookup_setField`: a written field reads back, and every other one is as it was;
* `lookup_collectFields`: **the last value of a name counts**;
* `nodup_collectFields`: collected fields have distinct names, so that a field stands among them
  exactly when its name reads its value (`mem_collectFields_iff`);
* `map_fst_collectFields`: a name has the place of its first field.
-/

import Mathlib.Data.List.Induction
import Mathlib.Data.List.Nodup
import TypeSchema.Json.Basic

namespace TypeSchema

variable {α : Type}

/-- Reading a name: the first field decides if the name is its own. -/
theorem lookup_first {κ : Type} [BEq κ] [LawfulBEq κ] [DecidableEq κ] (name first : κ) (value : α)
    (rest : List (κ × α)) :
    ((first, value) :: rest).lookup name =
      if name = first then some value else rest.lookup name := by
  rw [List.lookup_cons]
  by_cases same : name = first
  · rw [beq_iff_eq.mpr same, if_pos same]
  · rw [beq_eq_false_iff_ne.mpr same, if_neg same]

/-! ### Writing one field -/

theorem lookup_setField (name other : String) (value : α) (fields : List (String × α)) :
    (setField name value fields).lookup other =
      if other = name then some value else fields.lookup other := by
  induction fields with
  | nil => rw [setField, lookup_first]
  | cons field rest ih =>
    obtain ⟨first, old⟩ := field
    by_cases same : first = name
    · subst same
      rw [setField, if_pos rfl, lookup_first, lookup_first]
      split <;> rfl
    · rw [setField, if_neg same, lookup_first, lookup_first, ih]
      by_cases found : other = first
      · subst found
        rw [if_pos rfl, if_neg same, if_pos rfl]
      · rw [if_neg found, if_neg found]

theorem map_fst_setField (name : String) (value : α) (fields : List (String × α)) :
    (setField name value fields).map Prod.fst =
      if name ∈ fields.map Prod.fst then fields.map Prod.fst
      else fields.map Prod.fst ++ [name] := by
  induction fields with
  | nil => simp [setField]
  | cons field rest ih =>
    obtain ⟨first, old⟩ := field
    by_cases same : first = name
    · simp [setField, same]
    · have other : name ≠ first := fun equal => same equal.symm
      simp only [setField, if_neg same, List.map_cons, ih, List.mem_cons, other, false_or]
      split <;> rfl

/-- A field after a write is the written one or an old one. -/
theorem mem_of_mem_setField {name : String} {value : α} {fields : List (String × α)}
    {field : String × α} (member : field ∈ setField name value fields) :
    field = (name, value) ∨ field ∈ fields := by
  induction fields with
  | nil => exact .inl (List.mem_singleton.mp member)
  | cons first rest ih =>
    obtain ⟨other, old⟩ := first
    by_cases same : other = name
    · simp only [setField, if_pos same] at member
      exact (List.mem_cons.mp member).imp_right (List.mem_cons_of_mem _)
    · simp only [setField, if_neg same] at member
      rcases List.mem_cons.mp member with rfl | inRest
      · exact .inr List.mem_cons_self
      · exact (ih inRest).imp_right (List.mem_cons_of_mem _)

/-- The written field is there. -/
theorem mem_setField_self (name : String) (value : α) (fields : List (String × α)) :
    (name, value) ∈ setField name value fields := by
  induction fields with
  | nil => exact List.mem_cons_self
  | cons first rest ih =>
    obtain ⟨other, old⟩ := first
    rw [setField]
    split
    · exact List.mem_cons_self
    · exact List.mem_cons_of_mem _ ih

/-- A field of another name stays. -/
theorem mem_setField_of_ne {name : String} {value : α} {fields : List (String × α)}
    {field : String × α} (member : field ∈ fields) (differs : field.1 ≠ name) :
    field ∈ setField name value fields := by
  induction fields with
  | nil => cases member
  | cons first rest ih =>
    obtain ⟨other, old⟩ := first
    rw [setField]
    rcases List.mem_cons.mp member with rfl | inRest
    · rw [if_neg differs]
      exact List.mem_cons_self
    · split
      · exact List.mem_cons_of_mem _ inRest
      · exact List.mem_cons_of_mem _ (ih inRest)

theorem mem_of_lookup {name : String} {value : α} {fields : List (String × α)}
    (found : fields.lookup name = some value) : (name, value) ∈ fields := by
  obtain ⟨front, rest, rfl, -⟩ := List.lookup_eq_some_iff.mp found
  simp

/-! ### Distinct names -/

/-- Among fields with distinct names, a field is what its name reads. -/
theorem mem_iff_lookup {fields : List (String × α)} (distinct : (fields.map Prod.fst).Nodup)
    (name : String) (value : α) : (name, value) ∈ fields ↔ fields.lookup name = some value := by
  induction fields with
  | nil => simp
  | cons field rest ih =>
    obtain ⟨first, old⟩ := field
    obtain ⟨fresh, distinct⟩ := List.nodup_cons.mp distinct
    by_cases same : name = first
    · subst same
      have absent : (name, value) ∉ rest := fun member => fresh (List.mem_map.mpr ⟨_, member, rfl⟩)
      rw [lookup_first, if_pos rfl, List.mem_cons, or_iff_left absent]
      simp [eq_comm]
    · rw [lookup_first, if_neg same, List.mem_cons, ← ih distinct]
      simp [same]

theorem nodup_setField {name : String} {value : α} {fields : List (String × α)}
    (distinct : (fields.map Prod.fst).Nodup) :
    ((setField name value fields).map Prod.fst).Nodup := by
  rw [map_fst_setField]
  split
  · exact distinct
  · rename_i fresh
    exact List.nodup_append_comm.mp (List.nodup_cons.mpr ⟨fresh, distinct⟩)

/-! ### Fields collected in order -/

theorem collectFields_concat (fields : List (String × α)) (name : String) (value : α) :
    collectFields (fields ++ [(name, value)]) = setField name value (collectFields fields) := by
  simp [collectFields]

/-- A name that is not there yet goes to the end. -/
theorem setField_of_notMem {name : String} {value : α} {fields : List (String × α)}
    (fresh : name ∉ fields.map Prod.fst) :
    setField name value fields = fields ++ [(name, value)] := by
  induction fields with
  | nil => rfl
  | cons field rest ih =>
    obtain ⟨first, old⟩ := field
    rw [List.map_cons, List.mem_cons, not_or] at fresh
    rw [setField, if_neg (Ne.symm fresh.1), ih fresh.2, List.cons_append]

/-- Fields with distinct names are collected as they are. -/
theorem collectFields_of_nodup {fields : List (String × α)}
    (distinct : (fields.map Prod.fst).Nodup) : collectFields fields = fields := by
  induction fields using List.reverseRecOn with
  | nil => rfl
  | append_singleton earlier last ih =>
    rw [List.map_append, List.map_singleton] at distinct
    obtain ⟨fresh, earlierDistinct⟩ := List.nodup_cons.mp (List.nodup_append_comm.mp distinct)
    rw [collectFields_concat, ih earlierDistinct, setField_of_notMem fresh]

/-- Collected fields have distinct names. -/
theorem nodup_collectFields (fields : List (String × α)) :
    ((collectFields fields).map Prod.fst).Nodup := by
  induction fields using List.reverseRecOn with
  | nil => exact List.nodup_nil
  | append_singleton earlier last ih =>
    rw [collectFields_concat]
    exact nodup_setField ih

/-- A changed value is found by its name. -/
theorem lookup_map {β : Type} (change : α → β) (name : String) (fields : List (String × α)) :
    (fields.map (Prod.map id change)).lookup name = (fields.lookup name).map change := by
  induction fields with
  | nil => rfl
  | cons field rest ih =>
    obtain ⟨first, value⟩ := field
    rw [List.map_cons, Prod.map_apply, id, lookup_first, lookup_first, ih]
    split <;> rfl

/-- Setting a field and changing all values, in either order. -/
theorem map_setField {β : Type} (change : α → β) (name : String) (value : α)
    (fields : List (String × α)) : (setField name value fields).map (Prod.map id change) =
      setField name (change value) (fields.map (Prod.map id change)) := by
  induction fields with
  | nil => rfl
  | cons field rest ih =>
    obtain ⟨first, old⟩ := field
    rw [setField, List.map_cons, Prod.map_apply, id, setField]
    split
    · rfl
    · rw [List.map_cons, ih]
      rfl

/-- Collecting fields and changing all values, in either order. -/
theorem map_collectFields {β : Type} (change : α → β) (fields : List (String × α)) :
    (collectFields fields).map (Prod.map id change) =
      collectFields (fields.map (Prod.map id change)) := by
  induction fields using List.reverseRecOn with
  | nil => rfl
  | append_singleton earlier last ih =>
    obtain ⟨name, value⟩ := last
    rw [collectFields_concat, map_setField, ih, List.map_append, List.map_singleton,
      Prod.map_apply, collectFields_concat]
    rfl

/-- **The last value of a name counts.** -/
theorem lookup_collectFields (fields : List (String × α)) (name : String) :
    (collectFields fields).lookup name = fields.reverse.lookup name := by
  induction fields using List.reverseRecOn with
  | nil => rfl
  | append_singleton earlier last ih =>
    rw [collectFields_concat, lookup_setField, ih, List.reverse_append, List.reverse_singleton,
      List.singleton_append, lookup_first]

/-- A collected field is the last one of its name. -/
theorem mem_collectFields_iff (fields : List (String × α)) (name : String) (value : α) :
    (name, value) ∈ collectFields fields ↔ fields.reverse.lookup name = some value := by
  rw [mem_iff_lookup (nodup_collectFields fields), lookup_collectFields]

/-- Collecting adds no field. -/
theorem mem_of_mem_collectFields {fields : List (String × α)} {field : String × α}
    (member : field ∈ collectFields fields) : field ∈ fields := by
  induction fields using List.reverseRecOn with
  | nil => exact member
  | append_singleton earlier last ih =>
    rw [collectFields_concat] at member
    rcases mem_of_mem_setField member with rfl | old
    · exact List.mem_append_right _ List.mem_cons_self
    · exact List.mem_append_left _ (ih old)

/-- Collecting loses no name and adds none. -/
theorem mem_map_fst_collectFields (fields : List (String × α)) (name : String) :
    name ∈ (collectFields fields).map Prod.fst ↔ name ∈ fields.map Prod.fst := by
  induction fields using List.reverseRecOn with
  | nil => rfl
  | append_singleton earlier last ih =>
    rw [collectFields_concat, map_fst_setField, List.map_append, List.mem_append, ← ih]
    split
    · rename_i present
      simp only [List.map_cons, List.map_nil, List.mem_singleton]
      exact ⟨.inl, fun either => either.elim id fun same => same ▸ present⟩
    · rw [List.mem_append]
      rfl

/-- **Names are collected in the order of their first fields.** -/
theorem map_fst_collectFields (fields : List (String × α)) :
    (collectFields fields).map Prod.fst = (fields.map Prod.fst).eraseDups := by
  induction fields using List.reverseRecOn with
  | nil => rfl
  | append_singleton earlier last ih =>
    rw [collectFields_concat, map_fst_setField, List.map_append, List.eraseDups_append, ← ih]
    by_cases present : last.1 ∈ earlier.map Prod.fst
    · have collected := (mem_map_fst_collectFields earlier last.1).mpr present
      rw [if_pos collected]
      simp [List.removeAll, present]
    · have fresh := present ∘ (mem_map_fst_collectFields earlier last.1).mp
      rw [if_neg fresh]
      simp [List.removeAll, present, List.eraseDups_cons]

end TypeSchema
