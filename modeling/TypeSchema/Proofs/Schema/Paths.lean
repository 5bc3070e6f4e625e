/-
**Steps into a value.**

* `Json.walk?`: where steps lead from a value, if they lead anywhere;
* `Json.Leads`: steps lead from a value to a part of it, also where a name is there twice;
* `Json.Distinct`: no object has a name twice, neither the value nor any inside it;
* `walk?_of_leads`: **if names are distinct, steps that lead somewhere lead nowhere else.**
-/

import TypeSchema.Proofs.Json.Fields
import TypeSchema.Proofs.Json.Parts
import TypeSchema.Schema.Failure

namespace TypeSchema

namespace Json

/-- Where a step leads from a value. -/
def step? : Step → Json → Option Json
  | .key name, object fields => fields.lookup name
  | .index place, array items => items[place]?
  | _, _ => none

/-- Where steps lead from a value. -/
def walk? : List Step → Json → Option Json
  | [], value => some value
  | step :: steps, value => (step? step value).bind (walk? steps)

/-- Some steps and then some more. -/
theorem walk?_append (steps more : List Step) (value : Json) :
    walk? (steps ++ more) value = (walk? steps value).bind (walk? more) := by
  induction steps generalizing value with
  | nil => rfl
  | cons step steps ih =>
    rw [List.cons_append, walk?, walk?, Option.bind_assoc]
    exact congrArg _ (funext ih)

/-- Steps lead from a value to a part of it. -/
inductive Leads : List Step → Json → Json → Prop
  | here {value : Json} : Leads [] value value
  | field {name : String} {item part : Json} {fields : List (String × Json)} {steps : List Step} :
      (name, item) ∈ fields → Leads steps item part → Leads (.key name :: steps) (object fields) part
  | item {place : Nat} {item part : Json} {items : List Json} {steps : List Step} :
      items[place]? = some item → Leads steps item part →
      Leads (.index place :: steps) (array items) part

/-- Some steps and then some more. -/
theorem Leads.append {steps more : List Step} {value part inner : Json}
    (leads : Leads steps value part) (further : Leads more part inner) :
    Leads (steps ++ more) value inner := by
  induction leads with
  | here => exact further
  | field member _ ih => exact .field member (ih further)
  | item found _ ih => exact .item found (ih further)

/-- No object has a name twice. -/
def Distinct (value : Json) : Prop :=
  ∀ part ∈ value.parts, ∀ fields, part = object fields → (fields.map Prod.fst).Nodup

/-- **With distinct names, steps lead to one part only.** -/
theorem walk?_of_leads {steps : List Step} {value part : Json} (leads : Leads steps value part)
    (distinct : value.Distinct) : walk? steps value = some part := by
  induction leads with
  | here => rfl
  | @field name item part fields steps member _ ih =>
    obtain ⟨names, inside⟩ := forall_parts_object.mp distinct
    have found := (mem_iff_lookup (names fields rfl) name item).mp member
    rw [walk?, step?, found]
    exact ih (inside _ member)
  | @item place item part items steps found _ ih =>
    obtain ⟨-, inside⟩ := forall_parts_array.mp distinct
    rw [walk?, step?, found]
    exact ih (inside item (List.mem_of_getElem? found))

end Json

end TypeSchema
