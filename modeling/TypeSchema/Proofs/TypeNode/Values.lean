/-
**The values of a type.**

* `TypeNode.induction`: what holds of a type if it holds of the types inside it, key types of
  indexers left out, holds of every type;
* `Kind.Holds`: a value has a kind;
* `TypeNode.lastDeclaration?`: of several declarations of a name, the last one counts for its type;
* `TypeNode.Inhabits`: **the values of a type**, by recursion on the type alone. A value of
  `$Exact<T>` is one of `T` that has no names but those that `T` declares.
-/

import TypeSchema.Proofs.Json.Equality
import TypeSchema.Schema.Validate

namespace TypeSchema

/-! ### The types inside a type -/

theorem Property.sizeOf_type_lt (property : Property TypeNode) :
    sizeOf property.type < sizeOf property := by
  cases property
  rw [Property.mk.sizeOf_spec]
  dsimp only
  omega

/-- **What types inherit from the types inside them holds of every type.** -/
@[induction_eliminator]
theorem TypeNode.induction {motive : TypeNode → Prop}
    (literal : ∀ kind value, motive (.literal kind value))
    (primitive : ∀ kind, motive (.primitive kind))
    (nullable : ∀ inner, motive inner → motive (.nullable inner))
    (tuple : ∀ elements, (∀ type ∈ elements, motive type) → motive (.tuple elements))
    (union : ∀ alternatives, (∀ type ∈ alternatives, motive type) → motive (.union alternatives))
    (generic : ∀ name arguments, (∀ type ∈ arguments, motive type) →
      motive (.generic name arguments))
    (object : ∀ properties exact indexer hasCallSignature,
      (∀ property ∈ properties, motive property.type) →
      (∀ entry : Indexer TypeNode, indexer = some entry → motive entry.value) →
      motive (.object properties exact indexer hasCallSignature))
    (stray : ∀ kind, motive (.stray kind)) (type : TypeNode) : motive type := by
  match type with
  | .literal kind value => exact literal kind value
  | .primitive kind => exact primitive kind
  | .nullable inner =>
    exact nullable inner (induction literal primitive nullable tuple union generic object stray _)
  | .tuple elements =>
    refine tuple elements fun type member => ?_
    have := List.sizeOf_lt_of_mem member
    exact induction literal primitive nullable tuple union generic object stray type
  | .union alternatives =>
    refine union alternatives fun type member => ?_
    have := List.sizeOf_lt_of_mem member
    exact induction literal primitive nullable tuple union generic object stray type
  | .generic name arguments =>
    refine generic name arguments fun type member => ?_
    have := List.sizeOf_lt_of_mem member
    exact induction literal primitive nullable tuple union generic object stray type
  | .object properties exact indexer hasCallSignature =>
    refine object properties exact indexer hasCallSignature (fun property member => ?_) ?_
    · have := List.sizeOf_lt_of_mem member
      have := property.sizeOf_type_lt
      exact induction literal primitive nullable tuple union generic object stray property.type
    · rintro ⟨value, key⟩ rfl
      exact induction literal primitive nullable tuple union generic object stray value
  | .stray kind => exact stray kind
termination_by sizeOf type

/-! ### Kinds -/

/-- A value of a kind; a boolean is no number. A name that is no kind of its own means what a
schema means by it. -/
def Kind.Holds : Kind → Json → Prop
  | .string, value => ∃ text, value = .string text
  | .number, value => ∃ number, value = .number number
  | .boolean, value => ∃ truth, value = .bool truth
  | .null, value => value = .null
  | .any, _ => False
  | .void, _ => False
  | .other name, value => value.isOfKind name = true

theorem Kind.holds_iff (kind : Kind) (value : Json) :
    kind.Holds value ↔ value.isOfKind kind.name = true := by
  cases kind with
  | other name => exact Iff.rfl
  | _ => cases value <;> simp [Holds, name, Json.isOfKind]

/-! ### Names -/

/-- A value has no names but the given ones. -/
def Json.HasOnly (names : List String) (value : Json) : Prop :=
  ∀ fields, value = .object fields → ∀ field ∈ fields, field.1 ∈ names

namespace TypeNode

/-- The declaration of a name that counts for its type: the last one. -/
def lastDeclaration? (properties : List (Property TypeNode)) (name : String) :
    Option (Property TypeNode) :=
  properties.reverse.find? fun property => property.name == name

theorem mem_of_lastDeclaration? {properties : List (Property TypeNode)} {name : String}
    {property : Property TypeNode} (found : lastDeclaration? properties name = some property) :
    property ∈ properties :=
  List.mem_reverse.mp (List.mem_of_find?_eq_some found)

/-- The names that a type of objects declares; an indexer takes every name. -/
def declaredNames? : TypeNode → Option (List String)
  | .object properties _ none _ => some (properties.map Property.name)
  | .generic "$Exact" [inner] => inner.declaredNames?
  | .primitive kind => if kind.name = "object" then some [] else none
  | .literal kind _ => if kind.name = "object" then some [] else none
  | _ => none

/-! ### Values -/

/-- **The values of a type.** -/
def Inhabits : TypeNode → Json → Prop
  | .literal kind expected, value => kind.Holds value ∧ expected.Equals value
  | .primitive .any, _ => True
  | .primitive kind, value => kind.Holds value
  | .nullable inner, value => value = .null ∨ inner.Inhabits value
  | .tuple elements, value =>
    ∃ items, value = .array items ∧
      ∀ (place : Nat) (_ : place < elements.length) (_ : place < items.length),
        elements[place].Inhabits items[place]
  | .union alternatives, value =>
    ∃ (type : TypeNode) (_ : type ∈ alternatives), type.Inhabits value
  | .generic "Array" [element], value =>
    ∃ items, value = .array items ∧ ∀ item ∈ items, element.Inhabits item
  | .generic "$Exact" [inner], value =>
    inner.Inhabits value ∧ ∀ names, inner.declaredNames? = some names → value.HasOnly names
  | .generic _ _, _ => False
  | .object _ _ (some ⟨type, _⟩) _, value =>
    ∃ fields, value = .object fields ∧ ∀ field ∈ fields, type.Inhabits field.2
  | .object properties exact none _, value =>
    ∃ fields, value = .object fields ∧
      (∀ property ∈ properties, property.optional = false →
        ∃ item, fields.lookup property.name = some item) ∧
      (∀ (name : String) (item : Json), fields.lookup name = some item →
        ∀ (property : Property TypeNode) (_ : lastDeclaration? properties name = some property),
          property.type.Inhabits item) ∧
      (exact = true → value.HasOnly (properties.map Property.name))
  | .stray _, _ => False
termination_by type => sizeOf type
decreasing_by
  all_goals simp_wf
  · have := List.sizeOf_lt_of_mem (List.getElem_mem (l := elements) ‹_›)
    omega
  · have := List.sizeOf_lt_of_mem ‹type ∈ alternatives›
    omega
  · omega
  · omega
  · omega
  · have := List.sizeOf_lt_of_mem (mem_of_lastDeclaration? ‹_›)
    have := property.sizeOf_type_lt
    omega

end TypeNode

end TypeSchema
