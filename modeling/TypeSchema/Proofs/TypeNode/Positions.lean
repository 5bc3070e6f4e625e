/-
**The positions of a type that count.**

* `TypeNode.IsPart`: a type stands directly in another one. A declaration that is followed by one of
  the same name does not count, and neither do the key types of indexers;
* `TypeNode.Everywhere`: what holds of a type and of all types inside it, one lemma for each
  constructor;
* `formed_of_ofText`: **in an accepted text, every union has alternatives** and every kind one of
  the names of the grammar, by induction on the derivation.
-/

import Mathlib.Logic.Relation
import TypeSchema.Proofs.TypeExpr.Acceptance
import TypeSchema.Proofs.TypeNode.Values

namespace TypeSchema

namespace TypeNode

/-! ### Parts -/

/-- A type stands directly in another one, and counts there. -/
inductive IsPart : TypeNode → TypeNode → Prop
  | inner {inner : TypeNode} : IsPart (nullable inner) inner
  | element {elements : List TypeNode} {part : TypeNode} :
      part ∈ elements → IsPart (tuple elements) part
  | alternative {alternatives : List TypeNode} {part : TypeNode} :
      part ∈ alternatives → IsPart (union alternatives) part
  | argument {name : String} {arguments : List TypeNode} {part : TypeNode} :
      part ∈ arguments → IsPart (generic name arguments) part
  | value {properties : List (Property TypeNode)} {exact hasCallSignature : Bool}
      {entry : Indexer TypeNode} :
      IsPart (object properties exact (some entry) hasCallSignature) entry.value
  | property {properties : List (Property TypeNode)} {exact hasCallSignature : Bool}
      {name : String} {property : Property TypeNode} :
      lastDeclaration? properties name = some property →
      IsPart (object properties exact none hasCallSignature) property.type

/-- Something holds of a type and of all types inside it that count. -/
def Everywhere (holds : TypeNode → Prop) (type : TypeNode) : Prop :=
  ∀ position, Relation.ReflTransGen IsPart type position → holds position

section Everywhere

variable {holds other : TypeNode → Prop} {type : TypeNode}

theorem everywhere_iff : type.Everywhere holds ↔
    holds type ∧ ∀ part, IsPart type part → part.Everywhere holds := by
  constructor
  · intro all
    exact ⟨all type .refl, fun part isPart position below => all position (.head isPart below)⟩
  · rintro ⟨own, parts⟩ position below
    obtain rfl | ⟨part, isPart, below⟩ := below.cases_head
    · exact own
    · exact parts part isPart position below

theorem Everywhere.mono (all : type.Everywhere holds)
    (implies : ∀ position, holds position → other position) : type.Everywhere other :=
  fun position below => implies position (all position below)

theorem everywhere_literal_iff {kind : Kind} {value : Json} :
    (literal kind value).Everywhere holds ↔ holds (literal kind value) := by
  rw [everywhere_iff]
  exact and_iff_left (by rintro part ⟨⟩)

theorem everywhere_primitive_iff {kind : Kind} :
    (primitive kind).Everywhere holds ↔ holds (primitive kind) := by
  rw [everywhere_iff]
  exact and_iff_left (by rintro part ⟨⟩)

theorem everywhere_nullable_iff {inner : TypeNode} :
    (nullable inner).Everywhere holds ↔ holds (nullable inner) ∧ inner.Everywhere holds := by
  rw [everywhere_iff]
  refine and_congr_right fun _ => ⟨fun each => each inner .inner, ?_⟩
  rintro all part ⟨⟩
  exact all

theorem everywhere_tuple_iff {elements : List TypeNode} :
    (tuple elements).Everywhere holds ↔
      holds (tuple elements) ∧ ∀ part ∈ elements, part.Everywhere holds := by
  rw [everywhere_iff]
  refine and_congr_right fun _ => ⟨fun each part member => each part (.element member), ?_⟩
  rintro all part ⟨member⟩
  exact all part ‹_›

theorem everywhere_union_iff {alternatives : List TypeNode} :
    (union alternatives).Everywhere holds ↔
      holds (union alternatives) ∧ ∀ part ∈ alternatives, part.Everywhere holds := by
  rw [everywhere_iff]
  refine and_congr_right fun _ => ⟨fun each part member => each part (.alternative member), ?_⟩
  rintro all part ⟨member⟩
  exact all part ‹_›

theorem everywhere_generic_iff {name : String} {arguments : List TypeNode} :
    (generic name arguments).Everywhere holds ↔
      holds (generic name arguments) ∧ ∀ part ∈ arguments, part.Everywhere holds := by
  rw [everywhere_iff]
  refine and_congr_right fun _ => ⟨fun each part member => each part (.argument member), ?_⟩
  rintro all part ⟨member⟩
  exact all part ‹_›

variable {properties : List (Property TypeNode)} {exact hasCallSignature : Bool}

theorem everywhere_indexed_iff {entry : Indexer TypeNode} :
    (object properties exact (some entry) hasCallSignature).Everywhere holds ↔
      holds (object properties exact (some entry) hasCallSignature) ∧
        entry.value.Everywhere holds := by
  rw [everywhere_iff]
  refine and_congr_right fun _ => ⟨fun each => each _ .value, ?_⟩
  rintro all part ⟨⟩
  exact all

theorem everywhere_object_iff :
    (object properties exact none hasCallSignature).Everywhere holds ↔
      holds (object properties exact none hasCallSignature) ∧
        ∀ name property, lastDeclaration? properties name = some property →
          property.type.Everywhere holds := by
  rw [everywhere_iff]
  refine and_congr_right fun _ => ⟨fun each name property last => each _ (.property last), ?_⟩
  rintro all part ⟨⟩
  exact all _ _ ‹_›

end Everywhere

/-! ### The types of accepted texts -/

/-- A union has alternatives, and a kind has one of the names of the grammar. -/
def Formed : TypeNode → Prop
  | literal kind _ => kind = .string ∨ kind = .number ∨ kind = .boolean
  | primitive kind => ∀ name, kind ≠ .other name
  | union alternatives => alternatives ≠ []
  | _ => True

theorem everywhere_formed_namedType (name : String) :
    Everywhere Formed (namedType name).type := by
  refine namedType_induction (motive := fun node => Everywhere Formed node.type)
    (fun kind named => ?_) (fun value => ?_) (fun name => ?_) name
  · exact everywhere_primitive_iff.mpr named
  · exact everywhere_literal_iff.mpr (.inr (.inr rfl))
  · exact everywhere_generic_iff.mpr ⟨trivial, fun _ member => absurd member List.not_mem_nil⟩

/-- A single alternative is no union. -/
theorem everywhere_formed_unionOf {nodes : List ReadNode} (some_ : nodes ≠ [])
    (each : ∀ node ∈ nodes, Everywhere Formed node.type) :
    Everywhere Formed (unionOf nodes).type := by
  match nodes with
  | [] => exact absurd rfl some_
  | [node] => exact each node List.mem_cons_self
  | first :: second :: rest =>
    rw [unionOf, ReadNode.type_union]
    · exact everywhere_union_iff.mpr ⟨List.cons_ne_nil _ _, List.forall_mem_map.mpr each⟩
    · exact nofun

end TypeNode

open TypeNode

/-- Everything that a symbol denotes is formed, and alternatives are not lacking. -/
def Symbol.AllFormed : (symbol : Symbol) → symbol.Value → Prop
  | .start, node | .type, node | .nonunion, node | .arrays, node | .primary, node =>
    Everywhere Formed (ReadNode.type node)
  | .alternatives, nodes => nodes ≠ [] ∧ ∀ node ∈ nodes, Everywhere Formed (ReadNode.type node)
  | .path, _ | .parameter, _ => True
  | .member, contribution =>
    (∀ property, contribution.property? = some property → Everywhere Formed property.type.type) ∧
      ∀ entry, contribution.indexer? = some entry → Everywhere Formed entry.value.type
  | .list item, values => ∀ value ∈ values, item.AllFormed value

theorem everywhere_formed_objectType (exact : Bool) {members : List Contribution}
    (each : ∀ member ∈ members, Symbol.AllFormed .member member) :
    Everywhere Formed (objectType exact members).type := by
  rw [objectType, ReadNode.type_object]
  cases found : members.findSome? Contribution.indexer? with
  | some entry =>
    obtain ⟨member, among, isEntry⟩ := List.exists_of_findSome?_eq_some found
    exact everywhere_indexed_iff.mpr ⟨trivial, (each member among).2 entry isEntry⟩
  | none =>
    refine everywhere_object_iff.mpr ⟨trivial, fun name property last => ?_⟩
    obtain ⟨read, isRead, rfl⟩ := List.mem_map.mp (mem_of_lastDeclaration? last)
    obtain ⟨member, among, isProperty⟩ := List.mem_filterMap.mp isRead
    exact (each member among).1 read isProperty

/-- **What the grammar derives is formed.** -/
theorem Derives.formed {symbol : Symbol} {ts : List Token} {value : symbol.Value}
    (derives : Derives symbol ts value) : symbol.AllFormed value := by
  induction derives with
  | start _ ih | terminated _ ih | nonunion _ ih | arrays _ ih | group _ ih => exact ih
  | type _ ih | leadingBar _ ih => exact everywhere_formed_unionOf ih.1 ih.2
  | lastAlternative _ ih => exact ⟨List.cons_ne_nil _ _, List.forall_mem_singleton.mpr ih⟩
  | alternative _ _ first more =>
    exact ⟨List.cons_ne_nil _ _, List.forall_mem_cons.mpr ⟨first, more.2⟩⟩
  | nullable _ ih => exact everywhere_nullable_iff.mpr ⟨trivial, ih⟩
  | arrayOf _ ih => exact everywhere_generic_iff.mpr ⟨trivial, List.forall_mem_singleton.mpr ih⟩
  | named _ _ => exact everywhere_formed_namedType _
  | applied _ _ _ arguments =>
    refine (congrArg (Everywhere Formed) (ReadNode.type_generic ..)).mpr ?_
    exact everywhere_generic_iff.mpr ⟨trivial, List.forall_mem_map.mpr arguments⟩
  | text _ => exact everywhere_literal_iff.mpr (.inl rfl)
  | numeral _ _ => exact everywhere_literal_iff.mpr (.inr (.inl rfl))
  | object _ ih => exact everywhere_formed_objectType _ ih
  | tuple _ ih =>
    refine (congrArg (Everywhere Formed) (ReadNode.type_tuple _)).mpr ?_
    exact everywhere_tuple_iff.mpr ⟨trivial, List.forall_mem_map.mpr ih⟩
  | firstPart | nextPart _ _ | parameter _ _ _ => trivial
  | noItem => exact fun value member => absurd member List.not_mem_nil
  | lastItem _ ih => exact List.forall_mem_singleton.mpr ih
  | item _ _ _ first more => exact List.forall_mem_cons.mpr ⟨first, more⟩
  | property _ _ _ _ ih =>
    refine ⟨?_, by rintro entry ⟨⟩⟩
    rintro property ⟨⟩
    exact ih
  | indexer _ _ _ _ _ value =>
    refine ⟨by rintro property ⟨⟩, ?_⟩
    rintro entry ⟨⟩
    exact value
  | call _ _ _ _ => exact ⟨by rintro property ⟨⟩, by rintro entry ⟨⟩⟩

/-- **In an accepted text, everything is formed.** -/
theorem formed_of_ofText {text : List Char} {path : Option String} {start : Position}
    {type : TypeNode} (accepted : TypeNode.ofText text path start = .ok type) :
    type.Everywhere Formed := by
  obtain ⟨tokens, node, -, derives, rfl⟩ := TypeNode.accepted_iff.mp accepted
  exact derives.formed

end TypeSchema
