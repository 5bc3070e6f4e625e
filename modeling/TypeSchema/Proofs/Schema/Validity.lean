/-
**The schemas of types are valid.**

* `TypeNode.Fits`: what a dialect has to allow for a type by itself;
* `isSchema_iff`: the schema of a type is one of a dialect exactly if the dialect allows every
  position of the type that counts, by induction on the type;
* `text_schema_valid`: **the schema of an accepted text is one of Draft 7**, but for two things. It
  is exactly one of Draft 7 if no tuple in it is empty and no object requires a name twice;
* `empty_tuple_invalid`: the text of an empty tuple has a schema that is none of Draft 7.
-/

import Mathlib
import TypeSchema.Proofs.Schema.Declared
import TypeSchema.Proofs.Schema.Dialect
import TypeSchema.Proofs.TypeNode.Positions

namespace TypeSchema

namespace TypeNode

/-! ### All types -/

section Dialect

variable {dialect : Dialect}

/-- The dialect allows what the schema of a type says by itself. -/
def Fits (dialect : Dialect) : TypeNode → Prop
  | literal kind _ => dialect.IsKind kind.name
  | primitive .any | primitive .void => True
  | primitive kind => dialect.IsKind kind.name
  | tuple elements => dialect.IsTuple elements.length
  | union alternatives => dialect.IsChoice alternatives.length
  | object properties _ none _ => dialect.IsRequired (sortNames (requiredNames properties))
  | _ => True

/-- What holds of related items on one side holds on the other. -/
theorem forall_mem_iff_of_forall₂ {α β : Type} {related : α → β → Prop} {left : α → Prop}
    {right : β → Prop} {items : List α} {results : List β}
    (each : List.Forall₂ related items results)
    (same : ∀ item ∈ items, ∀ result, related item result → (right result ↔ left item)) :
    (∀ result ∈ results, right result) ↔ ∀ item ∈ items, left item := by
  induction each with
  | nil => simp
  | cons first _ ih =>
    rw [List.forall_mem_cons] at same
    rw [List.forall_mem_cons, List.forall_mem_cons, same.1 _ first, ih same.2]

theorem nullable_isSchema_iff {schema : Json} :
    (choiceSchema [.object (kindSchema .null), schema]).IsSchema dialect ↔
      schema.IsSchema dialect := by
  have isNull : dialect.IsKind Kind.null.name := dialect.kinds _ (by decide)
  rw [isSchema_choice_iff]
  simp [isSchema_kind_iff, isNull, dialect.pair]

/-- **The schema of a type is one of a dialect** exactly if the dialect allows every position. -/
theorem isSchema_iff {type : TypeNode} {schema : Json} (compiled : type.schema = .ok schema) :
    schema.IsSchema dialect ↔ type.Everywhere (Fits dialect) := by
  induction type generalizing schema with
  | literal kind value =>
    rw [TypeNode.schema] at compiled
    cases compiled
    rw [isSchema_literal_iff, everywhere_literal_iff, Fits]
  | primitive kind =>
    rw [everywhere_primitive_iff]
    cases kind with
    | any =>
      cases compiled
      rw [isSchema_object_iff]
      simp [Fits]
    | void => cases compiled
    | _ =>
      cases compiled
      exact isSchema_kind_iff
  | nullable inner ih =>
    obtain ⟨result, isResult, rfl⟩ := schema_nullable_iff.mp compiled
    rw [nullable_isSchema_iff, everywhere_nullable_iff, ih isResult]
    exact (and_iff_right trivial).symm
  | tuple elements ih =>
    obtain ⟨results, areResults, rfl⟩ := schema_tuple_iff.mp compiled
    have each := schemas_eq_ok_iff.mp areResults
    rw [isSchema_tuple_iff, everywhere_tuple_iff, Fits, each.length_eq,
      forall_mem_iff_of_forall₂ each fun type member _ => ih type member]
  | union alternatives ih =>
    obtain ⟨results, areResults, rfl⟩ := schema_union_iff.mp compiled
    have each := schemas_eq_ok_iff.mp areResults
    rw [isSchema_choice_iff, everywhere_union_iff, Fits, each.length_eq,
      forall_mem_iff_of_forall₂ each fun type member _ => ih type member]
  | generic name arguments ih =>
    obtain ⟨inner, result, rfl, isResult, made⟩ := schema_generic_iff.mp compiled
    obtain ⟨keywords, rfl, named⟩ := namesOf_schema isResult
    have valid := ih inner List.mem_cons_self isResult
    rw [everywhere_generic_iff, List.forall_mem_singleton, ← valid]
    obtain ⟨-, rfl⟩ | ⟨-, rfl⟩ := made
    · rw [isSchema_arrayOf_iff]
      exact (and_iff_right trivial).symm
    · rw [isSchema_exactSchema_iff named.closable]
      exact (and_iff_right trivial).symm
  | object properties exact indexer hasCallSignature ofProperties ofIndexer =>
    cases indexer with
    | some entry =>
      obtain ⟨-, -, result, isResult, rfl⟩ := schema_indexed_iff.mp compiled
      rw [isSchema_indexed_iff, everywhere_indexed_iff, ofIndexer entry rfl isResult]
      exact (and_iff_right trivial).symm
    | none =>
      obtain ⟨-, fields, areFields, rfl⟩ := schema_object_iff.mp compiled
      have each := propertySchemas_eq_ok_iff.mp areFields
      rw [isSchema_objectSchema_iff, everywhere_object_iff]
      refine and_congr_right fun _ => ?_
      rw [Prod.forall]
      refine forall_congr' fun name => ?_
      simp only [mem_collectFields_iff]
      obtain ⟨absent, missing⟩ | ⟨property, result, last, lastSchema, isResult⟩ :=
        lastDeclaration_and_schema each name
      · simp [absent, missing]
      · have valid := ofProperties property (mem_of_lastDeclaration? last) isResult
        rw [last, lastSchema]
        simpa using valid
  | stray kind =>
    rw [TypeNode.schema] at compiled
    cases compiled

end Dialect

/-! ### Accepted texts -/

/-- What Draft 7 asks of a type in a text. -/
def Regular : TypeNode → Prop
  | tuple elements => elements ≠ []
  | object properties _ none _ => (requiredNames properties).Nodup
  | _ => True

section Formed

variable {position : TypeNode}

/-- The kinds of texts are kinds in every dialect. -/
theorem fits_kind {dialect : Dialect} {kind : Kind} (named : ∀ name, kind ≠ .other name) :
    (primitive kind).Fits dialect := by
  cases kind with
  | any | void => trivial
  | other name => exact absurd rfl (named name)
  | _ => exact dialect.kinds _ (by decide)

theorem fits_literal {dialect : Dialect} {kind : Kind} {value : Json}
    (formed : (literal kind value).Formed) : (literal kind value).Fits dialect := by
  obtain rfl | rfl | rfl := formed <;> exact dialect.kinds _ (by decide)

theorem Formed.fits_lenient (formed : position.Formed) : position.Fits .lenient := by
  cases position with
  | literal => exact fits_literal formed
  | primitive => exact fits_kind formed
  | union alternatives => exact mt List.length_eq_zero_iff.mp formed
  | object _ _ indexer _ => cases indexer <;> trivial
  | _ => trivial

theorem Formed.fits_draft7_iff (formed : position.Formed) :
    position.Fits .draft7 ↔ position.Regular := by
  cases position with
  | literal => exact iff_of_true (fits_literal formed) trivial
  | primitive => exact iff_of_true (fits_kind formed) trivial
  | tuple elements => exact not_congr List.length_eq_zero_iff
  | union alternatives => exact iff_of_true (mt List.length_eq_zero_iff.mp formed) trivial
  | object properties _ indexer _ =>
    cases indexer with
    | none => exact (perm_sortNames (requiredNames properties)).nodup_iff
    | some => exact Iff.rfl
  | _ => exact Iff.rfl

end Formed

/-! ### The main result -/

/-- **The schema of an accepted text is valid.** It has no keywords but the eight, each with an
argument of its form, and so have its inner schemas; only tuples may be empty and required names
repeated. It is a schema of Draft 7 exactly if neither happens at a position that counts. -/
theorem text_schema_valid {text : List Char} {path : Option String} {start : Position}
    {type : TypeNode} {schema : Json} (accepted : TypeNode.ofText text path start = .ok type)
    (compiled : type.compile = .ok (.compiled schema)) :
    schema.IsSchema .lenient ∧ (schema.IsSchema .draft7 ↔ type.Everywhere Regular) := by
  have formed := formed_of_ofText accepted
  have made := schema_eq_ok_iff.mpr compiled
  refine ⟨?_, ?_⟩
  · exact (isSchema_iff made).mpr (formed.mono fun position => Formed.fits_lenient)
  · rw [isSchema_iff made]
    exact forall₂_congr fun position below => (formed position below).fits_draft7_iff

/-- The properties of an object with a union, a tuple and a name that may be left out. -/
def recordProperties : List (Property TypeNode) :=
  [⟨"b", .union [.primitive .string, .primitive .number], false⟩,
    ⟨"a", .tuple [.primitive .boolean], false⟩, ⟨"c", .primitive .null, true⟩]

/-- The object is read, its required names are sorted, and its schema is valid. -/
theorem text_schema_valid_record :
    ∃ schema,
      TypeNode.ofText "\x7b b: string | number, a: [boolean], c?: null \x7d".toList none .first =
        .ok (.object recordProperties false none false) ∧
      (TypeNode.object recordProperties false none false).compile = .ok (.compiled schema) ∧
      schema.field? "required" = some (.array [.string "a", .string "b"]) ∧
      schema.IsSchema .draft7 := by
  have accepted : TypeNode.ofText
      "\x7b b: string | number, a: [boolean], c?: null \x7d".toList none .first =
        .ok (.object recordProperties false none false) := by cbv
  have names : sortNames (requiredNames recordProperties) = ["a", "b"] :=
    (sortNames_congr (List.Perm.swap "a" "b" [])).trans
      (List.mergeSort_of_pairwise (List.pairwise_pair.mpr (by decide)))
  refine ⟨_, accepted, rfl, ?_, (text_schema_valid accepted rfl).2.mpr ?_⟩
  · show some (Json.array ((sortNames (requiredNames recordProperties)).map Json.string)) = _
    rw [names]
    rfl
  · have distinct : (requiredNames recordProperties).Nodup := by decide
    have plain (kind : Kind) : (primitive kind).Everywhere Regular :=
      everywhere_primitive_iff.mpr trivial
    refine everywhere_object_iff.mpr ⟨distinct, fun name property last => ?_⟩
    obtain rfl | rfl | rfl := by
      simpa [recordProperties] using mem_of_lastDeclaration? last
    · exact everywhere_union_iff.mpr ⟨trivial, by simp [plain]⟩
    · exact everywhere_tuple_iff.mpr ⟨List.cons_ne_nil _ _, by simp [plain]⟩
    · exact plain .null

/-- **The text of an empty tuple** has a schema that is not valid. -/
theorem empty_tuple_invalid :
    ∃ schema, TypeNode.ofText "[]".toList none ⟨1, 1⟩ = .ok (.tuple []) ∧
      (TypeNode.tuple []).compile = .ok (.compiled schema) ∧ ¬ schema.IsSchema .draft7 := by
  have opens : firstToken? (fun _ => true) "[]".toList = some (.openBracket, 1) := rfl
  have closes : firstToken? (fun _ => true) [']'] = some (.closeBracket, 1) := rfl
  have isTokens := Tokens.token (longest_of_firstToken opens)
    (.token (longest_of_firstToken closes) .nil)
  have whole : Derives .type [⟨.openBracket, ['[']⟩, ⟨.closeBracket, [']']⟩] (.tuple []) :=
    .type (.lastAlternative (.nonunion (.arrays (.tuple .noItem))))
  refine ⟨_, accepted_iff.mpr ⟨_, _, isTokens, .start whole, rfl⟩, rfl, ?_⟩
  show ¬ (arraySchema (.array [])).IsSchema .draft7
  rw [isSchema_tuple_iff]
  exact fun valid => valid.1 rfl

end TypeNode

end TypeSchema
