/-
**The schemas of a registry are written faithfully.**

* `Json.AllFinite`: every number inside a value is finite;
* `Registry.map_fst_schemas`: the schemas stand under the names of the entries, in their order;
* `Registry.Compiled`: no two entries share a name, and every schema is that of an accepted text;
* `schemas_faithful`: **the literal in the validator module and the document of all schemas read
  back as the schemas**, if their numbers are finite;
* `schemas_infinite`: a numeral past the largest finite number is written as a free name.
-/

import Mathlib
import TypeSchema.Proofs.Generated.Layout
import TypeSchema.Proofs.Registry.Order
import TypeSchema.Proofs.Schema.Contents

namespace TypeSchema

/-! ### Finite values -/

instance (value : Number) : Decidable value.Finite :=
  match value with
  | .int _ => isTrue trivial
  | .real (.finite ..) => isTrue trivial
  | .real .nan => isFalse id
  | .real (.infinite _) => isFalse id

namespace Json

/-- A value is no infinite number. -/
def FinitePart : Json → Prop
  | number value => value.Finite
  | _ => True

instance (value : Json) : Decidable value.FinitePart :=
  match value with
  | number value => inferInstanceAs (Decidable value.Finite)
  | null | bool _ | string _ | array _ | object _ => isTrue trivial

/-- Every number inside a value is finite. -/
def AllFinite (value : Json) : Prop := ∀ part ∈ value.parts, part.FinitePart

instance (value : Json) : Decidable value.AllFinite := List.decidableBAll _ _

variable {value : Json}

/-- A plain value with finite numbers has a closed literal. -/
theorem Plain.closed (plain : value.Plain) (finite : value.AllFinite) :
    ∀ part ∈ value.parts, part.Closed := by
  intro part member
  have isPlain := plain part member
  have isFinite := finite part member
  match part with
  | object fields => exact isPlain
  | number (.int value) => exact ⟨isFinite, isPlain⟩
  | number (.real value) => exact ⟨isFinite, trivial⟩
  | bool value => trivial
  | string text => trivial
  | array items => trivial

/-- A plain value with finite numbers has a document. -/
theorem Plain.documented (plain : value.Plain) (finite : value.AllFinite) :
    ∀ part ∈ value.parts, part.Documented := by
  intro part member
  have isPlain := plain part member
  have isFinite := finite part member
  match part with
  | object fields => exact isPlain
  | number value => exact isFinite
  | bool value => trivial
  | string text => trivial
  | array items => trivial

end Json

/-! ### Schemas by name -/

/-- The schema of an entry is that of an accepted text. -/
def TypeEntry.Compiled (entry : TypeEntry) : Prop :=
  ∃ text path start node, TypeNode.ofText text path start = .ok node ∧
    node.schema = .ok entry.schema

namespace Registry

variable {registry : Registry}

/-- The names are those of the entries. -/
theorem perm_names (registry : Registry) : registry.names.Perm registry.taken :=
  List.mergeSort_perm _ _

theorem mem_entries {entry : TypeEntry} (member : entry ∈ registry.entries) :
    entry ∈ registry.added := by
  obtain ⟨name, -, found⟩ := List.mem_filterMap.mp member
  exact List.mem_of_find?_eq_some found

/-- The schemas stand under the names, in their order. -/
theorem map_fst_schemas (distinct : registry.taken.Nodup) :
    registry.schemas.map Prod.fst = registry.names := by
  have named : ∀ name ∈ registry.names, (registry.get? name).map TypeEntry.name = some name := by
    intro name member
    obtain ⟨entry, added, rfl⟩ := List.mem_map.mp ((perm_names registry).mem_iff.mp member)
    rw [(get?_eq_some_iff distinct).mpr ⟨added, rfl⟩, Option.map_some]
  have names : Prod.fst ∘ (fun entry : TypeEntry => (entry.name, entry.schema)) =
      TypeEntry.name := rfl
  rw [schemas, entries, List.map_map, names, List.map_filterMap]
  exact (List.filterMap_congr named).trans List.filterMap_some

/-- What a registry of compiled types is: no two entries share a name, and every schema is that of
an accepted text. -/
structure Compiled (registry : Registry) : Prop where
  distinct : registry.taken.Nodup
  entry : ∀ entry ∈ registry.added, entry.Compiled

/-- Every number in a schema of the registry is finite. -/
def AllFinite (registry : Registry) : Prop := ∀ entry ∈ registry.added, entry.schema.AllFinite

instance (registry : Registry) : Decidable registry.AllFinite := List.decidableBAll _ _

theorem Compiled.plain (compiled : registry.Compiled) :
    (Json.object registry.schemas).Plain := by
  refine Json.plain_object_iff.mpr ⟨?_, fun field member => ?_⟩
  · rw [map_fst_schemas compiled.distinct]
    exact (perm_names registry).nodup_iff.mpr compiled.distinct
  · obtain ⟨entry, inEntries, rfl⟩ := List.mem_map.mp member
    obtain ⟨text, path, start, node, accepted, isSchema⟩ :=
      compiled.entry entry (mem_entries inEntries)
    exact plain_of_schema (textual_of_ofText accepted) isSchema

theorem AllFinite.schemas (finite : registry.AllFinite) :
    (Json.object registry.schemas).AllFinite := by
  refine Json.forall_parts_object.mpr ⟨trivial, fun field member => ?_⟩
  obtain ⟨entry, inEntries, rfl⟩ := List.mem_map.mp member
  exact finite entry (mem_entries inEntries)

end Registry

/-- The schema of a number literal. -/
def numeralSchema (value : Number) : Json :=
  .object (kindSchema .number ++ [("enum", .array [.number value])])

/-- A registry of one type, which a numeral stands for. -/
def numeralRegistry (name text : String) (value : Number) : Registry :=
  ⟨[⟨name, "e.js", s!"export type {name} = {text};", numeralSchema value⟩]⟩

theorem schemas_numeralRegistry (name text : String) (value : Number) :
    (numeralRegistry name text value).schemas = [(name, numeralSchema value)] := by
  simp [numeralRegistry, Registry.schemas, Registry.entries, Registry.names, sortNames,
    Registry.get?]

/-- A numeral is an accepted text. -/
theorem compiled_numeralRegistry (name text : String) (numeral : Numeral) {value : Number}
    (isToken : firstToken? (fun _ => true) text.toList = some (.numeral, text.toList.length))
    (reads : Numeral.read? text.toList = some (numeral, [])) (inRange : numeral.InRange)
    (denotes : numeral.number = value) : (numeralRegistry name text value).Compiled := by
  subst denotes
  have longest := longest_of_firstToken isToken
  rw [List.take_length] at longest
  have nothing : Tokens (text.toList.drop text.toList.length) [] := by
    rw [List.drop_length]
    exact .nil
  have type : Derives .type [⟨.numeral, text.toList⟩] (.literal .number (.number numeral.number)) :=
    .type (.lastAlternative (.nonunion (.arrays (.numeral reads inRange))))
  have accepted : TypeNode.ofText text.toList none ⟨1, 1⟩ = .ok _ :=
    TypeNode.accepted_iff.mpr ⟨_, _, .token longest nothing, .start type, rfl⟩
  exact ⟨List.nodup_singleton _, List.forall_mem_singleton.mpr ⟨_, _, _, _, accepted, rfl⟩⟩

/-! ### The emitted texts -/

/-- **The emitted texts carry the schemas**, if their numbers are finite. What stands behind
`SCHEMAS = ` is a closed literal, which reads back as the schemas by name, in their order, whatever
follows it; and the document of all schemas reads back as the same. -/
theorem schemas_faithful {registry : Registry} (compiled : registry.Compiled)
    (finite : registry.AllFinite) :
    (∀ source, ∃ before after, registry.validatorModule source =
      before ++ "\n\nSCHEMAS = " ++ registry.schemaLiteral ++ "\n\nVALIDATORS = " ++ after) ∧
    Json.literalScript.Value (.object registry.schemas) registry.schemaLiteral.toList ∧
    (∀ rest, readLiteral? (registry.schemaLiteral.toList ++ rest) =
      some (.object registry.schemas, rest)) ∧
    evaluate? registry.schemaLiteral = some (.object registry.schemas) ∧
    Json.script.Value (.object registry.schemas) registry.document.toList ∧
    Json.parse? registry.document = some (.object registry.schemas) := by
  have isLiteral := Json.value_layout 0 0 _ (compiled.plain.closed finite.schemas)
  have isDocument := Json.value_indentedAt 0 _ (compiled.plain.documented finite.schemas)
  refine ⟨fun source => ?_, isLiteral, readLiteral?_object isLiteral,
    evaluate?_object isLiteral, isDocument, Json.parse?_of_value isDocument⟩
  refine ⟨moduleHeader (normalPath source) ++ "FLOW_SOURCE = " ++ textBlock registry.sourceText,
    "ValidatorCache(SCHEMAS)\n" ++ String.join (registry.names.map validatorFunctions) ++
      "\n\n__all__ = [\n" ++ "\n".intercalate
        ((offeredNames registry.names).map fun name => "    " ++ quote name ++ ",") ++ "\n]\n", ?_⟩
  simp [Registry.validatorModule, ← String.toList_inj]

/-- The schema of `\x7b y: number, x?: string \x7d`. -/
def pointSchema : Json :=
  .object [("type", .string "object"),
    ("properties", .object [("y", .object (kindSchema .number)), ("x", .object (kindSchema .string))]),
    ("required", .array [.string "y"])]

/-- A registry of two types, added in another order than that of their names. -/
def twoTypes : Registry :=
  ⟨[⟨"Point", "e.js", "export type Point = \x7b y: number, x?: string \x7d;", pointSchema⟩,
    ⟨"Answer", "e.js", "export type Answer = 42;", numeralSchema (.int 42)⟩]⟩

/-- The names are sorted in both texts, and the fields of a schema stand as they were made. -/
theorem schemas_faithful_twoTypes :
    twoTypes.Compiled ∧ twoTypes.AllFinite ∧
      evaluate? twoTypes.schemaLiteral =
        some (.object [("Answer", numeralSchema (.int 42)), ("Point", pointSchema)]) ∧
      Json.parse? twoTypes.document =
        some (.object [("Answer", numeralSchema (.int 42)), ("Point", pointSchema)]) := by
  have point : TypeEntry.Compiled ⟨"Point", "e.js",
      "export type Point = \x7b y: number, x?: string \x7d;", pointSchema⟩ :=
    ⟨"\x7b y: number, x?: string \x7d".toList, none, .first,
      .object [⟨"y", .primitive .number, false⟩, ⟨"x", .primitive .string, true⟩] false none false,
      by cbv, by cbv⟩
  have answer : TypeEntry.Compiled ⟨"Answer", "e.js", "export type Answer = 42;",
      numeralSchema (.int 42)⟩ :=
    ⟨"42".toList, none, .first, .literal .number (.number (.int 42)), by cbv, rfl⟩
  have compiled : twoTypes.Compiled := ⟨by decide, by simp [twoTypes, point, answer]⟩
  have finite : twoTypes.AllFinite := by
    simp [Registry.AllFinite, twoTypes, pointSchema, numeralSchema, kindSchema, Json.AllFinite,
      Json.parts, Json.partsFields, Json.partsItems, Json.FinitePart, Number.Finite]
  have names : twoTypes.names = ["Answer", "Point"] :=
    (sortNames_congr (List.Perm.swap "Answer" "Point" [])).trans
      (List.mergeSort_of_pairwise (List.pairwise_pair.mpr (by decide)))
  have schemas : twoTypes.schemas =
      [("Answer", numeralSchema (.int 42)), ("Point", pointSchema)] := by
    rw [Registry.schemas, Registry.entries, names]
    rfl
  obtain ⟨-, -, -, evaluates, -, reads⟩ := schemas_faithful compiled finite
  rw [schemas] at evaluates reads
  exact ⟨compiled, finite, evaluates, reads⟩

/-- **A numeral past the largest finite number is written as a free name**, which stands for no
value in a closed literal. -/
theorem schemas_infinite :
    (numeralRegistry "Big" "1e999" (.real (.infinite false))).Compiled ∧
      (numeralRegistry "Big" "1e999" (.real (.infinite false))).schemaLiteral =
        "\x7b'Big': \x7b'type': 'number', 'enum': [inf]\x7d\x7d" ∧
      evaluate? (numeralRegistry "Big" "1e999" (.real (.infinite false))).schemaLiteral = none := by
  have infinite : Numeral.number ⟨false, ['1'], none, some 999⟩ = .real (.infinite false) := by
    decide +kernel
  have compiled : (numeralRegistry "Big" "1e999" (.real (.infinite false))).Compiled :=
    compiled_numeralRegistry "Big" "1e999" ⟨false, ['1'], none, some 999⟩ rfl rfl nofun infinite
  have isLiteral : (numeralRegistry "Big" "1e999" (.real (.infinite false))).schemaLiteral =
      "\x7b'Big': \x7b'type': 'number', 'enum': [inf]\x7d\x7d" := by
    rw [Registry.schemaLiteral, schemas_numeralRegistry]
    decide +kernel
  refine ⟨compiled, isLiteral, ?_⟩
  rw [isLiteral, ← Option.isNone_iff_eq_none]
  decide +kernel

end TypeSchema
