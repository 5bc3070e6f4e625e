/-
**The source texts of a validator module.**

* `readBlock?`: the text that quoted texts in parentheses denote together;
* `isPieces_lines`, `readBlock?_textBlock`: **a text that is written as a block of its lines reads
  back**, whatever it contains;
* `Registry.perm_entries`, `Registry.pairwise_entries`: the entries in the order of their names;
* `sources_reproduced`: **the source texts of a module read back as the snippets of its types**, in
  the order of their names.
-/

import TypeSchema.Proofs.Generated.Layout
import TypeSchema.Proofs.Registry.Schemas
import TypeSchema.Proofs.Schema.Declared

namespace TypeSchema

/-! ### Blocks -/

/-- The text that quoted texts in parentheses denote together, and what follows them. -/
def readBlock? : List Char → Option (List Char × List Char)
  | '(' :: rest => do
    let inside := Json.skipSpaces rest
    let (value, more) ← readAdjacent? inside.length inside
    match Json.skipSpaces more with
    | ')' :: last => some (value, last)
    | _ => none
  | _ => none

/-- The lines of a text; a text without any is one empty line. -/
def blockLines (text : String) : List (List Char) :=
  match linesKept text.toList with
  | [] => [[]]
  | lines => lines

theorem blockLines_ne_nil (text : String) : blockLines text ≠ [] := by
  rw [blockLines]
  split
  · exact List.cons_ne_nil _ _
  · assumption

theorem flatten_blockLines (text : String) : (blockLines text).flatten = text.toList := by
  have whole := flatten_linesKept text.toList
  rw [blockLines]
  split
  · rename_i none_
    rwa [none_] at whole
  · exact whole

/-- Lines that are indented alike. -/
theorem intercalate_indented (gap : String) {lines : List String} (some_ : lines ≠ []) :
    "\n".intercalate (lines.map (gap ++ ·)) = gap ++ ("\n" ++ gap).intercalate lines := by
  induction lines with
  | nil => exact absurd rfl some_
  | cons line rest ih =>
    cases rest with
    | nil => simp
    | cons next rest =>
      have more := ih (List.cons_ne_nil next rest)
      rw [List.map_cons] at more
      rw [List.map_cons, List.map_cons, String.intercalate_cons_cons, more,
        String.intercalate_cons_cons]
      simp only [String.append_assoc]

/-- A block holds the pieces of its text. -/
theorem exists_textBlock (text : String) : ∃ pieces : String,
    IsPieces text.toList pieces.toList ∧ textBlock text = "(\n    " ++ pieces ++ "\n)" := by
  have isGap : IsGap ("\n" ++ "    ").toList := isGap_lineBreak 4
  have isPieces := isPieces_intercalate isGap (blockLines_ne_nil text)
  rw [flatten_blockLines] at isPieces
  refine ⟨_, isPieces, ?_⟩
  have written : textBlock text = "(\n" ++ "\n".intercalate ((blockLines text).map fun line =>
    "    " ++ String.ofList (quoted line)) ++ "\n)" := rfl
  have some_ : (blockLines text).map (fun line => String.ofList (quoted line)) ≠ [] := by
    simpa using blockLines_ne_nil text
  have indented := intercalate_indented "    " some_
  rw [List.map_map] at indented
  rw [written, show (fun line => "    " ++ String.ofList (quoted line)) =
    ("    " ++ ·) ∘ fun line => String.ofList (quoted line) from rfl, indented]
  simp only [← String.append_assoc]
  rfl

/-- **A text that is written as a block of its lines reads back.** -/
theorem readBlock?_textBlock (text : String) (rest : List Char) :
    readBlock? ((textBlock text).toList ++ rest) = some (text.toList, rest) := by
  obtain ⟨pieces, isPieces, same⟩ := exists_textBlock text
  have parts : (textBlock text).toList ++ rest =
      '(' :: (('\n' :: List.replicate 4 ' ') ++ (pieces.toList ++ '\n' :: ')' :: rest)) := by
    rw [same]
    simp
  have isGap : IsGap ('\n' :: List.replicate 4 ' ') := isGap_lineBreak 4
  have closes : Json.skipSpaces ('\n' :: ')' :: rest) = ')' :: rest := rfl
  have begins : Json.skipSpaces (pieces.toList ++ '\n' :: ')' :: rest) =
      pieces.toList ++ '\n' :: ')' :: rest := by
    obtain ⟨quote, more, isText, isQuote⟩ := isPieces.cons
    rw [isText, List.cons_append]
    exact skipSpaces_cons (by rcases isQuote with rfl | rfl <;> rfl)
  have stops : ∀ c, (Json.skipSpaces ('\n' :: ')' :: rest)).head? = some c → c ≠ '\'' ∧ c ≠ '"' := by
    intro c first
    rw [closes] at first
    cases first
    decide
  have enough : pieces.toList.length ≤ (pieces.toList ++ '\n' :: ')' :: rest).length := by simp
  have reads := readAdjacent?_of_pieces isPieces stops enough
  rw [parts, readBlock?, skipSpaces_gap isGap, begins, reads]
  simp only [Option.bind_eq_bind, Option.bind_some, closes]

/-! ### Entries in order -/

namespace Registry

variable {registry : Registry}

theorem map_name_entries (distinct : registry.taken.Nodup) :
    registry.entries.map TypeEntry.name = registry.names := by
  rw [← map_fst_schemas distinct, schemas, List.map_map]
  rfl

/-- The entries are those that were added. -/
theorem perm_entries (distinct : registry.taken.Nodup) :
    registry.entries.Perm registry.added := by
  have nodup : registry.entries.Nodup := by
    refine List.Nodup.of_map TypeEntry.name ?_
    rw [map_name_entries distinct]
    exact (perm_names registry).nodup_iff.mpr distinct
  refine (List.perm_ext_iff_of_nodup nodup (List.Nodup.of_map TypeEntry.name distinct)).mpr
    fun entry => ⟨mem_entries, fun added => ?_⟩
  refine List.mem_filterMap.mpr ⟨entry.name, ?_, (get?_eq_some_iff distinct).mpr ⟨added, rfl⟩⟩
  exact (perm_names registry).mem_iff.mpr (List.mem_map_of_mem added)

/-- The entries stand in the order of their names. -/
theorem pairwise_entries (distinct : registry.taken.Nodup) :
    registry.entries.Pairwise fun first second => first.name < second.name := by
  rw [← List.pairwise_map (f := TypeEntry.name) (R := (· < ·)), map_name_entries distinct]
  exact (pairwise_lt_sortNames_iff registry.taken).mpr distinct

end Registry

/-! ### Modules -/

/-- **The source texts of a module read back.** What stands in parentheses behind `FLOW_SOURCE = ` are
quoted texts; joined they are the snippets of all entries in the order of their names, with a line
feed between two of them, whatever characters the snippets contain. -/
theorem sources_reproduced {registry : Registry} (distinct : registry.taken.Nodup)
    (source : String) :
    registry.entries.Perm registry.added ∧
    (registry.entries.Pairwise fun first second => first.name < second.name) ∧
    ∃ block after : String, registry.validatorModule source =
        moduleHeader (normalPath source) ++ "FLOW_SOURCE = " ++ block ++ "\n\nSCHEMAS = " ++ after ∧
      ∀ rest, readBlock? (block.toList ++ rest) =
        some (("\n".intercalate (registry.entries.map TypeEntry.snippet)).toList, rest) := by
  refine ⟨Registry.perm_entries distinct, Registry.pairwise_entries distinct,
    textBlock registry.sourceText, registry.schemaLiteral ++ "\n\nVALIDATORS = ValidatorCache(SCHEMAS)\n"
      ++ String.join (registry.names.map validatorFunctions) ++ "\n\n__all__ = [\n" ++
        "\n".intercalate ((offeredNames registry.names).map fun name => "    " ++ quote name ++ ",") ++
        "\n]\n", ?_, fun rest => ?_⟩
  · simp [Registry.validatorModule, ← String.toList_inj]
  · have snippets : registry.sources.map Prod.snd = registry.entries.map TypeEntry.snippet := by
      rw [Registry.sources, List.map_map]
      rfl
    rw [readBlock?_textBlock, Registry.sourceText, snippets]

/-- Two types that were added out of order; their snippets have line ends of several kinds. -/
def lineEndRegistry : Registry :=
  ⟨[⟨"B", "e.js", "export type B =\r\n  'it\\'s \"B\"';\u2028", .object (kindSchema .string)⟩,
    ⟨"A", "e.js", "\x0bexport type A = string;\u0085\r", .object (kindSchema .string)⟩]⟩

theorem sources_reproduced_lineEnds :
    lineEndRegistry.taken.Nodup ∧ ∃ block after : String,
      lineEndRegistry.validatorModule "e.js" =
        moduleHeader (normalPath "e.js") ++ "FLOW_SOURCE = " ++ block ++ "\n\nSCHEMAS = " ++ after ∧
      ∀ rest, readBlock? (block.toList ++ rest) =
        some (("\x0bexport type A = string;\u0085\r" ++ "\n" ++
          "export type B =\r\n  'it\\'s \"B\"';\u2028").toList, rest) := by
  have distinct : lineEndRegistry.taken.Nodup := by decide
  obtain ⟨-, -, block, after, isModule, reads⟩ := sources_reproduced distinct "e.js"
  have names : lineEndRegistry.names = ["A", "B"] :=
    (sortNames_congr (List.Perm.swap "A" "B" [])).trans
      (List.mergeSort_of_pairwise (List.pairwise_pair.mpr (by decide)))
  have entries : "\n".intercalate (lineEndRegistry.entries.map TypeEntry.snippet) =
      "\x0bexport type A = string;\u0085\r" ++ "\n" ++
        "export type B =\r\n  'it\\'s \"B\"';\u2028" := by
    rw [Registry.entries, names]
    decide +kernel
  rw [entries] at reads
  exact ⟨distinct, block, after, isModule, reads⟩

end TypeSchema
