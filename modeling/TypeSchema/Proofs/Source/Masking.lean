/-
**A scan sees the mask of a source, and the names of modules.**

* `ImportBinding.unnamed`, `Export.unnamed`: what is found, without the names of modules;
* `findAliases_mask`, `importsOf_mask`, `exportsOf_mask`: **each search finds the same in the source
  and in its mask**, but for the names of modules;
* `masked_text_unseen`: so **what is masked does not change what is found**: sources with one mask
  have the same aliases, the same imports and the same exports, wherever they stand.
-/

import TypeSchema.Proofs.Json.Fields
import TypeSchema.Proofs.Source.Mask
import TypeSchema.Source.Scan

namespace TypeSchema

/-- An import without the name of its module. -/
def ImportBinding.unnamed (binding : ImportBinding) : ImportBinding := { binding with module := "" }

/-- An export without the name of its module. Whether it has one is kept. -/
def Export.unnamed : Export → Export
  | declared declaration => declared declaration
  | specifier entry => specifier { entry with module := entry.module.map fun _ => "" }

variable {source other masked : List Char} {path : String}

/-! ### Searches -/

theorem aliasAt?_mask (source masked : List Char) (offset : Nat) (head : AliasStart) :
    aliasAt? source masked offset head = aliasAt? (mask source) masked offset head := by
  simp only [aliasAt?, positionAt_mask]

/-- Aliases are where they are in the mask. -/
theorem findAliases_mask (source masked : List Char) :
    findAliases source masked = findAliases (mask source) masked := by
  simp only [findAliases, aliasAt?_mask source]

theorem specifiersOf_mask (source : List Char) (offset : Nat) (block : SpecifierBlock) :
    specifiersOf source offset block = specifiersOf (mask source) offset block := by
  simp only [specifiersOf, positionAt_mask]

/-- Whether a block names a module does not depend on the name. -/
theorem map_moduleOf (source : List Char) (offset : Nat) (block : SpecifierBlock) :
    (moduleOf source offset block).map (fun _ => "") = block.moduleStart.map fun _ => "" := by
  rw [moduleOf, Option.map_map]
  rfl

/-- Imports are where they are in the mask. -/
theorem importsOf_mask (source : List Char) (offset : Nat) (block : SpecifierBlock) :
    (importsOf source offset block).map ImportBinding.unnamed =
      (importsOf (mask source) offset block).map ImportBinding.unnamed := by
  rw [importsOf, importsOf, specifiersOf_mask source]
  cases block.exported with
  | true => rfl
  | false =>
    rw [moduleOf, moduleOf]
    cases block.moduleStart with
    | none => rfl
    | some start =>
      simp only [Option.map_some, List.map_map]
      rfl

/-- Exports are where they are in the mask. -/
theorem exportsOf_mask (source : List Char) (offset : Nat) (block : SpecifierBlock) :
    (exportsOf source offset block).map (Prod.map id Export.unnamed) =
      (exportsOf (mask source) offset block).map (Prod.map id Export.unnamed) := by
  rw [exportsOf, exportsOf, specifiersOf_mask source]
  cases block.exported with
  | false => rfl
  | true =>
    simp only [if_true, List.map_map]
    refine List.map_congr_left fun found _ => ?_
    simp only [Function.comp_apply, Prod.map_apply, id, Export.unnamed, map_moduleOf]

/-! ### Scans -/

/-- Exports in the order of their offsets, without the names of modules. -/
theorem map_unnamed_mergeSort (found : List (Nat × Export)) :
    ((found.mergeSort fun a b => decide (a.1 ≤ b.1)).map Prod.snd).map Export.unnamed =
      (((found.map (Prod.map id Export.unnamed)).mergeSort fun a b =>
        decide (a.1 ≤ b.1)).map Prod.snd) := by
  rw [← @List.map_mergeSort _ _ (fun a b => decide (a.1 ≤ b.1)) _ (Prod.map id Export.unnamed)
    found fun _ _ _ _ => rfl, List.map_map, List.map_map]
  rfl

/-- The imports of a source are those of its mask. -/
theorem imports_ofSource (path : String) (source : List Char) :
    (Declarations.ofSource path source).imports.map (Prod.map id ImportBinding.unnamed) =
      collectFields (((findBlocks (mask source)).flatMap fun (offset, block) =>
        (importsOf (mask source) offset block).map ImportBinding.unnamed).map fun binding =>
          (binding.localName, binding)) := by
  rw [Declarations.ofSource]
  simp only [map_collectFields, List.map_flatMap, ← importsOf_mask source, List.map_map]
  rfl

/-- The exports of a source are those of its mask. -/
theorem exports_ofSource_mask (path : String) (source : List Char) :
    (Declarations.ofSource path source).exports.map Export.unnamed =
      ((((findAliases (mask source) (mask source)).filter (·.exported)).map (fun declaration =>
          (declaration.start, Export.declared declaration)) ++
        (findBlocks (mask source)).flatMap fun (offset, block) =>
          (exportsOf (mask source) offset block).map (Prod.map id Export.unnamed)).mergeSort
            fun a b => decide (a.1 ≤ b.1)).map Prod.snd := by
  rw [Declarations.ofSource]
  dsimp only
  rw [map_unnamed_mergeSort, List.map_append, List.map_flatMap, List.map_map]
  simp only [← exportsOf_mask source, ← findAliases_mask source]
  rfl

/-- **What is masked is not seen.** Sources with one mask have the same aliases, with their names,
positions and offsets, and the same imports and exports but for the names of modules; a name is then
bound at the same place. -/
theorem masked_text_unseen (same : mask source = mask other) (path : String) :
    let found := Declarations.ofSource path source
    let found' := Declarations.ofSource path other
    found.aliases = found'.aliases ∧
    found.imports.map (Prod.map id ImportBinding.unnamed) =
      found'.imports.map (Prod.map id ImportBinding.unnamed) ∧
    found.exports.map Export.unnamed = found'.exports.map Export.unnamed ∧
    ∀ name, found.localPosition? name = found'.localPosition? name := by
  intro found found'
  have aliases : found.aliases = found'.aliases := by
    change collectFields ((findAliases source (mask source)).map _) =
      collectFields ((findAliases other (mask other)).map _)
    rw [findAliases_mask source, findAliases_mask other, same]
  have imports : found.imports.map (Prod.map id ImportBinding.unnamed) =
      found'.imports.map (Prod.map id ImportBinding.unnamed) := by
    rw [imports_ofSource, imports_ofSource, same]
  refine ⟨aliases, imports, ?_, fun name => ?_⟩
  · rw [exports_ofSource_mask, exports_ofSource_mask, same]
  · have position (bindings : List (String × ImportBinding)) :
        (bindings.lookup name).map ImportBinding.position =
          ((bindings.map (Prod.map id ImportBinding.unnamed)).lookup name).map
            ImportBinding.position := by
      rw [lookup_map, Option.map_map]
      rfl
    rw [Declarations.localPosition?, Declarations.localPosition?, aliases, position, imports,
      ← position]

/-- What looks like a definition, in a comment and in a string, and the name of a module. -/
def shownSource : List Char :=
  ("// export type A = string;\nexport type B = 'type C = 1;';\n" ++
    "export type \x7bB as D\x7d from './m';\n").toList

/-- Other texts in the same places. -/
def otherSource : List Char :=
  ("/* nothing to be seen. */ \nexport type B = '/* \x7d; // */';\n" ++
    "export type \x7bB as D\x7d from 'abc';\n").toList

theorem masked_text_unseen_otherSource : mask shownSource = mask otherSource ∧
    shownSource ≠ otherSource ∧
    (Declarations.ofSource "e.js" shownSource).exports.map Export.unnamed =
      (Declarations.ofSource "e.js" otherSource).exports.map Export.unnamed := by
  have same : mask shownSource = mask otherSource := by
    delta shownSource otherSource
    rw [String.toList_append, String.toList_append]
    -- The characters of a literal are known without decoding its bytes.
    repeat rw [String.toList_ofList]
    decide +kernel
  exact ⟨same, by decide +kernel, (masked_text_unseen same "e.js").2.2.1⟩

end TypeSchema
