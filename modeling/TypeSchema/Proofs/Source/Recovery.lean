/-
**A scan recovers the declarations of a module.**

* `located_split`: a statement stands at its offset, and offsets increase;
* `importsOf_block`, `exportsOf_block`: the names of a block are read with their places and with the
  module behind them;
* `slice_define`: the name, the statement and the right side of a definition are cut out of the
  source as they are written;
* `declarations_recovered`: **the declarations that a scan finds in a module are those its statements
  make**, whatever comments stand between them and whichever of them stand in flow comments.
-/

import TypeSchema.Proofs.Json.Fields
import TypeSchema.Proofs.Result
import TypeSchema.Proofs.Source.Blocks
import TypeSchema.Proofs.Source.Order

namespace TypeSchema

variable {parts : List Part} {offset : Nat} {written : StatementText} {source front back : List Char}
  {exported : Bool} {name side : List Char} {names : NamesText} {module : Option ModuleText}

/-! ### Where statements stand -/

/-- A statement stands at its offset. -/
theorem located_split {first : Nat} (member : (offset, written) ∈ located first parts) :
    ∃ front back, moduleText parts = front ++ (written.text ++ back) ∧
      offset = first + front.length ∧ .statement written ∈ parts := by
  induction parts generalizing first with
  | nil => cases member
  | cons part parts ih =>
    have later (behind : (offset, written) ∈ located (first + part.text.length) parts) :
        ∃ front back, moduleText (part :: parts) = front ++ (written.text ++ back) ∧
          offset = first + front.length ∧ .statement written ∈ part :: parts := by
      obtain ⟨front, back, same, rfl, inside⟩ := ih behind
      refine ⟨part.text ++ front, back, ?_, ?_, List.mem_cons_of_mem _ inside⟩
      · rw [List.append_assoc, ← same]
        rfl
      · rw [List.length_append, Nat.add_assoc]
    cases part with
    | space text => exact later member
    | hidden text => exact later member
    | statement other =>
      rcases List.mem_cons.mp member with here | behind
      · cases here
        exact ⟨[], moduleText parts, rfl, rfl, List.mem_cons_self⟩
      · exact later behind

theorem StatementText.text_ne_nil (written : StatementText) : written.text ≠ [] := by
  obtain ⟨core, same⟩ := written.exists_text
  rw [same]
  exact List.append_ne_nil_of_right_ne_nil core (List.cons_ne_nil _ _)

/-- The offsets of the statements increase. -/
theorem located_increasing (first : Nat) (parts : List Part) :
    (located first parts).Pairwise fun place later => place.1 < later.1 := by
  induction parts generalizing first with
  | nil => exact .nil
  | cons part parts ih =>
    cases part with
    | space text => exact ih _
    | hidden text => exact ih _
    | statement other =>
      refine .cons (fun place member => ?_) (ih _)
      obtain ⟨front, back, -, isOffset, -⟩ := located_split member
      have some_ := List.length_pos_iff.mpr other.text_ne_nil
      omega

/-- A located statement of a module is well-formed. -/
theorem wellFormed_of_located {first : Nat} {inFlow : Bool} (isModule : IsModule inFlow parts)
    (member : (offset, written) ∈ located first parts) : written.WellFormed := by
  obtain ⟨front, back, -, -, inside⟩ := located_split member
  exact isModule.parts _ inside

/-! ### The names of a block -/

/-- The names of a block are read with their places. -/
theorem specifiersOf_block (wellFormed : names.WellFormed) (source : List Char) (offset : Nat)
    (exported : Bool) (module : Option ModuleText) :
    specifiersOf source offset (blockOf exported names module) =
      (NamesText.locate (offset + 13) names.specifiers).map fun found =>
        (found.2.read, positionAt source found.1) := by
  have places := NamesText.locate_add (offset + 13) 0 names.specifiers
  rw [Nat.add_zero] at places
  rw [specifiersOf, blockOf, findAll_names wellFormed, places, List.map_map, List.map_map]
  rfl

/-- The module of a block is the one behind its names. -/
theorem moduleOf_block {head : List Char} (isHead : head.length = 13)
    (stands : source = front ++ (head ++ (names.text ++
      ('\x7d' :: (StatementText.fromText module ++ back))))) (exported : Bool) :
    moduleOf source front.length (blockOf exported names module) =
      module.map fun found => String.ofList found.name := by
  cases module with
  | none => rfl
  | some module =>
    obtain ⟨quote, name⟩ := module
    have split : source = (front ++ (head ++ (names.text ++
        ('\x7d' :: (StatementText.fromWord ++ [quote]))))) ++ (name ++ quote :: back) := by
      rw [stands]
      simp [StatementText.fromText, ModuleText.text]
    have word : StatementText.fromWord.length = 6 := rfl
    have cut : slice source (front.length + (13 + names.text.length + 1 + 7))
        (front.length + (13 + names.text.length + 1 + 7) + name.length) = name := by
      rw [split]
      refine slice_middle _ name _ ?_ rfl
      simp only [List.length_append, List.length_cons, List.length_nil, isHead, word]
      omega
    simp only [moduleOf, blockOf, Option.map_some, Option.getD_some, cut]

/-- **The imports of a block** are those that its statement makes. -/
theorem importsOf_block {block : SpecifierBlock} (wellFormed : written.WellFormed)
    (isBlock : written.block? = some block)
    (stands : source = front ++ (written.text ++ back)) :
    importsOf source front.length block = written.importsAt source front.length := by
  cases written with
  | define => cases isBlock
  | fetch names module =>
    cases isBlock
    have isModule := @moduleOf_block source front ([';'] ++ back) names (some module) _
      (show StatementText.importHead.length = 13 from rfl)
      (by rw [stands]; simp [StatementText.text]) false
    rw [importsOf, isModule, Option.map_some, specifiersOf_block wellFormed.1]
    simp only [blockOf, List.map_map, StatementText.importsAt]
    rfl
  | offer names module =>
    cases isBlock
    rfl

/-- **The exports of a block** are those that its statement makes. -/
theorem exportsOf_block {block : SpecifierBlock} (wellFormed : written.WellFormed)
    (isBlock : written.block? = some block)
    (stands : source = front ++ (written.text ++ back)) :
    exportsOf source front.length block =
      (written.exportsAt source front.length).map fun entry => (front.length, entry) := by
  cases written with
  | define => cases isBlock
  | fetch names module =>
    cases isBlock
    rfl
  | offer names module =>
    cases isBlock
    have isModule := @moduleOf_block source front ([';'] ++ back) names module _
      (show StatementText.exportHead.length = 13 from rfl)
      (by rw [stands]; simp [StatementText.text]) true
    rw [exportsOf, isModule, specifiersOf_block wellFormed.1]
    simp only [blockOf, if_true, List.map_map, StatementText.exportsAt]
    rfl

/-! ### The text of a definition -/

/-- The name, the statement and the right side of a definition, cut out of its source. -/
theorem slice_define {declaration : AliasDeclaration}
    (stands : source = front ++ ((StatementText.define exported name side).text ++ back))
    (defines : (StatementText.define exported name side).aliasAt source front.length =
      some declaration) :
    declaration.name = String.ofList name ∧ declaration.exported = exported ∧
      (∃ start : Nat, declaration.position = positionAt source start ∧
        slice source start (start + name.length) = name) ∧
      slice source declaration.start declaration.stop =
        (StatementText.define exported name side).text ∧
      slice source declaration.sideStart declaration.sideStop = trim side := by
  have word : StatementText.typeWord.length = 5 := rfl
  have sign : StatementText.equalsSign.length = 3 := rfl
  obtain ⟨gap, blank, isSide, -⟩ := exists_trimStart side
  obtain ⟨more, -, isTrim, -⟩ := exists_trimEnd (trimStart side)
  have length := congrArg List.length isSide
  rw [List.length_append] at length
  cases defines
  refine ⟨rfl, rfl, ⟨front.length + (StatementText.exportWord exported).length + 5, rfl, ?_⟩, ?_, ?_⟩
  · have split : source = (front ++ (StatementText.exportWord exported ++ StatementText.typeWord)) ++
        (name ++ ((StatementText.equalsSign ++ (side ++ [';'])) ++ back)) := by
      rw [stands]
      simp [StatementText.text]
    rw [split]
    refine slice_middle _ name _ ?_ rfl
    simp only [List.length_append, word]
    omega
  · rw [stands]
    exact slice_middle front _ back rfl rfl
  · have split : source = (front ++ (StatementText.exportWord exported ++ (StatementText.typeWord ++
        (name ++ (StatementText.equalsSign ++ gap))))) ++ (trim side ++ (more ++ ([';'] ++ back))) := by
      have whole : side = gap ++ (trim side ++ more) := isSide.trans (congrArg (gap ++ ·) isTrim)
      rw [stands, StatementText.text]
      conv_lhs => rw [whole]
      simp only [List.append_assoc]
    rw [split]
    refine slice_middle _ _ _ ?_ rfl
    simp only [List.length_append, word, sign]
    omega

/-! ### Modules -/

/-- The aliases that a module defines, in order. -/
def definitions (parts : List Part) : List AliasDeclaration :=
  (located 0 parts).filterMap fun written => written.2.aliasAt (moduleText parts) written.1

/-- The imports that a module makes, in order. -/
def fetches (parts : List Part) : List ImportBinding :=
  (located 0 parts).flatMap fun written => written.2.importsAt (moduleText parts) written.1

/-- The exports that a module makes, in order. -/
def offers (parts : List Part) : List Export :=
  (located 0 parts).flatMap fun written => written.2.exportsAt (moduleText parts) written.1

/-- What is found at the blocks of a module, statement by statement. -/
theorem flatMap_findBlocks {α : Type} (isModule : IsModule false parts)
    (values : Nat → SpecifierBlock → List α) :
    (findBlocks (mask (moduleText parts))).flatMap (fun found => values found.1 found.2) =
      (located 0 parts).flatMap fun written =>
        written.2.block?.toList.flatMap (values written.1) := by
  rw [findBlocks_moduleText isModule, List.filterMap_eq_flatMap_toList, List.flatMap_assoc]
  refine List.flatMap_congr fun written _ => ?_
  cases written.2.block? with
  | none => rfl
  | some block => rfl

/-- The imports that are found in a module are those it makes. -/
theorem imports_moduleText (isModule : IsModule false parts) :
    (findBlocks (mask (moduleText parts))).flatMap (fun found =>
      importsOf (moduleText parts) found.1 found.2) = fetches parts := by
  rw [flatMap_findBlocks isModule, fetches]
  refine List.flatMap_congr fun (offset, written) member => ?_
  have wellFormed := wellFormed_of_located isModule member
  obtain ⟨front, back, stands, isOffset, -⟩ := located_split member
  rw [Nat.zero_add] at isOffset
  subst isOffset
  cases isBlock : written.block? with
  | none =>
    cases written with
    | define => rfl
    | fetch => cases isBlock
    | offer => cases isBlock
  | some block =>
    rw [Option.toList_some, List.flatMap_singleton]
    exact importsOf_block wellFormed isBlock stands

/-- The exports of an alias, with their offset. -/
def aliasExports (source : List Char) (written : Nat × StatementText) : List (Nat × Export) :=
  ((written.2.aliasAt source written.1).toList.filter (·.exported)).map fun declaration =>
    (declaration.start, .declared declaration)

/-- The exports of a block, with their offset. -/
def blockExports (source : List Char) (written : Nat × StatementText) : List (Nat × Export) :=
  written.2.block?.toList.flatMap fun block => exportsOf source written.1 block

theorem fst_of_mem_aliasExports {written : Nat × StatementText} {value : Nat × Export}
    (member : value ∈ aliasExports source written) : value.1 = written.1 := by
  obtain ⟨declaration, inside, rfl⟩ := List.mem_map.mp member
  have defines := Option.mem_toList.mp (List.mem_filter.mp inside).1
  obtain ⟨offset, statement⟩ := written
  cases statement with
  | define => cases defines; rfl
  | fetch => cases defines
  | offer => cases defines

theorem fst_of_mem_blockExports {written : Nat × StatementText} {value : Nat × Export}
    (member : value ∈ blockExports source written) : value.1 = written.1 := by
  obtain ⟨block, -, inside⟩ := List.mem_flatMap.mp member
  rw [exportsOf] at inside
  split_ifs at inside
  · obtain ⟨found, -, rfl⟩ := List.mem_map.mp inside
    rfl
  · cases inside

/-- What a statement exports, as an alias and as a block. -/
theorem exportsAt_eq (wellFormed : written.WellFormed)
    (stands : source = front ++ (written.text ++ back)) :
    aliasExports source (front.length, written) ++ blockExports source (front.length, written) =
      (written.exportsAt source front.length).map fun entry => (front.length, entry) := by
  cases isBlock : written.block? with
  | none =>
    rw [blockExports, isBlock, Option.toList_none, List.flatMap_nil, List.append_nil]
    cases written with
    | define exported name side => cases exported <;> rfl
    | fetch => cases isBlock
    | offer => cases isBlock
  | some block =>
    rw [blockExports, isBlock, Option.toList_some, List.flatMap_singleton,
      exportsOf_block wellFormed isBlock stands]
    cases written with
    | define => cases isBlock
    | fetch => rfl
    | offer => rfl

/-- The exports that are found in a module are those it makes, in order. -/
theorem exports_moduleText (isModule : IsModule false parts) (path : String) :
    (Declarations.ofSource path (moduleText parts)).exports = offers parts := by
  have aliases : ((findAliases (moduleText parts) (mask (moduleText parts))).filter (·.exported)).map
      (fun declaration => (declaration.start, Export.declared declaration)) =
        (located 0 parts).flatMap (aliasExports (moduleText parts)) := by
    rw [findAliases_moduleText isModule, List.filterMap_eq_flatMap_toList, List.filter_flatMap,
      List.map_flatMap]
    rfl
  have blocks := flatMap_findBlocks isModule (exportsOf (moduleText parts))
  have sorted := @mergeSort_flatMap (Nat × Export) _ Prod.fst _ _ (located_increasing 0 parts) _ _
    (fun _ _ => @fst_of_mem_aliasExports (moduleText parts) _ _)
    (fun _ _ => @fst_of_mem_blockExports (moduleText parts) _ _)
  rw [Declarations.ofSource]
  dsimp only
  rw [aliases, blocks]
  refine (congrArg (List.map Prod.snd) sorted).trans ?_
  rw [List.map_flatMap, offers]
  refine List.flatMap_congr fun (offset, written) member => ?_
  have wellFormed := wellFormed_of_located isModule member
  obtain ⟨front, back, stands, isOffset, -⟩ := located_split member
  rw [Nat.zero_add] at isOffset
  subst isOffset
  rw [exportsAt_eq wellFormed stands, List.map_map]
  exact List.map_id _

/-- The last of several values with a name is what is collected under that name. -/
theorem lookup_collectFields_map {α : Type} (key : α → String) (values : List α) (name : String) :
    (collectFields (values.map fun value => (key value, value))).lookup name =
      values.reverse.find? fun value => key value = name := by
  rw [lookup_collectFields, ← List.map_reverse]
  induction values.reverse with
  | nil => rfl
  | cons value rest ih =>
    rw [List.map_cons, lookup_first, ih, List.find?_cons]
    by_cases same : key value = name
    · simp [same]
    · simp [same, Ne.symm same]

/-- **A scan recovers every declaration of a module**: the aliases are those that its statements
define, the imports and the exports those that they make, in order; under one name the last
definition and the last import count; and every definition is cut out of the source as it is
written, with its name, its statement and its right side. -/
theorem declarations_recovered (isModule : IsModule false parts) (path : String) :
    let found := Declarations.ofSource path (moduleText parts)
    (found.aliases = collectFields ((definitions parts).map fun declaration =>
        (declaration.name, declaration)) ∧
      ∀ name, found.aliases.lookup name =
        (definitions parts).reverse.find? fun declaration => declaration.name = name) ∧
    (found.imports = collectFields ((fetches parts).map fun binding =>
        (binding.localName, binding)) ∧
      ∀ name, found.imports.lookup name =
        (fetches parts).reverse.find? fun binding => binding.localName = name) ∧
    found.exports = offers parts ∧
    ∀ offset exported name side, (offset, .define exported name side) ∈ located 0 parts →
      ∃ declaration ∈ definitions parts, declaration.start = offset ∧
        declaration.name = String.ofList name ∧ declaration.exported = exported ∧
        (∃ start : Nat, declaration.position = positionAt (moduleText parts) start ∧
          slice (moduleText parts) start (start + name.length) = name) ∧
        found.statement declaration = (StatementText.define exported name side).text ∧
        found.rightSide declaration = trim side := by
  intro found
  have aliases : found.aliases = collectFields ((definitions parts).map fun declaration =>
      (declaration.name, declaration)) := by
    rw [definitions, ← findAliases_moduleText isModule]
    rfl
  have imports : found.imports =
      collectFields ((fetches parts).map fun binding => (binding.localName, binding)) := by
    rw [← imports_moduleText isModule]
    rfl
  refine ⟨⟨aliases, fun name => ?_⟩, ⟨imports, fun name => ?_⟩, exports_moduleText isModule path,
    fun offset exported name side member => ?_⟩
  · rw [aliases, lookup_collectFields_map]
  · rw [imports, lookup_collectFields_map]
  · obtain ⟨front, back, stands, isOffset, -⟩ := located_split member
    rw [Nat.zero_add] at isOffset
    subst isOffset
    obtain ⟨declaration, defines⟩ : ∃ declaration,
        (StatementText.define exported name side).aliasAt (moduleText parts) front.length =
          some declaration := ⟨_, rfl⟩
    obtain ⟨isName, isExported, position, statement, rightSide⟩ := slice_define stands defines
    refine ⟨declaration, List.mem_filterMap.mpr ⟨_, member, defines⟩, ?_, isName, isExported, position,
      statement, rightSide⟩
    cases defines
    rfl

theorem breaksAtBars_of_oneLine {side : List Char} (oneLine : '\n' ∉ mask side) :
    BreaksAtBars side := by
  rintro front back split -
  rw [split] at oneLine
  exact absurd (List.mem_append_cons_self) oneLine

/-- A text of two lines may be broken behind a bar. -/
theorem breaksAtBars_of_twoLines {side first second : List Char}
    (lines : mask side = first ++ '\n' :: second)
    (oneFeed : '\n' ∉ first ∧ '\n' ∉ second) (bar : (trimEnd first).getLast? = some '|') :
    BreaksAtBars side := by
  intro front back split _
  obtain ⟨more, rfl, behind⟩ := append_eq_before (lines.symm.trans split) oneFeed.1
  cases more with
  | nil => exact .inl (by rwa [List.append_nil])
  | cons c more =>
    obtain ⟨-, rfl⟩ := List.cons.inj behind
    exact absurd List.mem_append_cons_self oneFeed.2

/-- A comment that looks like a definition, a flow comment around a definition on two lines, and
a fetched and an offered name. -/
def exampleModule : List Part :=
  [.hidden ('/' :: '/' :: (" type A = number;".toList ++ ['\n'])), .hidden "/*::".toList, .space ['\n'],
    .statement (.define true ['A'] "?string |\n  number".toList), .space ['\n'],
    .hidden ['*', '/'], .space ['\n'],
    .statement (.fetch ⟨[⟨[], ['B'], some ⟨[' '], [' '], ['C']⟩, []⟩], false, []⟩
      ⟨'"', "./m".toList⟩), .space ['\n'],
    .statement (.offer ⟨[⟨[], ['C'], none, []⟩, ⟨[' '], ['A'], some ⟨[' '], [' '], ['D']⟩, []⟩],
      true, []⟩ none), .space ['\n']]

theorem isIdentifier_singleton {c : Char} (starts : isNameStart c) : IsIdentifier [c] :=
  ⟨c, [], rfl, starts, nofun⟩

theorem wellFormed_exampleUnion :
    (StatementText.define true ['A'] "?string |\n  number".toList).WellFormed := by
  refine ⟨isIdentifier_singleton rfl, ⟨none, ⟨1, 1⟩, exists_eq_ok (by decide +kernel)⟩,
    by decide, ?_⟩
  exact @breaksAtBars_of_twoLines _ "?string |".toList "  number".toList
    (by decide +kernel) (by decide) (by decide)

theorem isModule_exampleModule : IsModule false exampleModule := by
  have blank : AllBlank ['\n'] := List.forall_mem_singleton.mpr (by decide)
  have space : AllBlank [' '] ∧ [' '] ≠ [] := ⟨allBlank_space, List.cons_ne_nil _ _⟩
  have named {c : Char} (starts : isNameStart c) := isIdentifier_singleton starts
  have renamed (c : Char) (starts : isNameStart c) :
      ∀ rename, some (Rename.mk [' '] [' '] [c]) = some rename → rename.WellFormed := by
    rintro rename ⟨⟩
    exact ⟨space, space, named starts⟩
  have plain : ∀ rename, (none : Option Rename) = some rename → rename.WellFormed := nofun
  refine .lineComment (by decide) (.opening (by decide) (.space blank
    (.statement wellFormed_exampleUnion (.space blank (.closing (.space blank
      (.statement ⟨⟨?_, allBlank_nil⟩, .inl rfl, by decide⟩ (.space blank
        (.statement ⟨⟨?_, allBlank_nil⟩, nofun⟩ (.space blank .nil))))))))))
  · exact List.forall_mem_singleton.mpr ⟨allBlank_nil, named rfl, renamed 'C' rfl, allBlank_nil⟩
  · exact List.forall_mem_cons.mpr ⟨⟨allBlank_nil, named rfl, plain, allBlank_nil⟩,
      List.forall_mem_singleton.mpr ⟨allBlank_space, named rfl, renamed 'D' rfl, allBlank_nil⟩⟩

theorem declarations_recovered_exampleModule : IsModule false exampleModule ∧
    (Declarations.ofSource "e.js" (moduleText exampleModule)).exports =
      [.declared ⟨"A", true, ⟨3, 13⟩, 25, 60, 41, 59⟩, .specifier ⟨"C", "C", none, ⟨7, 14⟩⟩,
        .specifier ⟨"A", "D", none, ⟨7, 17⟩⟩] :=
  ⟨isModule_exampleModule,
    (declarations_recovered isModule_exampleModule "e.js").2.2.1.trans (by decide +kernel)⟩

end TypeSchema
