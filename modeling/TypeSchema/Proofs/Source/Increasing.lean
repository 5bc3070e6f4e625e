/-
**Exports in the order of their source.**

* `standsIn_of_findAliases`, `readsAt_of_imports`, `mem_locatedExports`: what a source declares
  stands in it;
* `pairwise_locatedExports`: of one statement, the names come in the order of their places;
* `exports_inOrder`: **exports are in the order of the statements that make them**, and those of one
  statement in the order of their places;
* `exports_increasing`: **exports are in the order of their places** when no exported alias begins
  inside an export of names.
-/

import TypeSchema.Proofs.Json.Fields
import TypeSchema.Proofs.Source.Order
import TypeSchema.Proofs.Source.Spans

namespace TypeSchema

variable {source : List Char} {declaration : AliasDeclaration} {path : String}

/-- The line and column of the name that an export gives a type. -/
def Export.position : Export → Position
  | .declared declaration => declaration.position
  | .specifier entry => entry.position

/-! ### What is found -/

/-- **An alias stands in its source**, where the search for aliases finds it. -/
theorem standsIn_of_findAliases (found : declaration ∈ findAliases source (mask source)) :
    declaration.StandsIn source ∧
      ∃ head, (declaration.start, head) ∈ findAll aliasStart? 0 none 0 (mask source) ∧
        offsetAt source declaration.position < declaration.start + head.nameStop := by
  obtain ⟨⟨offset, head⟩, isFound, isAlias⟩ := List.mem_filterMap.mp found
  obtain ⟨front, back, last, width, isText, rfl, -, starts⟩ := exists_of_mem_findAll isFound
  rw [Nat.zero_add] at isAlias isFound
  obtain ⟨stands, start, -, place⟩ := standsIn_of_aliasAt? isText starts isAlias
  obtain ⟨rest, isName, nameStop, -⟩ := aliasStart?_name starts
  obtain ⟨c, more, same, -⟩ := (identifier?_eq_some isName).1
  rw [same, List.length_cons] at nameStop
  rw [start]
  exact ⟨stands, head, isFound, by omega⟩

/-- A name between the braces of a block can be read there. -/
theorem readsAt_of_findBlocks {offset : Nat} {block : SpecifierBlock} {specifier : Specifier}
    {place : Nat} (isBlock : (offset, block) ∈ findBlocks (mask source))
    (listed : (place, specifier) ∈ findAll specifier? 0 none 0 block.body) :
    let position := positionAt source (offset + block.bodyStart + place : Nat)
    ReadsAt source position (String.ofList specifier.given) ∧
      offsetAt source position = offset + block.bodyStart + place ∧ place < block.body.length := by
  obtain ⟨isFound, -⟩ := List.mem_filter.mp isBlock
  obtain ⟨front, back, last, width, isText, rfl, -, isMatch⟩ := exists_of_mem_findAll isFound
  rw [Nat.zero_add]
  exact readsAt_specifier isText isMatch listed

/-- **An import can be read by its name in the other module** where it says. -/
theorem readsAt_of_imports {binding : ImportBinding} {name : String}
    (isImport : (name, binding) ∈ (Declarations.ofSource path source).imports) :
    ReadsAt source binding.position binding.imported := by
  obtain ⟨found, member, same⟩ := List.mem_map.mp (mem_of_mem_collectFields isImport)
  cases same
  obtain ⟨⟨offset, block⟩, isBlock, inside⟩ := List.mem_flatMap.mp member
  dsimp only at inside
  rw [importsOf] at inside
  split at inside
  · obtain ⟨_, isName, rfl⟩ := List.mem_map.mp inside
    obtain ⟨⟨place, specifier⟩, isFound, rfl⟩ := List.mem_map.mp isName
    exact (readsAt_of_findBlocks isBlock isFound).1
  · cases inside

/-- **A name that a block exports** can be read between its braces. -/
theorem mem_exportsOf {offset : Nat} {block : SpecifierBlock} {located : Nat × Export}
    (isBlock : (offset, block) ∈ findBlocks (mask source))
    (listed : located ∈ exportsOf source offset block) :
    block.exported = true ∧ ∃ specifier, located = (offset, .specifier specifier) ∧
      ReadsAt source specifier.position specifier.localName ∧
      offset + block.bodyStart ≤ offsetAt source specifier.position ∧
      offsetAt source specifier.position < offset + block.bodyStart + block.body.length := by
  rw [exportsOf] at listed
  split_ifs at listed with exported
  · obtain ⟨_, isListed, rfl⟩ := List.mem_map.mp listed
    obtain ⟨⟨place, specifier⟩, isFound, rfl⟩ := List.mem_map.mp isListed
    obtain ⟨reads, offset, fits⟩ := readsAt_of_findBlocks isBlock isFound
    exact ⟨exported, _, rfl, reads, by rw [offset]; omega, by rw [offset]; omega⟩
  · cases listed

/-- What an export is made by: an alias, or a block of names. -/
theorem mem_locatedExports {located : Nat × Export} (listed : located ∈ locatedExports source) :
    (∃ declaration ∈ findAliases source (mask source),
      declaration.exported = true ∧ located = (declaration.start, .declared declaration)) ∨
    ∃ place ∈ findBlocks (mask source), located ∈ exportsOf source place.1 place.2 := by
  rcases List.mem_append.mp listed with isAlias | isName
  · obtain ⟨declaration, found, rfl⟩ := List.mem_map.mp isAlias
    obtain ⟨found, exported⟩ := List.mem_filter.mp found
    exact .inl ⟨declaration, found, exported, rfl⟩
  · exact .inr (List.mem_flatMap.mp isName)

/-! ### What comes first -/

/-- **No brace opens in the beginning of an alias**: one that begins no later than a block of names
has its own name before the brace of that. -/
theorem nameStop_lt_bodyStart {start offset : Nat} {head : AliasStart} {block : SpecifierBlock}
    (isAlias : (start, head) ∈ findAll aliasStart? 0 none 0 (mask source))
    (isBlock : (offset, block) ∈ findBlocks (mask source)) (before : start ≤ offset) :
    start + head.nameStop < offset + block.bodyStart := by
  obtain ⟨front, back, last, width, isText, rfl, -, starts⟩ := exists_of_mem_findAll isAlias
  obtain ⟨left, right, end_, size, isSource, rfl, -, isMatch⟩ :=
    exists_of_mem_findAll (List.mem_filter.mp isBlock).1
  obtain ⟨words, gap, name, rest, rfl, areWords, blank, -, isIdentifier, stop, length⟩ :=
    aliasStart?_eq_some starts
  obtain ⟨opening, after, rfl, bodyStart, -⟩ := specifierBlock?_eq_some isMatch
  by_contra inside
  have brace : (mask source)[left.length + opening.length]? = some '\x7b' := by
    rw [isSource, ← List.append_assoc, ← List.length_append,
      List.getElem?_append_right (Nat.le_refl _), Nat.sub_self]
    rfl
  have seen : '\x7b' ∈ words ++ 'e' :: (gap ++ name) := by
    have split : mask source = front ++ ((words ++ 'e' :: (gap ++ name)) ++ rest) := by
      rw [isText]
      simp
    have count : (words ++ 'e' :: (gap ++ name)).length = head.nameStop := by
      simp only [List.length_append, List.length_cons] at length ⊢
      omega
    rw [split, List.getElem?_append_right (by omega), List.getElem?_append_left (by omega)] at brace
    exact List.mem_of_getElem? brace
  have word : ∀ c ∈ words ++ 'e' :: (gap ++ name), isIdentifierPart c ∨ isBlank c := by
    refine List.forall_mem_append.mpr ⟨areWords, List.forall_mem_cons.mpr ⟨.inl (by decide), ?_⟩⟩
    exact List.forall_mem_append.mpr
      ⟨fun c member => .inr (blank c member), fun c member => .inl (isIdentifier.parts c member)⟩
  rcases word _ seen with isPart | isGap
  · revert isPart
    decide
  · revert isGap
    decide

/-- A statement that begins before another one makes exports of earlier places, unless it is a block
of names in which the other one begins. -/
theorem offsetAt_lt_of_start_lt {start later : Nat} {first second : Export}
    (isFirst : (start, first) ∈ locatedExports source)
    (isSecond : (later, second) ∈ locatedExports source) (less : start < later)
    (apart : ∀ declaration ∈ findAliases source (mask source), declaration.exported = true →
      (later, second) = (declaration.start, .declared declaration) →
        ∀ block, (start, block) ∈ findBlocks (mask source) → block.exported = true →
          start + block.bodyStart + block.body.length ≤ declaration.start) :
    offsetAt source first.position < offsetAt source second.position := by
  have headFits (before : Option Char) (text : List Char) (head : AliasStart) (width : Nat)
      (isMatch : aliasStart? before text = some (head, width)) : head.nameStop ≤ width := by
    obtain ⟨-, -, -, -, stop⟩ := aliasStart?_name isMatch
    exact Nat.le_of_eq stop
  have blockFits (before : Option Char) (text : List Char) (block : SpecifierBlock) (width : Nat)
      (isMatch : specifierBlock? before text = some (block, width)) :
      block.bodyStart + block.body.length ≤ width := by
    obtain ⟨-, -, -, -, inside⟩ := specifierBlock?_eq_some isMatch
    exact Nat.le_of_lt inside
  rcases mem_locatedExports isFirst with ⟨early, isEarly, -, same⟩ |
    ⟨⟨offset, block⟩, isBlock, listed⟩
  · cases same
    obtain ⟨-, head, isHead, named⟩ := standsIn_of_findAliases isEarly
    rcases mem_locatedExports isSecond with ⟨late, isLate, -, same⟩ |
      ⟨⟨offset, block⟩, isBlock, listed⟩
    · cases same
      obtain ⟨stands, other, isOther, -⟩ := standsIn_of_findAliases isLate
      have before : early.start + head.nameStop ≤ late.start :=
        end_le_of_findAll headFits isHead isOther less
      exact named.trans_le (before.trans stands.place)
    · obtain ⟨-, specifier, same, -, begins, -⟩ := mem_exportsOf isBlock listed
      cases same
      have before := nameStop_lt_bodyStart isHead isBlock (Nat.le_of_lt less)
      exact (named.trans before).trans_le begins
  · obtain ⟨exported, specifier, same, -, -, ends⟩ := mem_exportsOf isBlock listed
    cases same
    rcases mem_locatedExports isSecond with ⟨late, isLate, isExported, same⟩ |
      ⟨⟨place, other⟩, isOther, listed⟩
    · cases same
      obtain ⟨stands, -⟩ := standsIn_of_findAliases isLate
      have before := apart late isLate isExported rfl block isBlock exported
      exact ends.trans_le (before.trans stands.place)
    · obtain ⟨-, specifier', same, -, begins, -⟩ := mem_exportsOf isOther listed
      cases same
      have before : start + (block.bodyStart + block.body.length) ≤ later :=
        end_le_of_findAll blockFits (List.mem_filter.mp isBlock).1 (List.mem_filter.mp isOther).1
          less
      exact ends.trans_le ((by omega : _ ≤ later + other.bodyStart).trans begins)

/-- The names of one block come in the order of their places. -/
theorem pairwise_exportsOf {offset : Nat} {block : SpecifierBlock}
    (isBlock : (offset, block) ∈ findBlocks (mask source)) :
    (exportsOf source offset block).Pairwise fun first second =>
      offsetAt source first.2.position < offsetAt source second.2.position := by
  rw [exportsOf]
  split_ifs
  · have names := increasing_findAll specifier? 0 none 0 block.body
    rw [specifiersOf, List.map_map, List.pairwise_map]
    refine names.imp_of_mem fun {first second} isFirst isSecond less => ?_
    obtain ⟨-, place, -⟩ := readsAt_of_findBlocks isBlock isFirst
    obtain ⟨-, later, -⟩ := readsAt_of_findBlocks isBlock isSecond
    simp only [Function.comp_apply, Export.position]
    omega
  · exact .nil

/-- **Of one statement, the names come in the order of their places.** -/
theorem pairwise_locatedExports (source : List Char) :
    (locatedExports source).Pairwise fun first second => first.1 = second.1 →
      offsetAt source first.2.position < offsetAt source second.2.position := by
  refine List.pairwise_append.mpr ⟨?aliases, List.pairwise_flatMap.mpr ⟨?block, ?blocks⟩, ?both⟩
  case aliases =>
    have heads := increasing_findAll aliasStart? 0 none 0 (mask source)
    rw [List.pairwise_map]
    refine List.Pairwise.filter _ (List.pairwise_filterMap.mpr (heads.imp ?_))
    intro first second apart declaration isFirst later isSecond
    obtain ⟨-, -, -, -, -, -, rfl⟩ := aliasAt?_eq_some isFirst
    obtain ⟨-, -, -, -, -, -, rfl⟩ := aliasAt?_eq_some isSecond
    exact fun same => absurd same (Nat.ne_of_lt apart)
  case block =>
    rintro ⟨offset, block⟩ isBlock
    refine (pairwise_exportsOf isBlock).imp ?_
    exact fun less _ => less
  case blocks =>
    have blocks : (findBlocks (mask source)).Pairwise fun place later => place.1 < later.1 :=
      (increasing_findAll specifierBlock? 0 none 0 (mask source)).filter _
    refine blocks.imp_of_mem fun {place later} isPlace isLater apart => ?_
    intro first isFirst second isSecond
    obtain ⟨-, -, rfl, -⟩ := mem_exportsOf isPlace isFirst
    obtain ⟨-, -, rfl, -⟩ := mem_exportsOf isLater isSecond
    exact fun same => absurd same (Nat.ne_of_lt apart)
  case both =>
    intro first isAlias second isName same
    obtain ⟨declaration, found, rfl⟩ := List.mem_map.mp isAlias
    obtain ⟨place, isBlock, listed⟩ := List.mem_flatMap.mp isName
    obtain ⟨-, head, isHead, named⟩ := standsIn_of_findAliases (List.mem_filter.mp found).1
    obtain ⟨-, specifier, rfl, -, begins, -⟩ := mem_exportsOf isBlock listed
    have before := nameStop_lt_bodyStart isHead isBlock (Nat.le_of_eq same)
    exact (named.trans before).trans_le begins

/-! ### Exports -/

/-- No exported alias begins inside an export of names, before its closing brace. -/
def Untangled (source : List Char) : Prop :=
  ∀ declaration ∈ findAliases source (mask source), declaration.exported = true →
    ∀ statement ∈ findBlocks (mask source), statement.2.exported = true →
      statement.1 < declaration.start →
        statement.1 + statement.2.bodyStart + statement.2.body.length ≤ declaration.start

/-- **Exports are in the order of the statements that make them**, and those of one statement in the
order of their places. -/
theorem exports_inOrder (path : String) (source : List Char) :
    ∃ located : List (Nat × Export), located.Perm (locatedExports source) ∧
      located.map Prod.snd = (Declarations.ofSource path source).exports ∧
      located.Pairwise fun first second => first.1 < second.1 ∨ first.1 = second.1 ∧
        offsetAt source first.2.position < offsetAt source second.2.position :=
  ⟨_, List.mergeSort_perm _ _, rfl, pairwise_mergeSort_key (pairwise_locatedExports source)⟩

/-- **Exports are in the order of their places** when no alias begins inside an export of names. -/
theorem exports_increasing (path : String) (untangled : Untangled source) :
    (Declarations.ofSource path source).exports.Pairwise fun first second =>
      offsetAt source first.position < offsetAt source second.position := by
  obtain ⟨located, perm, same, inOrder⟩ := exports_inOrder path source
  rw [← same, List.pairwise_map]
  refine inOrder.imp_of_mem fun {first second} isFirst isSecond ordered => ?_
  rcases ordered with less | ⟨-, less⟩
  · refine offsetAt_lt_of_start_lt (perm.mem_iff.mp isFirst) (perm.mem_iff.mp isSecond) less ?_
    intro declaration found exported same block isBlock isExported
    rw [(Prod.mk.inj same).1] at less
    exact untangled declaration found exported _ isBlock isExported less
  · exact less

end TypeSchema
