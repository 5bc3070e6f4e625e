/-
**The blocks of names of a module.**

* `fromModule?_text`: the module of a block is read with its place;
* `specifierBlock?_names`: **a block of names is read as it is written**;
* `specifierBlock?_define`: a definition begins no block;
* `findBlocks_moduleText`: **the blocks that are found in a module are its imports and exports by
  name**.
-/

import TypeSchema.Proofs.Source.Aliases
import TypeSchema.Proofs.Source.Specifiers

namespace TypeSchema

variable {c : Char} {text rest pre name side : List Char} {before : Option Char} {exported : Bool}
  {names : NamesText} {module : ModuleText}

/-! ### The start of a block -/

theorem specifierBlock?_other (other : c ≠ 'e' ∧ c ≠ 'i') (before : Option Char)
    (text : List Char) : specifierBlock? before (c :: text) = none := by
  have noExport : afterWord? "export".toList (c :: text) = none := afterWord?_other other.1 _
  have noImport : afterWord? "import".toList (c :: text) = none := afterWord?_other other.2 _
  unfold specifierBlock?
  simp only [noExport, noImport, Option.or_none, Option.bind_eq_bind, Option.bind_none, ite_self]

theorem specifierBlock?_blank (blank : isBlank c) (before : Option Char) (text : List Char) :
    specifierBlock? before (c :: text) = none := by
  refine specifierBlock?_other ⟨?_, ?_⟩ before text <;>
    · rintro rfl
      cases blank

/-- What looks like the start of a block: a word that is joined to the word `type`. -/
theorem findsJoined_specifierBlock : FindsJoined specifierBlock? := by
  intro before text found isMatch
  unfold specifierBlock? at isMatch
  split_ifs at isMatch
  rw [Option.bind_eq_bind, Option.bind_eq_some_iff] at isMatch
  obtain ⟨rest, isRest, isBlock⟩ := isMatch
  split_ifs at isBlock with isType
  clear isBlock
  -- Either word ends in `t`.
  have joined {word : List Char} (isWord : ∀ d ∈ word, isIdentifierPart d ∨ isBlank d)
      (starts : afterWord? (word ++ ['t']) text = some rest) : ∃ head c back,
        text = head ++ c :: back ∧ (∀ d ∈ head ++ [c], isIdentifierPart d ∨ isBlank d) ∧
          Joined c back := by
    obtain ⟨d, more, rfl, blank, rfl⟩ := afterWord?_eq_some starts
    obtain ⟨after, same⟩ := List.isPrefixOf_iff_prefix.mp isType
    refine ⟨word, 't', d :: more, by simp, ?_, by decide, blank, ?_⟩
    · exact List.forall_mem_append.mpr ⟨isWord, forall_mem_of_all (by decide)⟩
    · rw [← List.singleton_append, trimStart_gap (List.forall_mem_singleton.mpr blank), ← same]
      rfl
  rw [Option.or_eq_some_iff] at isRest
  rcases isRest with starts | ⟨-, starts⟩
  · exact @joined ['e', 'x', 'p', 'o', 'r'] (forall_mem_of_all (by decide)) starts
  · exact @joined ['i', 'm', 'p', 'o', 'r'] (forall_mem_of_all (by decide)) starts

/-! ### The module of a block -/

/-- The word before the name of a module. -/
def fromLetters : List Char := "from".toList

/-- Where the name of a module begins after the closing brace, its length, and where it ends. -/
theorem fromModule?_text (wellFormed : module.WellFormed) (rest : List Char) :
    fromModule? (StatementText.fromText (some module.shown) ++ rest) =
      some (7, module.name.length, 7 + module.name.length + 1) := by
  obtain ⟨quote, name⟩ := module
  have isQuote : quote = '"' ∨ quote = '\'' := wellFormed.quote
  generalize isShown : List.replicate name.length ' ' = shown
  have visible : isBlank quote = false := by rcases isQuote with rfl | rfl <;> decide
  have split : StatementText.fromText (some (ModuleText.shown ⟨quote, name⟩)) ++ rest =
      ' ' :: (fromLetters ++ (' ' :: (quote :: (shown ++ quote :: rest)))) := by
    have word : StatementText.fromWord = ' ' :: (fromLetters ++ [' ']) := rfl
    rw [← isShown]
    simp [StatementText.fromText, ModuleText.text, ModuleText.shown, word]
  have word : trimStart (' ' :: (fromLetters ++ (' ' :: (quote :: (shown ++ quote :: rest))))) =
      fromLetters ++ (' ' :: (quote :: (shown ++ quote :: rest))) := by
    rw [← List.singleton_append, trimStart_gap allBlank_space]
    exact trimStart_visible (by decide)
  have behind : trimStart (' ' :: (quote :: (shown ++ quote :: rest))) =
      quote :: (shown ++ quote :: rest) := by
    rw [← List.singleton_append, trimStart_gap allBlank_space, trimStart_visible visible]
  have inside : (shown ++ quote :: rest).takeWhile (fun c => c != '\'' && c != '"' && c != '\n') =
      shown := by
    have plain : ∀ c ∈ shown, (c != '\'' && c != '"' && c != '\n') = true := by
      rw [← isShown]
      intro c member
      rw [(List.mem_replicate.mp member).2]
      decide
    rw [List.takeWhile_append_of_pos plain, List.takeWhile_cons_of_neg, List.append_nil]
    rcases isQuote with rfl | rfl <;> decide
  have opens : (quote == '\'' || quote == '"') = true := by
    rcases isQuote with rfl | rfl <;> rfl
  have length : shown.length = name.length := by rw [← isShown, List.length_replicate]
  have size : (' ' :: (fromLetters ++ (' ' :: (quote :: (shown ++ quote :: rest))))).length =
      7 + (shown ++ quote :: rest).length := by
    have letters : fromLetters.length = 4 := rfl
    simp only [List.length_cons, List.length_append]
    omega
  have isFrom : fromLetters.isPrefixOf
      (fromLetters ++ (' ' :: (quote :: (shown ++ quote :: rest)))) = true :=
    List.isPrefixOf_iff_prefix.mpr (List.prefix_append _ _)
  have behindWord : (fromLetters ++ (' ' :: (quote :: (shown ++ quote :: rest)))).drop 4 =
      ' ' :: (quote :: (shown ++ quote :: rest)) := rfl
  rw [split]
  unfold fromModule?
  rw [word]
  dsimp only
  rw [if_pos (show "from".toList.isPrefixOf _ = true from isFrom), behindWord, behind]
  dsimp only
  rw [inside, List.drop_left, size, Nat.add_sub_cancel, opens, length]
  simp

/-! ### Blocks -/

/-- The beginning of a block of names. -/
def blockHead (exported : Bool) : List Char :=
  if exported then StatementText.exportHead else StatementText.importHead

theorem blockHead_true :
    blockHead true = "export".toList ++ ([' '] ++ ("type".toList ++ [' ', '\x7b'])) := rfl

theorem blockHead_false :
    blockHead false = "import".toList ++ ([' '] ++ ("type".toList ++ [' ', '\x7b'])) := rfl

/-- What a block of names is read as. -/
def blockOf (exported : Bool) (names : NamesText) (module : Option ModuleText) :
    SpecifierBlock where
  exported
  bodyStart := 13
  body := names.text
  moduleStart := module.map fun _ => 13 + names.text.length + 1 + 7
  moduleWidth := (module.map fun found => found.name.length).getD 0

/-- **A block of names is read as it is written.** -/
theorem specifierBlock?_names {module : Option ModuleText} (mayBegin : mayBeginWord before)
    (areNames : names.WellFormed) (quoted : ∀ found, module = some found → found.WellFormed)
    (exported : Bool) (rest : List Char) :
    specifierBlock? before (blockHead exported ++ (names.text ++
        ('\x7d' :: (StatementText.fromText (module.map ModuleText.shown) ++ ';' :: rest)))) =
      some (blockOf exported names module,
        13 + names.text.length + 1 + (StatementText.fromText module).length) := by
  generalize isAfter :
    StatementText.fromText (module.map ModuleText.shown) ++ ';' :: rest = after
  have fromNames : fromModule? after = module.map fun found =>
      (7, found.name.length, 7 + found.name.length + 1) := by
    rw [← isAfter]
    cases module with
    | none => rfl
    | some module => exact fromModule?_text (quoted module rfl) (';' :: rest)
  have body : (names.text ++ '\x7d' :: after).takeWhile (· != '\x7d') = names.text := by
    have plain : ∀ c ∈ names.text, (c != '\x7d') = true := fun c member =>
      bne_iff_ne.mpr (ne_of_isNamesChar (areNames.chars c member) rfl)
    rw [List.takeWhile_append_of_pos plain, List.takeWhile_cons_of_neg (by decide), List.append_nil]
  have size : (blockHead exported ++ (names.text ++ '\x7d' :: after)).length =
      13 + (names.text ++ '\x7d' :: after).length := by
    rw [List.length_append]
    cases exported <;> rfl
  generalize isInside : names.text ++ '\x7d' :: after = inside at body size ⊢
  have head (text : List Char) : trimStart ("type".toList ++ text) = "type".toList ++ text :=
    trimStart_visible (by decide)
  have starts : (afterWord? "export".toList (blockHead exported ++ inside)).isSome = exported ∧
      (afterWord? "export".toList (blockHead exported ++ inside)).or
          (afterWord? "import".toList (blockHead exported ++ inside)) =
        some ("type".toList ++ ([' '] ++ '\x7b' :: inside)) := by
    have read (word : List Char) :
        afterWord? word (word ++ ([' '] ++ ("type".toList ++ ([' '] ++ '\x7b' :: inside)))) =
          some ("type".toList ++ ([' '] ++ '\x7b' :: inside)) := by
      rw [afterWord?_append word allBlank_space (List.cons_ne_nil _ _), head]
    cases exported with
    | true =>
      rw [blockHead_true, List.append_assoc, List.append_assoc, List.append_assoc]
      exact ⟨congrArg Option.isSome (read _), congrArg (Option.or · _) (read _)⟩
    | false =>
      have none_ : afterWord? "export".toList (blockHead false ++ inside) = none := rfl
      rw [none_, blockHead_false, List.append_assoc, List.append_assoc, List.append_assoc]
      exact ⟨rfl, read _⟩
  have isType : "type".toList.isPrefixOf ("type".toList ++ ([' '] ++ '\x7b' :: inside)) = true :=
    List.isPrefixOf_iff_prefix.mpr (List.prefix_append _ _)
  have opens : trimStart (("type".toList ++ ([' '] ++ '\x7b' :: inside)).drop 4) = '\x7b' :: inside := by
    have behind : ("type".toList ++ ([' '] ++ '\x7b' :: inside)).drop 4 = [' '] ++ '\x7b' :: inside := rfl
    rw [behind, trimStart_gap allBlank_space]
    exact trimStart_visible (by decide)
  have bodyStart : (blockHead exported ++ inside).length - inside.length = 13 := by omega
  have width : (blockHead exported ++ inside).length - after.length =
      13 + names.text.length + 1 := by
    rw [size, ← isInside, List.length_append, List.length_cons]
    omega
  unfold specifierBlock?
  rw [if_pos mayBegin]
  simp only [starts.1, starts.2, Option.bind_eq_bind, Option.bind_some, if_pos isType, opens, body]
  rw [← isInside, List.drop_left, isInside]
  dsimp only
  rw [fromNames, bodyStart, width]
  cases module with
  | none => rfl
  | some module =>
    have length : (StatementText.fromText (some module)).length = 7 + module.name.length + 1 := by
      have word : StatementText.fromWord.length = 6 := rfl
      simp only [StatementText.fromText, ModuleText.text, Option.map_some, Option.getD_some,
        List.length_append, List.length_cons, List.length_nil]
      omega
    rw [length]
    rfl

/-! ### Definitions -/

/-- No block begins inside a word. -/
theorem noneFound_word {word : List Char} (parts : ∀ c ∈ word, isIdentifierPart c)
    (none_ : ∀ before, specifierBlock? before (word ++ rest) = none) :
    NoneFound specifierBlock? word rest := by
  refine noneFound_of_none fun before front c back same => ?_
  rcases List.eq_nil_or_concat front with rfl | ⟨more, d, rfl⟩
  · have atStart := none_ before
    rw [same] at atStart
    exact atStart
  · have part : isIdentifierPart d := parts d (by rw [same]; simp)
    have isLast : lastOf before (more ++ [d]) = some d := by simp [lastOf]
    have inside : mayBeginWord (some d) = false := by simp [mayBeginWord, part]
    rw [List.concat_eq_append, isLast, specifierBlock?, inside]
    rfl

/-- The start of an exported definition begins no block. -/
theorem specifierBlock?_define (isIdentifier : IsIdentifier name) (before : Option Char)
    (rest : List Char) :
    specifierBlock? before ("export".toList ++ ([' '] ++ ("type".toList ++ ([' '] ++ (name ++ rest))))) =
      none := by
  have head (text : List Char) : trimStart ("type".toList ++ text) = "type".toList ++ text :=
    trimStart_visible (by decide)
  have starts : afterWord? "export".toList
      ("export".toList ++ ([' '] ++ ("type".toList ++ ([' '] ++ (name ++ rest))))) =
        some ("type".toList ++ ([' '] ++ (name ++ rest))) := by
    rw [afterWord?_append _ allBlank_space (List.cons_ne_nil _ _), head]
  obtain ⟨c, more, rfl, isStart, -⟩ := isIdentifier
  have opens : trimStart (("type".toList ++ ([' '] ++ (c :: more ++ rest))).drop 4) =
      c :: (more ++ rest) := by
    have behind : ("type".toList ++ ([' '] ++ (c :: more ++ rest))).drop 4 =
        [' '] ++ (c :: more ++ rest) := rfl
    rw [behind, trimStart_gap allBlank_space]
    exact trimStart_visible (not_isBlank_of_isNameStart isStart)
  unfold specifierBlock?
  simp only [starts, Option.bind_eq_bind, Option.some_or, Option.bind_some, opens]
  split_ifs
  · split
    · rename_i inside same
      cases same
      cases isStart
    · rfl
  · rfl
  · rfl

/-- No block is found in a definition. -/
theorem noneFound_define (wellFormed : (StatementText.define exported name side).WellFormed)
    (rest : List Char) :
    NoneFound specifierBlock? (StatementText.define exported name side).shown.text rest := by
  have isIdentifier : IsIdentifier name := wellFormed.1
  have signs (text : List Char) : trimStart (StatementText.equalsSign ++ text) = '=' :: ' ' :: text := by
    rw [equalsSign_eq]
    show trimStart ([' '] ++ ('=' :: ' ' :: text)) = _
    rw [trimStart_gap allBlank_space]
    exact trimStart_visible (by decide)
  have loose : Loose (([' '] ++ (name ++ (StatementText.equalsSign ++ mask side))) ++ [';']) := by
    rw [List.append_assoc, List.append_assoc, List.singleton_append]
    refine loose_cons (not_joined rfl)
      (loose_word isIdentifier.parts ?_ wellFormed.readable.loose_equals)
    rw [List.append_assoc, signs]
    exact nofun
  have fromType : NoneFound specifierBlock? ("type".toList ++
      (([' '] ++ (name ++ (StatementText.equalsSign ++ mask side))) ++ [';'])) rest :=
    (noneFound_word (forall_mem_of_all (by decide)) fun before =>
      specifierBlock?_other (by decide) before _).append (loose.noneFound findsJoined_specifierBlock rest)
  have shown : (StatementText.define exported name side).shown.text =
      StatementText.exportWord exported ++ ("type".toList ++
        (([' '] ++ (name ++ (StatementText.equalsSign ++ mask side))) ++ [';'])) := by
    simp [StatementText.shown, StatementText.text, typeWord_eq]
  rw [shown]
  cases exported with
  | false => exact fromType
  | true =>
    have noBlock (before : Option Char) : specifierBlock? before ("export".toList ++ ([' '] ++
        (("type".toList ++ (([' '] ++ (name ++ (StatementText.equalsSign ++ mask side))) ++ [';'])) ++
          rest))) = none := by
      have none_ := specifierBlock?_define isIdentifier before
        ((StatementText.equalsSign ++ mask side) ++ ([';'] ++ rest))
      simpa only [List.append_assoc] using none_
    rw [exportWord_true, List.append_assoc]
    refine (noneFound_word (forall_mem_of_all (by decide)) fun before => ?_).append
      ((noneFound_of_chars (fun c member => specifierBlock?_blank (allBlank_space c member)) _).append
        fromType)
    rw [List.append_assoc]
    exact noBlock before

/-! ### Blocks of a module -/

/-- What a statement is read as, if it is a block of names. -/
def StatementText.block? : StatementText → Option SpecifierBlock
  | define _ _ _ => none
  | fetch names module => some (blockOf false names (some module))
  | offer names module => some (blockOf true names module)

/-- **Blocks are found at imports and exports by name.** -/
theorem searches_blocks : Searches specifierBlock?
    (fun masked found => Option.guard (fun found => beginsStatement masked found.1) found)
    (fun _ written => written.2.block?.map fun block => (written.1, block)) where
  gap before c text blank := specifierBlock?_blank blank before text
  statement := by
    intro pre written clear wellFormed rest
    have begins := clear.beginsStatement (written.shown.text ++ rest)
    have found {names : NamesText} {module : Option ModuleText} (exported : Bool)
        (areNames : names.WellFormed)
        (quoted : ∀ found, module = some found → found.WellFormed)
        (isText : written.shown.text = (blockHead exported ++ (names.text ++
          ('\x7d' :: StatementText.fromText (module.map ModuleText.shown)))) ++ [';']) :
        findAll specifierBlock? 0 (lastOf none pre) pre.length (written.shown.text ++ rest) =
          (pre.length, blockOf exported names module) ::
            findAll specifierBlock? 0 (lastOf none (pre ++ written.shown.text))
              (pre.length + written.shown.text.length) rest := by
      have isBlock := specifierBlock?_names clear.mayBeginWord areNames quoted exported rest
      have some_ : blockHead exported ++ (names.text ++
          ('\x7d' :: StatementText.fromText (module.map ModuleText.shown))) ≠ [] := by
        cases exported <;> exact List.cons_ne_nil _ _
      have width : (blockHead exported ++ (names.text ++
          ('\x7d' :: StatementText.fromText (module.map ModuleText.shown)))).length =
            13 + names.text.length + 1 + (StatementText.fromText module).length := by
        have head : (blockHead exported).length = 13 := by cases exported <;> rfl
        have quoted_ : (StatementText.fromText (module.map ModuleText.shown)).length =
            (StatementText.fromText module).length := by
          rw [← (steady_fromText quoted).2, length_mask]
        simp only [List.length_append, List.length_cons]
        omega
      have stop : NoneFound specifierBlock? [';'] rest := noneFound_of_chars
        (fun c member => specifierBlock?_other (by rw [List.mem_singleton.mp member]; decide)) rest
      rw [isText, List.append_assoc, findAll_found some_ width (by simpa using isBlock), stop,
        ← lastOf_append, ← lastOf_append, ← width, ← List.append_assoc pre,
        @List.length_append _ _ [';'], Nat.add_assoc]
    have kept (block : SpecifierBlock) : Option.guard (fun found : Nat × SpecifierBlock =>
        beginsStatement (pre ++ (written.shown.text ++ rest)) found.1) (pre.length, block) =
          some (pre.length, block) := by
      rw [Option.guard_eq_some_iff]
      exact ⟨rfl, begins⟩
    cases written with
    | define exported name side =>
      rw [noneFound_define wellFormed rest, lastOf_append]
      rfl
    | fetch names module =>
      have shown : (StatementText.fetch names module).shown.text = (blockHead false ++ (names.text ++
          ('\x7d' :: StatementText.fromText ((some module).map ModuleText.shown)))) ++ [';'] := by
        simp [StatementText.shown, StatementText.text, blockHead]
      have quoted : ∀ found, some module = some found → found.WellFormed := by
        rintro found ⟨⟩
        exact wellFormed.2
      rw [@found names (some module) false wellFormed.1 quoted shown, filterMap_cons_toList, kept]
      rfl
    | offer names module =>
      have shown : (StatementText.offer names module).shown.text = (blockHead true ++ (names.text ++
          ('\x7d' :: StatementText.fromText (module.map ModuleText.shown)))) ++ [';'] := by
        simp [StatementText.shown, StatementText.text, blockHead]
      rw [@found names module true wellFormed.1 wellFormed.2 shown, filterMap_cons_toList, kept]
      rfl

/-- **The blocks that are found in a module are its imports and exports by name.** -/
theorem findBlocks_moduleText {parts : List Part} (isModule : IsModule false parts) :
    findBlocks (mask (moduleText parts)) = (located 0 parts).filterMap fun written =>
      written.2.block?.map fun block => (written.1, block) := by
  rw [← searches_blocks.module isModule, List.filterMap_eq_filter]
  rfl

end TypeSchema
