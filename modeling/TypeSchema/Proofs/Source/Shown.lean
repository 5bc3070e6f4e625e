/-
**What masking shows of a module.**

* `StatementText.steady`: a statement is masked the same way wherever it stands: the right side of a
  definition by itself, the name of a module as spaces, all else not at all;
* `masksTo_module`, `mask_moduleText`: **a masked module shows its statements and white space**,
  spaces in place of comments and of the marks of flow comments.
-/

import TypeSchema.Proofs.Source.Statements

namespace TypeSchema

/-! ### Characters of names in braces -/

/-- A character that may stand between the braces. -/
def isNamesChar (c : Char) : Bool := isBlank c || isIdentifierPart c || c == ','

theorem isNamesChar_of_isBlank {c : Char} (blank : isBlank c) : isNamesChar c := by
  simp [isNamesChar, blank]

theorem isNamesChar_of_part {c : Char} (part : isIdentifierPart c) : isNamesChar c := by
  simp [isNamesChar, part]

theorem ne_of_isNamesChar {c d : Char} (inside : isNamesChar c) (outside : isNamesChar d = false) :
    c ≠ d := by
  rintro rfl
  rw [inside] at outside
  cases outside

theorem Rename.WellFormed.chars {rename : Rename} (wellFormed : rename.WellFormed) :
    ∀ c ∈ rename.text, isNamesChar c := by
  refine List.forall_mem_append.mpr ⟨fun c member => ?_, List.forall_mem_append.mpr
    ⟨forall_mem_of_all (by decide), List.forall_mem_append.mpr ⟨fun c member => ?_, fun c member => ?_⟩⟩⟩
  · exact isNamesChar_of_isBlank (wellFormed.gap.1 c member)
  · exact isNamesChar_of_isBlank (wellFormed.space.1 c member)
  · exact isNamesChar_of_part (wellFormed.name.parts c member)

theorem SpecifierText.WellFormed.chars {specifier : SpecifierText}
    (wellFormed : specifier.WellFormed) : ∀ c ∈ specifier.text, isNamesChar c := by
  refine List.forall_mem_append.mpr ⟨fun c member => ?_, List.forall_mem_append.mpr
    ⟨List.forall_mem_append.mpr ⟨fun c member => ?_, ?_⟩, fun c member => ?_⟩⟩
  · exact isNamesChar_of_isBlank (wellFormed.front c member)
  · exact isNamesChar_of_part (wellFormed.given.parts c member)
  · cases renamed : specifier.rename with
    | none => exact nofun
    | some rename => exact (wellFormed.rename rename renamed).chars
  · exact isNamesChar_of_isBlank (wellFormed.behind c member)

theorem forall_mem_listed {specifiers : List SpecifierText}
    (each : ∀ specifier ∈ specifiers, specifier.WellFormed) :
    ∀ c ∈ NamesText.listed specifiers, isNamesChar c := by
  fun_induction NamesText.listed specifiers with
  | case1 => exact nofun
  | case2 specifier => exact (each specifier List.mem_cons_self).chars
  | case3 specifier rest _ ih =>
    rw [List.forall_mem_cons] at each
    exact List.forall_mem_append.mpr ⟨each.1.chars,
      List.forall_mem_cons.mpr ⟨by decide, ih each.2⟩⟩

theorem NamesText.WellFormed.chars {names : NamesText} (wellFormed : names.WellFormed) :
    ∀ c ∈ names.text, isNamesChar c := by
  refine List.forall_mem_append.mpr ⟨forall_mem_listed wellFormed.specifiers,
    List.forall_mem_append.mpr
      ⟨?_, fun c member => isNamesChar_of_isBlank (wellFormed.tail c member)⟩⟩
  cases names.comma <;> exact forall_mem_of_all (by decide)

/-! ### Statements -/

theorem isCode_of_isNamesChar {c : Char} (inside : isNamesChar c) : isCode c :=
  isCode_of_class inside (forall_mem_of_all (by decide))

theorem isCode_of_isIdentifierPart {c : Char} (part : isIdentifierPart c) : isCode c :=
  isCode_of_class part (forall_mem_of_all (by decide))

theorem StatementText.WellFormed.readable {exported : Bool} {name side : List Char}
    (wellFormed : (StatementText.define exported name side).WellFormed) : Readable side := by
  obtain ⟨-, ⟨path, start, node, accepted⟩, noEnd, -⟩ := wellFormed
  exact readable_of_ofText accepted noEnd

theorem isStringBody_of_notMem {quote : Char} {name : List Char}
    (plain : quote ∉ name ∧ '\\' ∉ name ∧ '\n' ∉ name) : IsStringBody quote name := by
  induction name with
  | nil => exact .nil
  | cons c rest ih =>
    simp only [List.mem_cons, not_or] at plain
    exact .plain (Ne.symm plain.1.1) (Ne.symm plain.2.1.1) (Ne.symm plain.2.2.1)
      (ih ⟨plain.1.2, plain.2.1.2, plain.2.2.2⟩)

theorem ModuleText.WellFormed.steady {module : ModuleText} (wellFormed : module.WellFormed) :
    Steady module.text ∧ mask module.text = module.shown.text :=
  mask_string wellFormed.quote (isStringBody_of_notMem wellFormed.name)

/-- Two texts one after the other, each of which is masked the same way wherever it stands. -/
theorem steady_append {text other shown seen : List Char} (first : Steady text ∧ mask text = shown)
    (second : Steady other ∧ mask other = seen) :
    Steady (text ++ other) ∧ mask (text ++ other) = shown ++ seen := by
  obtain ⟨steady, rfl⟩ := first
  obtain ⟨others, rfl⟩ := second
  exact steady.append others

theorem steady_fromText {module : Option ModuleText}
    (wellFormed : ∀ found, module = some found → found.WellFormed) :
    Steady (StatementText.fromText module) ∧ mask (StatementText.fromText module) =
      StatementText.fromText (module.map ModuleText.shown) := by
  cases module with
  | none => exact steady_of_code nofun
  | some module =>
    exact steady_append (steady_of_code (forall_mem_of_all (by decide))) (wellFormed module rfl).steady

theorem steady_names {names : NamesText} {module : Option ModuleText} {head : List Char}
    (code : ∀ c ∈ head, isCode c) (areNames : names.WellFormed)
    (wellFormed : ∀ found, module = some found → found.WellFormed) :
    Steady (head ++ (names.text ++ ('\x7d' :: (StatementText.fromText module ++ [';'])))) ∧
      mask (head ++ (names.text ++ ('\x7d' :: (StatementText.fromText module ++ [';'])))) =
        head ++ (names.text ++
          ('\x7d' :: (StatementText.fromText (module.map ModuleText.shown) ++ [';']))) := by
  have brace : Steady ['\x7d'] ∧ mask ['\x7d'] = ['\x7d'] :=
    steady_of_code (forall_mem_of_all (by decide))
  have stop : Steady [';'] ∧ mask [';'] = [';'] := steady_of_code (forall_mem_of_all (by decide))
  have inside : Steady names.text ∧ mask names.text = names.text :=
    steady_of_code fun c member => isCode_of_isNamesChar (areNames.chars c member)
  exact steady_append (steady_of_code code) (steady_append inside
    (steady_append brace (steady_append (steady_fromText wellFormed) stop)))

/-- **A statement is masked the same way wherever it stands.** -/
theorem StatementText.WellFormed.steady {written : StatementText}
    (wellFormed : written.WellFormed) :
    Steady written.text ∧ mask written.text = written.shown.text := by
  cases written with
  | define exported name side =>
    have word : ∀ c ∈ exportWord exported, isCode c := by
      cases exported <;> exact forall_mem_of_all (by decide)
    have stop : Steady [';'] ∧ mask [';'] = [';'] := steady_of_code (forall_mem_of_all (by decide))
    have isName : Steady name ∧ mask name = name :=
      steady_of_code fun c member => isCode_of_isIdentifierPart (wellFormed.1.parts c member)
    have type : Steady typeWord ∧ mask typeWord = typeWord :=
      steady_of_code (forall_mem_of_all (by decide))
    have equals : Steady equalsSign ∧ mask equalsSign = equalsSign :=
      steady_of_code (forall_mem_of_all (by decide))
    exact steady_append (steady_of_code word) (steady_append type (steady_append isName
      (steady_append equals (steady_append ⟨wellFormed.readable.steady, rfl⟩ stop))))
  | fetch names module =>
    refine @steady_names names (some module) _ (forall_mem_of_all (by decide)) wellFormed.1 ?_
    rintro found ⟨⟩
    exact wellFormed.2
  | offer names module =>
    exact steady_names (forall_mem_of_all (by decide)) wellFormed.1 wellFormed.2

/-! ### Modules -/

/-- **A masked module shows its statements and white space**, spaces in place of all else. -/
theorem masksTo_module {inFlow : Bool} {parts : List Part} (isModule : IsModule inFlow parts) :
    MasksTo inFlow (moduleText parts) (parts.flatMap Part.shown) false := by
  induction isModule with
  | nil => exact masksTo_nil
  | space blank _ ih =>
    exact (masksTo_code fun c member => isCode_of_isBlank (blank c member)).append ih
  | lineComment oneLine _ ih => exact (masksTo_lineComment oneLine).append ih
  | blockComment noEnd noFlow _ ih =>
    refine (masksTo_blockComment noEnd fun opener isOpener => ?_).append ih
    simp only [flowOpeners, List.mem_cons, List.not_mem_nil, or_false] at isOpener
    rcases isOpener with rfl | rfl
    · exact noFlow.1
    · exact noFlow.2
  | @statement inFlow written _ wellFormed _ ih =>
    have masks := wellFormed.steady.1 inFlow
    rw [wellFormed.steady.2] at masks
    exact masks.append ih
  | opening isOpener _ ih => exact (masksTo_opener isOpener).append ih
  | closing _ ih => exact masksTo_closer.append ih

theorem mask_moduleText {parts : List Part} (isModule : IsModule false parts) :
    mask (moduleText parts) = parts.flatMap Part.shown := mask_of_masksTo (masksTo_module isModule)

end TypeSchema
