/-
**The names between braces.**

* `Follows`: nothing or a comma follows, white space aside;
* `specifier?_core`: a name is read with its new name;
* `findAll_names`: **the names that are found between braces are those that are written there**.
-/

import TypeSchema.Proofs.Source.Search
import TypeSchema.Proofs.Source.Shown

namespace TypeSchema

variable {c : Char} {text rest : List Char} {before : Option Char}

/-- Nothing or a comma follows, white space aside. -/
def Follows (rest : List Char) : Prop := ∀ c, (trimStart rest).head? = some c → c = ','

theorem Follows.gap {gap : List Char} (blank : AllBlank gap) (follows : Follows rest) :
    Follows (gap ++ rest) := by
  unfold Follows
  rwa [trimStart_gap blank]

theorem follows_nil : Follows [] := nofun

theorem follows_comma (rest : List Char) : Follows (',' :: rest) := by
  intro c first
  have visible : isBlank ',' = false := by decide
  rw [trimStart_visible visible] at first
  cases first
  rfl

theorem Follows.stops (follows : Follows rest) :
    ∀ c, rest.head? = some c → isIdentifierPart c = false := by
  intro c first
  by_cases blank : isBlank c
  · exact not_isIdentifierPart_of_isBlank blank
  · obtain ⟨more, rfl⟩ : ∃ more, rest = c :: more := by
      cases rest with
      | nil => cases first
      | cons d more =>
        cases first
        exact ⟨more, rfl⟩
    have isComma := follows c (by rw [trimStart_visible (by simpa using blank)]; rfl)
    rw [isComma]
    decide

/-- No word follows. -/
theorem Follows.afterWord (follows : Follows rest) {d : Char} (other : d ≠ ',') (word : List Char) :
    afterWord? (d :: word) (trimStart rest) = none := by
  cases shown : trimStart rest with
  | nil => rfl
  | cons c more =>
    have isComma := follows c (by rw [shown]; rfl)
    simp [afterWord?, List.isPrefixOf, isComma, other]

theorem SpecifierText.text_length (specifier : SpecifierText) :
    specifier.text.length =
      specifier.front.length + specifier.core.length + specifier.behind.length := by
  rw [SpecifierText.text, List.length_append, List.length_append, Nat.add_assoc]

/-- What is read of a name in braces. -/
def SpecifierText.read (specifier : SpecifierText) : Specifier :=
  ⟨specifier.given, specifier.renamed⟩

/-- **A name is read with its new name.** -/
theorem specifier?_core {specifier : SpecifierText} (wellFormed : specifier.WellFormed)
    (follows : Follows rest) (before : Option Char) :
    specifier? before (specifier.core ++ rest) = some (specifier.read, specifier.core.length) := by
  obtain ⟨front, given, rename, behind⟩ := specifier
  cases rename with
  | none =>
    have reads : identifier? (given ++ rest) = some (given, rest) :=
      identifier?_append wellFormed.given follows.stops
    have noWord : afterWord? "as".toList (trimStart rest) = none :=
      follows.afterWord (by decide) ['s']
    have width : (given ++ rest).length - rest.length = given.length := by
      rw [List.length_append, Nat.add_sub_cancel]
    unfold specifier? SpecifierText.core
    simp only [Option.map_none, Option.getD_none, List.append_nil, reads, Option.bind_eq_bind,
      Option.bind_some, width, noWord, Option.bind_none, ite_self]
    rfl
  | some rename =>
    obtain ⟨gap, space, name⟩ := rename
    obtain ⟨⟨isGap, someGap⟩, ⟨isSpace, someSpace⟩, isName⟩ := wellFormed.rename _ rfl
    have visibleName : trimStart (name ++ rest) = name ++ rest := by
      obtain ⟨c, more, rfl, starts, -⟩ := isName
      exact trimStart_visible (not_isBlank_of_isNameStart starts)
    have visibleWord (more : List Char) : trimStart (['a', 's'] ++ more) = ['a', 's'] ++ more :=
      trimStart_visible (by decide)
    have blankHead : (gap ++ (['a', 's'] ++ (space ++ (name ++ rest)))).head?.any isBlank := by
      obtain ⟨c, more, rfl⟩ := List.exists_cons_of_ne_nil someGap
      exact isGap c List.mem_cons_self
    have reads : identifier? (given ++ (gap ++ (['a', 's'] ++ (space ++ (name ++ rest))))) =
        some (given, gap ++ (['a', 's'] ++ (space ++ (name ++ rest)))) := by
      refine identifier?_append wellFormed.given fun c first => ?_
      rw [first] at blankHead
      exact not_isIdentifierPart_of_isBlank blankHead
    have word : afterWord? "as".toList (['a', 's'] ++ (space ++ (name ++ rest))) =
        some (name ++ rest) := by
      have after := @afterWord?_append (name ++ rest) space ['a', 's'] isSpace someSpace
      rwa [visibleName] at after
    have readsName : identifier? (name ++ rest) = some (name, rest) :=
      identifier?_append isName follows.stops
    have split : SpecifierText.core ⟨front, given, some ⟨gap, space, name⟩, behind⟩ ++ rest =
        given ++ (gap ++ (['a', 's'] ++ (space ++ (name ++ rest)))) := by
      simp [SpecifierText.core, Rename.text]
    have width : (given ++ (gap ++ (['a', 's'] ++ (space ++ (name ++ rest))))).length -
        rest.length = (SpecifierText.core ⟨front, given, some ⟨gap, space, name⟩, behind⟩).length := by
      rw [← split, List.length_append, Nat.add_sub_cancel]
    rw [split]
    unfold specifier?
    simp only [reads, Option.bind_eq_bind, Option.bind_some, if_pos blankHead, trimStart_gap isGap,
      visibleWord, word, readsName, width]
    rfl

theorem specifier?_other (noStart : isNameStart c = false) (before : Option Char)
    (text : List Char) : specifier? before (c :: text) = none := by
  simp [specifier?, identifier?, noStart]

theorem not_isNameStart_of_isBlank (blank : isBlank c) : isNameStart c = false := by
  by_contra starts
  have visible := not_isBlank_of_isNameStart ((Bool.not_eq_false _).mp starts)
  rw [blank] at visible
  cases visible

/-! ### One name after the other -/

/-- Where no name begins, none is found. -/
theorem noneFound_names {gap : List Char} (noStart : ∀ c ∈ gap, isNameStart c = false)
    (rest : List Char) : NoneFound specifier? gap rest :=
  noneFound_of_chars (fun c member => specifier?_other (noStart c member)) rest

/-- A name in braces is found with its place. -/
theorem findAll_specifier {specifier : SpecifierText} (wellFormed : specifier.WellFormed)
    (follows : Follows rest) (before : Option Char) (offset : Nat) :
    ∃ last, findAll specifier? 0 before offset (specifier.text ++ rest) =
      (offset + specifier.front.length, specifier.read) ::
        findAll specifier? 0 last (offset + specifier.text.length) rest := by
  have noStart {gap : List Char} (blank : AllBlank gap) : ∀ c ∈ gap, isNameStart c = false :=
    fun c member => not_isNameStart_of_isBlank (blank c member)
  have some_ : specifier.core ≠ [] := by
    obtain ⟨c, more, same, -⟩ := wellFormed.given
    rw [SpecifierText.core, same]
    exact List.cons_ne_nil _ _
  have found := specifier?_core wellFormed (follows.gap wellFormed.behind)
    (lastOf before specifier.front)
  refine ⟨lastOf (lastOf (lastOf before specifier.front) specifier.core) specifier.behind, ?_⟩
  rw [SpecifierText.text, List.append_assoc, List.append_assoc,
    noneFound_names (noStart wellFormed.front), findAll_found some_ rfl found,
    noneFound_names (noStart wellFormed.behind), ← SpecifierText.text, SpecifierText.text_length,
    Nat.add_assoc, Nat.add_assoc, Nat.add_assoc]

/-- **The names that are found are those that are written**, before a text in which no name
begins. -/
theorem findAll_listed {specifiers : List SpecifierText}
    (each : ∀ specifier ∈ specifiers, specifier.WellFormed) {tail : List Char}
    (follows : Follows tail) (noStart : ∀ c ∈ tail, isNameStart c = false) (before : Option Char)
    (offset : Nat) : findAll specifier? 0 before offset (NamesText.listed specifiers ++ tail) =
      (NamesText.locate offset specifiers).map fun found => (found.1, found.2.read) := by
  have ends (last : Option Char) (offset : Nat) : findAll specifier? 0 last offset tail = [] := by
    have none_ := noneFound_names noStart [] last offset
    rwa [List.append_nil] at none_
  fun_induction NamesText.listed specifiers generalizing before offset with
  | case1 => exact ends before offset
  | case2 specifier =>
    obtain ⟨last, found⟩ := findAll_specifier (each specifier List.mem_cons_self) follows before offset
    rw [found, ends]
    rfl
  | case3 specifier rest _ ih =>
    rw [List.forall_mem_cons] at each
    obtain ⟨last, found⟩ := findAll_specifier each.1
      (follows_comma (NamesText.listed rest ++ tail)) before offset
    have comma := noneFound_names
      (List.forall_mem_singleton.mpr (show isNameStart ',' = false by rfl))
      (NamesText.listed rest ++ tail) last (offset + specifier.text.length)
    rw [List.singleton_append] at comma
    rw [List.append_assoc, List.cons_append, found, comma, ih each.2]
    rfl

/-- **The names that are found between braces are those that are written there.** -/
theorem findAll_names {names : NamesText} (wellFormed : names.WellFormed) :
    findAll specifier? 0 none 0 names.text =
      (NamesText.locate 0 names.specifiers).map fun found => (found.1, found.2.read) := by
  have blanks : ∀ c ∈ names.tail, isNameStart c = false :=
    fun c member => not_isNameStart_of_isBlank (wellFormed.tail c member)
  refine findAll_listed wellFormed.specifiers ?_ ?_ none 0
  · cases names.comma with
    | true => exact follows_comma names.tail
    | false =>
      have followed := follows_nil.gap wellFormed.tail
      rwa [List.append_nil] at followed
  · cases names.comma with
    | true => exact List.forall_mem_cons.mpr ⟨by rfl, blanks⟩
    | false => exact blanks

/-- Names written further behind have places further behind. -/
theorem NamesText.locate_add (first offset : Nat) (specifiers : List SpecifierText) :
    locate (first + offset) specifiers =
      (locate offset specifiers).map fun found => (first + found.1, found.2) := by
  induction specifiers generalizing offset with
  | nil => rfl
  | cons specifier rest ih =>
    rw [locate, locate, List.map_cons, ← ih]
    simp only [Nat.add_assoc]

end TypeSchema
