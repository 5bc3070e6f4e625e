/-
**Modules that only define types.**

* `NamedText`: a name and the text of its type; `listing`: one exported definition on each line;
* `unixLines_listing`: what such a module is when it is read from a file;
* `exports_listing`: **its exports are its definitions**, in order.
-/

import TypeSchema.Proofs.Source.Recovery
import TypeSchema.Proofs.Text.Newline

namespace TypeSchema

/-! ### Listings -/

/-- A name and the text of its type. -/
structure NamedText where
  name : List Char
  side : List Char

namespace NamedText

/-- The exported definition of a name. -/
def statement (named : NamedText) : StatementText := .define true named.name named.side

/-- The text as it is read from a file. -/
def asRead (named : NamedText) : NamedText := ⟨named.name, unixLines named.side⟩

/-- A well-formed definition without white space around its right side. -/
structure Listable (named : NamedText) : Prop where
  wellFormed : named.statement.WellFormed
  trimmed : trim named.side = named.side

end NamedText

/-- The definitions of some names, one on each line. -/
def listing (texts : List NamedText) : List Char :=
  texts.flatMap fun named => named.statement.text ++ ['\n']

/-- The parts of a listing. -/
def listingParts (texts : List NamedText) : List Part :=
  texts.flatMap fun named => [.statement named.statement, .space ['\n']]

variable {texts : List NamedText} {named : NamedText}

theorem listing_split (before : List NamedText) (named : NamedText) (after : List NamedText) :
    listing (before ++ named :: after) =
      listing before ++ (named.statement.text ++ ('\n' :: listing after)) := by
  simp [listing]

theorem moduleText_listingParts (texts : List NamedText) :
    moduleText (listingParts texts) = listing texts := by
  rw [moduleText, listingParts, listing, List.flatMap_assoc]
  refine List.flatMap_congr fun named _ => ?_
  simp [Part.text]

theorem isModule_listingParts (wellFormed : ∀ named ∈ texts, named.statement.WellFormed) :
    IsModule false (listingParts texts) := by
  induction texts with
  | nil => exact .nil
  | cons named rest ih =>
    obtain ⟨first, later⟩ := List.forall_mem_cons.mp wellFormed
    have blank : AllBlank ['\n'] := List.forall_mem_singleton.mpr (by decide)
    exact .statement first (.space blank (ih later))

/-- The text of a definition as it is read from a file. -/
theorem unixLines_statement (isIdentifier : IsIdentifier named.name) (rest : List Char) :
    unixLines (named.statement.text ++ ('\n' :: rest)) =
      named.asRead.statement.text ++ ('\n' :: unixLines rest) := by
  have noReturn : '\r' ∉ StatementText.exportWord true ++
      (StatementText.typeWord ++ (named.name ++ StatementText.equalsSign)) := by
    have inName : '\r' ∉ named.name := fun member => by
      cases isIdentifier.parts _ member
    simp only [List.mem_append, not_or]
    exact ⟨by decide, by decide, inName, by decide⟩
  have split (named : NamedText) (rest : List Char) : named.statement.text ++ rest =
      (StatementText.exportWord true ++ (StatementText.typeWord ++ (named.name ++
        StatementText.equalsSign))) ++ (named.side ++ (';' :: rest)) := by
    simp [NamedText.statement, StatementText.text]
  rw [split, split, unixLines_append noReturn, unixLines_append_of_head (by simp),
    unixLines_cons (by decide), unixLines_cons (by decide)]
  rfl

/-- **A listing read from a file** is that of the texts as they are read. -/
theorem unixLines_listing (identifiers : ∀ named ∈ texts, IsIdentifier named.name) :
    unixLines (listing texts) = listing (texts.map NamedText.asRead) := by
  induction texts with
  | nil => rfl
  | cons named rest ih =>
    obtain ⟨first, later⟩ := List.forall_mem_cons.mp identifiers
    rw [← List.nil_append (named :: rest), listing_split, listing, List.flatMap_nil, List.nil_append,
      unixLines_statement first, ih later]
    simp [listing]

/-! ### Exports -/

/-- The alias that a name defines in a listing, whose texts may have been read from a file. -/
def Defines (read : NamedText → NamedText) (texts : List NamedText) (named : NamedText)
    (declaration : AliasDeclaration) : Prop :=
  ∃ before after, texts = before ++ named :: after ∧
    (read named).statement.aliasAt (listing (texts.map read)) (listing (before.map read)).length =
      some declaration

/-- The definitions of a listing, from one of them on. -/
theorem defines_of_located (read : NamedText → NamedText) (before after : List NamedText) :
    List.Forall₂ (fun named (entry : Export) => ∃ declaration, entry = .declared declaration ∧
        Defines read (before ++ after) named declaration)
      after ((located (listing (before.map read)).length
        (listingParts (after.map read))).flatMap fun written =>
          written.2.exportsAt (listing ((before ++ after).map read)) written.1) := by
  induction after generalizing before with
  | nil => exact .nil
  | cons named rest ih =>
    have next := ih (before ++ [named])
    have size : (listing ((before ++ [named]).map read)).length =
        (listing (before.map read)).length + (read named).statement.text.length +
          ['\n'].length := by
      simp [listing, Nat.add_assoc]
    rw [List.append_assoc, List.singleton_append, size] at next
    exact .cons ⟨_, rfl, before, rest, rfl, rfl⟩ next

/-- **The exports of a listing are its definitions**, in order. -/
theorem exports_listing (read : NamedText → NamedText)
    (wellFormed : ∀ named ∈ texts, (read named).statement.WellFormed) (path : String) :
    List.Forall₂ (fun named (entry : Export) => ∃ declaration, entry = .declared declaration ∧
        Defines read texts named declaration)
      texts (Declarations.ofSource path (listing (texts.map read))).exports := by
  have isModule : IsModule false (listingParts (texts.map read)) :=
    isModule_listingParts (List.forall_mem_map.mpr wellFormed)
  have exports := exports_moduleText isModule path
  rw [moduleText_listingParts] at exports
  rw [exports, offers, moduleText_listingParts]
  exact defines_of_located read [] texts

end TypeSchema
