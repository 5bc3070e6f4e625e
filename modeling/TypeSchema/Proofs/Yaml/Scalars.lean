/-
**Scalars of documents.**

* `Scalar.token`: the text of a written scalar, and whether it is plain;
* `Scalar.readsAs`: **what is written for a scalar is read as one token**, whatever its column;
* `Scalar.scalarDatum_token`: **that token denotes the scalar**, an integer if it is not too long.
-/

import TypeSchema.Proofs.Yaml.Documents
import TypeSchema.Proofs.Yaml.Numerals

namespace TypeSchema.Yaml

open Scanner

/-! ### Plain texts -/

/-- A plain scalar may begin with a plain text. -/
theorem PlainText.begins {text : List Char} (plain : PlainText text) (column : Nat) :
    ∃ c more, foldLine column text = c :: more ∧ BeginsPlain c more.head? := by
  obtain ⟨c, rest, rfl⟩ := List.exists_cons_of_ne_nil plain.ne_nil
  have visible : c ≠ ' ' := fun space => plain.noSpaceBefore (by rw [space]; rfl)
  have isChar : IsWordChar c := ⟨plain.printable c List.mem_cons_self, visible⟩
  have noMark := plain.noMark
  have marks : "#,[]\x7b\x7d&*!|>'\"%@\x60".toList = signs := by decide
  simp only [hasMarkAtStart, marks, Bool.or_eq_false_iff, Bool.and_eq_false_imp,
    List.contains_eq_mem, decide_eq_false_iff_not, Bool.or_eq_true, beq_iff_eq] at noMark
  obtain ⟨⟨⟨noSign, alone⟩, -⟩, -⟩ := noMark
  by_cases indicator : c = '-' ∨ c = '?' ∨ c = ':'
  · have next := alone (or_assoc.mpr (or_rotate.mp indicator))
    cases rest with
    | nil => cases next
    | cons d rest =>
      have other : d ≠ ' ' := by simpa using next
      have noSpace : ' ' ∉ [c, d] := by simp [visible.symm, other.symm]
      obtain ⟨after, begins⟩ : ∃ after, foldLine column (c :: d :: rest) = c :: d :: after :=
        exists_foldLine noSpace rest column
      have ink : IsInk d := isInk_of_isPrintableAscii (plain.printable d (by simp)) other
      exact ⟨c, d :: after, begins, isChar, noSign, fun _ => isBlankOrEnd_ink ink⟩
  · have noSpace : ' ' ∉ [c] := by simp [visible.symm]
    obtain ⟨after, begins⟩ : ∃ after, foldLine column (c :: rest) = c :: after :=
      exists_foldLine noSpace rest column
    exact ⟨c, after, begins, isChar, noSign, fun sign => absurd sign indicator⟩

theorem readsAs_foldLine {text : List Char} (plain : PlainText text) (column : Nat) :
    ReadsAs (foldLine column text) (.scalar (String.ofList text) true) := by
  have spaced := plain.spaced_foldLine column
  obtain ⟨c, more, same, begins⟩ := plain.begins column
  rw [same] at spaced ⊢
  exact readsAs_plain spaced begins

theorem readsAs_word (c : Char) (more : List Char) (isWord : IsPlainWord (c :: more))
    (begins : BeginsPlain c more.head?) :
    ReadsAs (c :: more) (.scalar (String.ofList (c :: more)) true) :=
  readsAs_plain (.word isWord) begins

theorem readsAs_spells {number : Number} {text : List Char} (spells : number.Spells text) :
    ReadsAs text (.scalar (String.ofList text) true) := by
  obtain ⟨c, more, rfl, begins⟩ := beginsPlain_of_spells spells
  exact readsAs_word c more (isPlainWord_of_spells spells) begins

/-! ### Scalars -/

namespace Scalar

/-- The value of a scalar. -/
def datum : Scalar → Datum
  | null => .null
  | number value => .number value
  | text value => .string value

/-- The text of a written scalar, and whether it is plain. -/
def token : Scalar → String × Bool
  | null => ("null", true)
  | number (.int value) => (intText value, true)
  | number (.real value) => (String.ofList (value.write yamlNumeral), true)
  | text value => (value, isPlainText value.toList)

/-- An integer has as many digits as a reader takes. -/
def Short : Scalar → Prop
  | number (.int value) => (Nat.toDigits 10 value.natAbs).length ≤ digitLimit
  | _ => True

theorem readsAs_text (column : Nat) (value : String) :
    ReadsAs (writeText column value.toList) (.scalar value (isPlainText value.toList)) := by
  unfold writeText
  by_cases plain : isPlainText value.toList = true
  · have reads := readsAs_foldLine (plainText_of_isPlainText plain) column
    rw [String.ofList_toList] at reads
    rw [if_pos plain, plain]
    exact reads
  · rw [if_neg plain, Bool.eq_false_of_not_eq_true plain]
    by_cases escapes : needsEscapes value.toList = true
    · have reads : ReadsAs (doubleQuoted column value.toList) _ :=
        readsAs_quoted fun rest _ => doubleQuoted_reads value.toList column rest
      rw [String.ofList_toList] at reads
      rwa [if_pos escapes]
    · have reads : ReadsAs (singleQuoted column value.toList) _ :=
        readsAs_quoted fun rest single =>
          singleQuoted_reads (Bool.eq_false_of_not_eq_true escapes) column single
      rw [String.ofList_toList] at reads
      rwa [if_neg escapes]

/-- **What is written for a scalar is read as one token**, whatever its column. -/
theorem readsAs (value : Scalar) (column : Nat) :
    ReadsAs (value.write column) (.scalar value.token.1 value.token.2) := by
  match value with
  | null =>
    exact readsAs_word 'n' ['u', 'l', 'l']
      ⟨by decide, List.all_iff_forall_prop.mp (by decide), by decide, by decide⟩
      ⟨by decide, by decide, by decide⟩
  | number (.int value) =>
    have reads := readsAs_spells (Number.spells_intText value)
    rw [String.ofList_toList] at reads
    exact reads
  | number (.real .nan) =>
    exact readsAs_word '.' ['n', 'a', 'n']
      ⟨by decide, List.all_iff_forall_prop.mp (by decide), by decide, by decide⟩
      ⟨by decide, by decide, by decide⟩
  | number (.real (.infinite true)) =>
    exact readsAs_word '-' ['.', 'i', 'n', 'f']
      ⟨by decide, List.all_iff_forall_prop.mp (by decide), by decide, by decide⟩
      ⟨by decide, by decide, by decide⟩
  | number (.real (.infinite false)) =>
    exact readsAs_word '.' ['i', 'n', 'f']
      ⟨by decide, List.all_iff_forall_prop.mp (by decide), by decide, by decide⟩
      ⟨by decide, by decide, by decide⟩
  | number (.real (.finite negative units representable)) =>
    exact readsAs_spells (Number.spells_write yamlNumeral negative representable)
  | text value => exact readsAs_text column value

/-- **The token of a scalar denotes the scalar**, an integer if it is not too long. -/
theorem scalarDatum_token (value : Scalar) (short : value.Short) :
    scalarDatum (Compose.scalarTag none value.token.1 value.token.2) value.token.1 =
      .ok value.datum := by
  match value, short with
  | null, _ => rfl
  | number (.int value), short =>
    obtain ⟨tag, denotes⟩ := scalarDatum_int short
    exact (congrArg (scalarDatum · _) tag).trans denotes
  | number (.real .nan), _ => rfl
  | number (.real (.infinite negative)), _ => cases negative <;> rfl
  | number (.real (.finite negative units representable)), _ =>
    obtain ⟨tag, denotes⟩ := scalarDatum_real (Number.spells_write yamlNumeral negative representable)
      (point_write negative representable)
    exact (congrArg (scalarDatum · _) tag).trans denotes
  | text value, _ =>
    cases plain : isPlainText value.toList with
    | true =>
      have implied := (plainText_of_isPlainText plain).implied
      rw [String.ofList_toList] at implied
      rw [token, plain]
      exact (congrArg (scalarDatum · _) implied).trans rfl
    | false =>
      rw [token, plain]
      rfl

end Scalar

end TypeSchema.Yaml
