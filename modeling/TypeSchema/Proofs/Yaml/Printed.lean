/-
**The characters of written documents.**

`Printed`: a text has only printable ASCII characters and line feeds. `printed_write`: **so has what
is written for a scalar**, whatever characters are in it.
-/

import TypeSchema.Proofs.Yaml.Scalars

namespace TypeSchema.Yaml

/-- A character of a document: printable, or a line feed. -/
def IsPrinted (c : Char) : Prop := isPrintableAscii c = true ∨ c = '\n'

instance (c : Char) : Decidable (IsPrinted c) := inferInstanceAs (Decidable (_ ∨ _))

/-- A text of such characters. -/
def Printed (text : List Char) : Prop := ∀ c ∈ text, IsPrinted c

section Lists

variable {text rest : List Char}

theorem printed_nil : Printed [] := nofun

theorem Printed.cons {c : Char} (isPrinted : IsPrinted c) (printed : Printed rest) :
    Printed (c :: rest) := List.forall_mem_cons.mpr ⟨isPrinted, printed⟩

theorem Printed.append (first : Printed text) (second : Printed rest) : Printed (text ++ rest) :=
  List.forall_mem_append.mpr ⟨first, second⟩

theorem printed_of_all (all : text.all (fun c => decide (IsPrinted c)) = true) : Printed text :=
  List.all_iff_forall_prop.mp all

theorem printed_continuation : Printed continuation := printed_of_all (by decide)

end Lists

/-! ### Folded texts -/

theorem printed_foldWords {words : List (List Char)} (printed : ∀ word ∈ words, Printed word)
    (column : Nat) : Printed (foldWords column words) := by
  induction words generalizing column with
  | nil => exact printed_nil
  | cons word more ih =>
    rw [List.forall_mem_cons] at printed
    cases more with
    | nil => exact printed.1
    | cons next rest =>
      unfold foldWords
      split
      · exact (printed.1.append printed_continuation).append (ih printed.2 _)
      · exact printed.1.append (.cons (by decide) (ih printed.2 _))

theorem printed_foldLine {line : List Char} (printed : Printed line) (column : Nat) :
    Printed (foldLine column line) :=
  printed_foldWords (fun _ isWord c member => printed c (mem_of_mem_splitAt isWord member).1) column

theorem printed_foldLines {lines : List (List Char)} (printed : ∀ line ∈ lines, Printed line)
    (first : Bool) (column : Nat) : Printed (foldLines first column lines) := by
  induction lines generalizing first column with
  | nil => exact printed_nil
  | cons line more ih =>
    rw [List.forall_mem_cons] at printed
    have here := printed_foldLine printed.1 column
    cases more with
    | nil => exact here
    | cons next rest =>
      unfold foldLines
      refine ((here.append ?_).append ?_).append (ih printed.2 _ _)
      · split <;> exact printed_of_all (by decide)
      · split <;> exact printed_of_all (by decide)

/-- A text that needs no escapes is printed as it is. -/
theorem printed_of_simple {text : List Char} (simple : needsEscapes text = false) :
    Printed text := by
  obtain ⟨chars, -⟩ := Bool.or_eq_false_iff.mp simple
  intro c member
  by_cases lineBreak : c = '\n'
  · exact .inr lineBreak
  · exact .inl (by simpa [lineBreak] using List.any_eq_false.mp chars c member)

theorem printed_doubled {text : List Char} (printed : Printed text) : Printed (doubled text) := by
  intro c member
  obtain ⟨d, isChar, inside⟩ := List.mem_flatMap.mp member
  split at inside
  · have quote : c = '\'' := by simpa using inside
    rw [quote]
    decide
  · rw [List.mem_singleton.mp inside]
    exact printed d isChar

theorem printed_singleQuoted {text : List Char} (simple : needsEscapes text = false)
    (column : Nat) : Printed (singleQuoted column text) := by
  have inside := printed_doubled (printed_of_simple simple)
  refine .cons (by decide) ((printed_foldLines ?_ _ _).append (.cons (by decide) printed_nil))
  exact fun line isLine c member => inside c (mem_of_mem_splitAt isLine member).1

/-! ### Escapes -/

theorem printed_upperHex (width value : Nat) : Printed (upperHex width value) := by
  intro c member
  obtain ⟨d, isDigit, rfl⟩ := List.mem_map.mp member
  obtain ⟨digit, small, rfl⟩ := exists_hexDigit_of_mem isDigit
  interval_cases digit <;> decide

theorem printed_escaped (c : Char) : Printed (escaped c) := by
  by_cases isLetter : c ∈ letterEscapes
  · have all : letterEscapes.all (fun c =>
        (escaped c).all fun d => decide (IsPrinted d)) = true := by decide
    exact printed_of_all (List.all_eq_true.mp all c isLetter)
  · rw [escaped_number isLetter]
    refine .cons (by decide) ?_
    split
    · exact .cons (by decide) (printed_upperHex _ _)
    · split
      · exact .cons (by decide) (printed_upperHex _ _)
      · exact .cons (by decide) (printed_upperHex _ _)

theorem printed_doubleRest (first broken : Bool) (column : Nat) (text : List Char) :
    Printed (doubleRest first broken column text) := by
  induction text generalizing first broken column with
  | nil => exact printed_nil
  | cons c text ih =>
    have fold : Printed ('\\' :: continuation) := .cons (by decide) printed_continuation
    unfold doubleRest
    dsimp only
    split
    next own =>
      have isPrinted : IsPrinted c := .inl own.1
      split
      · refine (fold.append ?_).append (ih _ _ _)
        split
        · exact printed_of_all (by decide)
        · exact .cons isPrinted printed_nil
      · exact .cons isPrinted (ih _ _ _)
    next =>
      split
      · refine ((printed_escaped c).append fold).append ?_
        split
        · exact .cons (by decide) (ih _ _ _)
        · exact ih _ _ _
      · exact (printed_escaped c).append (ih _ _ _)

/-! ### Scalars -/

theorem printed_spells {number : Number} {text : List Char} (spells : number.Spells text) :
    Printed text := fun c member =>
  .inl (numeralChar c (mem_numeralChars_of_spells spells c member)).1.1

/-- **What is written for a scalar is printed**, whatever characters are in it. -/
theorem printed_write (value : Scalar) (column : Nat) : Printed (value.write column) := by
  match value with
  | .null => exact @printed_of_all "null".toList (by decide)
  | .number (.int value) => exact printed_spells (Number.spells_intText value)
  | .number (.real .nan) => exact @printed_of_all ".nan".toList (by decide)
  | .number (.real (.infinite true)) => exact @printed_of_all "-.inf".toList (by decide)
  | .number (.real (.infinite false)) => exact @printed_of_all ".inf".toList (by decide)
  | .number (.real (.finite negative units representable)) =>
    exact printed_spells (Number.spells_write yamlNumeral negative representable)
  | .text value =>
    show Printed (writeText column value.toList)
    unfold writeText
    split
    next plain =>
      have printable := (plainText_of_isPlainText plain).printable
      exact printed_foldLine (fun c member => .inl (printable c member)) column
    next =>
      split
      next =>
        exact .cons (by decide) ((printed_doubleRest _ _ _ _).append (.cons (by decide) printed_nil))
      next simple => exact printed_singleQuoted (Bool.eq_false_of_not_eq_true simple) column

/-! ### Documents -/

/-- A named scalar that a document may have. -/
structure Field (field : String × Scalar) : Prop where
  isName : Scanner.IsName field.1.toList
  implied : impliedTag field.1 = basicTag "str"
  short : field.2.Short

/-- The line of a named scalar. -/
def lineOf (field : String × Scalar) : Line where
  name := field.1.toList
  written := field.2.write (field.1.length + 2)
  scalar := field.2.token.1
  plain := field.2.token.2

variable {fields : List (String × Scalar)}

theorem toList_document (fields : List (String × Scalar)) :
    (document fields).toList = fields.flatMap fun field => (lineOf field).text := by
  rw [document, String.toList_join, List.flatMap_map]
  congr 1
  funext field
  simp [lineOf, Line.text]

theorem printed_document (good : ∀ field ∈ fields, Field field) :
    Printed (document fields).toList := by
  rw [toList_document]
  intro c member
  obtain ⟨field, isField, inside⟩ := List.mem_flatMap.mp member
  have line : Printed (lineOf field).text := by
    have name : Printed field.1.toList := fun c inName =>
      .inl ((good field isField).isName.isWord.chars c inName).1
    exact name.append (.cons (by decide) (.cons (by decide)
      ((printed_write _ _).append (.cons (by decide) printed_nil))))
  exact line c inside

/-- **A document of named scalars has them as its value**, if the names are distinct. -/
theorem ofYaml_document (some_ : fields ≠ []) (good : ∀ field ∈ fields, Field field)
    (distinct : (fields.map Prod.fst).Nodup) :
    Datum.ofYaml (document fields) =
      .ok (.mapping (fields.map fun field => named (field.1, field.2.datum))) := by
  have lines : ∀ entry ∈ fields.map fun field => (lineOf field, field.2.datum),
      entry.1.Reads ∧ entry.1.Means entry.2 := by
    intro entry member
    obtain ⟨field, isField, rfl⟩ := List.mem_map.mp member
    obtain ⟨isName, implied, short⟩ := good field isField
    refine ⟨⟨isName, field.2.readsAs _⟩, ⟨?_, field.2.scalarDatum_token short⟩⟩
    exact (congrArg impliedTag (String.ofList_toList (s := field.1))).trans implied
  have allowed : (document fields).toList.all isAllowed = true := by
    refine List.all_eq_true.mpr fun c member => ?_
    obtain printable | rfl := printed_document good c member
    · unfold isPrintableAscii at printable
      simp [isAllowed, printable]
    · rfl
  have name (field : String × Scalar) : String.ofList (lineOf field).name = field.1 :=
    String.ofList_toList
  have names : ((fields.map fun field => (lineOf field, field.2.datum)).map fun entry =>
      String.ofList entry.1.name).Nodup := by
    rw [List.map_map]
    simpa only [Function.comp_def, name] using distinct
  have written : (document fields).toList =
      (fields.map fun field => (lineOf field, field.2.datum)).flatMap fun entry =>
        entry.1.text := by
    rw [toList_document, List.flatMap_map]
  rw [ofYaml_lines (mt List.map_eq_nil_iff.mp some_) lines names written allowed, List.map_map]
  simp only [Function.comp_def, name]

end TypeSchema.Yaml
