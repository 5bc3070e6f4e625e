/-
**JSON documents read back.**

* `Json.script`: how JSON documents are written: `IsBody` gives the texts of strings, with their
  escapes, and numbers have a digit at least on either side of a point;
* `Json.read_eq`: the reader of documents is one of values in brackets and braces;
* `Json.value_indentedAt`: **a value is written as a document of that value**, if its names are
  distinct and its numbers finite;
* `Json.parse?_of_value`: **a document reads back as the value it was written from**.
-/

import TypeSchema.Json.Write
import TypeSchema.Proofs.Json.Parts
import TypeSchema.Proofs.Json.Script
import TypeSchema.Proofs.Number.Numerals
import TypeSchema.Proofs.Text.Hexadecimal

namespace TypeSchema

/-! ### The reader of documents -/

namespace Json

/-- A scalar of a document. -/
def readScalar? (text : List Char) : Option (Json × List Char) :=
  match text with
  | 'n' :: 'u' :: 'l' :: 'l' :: rest => some (null, rest)
  | 't' :: 'r' :: 'u' :: 'e' :: rest => some (bool true, rest)
  | 'f' :: 'a' :: 'l' :: 's' :: 'e' :: rest => some (bool false, rest)
  | '"' :: rest =>
    (readString? (rest.length + 1) rest).map fun (value, last) =>
      (string (String.ofList value), last)
  | rest => (readNumber? rest).map fun (value, last) => (number value, last)

/-- The name of a field of a document. -/
def readName? (text : List Char) : Option (String × List Char) :=
  match text with
  | '"' :: rest =>
    (readString? (rest.length + 1) rest).map fun (value, last) => (String.ofList value, last)
  | _ => none

/-- The reader of documents. -/
def reader : Reader where
  scalar? := readScalar?
  name? := readName?

theorem reader_scalar? (text : List Char) : reader.scalar? text = readScalar? text := rfl

theorem reader_name? (text : List Char) : reader.name? text = readName? text := rfl

/-- **JSON documents are read as values in brackets and braces.** -/
theorem read_eq (fuel : Nat) (text : List Char) :
    readValue? fuel text = reader.value? fuel text ∧
      readItems? fuel text = reader.items? fuel text ∧
      readFields? fuel text = reader.fields? fuel text := by
  induction fuel generalizing text with
  | zero => exact ⟨rfl, rfl, rfl⟩
  | succ fuel ih =>
    have values (text : List Char) := (ih text).1
    have items (text : List Char) := (ih text).2.1
    have fields (text : List Char) := (ih text).2.2
    refine ⟨?_, ?_, ?_⟩
    · rw [readValue?, Reader.value?]
      simp only [items, fields]
      split
      case h_7 noNull noTrue noFalse noQuote noBracket noBrace =>
        split
        · rename_i same
          exact absurd same (noBracket _)
        · rename_i same
          exact absurd same (noBrace _)
        · rw [reader_scalar?, readScalar?]
          all_goals assumption
      all_goals
        rename_i same
        rw [same]
        rfl
    · rewrite [readItems?, Reader.items?, funext values, funext items]
      rfl
    · rw [readFields?, Reader.fields?]
      simp only [fields, values]
      split
      · rename_i rest same
        rw [same, reader_name?, readName?]
        cases readString? (rest.length + 1) rest <;> rfl
      · rename_i noQuote
        rw [reader_name?, readName?]
        exact noQuote

/-! ### Strings -/

/-- The four hexadecimal digits of a unit of sixteen bits. -/
structure IsUnit (unit : Nat) (digits : List Char) : Prop where
  length : digits.length = 4
  isHexDigit : ∀ c ∈ digits, isHexDigit c
  value : hexValue digits = unit

/-- The characters that have an escape of their own, and its letter. -/
def escapeLetters : List (Char × Char) :=
  [('"', '"'), ('\\', '\\'), ('/', '/'), ('\x08', 'b'), ('\x0c', 'f'), ('\n', 'n'), ('\r', 'r'),
    ('\t', 't')]

/-- What stands between the quotes of a string. A character above the basic plane may be written
as two units. -/
inductive IsBody : List Char → List Char → Prop
  | nil : IsBody [] []
  | plain {c : Char} {value text : List Char} (notControl : 0x20 ≤ c.toNat) (notQuote : c ≠ '"')
      (notEscape : c ≠ '\\') (more : IsBody value text) : IsBody (c :: value) (c :: text)
  | letter {c letter : Char} {value text : List Char} (isLetter : (c, letter) ∈ escapeLetters)
      (more : IsBody value text) : IsBody (c :: value) ('\\' :: letter :: text)
  | unit {unit : Nat} {digits value text : List Char} (isUnit : IsUnit unit digits)
      (single : unit < 0xD800 ∨ 0xE000 ≤ unit) (more : IsBody value text) :
      IsBody (Char.ofNat unit :: value) ('\\' :: 'u' :: (digits ++ text))
  | pair {high low : Nat} {digits digits' value text : List Char} (isHigh : IsUnit high digits)
      (isLow : IsUnit low digits') (highRange : 0xD800 ≤ high ∧ high < 0xDC00)
      (lowRange : 0xDC00 ≤ low ∧ low < 0xE000) (more : IsBody value text) :
      IsBody (Char.ofNat (0x10000 + (high - 0xD800) * 0x400 + (low - 0xDC00)) :: value)
        ('\\' :: 'u' :: (digits ++ '\\' :: 'u' :: (digits' ++ text)))

theorem readUnit?_of_isUnit {unit : Nat} {digits : List Char} (isUnit : IsUnit unit digits)
    (rest : List Char) : readUnit? (digits ++ rest) = some (unit, rest) := by
  obtain ⟨length, isHexDigit, rfl⟩ := isUnit
  match digits, length with
  | [a, b, c, d], _ =>
    have all : [a, b, c, d].all TypeSchema.isHexDigit = true := List.all_eq_true.mpr isHexDigit
    simp [readUnit?, all]

theorem readEscape?_of_letter {c letter : Char} (isLetter : (c, letter) ∈ escapeLetters)
    (rest : List Char) : readEscape? (letter :: rest) = some (c, rest) := by
  simp only [escapeLetters, List.mem_cons, Prod.mk.injEq, List.not_mem_nil, or_false] at isLetter
  rcases isLetter with ⟨rfl, rfl⟩ | ⟨rfl, rfl⟩ | ⟨rfl, rfl⟩ | ⟨rfl, rfl⟩ | ⟨rfl, rfl⟩ | ⟨rfl, rfl⟩ |
    ⟨rfl, rfl⟩ | ⟨rfl, rfl⟩ <;> rfl

/-- **The reader of strings reads a body up to the closing quote.** -/
theorem readString?_of_isBody {value text : List Char} (isBody : IsBody value text) {fuel : Nat}
    (enough : text.length < fuel) (rest : List Char) :
    readString? fuel (text ++ '"' :: rest) = some (value, rest) := by
  induction isBody generalizing fuel with
  | nil =>
    obtain ⟨fuel, rfl⟩ := Nat.exists_eq_add_one_of_ne_zero (show fuel ≠ 0 by omega)
    rfl
  | @plain c value text notControl notQuote notEscape more ih =>
    rw [List.length_cons] at enough
    obtain ⟨fuel, rfl⟩ := Nat.exists_eq_add_one_of_ne_zero (show fuel ≠ 0 by omega)
    have notNull : c ≠ '\x00' := by
      rintro rfl
      exact absurd notControl (by decide)
    rw [List.cons_append, readString?, if_neg notNull, ih (by omega)]
    · rfl
    · exact notQuote
    · exact notEscape
  | @letter c letter value text isLetter more ih =>
    simp only [List.length_cons] at enough
    obtain ⟨fuel, rfl⟩ := Nat.exists_eq_add_one_of_ne_zero (show fuel ≠ 0 by omega)
    simp only [List.cons_append, readString?, readEscape?_of_letter isLetter]
    rw [ih (by omega)]
    rfl
  | @unit unit digits value text isUnit single more ih =>
    simp only [List.length_cons, List.length_append] at enough
    obtain ⟨fuel, rfl⟩ := Nat.exists_eq_add_one_of_ne_zero (show fuel ≠ 0 by omega)
    have notHigh : ¬ (0xD800 ≤ unit ∧ unit < 0xDC00) := by omega
    simp only [List.cons_append, List.append_assoc, readString?, readEscape?,
      readUnit?_of_isUnit isUnit, if_neg notHigh]
    rw [ih (by omega)]
    rfl
  | @pair high low digits digits' value text isHigh isLow highRange lowRange more ih =>
    simp only [List.length_cons, List.length_append] at enough
    obtain ⟨fuel, rfl⟩ := Nat.exists_eq_add_one_of_ne_zero (show fuel ≠ 0 by omega)
    simp only [List.cons_append, List.append_assoc, readString?, readEscape?,
      readUnit?_of_isUnit isHigh, if_pos highRange, readUnit?_of_isUnit isLow, if_pos lowRange]
    rw [ih (by omega)]
    rfl

/-! ### Written strings -/

theorem isUnit_hexadecimal {unit : Nat} (small : unit < 0x10000) :
    IsUnit unit (hexadecimal 4 unit) where
  length := length_hexadecimal 4 unit
  isHexDigit _ := isHexDigit_of_mem_hexadecimal
  value := hexValue_hexadecimal small

/-- A character is no surrogate. -/
theorem toNat_not_surrogate (c : Char) : c.toNat < 0xD800 ∨ 0xE000 ≤ c.toNat := by
  have valid := c.valid
  simp only [UInt32.isValidChar, Nat.isValidChar] at valid
  exact valid.imp id fun range => range.1

theorem isBody_documentChar (c : Char) {value text : List Char} (more : IsBody value text) :
    IsBody (c :: value) (documentChar c ++ text) := by
  have unit (small : c.toNat < 0x10000) : IsBody (c :: value) (unitEscape c.toNat ++ text) := by
    have body := IsBody.unit (isUnit_hexadecimal small) (toNat_not_surrogate c) more
    rwa [Char.ofNat_toNat] at body
  unfold documentChar
  by_cases ownEscape : (c = '"' || c = '\\' || c = '/') = true
  · rw [if_pos ownEscape]
    refine .letter ?_ more
    simp only [Bool.or_eq_true, decide_eq_true_eq] at ownEscape
    rcases ownEscape with (rfl | rfl) | rfl <;> decide
  rw [if_neg ownEscape]
  iterate 5
    split
    · rename_i same
      exact .letter (by simp [escapeLetters, same]) more
  by_cases control : c.toNat < 0x20
  · rw [if_pos control]
    exact unit (by omega)
  rw [if_neg control]
  by_cases ascii : c.toNat < 0x80
  · rw [if_pos ascii]
    simp only [Bool.or_eq_true, decide_eq_true_eq, not_or] at ownEscape
    exact .plain (Nat.not_lt.mp control) ownEscape.1.1 ownEscape.1.2 more
  rw [if_neg ascii]
  by_cases basic : c.toNat < 0x10000
  · rw [if_pos basic]
    exact unit basic
  rw [if_neg basic]
  -- Above the basic plane two units make up the code point.
  have bound : c.toNat < 0x110000 := by
    have valid := c.valid
    simp only [UInt32.isValidChar, Nat.isValidChar] at valid
    show c.val.toNat < _
    omega
  have isHigh := isUnit_hexadecimal
    (show 0xD800 + (c.toNat - 0x10000) / 0x400 < 0x10000 by omega)
  have isLow := isUnit_hexadecimal
    (show 0xDC00 + (c.toNat - 0x10000) % 0x400 < 0x10000 by omega)
  have body := IsBody.pair isHigh isLow (by omega) (by omega) more
  have same : 0x10000 + (0xD800 + (c.toNat - 0x10000) / 0x400 - 0xD800) * 0x400 +
      (0xDC00 + (c.toNat - 0x10000) % 0x400 - 0xDC00) = c.toNat := by omega
  rw [same, Char.ofNat_toNat] at body
  simpa [unitEscape] using body

theorem isBody_flatMap (text : List Char) : IsBody text (text.flatMap documentChar) := by
  induction text with
  | nil => exact .nil
  | cons c rest ih =>
    rw [List.flatMap_cons]
    exact isBody_documentChar c ih

/-! ### Documents -/

/-- The text of a string. -/
def IsString (value : String) (text : List Char) : Prop :=
  ∃ body, IsBody value.toList body ∧ text = '"' :: (body ++ ['"'])

/-- The text of a scalar. -/
inductive IsScalar : Json → List Char → Prop
  | null : IsScalar null "null".toList
  | true : IsScalar (bool true) "true".toList
  | false : IsScalar (bool false) "false".toList
  | number {value : Number} {text : List Char} (spells : value.Spells text) :
      IsScalar (number value) text
  | string {value : String} {text : List Char} (isString : IsString value text) :
      IsScalar (string value) text

/-- How JSON documents are written. -/
def script : Script where
  Scalar := IsScalar
  Name := IsString

/-- A value has a document of its own: its names are distinct and its numbers are finite. -/
def Documented : Json → Prop
  | object fields => (fields.map Prod.fst).Nodup
  | number value => value.Finite
  | _ => True

theorem isString_documentString (value : String) : IsString value (documentString value).toList := by
  refine ⟨_, isBody_flatMap value.toList, ?_⟩
  simp [documentString]

theorem isGap_newline (level : Nat) : IsGap (newline level).toList := by
  intro c member
  simp only [newline, String.toList_append, String.toList_ofList, List.mem_append,
    List.mem_replicate] at member
  rcases member with line | ⟨-, rfl⟩
  · cases List.mem_singleton.mp line
    rfl
  · rfl

theorem isSeparator_newline (level : Nat) :
    ("," ++ newline level).toList = ',' :: (newline level).toList := by simp

theorem block_of_ne_nil {opening closing : String} {level : Nat} {parts : List String}
    (some_ : parts ≠ []) :
    block opening closing level parts =
      opening ++ newline (level + 1) ++ ("," ++ newline (level + 1)).intercalate parts ++
        newline level ++ closing := by
  cases parts with
  | nil => exact absurd rfl some_
  | cons part parts => rfl

theorem value_block_array (level : Nat) {items : List Json} {texts : List String}
    (each : List.Forall₂ (fun item text => script.Value item text.toList) items texts) :
    script.Value (array items) (block "[" "]" level texts).toList := by
  by_cases some_ : items = []
  · subst some_
    cases each
    rw [block, String.toList_append]
    exact .emptyArray isGap_nil
  · have inside := Script.items_intercalate (isSeparator_newline (level + 1))
      (isGap_newline (level + 1)) some_ each
    have value := Script.Value.array (isGap_newline (level + 1)) inside (isGap_newline level)
    rw [block_of_ne_nil fun none_ => some_ (List.forall₂_nil_right_iff.mp (none_ ▸ each))]
    simpa using value

theorem value_block_object {script : Script} (level : Nat) {fields : List (String × Json)}
    {texts : List String} (distinct : (fields.map Prod.fst).Nodup)
    (each : List.Forall₂ (fun field text => script.Field field text.toList) fields texts) :
    script.Value (object fields) (block "\x7b" "\x7d" level texts).toList := by
  by_cases some_ : fields = []
  · subst some_
    cases each
    rw [block, String.toList_append]
    exact .emptyObject isGap_nil
  · have inside := Script.fields_intercalate (isSeparator_newline (level + 1))
      (isGap_newline (level + 1)) some_ each
    have value := Script.Value.object distinct (isGap_newline (level + 1)) inside
      (isGap_newline level)
    rw [block_of_ne_nil fun none_ => some_ (List.forall₂_nil_right_iff.mp (none_ ▸ each))]
    simpa using value

mutual

/-- **A value is written as a document of that value.** -/
theorem value_indentedAt (level : Nat) : (value : Json) →
    (∀ part ∈ value.parts, part.Documented) → script.Value value (value.indentedAt level).toList
  | null, _ => .scalar .null
  | bool true, _ => .scalar .true
  | bool false, _ => .scalar .false
  | number value, documented => by
    have finite := documented _ (mem_parts_self _)
    exact .scalar (.number (Number.spells_document finite))
  | string value, _ => .scalar (.string (isString_documentString value))
  | array items, documented =>
    value_block_array level
      (items_indentedAt (level + 1) items (forall_parts_array.mp documented).2)
  | object fields, documented => by
    obtain ⟨distinct, inside⟩ := forall_parts_object.mp documented
    exact value_block_object level distinct (fields_indentedAt (level + 1) fields inside)

theorem items_indentedAt (level : Nat) : (items : List Json) →
    (∀ item ∈ items, ∀ part ∈ item.parts, part.Documented) →
    List.Forall₂ (fun item text => script.Value item text.toList) items
      (indentedItems level items)
  | [], _ => .nil
  | item :: rest, documented => by
    rw [List.forall_mem_cons] at documented
    exact .cons (value_indentedAt level item documented.1)
      (items_indentedAt level rest documented.2)

theorem fields_indentedAt (level : Nat) : (fields : List (String × Json)) →
    (∀ field ∈ fields, ∀ part ∈ field.2.parts, part.Documented) →
    List.Forall₂ (fun field text => script.Field field text.toList) fields
      (indentedFields level fields)
  | [], _ => .nil
  | (name, value) :: rest, documented => by
    rw [List.forall_mem_cons] at documented
    refine .cons ⟨_, [' '], _, isString_documentString name, by simp [IsGap, isSpace],
      value_indentedAt level value documented.1, ?_⟩ (fields_indentedAt level rest documented.2)
    simp

end

/-! ### Reading documents back -/

/-- No number goes on where a value ends. -/
theorem ends_of_closes {rest : List Char} (closes : Closes rest) : Spelling.Ends rest := by
  intro c first
  have sign : isSpace c = true ∨ c = ',' ∨ c = ']' ∨ c = '\x7d' := by
    obtain ⟨more, rfl⟩ : ∃ more, rest = c :: more := by
      cases rest with
      | nil => cases first
      | cons d more => exact ⟨more, by rw [Option.some.inj first]⟩
    cases space : isSpace c with
    | true => exact .inl rfl
    | false => exact .inr (closes c (by rw [skipSpaces_cons space]; rfl))
  rw [isSpace] at sign
  simp only [Bool.or_eq_true, beq_iff_eq] at sign
  rcases sign with (((rfl | rfl) | rfl) | rfl) | rfl | rfl | rfl <;> decide

theorem readNumber?_of_spells {value : Number} {text rest : List Char} (spells : value.Spells text)
    (closes : Closes rest) : readNumber? (text ++ rest) = some (value, rest) := by
  obtain ⟨negative, spelling, wellFormed, rfl, denotes, -⟩ := spells
  have read := Spelling.readMagnitude_text negative wellFormed (ends_of_closes closes)
  rw [denotes] at read
  obtain ⟨d, more, same, digit⟩ := wellFormed.text_cons
  have notLetter : d ≠ 'I' := by rintro rfl; cases digit
  rw [same] at read ⊢
  cases negative with
  | true =>
    show readNumber? ('-' :: (d :: more ++ rest)) = _
    rw [readNumber?]
    · rw [read]
    · rintro tail same
      exact notLetter (List.cons.inj same).1
  | false =>
    have notSign : d ≠ '-' := by rintro rfl; cases digit
    have notNan : d ≠ 'N' := by rintro rfl; cases digit
    show readNumber? (d :: (more ++ rest)) = _
    rw [readNumber?, if_pos (show isDigit d = true from digit)]
    · exact congrArg some read
    · rintro tail same _
      exact notNan same
    · rintro tail same _
      exact notLetter same
    · rintro tail same _
      exact notSign same
    · rintro same
      exact notSign same

theorem readScalar?_number {value : Number} {text rest : List Char} (spells : value.Spells text)
    (closes : Closes rest) : readScalar? (text ++ rest) = some (number value, rest) := by
  have read := readNumber?_of_spells spells closes
  obtain ⟨c, more, rfl, other⟩ := spells.cons
  rw [List.cons_append] at read ⊢
  rw [readScalar?, read]
  · rfl
  all_goals
    rintro tail same
    exact absurd (List.cons.inj same).1 (other _ (by decide) (by decide))

/-- A string up to its closing quote, and what follows it. -/
theorem readString?_of_isString {value : String} {body : List Char}
    (isBody : IsBody value.toList body) (rest : List Char) :
    readString? ((body ++ ['"'] ++ rest).length + 1) (body ++ ['"'] ++ rest) =
      some (value.toList, rest) := by
  rw [List.append_assoc]
  refine readString?_of_isBody isBody ?_ rest
  rw [List.length_append]
  omega

theorem opens_of_isString {value : String} {text : List Char} (isString : IsString value text) :
    Opens text ∧ text.head? = some '"' := by
  obtain ⟨body, -, rfl⟩ := isString
  exact ⟨⟨'"', _, rfl, rfl, by decide, by decide⟩, rfl⟩

/-- A number begins with no white space and with none of the signs around items and fields. -/
theorem opens_of_spells {value : Number} {text : List Char} (spells : value.Spells text) :
    Opens text ∧ text.head? ≠ some '[' ∧ text.head? ≠ some '\x7b' := by
  obtain ⟨c, more, rfl, other⟩ := spells.cons
  have noSpace : isSpace c = false := by
    simp [isSpace, other ' ', other '\t', other '\n', other '\r']
  refine ⟨⟨c, more, rfl, noSpace, other _ (by decide) (by decide),
    other _ (by decide) (by decide)⟩, ?_, ?_⟩ <;>
  · rw [List.head?_cons, Ne, Option.some.injEq]
    exact other _ (by decide) (by decide)

/-- **The reader of documents reads what is written as their scalars and names.** -/
theorem reader_reads : reader.Reads script where
  scalar value text rest isScalar closes := by
    rw [reader_scalar?]
    cases isScalar with
    | null | true | false => rfl
    | number spells => exact readScalar?_number spells closes
    | string isString =>
      obtain ⟨body, isBody, rfl⟩ := isString
      rw [List.cons_append, readScalar?, readString?_of_isString isBody, Option.map_some]
      dsimp only
      rw [String.ofList_toList]
  opensScalar value text isScalar := by
    cases isScalar with
    | null | true | false => exact ⟨⟨_, _, rfl, rfl, by decide, by decide⟩, by decide, by decide⟩
    | number spells => exact opens_of_spells spells
    | string isString =>
      obtain ⟨opens, first⟩ := opens_of_isString isString
      rw [first]
      exact ⟨opens, by decide, by decide⟩
  name name text rest isString := by
    obtain ⟨body, isBody, rfl⟩ := isString
    rw [reader_name?, List.cons_append, readName?, readString?_of_isString isBody,
      Option.map_some]
    dsimp only
    rw [String.ofList_toList]
  opensName name text isString := (opens_of_isString isString).1

/-- What is written as a script that the reader of documents reads is parsed. -/
theorem parse?_of_reads {script : Script} (reads : reader.Reads script) {value : Json}
    {text : String} (isValue : script.Value value text.toList) : parse? text = some value := by
  have read := Reader.value?_of_value reads isValue (2 * text.length + 2) []
    (by rw [String.length_toList]; omega) closes_nil
  rw [List.append_nil] at read
  rw [parse?, (read_eq _ _).1, read]
  rfl

/-- **A document reads back as the value it was written from.** -/
theorem parse?_of_value {value : Json} {text : String} (isValue : script.Value value text.toList) :
    parse? text = some value := parse?_of_reads reader_reads isValue

end Json

end TypeSchema
