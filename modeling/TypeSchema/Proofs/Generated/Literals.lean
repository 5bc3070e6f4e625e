/-
**Closed literals.**

* `literalReader`: the values that closed literals denote: lists, dictionaries, strings, integers,
  floating point numbers, `True` and `False`. No other name denotes a value;
* `readLiteral?` and `evaluate?`: the literal that a text begins with, or that it is;
* `Json.literalScript`: how literals are written;
* `literalReader_reads`: **what is written so is read as the value it was written from.**
-/

import TypeSchema.Json.Literal
import TypeSchema.Proofs.Json.Documents
import TypeSchema.Proofs.Text.Quoted

namespace TypeSchema

/-! ### Evaluation -/

instance (numeral : Numeral) : Decidable numeral.InRange :=
  inferInstanceAs (Decidable (numeral.isInteger → numeral.whole.length ≤ digitLimit))

/-- A number in ASCII characters, without zeros before its digits. -/
def readLiteralNumber? (text : List Char) : Option (Number × List Char) :=
  match Numeral.read? text with
  | some (numeral, rest) =>
    if (text.take (text.length - rest.length)).all (fun c => c.toNat < 0x80) ∧
        (numeral.whole.head? = some '0' → numeral.whole = ['0']) ∧ numeral.InRange then
      some (numeral.number, rest)
    else none
  | none => none

/-- A string, perhaps in several pieces. -/
def readLiteralString? (text : List Char) : Option (String × List Char) :=
  (readAdjacent? text.length text).map fun (value, rest) => (String.ofList value, rest)

/-- A scalar. -/
def readLiteralScalar? (text : List Char) : Option (Json × List Char) :=
  match text with
  | 'T' :: 'r' :: 'u' :: 'e' :: rest => some (.bool true, rest)
  | 'F' :: 'a' :: 'l' :: 's' :: 'e' :: rest => some (.bool false, rest)
  | '\'' :: _ => (readLiteralString? text).map fun (value, rest) => (.string value, rest)
  | '"' :: _ => (readLiteralString? text).map fun (value, rest) => (.string value, rest)
  | _ => (readLiteralNumber? text).map fun (value, rest) => (.number value, rest)

/-- The reader of closed literals. -/
def literalReader : Reader where
  scalar? := readLiteralScalar?
  name? := readLiteralString?

/-- The value of the literal that a text begins with, and what follows it. -/
def readLiteral? (text : List Char) : Option (Json × List Char) :=
  literalReader.value? (2 * text.length) text

/-- The value of a text that is one literal. -/
def evaluate? (text : String) : Option Json :=
  match readLiteral? text.toList with
  | some (value, rest) => if Json.skipSpaces rest = [] then some value else none
  | none => none

/-! ### Written literals -/

/-- An integer that is not too long to be read. -/
def Number.Short : Number → Prop
  | .int value => Binary64.decimalLength value.natAbs ≤ digitLimit
  | .real _ => True

namespace Json

/-- The text of a scalar. -/
inductive IsLiteral : Json → List Char → Prop
  | true : IsLiteral (bool true) "True".toList
  | false : IsLiteral (bool false) "False".toList
  | number {value : Number} {text : List Char} (short : value.Short) (spells : value.Spells text) :
      IsLiteral (number value) text
  | string {value : String} {text : List Char} (isPieces : IsPieces value.toList text) :
      IsLiteral (string value) text

/-- How literals are written. -/
def literalScript : Script where
  Scalar := IsLiteral
  Name name text := IsPieces name.toList text

end Json

/-! ### Reading literals back -/

/-- The characters of a spelling are ASCII. -/
theorem Spelling.WellFormed.ascii {spelling : Spelling} (wellFormed : spelling.WellFormed) :
    ∀ c ∈ spelling.text, c.toNat < 0x80 := by
  have digits {text : List Char} (isDigits : IsAsciiDigits text) : ∀ c ∈ text, c.toNat < 0x80 :=
    fun c member => lt_of_isDigit (isDigits.2 c member)
  obtain ⟨whole, fraction, exponent⟩ := spelling
  intro c member
  simp only [text, List.mem_append] at member
  rcases member with inWhole | inFraction | inExponent
  · exact digits wellFormed.whole c inWhole
  · cases fraction with
    | none => cases inFraction
    | some more =>
      rcases List.mem_cons.mp inFraction with rfl | inMore
      · decide
      · exact digits (wellFormed.fraction more rfl) c inMore
  · cases exponent with
    | none => cases inExponent
    | some written =>
      obtain ⟨down, more⟩ := written
      rcases List.mem_cons.mp inExponent with rfl | inSigned
      · decide
      · rcases List.mem_cons.mp inSigned with rfl | inMore
        · cases down <;> decide
        · exact digits (wellFormed.exponent down more rfl) c inMore

theorem read?_of_spelling {spelling : Spelling} {rest : List Char} (negative : Bool)
    (wellFormed : spelling.WellFormed) (ends : Spelling.Ends rest) :
    Numeral.read? (Number.signText negative ++ spelling.text ++ rest) =
      some (spelling.numeral negative, rest) := by
  have read := Spelling.readUnsigned?_text wellFormed ends
  obtain ⟨c, more, same, digit⟩ := wellFormed.text_cons
  cases negative with
  | true =>
    show Numeral.read? ('-' :: (spelling.text ++ rest)) = _
    rw [Numeral.read?, read]
    rfl
  | false =>
    show Numeral.read? (spelling.text ++ rest) = _
    rw [same, List.cons_append] at read ⊢
    rw [Numeral.read?]
    · exact read
    · rintro tail same
      rw [(List.cons.inj same).1] at digit
      cases digit

theorem readLiteralNumber?_of_spells {value : Number} {text rest : List Char}
    (spells : value.Spells text) (short : value.Short) (closes : Closes rest) :
    readLiteralNumber? (text ++ rest) = some (value, rest) := by
  obtain ⟨negative, spelling, wellFormed, rfl, denotes, digits⟩ := spells
  have read := read?_of_spelling negative wellFormed (Json.ends_of_closes closes)
  have taken : (Number.signText negative ++ spelling.text ++ rest).take
      ((Number.signText negative ++ spelling.text ++ rest).length - rest.length) =
        Number.signText negative ++ spelling.text := by
    rw [List.length_append, Nat.add_sub_cancel, List.take_left]
  have ascii : (Number.signText negative ++ spelling.text).all (fun c => c.toNat < 0x80) = true := by
    rw [List.all_append, Bool.and_eq_true]
    refine ⟨by cases negative <;> rfl, List.all_eq_true.mpr fun c member => ?_⟩
    exact decide_eq_true (wellFormed.ascii c member)
  have inRange : (spelling.numeral negative).InRange := by
    intro integer
    rw [Numeral.number, if_pos integer] at denotes
    subst denotes
    have whole := digits _ rfl
    show spelling.whole.length ≤ digitLimit
    rw [whole]
    exact short
  rw [readLiteralNumber?, read]
  dsimp only
  rw [taken, if_pos ⟨ascii, wellFormed.noZero, inRange⟩, denotes]

/-- No quoted text goes on where a value ends. -/
theorem noQuote_of_closes {rest : List Char} (closes : Closes rest) (c : Char)
    (first : (Json.skipSpaces rest).head? = some c) : c ≠ '\'' ∧ c ≠ '"' := by
  rcases closes c first with rfl | rfl | rfl <;> decide

theorem readLiteralString?_of_pieces {value : String} {text rest : List Char}
    (isPieces : IsPieces value.toList text)
    (stops : ∀ c, (Json.skipSpaces rest).head? = some c → c ≠ '\'' ∧ c ≠ '"') :
    readLiteralString? (text ++ rest) = some (value, rest) := by
  rw [readLiteralString?, readAdjacent?_of_pieces isPieces stops
    (by rw [List.length_append]; omega), Option.map_some]
  dsimp only
  rw [String.ofList_toList]

theorem opens_of_isPieces {value text : List Char} (isPieces : IsPieces value text) :
    Opens text ∧ text.head? ≠ some '[' ∧ text.head? ≠ some '\x7b' := by
  obtain ⟨quote, more, rfl, isQuote⟩ := isPieces.cons
  rcases isQuote with rfl | rfl <;>
    exact ⟨⟨_, _, rfl, rfl, by decide, by decide⟩, by simp, by simp⟩

theorem readLiteralScalar?_of_isLiteral {value : Json} {text rest : List Char}
    (isLiteral : Json.IsLiteral value text) (closes : Closes rest) :
    readLiteralScalar? (text ++ rest) = some (value, rest) := by
  cases isLiteral with
  | true | false => rfl
  | number short spells =>
    have read := readLiteralNumber?_of_spells spells short closes
    obtain ⟨c, more, rfl, other⟩ := spells.cons
    rw [List.cons_append] at read ⊢
    rw [readLiteralScalar?, read]
    · rfl
    all_goals
      rintro tail same
      exact absurd (List.cons.inj same).1 (other _ (by decide) (by decide))
  | string isPieces =>
    have read := readLiteralString?_of_pieces isPieces (noQuote_of_closes closes)
    obtain ⟨quote, more, rfl, rfl | rfl⟩ := isPieces.cons <;>
    · rw [List.cons_append] at read ⊢
      rw [readLiteralScalar?, read]
      rfl

/-- **The reader of literals reads what is written as their scalars and names.** -/
theorem literalReader_reads : literalReader.Reads Json.literalScript where
  scalar _ _ _ := readLiteralScalar?_of_isLiteral
  opensScalar value text isLiteral := by
    cases isLiteral with
    | true | false => exact ⟨⟨_, _, rfl, rfl, by decide, by decide⟩, by decide, by decide⟩
    | number short spells => exact Json.opens_of_spells spells
    | string isPieces => exact opens_of_isPieces isPieces
  name name text rest isPieces :=
    readLiteralString?_of_pieces isPieces fun c first => by
      cases Option.some.inj first
      decide
  opensName name text isPieces := (opens_of_isPieces isPieces).1

/-- A literal in braces is read up to its closing brace, whatever follows it. -/
theorem readLiteral?_object {fields : List (String × Json)} {text : List Char}
    (isValue : Json.literalScript.Value (.object fields) text) (rest : List Char) :
    readLiteral? (text ++ rest) = some (.object fields, rest) :=
  Reader.value?_of_object literalReader_reads isValue nofun _ rest
    (by rw [List.length_append]; omega)

/-- A literal in braces is evaluated. -/
theorem evaluate?_object {fields : List (String × Json)} {text : String}
    (isValue : Json.literalScript.Value (.object fields) text.toList) :
    evaluate? text = some (.object fields) := by
  have read := readLiteral?_object isValue []
  rw [List.append_nil] at read
  rw [evaluate?, read]
  rfl

end TypeSchema
