/-
**Values in brackets and braces.**

JSON documents and literals share their shape: items in brackets, fields in braces, commas between
them, and white space around the parts. They differ in how scalars and names are written.

* `Script`: how scalars and names are written, and `Script.Value`, the texts of all values then;
* `Reader`: how scalars and names are read, and `Reader.value?`, the reader of all values then;
* `Reader.value?_of_value`: **a reader that reads the scalars and the names of a script reads all its
  values**.
-/

import Mathlib.Data.List.Forall2
import TypeSchema.Json.Read
import TypeSchema.Proofs.Json.Fields

namespace TypeSchema

/-! ### Writing -/

/-- How scalars and the names of fields are written. -/
structure Script where
  Scalar : Json → List Char → Prop
  Name : String → List Char → Prop

/-- White space between parts. -/
def IsGap (gap : List Char) : Prop := ∀ c ∈ gap, Json.isSpace c

theorem isGap_nil : IsGap [] := nofun

mutual

/-- The texts of a value. -/
inductive Script.Value (script : Script) : Json → List Char → Prop
  | scalar {value : Json} {text : List Char} (scalar : script.Scalar value text) :
      Script.Value script value text
  | emptyArray {gap : List Char} (isGap : IsGap gap) :
      Script.Value script (.array []) ('[' :: (gap ++ [']']))
  | array {items : List Json} {before text after : List Char} (isBefore : IsGap before)
      (inside : Script.Items script items text) (isAfter : IsGap after) :
      Script.Value script (.array items) ('[' :: (before ++ (text ++ (after ++ [']']))))
  | emptyObject {gap : List Char} (isGap : IsGap gap) :
      Script.Value script (.object []) ('\x7b' :: (gap ++ ['\x7d']))
  | object {fields : List (String × Json)} {before text after : List Char}
      (distinct : (fields.map Prod.fst).Nodup) (isBefore : IsGap before)
      (inside : Script.Fields script fields text) (isAfter : IsGap after) :
      Script.Value script (.object fields) ('\x7b' :: (before ++ (text ++ (after ++ ['\x7d']))))

/-- The texts of one or more items. -/
inductive Script.Items (script : Script) : List Json → List Char → Prop
  | last {item : Json} {text : List Char} (isItem : Script.Value script item text) :
      Script.Items script [item] text
  | item {item : Json} {rest : List Json} {text gap more : List Char}
      (isItem : Script.Value script item text) (isGap : IsGap gap)
      (others : Script.Items script rest more) :
      Script.Items script (item :: rest) (text ++ ',' :: (gap ++ more))

/-- The texts of one or more fields. -/
inductive Script.Fields (script : Script) : List (String × Json) → List Char → Prop
  | last {name : String} {value : Json} {label gap text : List Char}
      (isName : script.Name name label) (isGap : IsGap gap)
      (isValue : Script.Value script value text) :
      Script.Fields script [(name, value)] (label ++ ':' :: (gap ++ text))
  | field {name : String} {value : Json} {rest : List (String × Json)}
      {label gap text gap' more : List Char} (isName : script.Name name label)
      (isGap : IsGap gap) (isValue : Script.Value script value text) (isGap' : IsGap gap')
      (others : Script.Fields script rest more) :
      Script.Fields script ((name, value) :: rest)
        (label ++ ':' :: (gap ++ (text ++ ',' :: (gap' ++ more))))

end

namespace Script

variable {script : Script} {gap : List Char} {separator : String}

/-- The text of one field. -/
def Field (script : Script) (field : String × Json) (text : List Char) : Prop :=
  ∃ label gap inside, script.Name field.1 label ∧ IsGap gap ∧ script.Value field.2 inside ∧
    text = label ++ ':' :: (gap ++ inside)

/-- Items with commas between their texts. -/
theorem items_intercalate (isSeparator : separator.toList = ',' :: gap) (isGap : IsGap gap)
    {items : List Json} {texts : List String} (some_ : items ≠ [])
    (each : List.Forall₂ (fun item text => script.Value item text.toList) items texts) :
    script.Items items (separator.intercalate texts).toList := by
  induction each with
  | nil => exact absurd rfl some_
  | @cons item text rest others isItem each ih =>
    cases each with
    | nil =>
      rw [String.intercalate_singleton]
      exact .last isItem
    | @cons next more rest others isNext each =>
      rw [String.intercalate_cons_cons, String.append_assoc, String.toList_append,
        String.toList_append, isSeparator]
      exact .item isItem isGap (ih (List.cons_ne_nil _ _))

/-- Fields with commas between their texts. -/
theorem fields_intercalate (isSeparator : separator.toList = ',' :: gap) (isGap : IsGap gap)
    {fields : List (String × Json)} {texts : List String} (some_ : fields ≠ [])
    (each : List.Forall₂ (fun field text => script.Field field text.toList) fields texts) :
    script.Fields fields (separator.intercalate texts).toList := by
  induction each with
  | nil => exact absurd rfl some_
  | @cons field text rest others isField each ih =>
    obtain ⟨label, inner, inside, isName, isInner, isValue, same⟩ := isField
    cases each with
    | nil =>
      rw [String.intercalate_singleton, same]
      exact .last isName isInner isValue
    | @cons next more rest others isNext each =>
      rw [String.intercalate_cons_cons, String.append_assoc, String.toList_append,
        String.toList_append, isSeparator, same, List.append_assoc, List.cons_append,
        List.append_assoc]
      exact .field isName isInner isValue isGap (ih (List.cons_ne_nil _ _))

end Script

/-! ### Reading -/

/-- How scalars and the names of fields are read. -/
structure Reader where
  scalar? : List Char → Option (Json × List Char)
  name? : List Char → Option (String × List Char)

namespace Reader

open Json (skipSpaces)

mutual

/-- A value at the beginning of a text, and what follows it. -/
def value? (reader : Reader) (fuel : Nat) (text : List Char) : Option (Json × List Char) :=
  match fuel with
  | 0 => none
  | fuel + 1 =>
    match skipSpaces text with
    | '[' :: rest =>
      match skipSpaces rest with
      | ']' :: last => some (.array [], last)
      | _ => (reader.items? fuel rest).map fun (items, last) => (.array items, last)
    | '\x7b' :: rest =>
      match skipSpaces rest with
      | '\x7d' :: last => some (.object [], last)
      | _ =>
        (reader.fields? fuel rest).map fun (fields, last) => (.object (collectFields fields), last)
    | rest => reader.scalar? rest

/-- Items up to their closing bracket. -/
def items? (reader : Reader) (fuel : Nat) (text : List Char) : Option (List Json × List Char) :=
  match fuel with
  | 0 => none
  | fuel + 1 =>
    match reader.value? fuel text with
    | none => none
    | some (item, rest) =>
      match skipSpaces rest with
      | ']' :: last => some ([item], last)
      | ',' :: more => (reader.items? fuel more).map fun (items, last) => (item :: items, last)
      | _ => none

/-- Fields up to their closing brace. -/
def fields? (reader : Reader) (fuel : Nat) (text : List Char) :
    Option (List (String × Json) × List Char) :=
  match fuel with
  | 0 => none
  | fuel + 1 =>
    match reader.name? (skipSpaces text) with
    | none => none
    | some (name, after) =>
      match skipSpaces after with
      | ':' :: more =>
        match reader.value? fuel more with
        | none => none
        | some (value, last) =>
          match skipSpaces last with
          | '\x7d' :: last => some ([(name, value)], last)
          | ',' :: more =>
            (reader.fields? fuel more).map fun (fields, last) => ((name, value) :: fields, last)
          | _ => none
      | _ => none

end

end Reader

/-! ### White space -/

theorem skipSpaces_gap {gap : List Char} (isGap : IsGap gap) (text : List Char) :
    Json.skipSpaces (gap ++ text) = Json.skipSpaces text := List.dropWhile_append_of_pos isGap

theorem skipSpaces_cons {c : Char} {rest : List Char} (notSpace : Json.isSpace c = false) :
    Json.skipSpaces (c :: rest) = c :: rest := List.dropWhile_cons_of_neg (by simp [notSpace])

/-- What may follow a value: nothing, or one of the signs that end it, after white space. -/
def Closes (rest : List Char) : Prop :=
  ∀ c, (Json.skipSpaces rest).head? = some c → c = ',' ∨ c = ']' ∨ c = '\x7d'

theorem closes_nil : Closes [] := nofun

theorem closes_gap {gap rest : List Char} (isGap : IsGap gap) (closes : Closes rest) :
    Closes (gap ++ rest) := by
  unfold Closes at closes ⊢
  rwa [skipSpaces_gap isGap]

theorem closes_cons {c : Char} (sign : c = ',' ∨ c = ']' ∨ c = '\x7d') (rest : List Char) :
    Closes (c :: rest) := by
  intro d first
  rw [skipSpaces_cons (by rcases sign with rfl | rfl | rfl <;> rfl)] at first
  exact Option.some.inj first ▸ sign

/-! ### Texts are read -/

/-- A text begins with something other than white space and the signs around items and fields. -/
def Opens (text : List Char) : Prop :=
  ∃ c more, text = c :: more ∧ Json.isSpace c = false ∧ c ≠ ']' ∧ c ≠ '\x7d'

/-- A reader reads the scalars and the names of a script. -/
structure Reader.Reads (reader : Reader) (script : Script) : Prop where
  scalar : ∀ value text rest, script.Scalar value text → Closes rest →
    reader.scalar? (text ++ rest) = some (value, rest)
  opensScalar : ∀ value text, script.Scalar value text →
    Opens text ∧ text.head? ≠ some '[' ∧ text.head? ≠ some '\x7b'
  name : ∀ name text rest, script.Name name text →
    reader.name? (text ++ ':' :: rest) = some (name, ':' :: rest)
  opensName : ∀ name text, script.Name name text → Opens text

section

variable {reader : Reader} {script : Script}

/-- No white space stands before a part. -/
theorem Opens.skipSpaces {text : List Char} (opens : Opens text) (rest : List Char) :
    Json.skipSpaces (text ++ rest) = text ++ rest := by
  obtain ⟨c, more, rfl, notSpace, -⟩ := opens
  exact skipSpaces_cons notSpace

theorem Opens.append {text : List Char} (opens : Opens text) (more : List Char) :
    Opens (text ++ more) := by
  obtain ⟨c, rest, rfl, notSpace, signs⟩ := opens
  exact ⟨c, rest ++ more, rfl, notSpace, signs⟩

theorem Opens.pos {text : List Char} (opens : Opens text) : 0 < text.length := by
  obtain ⟨c, rest, rfl, -⟩ := opens
  exact Nat.succ_pos _

theorem Script.Value.opens (reads : reader.Reads script) {value : Json} {text : List Char}
    (isText : script.Value value text) : Opens text := by
  cases isText with
  | scalar isScalar => exact (reads.opensScalar _ _ isScalar).1
  | emptyArray | array | emptyObject | object =>
    exact ⟨_, _, rfl, rfl, by decide, by decide⟩

theorem Script.Items.opens (reads : reader.Reads script) {items : List Json} {text : List Char}
    (isText : script.Items items text) : Opens text := by
  cases isText with
  | last isItem => exact isItem.opens reads
  | item isItem => exact (isItem.opens reads).append _

theorem Script.Fields.opens (reads : reader.Reads script) {fields : List (String × Json)}
    {text : List Char} (isText : script.Fields fields text) : Opens text := by
  cases isText with
  | last isName => exact (reads.opensName _ _ isName).append _
  | field isName => exact (reads.opensName _ _ isName).append _

namespace Reader

theorem value?_gap {gap : List Char} (isGap : IsGap gap) (fuel : Nat) (text : List Char) :
    reader.value? fuel (gap ++ text) = reader.value? fuel text := by
  cases fuel with
  | zero => rfl
  | succ fuel => rw [value?, value?, skipSpaces_gap isGap]

theorem items?_gap {gap : List Char} (isGap : IsGap gap) (fuel : Nat) (text : List Char) :
    reader.items? fuel (gap ++ text) = reader.items? fuel text := by
  cases fuel with
  | zero => rfl
  | succ fuel => rw [items?, items?, value?_gap isGap]

theorem fields?_gap {gap : List Char} (isGap : IsGap gap) (fuel : Nat) (text : List Char) :
    reader.fields? fuel (gap ++ text) = reader.fields? fuel text := by
  cases fuel with
  | zero => rfl
  | succ fuel => rw [fields?, fields?, skipSpaces_gap isGap]

theorem value?_emptyArray {gap : List Char} (isGap : IsGap gap) (fuel : Nat) (rest : List Char) :
    reader.value? (fuel + 1) ('[' :: (gap ++ [']']) ++ rest) = some (.array [], rest) := by
  rw [List.cons_append, List.append_assoc, value?, skipSpaces_cons rfl]
  simp only [skipSpaces_gap isGap]
  rfl

theorem value?_emptyObject {gap : List Char} (isGap : IsGap gap) (fuel : Nat) (rest : List Char) :
    reader.value? (fuel + 1) ('\x7b' :: (gap ++ ['\x7d']) ++ rest) = some (.object [], rest) := by
  rw [List.cons_append, List.append_assoc, value?, skipSpaces_cons rfl]
  simp only [skipSpaces_gap isGap]
  rfl

/-- Items behind an opening bracket are read. -/
theorem value?_array {fuel : Nat} {text rest : List Char} {items : List Json} (opens : Opens text)
    (read : reader.items? fuel text = some (items, rest)) {gap : List Char} (isGap : IsGap gap) :
    reader.value? (fuel + 1) ('[' :: (gap ++ text)) = some (.array items, rest) := by
  obtain ⟨c, more, rfl, notSpace, notBracket, -⟩ := opens
  rw [value?, skipSpaces_cons rfl]
  simp only [skipSpaces_gap isGap, skipSpaces_cons notSpace, items?_gap isGap, read]
  split
  · rename_i same
    exact absurd (List.cons.inj same).1 notBracket
  · rfl

/-- Fields behind an opening brace are read. -/
theorem value?_object {fuel : Nat} {text rest : List Char} {fields : List (String × Json)}
    (opens : Opens text) (distinct : (fields.map Prod.fst).Nodup)
    (read : reader.fields? fuel text = some (fields, rest)) {gap : List Char}
    (isGap : IsGap gap) :
    reader.value? (fuel + 1) ('\x7b' :: (gap ++ text)) = some (.object fields, rest) := by
  obtain ⟨c, more, rfl, notSpace, -, notBrace⟩ := opens
  rw [value?, skipSpaces_cons rfl]
  simp only [skipSpaces_gap isGap, skipSpaces_cons notSpace, fields?_gap isGap, read]
  split
  · rename_i same
    exact absurd (List.cons.inj same).1 notBrace
  · simp [collectFields_of_nodup distinct]

/-- A scalar is read. -/
theorem value?_scalar (reads : reader.Reads script) {value : Json} {text : List Char}
    (isScalar : script.Scalar value text) (fuel : Nat) {rest : List Char} (closes : Closes rest) :
    reader.value? (fuel + 1) (text ++ rest) = some (value, rest) := by
  have read := reads.scalar value text rest isScalar closes
  obtain ⟨⟨c, more, rfl, notSpace, -⟩, notBracket, notBrace⟩ := reads.opensScalar _ _ isScalar
  rw [value?, List.cons_append, skipSpaces_cons notSpace]
  split
  · rename_i same
    exact absurd (congrArg List.head? same) notBracket
  · rename_i same
    exact absurd (congrArg List.head? same) notBrace
  · exact read

mutual

/-- **A reader that reads the scalars and the names of a script reads all its values.** -/
theorem value?_of_value (reads : reader.Reads script) {value : Json} {text : List Char}
    (isText : script.Value value text) (fuel : Nat) (rest : List Char)
    (enough : 2 * text.length ≤ fuel) (closes : Closes rest) :
    reader.value? fuel (text ++ rest) = some (value, rest) := by
  have positive := (isText.opens reads).pos
  obtain ⟨fuel, rfl⟩ := Nat.exists_eq_add_one_of_ne_zero (show fuel ≠ 0 by omega)
  match isText with
  | .scalar isScalar => exact value?_scalar reads isScalar fuel closes
  | .emptyArray isGap => exact value?_emptyArray isGap fuel rest
  | .emptyObject isGap => exact value?_emptyObject isGap fuel rest
  | .array isBefore inside isAfter =>
    simp only [List.length_cons, List.length_append, List.length_nil] at enough
    have read := items?_of_items reads inside fuel _ rest (by omega) isAfter
    simpa using value?_array ((inside.opens reads).append _) read isBefore
  | .object distinct isBefore inside isAfter =>
    simp only [List.length_cons, List.length_append, List.length_nil] at enough
    have read := fields?_of_fields reads inside fuel _ rest (by omega) isAfter
    simpa using value?_object ((inside.opens reads).append _) distinct read isBefore

theorem items?_of_items (reads : reader.Reads script) {items : List Json} {text : List Char}
    (isText : script.Items items text) (fuel : Nat) (after rest : List Char)
    (enough : 2 * text.length < fuel) (isAfter : IsGap after) :
    reader.items? fuel (text ++ (after ++ ']' :: rest)) = some (items, rest) := by
  obtain ⟨fuel, rfl⟩ := Nat.exists_eq_add_one_of_ne_zero (show fuel ≠ 0 by omega)
  match isText with
  | .last isItem =>
    rw [items?, value?_of_value reads isItem fuel _ (by omega)
      (closes_gap isAfter (closes_cons (.inr (.inl rfl)) rest))]
    simp only [skipSpaces_gap isAfter]
    rfl
  | .item isItem isGap others =>
    simp only [List.length_cons, List.length_append] at enough
    have more := items?_of_items reads others fuel after rest (by omega) isAfter
    rw [List.append_assoc, List.cons_append, items?,
      value?_of_value reads isItem fuel _ (by omega) (closes_cons (.inl rfl) _)]
    simp only [skipSpaces_cons (c := ',') rfl, List.append_assoc, items?_gap isGap, more]
    rfl

theorem fields?_of_fields (reads : reader.Reads script) {fields : List (String × Json)}
    {text : List Char} (isText : script.Fields fields text) (fuel : Nat) (after rest : List Char)
    (enough : 2 * text.length < fuel) (isAfter : IsGap after) :
    reader.fields? fuel (text ++ (after ++ '\x7d' :: rest)) = some (fields, rest) := by
  obtain ⟨fuel, rfl⟩ := Nat.exists_eq_add_one_of_ne_zero (show fuel ≠ 0 by omega)
  match isText with
  | .last isName isGap isValue =>
    simp only [List.length_cons, List.length_append] at enough
    have read := value?_of_value reads isValue fuel _ (by omega)
      (closes_gap isAfter (closes_cons (.inr (.inr rfl)) rest))
    rw [List.append_assoc, fields?, (reads.opensName _ _ isName).skipSpaces, List.cons_append,
      reads.name _ _ _ isName]
    simp only [skipSpaces_cons (c := ':') rfl, List.append_assoc, value?_gap isGap, read,
      skipSpaces_gap isAfter]
    rfl
  | .field isName isGap isValue isGap' others =>
    simp only [List.length_cons, List.length_append] at enough
    have read (rest : List Char) := value?_of_value reads isValue fuel (',' :: rest) (by omega)
      (closes_cons (.inl rfl) rest)
    have more := fields?_of_fields reads others fuel after rest (by omega) isAfter
    rw [List.append_assoc, fields?, (reads.opensName _ _ isName).skipSpaces, List.cons_append,
      reads.name _ _ _ isName]
    simp only [skipSpaces_cons (c := ':') rfl, List.append_assoc, value?_gap isGap,
      List.cons_append, read, skipSpaces_cons (c := ',') rfl, fields?_gap isGap', more]
    rfl

end

/-- Fields in braces are read up to the closing brace, whatever follows it. -/
theorem value?_of_object (reads : reader.Reads script) {fields : List (String × Json)}
    {text : List Char} (isText : script.Value (.object fields) text)
    (noScalar : ∀ text, ¬ script.Scalar (.object fields) text) (fuel : Nat) (rest : List Char)
    (enough : 2 * text.length ≤ fuel) :
    reader.value? fuel (text ++ rest) = some (.object fields, rest) := by
  have positive := (isText.opens reads).pos
  obtain ⟨fuel, rfl⟩ := Nat.exists_eq_add_one_of_ne_zero (show fuel ≠ 0 by omega)
  cases isText with
  | scalar isScalar => exact absurd isScalar (noScalar text)
  | emptyObject isGap => exact value?_emptyObject isGap fuel rest
  | object distinct isBefore inside isAfter =>
    simp only [List.length_cons, List.length_append, List.length_nil] at enough
    have read := fields?_of_fields reads inside fuel _ rest (by omega) isAfter
    simpa using value?_object ((inside.opens reads).append _) distinct read isBefore

end Reader

end

end TypeSchema
