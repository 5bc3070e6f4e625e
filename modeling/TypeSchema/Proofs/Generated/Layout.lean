/-
**Values are laid out as literals.**

* `flatten_linesKept`, `flatten_words`, `flatten_stringPieces`: cutting a text into lines, words and
  pieces loses nothing;
* `Json.Closed`: a value has a closed literal: its names are distinct, its numbers are finite, and
  no integer is too long to be read;
* `Json.value_literal`, `Json.value_layout`: **a value is written as a literal of that value**, on
  one line or in several.
-/

import TypeSchema.Generated.Layout
import TypeSchema.Proofs.Generated.Literals

namespace TypeSchema

/-! ### Pieces of a text -/

theorem firstLine_append (text : List Char) : (firstLine text).1 ++ (firstLine text).2 = text := by
  fun_induction firstLine text <;> simp_all

theorem flatten_linesKept (text : List Char) : (linesKept text).flatten = text := by
  fun_induction linesKept text with
  | case1 => rfl
  | case2 c rest ih => rw [List.flatten_cons, ih, firstLine_append]

theorem firstWord_append (text : List Char) : (firstWord text).1 ++ (firstWord text).2 = text := by
  unfold firstWord
  dsimp only
  rw [List.append_assoc, List.takeWhile_append_dropWhile]
  exact List.prefix_iff_eq_append.mp (List.takeWhile_prefix _)

theorem flatten_words (text : List Char) : (words text).flatten = text := by
  fun_induction words text with
  | case1 => rfl
  | case2 c rest ih => rw [List.flatten_cons, ih, firstWord_append]

theorem flatten_joinWords (room right : Nat) (current : List Char) (words : List (List Char)) :
    (joinWords room right current words).flatten = current ++ words.flatten := by
  fun_induction joinWords room right current words <;> simp_all

theorem flatten_stringPieces (room right : Nat) (lines : List (List Char)) :
    (stringPieces room right lines).flatten = lines.flatten := by
  induction lines with
  | nil => rfl
  | cons line rest ih =>
    rw [stringPieces, List.flatten_append, ih, List.flatten_cons]
    split_ifs <;> simp [flatten_joinWords, flatten_words]

theorem isGap_spaces (count : Nat) : IsGap (List.replicate count ' ') := by
  intro c member
  rw [List.eq_of_mem_replicate member]
  rfl

theorem isGap_lineBreak (indent : Nat) : IsGap (lineBreak indent).toList := by
  intro c member
  simp only [lineBreak, String.toList_append, String.toList_ofList] at member
  rcases List.mem_append.mp member with line | space
  · cases List.mem_singleton.mp line
    rfl
  · exact isGap_spaces indent c space

/-- A text that does not fit on one line is written in pieces. -/
theorem isPieces_stringLayout (indent right : Nat) {text : String} (some_ : text ≠ "") :
    IsPieces text.toList (stringLayout indent right text).toList := by
  have joined := flatten_stringPieces (lineWidth - indent) right (linesKept text.toList)
  rw [flatten_linesKept] at joined
  have pieces : stringPieces (lineWidth - indent) right (linesKept text.toList) ≠ [] := by
    intro none_
    rw [none_] at joined
    exact some_ (String.toList_eq_nil_iff.mp joined.symm)
  have isPieces := isPieces_intercalate (isGap_lineBreak indent) pieces
  rwa [joined] at isPieces

/-! ### Values on one line -/

namespace Json

/-- A value has a closed literal: its names are distinct, its numbers are finite and not too long,
and it is not null. -/
def Closed : Json → Prop
  | null => False
  | object fields => (fields.map Prod.fst).Nodup
  | number value => value.Finite ∧ value.Short
  | _ => True

theorem isPieces_quote (text : String) : IsPieces text.toList (quote text).toList := by
  rw [quote, String.toList_ofList]
  exact .last text.toList

theorem isGap_space : IsGap [' '] := isGap_spaces 1

theorem isSeparator_space : ", ".toList = ',' :: [' '] := rfl

theorem value_brackets {items : List Json} {texts : List String}
    (each : List.Forall₂ (fun item text => literalScript.Value item text.toList) items texts) :
    literalScript.Value (array items) ("[" ++ ", ".intercalate texts ++ "]").toList := by
  by_cases some_ : items = []
  · subst some_
    cases each
    exact .emptyArray isGap_nil
  · have inside := Script.items_intercalate isSeparator_space isGap_space some_ each
    simpa using Script.Value.array isGap_nil inside isGap_nil

theorem value_braces {fields : List (String × Json)} {texts : List String}
    (distinct : (fields.map Prod.fst).Nodup)
    (each : List.Forall₂ (fun field text => literalScript.Field field text.toList) fields texts) :
    literalScript.Value (object fields)
      ("\x7b" ++ ", ".intercalate texts ++ "\x7d").toList := by
  by_cases some_ : fields = []
  · subst some_
    cases each
    exact .emptyObject isGap_nil
  · have inside := Script.fields_intercalate isSeparator_space isGap_space some_ each
    simpa using Script.Value.object distinct isGap_nil inside isGap_nil

theorem field_literal {name : String} {value : Json} {text : String}
    (isValue : literalScript.Value value text.toList) :
    literalScript.Field (name, value) (quote name ++ ": " ++ text).toList :=
  ⟨_, [' '], _, isPieces_quote name, isGap_space, isValue, by simp⟩

mutual

/-- **A value is written on one line as a literal of that value.** -/
theorem value_literal : (value : Json) → (∀ part ∈ value.parts, part.Closed) →
    literalScript.Value value value.literal.toList
  | null, closed => (closed _ (mem_parts_self _)).elim
  | bool true, _ => .scalar .true
  | bool false, _ => .scalar .false
  | number value, closed => by
    obtain ⟨finite, short⟩ := closed _ (mem_parts_self _)
    exact .scalar (.number short (Number.spells_literal finite))
  | string value, _ => .scalar (.string (isPieces_quote value))
  | array items, closed => value_brackets (items_literal items (forall_parts_array.mp closed).2)
  | object fields, closed => by
    obtain ⟨distinct, inside⟩ := forall_parts_object.mp closed
    exact value_braces distinct (fields_literal fields inside)

theorem items_literal : (items : List Json) →
    (∀ item ∈ items, ∀ part ∈ item.parts, part.Closed) →
    List.Forall₂ (fun item text => literalScript.Value item text.toList) items
      (literalItems items)
  | [], _ => .nil
  | item :: rest, closed => by
    rw [List.forall_mem_cons] at closed
    exact .cons (value_literal item closed.1) (items_literal rest closed.2)

theorem fields_literal : (fields : List (String × Json)) →
    (∀ field ∈ fields, ∀ part ∈ field.2.parts, part.Closed) →
    List.Forall₂ (fun field text => literalScript.Field field text.toList) fields
      (literalFields fields)
  | [], _ => .nil
  | (name, value) :: rest, closed => by
    rw [List.forall_mem_cons] at closed
    exact .cons (field_literal (value_literal value closed.1)) (fields_literal rest closed.2)

end

/-! ### Values in lines -/

mutual

/-- **A value is laid out in lines as a literal of that value.** -/
theorem value_layout (indent right : Nat) : (value : Json) →
    (∀ part ∈ value.parts, part.Closed) →
    literalScript.Value value (value.layout indent right).toList
  | null, closed => (closed _ (mem_parts_self _)).elim
  | bool value, closed => value_literal (bool value) closed
  | number value, closed => value_literal (number value) closed
  | string text, _ => by
    rw [layout]
    split_ifs with whole
    · exact .scalar (.string (isPieces_quote text))
    · exact .scalar (.string (isPieces_stringLayout indent right fun empty => whole (.inr empty)))
  | array items, closed => by
    rw [layout]
    split_ifs with whole
    · exact value_literal (array items) closed
    by_cases none_ : items = []
    · subst none_
      simpa [layoutItems] using Script.Value.emptyArray (isGap_spaces 3)
    · have inside := items_layout (indent + 4) (right + 1) items none_
        (forall_parts_array.mp closed).2
      simpa using Script.Value.array (isGap_spaces 3) inside isGap_nil
  | object fields, closed => by
    rw [layout]
    split_ifs with whole
    · exact value_literal (object fields) closed
    obtain ⟨distinct, closedFields⟩ := forall_parts_object.mp closed
    by_cases none_ : fields = []
    · subst none_
      simpa [layoutFields] using Script.Value.emptyObject (isGap_spaces 3)
    · have inside := fields_layout (indent + 4) (right + 1) fields none_ closedFields
      simpa using Script.Value.object distinct (isGap_spaces 3) inside isGap_nil

theorem items_layout (indent right : Nat) : (items : List Json) → items ≠ [] →
    (∀ item ∈ items, ∀ part ∈ item.parts, part.Closed) →
    literalScript.Items items (layoutItems indent right items).toList
  | [], some_, _ => absurd rfl some_
  | [item], _, closed => by
    rw [layoutItems]
    exact .last (value_layout indent right item (closed item List.mem_cons_self))
  | item :: next :: rest, _, closed => by
    rw [List.forall_mem_cons] at closed
    have isItem := value_layout indent 1 item closed.1
    have others := items_layout indent right (next :: rest) (List.cons_ne_nil _ _) closed.2
    rw [layoutItems]
    · simpa using Script.Items.item isItem (isGap_lineBreak indent) others
    · exact List.cons_ne_nil _ _

theorem fields_layout (indent right : Nat) : (fields : List (String × Json)) → fields ≠ [] →
    (∀ field ∈ fields, ∀ part ∈ field.2.parts, part.Closed) →
    literalScript.Fields fields (layoutFields indent right fields).toList
  | [], some_, _ => absurd rfl some_
  | [(name, value)], _, closed => by
    have isValue := value_layout (indent + (quote name).length + 2) right value
      (closed (name, value) List.mem_cons_self)
    rw [layoutFields]
    simpa using Script.Fields.last (isPieces_quote name) isGap_space isValue
  | (name, value) :: next :: rest, _, closed => by
    rw [List.forall_mem_cons] at closed
    have isValue := value_layout (indent + (quote name).length + 2) 1 value closed.1
    have others := fields_layout indent right (next :: rest) (List.cons_ne_nil _ _) closed.2
    rw [layoutFields]
    · simpa using Script.Fields.field (isPieces_quote name) isGap_space isValue
        (isGap_lineBreak indent) others
    · exact List.cons_ne_nil _ _

end

end Json

end TypeSchema
