/-
**Quoted texts read back.**

* `readQuoted?`: the text that a quoted text denotes, with escapes by letter and by hexadecimal code
  point; no line end, and no quote of the same kind, stands in it raw;
* `readAdjacent?`: quoted texts that stand next to each other denote their texts joined;
* `readQuoted?_quoted`: **what is quoted reads back**;
* `readAdjacent?_of_pieces`: **so do the pieces of a text, quoted one by one.**
-/

import Mathlib.Tactic.SplitIfs
import TypeSchema.Proofs.Json.Script
import TypeSchema.Proofs.Text.Hexadecimal
import TypeSchema.Text.Quoted

namespace TypeSchema

/-! ### Reading -/

/-- The character with a code point in hexadecimal digits of a fixed width. -/
def readCodePoint? (width : Nat) (text : List Char) : Option (Char × List Char) :=
  let digits := text.take width
  if digits.length = width ∧ digits.all isHexDigit ∧ (hexValue digits).isValidChar then
    some (Char.ofNat (hexValue digits), text.drop width)
  else none

/-- The character of an escape after its backslash. -/
def readQuotedEscape? : List Char → Option (Char × List Char)
  | 'n' :: rest => some ('\n', rest)
  | 'r' :: rest => some ('\r', rest)
  | 't' :: rest => some ('\t', rest)
  | 'x' :: rest => readCodePoint? 2 rest
  | 'u' :: rest => readCodePoint? 4 rest
  | 'U' :: rest => readCodePoint? 8 rest
  | c :: rest => if c = '\'' ∨ c = '"' ∨ c = '\\' then some (c, rest) else none
  | [] => none

/-- The characters up to a closing quote, and what follows it. -/
def readQuotedBody? (quote : Char) (fuel : Nat) (text : List Char) :
    Option (List Char × List Char) :=
  match fuel, text with
  | 0, _ => none
  | _, [] => none
  | fuel + 1, c :: rest =>
    if c = quote then some ([], rest)
    else if c = '\n' ∨ c = '\r' ∨ c = '\x00' then none
    else if c = '\\' then
      match readQuotedEscape? rest with
      | some (c, after) =>
        (readQuotedBody? quote fuel after).map fun (value, last) => (c :: value, last)
      | none => none
    else (readQuotedBody? quote fuel rest).map fun (value, last) => (c :: value, last)

/-- The text that a quoted text at the beginning of a text denotes, and what follows it. -/
def readQuoted? : List Char → Option (List Char × List Char)
  | c :: rest =>
    if c = '\'' ∨ c = '"' then readQuotedBody? c (rest.length + 1) rest else none
  | [] => none

/-- The text that one or more quoted texts denote together; white space may stand between them. -/
def readAdjacent? (fuel : Nat) (text : List Char) : Option (List Char × List Char) :=
  match fuel with
  | 0 => none
  | fuel + 1 =>
    match readQuoted? text with
    | none => none
    | some (value, rest) =>
      match Json.skipSpaces rest with
      | c :: more =>
        if c = '\'' ∨ c = '"' then
          (readAdjacent? fuel (c :: more)).map fun (others, last) => (value ++ others, last)
        else some (value, rest)
      | [] => some (value, rest)

/-! ### One quoted text -/

theorem readCodePoint?_hexadecimal {width : Nat} {c : Char} (fits : c.toNat < 16 ^ width)
    (rest : List Char) :
    readCodePoint? width (hexadecimal width c.toNat ++ rest) = some (c, rest) := by
  have length := length_hexadecimal width c.toNat
  have taken : (hexadecimal width c.toNat ++ rest).take width = hexadecimal width c.toNat :=
    List.take_left' length
  have dropped : (hexadecimal width c.toNat ++ rest).drop width = rest := List.drop_left' length
  have digits : (hexadecimal width c.toNat).all isHexDigit = true :=
    List.all_eq_true.mpr fun _ => isHexDigit_of_mem_hexadecimal
  have valid : c.toNat.isValidChar := c.valid
  rw [readCodePoint?, taken, dropped, hexValue_hexadecimal fits, if_pos ⟨length, digits, valid⟩,
    Char.ofNat_toNat]

theorem readQuotedEscape?_escapedCodePoint (c : Char) :
    ∃ escape, escapedCodePoint c = '\\' :: escape ∧
      ∀ rest, readQuotedEscape? (escape ++ rest) = some (c, rest) := by
  unfold escapedCodePoint
  split_ifs with byte unit
  · exact ⟨_, rfl, fun rest => readCodePoint?_hexadecimal byte rest⟩
  · exact ⟨_, rfl, fun rest => readCodePoint?_hexadecimal unit rest⟩
  · refine ⟨_, rfl, fun rest => readCodePoint?_hexadecimal ?_ rest⟩
    have valid : c.toNat.isValidChar := c.valid
    simp only [Nat.isValidChar] at valid
    omega

/-- A character between quotes reads back. -/
theorem readQuotedBody?_quotedChar {quote : Char} (isQuote : quote = '\'' ∨ quote = '"') (c : Char)
    (fuel : Nat) (more : List Char) :
    readQuotedBody? quote (fuel + 1) (quotedChar quote c ++ more) =
      (readQuotedBody? quote fuel more).map fun (value, last) => (c :: value, last) := by
  have notEscape : '\\' ≠ quote := by rcases isQuote with rfl | rfl <;> decide
  have escaped (escape : List Char)
      (reads : ∀ rest, readQuotedEscape? (escape ++ rest) = some (c, rest)) :
      readQuotedBody? quote (fuel + 1) ('\\' :: (escape ++ more)) =
        (readQuotedBody? quote fuel more).map fun (value, last) => (c :: value, last) := by
    rw [readQuotedBody?, if_neg notEscape, if_neg (by decide), if_pos rfl, reads]
  unfold quotedChar
  split_ifs with own line carriage tab printable
  · refine escaped [c] fun rest => ?_
    simp only [Bool.or_eq_true, decide_eq_true_eq] at own
    rcases own with rfl | rfl
    · rcases isQuote with rfl | rfl <;> rfl
    · rfl
  · subst line
    exact escaped ['n'] fun rest => rfl
  · subst carriage
    exact escaped ['r'] fun rest => rfl
  · subst tab
    exact escaped ['t'] fun rest => rfl
  · simp only [Bool.or_eq_true, decide_eq_true_eq, not_or] at own
    have notNull : c ≠ '\x00' := by
      rintro rfl
      exact absurd printable (by decide)
    rw [List.singleton_append, readQuotedBody?, if_neg own.1,
      if_neg (by simp [line, carriage, notNull]), if_neg own.2]
  · obtain ⟨escape, same, reads⟩ := readQuotedEscape?_escapedCodePoint c
    rw [same]
    exact escaped escape reads

theorem readQuotedBody?_flatMap {quote : Char} (isQuote : quote = '\'' ∨ quote = '"')
    (text rest : List Char) {fuel : Nat} (enough : text.length < fuel) :
    readQuotedBody? quote fuel (text.flatMap (quotedChar quote) ++ quote :: rest) =
      some (text, rest) := by
  induction text generalizing fuel with
  | nil =>
    obtain ⟨fuel, rfl⟩ := Nat.exists_eq_add_one_of_ne_zero (show fuel ≠ 0 by omega)
    rw [List.flatMap_nil, List.nil_append, readQuotedBody?, if_pos rfl]
  | cons c text ih =>
    rw [List.length_cons] at enough
    obtain ⟨fuel, rfl⟩ := Nat.exists_eq_add_one_of_ne_zero (show fuel ≠ 0 by omega)
    rw [List.flatMap_cons, List.append_assoc, readQuotedBody?_quotedChar isQuote, ih (by omega)]
    rfl

theorem quoteFor_eq (text : List Char) : quoteFor text = '\'' ∨ quoteFor text = '"' := by
  unfold quoteFor
  split
  · exact .inr rfl
  · exact .inl rfl

/-- Quoting shortens no text. -/
theorem length_le_flatMap_quotedChar (quote : Char) (text : List Char) :
    text.length ≤ (text.flatMap (quotedChar quote)).length := by
  induction text with
  | nil => exact Nat.le_refl 0
  | cons c text ih =>
    have some_ : 0 < (quotedChar quote c).length := by
      unfold quotedChar escapedCodePoint
      split_ifs <;> simp
    rw [List.flatMap_cons, List.length_append, List.length_cons]
    omega

/-- **What is quoted reads back.** -/
theorem readQuoted?_quoted (text rest : List Char) :
    readQuoted? (quoted text ++ rest) = some (text, rest) := by
  have isQuote := quoteFor_eq text
  have longer := length_le_flatMap_quotedChar (quoteFor text) text
  simp only [quoted, List.cons_append, List.append_assoc, List.nil_append]
  rw [readQuoted?, if_pos isQuote, readQuotedBody?_flatMap isQuote]
  rw [List.length_append]
  omega

/-! ### Quoted texts next to each other -/

/-- A text in pieces that are quoted one by one, with white space between them. -/
inductive IsPieces : List Char → List Char → Prop
  | last (piece : List Char) : IsPieces piece (quoted piece)
  | piece {gap others text : List Char} (piece : List Char) (isGap : IsGap gap)
      (more : IsPieces others text) : IsPieces (piece ++ others) (quoted piece ++ (gap ++ text))

theorem quoted_cons (text : List Char) :
    ∃ quote more, quoted text = quote :: more ∧ (quote = '\'' ∨ quote = '"') :=
  ⟨_, _, rfl, quoteFor_eq text⟩

theorem IsPieces.cons {value text : List Char} (isPieces : IsPieces value text) :
    ∃ quote more, text = quote :: more ∧ (quote = '\'' ∨ quote = '"') := by
  cases isPieces with
  | last => exact quoted_cons value
  | piece piece =>
    obtain ⟨quote, more, same, isQuote⟩ := quoted_cons piece
    exact ⟨quote, _, by rw [same]; rfl, isQuote⟩

/-- **The pieces of a text read back as the text.** -/
theorem readAdjacent?_of_pieces {value text rest : List Char} (isPieces : IsPieces value text)
    (stops : ∀ c, (Json.skipSpaces rest).head? = some c → c ≠ '\'' ∧ c ≠ '"') {fuel : Nat}
    (enough : text.length ≤ fuel) : readAdjacent? fuel (text ++ rest) = some (value, rest) := by
  induction isPieces generalizing fuel with
  | last piece =>
    have some_ : 0 < (quoted piece).length := Nat.succ_pos _
    obtain ⟨fuel, rfl⟩ := Nat.exists_eq_add_one_of_ne_zero (show fuel ≠ 0 by omega)
    rw [readAdjacent?, readQuoted?_quoted]
    dsimp only
    split
    · rename_i c more same
      have noQuote := stops c (by rw [same]; rfl)
      rw [if_neg (not_or.mpr noQuote)]
    · rfl
  | @piece gap others text piece isGap more ih =>
    have some_ : 0 < (quoted piece).length := Nat.succ_pos _
    simp only [List.length_append] at enough
    obtain ⟨fuel, rfl⟩ := Nat.exists_eq_add_one_of_ne_zero (show fuel ≠ 0 by omega)
    have read := @ih fuel (by omega)
    obtain ⟨quote, tail, rfl, isQuote⟩ := more.cons
    have notSpace : Json.isSpace quote = false := by rcases isQuote with rfl | rfl <;> rfl
    rw [List.append_assoc, readAdjacent?, readQuoted?_quoted]
    dsimp only
    rw [List.append_assoc, skipSpaces_gap isGap, List.cons_append, skipSpaces_cons notSpace]
    dsimp only
    rw [if_pos isQuote, ← List.cons_append, read]
    rfl

/-- Pieces with the same separator between them. -/
theorem isPieces_intercalate {separator : String} (isGap : IsGap separator.toList)
    {pieces : List (List Char)} (some_ : pieces ≠ []) :
    IsPieces pieces.flatten
      (separator.intercalate (pieces.map fun piece => String.ofList (quoted piece))).toList := by
  induction pieces with
  | nil => exact absurd rfl some_
  | cons piece rest ih =>
    cases rest with
    | nil => simpa using IsPieces.last piece
    | cons next rest =>
      have more := ih (List.cons_ne_nil next rest)
      rw [List.map_cons, List.map_cons, String.intercalate_cons_cons, String.append_assoc,
        String.toList_append, String.toList_append, String.toList_ofList]
      exact .piece piece isGap more

end TypeSchema
