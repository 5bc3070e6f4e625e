/-
**Texts in double quotes.**

* `escape_escaped`: an escape is read as its character, whichever of its forms it has;
* `escape_fold`: an escaped line break and the indentation after it mean nothing;
* `doubleQuoted_reads`: **every text in double quotes reads back**, wherever its lines are broken.
-/

import Mathlib.Data.Bool.AllAny
import TypeSchema.Proofs.Yaml.Quoted

namespace TypeSchema

/-! ### Hexadecimal digits in upper case -/

theorem hexDigit?_toUpper {width value : Nat} {c : Char} (member : c ∈ hexadecimal width value) :
    hexDigit? c.toUpper = hexDigit? c := by
  obtain ⟨digit, small, rfl⟩ := exists_hexDigit_of_mem member
  interval_cases digit <;> rfl

namespace Yaml

theorem length_upperHex (width value : Nat) : (upperHex width value).length = width := by
  rw [upperHex, List.length_map, length_hexadecimal]

theorem isHexDigit_of_mem_upperHex {width value : Nat} {c : Char}
    (member : c ∈ upperHex width value) : isHexDigit c = true := by
  obtain ⟨digit, isDigit, rfl⟩ := List.mem_map.mp member
  rw [isHexDigit, hexDigit?_toUpper isDigit]
  exact isHexDigit_of_mem_hexadecimal isDigit

theorem hexValue_upperHex {width value : Nat} (fits : value < 16 ^ width) :
    hexValue (upperHex width value) = value := by
  rw [upperHex, hexValue, List.foldl_map]
  refine Eq.trans (List.foldl_ext _ _ 0 fun value c member => ?_) (hexValue_hexadecimal fits)
  rw [hexDigit?_toUpper member]

/-! ### Escapes -/

section Escapes

variable {rest : List Char}

theorem escape_letter {letter c : Char} (means : escapeLetter? letter = some c) :
    Gives escape (letter :: rest) [c] rest := by
  intro cursor here
  refine ⟨cursor.next, by rw [Cursor.rest_next, here]; rfl, ?_⟩
  simp [escape, Cursor.peek, here, means]

theorem escape_number {letter : Char} {width : Nat} (noLetter : escapeLetter? letter = none)
    (digits : escapeDigits? letter = some width) {c : Char} (fits : c.toNat < 16 ^ width) :
    Gives escape (letter :: upperHex width c.toNat ++ rest) [c] rest := by
  intro cursor here
  have after : cursor.next.rest = upperHex width c.toNat ++ rest := by
    rw [Cursor.rest_next, here]
    rfl
  have numeral : cursor.next.rest.take width = upperHex width c.toNat := by
    rw [after, List.take_left' (length_upperHex _ _)]
  have isNumeral : (upperHex width c.toNat).all isHexDigit = true :=
    List.all_eq_true.mpr fun d member => isHexDigit_of_mem_upperHex member
  have means : codePointOf (hexValue (upperHex width c.toNat)) = .ok (.ofChar c) := by
    rw [hexValue_upperHex fits]
    exact codePointOf_eq_ok.mpr ⟨toNat_lt c, rfl⟩
  refine ⟨cursor.next.advance width, ?_, ?_⟩
  · rw [Cursor.rest_advance, after, List.drop_left' (length_upperHex _ _)]
  · have first : cursor.peek = some letter := by rw [Cursor.peek, here]; rfl
    unfold escape
    rw [first]
    dsimp only
    rw [noLetter, digits]
    dsimp only
    rw [numeral, if_pos ⟨length_upperHex _ _, isNumeral⟩, means]
    dsimp only
    rw [CodePoint.char_ofChar]

/-- The characters that a letter stands for. -/
def letterEscapes : List Char :=
  ['\x00', '\x07', '\x08', '\t', '\n', '\x0b', '\x0c', '\r', '\x1b', '"', '\\', '\u0085',
    '\u00a0', '\u2028', '\u2029']

theorem escaped_letter : ∀ c ∈ letterEscapes, ∃ letter ∈ escaped c,
    escaped c = ['\\', letter] ∧ escapeLetter? letter = some c := by
  have each : letterEscapes.all (fun c => (escaped c).any fun letter =>
      decide (escaped c = ['\\', letter] ∧ escapeLetter? letter = some c)) := by decide
  intro c member
  exact List.any_iff_exists_prop.mp (List.all_eq_true.mp each c member)

theorem escaped_number {c : Char} (noLetter : c ∉ letterEscapes) :
    escaped c = '\\' ::
      (if c.toNat < 0x100 then 'x' :: upperHex 2 c.toNat
      else if c.toNat < 0x10000 then 'u' :: upperHex 4 c.toNat
      else 'U' :: upperHex 8 c.toNat) := by
  simp only [letterEscapes, List.mem_cons, List.not_mem_nil, or_false, not_or] at noLetter
  simp only [escaped, noLetter, if_false, or_self]

/-- **An escape is read as its character**, whichever of its forms it has. -/
theorem escape_escaped (c : Char) : ∃ form, escaped c = '\\' :: form ∧
    Gives escape (form ++ rest) [c] rest := by
  by_cases isLetter : c ∈ letterEscapes
  · obtain ⟨letter, -, form, means⟩ := escaped_letter c isLetter
    exact ⟨[letter], form, escape_letter means⟩
  · rw [escaped_number isLetter]
    refine ⟨_, rfl, ?_⟩
    have inRange := toNat_lt c
    split
    next small => exact escape_number rfl rfl small
    next =>
      split
      next small => exact escape_number rfl rfl small
      next => exact escape_number rfl rfl (Nat.lt_trans inRange (by decide))

/-- An escaped line break means nothing, with the indentation after it. -/
theorem escape_fold (ink : ∃ c more, rest = c :: more ∧ IsInk c) :
    Gives escape (continuation ++ rest) [] rest := by
  intro cursor here
  have first : cursor.peek = some '\n' := by rw [Cursor.peek, here]; rfl
  have size : cursor.bound = rest.length + 5 := by rw [Cursor.bound, here]; rfl
  have after : cursor.takeBreak.2.rest = ' ' :: ' ' :: rest := by
    obtain ⟨_, index, line, column⟩ := cursor
    cases here
    exact congrArg (fun taken => taken.2.rest) (Cursor.takeBreak_lineFeed _ _ _ _)
  obtain ⟨last, left, read⟩ := breaks_indented ink (rest.length + 5)
    (Nat.add_lt_add_left (by decide : 2 < 5) _) _ after
  refine ⟨last, left, ?_⟩
  unfold escape
  rw [first, size]
  exact read

end Escapes

/-! ### Texts -/

section Rest

variable {written text rest : List Char}

theorem inside_escaped (c : Char) (inside : Inside true written text rest) :
    Inside true (escaped c ++ written) (c :: text) rest := by
  obtain ⟨form, same, escapes⟩ := escape_escaped c
  rw [same]
  exact .escape rfl escapes (by simp) inside

theorem inside_escapedSpace (inside : Inside true written text rest) :
    Inside true ('\\' :: ' ' :: written) (' ' :: text) rest :=
  .escape rfl (escape_letter rfl) (Nat.le_succ _) inside

theorem inside_escapedFold (ink : ∃ c more, written = c :: more ∧ IsInk c)
    (inside : Inside true written text rest) :
    Inside true ('\\' :: continuation ++ written) text rest :=
  .escape rfl (escape_fold ink) (Nat.le_add_right _ 3) inside

/-- What is written for a text that does not begin with a space begins with ink. -/
theorem ink_doubleRest {text : List Char} (visible : text.head? ≠ some ' ') (first broken : Bool)
    (column : Nat) :
    ∃ c more, doubleRest first broken column text ++ '"' :: rest = c :: more ∧ IsInk c := by
  cases text with
  | nil => exact ⟨_, _, rfl, by decide⟩
  | cons c text =>
    unfold doubleRest
    dsimp only
    split
    next own =>
      split
      · exact ⟨_, _, rfl, by decide⟩
      · exact ⟨_, _, rfl, isInk_of_isPrintableAscii own.1 fun space => visible (by rw [space]; rfl)⟩
    next =>
      split
      · exact ⟨_, _, rfl, by decide⟩
      · exact ⟨_, _, rfl, by decide⟩

theorem solid_doubleRest (text : List Char) (first broken : Bool) (column : Nat) :
    Solid (doubleRest first broken column text ++ '"' :: rest) := by
  induction text generalizing first broken column with
  | nil => exact solid_cons_ink (by decide) rest
  | cons c text ih =>
    by_cases space : c = ' '
    · subst space
      unfold doubleRest
      rw [if_pos (by decide)]
      split
      · exact solid_cons_ink (by decide) _
      · exact solid_cons_space (ih _ _ _)
    · have visible : (c :: text).head? ≠ some ' ' := fun head => space (Option.some.inj head)
      obtain ⟨d, more, begins, ink⟩ := ink_doubleRest visible first broken column
      rw [begins]
      exact solid_cons_ink ink more

/-- **What is written between double quotes is read as the text.** -/
theorem inside_doubleRest (text : List Char) (first broken : Bool) (column : Nat) :
    Inside true (doubleRest first broken column text ++ '"' :: rest) text rest := by
  induction text generalizing first broken column with
  | nil => exact .close rfl nofun
  | cons c text ih =>
    unfold doubleRest
    dsimp only
    split
    next own =>
      have isOwn : c ≠ ' ' → IsOwn true c := fun visible =>
        ⟨isInk_of_isPrintableAscii own.1 visible, own.2.1, fun _ => own.2.2⟩
      by_cases space : c = ' '
      · subst space
        split
        · rw [List.append_assoc, List.append_assoc]
          exact inside_escapedFold ⟨_, _, rfl, by decide⟩ (inside_escapedSpace (ih _ _ _))
        · exact .space (solid_doubleRest _ _ _ _) (ih _ _ _)
      · split
        · rw [List.append_assoc, List.append_assoc]
          exact inside_escapedFold ⟨_, _, rfl, (isOwn space).1⟩ (.char (isOwn space) (ih _ _ _))
        · exact .char (isOwn space) (ih _ _ _)
    next =>
      split
      next =>
        rw [List.append_assoc, List.append_assoc]
        refine inside_escaped c ?_
        split
        next space =>
          -- The line is too short to end again, so the space stands after its backslash.
          obtain ⟨more, rfl⟩ := List.head?_eq_some_iff.mp space
          have begins : doubleRest false true 3 (' ' :: more) =
              ' ' :: doubleRest false false 4 more := by
            simp [doubleRest, isPrintableAscii, lineWidth]
          have later := ih false true 3
          rw [begins] at later ⊢
          obtain ⟨_, same, inside, -⟩ := later.of_space
          rw [same]
          exact inside_escapedFold ⟨_, _, rfl, by decide⟩ (inside_escapedSpace inside)
        next visible =>
          exact inside_escapedFold (ink_doubleRest visible _ _ _) (ih _ _ _)
      next =>
        rw [List.append_assoc]
        exact inside_escaped c (ih _ _ _)

end Rest

/-- **Every text in double quotes reads back.** -/
theorem doubleQuoted_reads (text : List Char) (column : Nat) (rest : List Char) :
    Gives (quotedScalar true) (doubleQuoted column text ++ rest) text rest := by
  have inside : Inside true (doubleRest true false (column + 1) text ++ '"' :: rest) text rest :=
    inside_doubleRest text true false (column + 1)
  have written : doubleQuoted column text ++ rest =
      '"' :: (doubleRest true false (column + 1) text ++ '"' :: rest) := by
    rw [doubleQuoted, List.append_assoc]
    rfl
  rw [written]
  exact inside.scalar

end Yaml

end TypeSchema
