/-
**Escapes in string literals.**

* `Spells`: the ways of writing a character between quotes;
* `unescapes_flatten`: **characters that are written next to each other are decoded one by one**,
  whatever stands behind them;
* `exists_unescapes_iff`: **the inside of a string literal denotes a text** unless it has a large
  escape, one in braces whose number is above the last code point.
-/

import Mathlib.Algebra.Group.Nat.Defs
import Mathlib.Data.List.Induction
import Mathlib.Data.List.TakeWhile
import Mathlib.Tactic.SplitIfs
import TypeSchema.Proofs.TypeExpr.Meaning

namespace TypeSchema

variable {quote c letter : Char} {piece body digits rest text : List Char}
  {value : List CodePoint} {codePoint width : Nat}

/-- The letters that stand for other characters after a backslash. -/
def controlLetters : List (Char × Char) :=
  [('n', '\n'), ('t', '\t'), ('r', '\r'), ('b', '\x08'), ('f', '\x0c'), ('v', '\x0b'),
    ('0', '\x00')]

/-- Digits of a code point. -/
structure AreDigits (digits : List Char) (codePoint : Nat) : Prop where
  each : ∀ d ∈ digits, isHexDigit d
  value : hexValue digits = codePoint

/-- The ways of writing a character between quotes. -/
inductive Spells (quote c : Char) : List Char → Prop
  | raw (notQuote : c ≠ quote) (notEscape : c ≠ '\\') (notLine : c ≠ '\n') : Spells quote c [c]
  | letter {letter : Char} (stands : (letter, c) ∈ controlLetters) : Spells quote c ['\\', letter]
  | byte {digits : List Char} (two : digits.length = 2) (areDigits : AreDigits digits c.toNat) :
      Spells quote c ('\\' :: 'x' :: digits)
  | unit {digits : List Char} (four : digits.length = 4) (areDigits : AreDigits digits c.toNat) :
      Spells quote c ('\\' :: 'u' :: digits)
  | braces {digits : List Char} (some_ : digits ≠ []) (areDigits : AreDigits digits c.toNat) :
      Spells quote c ('\\' :: 'u' :: '\x7b' :: (digits ++ ['\x7d']))
  | itself (notLine : c ≠ '\n') (noLetter : c ∉ "ntrbfv0xu".toList) : Spells quote c ['\\', c]

/-! ### Escapes by number -/

theorem takeWhile_digits (each : ∀ d ∈ digits, isHexDigit d) (rest : List Char) :
    digits.length ≤ ((digits ++ rest).takeWhile isHexDigit).length ∧
      ((digits ++ rest).takeWhile isHexDigit).take digits.length = digits := by
  rw [List.takeWhile_append_of_pos each, List.length_append]
  exact ⟨Nat.le_add_right _ _, List.take_left⟩

theorem numberEscape?_byte (each : ∀ d ∈ digits, isHexDigit d) (two : digits.length = 2)
    (rest : List Char) : numberEscape? 'x' (digits ++ rest) = some (hexValue digits, 2) := by
  obtain ⟨enough, taken⟩ := takeWhile_digits each rest
  rw [two] at enough taken
  rw [numberEscape?, if_neg (by simp), if_neg (by simp), if_pos ⟨rfl, enough⟩, taken]

theorem numberEscape?_unit (each : ∀ d ∈ digits, isHexDigit d) (four : digits.length = 4)
    (rest : List Char) : numberEscape? 'u' (digits ++ rest) = some (hexValue digits, 4) := by
  obtain ⟨enough, taken⟩ := takeWhile_digits each rest
  have noBrace : ¬ ('u' = 'u' ∧ (digits ++ rest).head? = some '\x7b') := by
    rintro ⟨-, first⟩
    obtain ⟨d, more, rfl⟩ := List.exists_cons_of_length_eq_add_one four
    cases first
    cases each _ List.mem_cons_self
  rw [four] at enough taken
  rw [numberEscape?, if_neg noBrace, if_pos ⟨rfl, enough⟩, taken]

theorem numberEscape?_braces (each : ∀ d ∈ digits, isHexDigit d) (some_ : digits ≠ [])
    (rest : List Char) : numberEscape? 'u' ('\x7b' :: (digits ++ '\x7d' :: rest)) =
      some (hexValue digits, digits.length + 2) := by
  have inside : (digits ++ '\x7d' :: rest).takeWhile isHexDigit = digits := by
    rw [List.takeWhile_append_of_pos each, List.takeWhile_cons_of_neg (by decide), List.append_nil]
  rw [numberEscape?, if_pos ⟨rfl, rfl⟩, List.tail_cons, inside]
  dsimp only
  rw [List.drop_left, if_pos ⟨some_, rfl⟩]

theorem numberEscape?_other (noUnit : letter ≠ 'u') (noByte : letter ≠ 'x') (text : List Char) :
    numberEscape? letter text = none := by
  simp [numberEscape?, noUnit, noByte]

theorem hexDigit?_lt {digit : Nat} (isDigit : hexDigit? c = some digit) : digit < 16 := by
  rw [hexDigit?] at isDigit
  split_ifs at isDigit with decimal lower upper
  all_goals
    cases isDigit
  · have atMost : c.toNat ≤ 0x39 := decimal.2
    omega
  · have atMost : c.toNat ≤ 0x66 := lower.2
    omega
  · have atMost : c.toNat ≤ 0x46 := upper.2
    omega

/-- A number has at most four bits for each of its digits. -/
theorem hexValue_lt (digits : List Char) : hexValue digits < 16 ^ digits.length := by
  induction digits using List.reverseRecOn with
  | nil => exact Nat.one_pos
  | append_singleton digits d ih =>
    have last : (hexDigit? d).getD 0 < 16 := by
      cases isDigit : hexDigit? d with
      | none => exact Nat.succ_pos 15
      | some digit => exact hexDigit?_lt isDigit
    rw [hexValue, List.foldl_append, ← hexValue, List.length_append, List.length_singleton,
      Nat.pow_succ, List.foldl_cons, List.foldl_nil]
    omega

/-- A number in an escape takes up digits and braces. It is a short one, or it stands in braces. -/
theorem numberEscape?_eq_some (found : numberEscape? letter text = some (codePoint, width)) :
    (∀ c ∈ text.take width, isHexDigit c ∨ c = '\x7b' ∨ c = '\x7d') ∧
      (codePoint < 0x10000 ∨ letter = 'u' ∧ ∃ digits rest, digits ≠ [] ∧
        AreDigits digits codePoint ∧ text = '\x7b' :: (digits ++ '\x7d' :: rest)) := by
  have plain (count : Nat) (enough : count ≤ (text.takeWhile isHexDigit).length) :
      (∀ c ∈ text.take count, isHexDigit c ∨ c = '\x7b' ∨ c = '\x7d') ∧
        hexValue ((text.takeWhile isHexDigit).take count) < 16 ^ count := by
    have same : (text.takeWhile isHexDigit).take count = text.take count := by
      conv_rhs => rw [← List.takeWhile_append_dropWhile (p := isHexDigit) (l := text)]
      rw [List.take_append_of_le_length enough]
    refine ⟨fun c member => .inl ?_, ?_⟩
    · rw [← same] at member
      exact List.mem_takeWhile_imp (List.mem_of_mem_take member)
    · have bound := hexValue_lt ((text.takeWhile isHexDigit).take count)
      rwa [List.length_take_of_le enough] at bound
  rw [numberEscape?] at found
  dsimp only at found
  split_ifs at found with opens closes unit byte
  · cases found
    obtain ⟨rfl, first⟩ := opens
    obtain ⟨more, rfl⟩ := List.head?_eq_some_iff.mp first
    rw [List.tail_cons] at closes ⊢
    obtain ⟨some_, last⟩ := closes
    obtain ⟨rest, isRest⟩ := List.head?_eq_some_iff.mp last
    have parts : more = more.takeWhile isHexDigit ++ '\x7d' :: rest := by
      have front := List.prefix_iff_eq_take.mp (List.takeWhile_prefix (l := more) isHexDigit)
      conv_lhs => rw [← List.take_append_drop (more.takeWhile isHexDigit).length more, isRest]
      rw [← front]
    have each : ∀ d ∈ more.takeWhile isHexDigit, isHexDigit d := fun d => List.mem_takeWhile_imp
    refine ⟨?_, .inr ⟨rfl, _, rest, some_, ⟨each, rfl⟩, congrArg _ parts⟩⟩
    generalize more.takeWhile isHexDigit = digits at parts each
    have taken : ('\x7b' :: more).take (digits.length + 2) = '\x7b' :: (digits ++ ['\x7d']) := by
      rw [parts, List.take_succ_cons, List.take_length_add_append]
      rfl
    rw [taken]
    refine List.forall_mem_cons.mpr ⟨by simp, List.forall_mem_append.mpr ⟨?_, by simp⟩⟩
    exact fun d member => .inl (each d member)
  · cases found
    obtain ⟨each, short⟩ := plain 4 unit.2
    exact ⟨each, .inl short⟩
  · cases found
    obtain ⟨each, short⟩ := plain 2 byte.2
    exact ⟨each, .inl (Nat.lt_trans short (by decide))⟩

/-- No backslash stands inside the number of an escape. -/
theorem numberEscape?_noEscape (found : numberEscape? letter text = some (codePoint, width)) :
    '\\' ∉ text.take width := by
  intro member
  have number := (numberEscape?_eq_some found).1 _ member
  revert number
  decide

/-! ### Decoding what is written -/

theorem Spells.unescapes (spells : Spells quote c piece) (denotes : Unescapes rest value) :
    Unescapes (piece ++ rest) (.ofChar c :: value) := by
  have numbered {letter : Char} {tail : List Char} {width : Nat}
      (found : numberEscape? letter tail = some (c.toNat, width))
      (more : Unescapes (tail.drop width) value) :
      Unescapes ('\\' :: letter :: tail) (.ofChar c :: value) :=
    .number found (CodePoint.ofChar c).isLt more
  cases spells with
  | raw notQuote notEscape => exact .plain (absurd · notEscape) denotes
  | @letter letter stands =>
    have control : ∀ pair ∈ controlLetters,
        pair.1 ≠ 'u' ∧ pair.1 ≠ 'x' ∧ escapeLetter pair.1 = pair.2 := by decide
    obtain ⟨noUnit, noByte, same⟩ := control _ stands
    have same : escapeLetter letter = c := same
    rw [← same]
    exact .letter (numberEscape?_other noUnit noByte rest) denotes
  | @byte digits two areDigits =>
    have found := numberEscape?_byte areDigits.each two rest
    rw [areDigits.value] at found
    rw [List.cons_append, List.cons_append]
    refine numbered found ?_
    rwa [← two, List.drop_left]
  | @unit digits four areDigits =>
    have found := numberEscape?_unit areDigits.each four rest
    rw [areDigits.value] at found
    rw [List.cons_append, List.cons_append]
    refine numbered found ?_
    rwa [← four, List.drop_left]
  | @braces digits some_ areDigits =>
    have found := numberEscape?_braces areDigits.each some_ rest
    rw [areDigits.value] at found
    have parts : '\\' :: 'u' :: '\x7b' :: (digits ++ ['\x7d']) ++ rest =
        '\\' :: 'u' :: '\x7b' :: (digits ++ '\x7d' :: rest) := by simp
    rw [parts]
    refine numbered found ?_
    rwa [List.drop_succ_cons, List.drop_length_add_append]
  | itself notLine noLetter =>
    have other (d : Char) (isLetter : d ∈ "ntrbfv0xu".toList) : c ≠ d := by
      rintro rfl
      exact noLetter isLetter
    have same : escapeLetter c = c := by
      simp only [escapeLetter, other 'n' (by decide), other 't' (by decide), other 'r' (by decide),
        other 'b' (by decide), other 'f' (by decide), other 'v' (by decide), other '0' (by decide),
        if_false]
    have noNumber := numberEscape?_other (other 'u' (by decide)) (other 'x' (by decide)) rest
    have whole := Unescapes.letter noNumber denotes
    rwa [same] at whole

/-- **Characters that are written next to each other are decoded one by one.** -/
theorem unescapes_flatten {pieces : List (List Char)}
    (spelled : List.Forall₂ (Spells quote) text pieces) :
    Unescapes pieces.flatten (pointsOf text) := by
  induction spelled with
  | nil => exact .nil
  | cons spells _ ih => exact spells.unescapes ih

/-! ### The inside of a string literal -/

theorem IsStringBody.append_plain (plain : ∀ d ∈ piece, d ≠ quote ∧ d ≠ '\\' ∧ d ≠ '\n')
    (isBody : IsStringBody quote rest) : IsStringBody quote (piece ++ rest) := by
  induction piece with
  | nil => exact isBody
  | cons d piece ih =>
    obtain ⟨⟨notQuote, notEscape, notLine⟩, plain⟩ := List.forall_mem_cons.mp plain
    exact .plain notQuote notEscape notLine (ih plain)

/-- Digits and braces are plain characters between quotes. -/
theorem plain_of_isHexDigit (isQuote : quote = '"' ∨ quote = '\'')
    (number : isHexDigit c ∨ c = '\x7b' ∨ c = '\x7d') : c ≠ quote ∧ c ≠ '\\' ∧ c ≠ '\n' := by
  refine ⟨?_, ?_, ?_⟩
  · rintro rfl
    rcases isQuote with rfl | rfl <;> revert number <;> decide
  · rintro rfl
    revert number
    decide
  · rintro rfl
    revert number
    decide

theorem Spells.isStringBody (isQuote : quote = '"' ∨ quote = '\'')
    (spells : Spells quote c piece) (isBody : IsStringBody quote rest) :
    IsStringBody quote (piece ++ rest) := by
  have digitsBody {digits more : List Char} (areDigits : AreDigits digits c.toNat)
      (isBody : IsStringBody quote more) : IsStringBody quote (digits ++ more) :=
    .append_plain (fun d member => plain_of_isHexDigit isQuote (.inl (areDigits.each d member)))
      isBody
  cases spells with
  | raw notQuote notEscape notLine => exact .plain notQuote notEscape notLine isBody
  | letter stands =>
    have visible : ∀ pair ∈ controlLetters, pair.1 ≠ '\n' := by decide
    exact .escaped (visible _ stands) isBody
  | byte two areDigits => exact .escaped (by decide) (digitsBody areDigits isBody)
  | unit four areDigits => exact .escaped (by decide) (digitsBody areDigits isBody)
  | braces some_ areDigits =>
    have brace (d : Char) (isBrace : d = '\x7b' ∨ d = '\x7d') :=
      plain_of_isHexDigit isQuote (.inr isBrace)
    obtain ⟨notQuote, notEscape, notLine⟩ := brace '\x7b' (.inl rfl)
    obtain ⟨notQuote', notEscape', notLine'⟩ := brace '\x7d' (.inr rfl)
    rw [List.cons_append, List.cons_append, List.cons_append, List.append_assoc]
    exact .escaped (by decide) (.plain notQuote notEscape notLine
      (digitsBody areDigits (.plain notQuote' notEscape' notLine' isBody)))
  | itself notLine => exact .escaped notLine isBody

theorem isStringBody_flatten (isQuote : quote = '"' ∨ quote = '\'') {pieces : List (List Char)}
    (spelled : List.Forall₂ (Spells quote) text pieces) : IsStringBody quote pieces.flatten := by
  induction spelled with
  | nil => exact .nil
  | cons spells _ ih => exact spells.isStringBody isQuote ih

/-! ### Large escapes -/

/-- The inside of a string literal has an escape in braces whose number is above the last code
point. The escape begins where neither a character nor another escape is under way. -/
def HasLargeEscape (quote : Char) (body : List Char) : Prop :=
  ∃ front digits rest, IsStringBody quote front ∧ digits ≠ [] ∧ (∀ d ∈ digits, isHexDigit d) ∧
    0x10FFFF < hexValue digits ∧
    body = front ++ '\\' :: 'u' :: '\x7b' :: (digits ++ '\x7d' :: rest)

/-- Behind plain characters the rest of the inside goes on. -/
theorem IsStringBody.drop (isBody : IsStringBody quote text)
    (noEscape : '\\' ∉ text.take width) : IsStringBody quote (text.drop width) := by
  induction width generalizing text with
  | zero => exact isBody
  | succ width ih =>
    cases isBody with
    | nil => exact .nil
    | plain notQuote notEscape notLine isBody =>
      rw [List.take_succ_cons, List.mem_cons, not_or] at noEscape
      exact ih isBody noEscape.2
    | escaped => simp at noEscape

/-- A large escape makes the literal denote nothing. -/
theorem not_hasLargeEscape_of_unescapes (denotes : Unescapes body value) :
    ¬ HasLargeEscape quote body := by
  rintro ⟨front, digits, rest, isBody, some_, each, above, same⟩
  have found := numberEscape?_braces each some_ rest
  induction denotes generalizing front with
  | nil => cases List.append_ne_nil_of_right_ne_nil front (List.cons_ne_nil _ _) same.symm
  | plain notEscape more ih =>
    -- The backslash of the escape is not the last character, and no escaped one is.
    cases isBody with
    | nil =>
      cases same
      cases notEscape rfl
    | plain _ _ _ isBody =>
      cases same
      exact ih _ isBody rfl
    | escaped =>
      cases same
      cases notEscape rfl
  | letter noNumber more ih =>
    cases isBody with
    | nil =>
      cases same
      rw [found] at noNumber
      cases noNumber
    | plain _ notEscape => exact notEscape (List.cons.inj same).1.symm
    | escaped _ isBody =>
      cases same
      exact ih _ isBody rfl
  | @number letter tail value codePoint width isNumber inRange more ih =>
    cases isBody with
    | nil =>
      cases same
      rw [found] at isNumber
      cases isNumber
      omega
    | plain _ notEscape => exact notEscape (List.cons.inj same).1.symm
    | @escaped d front _ isBody =>
      rw [List.cons_append, List.cons_append] at same
      obtain ⟨rfl, rfl⟩ := List.cons.inj (List.cons.inj same).2
      -- The number ends before the backslash of the escape.
      have noEscape := numberEscape?_noEscape isNumber
      have short : width ≤ front.length := by
        by_contra long
        rw [List.take_append, List.mem_append, not_or] at noEscape
        obtain ⟨more, positive⟩ := Nat.exists_eq_add_one_of_ne_zero
          (show width - front.length ≠ 0 by omega)
        rw [positive, List.take_succ_cons] at noEscape
        exact noEscape.2 List.mem_cons_self
      rw [List.take_append_of_le_length short] at noEscape
      exact ih (front.drop width) (isBody.drop noEscape) (List.drop_append_of_le_length short)

/-- What stands in front of a large escape may be longer. -/
theorem HasLargeEscape.behind (large : HasLargeEscape quote rest)
    (front : ∀ {more}, IsStringBody quote more → IsStringBody quote (piece ++ more)) :
    HasLargeEscape quote (piece ++ rest) := by
  obtain ⟨inner, digits, more, isBody, some_, each, above, rfl⟩ := large
  exact ⟨piece ++ inner, digits, more, front isBody, some_, each, above,
    (List.append_assoc ..).symm⟩

/-- Without large escapes a literal denotes a text. -/
theorem exists_unescapes (isQuote : quote = '"' ∨ quote = '\'') (isBody : IsStringBody quote body)
    (noLarge : ¬ HasLargeEscape quote body) : ∃ value, Unescapes body value := by
  fun_induction unescape body with
  | case1 => exact ⟨[], .nil⟩
  | case2 letter rest codePoint width isNumber ih =>
    cases isBody with
    | plain _ notEscape => exact absurd rfl notEscape
    | escaped notLine isBody =>
      obtain ⟨each, isShort⟩ := numberEscape?_eq_some isNumber
      have inRange : codePoint < 0x110000 := by
        rcases isShort with short | ⟨rfl, digits, more, some_, areDigits, rfl⟩
        · omega
        · by_contra large
          exact noLarge ⟨[], digits, more, .nil, some_, areDigits.each,
            by rw [areDigits.value]; omega, rfl⟩
      have whole : ('\\' :: letter :: rest.take width) ++ rest.drop width =
          '\\' :: letter :: rest := by
        rw [List.cons_append, List.cons_append, List.take_append_drop]
      rw [← whole] at noLarge
      obtain ⟨value, denotes⟩ := ih (isBody.drop (numberEscape?_noEscape isNumber)) fun large =>
        noLarge (large.behind fun more => .escaped notLine
          (more.append_plain fun d member => plain_of_isHexDigit isQuote (each d member)))
      exact ⟨_, .number isNumber inRange denotes⟩
  | case3 letter rest noNumber ih =>
    cases isBody with
    | plain _ notEscape => exact absurd rfl notEscape
    | escaped notLine isBody =>
      obtain ⟨value, denotes⟩ := ih isBody fun large =>
        noLarge (@large.behind _ ['\\', letter] _ fun more => .escaped notLine more)
      exact ⟨_, .letter noNumber denotes⟩
  | case4 c rest notEscape ih =>
    cases isBody with
    | plain notQuote noEscape notLine isBody =>
      obtain ⟨value, denotes⟩ := ih isBody fun large =>
        noLarge (@large.behind _ [c] _ fun more => .plain notQuote noEscape notLine more)
      exact ⟨_, .plain (absurd · noEscape) denotes⟩
    | escaped => cases notEscape _ _ rfl rfl

/-- **The inside of a string literal denotes a text** unless it has a large escape. -/
theorem exists_unescapes_iff (isQuote : quote = '"' ∨ quote = '\'')
    (isBody : IsStringBody quote body) :
    (∃ value, Unescapes body value) ↔ ¬ HasLargeEscape quote body :=
  ⟨fun ⟨_, denotes⟩ => not_hasLargeEscape_of_unescapes denotes, exists_unescapes isQuote isBody⟩

end TypeSchema
