/-
**The longest lexeme of a kind.**

`width?` takes a lexeme of its kind off a text (`exists_lexeme`), and no other one is longer
(`exists_width`).
-/

import Mathlib.Data.List.TakeWhile
import TypeSchema.Proofs.TypeExpr.Grammar

namespace TypeSchema

/-- A run of characters of one class goes no further than the first character outside of it. -/
theorem length_le_takeWhile {p : Char → Bool} {run text : List Char} (each : ∀ c ∈ run, p c)
    (front : run <+: text) : run.length ≤ (text.takeWhile p).length := by
  obtain ⟨rest, rfl⟩ := front
  rw [List.takeWhile_append_of_pos each, List.length_append]
  exact Nat.le_add_right _ _

theorem length_dropWhile_le {p : Char → Bool} (text : List Char) :
    (text.dropWhile p).length ≤ text.length :=
  (List.dropWhile_sublist p).length_le

/-! ### String literals -/

variable {quote : Char} {text body rest : List Char}

theorem exists_body {width : Nat} (read : stringRest? quote text = some width) :
    ∃ body rest, IsStringBody quote body ∧ text = body ++ quote :: rest ∧
      width = body.length + 1 := by
  fun_induction stringRest? quote text generalizing width with
  | case1 => cases read
  | case2 => cases read
  | case3 c text notLine ih =>
    obtain ⟨inner, isInner, rfl⟩ := Option.map_eq_some_iff.mp read
    obtain ⟨body, rest, isBody, rfl, rfl⟩ := ih isInner
    exact ⟨'\\' :: c :: body, rest, .escaped notLine isBody, rfl, rfl⟩
  | case4 text =>
    cases read
    exact ⟨[], text, .nil, rfl, rfl⟩
  | case5 => cases read
  | case6 c text noEscape notQuote plain ih =>
    obtain ⟨inner, isInner, rfl⟩ := Option.map_eq_some_iff.mp read
    obtain ⟨body, rest, isBody, rfl, rfl⟩ := ih isInner
    obtain ⟨notLine, notEscape⟩ := not_or.mp plain
    exact ⟨c :: body, rest, .plain notQuote notEscape notLine isBody, rfl, rfl⟩

theorem stringRest_eq_some (isQuote : quote = '"' ∨ quote = '\'')
    (isBody : IsStringBody quote body) :
    stringRest? quote (body ++ quote :: rest) = some (body.length + 1) := by
  have notEscape : quote ≠ '\\' := by rcases isQuote with rfl | rfl <;> decide
  induction isBody with
  | nil =>
    rw [List.nil_append, stringRest?]
    · exact if_pos rfl
    · rintro c text rfl rfl
      exact notEscape rfl
  | @plain c more notQuote notEscape' notLine _ ih =>
    rw [List.cons_append, stringRest?, if_neg notQuote,
      if_neg (not_or.mpr ⟨notLine, notEscape'⟩), ih]
    · rfl
    · rintro _ _ rfl
      exact absurd rfl notEscape'
  | @escaped c more notLine _ ih =>
    rw [List.cons_append, List.cons_append, stringRest?, if_neg notLine, ih]
    rfl

/-! ### Numerals -/

theorem isDigits_takeWhile (some_ : text.takeWhile isDecimalDigit ≠ []) :
    IsDigits (text.takeWhile isDecimalDigit) :=
  ⟨some_, fun _ member => List.mem_takeWhile_imp member⟩

theorem exists_exponent (text : List Char) :
    ∃ exponent, IsExponent exponent ∧ text = exponent ++ (Numeral.readExponent text).2 := by
  unfold Numeral.readExponent
  split
  all_goals try split
  · rename_i mark rest read
    simp only [Bool.and_eq_true, Bool.or_eq_true, beq_iff_eq, bne_iff_ne] at read
    refine ⟨_, .signed read.1 (.inr rfl) (isDigits_takeWhile read.2), ?_⟩
    simp
  · exact ⟨[], .none, rfl⟩
  · rename_i mark rest read
    simp only [Bool.and_eq_true, Bool.or_eq_true, beq_iff_eq, bne_iff_ne] at read
    refine ⟨_, .signed read.1 (.inl rfl) (isDigits_takeWhile read.2), ?_⟩
    simp
  · exact ⟨[], .none, rfl⟩
  · rename_i mark rest _ _ read
    simp only [Bool.and_eq_true, Bool.or_eq_true, beq_iff_eq, bne_iff_ne] at read
    refine ⟨_, .unsigned read.1 (isDigits_takeWhile read.2), ?_⟩
    simp
  · exact ⟨[], .none, rfl⟩
  · exact ⟨[], .none, rfl⟩

/-- Reading an exponent goes as far as an exponent does. -/
theorem length_readExponent_le {exponent : List Char} (isExponent : IsExponent exponent) :
    (Numeral.readExponent (exponent ++ rest)).2.length ≤ rest.length := by
  have read (digits : List Char) (isDigits : IsDigits digits) :
      ((digits ++ rest).takeWhile isDecimalDigit ≠ []) ∧
        ((digits ++ rest).dropWhile isDecimalDigit).length ≤ rest.length := by
    rw [List.takeWhile_append_of_pos isDigits.2, List.dropWhile_append_of_pos isDigits.2]
    exact ⟨by simp [isDigits.1], length_dropWhile_le rest⟩
  cases isExponent with
  | none =>
    obtain ⟨exponent, -, same⟩ := exists_exponent rest
    have := congrArg List.length same
    simp only [List.length_append] at this
    simp only [List.nil_append]
    omega
  | @unsigned mark digits isMark isDigits =>
    obtain ⟨some_, short⟩ := read digits isDigits
    have mark' : (mark == 'e' || mark == 'E') = true := by
      simpa using isMark
    rw [List.cons_append, Numeral.readExponent]
    · simp only [mark', Bool.true_and, bne_iff_ne, ne_eq, some_, not_false_eq_true, if_true]
      exact short
    · intro more same
      rw [same] at some_
      exact some_ (List.takeWhile_cons_of_neg (by decide))
    · intro more same
      rw [same] at some_
      exact some_ (List.takeWhile_cons_of_neg (by decide))
  | @signed mark sign digits isMark isSign isDigits =>
    obtain ⟨some_, short⟩ := read digits isDigits
    have mark' : (mark == 'e' || mark == 'E') = true := by
      simpa using isMark
    rcases isSign with rfl | rfl
    · rw [List.cons_append, List.cons_append, Numeral.readExponent]
      simp only [mark', Bool.true_and, bne_iff_ne, ne_eq, some_, not_false_eq_true, if_true]
      exact short
    · rw [List.cons_append, List.cons_append, Numeral.readExponent]
      simp only [mark', Bool.true_and, bne_iff_ne, ne_eq, some_, not_false_eq_true, if_true]
      exact short

theorem readExponent_le (text : List Char) :
    (Numeral.readExponent text).2.length ≤ text.length := by
  obtain ⟨exponent, -, same⟩ := exists_exponent text
  have longer := congrArg List.length same
  rw [List.length_append] at longer
  omega

/-- No digit begins an exponent, so digits before it end where it begins. -/
theorem length_readExponent_dropWhile_le {exponent : List Char} (isExponent : IsExponent exponent) :
    (Numeral.readExponent ((exponent ++ rest).dropWhile isDecimalDigit)).2.length ≤
      rest.length := by
  have notDigit {mark : Char} (isMark : mark = 'e' ∨ mark = 'E') :
      ¬ isDecimalDigit mark = true := by
    rcases isMark with rfl | rfl <;> decide
  cases isExponent with
  | none => exact Nat.le_trans (readExponent_le _) (length_dropWhile_le rest)
  | unsigned isMark isDigits =>
    rw [List.cons_append, List.dropWhile_cons_of_neg (notDigit isMark)]
    exact length_readExponent_le (.unsigned isMark isDigits)
  | signed isMark isSign isDigits =>
    rw [List.cons_append, List.dropWhile_cons_of_neg (notDigit isMark)]
    exact length_readExponent_le (.signed isMark isSign isDigits)

theorem exists_unsigned {numeral : Numeral}
    (read : Numeral.readUnsigned? text = some (numeral, rest)) :
    ∃ mantissa exponent, IsMantissa mantissa ∧ IsExponent exponent ∧
      text = mantissa ++ (exponent ++ rest) := by
  have parts : text.takeWhile isDecimalDigit ++ text.dropWhile isDecimalDigit = text :=
    List.takeWhile_append_dropWhile
  unfold Numeral.readUnsigned? at read
  simp only at read
  split at read
  · rename_i after same
    have moreParts : after.takeWhile isDecimalDigit ++ after.dropWhile isDecimalDigit = after :=
      List.takeWhile_append_dropWhile
    split at read
    · cases read
    · rename_i digits
      cases read
      obtain ⟨exponent, isExponent, rest'⟩ := exists_exponent (after.dropWhile isDecimalDigit)
      refine ⟨text.takeWhile isDecimalDigit ++ '.' :: after.takeWhile isDecimalDigit, exponent,
        ?_, isExponent, ?_⟩
      · by_cases noWhole : text.takeWhile isDecimalDigit = []
        · rw [noWhole, List.nil_append]
          exact .fraction (isDigits_takeWhile fun noFraction => digits ⟨noWhole, noFraction⟩)
        · exact .point (isDigits_takeWhile noWhole) fun _ member => List.mem_takeWhile_imp member
      · rw [List.append_assoc, List.cons_append, ← rest', moreParts, ← same, parts]
  · split at read
    · cases read
    · rename_i whole
      cases read
      obtain ⟨exponent, isExponent, rest'⟩ := exists_exponent (text.dropWhile isDecimalDigit)
      refine ⟨_, exponent, .integer (isDigits_takeWhile whole), isExponent, ?_⟩
      rw [← rest', parts]

theorem readExponent_point (more : List Char) :
    Numeral.readExponent ('.' :: more) = (none, '.' :: more) := by
  unfold Numeral.readExponent
  split
  case h_4 same => cases same
  all_goals
    rename_i same
    cases same
    rfl

theorem readUnsigned_of_digits (digits : text.takeWhile isDecimalDigit ≠ []) :
    ∃ numeral after, Numeral.readUnsigned? text = some (numeral, after) ∧
      after.length ≤ (Numeral.readExponent (text.dropWhile isDecimalDigit)).2.length := by
  unfold Numeral.readUnsigned?
  simp only
  split
  · rename_i more same
    rw [if_neg fun none => digits none.1, same, readExponent_point]
    refine ⟨_, _, rfl, Nat.le_succ_of_le ?_⟩
    exact Nat.le_trans (readExponent_le _) (length_dropWhile_le more)
  · rw [if_neg digits]
    exact ⟨_, _, rfl, Nat.le_refl _⟩

theorem readUnsigned_of_point {whole more : List Char} (each : ∀ c ∈ whole, isDecimalDigit c)
    (digits : whole ≠ [] ∨ more.takeWhile isDecimalDigit ≠ []) :
    ∃ numeral, Numeral.readUnsigned? (whole ++ '.' :: more) =
      some (numeral, (Numeral.readExponent (more.dropWhile isDecimalDigit)).2) := by
  have point : ¬ isDecimalDigit '.' = true := by decide
  unfold Numeral.readUnsigned?
  simp only [List.takeWhile_append_of_pos each, List.dropWhile_append_of_pos each,
    List.takeWhile_cons_of_neg point, List.dropWhile_cons_of_neg point, List.append_nil]
  rw [if_neg fun none => digits.elim (· none.1) (· none.2)]
  exact ⟨_, rfl⟩

/-- Reading a numeral goes as far as a numeral does. -/
theorem readUnsigned_le {mantissa exponent : List Char} (isMantissa : IsMantissa mantissa)
    (isExponent : IsExponent exponent) :
    ∃ numeral after, Numeral.readUnsigned? (mantissa ++ (exponent ++ rest)) =
      some (numeral, after) ∧ after.length ≤ rest.length := by
  have short : (Numeral.readExponent ((exponent ++ rest).dropWhile isDecimalDigit)).2.length ≤
      rest.length := length_readExponent_dropWhile_le isExponent
  cases isMantissa with
  | integer digits =>
    have some_ : (mantissa ++ (exponent ++ rest)).takeWhile isDecimalDigit ≠ [] := by
      rw [List.takeWhile_append_of_pos digits.2]
      simp [digits.1]
    obtain ⟨numeral, after, read, shorter⟩ := readUnsigned_of_digits some_
    rw [List.dropWhile_append_of_pos digits.2] at shorter
    exact ⟨numeral, after, read, Nat.le_trans shorter short⟩
  | @point whole fraction digits more =>
    obtain ⟨numeral, read⟩ : ∃ numeral, Numeral.readUnsigned? (whole ++ '.' ::
        (fraction ++ (exponent ++ rest))) = some (numeral, _) :=
      readUnsigned_of_point digits.2 (.inl digits.1)
    rw [List.dropWhile_append_of_pos more] at read
    rw [List.append_assoc, List.cons_append]
    exact ⟨numeral, _, read, short⟩
  | @fraction fraction digits =>
    have some_ : (fraction ++ (exponent ++ rest)).takeWhile isDecimalDigit ≠ [] := by
      rw [List.takeWhile_append_of_pos digits.2]
      simp [digits.1]
    obtain ⟨numeral, read⟩ : ∃ numeral, Numeral.readUnsigned? ([] ++ '.' ::
        (fraction ++ (exponent ++ rest))) = some (numeral, _) :=
      readUnsigned_of_point (by simp) (.inr some_)
    rw [List.dropWhile_append_of_pos digits.2] at read
    exact ⟨numeral, _, read, short⟩

theorem read_of_readUnsigned {result : Numeral × List Char}
    (read : Numeral.readUnsigned? text = some result) : Numeral.read? text = some result := by
  unfold Numeral.read?
  split
  · rename_i more
    have none : Numeral.readUnsigned? ('-' :: more) = none := by
      have notDigit : ¬ isDecimalDigit '-' = true := by decide
      unfold Numeral.readUnsigned?
      simp only [List.takeWhile_cons_of_neg notDigit, List.dropWhile_cons_of_neg notDigit]
      rfl
    cases none.symm.trans read
  · exact read

theorem exists_numeral {numeral : Numeral} (read : Numeral.read? text = some (numeral, rest)) :
    ∃ lexeme, Terminal.numeral.Lexeme lexeme ∧ text = lexeme ++ rest := by
  unfold Numeral.read? at read
  split at read
  · obtain ⟨⟨inner, after⟩, isInner, same⟩ := Option.map_eq_some_iff.mp read
    cases same
    obtain ⟨mantissa, exponent, isMantissa, isExponent, rfl⟩ := exists_unsigned isInner
    exact ⟨_, ⟨['-'], mantissa, exponent, .inr rfl, isMantissa, isExponent, rfl⟩, by simp⟩
  · obtain ⟨mantissa, exponent, isMantissa, isExponent, rfl⟩ := exists_unsigned read
    exact ⟨_, ⟨[], mantissa, exponent, .inl rfl, isMantissa, isExponent, rfl⟩, by simp⟩

theorem read_le {lexeme : List Char} (isNumeral : Terminal.numeral.Lexeme lexeme) :
    ∃ numeral after, Numeral.read? (lexeme ++ rest) = some (numeral, after) ∧
      after.length ≤ rest.length := by
  obtain ⟨sign, mantissa, exponent, isSign, isMantissa, isExponent, rfl⟩ := isNumeral
  obtain ⟨numeral, after, read, short⟩ := readUnsigned_le isMantissa isExponent
  rcases isSign with rfl | rfl
  · refine ⟨numeral, after, read_of_readUnsigned ?_, short⟩
    rw [List.nil_append, List.append_assoc]
    exact read
  · refine ⟨{ numeral with negative := true }, after, ?_, short⟩
    rw [List.singleton_append, List.cons_append, List.append_assoc, Numeral.read?, read]
    rfl

/-- A lexeme of a numeral is one from end to end. -/
theorem read_lexeme {lexeme : List Char} (isNumeral : Terminal.numeral.Lexeme lexeme) :
    ∃ numeral, Numeral.read? lexeme = some (numeral, []) := by
  obtain ⟨numeral, after, read, short⟩ : ∃ numeral after, Numeral.read? (lexeme ++ []) =
      some (numeral, after) ∧ after.length ≤ [].length := read_le isNumeral
  rw [List.append_nil, List.length_eq_zero_iff.mp (Nat.le_zero.mp short)] at read
  exact ⟨numeral, read⟩

/-! ### All kinds -/

variable {terminal : Terminal} {lexeme : List Char} {width : Nat}

theorem spelled_eq_some {word : List Char} :
    spelled? word text = some width ↔ word <+: text ∧ width = word.length := by
  unfold spelled?
  rw [← List.isPrefixOf_iff_prefix]
  by_cases front : word.isPrefixOf text <;> simp [front, eq_comm]

namespace Terminal

/-- What is taken off a text is a lexeme. -/
theorem exists_lexeme (read : terminal.width? text = some width) :
    ∃ lexeme, terminal.Lexeme lexeme ∧ lexeme <+: text ∧ lexeme.length = width := by
  cases terminal with
  | text =>
    cases text with
    | nil => cases read
    | cons c text =>
      have read : (if c = '"' ∨ c = '\'' then (stringRest? c text).map (· + 1) else none) =
        some width := read
      split at read
      · rename_i isQuote
        obtain ⟨inner, isInner, rfl⟩ := Option.map_eq_some_iff.mp read
        obtain ⟨body, rest, isBody, rfl, rfl⟩ := exists_body isInner
        exact ⟨_, ⟨c, body, isQuote, isBody, rfl⟩, ⟨rest, by simp⟩, by simp⟩
      · cases read
  | numeral =>
    obtain ⟨⟨numeral, rest⟩, isNumeral, rfl⟩ := Option.map_eq_some_iff.mp read
    obtain ⟨lexeme, isLexeme, rfl⟩ := exists_numeral isNumeral
    exact ⟨lexeme, isLexeme, ⟨rest, rfl⟩, by simp⟩
  | name =>
    cases text with
    | nil => cases read
    | cons c text =>
      have read : (if isNameStart c then some ((text.takeWhile isNamePart).length + 1) else none) =
        some width := read
      split at read
      · rename_i starts
        cases read
        refine ⟨_, ⟨c, _, starts, fun _ member => List.mem_takeWhile_imp member, rfl⟩, ?_, rfl⟩
        exact List.cons_prefix_cons.mpr ⟨rfl, List.takeWhile_prefix _⟩
      · cases read
  | variance =>
    rcases Option.or_eq_some_iff.mp read with plus | ⟨-, minus⟩
    · obtain ⟨front, rfl⟩ := spelled_eq_some.mp plus
      exact ⟨_, .inl rfl, front, rfl⟩
    · obtain ⟨front, rfl⟩ := spelled_eq_some.mp minus
      exact ⟨_, .inr rfl, front, rfl⟩
  | _ =>
    obtain ⟨front, rfl⟩ := spelled_eq_some.mp read
    exact ⟨_, rfl, front, rfl⟩

/-- No lexeme of the kind is longer than what is taken off the text. -/
theorem exists_width (isLexeme : terminal.Lexeme lexeme) (front : lexeme <+: text) :
    ∃ width, terminal.width? text = some width ∧ lexeme.length ≤ width := by
  cases terminal with
  | text =>
    obtain ⟨quote, body, isQuote, isBody, rfl⟩ := isLexeme
    obtain ⟨rest, rfl⟩ := front
    refine ⟨body.length + 1 + 1, ?_, by simp⟩
    have read : stringRest? quote (body ++ quote :: rest) = some (body.length + 1) :=
      stringRest_eq_some isQuote isBody
    simp [width?, isQuote, read]
  | numeral =>
    obtain ⟨rest, rfl⟩ := front
    obtain ⟨numeral, after, read, short⟩ : ∃ numeral after, Numeral.read? (lexeme ++ rest) =
      some (numeral, after) ∧ after.length ≤ rest.length := read_le isLexeme
    refine ⟨(lexeme ++ rest).length - after.length, ?_, ?_⟩
    · unfold width?
      rw [read]
      rfl
    · rw [List.length_append]
      omega
  | name =>
    obtain ⟨c, more, starts, each, rfl⟩ := isLexeme
    obtain ⟨rest, rfl⟩ := front
    refine ⟨((more ++ rest).takeWhile isNamePart).length + 1, if_pos starts, ?_⟩
    exact Nat.succ_le_succ (length_le_takeWhile each (List.prefix_append _ _))
  | variance =>
    obtain ⟨rest, rfl⟩ := front
    rcases isLexeme with rfl | rfl
    · exact ⟨1, rfl, Nat.le_refl 1⟩
    · exact ⟨1, rfl, Nat.le_refl 1⟩
  | _ =>
    cases isLexeme
    exact ⟨_, spelled_eq_some.mpr ⟨front, rfl⟩, Nat.le_refl _⟩

end Terminal

end TypeSchema
