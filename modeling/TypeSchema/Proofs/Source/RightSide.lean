/-
**The text of a type inside a source.**

* `Lexeme.shape`: a lexeme is a word, a string, or one of a few signs;
* `textLevel`: the number of open brackets after a text, if a semicolon stands inside brackets only;
* `Loose`: no identifier is followed by white space and another one;
* `readable_of_ofText`: **an accepted text is masked the same way wherever it stands**, and what a
  search sees of it is loose, closes its brackets, and contains no equals sign.
-/

import TypeSchema.Proofs.Source.Mask
import TypeSchema.Proofs.Text.Blank
import TypeSchema.Proofs.TypeExpr.Acceptance
import TypeSchema.Proofs.TypeExpr.Shape
import TypeSchema.Source.Scan

namespace TypeSchema

variable {c d : Char} {text other lexeme back : List Char} {terminal : Terminal}
  {tokens : List Token} {depth : Nat}

/-! ### Lexemes -/

/-- A character of a name or a number. -/
def isWordChar (c : Char) : Bool :=
  isNamePart c || isDecimalDigit c || c == '.' || c == '+' || c == '-'

theorem isWordChar_of_isNamePart (part : isNamePart c) : isWordChar c := by simp [isWordChar, part]

theorem isWordChar_of_isDecimalDigit (digit : isDecimalDigit c) : isWordChar c := by
  simp [isWordChar, digit]

theorem ne_of_isWordChar (word : isWordChar c) (noWord : isWordChar d = false) : c ≠ d := by
  rintro rfl
  rw [word] at noWord
  cases noWord

theorem not_isBlank_of_isDecimalDigit (digit : isDecimalDigit c) : isBlank c = false := by
  have wide : ∀ code ∈ wideBlanks, 0x80 ≤ code ∧
      (decimalDigitClass.find? fun range => range.1 ≤ code && code ≤ range.2) = none := by decide
  by_contra notVisible
  rw [isDecimalDigit, decimalDigit?] at digit
  rcases toNat_of_isBlank ((Bool.not_eq_false _).mp notVisible) with small | isWide
  · rw [if_pos (by omega)] at digit
    split_ifs at digit with isDigit
    · have atLeast := (ascii_of_isAlphanum
        (show c.isAlphanum = true by simp [Char.isAlphanum, isDigit])).1
      omega
    · cases digit
  · obtain ⟨large, noDigit⟩ := wide _ isWide
    rw [if_neg (Nat.not_lt.mpr large), CharClass.offset?, noDigit] at digit
    cases digit

theorem not_isBlank_of_isWordChar (word : isWordChar c) : isBlank c = false := by
  simp only [isWordChar, Bool.or_eq_true, beq_iff_eq] at word
  rcases word with (((part | digit) | rfl) | rfl) | rfl
  · by_contra blank
    have noPart := not_isIdentifierPart_of_isBlank ((Bool.not_eq_false _).mp blank)
    rw [isIdentifierPart_of_isNamePart part] at noPart
    cases noPart
  · exact not_isBlank_of_isDecimalDigit digit
  · decide
  · decide
  · decide

theorem isWordChar_of_numeral (isNumeral : Terminal.numeral.Lexeme lexeme) :
    ∀ c ∈ lexeme, isWordChar c := by
  have digits {text : List Char} (each : ∀ c ∈ text, isDecimalDigit c) : ∀ c ∈ text, isWordChar c :=
    fun c member => isWordChar_of_isDecimalDigit (each c member)
  obtain ⟨sign, mantissa, exponent, isSign, isMantissa, isExponent, rfl⟩ := isNumeral
  refine List.forall_mem_append.mpr ⟨?_, List.forall_mem_append.mpr ⟨?_, ?_⟩⟩
  · rcases isSign with rfl | rfl <;> exact forall_mem_of_all (by decide)
  · cases isMantissa with
    | integer isDigits => exact digits isDigits.2
    | point isDigits more =>
      exact List.forall_mem_append.mpr ⟨digits isDigits.2,
        List.forall_mem_cons.mpr ⟨by decide, digits more⟩⟩
    | fraction isDigits => exact List.forall_mem_cons.mpr ⟨by decide, digits isDigits.2⟩
  · cases isExponent with
    | none => exact nofun
    | unsigned isMark isDigits =>
      refine List.forall_mem_cons.mpr ⟨?_, digits isDigits.2⟩
      rcases isMark with rfl | rfl <;> decide
    | signed isMark isSign isDigits =>
      refine List.forall_mem_cons.mpr ⟨?_, List.forall_mem_cons.mpr ⟨?_, digits isDigits.2⟩⟩
      · rcases isMark with rfl | rfl <;> decide
      · rcases isSign with rfl | rfl <;> decide

/-- The signs and their lexemes. -/
def signs : List (Terminal × List Char) :=
  [(.ellipsis, ['.', '.', '.']), (.openExact, ['\x7b', '|']), (.closeExact, ['|', '\x7d']),
    (.openBrace, ['\x7b']), (.closeBrace, ['\x7d']), (.openBracket, ['[']), (.closeBracket, [']']),
    (.openParen, ['(']), (.closeParen, [')']), (.less, ['<']), (.greater, ['>']), (.bar, ['|']),
    (.question, ['?']), (.comma, [',']), (.semicolon, [';']), (.colon, [':']), (.dot, ['.']),
    (.variance, ['+']), (.variance, ['-'])]

/-- What a lexeme looks like. -/
inductive LexemeShape : Terminal → List Char → Prop
  | word {terminal : Terminal} {c : Char} {rest : List Char} (isWord : terminal.isWord)
      (level : ∀ depth, terminal.level depth = some depth)
      (each : ∀ d ∈ c :: rest, isWordChar d) : LexemeShape terminal (c :: rest)
  | text {quote : Char} {body : List Char} (isQuote : quote = '"' ∨ quote = '\'')
      (isBody : IsStringBody quote body) : LexemeShape .text (quote :: (body ++ [quote]))
  | sign {terminal : Terminal} {lexeme : List Char} (isSign : (terminal, lexeme) ∈ signs) :
      LexemeShape terminal lexeme

theorem Terminal.Lexeme.shape (isLexeme : terminal.Lexeme lexeme) : LexemeShape terminal lexeme := by
  cases terminal with
  | text =>
    obtain ⟨quote, body, isQuote, isBody, rfl⟩ := isLexeme
    exact .text isQuote isBody
  | numeral =>
    have each := isWordChar_of_numeral isLexeme
    obtain ⟨c, rest, rfl, -⟩ := isLexeme.numeral_cons
    exact .word rfl (fun _ => rfl) each
  | name =>
    obtain ⟨c, rest, starts, parts, rfl⟩ := isLexeme
    refine .word rfl (fun _ => rfl) (List.forall_mem_cons.mpr ⟨?_, fun d member => ?_⟩)
    · exact isWordChar_of_isNamePart (isNamePart_of_isNameStart starts)
    · exact isWordChar_of_isNamePart (parts d member)
  | variance =>
    rcases isLexeme with rfl | rfl
    · exact .sign (by decide)
    · exact .sign (by decide)
  | _ =>
    cases isLexeme
    exact .sign (by decide)

/-! ### Brackets in a text -/

/-- The number of open brackets after a character. -/
def charLevel (depth : Nat) (c : Char) : Option Nat :=
  if opensBracket c then some (depth + 1)
  else if closesBracket c then closeOne depth
  else if c = ';' ∧ depth = 0 then none
  else some depth

/-- The number of open brackets after a text, if no bracket is closed that is not open and a
semicolon stands inside brackets only. -/
def textLevel (depth : Nat) : List Char → Option Nat
  | [] => some depth
  | c :: rest => (charLevel depth c).bind fun depth => textLevel depth rest

theorem textLevel_append (depth : Nat) (text other : List Char) :
    textLevel depth (text ++ other) =
      (textLevel depth text).bind fun depth => textLevel depth other := by
  induction text generalizing depth with
  | nil => rfl
  | cons c text ih =>
    rw [List.cons_append, textLevel, textLevel]
    cases charLevel depth c with
    | none => rfl
    | some after => exact ih after

/-- A character that is no bracket and no semicolon. -/
def isNeutral (c : Char) : Bool := !opensBracket c && !closesBracket c && c != ';'

theorem charLevel_of_isNeutral (neutral : isNeutral c) (depth : Nat) :
    charLevel depth c = some depth := by
  simp only [isNeutral, Bool.and_eq_true, Bool.not_eq_true', bne_iff_ne] at neutral
  simp [charLevel, neutral]

theorem textLevel_of_neutral (neutral : ∀ c ∈ text, isNeutral c) (depth : Nat) :
    textLevel depth text = some depth := by
  induction text with
  | nil => rfl
  | cons c rest ih =>
    rw [List.forall_mem_cons] at neutral
    rw [textLevel, charLevel_of_isNeutral neutral.1, Option.bind_some, ih neutral.2]

/-! ### Masked lexemes -/

theorem isCode_of_isWordChar (word : isWordChar c) : isCode c :=
  isCode_of_class word (forall_mem_of_all (by decide))

theorem isNeutral_of_isWordChar (word : isWordChar c) : isNeutral c := by
  have other {d : Char} (noWord : isWordChar d = false) : c ≠ d := ne_of_isWordChar word noWord
  simp [isNeutral, opensBracket, closesBracket, @other '(' rfl, @other '[' rfl, @other '\x7b' rfl,
    @other '<' rfl, @other ')' rfl, @other ']' rfl, @other '\x7d' rfl, @other '>' rfl,
    @other ';' rfl]

theorem forall_isCode_of_mem_signs :
    ∀ sign ∈ signs, ∀ c ∈ sign.2, isCode c ∧ isIdentifierPart c = false ∧ c ≠ '=' := by
  have all : (signs.all fun sign => sign.2.all fun c =>
      decide (isCode c ∧ isIdentifierPart c = false ∧ c ≠ '=')) = true := by decide +kernel
  exact fun sign isSign => forall_mem_of_all (List.all_eq_true.mp all sign isSign)

/-- The mask of a string literal. -/
theorem mask_string {quote : Char} {body : List Char} (isQuote : quote = '"' ∨ quote = '\'')
    (isBody : IsStringBody quote body) : Steady (quote :: (body ++ [quote])) ∧
      mask (quote :: (body ++ [quote])) = quote :: (List.replicate body.length ' ' ++ [quote]) :=
  steady_of_masksTo fun _ => masksTo_string isQuote isBody

theorem LexemeShape.mask_word {rest : List Char} (each : ∀ d ∈ c :: rest, isWordChar d) :
    Steady (c :: rest) ∧ mask (c :: rest) = c :: rest :=
  steady_of_code fun d member => isCode_of_isWordChar (each d member)

theorem mask_sign (isSign : (terminal, lexeme) ∈ signs) : Steady lexeme ∧ mask lexeme = lexeme :=
  steady_of_code fun c member => (forall_isCode_of_mem_signs _ isSign c member).1

theorem LexemeShape.steady (shape : LexemeShape terminal lexeme) : Steady lexeme := by
  cases shape with
  | word _ _ each => exact (LexemeShape.mask_word each).1
  | text isQuote isBody => exact (mask_string isQuote isBody).1
  | sign isSign => exact (mask_sign isSign).1

theorem textLevel_of_mem_signs : ∀ sign ∈ signs, ∀ depth,
    textLevel depth sign.2 = sign.1.level depth := by
  intro sign isSign depth
  simp only [signs, List.mem_cons, List.not_mem_nil, or_false] at isSign
  rcases isSign with rfl | rfl | rfl | rfl | rfl | rfl | rfl | rfl | rfl | rfl | rfl | rfl | rfl |
    rfl | rfl | rfl | rfl | rfl | rfl
  all_goals
    simp [textLevel, charLevel, opensBracket, closesBracket, Terminal.level]

/-- A masked lexeme opens and closes brackets as its token does. -/
theorem LexemeShape.textLevel (shape : LexemeShape terminal lexeme) (depth : Nat) :
    textLevel depth (mask lexeme) = terminal.level depth := by
  cases shape with
  | word _ level each =>
    rw [(LexemeShape.mask_word each).2, level]
    exact textLevel_of_neutral (fun d member => isNeutral_of_isWordChar (each d member)) depth
  | text isQuote isBody =>
    rw [(mask_string isQuote isBody).2]
    refine textLevel_of_neutral (fun c member => ?_) depth
    simp only [List.mem_cons, List.mem_append, List.mem_replicate, List.not_mem_nil, or_false]
      at member
    rcases member with rfl | ⟨-, rfl⟩ | rfl
    · rcases isQuote with rfl | rfl <;> rfl
    · rfl
    · rcases isQuote with rfl | rfl <;> rfl
  | sign isSign => rw [(mask_sign isSign).2, textLevel_of_mem_signs _ isSign]

theorem LexemeShape.noEquals (shape : LexemeShape terminal lexeme) : '=' ∉ mask lexeme := by
  intro member
  cases shape with
  | word _ _ each =>
    rw [(LexemeShape.mask_word each).2] at member
    exact ne_of_isWordChar (each _ member) rfl rfl
  | text isQuote isBody =>
    rw [(mask_string isQuote isBody).2] at member
    rcases isQuote with rfl | rfl <;> simp at member
  | sign isSign =>
    rw [(mask_sign isSign).2] at member
    exact (forall_isCode_of_mem_signs _ isSign _ member).2.2 rfl

/-- A masked lexeme begins and ends with the characters of the lexeme, and with no white space. -/
theorem LexemeShape.ends (shape : LexemeShape terminal lexeme) :
    (∃ c rest shown, lexeme = c :: rest ∧ mask lexeme = c :: shown ∧ isBlank c = false) ∧
    (∃ c front shown, lexeme = front ++ [c] ∧ mask lexeme = shown ++ [c] ∧ isBlank c = false) := by
  cases shape with
  | @word _ c rest _ _ each =>
    have visible : ∀ d ∈ c :: rest, isBlank d = false :=
      fun d member => not_isBlank_of_isWordChar (each d member)
    have some_ : c :: rest ≠ [] := List.cons_ne_nil _ _
    have last := (List.dropLast_append_getLast some_).symm
    rw [(LexemeShape.mask_word each).2]
    exact ⟨⟨c, rest, rest, rfl, rfl, visible c List.mem_cons_self⟩,
      ⟨_, _, _, last, last, visible _ (List.getLast_mem some_)⟩⟩
  | @text quote body isQuote isBody =>
    have visible : isBlank quote = false := by rcases isQuote with rfl | rfl <;> decide
    rw [(mask_string isQuote isBody).2]
    exact ⟨⟨quote, _, _, rfl, rfl, visible⟩, ⟨quote, quote :: body, quote :: _, rfl, rfl, visible⟩⟩
  | sign isSign =>
    rw [(mask_sign isSign).2]
    have visible : (signs.all fun sign =>
        decide (sign.2 ≠ []) && sign.2.all fun c => decide (isBlank c = false)) = true := by decide
    have ⟨nonempty, noBlank⟩ := (Bool.and_eq_true_iff).mp (List.all_eq_true.mp visible _ isSign)
    have some_ := of_decide_eq_true nonempty
    have each := forall_mem_of_all noBlank
    have last := (List.dropLast_append_getLast some_).symm
    obtain ⟨c, rest, same⟩ := List.exists_cons_of_ne_nil some_
    dsimp only at same some_ each last
    refine ⟨⟨c, rest, rest, same, same, each c ?_⟩, ⟨_, _, _, last, last, each _ (List.getLast_mem _)⟩⟩
    rw [same]
    exact List.mem_cons_self

/-- No white space stands inside a word, and no identifier inside another masked lexeme. -/
theorem LexemeShape.parts (shape : LexemeShape terminal lexeme) :
    ∀ c ∈ mask lexeme, isIdentifierPart c → terminal.isWord ∧ ∀ d ∈ mask lexeme, isBlank d = false := by
  intro c member part
  cases shape with
  | word isWord _ each =>
    rw [(LexemeShape.mask_word each).2]
    exact ⟨isWord, fun d inside => not_isBlank_of_isWordChar (each d inside)⟩
  | text isQuote isBody =>
    rw [(mask_string isQuote isBody).2] at member
    simp only [List.mem_cons, List.mem_append, List.mem_replicate, List.not_mem_nil, or_false]
      at member
    rcases member with rfl | ⟨-, rfl⟩ | rfl
    · rcases isQuote with rfl | rfl <;> cases part
    · cases part
    · rcases isQuote with rfl | rfl <;> cases part
  | sign isSign =>
    rw [(mask_sign isSign).2] at member
    rw [(forall_isCode_of_mem_signs _ isSign c member).2.1] at part
    cases part

/-! ### Masked texts of tokens -/

/-- A text, what masking shows of it, and its tokens. -/
inductive Shown : List Char → List Char → List Token → Prop
  | nil : Shown [] [] []
  | space {c : Char} {rest shown : List Char} {tokens : List Token} (space : isTokenSpace c)
      (more : Shown rest shown tokens) : Shown (c :: rest) (c :: shown) tokens
  | token {terminal : Terminal} {lexeme rest shown : List Char} {tokens : List Token}
      (isLexeme : terminal.Lexeme lexeme) (more : Shown rest shown tokens) :
      Shown (lexeme ++ rest) (mask lexeme ++ shown) (⟨terminal, lexeme⟩ :: tokens)

theorem isCode_of_isBlank (blank : isBlank c) : isCode c :=
  isCode_of_class blank (forall_mem_of_all (by decide))

theorem Tokens.shown (isTokens : Tokens text tokens) :
    Steady text ∧ Shown text (mask text) tokens := by
  induction isTokens with
  | nil =>
    obtain ⟨steady, same⟩ := @steady_of_masksTo [] [] fun _ => masksTo_nil
    refine ⟨steady, ?_⟩
    rw [same]
    exact .nil
  | @space c rest _ space _ ih =>
    have code : ∀ d ∈ [c], isCode d :=
      List.forall_mem_singleton.mpr (isCode_of_isBlank (isBlank_of_isTokenSpace space))
    obtain ⟨steady, same⟩ := (steady_of_code code).1.append ih.1
    rw [(steady_of_code code).2, List.singleton_append] at same
    exact ⟨steady, same ▸ .space space ih.2⟩
  | @token text token _ longest _ ih =>
    obtain ⟨isLexeme, rest, rfl⟩ := longest.1
    rw [List.drop_left] at ih
    obtain ⟨steady, same⟩ := isLexeme.shape.steady.append ih.1
    exact ⟨steady, same ▸ .token isLexeme ih.2⟩

variable {shown : List Char}

theorem Shown.noEquals (isShown : Shown text shown tokens) : '=' ∉ shown := by
  induction isShown with
  | nil => exact List.not_mem_nil
  | space space _ ih =>
    rw [List.mem_cons, not_or]
    refine ⟨?_, ih⟩
    rintro rfl
    cases space
  | token isLexeme _ ih =>
    rw [List.mem_append, not_or]
    exact ⟨isLexeme.shape.noEquals, ih⟩

theorem Shown.level (isShown : Shown text shown tokens) (depth : Nat) :
    textLevel depth shown = levelOf depth tokens := by
  induction isShown generalizing depth with
  | nil => rfl
  | @space c _ _ _ space _ ih =>
    have neutral : isNeutral c := by
      simp only [isTokenSpace, Bool.or_eq_true, beq_iff_eq] at space
      rcases space with (((rfl | rfl) | rfl) | rfl) | rfl <;> rfl
    rw [textLevel, charLevel_of_isNeutral neutral, Option.bind_some, ih]
  | token isLexeme _ ih =>
    rw [textLevel_append, isLexeme.shape.textLevel, levelOf]
    cases Terminal.level depth _ with
    | none => rfl
    | some after => exact ih after

/-! ### Identifiers next to each other -/

/-- A character ends an identifier, and after white space another identifier begins. -/
def Joined (c : Char) (back : List Char) : Prop :=
  isIdentifierPart c ∧ back.head?.any isBlank ∧ (trimStart back).head?.any isNameStart

/-- No identifier is followed by white space and another one. -/
def Loose (text : List Char) : Prop := ∀ front c back, text = front ++ c :: back → ¬ Joined c back

theorem loose_nil : Loose [] := by
  intro front c back same
  cases front <;> cases same

theorem loose_cons (apart : ¬ Joined c back) (loose : Loose back) : Loose (c :: back) := by
  intro front d rest same
  cases front with
  | nil =>
    cases same
    exact apart
  | cons e front =>
    cases same
    exact loose front d rest rfl

/-- The first thing to be seen is a name only if the first token is one. -/
theorem Shown.name (isShown : Shown text shown tokens)
    (name : (trimStart (shown ++ [';'])).head?.any isNameStart) :
    ∃ token rest, tokens = token :: rest ∧ token.terminal = .name := by
  induction isShown with
  | nil => cases name
  | space space _ ih =>
    have gap : AllBlank [_] := List.forall_mem_singleton.mpr (isBlank_of_isTokenSpace space)
    rw [List.cons_append, ← List.singleton_append, trimStart_gap gap] at name
    exact ih name
  | @token terminal lexeme rest shown tokens isLexeme more ih =>
    obtain ⟨⟨c, others, seen, same, isMask, visible⟩, -⟩ := isLexeme.shape.ends
    rw [isMask, List.cons_append, List.cons_append, trimStart_visible visible, List.head?_cons,
      Option.any_some] at name
    obtain ⟨d, _, isFirst, opens⟩ := isLexeme.cons
    rw [same] at isFirst
    cases isFirst
    have noQuote : ¬ (c = '"' ∨ c = '\'') := not_quote_of_isNameStart name
    rw [Terminal.openedBy, if_neg noQuote, if_pos name] at opens
    exact ⟨_, _, rfl, List.mem_singleton.mp opens⟩

/-- **Masked tokens are loose**, if no name follows a name or a number. -/
theorem Shown.loose (isShown : Shown text shown tokens) (separated : Separated tokens) :
    Loose (shown ++ [';']) := by
  induction isShown with
  | nil => exact loose_cons (fun joined => by cases joined.1) loose_nil
  | space space _ ih =>
    refine loose_cons (fun joined => ?_) (ih separated)
    have noPart := not_isIdentifierPart_of_isBlank (isBlank_of_isTokenSpace space)
    rw [joined.1] at noPart
    cases noPart
  | @token terminal lexeme rest shown tokens isLexeme more ih =>
    have later : Separated tokens := (List.isChain_cons.mp separated).2
    intro front c back same joined
    rw [List.append_assoc] at same
    rcases List.append_eq_append_iff.mp same with ⟨between, isFront, isBack⟩ | ⟨inner, isMask, isSplit⟩
    · exact ih later between c back isBack joined
    · cases inner with
      | nil => exact ih later [] c back isSplit.symm joined
      | cons d inner =>
        obtain ⟨rfl, isBack⟩ := List.cons.inj isSplit
        have member : c ∈ mask lexeme := by rw [isMask]; simp
        obtain ⟨isWord, visible⟩ := isLexeme.shape.parts c member joined.1
        cases inner with
        | cons e inner =>
          -- The word goes on, so no white space follows the character.
          have blank := joined.2.1
          rw [isBack] at blank
          have inside : e ∈ mask lexeme := by rw [isMask]; simp
          have notBlank := visible e inside
          rw [show isBlank e = true from blank] at notBlank
          cases notBlank
        | nil =>
          rw [isBack] at joined
          obtain ⟨token, others, rfl, name⟩ := more.name joined.2.2
          have apart := (List.isChain_cons_cons.mp separated).1 name
          rw [show terminal.isWord = true from isWord] at apart
          cases apart

/-! ### White space at the ends -/

theorem Shown.length (isShown : Shown text shown tokens) : shown.length = text.length := by
  induction isShown with
  | nil => rfl
  | space _ _ ih => rw [List.length_cons, List.length_cons, ih]
  | token _ _ ih => rw [List.length_append, List.length_append, length_mask, ih]

theorem Shown.length_trimStart (isShown : Shown text shown tokens) :
    (trimStart shown).length = (trimStart text).length := by
  induction isShown with
  | nil => rfl
  | @space c rest shown _ space _ ih =>
    have gap : AllBlank [c] := List.forall_mem_singleton.mpr (isBlank_of_isTokenSpace space)
    rwa [← List.singleton_append, trimStart_gap gap, ← List.singleton_append, trimStart_gap gap]
  | token isLexeme more ih =>
    obtain ⟨⟨c, others, seen, same, isMask, visible⟩, -⟩ := isLexeme.shape.ends
    have size := length_mask (c :: others)
    rw [← same, isMask, same] at size
    rw [same, ← same, isMask, same, List.cons_append, List.cons_append, trimStart_visible visible,
      trimStart_visible visible, ← List.cons_append, ← List.cons_append, List.length_append,
      List.length_append, size, more.length]

theorem Shown.length_trimEnd (isShown : Shown text shown tokens) :
    (trimEnd shown).length = (trimEnd text).length := by
  induction isShown with
  | nil => rfl
  | @space c rest shown _ space _ ih =>
    rw [← List.singleton_append, ← List.singleton_append]
    exact length_trimEnd_append rfl rfl ih
  | token isLexeme _ ih =>
    refine length_trimEnd_append (length_mask _) ?_ ih
    obtain ⟨-, c, front, seen, same, isMask, visible⟩ := isLexeme.shape.ends
    have size := length_mask (front ++ [c])
    rw [← same, isMask, same] at size
    rw [isMask, trimEnd_visible visible, same, trimEnd_visible visible, size]

theorem Shown.length_trim (isShown : Shown text shown tokens) :
    (trim shown).length = (trim text).length := by
  rw [TypeSchema.length_trim, TypeSchema.length_trim, isShown.length_trimEnd, isShown.length,
    isShown.length_trimStart]

theorem Shown.allBlank (isShown : Shown text shown []) : AllBlank text := by
  generalize none_ : ([] : List Token) = tokens at isShown
  induction isShown with
  | nil => exact allBlank_nil
  | space space _ ih => exact List.forall_mem_cons.mpr ⟨isBlank_of_isTokenSpace space, ih none_⟩
  | token => cases none_

/-- The last token is the last thing to be seen. -/
theorem Shown.last {last : Token} (isShown : Shown text shown (tokens ++ [last])) :
    last.terminal.Lexeme last.lexeme ∧ (trimEnd text).getLast? = last.lexeme.getLast? := by
  have behind {front rest : List Char} (isLexeme : last.terminal.Lexeme last.lexeme)
      (ends : (trimEnd rest).getLast? = last.lexeme.getLast?) :
      (trimEnd (front ++ rest)).getLast? = last.lexeme.getLast? := by
    obtain ⟨-, c, head, -, isEnd, -, -⟩ := isLexeme.shape.ends
    rw [isEnd, List.getLast?_concat] at ends ⊢
    have some_ : trimEnd rest ≠ [] := by
      intro nothing
      rw [nothing] at ends
      cases ends
    rw [trimEnd_append some_, List.getLast?_append_of_ne_nil _ some_, ends]
  generalize same : tokens ++ [last] = all at isShown
  induction isShown generalizing tokens with
  | nil => cases List.append_ne_nil_of_right_ne_nil tokens (List.cons_ne_nil last []) same
  | @space c rest shown _ space more ih =>
    obtain ⟨isLexeme, ends⟩ := ih same
    exact ⟨isLexeme, @behind [c] rest isLexeme ends⟩
  | @token terminal lexeme rest shown others isLexeme more ih =>
    cases tokens with
    | nil =>
      obtain ⟨rfl, rfl⟩ := List.cons.inj same
      obtain ⟨-, c, front, seen, isEnd, -, visible⟩ := isLexeme.shape.ends
      refine ⟨isLexeme, ?_⟩
      rw [trimEnd_gap more.allBlank, isEnd, trimEnd_visible visible]
    | cons first tokens =>
      obtain ⟨isLast, ends⟩ := ih (List.cons.inj same).2
      exact ⟨isLast, behind isLast ends⟩

/-! ### Accepted texts -/

/-- What is known of a right side: it is masked the same way wherever it stands; what is shown of it
contains no equals sign, is loose and closes its brackets; and white space stays at its ends. -/
structure Readable (side : List Char) : Prop where
  steady : Steady side
  noEquals : '=' ∉ mask side
  loose : Loose (mask side ++ [';'])
  level : textLevel 0 (mask side) = some 0
  length_trimStart : (trimStart (mask side)).length = (trimStart side).length
  length_trim : (trim (mask side)).length = (trim side).length

/-- **An accepted text is readable**, if it does not end in a semicolon. -/
theorem readable_of_ofText {side : List Char} {path : Option String} {start : Position}
    {node : TypeNode} (accepted : TypeNode.ofText side path start = .ok node)
    (noEnd : (trimEnd side).getLast? ≠ some ';') : Readable side := by
  obtain ⟨tokens, tree, isTokens, derives, -⟩ := TypeNode.accepted_iff.mp accepted
  obtain ⟨steady, isShown⟩ := isTokens.shown
  have type : Derives .type tokens tree := by
    cases derives with
    | start whole => exact whole
    | terminated =>
      obtain ⟨isLexeme, ends⟩ := isShown.last
      rw [show _ = [';'] from isLexeme] at ends
      exact absurd ends noEnd
  exact ⟨steady, isShown.noEquals, isShown.loose derives.separated,
    (isShown.level 0).trans (type.encloses 0 (Nat.le_refl 0)), isShown.length_trimStart,
    isShown.length_trim⟩

end TypeSchema
