/-
**Reading finds the longest tokens.**

A reading looks only for the tokens that may stand at its place, so it may take a token off a text
that is not the longest one. This happens for few pairs of kinds (`Terminal.Extends`), and after
such a token nothing can be read. So a reading ends well with an expression exactly if the longest
tokens of the text lead to it (`run_eq_ok`).
-/

import TypeSchema.Proofs.TypeExpr.Lexemes
import TypeSchema.Proofs.TypeExpr.Steps

namespace TypeSchema

/-! ### First characters -/

theorem toNat_of_isNameStart {c : Char} (starts : isNameStart c) :
    c.toNat < 0x80 ∧ c.isDigit = false := by
  simp only [isNameStart, Bool.or_eq_true, beq_iff_eq] at starts
  rcases starts with (alpha | rfl) | rfl
  · have letter : (decide ('A'.val ≤ c.val ∧ c.val ≤ 'Z'.val) ||
        decide ('a'.val ≤ c.val) && decide (c.val ≤ 'z'.val)) = true := alpha
    have range : 65 ≤ c.val.toNat ∧ c.val.toNat ≤ 122 := by
      simp only [Bool.or_eq_true, Bool.and_eq_true, decide_eq_true_eq, UInt32.le_iff_toNat_le,
        Char.reduceVal, UInt32.reduceToNat] at letter
      omega
    have notDigit : (decide ('0'.val ≤ c.val) && decide (c.val ≤ '9'.val)) = false := by
      simp only [Bool.and_eq_false_iff, decide_eq_false_iff_not, UInt32.le_iff_toNat_le,
        Char.reduceVal, UInt32.reduceToNat]
      omega
    exact ⟨Nat.lt_of_le_of_lt range.2 (by decide), notDigit⟩
  · exact ⟨by decide, rfl⟩
  · exact ⟨by decide, rfl⟩

theorem not_isNameStart_of_isDecimalDigit {c : Char} (digit : isDecimalDigit c) :
    ¬ isNameStart c := by
  intro starts
  obtain ⟨ascii, notDigit⟩ := toNat_of_isNameStart starts
  simp [isDecimalDigit, decimalDigit?, ascii, notDigit] at digit

theorem not_quote_of_isNameStart {c : Char} (starts : isNameStart c) : ¬ (c = '"' ∨ c = '\'') := by
  rintro (rfl | rfl) <;> cases starts

theorem not_quote_of_isDecimalDigit {c : Char} (digit : isDecimalDigit c) :
    ¬ (c = '"' ∨ c = '\'') := by
  rintro (rfl | rfl) <;> cases digit

theorem IsDigits.cons {digits : List Char} (isDigits : IsDigits digits) :
    ∃ d more, digits = d :: more ∧ isDecimalDigit d := by
  cases digits with
  | nil => exact absurd rfl isDigits.1
  | cons d more => exact ⟨d, more, rfl, isDigits.2 d List.mem_cons_self⟩

theorem IsMantissa.cons {mantissa : List Char} (isMantissa : IsMantissa mantissa) :
    ∃ c rest, mantissa = c :: rest ∧
      (isDecimalDigit c ∨ c = '.' ∧ ∃ d more, rest = d :: more ∧ isDecimalDigit d) := by
  cases isMantissa with
  | integer digits =>
    obtain ⟨d, more, rfl, digit⟩ := digits.cons
    exact ⟨d, more, rfl, .inl digit⟩
  | point digits =>
    obtain ⟨d, more, rfl, digit⟩ := digits.cons
    exact ⟨d, _, rfl, .inl digit⟩
  | fraction digits =>
    obtain ⟨d, more, rfl, digit⟩ := digits.cons
    exact ⟨'.', _, rfl, .inr ⟨rfl, d, more, rfl, digit⟩⟩

namespace Terminal

variable {terminal other : Terminal} {lexeme shorter input : List Char} {c d : Char}

/-- The signs that begin with a character. A sign and a point may also begin a numeral. -/
def signsFrom (c : Char) : List Terminal :=
  match c with
  | '-' => [numeral, variance]
  | '+' => [variance]
  | '.' => [numeral, ellipsis, dot]
  | '\x7b' => [openExact, openBrace]
  | '|' => [closeExact, bar]
  | '\x7d' => [closeBrace]
  | '[' => [openBracket]
  | ']' => [closeBracket]
  | '(' => [openParen]
  | ')' => [closeParen]
  | '<' => [less]
  | '>' => [greater]
  | '?' => [question]
  | ',' => [comma]
  | ';' => [semicolon]
  | ':' => [colon]
  | _ => []

/-- The kinds whose lexemes may begin with a character. -/
def openedBy (c : Char) : List Terminal :=
  if c = '"' ∨ c = '\'' then [.text]
  else if isNameStart c then [name]
  else if isDecimalDigit c then [numeral]
  else signsFrom c

theorem openedBy_of_isDecimalDigit (digit : isDecimalDigit c) : openedBy c = [numeral] := by
  rw [openedBy, if_neg (not_quote_of_isDecimalDigit digit),
    if_neg (not_isNameStart_of_isDecimalDigit digit), if_pos digit]

/-- A numeral begins with a digit, or with a sign or a point and one more character. -/
theorem Lexeme.numeral_cons (isLexeme : numeral.Lexeme lexeme) :
    ∃ c rest, lexeme = c :: rest ∧ (isDecimalDigit c ∨ ∃ d more, rest = d :: more ∧
      (c = '.' ∧ isDecimalDigit d ∨ c = '-' ∧ (isDecimalDigit d ∨ d = '.'))) := by
  obtain ⟨sign, mantissa, exponent, isSign, isMantissa, -, rfl⟩ := isLexeme
  obtain ⟨c, rest, rfl, first⟩ := isMantissa.cons
  rcases isSign with rfl | rfl
  · rcases first with digit | ⟨rfl, d, more, rfl, digit⟩
    · exact ⟨c, _, rfl, .inl digit⟩
    · exact ⟨'.', _, rfl, .inr ⟨d, _, rfl, .inl ⟨rfl, digit⟩⟩⟩
  · refine ⟨'-', _, rfl, .inr ⟨c, _, rfl, .inr ⟨rfl, ?_⟩⟩⟩
    rcases first with digit | ⟨rfl, -⟩
    · exact .inl digit
    · exact .inr rfl

theorem Lexeme.cons (isLexeme : terminal.Lexeme lexeme) :
    ∃ c rest, lexeme = c :: rest ∧ terminal ∈ openedBy c := by
  cases terminal with
  | text =>
    obtain ⟨quote, body, isQuote, -, rfl⟩ := isLexeme
    refine ⟨quote, _, rfl, ?_⟩
    rw [openedBy, if_pos isQuote]
    exact List.mem_singleton.mpr rfl
  | numeral =>
    obtain ⟨c, rest, rfl, digit | ⟨d, more, -, ⟨rfl, -⟩ | ⟨rfl, -⟩⟩⟩ := isLexeme.numeral_cons
    · refine ⟨c, rest, rfl, ?_⟩
      rw [openedBy_of_isDecimalDigit digit]
      exact List.mem_singleton.mpr rfl
    · exact ⟨'.', rest, rfl, by decide⟩
    · exact ⟨'-', rest, rfl, by decide⟩
  | name =>
    obtain ⟨c, rest, starts, -, rfl⟩ := isLexeme
    refine ⟨c, rest, rfl, ?_⟩
    rw [openedBy, if_neg (not_quote_of_isNameStart starts), if_pos starts]
    exact List.mem_singleton.mpr rfl
  | variance => rcases isLexeme with rfl | rfl <;> exact ⟨_, [], rfl, by decide⟩
  | _ =>
    cases isLexeme
    exact ⟨_, _, rfl, by decide⟩

/-! ### Tokens that begin alike -/

/-- A lexeme of the first kind may begin with one of the second, which is a single character. -/
inductive Extends : Terminal → Terminal → Prop
  | point : Extends numeral dot
  | dots : Extends ellipsis dot
  | minus : Extends numeral variance
  | bar : Extends closeExact bar
  | brace : Extends openExact openBrace

/-- What follows the single character in the longer lexeme. -/
def Continues : Terminal → Char → Prop
  | dot, d | variance, d => isDecimalDigit d ∨ d = '.'
  | bar, d => d = '\x7d'
  | _, d => d = '|'

/-- Two kinds whose lexemes may begin with the same character. -/
theorem alike (first : terminal ∈ openedBy c) (second : other ∈ openedBy c)
    (different : terminal ≠ other) :
    Extends terminal other ∨ Extends other terminal ∨ c = '.' ∧
      (terminal = numeral ∧ other = ellipsis ∨ terminal = ellipsis ∧ other = numeral) := by
  have unique {kind : Terminal} (first : terminal ∈ [kind]) (second : other ∈ [kind]) : False :=
    different ((List.mem_singleton.mp first).trans (List.mem_singleton.mp second).symm)
  unfold openedBy at first second
  by_cases quote : c = '"' ∨ c = '\''
  · rw [if_pos quote] at first second
    exact (unique first second).elim
  by_cases starts : isNameStart c
  · rw [if_neg quote, if_pos starts] at first second
    exact (unique first second).elim
  by_cases digit : isDecimalDigit c
  · rw [if_neg quote, if_neg starts, if_pos digit] at first second
    exact (unique first second).elim
  rw [if_neg quote, if_neg starts, if_neg digit] at first second
  unfold signsFrom at first second
  -- Most signs begin one kind only; a point begins three, and three other signs begin two.
  split at first
  case h_1 | h_4 | h_5 =>
    simp only [List.mem_cons, List.not_mem_nil, or_false] at first second
    rcases first with rfl | rfl <;> rcases second with rfl | rfl
    all_goals first
      | exact absurd rfl different
      | exact .inl (by constructor)
      | exact .inr (.inl (by constructor))
  case h_3 =>
    simp only [List.mem_cons, List.not_mem_nil, or_false] at first second
    rcases first with rfl | rfl | rfl <;> rcases second with rfl | rfl | rfl
    all_goals first
      | exact absurd rfl different
      | exact .inl (by constructor)
      | exact .inr (.inl (by constructor))
      | simp
  all_goals first | exact (unique first second).elim | cases first

theorem head_eq_of_prefix {rest rest' : List Char} (front : c :: rest <+: input)
    (otherFront : d :: rest' <+: input) : d = c := by
  obtain ⟨more, rfl⟩ := front
  exact (List.cons_prefix_cons.mp otherFront).1

/-- A point and a digit, or three points. -/
theorem not_numeral_of_ellipsis (isNumeral : numeral.Lexeme lexeme) (front : lexeme <+: input)
    (isEllipsis : ellipsis.Lexeme shorter) (otherFront : shorter <+: input) : False := by
  cases isEllipsis
  obtain ⟨c, rest, rfl, first⟩ := isNumeral.numeral_cons
  cases head_eq_of_prefix otherFront front
  obtain digit | ⟨d, more, rfl, ⟨-, digit⟩ | ⟨same, -⟩⟩ := first
  · cases digit
  · obtain ⟨after, rfl⟩ := otherFront
    cases (List.cons_prefix_cons.mp (List.cons_prefix_cons.mp front).2).1
    cases digit
  · cases same

/-- Two lexemes of different kinds at the beginning of one text: one is a single character, with
which the other one begins. -/
theorem extends_of_prefix (isLexeme : terminal.Lexeme lexeme) (front : lexeme <+: input)
    (isOther : other.Lexeme shorter) (otherFront : shorter <+: input)
    (different : terminal ≠ other) : Extends terminal other ∨ Extends other terminal := by
  obtain ⟨c, rest, rfl, opens⟩ := isLexeme.cons
  obtain ⟨c', rest', rfl, otherOpens⟩ := isOther.cons
  cases head_eq_of_prefix front otherFront
  rcases alike opens otherOpens different with longer | longer | ⟨-, ⟨rfl, rfl⟩ | ⟨rfl, rfl⟩⟩
  · exact .inl longer
  · exact .inr longer
  · exact (not_numeral_of_ellipsis isLexeme front isOther otherFront).elim
  · exact (not_numeral_of_ellipsis isOther otherFront isLexeme front).elim

/-- What a longer lexeme has after the single character of a shorter one. -/
theorem Extends.parts (longer : Extends terminal other) (isLexeme : terminal.Lexeme lexeme)
    (isOther : other.Lexeme shorter) (front : lexeme <+: input) (otherFront : shorter <+: input) :
    ∃ c d rest, lexeme = c :: d :: rest ∧ shorter = [c] ∧ Continues other d := by
  cases longer with
  | point =>
    cases isOther
    obtain ⟨c, rest, rfl, first⟩ := isLexeme.numeral_cons
    cases head_eq_of_prefix otherFront front
    obtain digit | ⟨d, more, rfl, ⟨-, digit⟩ | ⟨same, -⟩⟩ := first
    · cases digit
    · exact ⟨_, d, more, rfl, rfl, .inl digit⟩
    · cases same
  | minus =>
    obtain ⟨c, rest, rfl, first⟩ := isLexeme.numeral_cons
    rcases isOther with rfl | rfl
    · cases head_eq_of_prefix otherFront front
      obtain digit | ⟨d, more, rfl, ⟨same, -⟩ | ⟨same, -⟩⟩ := first
      · cases digit
      · cases same
      · cases same
    · cases head_eq_of_prefix otherFront front
      obtain digit | ⟨d, more, rfl, ⟨same, -⟩ | ⟨-, next⟩⟩ := first
      · cases digit
      · cases same
      · exact ⟨_, d, more, rfl, rfl, next⟩
  | dots =>
    cases isLexeme
    cases isOther
    exact ⟨_, _, _, rfl, rfl, .inr rfl⟩
  | bar =>
    cases isLexeme
    cases isOther
    exact ⟨_, _, _, rfl, rfl, rfl⟩
  | brace =>
    cases isLexeme
    cases isOther
    exact ⟨_, _, _, rfl, rfl, rfl⟩

theorem Extends.length_lt (longer : Extends terminal other) (isLexeme : terminal.Lexeme lexeme)
    (isOther : other.Lexeme shorter) (front : lexeme <+: input) (otherFront : shorter <+: input) :
    shorter.length < lexeme.length := by
  obtain ⟨c, d, rest, rfl, rfl, -⟩ := longer.parts isLexeme isOther front otherFront
  simp

end Terminal

/-! ### The longest token -/

section

variable {input : List Char} {token other : Token} {tokens : List Token}
  {allowed : Terminal → Bool} {terminal : Terminal} {width : Nat}

theorem Token.Longest.unique (longest : token.Longest input) (otherLongest : other.Longest input) :
    token = other := by
  obtain ⟨⟨isLexeme, front⟩, isLongest⟩ := longest
  obtain ⟨⟨isOther, otherFront⟩, isOtherLongest⟩ := otherLongest
  have sameLength := Nat.le_antisymm (isOtherLongest _ ⟨isLexeme, front⟩)
    (isLongest _ ⟨isOther, otherFront⟩)
  by_cases same : token.terminal = other.terminal
  · have sameLexeme : token.lexeme = other.lexeme := by
      obtain ⟨rest, rfl⟩ := front
      obtain ⟨more, eq⟩ := otherFront
      exact (List.append_inj eq.symm sameLength).1
    cases token
    cases other
    simp_all
  · rcases Terminal.extends_of_prefix isLexeme front isOther otherFront same with longer | longer
    · have := longer.length_lt isLexeme isOther front otherFront
      omega
    · have := longer.length_lt isOther isLexeme otherFront front
      omega

theorem Token.Longest.of_prefix {other : List Char} (longest : token.Longest input)
    (isFront : token.lexeme <+: other) (inside : other <+: input) : token.Longest other :=
  ⟨⟨longest.1.1, isFront⟩, fun another begins =>
    longest.2 another ⟨begins.1, begins.2.trans inside⟩⟩

theorem Terminal.mem_all (terminal : Terminal) : terminal ∈ all := by
  cases terminal <;> decide

/-- A kind that is tried before a given one also has its longer lexemes tried before. -/
theorem Terminal.Extends.mem_before {longer shorter : Terminal} {before after : List Terminal}
    (extends_ : Extends longer shorter) (parts : all = before ++ shorter :: after) :
    longer ∈ before := by
  by_contra notBefore
  have earlier : all.idxOf longer < all.idxOf shorter := by
    cases extends_ <;> decide
  rw [parts, List.idxOf_append, List.idxOf_append, if_neg notBefore,
    List.idxOf_cons_self] at earlier
  split at earlier
  · rename_i isBefore
    have := List.idxOf_lt_length_iff.mpr isBefore
    omega
  · omega

theorem firstToken_eq_some (found : firstToken? allowed input = some (terminal, width)) :
    allowed terminal ∧ terminal.width? input = some width ∧
      ∀ other, Terminal.Extends other terminal → allowed other → other.width? input = none := by
  obtain ⟨before, tried, after, parts, isFound, failed⟩ := List.findSome?_eq_some_iff.mp found
  split at isFound
  · rename_i isAllowed
    obtain ⟨_, read, same⟩ := Option.map_eq_some_iff.mp isFound
    cases same
    refine ⟨isAllowed, read, fun other longer isOther => ?_⟩
    have none := failed other (longer.mem_before parts)
    rw [if_pos isOther] at none
    exact Option.map_eq_none_iff.mp none
  · cases isFound

theorem firstToken_eq_none (none : firstToken? allowed input = none)
    (isAllowed : allowed terminal) :
    terminal.width? input = .none := by
  have failed := List.findSome?_eq_none_iff.mp none terminal terminal.mem_all
  rw [if_pos isAllowed] at failed
  exact Option.map_eq_none_iff.mp failed

/-- If the longest token is allowed, it is found. -/
theorem Token.Longest.firstToken (longest : token.Longest input)
    (isAllowed : allowed token.terminal) :
    firstToken? allowed input = some (token.terminal, token.lexeme.length) := by
  obtain ⟨⟨isLexeme, front⟩, isLongest⟩ := longest
  obtain ⟨width, read, -⟩ := Terminal.exists_width isLexeme front
  cases found : firstToken? allowed input with
  | none =>
    rw [firstToken_eq_none found isAllowed] at read
    cases read
  | some pair =>
    obtain ⟨terminal, width'⟩ := pair
    obtain ⟨-, read', none⟩ := firstToken_eq_some found
    obtain ⟨lexeme, isOther, otherFront, rfl⟩ := Terminal.exists_lexeme read'
    have noLonger := isLongest ⟨terminal, lexeme⟩ ⟨isOther, otherFront⟩
    by_cases same : token.terminal = terminal
    · subst same
      obtain ⟨_, read'', noShorter⟩ := Terminal.exists_width isLexeme front
      cases read''.symm.trans read'
      rw [Nat.le_antisymm noLonger noShorter]
    · rcases Terminal.extends_of_prefix isLexeme front isOther otherFront same with longer | longer
      · rw [none _ longer isAllowed] at read
        cases read
      · have := longer.length_lt isOther isLexeme otherFront front
        simp only at noLonger
        omega

/-- The token that is found is the longest one, or the single character with which a lexeme begins
whose kind is not allowed. -/
theorem firstToken_cases (found : firstToken? allowed input = some (terminal, width)) :
    Token.Longest ⟨terminal, input.take width⟩ input ∨
      ∃ longer, Terminal.Extends longer terminal ∧ ¬ allowed longer ∧ ∃ c d rest,
        input = c :: d :: rest ∧ width = 1 ∧ terminal.Continues d := by
  obtain ⟨-, read, none⟩ := firstToken_eq_some found
  obtain ⟨lexeme, isLexeme, front, rfl⟩ := Terminal.exists_lexeme read
  have taken : input.take lexeme.length = lexeme := (List.prefix_iff_eq_take.mp front).symm
  rw [taken]
  by_cases isLongest : ∃ other : Token, other.Begins input ∧ other.terminal.Extends terminal
  · obtain ⟨other, ⟨isOther, otherFront⟩, longer⟩ := isLongest
    refine .inr ⟨other.terminal, longer, fun isAllowed => ?_, ?_⟩
    · obtain ⟨_, readOther, -⟩ := Terminal.exists_width isOther otherFront
      rw [none _ longer isAllowed] at readOther
      cases readOther
    · obtain ⟨c, d, rest, same, rfl, continues⟩ := longer.parts isOther isLexeme otherFront front
      rw [same] at otherFront
      obtain ⟨more, rfl⟩ := otherFront
      exact ⟨c, d, rest ++ more, rfl, rfl, continues⟩
  · refine .inl ⟨⟨isLexeme, front⟩, fun other ⟨isOther, otherFront⟩ => ?_⟩
    by_cases same : other.terminal = terminal
    · subst same
      obtain ⟨_, readOther, noShorter⟩ := Terminal.exists_width isOther otherFront
      cases readOther.symm.trans read
      exact noShorter
    · rcases Terminal.extends_of_prefix isOther otherFront isLexeme front same with longer | longer
      · exact absurd ⟨other, ⟨isOther, otherFront⟩, longer⟩ isLongest
      · exact Nat.le_of_lt (longer.length_lt isLexeme isOther front otherFront)

/-- What is found when all kinds are allowed is the longest token. -/
theorem longest_of_firstToken
    (found : firstToken? (fun _ => true) input = some (terminal, width)) :
    Token.Longest ⟨terminal, input.take width⟩ input := by
  rcases firstToken_cases found with longest | ⟨longer, -, notAllowed, -⟩
  · exact longest
  · exact absurd rfl notAllowed

/-! ### Texts as tokens -/

theorem Token.Begins.cons {c : Char} {rest : List Char} (begins : token.Begins (c :: rest)) :
    token.terminal ∈ Terminal.openedBy c ∧ 1 ≤ token.lexeme.length := by
  obtain ⟨isLexeme, front⟩ := begins
  obtain ⟨d, more, same, opens⟩ := isLexeme.cons
  rw [same] at front ⊢
  cases (List.cons_prefix_cons.mp front).1
  exact ⟨opens, Nat.le_add_left 1 _⟩

theorem openedBy_of_isTokenSpace {c : Char} (space : isTokenSpace c) :
    Terminal.openedBy c = [] := by
  simp only [isTokenSpace, Bool.or_eq_true, beq_iff_eq] at space
  rcases space with (((rfl | rfl) | rfl) | rfl) | rfl <;> decide

theorem Tokens.of_nil (isTokens : Tokens [] tokens) : tokens = [] := by
  cases isTokens with
  | nil => rfl
  | token longest =>
    obtain ⟨⟨isLexeme, front⟩, -⟩ := longest
    obtain ⟨c, rest, same, -⟩ := isLexeme.cons
    rw [same] at front
    cases List.prefix_nil.mp front

theorem Tokens.of_space {c : Char} {rest : List Char} (isTokens : Tokens (c :: rest) tokens)
    (space : isTokenSpace c) : Tokens rest tokens := by
  cases isTokens with
  | space _ more => exact more
  | token longest =>
    have opens := longest.1.cons.1
    rw [openedBy_of_isTokenSpace space] at opens
    cases opens

theorem Tokens.of_not_space {c : Char} {rest : List Char} (isTokens : Tokens (c :: rest) tokens)
    (notSpace : ¬ isTokenSpace c) : ∃ token more, tokens = token :: more ∧
      token.Longest (c :: rest) ∧ Tokens ((c :: rest).drop token.lexeme.length) more := by
  cases isTokens with
  | space space => exact absurd space notSpace
  | token longest more => exact ⟨_, _, rfl, longest, more⟩

/-! ### The end of a reading -/

variable {reading next : Reading} {lexeme : List Char} {d : Char} {rest : List Char}

theorem place_of_step_dot (steps : reading.step .dot lexeme = some next) :
    ∃ pending path, next.place = .afterDot pending path := by
  have expects := Reading.step_expects steps
  obtain ⟨place, stack⟩ := reading
  cases place with
  | afterName | indexerName =>
    cases steps
    exact ⟨_, _, rfl⟩
  | firstMember object =>
    obtain ⟨outer, exact, members⟩ := object
    cases exact <;> cases expects
  | _ => cases expects

theorem place_of_step_variance (steps : reading.step .variance lexeme = some next) :
    ∃ object, next.place = .afterVariance object := by
  have expects := Reading.step_expects steps
  obtain ⟨place, stack⟩ := reading
  cases place with
  | firstMember object | nextMember object =>
    obtain ⟨outer, exact, members⟩ := object
    cases exact <;> (cases steps; exact ⟨_, rfl⟩)
  | _ => cases expects

theorem place_of_step_bar (steps : reading.step .bar lexeme = some next) :
    ∃ pending, next.place = .operandStart pending := by
  have expects := Reading.step_expects steps
  obtain ⟨place, stack⟩ := reading
  cases place with
  | firstMember object =>
    obtain ⟨outer, exact, members⟩ := object
    cases exact <;> cases expects
  | operandStart | afterDot | arrayEnd | nextMember | afterVariance | afterKey | afterOptionalKey
  | indexerEnd | nextParameter | afterParameterName | parameterColon | afterEllipsis | callEnd
  | finished => cases expects
  | _ =>
    cases steps
    exact ⟨_, rfl⟩

/-- Where one opening brace may stand, so may the other. -/
theorem expects_openExact {place : Place} (expects : place.expects .openBrace) :
    place.expects .openExact := by
  cases place with
  | firstMember object =>
    obtain ⟨outer, exact, members⟩ := object
    cases exact <;> cases expects
  | _ => first | rfl | cases expects

/-- After a single character with which a longer lexeme begins, nothing can be read. -/
theorem expects_after_shorter {longer : Terminal} (steps : reading.step terminal lexeme = some next)
    (extends_ : longer.Extends terminal)
    (notAllowed : terminal = .openBrace → ¬ reading.place.expects longer)
    (continues : terminal.Continues d) :
    ∀ kind ∈ Terminal.openedBy d, next.place.expects kind = false := by
  have numberOrPoint (digit : isDecimalDigit d ∨ d = '.') :
      ∀ kind ∈ Terminal.openedBy d, kind ∈ [.numeral, .ellipsis, .dot] := by
    rcases digit with digit | rfl
    · rw [Terminal.openedBy_of_isDecimalDigit digit]
      simp
    · exact fun kind member => member
  intro kind opens
  cases extends_ with
  | point | dots =>
    obtain ⟨pending, path, place⟩ := place_of_step_dot steps
    rw [place]
    have isKind := numberOrPoint continues kind opens
    simp only [List.mem_cons, List.not_mem_nil, or_false] at isKind
    rcases isKind with rfl | rfl | rfl <;> rfl
  | minus =>
    obtain ⟨object, place⟩ := place_of_step_variance steps
    rw [place]
    have isKind := numberOrPoint continues kind opens
    simp only [List.mem_cons, List.not_mem_nil, or_false] at isKind
    rcases isKind with rfl | rfl | rfl <;> rfl
  | bar =>
    obtain ⟨pending, place⟩ := place_of_step_bar steps
    cases continues
    cases List.mem_singleton.mp opens
    rw [place]
    rfl
  | brace => exact absurd (expects_openExact (Reading.step_expects steps)) (notAllowed rfl)

theorem not_isTokenSpace_of_continues (continues : terminal.Continues d) : ¬ isTokenSpace d := by
  have opened : Terminal.openedBy d ≠ [] := by
    cases terminal with
    | dot | variance =>
      rcases continues with digit | rfl
      · simp [Terminal.openedBy_of_isDecimalDigit digit]
      · decide
    | _ =>
      cases continues
      decide
  exact fun space => opened (openedBy_of_isTokenSpace space)

/-- If a reading goes on with the longest tokens, it finds the first of them. -/
theorem Tokens.fed {c : Char} {after : Reading} (isTokens : Tokens (c :: rest) tokens)
    (notSpace : ¬ isTokenSpace c) (feeds : reading.feed tokens = some after) :
    ∃ token more next, tokens = token :: more ∧ token.Longest (c :: rest) ∧
      firstToken? reading.place.expects (c :: rest) = some (token.terminal, token.lexeme.length) ∧
      reading.step token.terminal token.lexeme = some next ∧
      Tokens ((c :: rest).drop token.lexeme.length) more ∧ next.feed more = some after := by
  obtain ⟨token, more, rfl, longest, isMore⟩ := isTokens.of_not_space notSpace
  rw [Reading.feed_cons] at feeds
  obtain ⟨next, steps, feeds⟩ := Option.bind_eq_some_iff.mp feeds
  exact ⟨token, more, next, rfl, longest, longest.firstToken (Reading.step_expects steps), steps,
    isMore, feeds⟩

/-- **A reading ends well** exactly if the longest tokens of the text lead to its end. -/
theorem run_eq_ok (reading : Reading) (offset last : Nat) (text : List Char) (expr : TypeExpr) :
    reading.run offset last text = .ok expr ↔
      ∃ tokens after, Tokens text tokens ∧ reading.feed tokens = some after ∧
        after.result? = some expr := by
  fun_induction Reading.run reading offset last text with
  | case1 reading offset last result ends =>
    constructor
    · rintro ⟨⟩
      exact ⟨[], reading, .nil, rfl, ends⟩
    · rintro ⟨tokens, after, isTokens, feeds, result⟩
      cases isTokens.of_nil
      cases feeds
      rw [ends] at result
      cases result
      rfl
  | case2 reading offset last noResult =>
    constructor
    · rintro ⟨⟩
    · rintro ⟨tokens, after, isTokens, feeds, result⟩
      cases isTokens.of_nil
      cases feeds
      rw [noResult] at result
      cases result
  | case3 reading offset last c rest space ih =>
    rw [ih]
    constructor
    · rintro ⟨tokens, after, isTokens, feeds⟩
      exact ⟨tokens, after, .space space isTokens, feeds⟩
    · rintro ⟨tokens, after, isTokens, feeds⟩
      exact ⟨tokens, after, isTokens.of_space space, feeds⟩
  | case4 reading offset last c rest notSpace terminal width found lexeme next steps ih =>
    obtain ⟨-, read, -⟩ := firstToken_eq_some found
    obtain ⟨taken, isLexeme, front, sameWidth⟩ := Terminal.exists_lexeme read
    have sameLexeme : lexeme = taken := by
      show (c :: rest).take width = taken
      rw [← sameWidth]
      exact (List.prefix_iff_eq_take.mp front).symm
    have positive : 1 ≤ width := by
      have begins : Token.Begins ⟨terminal, taken⟩ (c :: rest) := ⟨isLexeme, front⟩
      exact sameWidth ▸ begins.cons.2
    have dropped : rest.drop (width - 1) = (c :: rest).drop width := by
      obtain ⟨width, rfl⟩ := Nat.exists_eq_add_of_le' positive
      rfl
    rw [ih, dropped]
    constructor
    · rintro ⟨tokens, after, isTokens, feeds, result⟩
      rcases firstToken_cases found with longest | ⟨longer, extends_, notAllowed, _, d, more, same,
          rfl, continues⟩
      · refine ⟨⟨terminal, lexeme⟩ :: tokens, after, .token longest ?_, ?_, result⟩
        · rwa [sameLexeme, sameWidth]
        · rwa [Reading.feed_cons_of_step steps]
      · cases same
        obtain ⟨token, _, _, -, longest, -, steps', -⟩ :=
          isTokens.fed (not_isTokenSpace_of_continues continues) feeds
        have nothing := expects_after_shorter steps extends_ (fun _ => notAllowed) continues
        have rejected := nothing _ longest.1.cons.1
        rw [Reading.step_expects steps'] at rejected
        cases rejected
    · rintro ⟨tokens, after, isTokens, feeds, result⟩
      obtain ⟨token, more, next', rfl, longest, found', steps', isMore, feeds⟩ :=
        isTokens.fed notSpace feeds
      cases found.symm.trans found'
      have sameToken : lexeme = token.lexeme := (List.prefix_iff_eq_take.mp longest.1.2).symm
      rw [sameToken, steps'] at steps
      cases steps
      exact ⟨more, after, isMore, feeds, result⟩
  | case5 reading offset last c rest notSpace terminal width found lexeme noStep =>
    constructor
    · rintro ⟨⟩
    · rintro ⟨tokens, after, isTokens, feeds, -⟩
      obtain ⟨token, more, next, rfl, longest, found', steps, -, -⟩ := isTokens.fed notSpace feeds
      cases found.symm.trans found'
      have sameLexeme : lexeme = token.lexeme := (List.prefix_iff_eq_take.mp longest.1.2).symm
      rw [sameLexeme, steps] at noStep
      cases noStep
  | case6 reading offset last c rest notSpace noToken =>
    constructor
    · rintro ⟨⟩
    · rintro ⟨tokens, after, isTokens, feeds, -⟩
      obtain ⟨token, more, next, rfl, -, found, -, -, -⟩ := isTokens.fed notSpace feeds
      cases noToken.symm.trans found
  | case7 reading offset last c rest notSpace noToken =>
    constructor
    · rintro ⟨⟩
    · rintro ⟨tokens, after, isTokens, feeds, -⟩
      obtain ⟨token, more, next, rfl, -, found, -, -, -⟩ := isTokens.fed notSpace feeds
      cases noToken.symm.trans found

end

end TypeSchema
