/-
**What has been read of a text.**

* `Reading.exists_feed`: the text in front of a fault has been read: its tokens lead to a reading;
* `Token.Longest.followed`: where a reading goes on with the next character, the token before it is
  the longest one whatever stands behind that character;
* `Tokens.exists_last`: **all tokens but the last one stay when a text goes on**, and so does the
  last one if white space stands behind it.
-/

import TypeSchema.Proofs.TypeExpr.Completion
import TypeSchema.Proofs.TypeExpr.Places
import TypeSchema.Proofs.TypeExpr.Range

namespace TypeSchema

variable {reading next : Reading} {offset last place : Nat} {fault : SyntaxFault} {c d : Char}
  {text front back more lexeme : List Char} {tokens ts us : List Token} {token : Token}
  {terminal : Terminal}

/-! ### Faults -/

/-- Where nothing that begins with a character is looked for, that character is the fault. -/
theorem Reading.run_stuck (noSpace : ¬ isTokenSpace d)
    (nothing : ∀ kind ∈ Terminal.openedBy d, reading.place.expects kind = false)
    (failed : reading.run offset last (d :: more) = .error (fault, place)) :
    fault ≠ .endOfInput ∧ place = offset := by
  have noToken : firstToken? reading.place.expects (d :: more) = none := by
    by_contra some_
    obtain ⟨⟨terminal, width⟩, found⟩ := Option.ne_none_iff_exists'.mp some_
    obtain ⟨expected, read, -⟩ := firstToken_eq_some found
    obtain ⟨lexeme, isLexeme, isFront, -⟩ := Terminal.exists_lexeme read
    have begins : Token.Begins ⟨terminal, lexeme⟩ (d :: more) := ⟨isLexeme, isFront⟩
    rw [nothing terminal begins.cons.1] at expected
    cases expected
  rw [Reading.run, if_neg noSpace, noToken] at failed
  simp only at failed
  split at failed <;>
  · cases failed
    exact ⟨by simp, rfl⟩

/-- **The text in front of a fault has been read.** At the end of input this is the whole text. -/
theorem Reading.exists_feed (failed : reading.run offset last text = .error (fault, place)) :
    ∃ front back tokens next, text = front ++ back ∧ Tokens front tokens ∧
      reading.feed tokens = some next ∧ (fault = .endOfInput → back = []) ∧
        (fault ≠ .endOfInput → place = offset + front.length) := by
  fun_induction Reading.run reading offset last text with
  | case1 => cases failed
  | case2 reading offset last noResult =>
    cases failed
    exact ⟨[], [], [], reading, rfl, .nil, rfl, fun _ => rfl, fun other => absurd rfl other⟩
  | case3 reading offset last c rest space ih =>
    obtain ⟨front, back, tokens, next, rfl, isTokens, feeds, atEnd, inside⟩ := ih failed
    refine ⟨c :: front, back, tokens, next, rfl, .space space isTokens, feeds, atEnd, ?_⟩
    intro other
    rw [inside other, List.length_cons]
    omega
  | case4 reading offset last c rest notSpace terminal width found lexeme next steps ih =>
    obtain ⟨front, back, tokens, after, same, isTokens, feeds, atEnd, inside⟩ := ih failed
    obtain ⟨positive, fits⟩ := width_of_firstToken found
    have long : lexeme.length = width := by
      rw [List.length_take, List.length_cons]
      omega
    have whole : c :: rest = lexeme ++ (front ++ back) := by
      obtain ⟨width, rfl⟩ := Nat.exists_eq_add_of_le' positive
      rw [← same]
      exact (List.take_append_drop (width + 1) (c :: rest)).symm
    have longest : Token.Longest ⟨terminal, lexeme⟩ (lexeme ++ front) := by
      rcases firstToken_cases found with longest | ⟨longer, extends_, notAllowed, _, d, others,
          isText, rfl, continues⟩
      · refine longest.of_prefix (List.prefix_append ..) ?_
        rw [whole]
        exact ⟨back, by simp⟩
      · -- Behind the beginning of a longer lexeme comes the fault.
        cases isText
        have nothing := expects_after_shorter steps extends_ (fun _ => notAllowed) continues
        obtain ⟨other, sameOffset⟩ :=
          run_stuck (not_isTokenSpace_of_continues continues) nothing failed
        have empty : front = [] := by
          rw [← List.length_eq_zero_iff]
          have := inside other
          omega
        obtain ⟨-, read, -⟩ := firstToken_eq_some found
        obtain ⟨taken, isLexeme, isFront, wide⟩ := Terminal.exists_lexeme read
        have sameLexeme : taken = lexeme := by
          rw [List.prefix_iff_eq_take.mp isFront, wide]
        rw [empty, List.append_nil]
        rw [sameLexeme] at isLexeme
        exact longest_lexeme isLexeme
    refine ⟨lexeme ++ front, back, ⟨terminal, lexeme⟩ :: tokens, after, by rw [whole]; simp,
      .token longest (by rwa [List.drop_left]), ?_, atEnd, ?_⟩
    · rwa [Reading.feed_cons_of_step steps]
    · intro other
      rw [inside other, List.length_append, long]
      omega
  | case5 | case6 | case7 =>
    cases failed
    exact ⟨[], _, [], _, rfl, .nil, rfl, by rintro ⟨⟩, fun _ => rfl⟩

/-! ### Tokens that stay -/

/-- What a character of a name or a number may begin. -/
theorem openedBy_of_isWordChar (word : isWordChar c) :
    ∀ kind ∈ Terminal.openedBy c, kind ∈ [.name, .numeral, .ellipsis, .dot, .variance] := by
  by_cases starts : isNameStart c
  · rw [Terminal.openedBy, if_neg (not_quote_of_isNameStart starts), if_pos starts]
    simp
  by_cases digit : isDecimalDigit c
  · rw [Terminal.openedBy_of_isDecimalDigit digit]
    simp
  simp only [isWordChar, isNamePart, Char.isAlphanum, Bool.or_eq_true, beq_iff_eq] at word
  rcases word with ((((((alpha | isDigit) | rfl) | rfl) | digit') | rfl) | rfl) | rfl
  · simp [isNameStart, alpha] at starts
  · have ascii := (ascii_of_isAlphanum (c := c) (by simp [Char.isAlphanum, isDigit])).2
    simp [isDecimalDigit, decimalDigit?, ascii, isDigit] at digit
  · exact absurd rfl starts
  · exact absurd rfl starts
  · exact absurd digit' digit
  all_goals
    intro kind opens
    revert kind
    decide

theorem place_of_step_numeral (steps : reading.step .numeral lexeme = some next) :
    ∃ pending, next.place = .afterOperand pending (.numeral lexeme) := by
  have expects := Reading.step_expects steps
  obtain ⟨place, stack⟩ := reading
  cases place with
  | typeStart | operandStart | tupleItem | nextArgument | indexerStart =>
    cases steps
    exact ⟨_, rfl⟩
  | firstMember object =>
    obtain ⟨outer, exact, members⟩ := object
    cases exact <;> cases expects
  | _ => cases expects

/-- After a number, nothing can be read that begins with a character of a number. -/
theorem expects_after_numeral (steps : reading.step .numeral lexeme = some next)
    (word : isWordChar c) : ∀ kind ∈ Terminal.openedBy c, next.place.expects kind = false := by
  obtain ⟨pending, place⟩ := place_of_step_numeral steps
  intro kind opens
  have isKind := openedBy_of_isWordChar word kind opens
  rw [place]
  simp only [List.mem_cons, List.not_mem_nil, or_false] at isKind
  rcases isKind with rfl | rfl | rfl | rfl | rfl <;> rfl

/-- No lexeme that begins a text goes on with its next character. -/
theorem Token.Longest.not_longer (longest : token.Longest (token.lexeme ++ c :: text)) :
    ¬ token.terminal.Lexeme (token.lexeme ++ [c]) := by
  intro longer
  have begins : Token.Begins ⟨token.terminal, token.lexeme ++ [c]⟩ (token.lexeme ++ c :: text) :=
    ⟨longer, text, by simp⟩
  have long := longest.2 _ begins
  rw [List.length_append, List.length_singleton] at long
  omega

/-- A lexeme of the same kind does not go on with a character that can be read next. -/
theorem Token.Longest.not_same (longest : token.Longest (token.lexeme ++ c :: text))
    (steps : reading.step token.terminal token.lexeme = some next) {kind : Terminal}
    (opens : kind ∈ Terminal.openedBy c) (expects : next.place.expects kind) :
    ¬ token.terminal.Lexeme (token.lexeme ++ c :: more) := by
  intro longer
  have isLexeme := longest.1.1
  have notLonger := longest.not_longer
  obtain ⟨terminal, lexeme⟩ := token
  dsimp only at *
  cases terminal with
  | text =>
    have atMost := (longest_text isLexeme (c :: more)).2 ⟨.text, _⟩ ⟨longer, List.prefix_rfl⟩
    simp only [List.length_append, List.length_cons] at atMost
    omega
  | numeral =>
    have word := isWordChar_of_numeral longer c (by simp)
    rw [expects_after_numeral steps word kind opens] at expects
    cases expects
  | name =>
    obtain ⟨first, rest, starts, -, rfl⟩ := isLexeme
    obtain ⟨_, parts, -, each, same⟩ := longer
    cases same
    have front : rest ++ [c] <+: rest ++ c :: more := ⟨more, by simp⟩
    exact notLonger ⟨first, rest ++ [c], starts, fun d member => each d (front.subset member), rfl⟩
  | variance => rcases isLexeme with rfl | rfl <;> simp [Terminal.Lexeme] at longer
  | _ =>
    cases isLexeme
    cases longer

/-- Where a reading goes on with the next character, the token before it is the longest one whatever
stands behind that character. -/
theorem Token.Longest.followed (longest : token.Longest (token.lexeme ++ c :: text))
    (steps : reading.step token.terminal token.lexeme = some next) {kind : Terminal}
    (opens : kind ∈ Terminal.openedBy c) (expects : next.place.expects kind) (more : List Char) :
    token.Longest (token.lexeme ++ c :: more) := by
  have isLexeme := longest.1.1
  have front : token.lexeme <+: token.lexeme ++ c :: more := List.prefix_append ..
  refine ⟨⟨isLexeme, front⟩, fun other begins => ?_⟩
  by_contra longer
  rw [not_le] at longer
  obtain ⟨rest, isOther⟩ : ∃ rest, other.lexeme = token.lexeme ++ c :: rest := by
    obtain ⟨rest, isRest⟩ := List.prefix_of_prefix_length_le front begins.2 longer.le
    cases rest with
    | nil => simp [← isRest] at longer
    | cons d rest =>
      have same := begins.2
      rw [← isRest, List.prefix_append_right_inj, List.cons_prefix_cons] at same
      exact ⟨rest, by rw [← isRest, same.1]⟩
  have isLonger := begins.1
  rw [isOther] at isLonger
  by_cases same : other.terminal = token.terminal
  · rw [same] at isLonger
    exact longest.not_same steps opens expects isLonger
  · rcases Terminal.extends_of_prefix begins.1 begins.2 isLexeme front same with extends_ | shorter
    · obtain ⟨first, d, others, isPair, isSingle, continues⟩ :=
        extends_.parts begins.1 isLexeme begins.2 front
      have sameNext : d = c := by
        rw [isPair, isSingle, List.singleton_append, List.cons.injEq, List.cons.injEq] at isOther
        exact isOther.2.1
      rw [sameNext] at continues
      have notBrace : token.terminal ≠ .openBrace := by
        intro isBrace
        rw [isBrace] at isLexeme continues
        have isOpen : token.lexeme = ['\x7b'] := isLexeme
        have isBar : c = '|' := continues
        rw [isOpen, isBar] at longest
        have long := longest.2 ⟨.openExact, ['\x7b', '|']⟩ ⟨rfl, text, rfl⟩
        rw [isOpen] at long
        exact absurd long (by decide)
      have nothing := expects_after_shorter steps extends_ (absurd · notBrace) continues kind opens
      rw [expects] at nothing
      cases nothing
    · have := shorter.length_lt isLexeme begins.1 front begins.2
      omega

/-! ### Texts that are continued -/

theorem Token.Longest.not_space (longest : token.Longest (c :: text)) : ¬ isTokenSpace c := by
  intro space
  have opens := longest.1.cons.1
  rw [openedBy_of_isTokenSpace space] at opens
  cases opens

/-- The tokens of a text begin with its longest token. -/
theorem Token.Longest.tokens_iff (longest : token.Longest (token.lexeme ++ text)) :
    Tokens (token.lexeme ++ text) tokens ↔ ∃ us, tokens = token :: us ∧ Tokens text us := by
  constructor
  · intro isTokens
    obtain ⟨c, rest, same, -⟩ := longest.1.1.cons
    have notSpace : ¬ isTokenSpace c := by
      rw [same, List.cons_append] at longest
      exact longest.not_space
    obtain ⟨first, us, rfl, isFirst, areMore⟩ : ∃ first us, tokens = first :: us ∧
        first.Longest (token.lexeme ++ text) ∧
          Tokens ((token.lexeme ++ text).drop first.lexeme.length) us := by
      rw [same] at isTokens ⊢
      exact isTokens.of_not_space notSpace
    cases longest.unique isFirst
    rw [List.drop_left] at areMore
    exact ⟨us, rfl, areMore⟩
  · rintro ⟨us, rfl, areMore⟩
    exact .token longest (by rwa [List.drop_left])

theorem Tokens.spaces (isTokens : Tokens text []) : ∀ c ∈ text, isTokenSpace c := by
  induction text with
  | nil => exact fun _ member => nomatch member
  | cons c rest ih =>
    cases isTokens with
    | space space more => exact List.forall_mem_cons.mpr ⟨space, ih more⟩

/-- A token with another one behind it stays the longest one when the text goes on. -/
theorem Token.Longest.stays (longest : token.Longest (token.lexeme ++ text))
    (steps : reading.step token.terminal token.lexeme = some next) (areMore : Tokens text tokens)
    {after : Reading} (feeds : next.feed tokens = some after) (some_ : tokens ≠ [])
    (more : List Char) : token.Longest (token.lexeme ++ (text ++ more)) := by
  cases text with
  | nil => exact absurd areMore.of_nil some_
  | cons c rest =>
    by_cases space : isTokenSpace c
    · exact (longest_lexeme longest.1.1).before_space space (rest ++ more)
    · obtain ⟨second, us, rfl, isSecond, -⟩ := areMore.of_not_space space
      rw [Reading.feed_cons] at feeds
      obtain ⟨_, stepsOn, -⟩ := Option.bind_eq_some_iff.mp feeds
      exact longest.followed steps isSecond.1.cons.1 (Reading.step_expects stepsOn) (rest ++ more)

/-- **All tokens but the last one stay when a text goes on**, and so does the last one if white
space stands behind it. -/
theorem Tokens.exists_last (isTokens : Tokens front tokens)
    (feeds : reading.feed tokens = some next) (some_ : tokens ≠ []) :
    ∃ before last head gap, tokens = before ++ [last] ∧ front = head ++ (last.lexeme ++ gap) ∧
      last.terminal.Lexeme last.lexeme ∧ (∀ c ∈ gap, isTokenSpace c) ∧
        ∀ more all, Tokens (front ++ more) all ↔
          ∃ us, all = before ++ us ∧ Tokens (last.lexeme ++ (gap ++ more)) us := by
  induction isTokens generalizing reading with
  | nil => exact absurd rfl some_
  | @space c rest tokens space _ ih =>
    obtain ⟨before, last, head, gap, isTokens, isFront, isLexeme, spaces, stays⟩ := ih feeds some_
    refine ⟨before, last, c :: head, gap, isTokens, by rw [isFront, List.cons_append], isLexeme,
      spaces, fun more all => ?_⟩
    rw [← stays]
    exact ⟨fun whole => whole.of_space space, .space space⟩
  | @token text token tokens longest areMore ih =>
    obtain ⟨tail, rfl⟩ := longest.1.2
    rw [List.drop_left] at areMore ih
    cases tokens with
    | nil =>
      refine ⟨[], token, [], tail, rfl, rfl, longest.1.1, areMore.spaces, fun more all => ?_⟩
      rw [List.append_assoc]
      simp
    | cons second others =>
      obtain ⟨middle, steps, feedsOn⟩ := Option.bind_eq_some_iff.mp (Reading.feed_cons ▸ feeds)
      obtain ⟨before, last, head, gap, isTokens, isFront, isLexeme, spaces, stays⟩ :=
        ih feedsOn (List.cons_ne_nil _ _)
      refine ⟨token :: before, last, token.lexeme ++ head, gap, by rw [isTokens]; rfl,
        by rw [isFront, List.append_assoc], isLexeme, spaces, fun more all => ?_⟩
      have first := longest.stays steps areMore feedsOn (List.cons_ne_nil _ _) more
      rw [List.append_assoc, first.tokens_iff]
      constructor
      · rintro ⟨us, rfl, areUs⟩
        obtain ⟨vs, rfl, areVs⟩ := (stays more us).mp areUs
        exact ⟨vs, rfl, areVs⟩
      · rintro ⟨vs, rfl, areVs⟩
        exact ⟨before ++ vs, rfl, (stays more _).mpr ⟨vs, rfl, areVs⟩⟩

end TypeSchema
