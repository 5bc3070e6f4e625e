/-
**No fault of a type text is reported late.**

* `digits_of_isInteger`, `inRange_point`: an integer is its sign and its digits, and with a point
  behind it is a numeral whose length does not matter;
* `Completable`: no literal among tokens is out of range, an integer at the end aside;
* `exists_completion_iff`: **what has been read can be completed to a text that has a type** exactly
  if its tokens are completable;
* `faults_not_late`: so can what stands in front of a fault, and to a text of the grammar it always
  can.
-/

import TypeSchema.Proofs.TypeExpr.Prefix

namespace TypeSchema

variable {reading next middle : Reading} {text front lexeme more : List Char}
  {tokens before after us : List Token} {token : Token} {numeral : Numeral} {rest : List Char}
  {error : SyntaxError} {path : Option String} {start : Position}

/-! ### Integers -/

theorem readExponent_of_none (none_ : (Numeral.readExponent text).1 = none) :
    (Numeral.readExponent text).2 = text := by
  unfold Numeral.readExponent at none_ ⊢
  split at none_
  case h_4 => rfl
  all_goals
    split at none_
    · cases none_
    · rw [if_neg ‹_›]

theorem digits_of_readUnsigned (read : Numeral.readUnsigned? text = some (numeral, []))
    (integer : numeral.isInteger) : IsDigits text := by
  have parts : text.takeWhile isDecimalDigit ++ text.dropWhile isDecimalDigit = text :=
    List.takeWhile_append_dropWhile
  unfold Numeral.readUnsigned? at read
  simp only at read
  split at read
  · split at read
    · cases read
    · simp only [Option.some.injEq, Prod.mk.injEq] at read
      obtain ⟨rfl, -⟩ := read
      cases integer
  · split at read
    · cases read
    · rename_i whole
      simp only [Option.some.injEq, Prod.mk.injEq] at read
      obtain ⟨rfl, atEnd⟩ := read
      have noExponent : (Numeral.readExponent (text.dropWhile isDecimalDigit)).1 = none := by
        simpa [Numeral.isInteger] using integer
      rw [readExponent_of_none noExponent] at atEnd
      rw [atEnd, List.append_nil] at parts
      rw [← parts]
      exact isDigits_takeWhile whole

/-- An integer that is read to its end is a sign and digits. -/
theorem exists_digits (read : Numeral.read? lexeme = some (numeral, []))
    (integer : numeral.isInteger) :
    ∃ sign digits, (sign = [] ∨ sign = ['-']) ∧ IsDigits digits ∧ lexeme = sign ++ digits := by
  unfold Numeral.read? at read
  split at read
  · rename_i digits
    obtain ⟨⟨unsigned, after⟩, readDigits, same⟩ := Option.map_eq_some_iff.mp read
    cases same
    exact ⟨['-'], digits, .inr rfl, digits_of_readUnsigned readDigits integer, rfl⟩
  · exact ⟨[], _, .inl rfl, digits_of_readUnsigned read integer, rfl⟩

/-- With a point behind it, an integer is a numeral in range. -/
theorem inRange_point {sign digits : List Char} (isSign : sign = [] ∨ sign = ['-'])
    (isDigits : IsDigits digits) :
    Terminal.numeral.Lexeme (sign ++ digits ++ ['.']) ∧
      Token.InRange ⟨.numeral, sign ++ digits ++ ['.']⟩ := by
  have point : ¬ isDecimalDigit '.' = true := by decide
  have read : Numeral.readUnsigned? (digits ++ ['.']) =
      some (⟨false, digits, some [], none⟩, []) := by
    unfold Numeral.readUnsigned?
    simp only [List.takeWhile_append_of_pos isDigits.2, List.dropWhile_append_of_pos isDigits.2,
      List.takeWhile_cons_of_neg point, List.dropWhile_cons_of_neg point, List.append_nil]
    rw [if_neg fun none_ => isDigits.1 none_.1]
    rfl
  have noInteger : ∃ negative, Numeral.read? (sign ++ digits ++ ['.']) =
      some (⟨negative, digits, some [], none⟩, []) := by
    rcases isSign with rfl | rfl
    · exact ⟨false, read_of_readUnsigned read⟩
    · refine ⟨true, ?_⟩
      rw [List.singleton_append, List.cons_append, Numeral.read?, read]
      rfl
  obtain ⟨negative, read⟩ := noInteger
  have isPointed : IsMantissa (digits ++ ['.']) := .point isDigits (List.forall_mem_nil _)
  refine ⟨⟨sign, digits ++ ['.'], [], isSign, isPointed, .none, by simp⟩, by rintro ⟨⟩, ?_⟩
  intro _ other rest readsOther integer
  cases read.symm.trans readsOther
  cases integer

/-! ### Completions -/

/-- No literal among tokens is out of range, a number aside that ends with the text: it may go on
with a point, and then it is no integer. -/
def Completable (front : List Char) (tokens : List Token) : Prop :=
  ∀ before token after, tokens = before ++ token :: after →
    token.InRange ∨ token.terminal = .numeral ∧ after = [] ∧ token.lexeme <:+ front

theorem inRange_of_plain (noText : token.terminal ≠ .text) (noNumeral : token.terminal ≠ .numeral) :
    token.InRange :=
  ⟨fun same => absurd same noText, fun same => absurd same noNumeral⟩

/-- Where one number may stand, so may any other. -/
theorem exists_step_numeral (steps : reading.step .numeral lexeme = some next) (other : List Char) :
    ∃ after, reading.step .numeral other = some after := by
  have expects := Reading.step_expects steps
  obtain ⟨place, stack⟩ := reading
  cases place with
  | typeStart | operandStart | tupleItem | nextArgument | indexerStart => exact ⟨_, rfl⟩
  | firstMember object =>
    obtain ⟨outer, exact, members⟩ := object
    cases exact <;> cases expects
  | _ => cases expects

/-- No white space stands behind a number that ends with the text. -/
theorem gap_eq_nil {head gap : List Char} (isLexeme : Terminal.numeral.Lexeme lexeme)
    (spaces : ∀ c ∈ gap, isTokenSpace c) (atEnd : lexeme <:+ head ++ (lexeme ++ gap)) :
    gap = [] := by
  by_contra some_
  obtain ⟨before, same⟩ := atEnd
  obtain ⟨c, rest, isCons, -⟩ := isLexeme.cons
  have nonempty : lexeme ≠ [] := by simp [isCons]
  have last := congrArg List.getLast? same
  rw [List.getLast?_append_of_ne_nil _ nonempty, ← List.append_assoc,
    List.getLast?_append_of_ne_nil _ some_] at last
  obtain ⟨d, isLast⟩ := Option.ne_none_iff_exists'.mp (mt List.getLast?_eq_none_iff.mp some_)
  have space := spaces d (List.mem_of_getLast? isLast)
  have visible := isLexeme.shape.noSpace (by simp) d (List.mem_of_getLast? (last.trans isLast))
  rw [space] at visible
  cases visible

/-- Tokens of a completed text that has a type are in range if they stay. -/
theorem completable_of_accepted (isTokens : Tokens front tokens)
    (feeds : reading.feed tokens = some next) {node : TypeNode}
    (accepted : TypeNode.ofText (front ++ more) path start = .ok node) :
    Completable front tokens := by
  obtain ⟨all, tree, areAll, derives, -⟩ := TypeNode.accepted_iff.mp accepted
  have inRange := derives.inRange
  intro before token after whole
  obtain ⟨kept, last, head, gap, isWhole, isFront, isLexeme, spaces, stays⟩ :=
    isTokens.exists_last feeds (by simp [whole])
  obtain ⟨us, rfl, areUs⟩ := (stays more all).mp areAll
  rcases List.eq_nil_or_concat' after with rfl | ⟨init, final, rfl⟩
  · obtain ⟨rfl, same⟩ := List.append_inj' (whole.symm.trans isWhole) rfl
    cases same
    have ofLongest (longest : token.Longest (token.lexeme ++ (gap ++ more))) : token.InRange := by
      obtain ⟨_, rfl, -⟩ := longest.tokens_iff.mp areUs
      exact inRange token (by simp)
    by_cases isText : token.terminal = .text
    · refine .inl (ofLongest ?_)
      obtain ⟨terminal, lexeme⟩ := token
      cases isText
      exact longest_text isLexeme _
    by_cases isNumeral : token.terminal = .numeral
    · cases gap with
      | nil =>
        refine .inr ⟨isNumeral, rfl, head, ?_⟩
        rw [isFront, List.append_nil]
      | cons c gap =>
        exact .inl (ofLongest ((longest_lexeme isLexeme).before_space
          (spaces c List.mem_cons_self) (gap ++ more)))
    · exact .inl (inRange_of_plain isText isNumeral)
  · have isKept : kept = before ++ token :: init := by
      have same : (before ++ token :: init) ++ [final] = kept ++ [last] := by
        rw [← isWhole, whole]
        simp
      exact (List.append_inj' same rfl).1.symm
    exact .inl (inRange token (by simp [isKept]))

/-- With a point behind it, a number at the end of a text is in range. -/
theorem exists_point (isTokens : Tokens front (before ++ [token]))
    (feeds : reading.feed (before ++ [token]) = some next) (isNumeral : token.terminal = .numeral)
    (atEnd : token.lexeme <:+ front) (outOfRange : ¬ token.InRange) :
    ∃ pointed after, Tokens (front ++ ['.']) (before ++ [pointed]) ∧ pointed.InRange ∧
      reading.feed (before ++ [pointed]) = some after := by
  obtain ⟨terminal, lexeme⟩ := token
  cases isNumeral
  obtain ⟨kept, last, head, gap, isWhole, rfl, isLexeme, spaces, stays⟩ :=
    isTokens.exists_last feeds (by simp)
  obtain ⟨rfl, same⟩ := List.append_inj' isWhole rfl
  cases same
  cases gap_eq_nil isLexeme spaces atEnd
  obtain ⟨sign, digits, isSign, isDigits, rfl⟩ : ∃ sign digits, (sign = [] ∨ sign = ['-']) ∧
      IsDigits digits ∧ lexeme = sign ++ digits := by
    by_contra noInteger
    obtain ⟨numeral, read⟩ := read_lexeme isLexeme
    refine outOfRange ⟨(nomatch ·), fun _ other rest readsOther integer => ?_⟩
    cases read.symm.trans readsOther
    exact absurd (exists_digits read integer) noInteger
  obtain ⟨isPointed, inRange⟩ := inRange_point isSign isDigits
  obtain ⟨middle, feedsBefore, steps⟩ :=
    Option.bind_eq_some_iff.mp (Reading.feed_append ▸ feeds)
  rw [Reading.feed_cons] at steps
  obtain ⟨_, steps, -⟩ := Option.bind_eq_some_iff.mp steps
  obtain ⟨after, stepsOn⟩ := exists_step_numeral steps (sign ++ digits ++ ['.'])
  refine ⟨⟨.numeral, sign ++ digits ++ ['.']⟩, after, ?_, inRange, ?_⟩
  · exact (stays ['.'] _).mpr ⟨_, rfl, tokens_lexeme isPointed⟩
  · rw [Reading.feed_append_of_feed feedsBefore, Reading.feed_cons_of_step stepsOn]
    rfl

/-- What has been read with its tokens in range can be completed. -/
theorem exists_node_of_inRange (isTokens : Tokens front tokens)
    (feeds : Reading.initial.feed tokens = some reading)
    (inRange : ∀ token ∈ tokens, token.InRange) (path : Option String) (start : Position) :
    ∃ more node, TypeNode.ofText (front ++ more) path start = .ok node := by
  obtain ⟨expr, isExpr⟩ := ofText_completed isTokens feeds
  refine ⟨printed reading.completion, (exists_node_iff (isTokens.completed reading) isExpr path
    start).mpr fun token member => ?_⟩
  rcases List.mem_append.mp member with isRead | isMissing
  · exact inRange token isRead
  · obtain ⟨-, noText, noNumeral⟩ := Reading.mem_completion isMissing
    exact inRange_of_plain noText noNumeral

/-- **What has been read can be completed to a text that has a type** exactly if its tokens are
completable. -/
theorem exists_completion_iff (isTokens : Tokens front tokens)
    (feeds : Reading.initial.feed tokens = some reading) (path : Option String) (start : Position) :
    (∃ more node, TypeNode.ofText (front ++ more) path start = .ok node) ↔
      Completable front tokens := by
  constructor
  · rintro ⟨more, node, accepted⟩
    exact completable_of_accepted isTokens feeds accepted
  · intro completable
    by_cases inRange : ∀ token ∈ tokens, token.InRange
    · exact exists_node_of_inRange isTokens feeds inRange path start
    · simp only [not_forall] at inRange
      obtain ⟨token, member, outOfRange⟩ := inRange
      obtain ⟨before, after, rfl⟩ := List.append_of_mem member
      obtain ⟨isNumeral, rfl, atEnd⟩ :=
        (completable before token after rfl).resolve_left outOfRange
      obtain ⟨pointed, _, areTokens, isPointed, feedsOn⟩ :=
        exists_point isTokens feeds isNumeral atEnd outOfRange
      have others : ∀ other ∈ before ++ [pointed], other.InRange := by
        intro other isOther
        rcases List.mem_append.mp isOther with isBefore | isLast
        · obtain ⟨front, behind, rfl⟩ := List.append_of_mem isBefore
          have here := completable front other (behind ++ [token]) (by simp)
          exact here.resolve_right (by simp)
        · rwa [List.mem_singleton.mp isLast]
      obtain ⟨more, node, accepted⟩ :=
        exists_node_of_inRange areTokens feedsOn others path start
      exact ⟨'.' :: more, node, by rwa [List.append_assoc] at accepted⟩

/-! ### Faults -/

/-- What stands in front of a fault. In front of an unexpected end this is the whole text. -/
def SyntaxFault.inFront (fault : SyntaxFault) (offset : Nat) (text : List Char) : List Char :=
  match fault with
  | .endOfInput => text
  | _ => text.take offset

/-- What stands in front of a fault has been read. -/
theorem exists_front_tokens {fault : SyntaxFault} {offset : Nat}
    (failed : TypeExpr.ofText text = .error (fault, offset)) :
    ∃ tokens reading, Tokens (fault.inFront offset text) tokens ∧
      Reading.initial.feed tokens = some reading := by
  obtain ⟨front, back, tokens, reading, whole, isTokens, feeds, atEnd, inside⟩ :=
    Reading.exists_feed failed
  have isFront : fault.inFront offset text = front := by
    by_cases ends : fault = .endOfInput
    · rw [ends, SyntaxFault.inFront, whole, atEnd ends, List.append_nil]
    · have before : fault.inFront offset text = text.take offset := by
        cases fault <;> first | rfl | exact absurd rfl ends
      rw [before, inside ends, whole, Nat.zero_add, List.take_left]
  exact ⟨tokens, reading, by rwa [isFront], feeds⟩

/-- **No fault is reported late.** What stands in front of a fault, a literal aside, can always
be completed to a text of the grammar. It can be completed to a text that has a type exactly if no
literal in it is out of range, an integer that ends there aside. -/
theorem faults_not_late (failed : TypeNode.ofText text path start = .error error)
    (noLiteral : ∀ literal, error.fault ≠ .literal literal) :
    ∃ offset tokens, TypeExpr.ofText text = .error (error.fault, offset) ∧
      offset ≤ text.length ∧
      error = ⟨error.fault, path, start.within (positionAt text offset)⟩ ∧
      Tokens (error.fault.inFront offset text) tokens ∧
      (∃ more expr, TypeExpr.ofText (error.fault.inFront offset text ++ more) = .ok expr) ∧
      ((∃ more node,
          TypeNode.ofText (error.fault.inFront offset text ++ more) path start = .ok node) ↔
        Completable (error.fault.inFront offset text) tokens) := by
  cases parsed : TypeExpr.ofText text with
  | error reported =>
    obtain ⟨fault, offset⟩ := reported
    have same := (TypeNode.ofText_of_fault parsed path start).symm.trans failed
    cases same
    obtain ⟨tokens, reading, isTokens, feeds⟩ := exists_front_tokens parsed
    exact ⟨offset, tokens, rfl, offset_le_of_ofText parsed, rfl, isTokens,
      ⟨_, ofText_completed isTokens feeds⟩, exists_completion_iff isTokens feeds path start⟩
  | ok expr =>
    rw [TypeNode.ofText, ReadNode.ofText, parsed] at failed
    dsimp only at failed
    split at failed
    · cases failed
      exact absurd rfl (noLiteral _)
    · cases failed

/-- A tuple that is not closed can be closed. -/
theorem faults_not_late_openTuple :
    TypeNode.ofText "[ string".toList none .first = .error ⟨.endOfInput, none, ⟨1, 3⟩⟩ ∧
      ∃ more node, TypeNode.ofText ("[ string".toList ++ more) none .first = .ok node := by
  have failed : TypeNode.ofText "[ string".toList none .first =
      .error ⟨.endOfInput, none, ⟨1, 3⟩⟩ := by with_unfolding_all rfl
  obtain ⟨offset, tokens, -, -, -, isTokens, -, completes⟩ :=
    faults_not_late failed fun literal same => nomatch same
  have opens : Tokens "[".toList [⟨.openBracket, "[".toList⟩] := tokens_sign rfl
  have isName : Tokens "string".toList [⟨.name, "string".toList⟩] := tokens_sign rfl
  cases isTokens.unique (opens.append_space (c := ' ') rfl isName)
  refine ⟨failed, completes.mpr fun before token after whole => .inl ?_⟩
  have isToken : token ∈ [⟨.openBracket, "[".toList⟩, ⟨.name, "string".toList⟩] := by
    rw [show [_, _] = before ++ token :: after from whole]
    simp
  simp only [List.mem_cons, List.not_mem_nil, or_false] at isToken
  rcases isToken with rfl | rfl <;> exact inRange_of_plain (by decide) (by decide)

/-- Behind a string literal that denotes no text, the next token is reported, although no text that
begins like this has a type. -/
theorem late_after_largeEscape :
    TypeNode.ofText "'\\u\x7b110000\x7d' 1".toList none .first =
        .error ⟨.token "1", none, ⟨1, 14⟩⟩ ∧
      ∀ more node, TypeNode.ofText ("'\\u\x7b110000\x7d' 1".toList.take 13 ++ more) none .first ≠
        .ok node := by
  refine ⟨by with_unfolding_all rfl, fun more node accepted => ?_⟩
  have large : HasLargeEscape '\'' "\\u\x7b110000\x7d".toList :=
    ⟨[], "110000".toList, [], .nil, by decide, forall_mem_of_all (by decide), by decide, rfl⟩
  have digits : IsStringBody '\'' ("\x7b110000\x7d".toList ++ []) :=
    .append_plain (forall_mem_of_all (by decide)) .nil
  have isBody : IsStringBody '\'' "\\u\x7b110000\x7d".toList := .escaped (by decide) digits
  have isLiteral := lexeme_stringLiteral (.inr rfl) isBody
  obtain ⟨tokens, tree, isTokens, derives, -⟩ := TypeNode.accepted_iff.mp accepted
  obtain ⟨others, rfl, -⟩ := (longest_text isLiteral (' ' :: more)).tokens_iff.mp isTokens
  obtain ⟨value, denotes⟩ := (derives.inRange _ List.mem_cons_self).text rfl
  exact not_unescapes_inner large value denotes

end TypeSchema
