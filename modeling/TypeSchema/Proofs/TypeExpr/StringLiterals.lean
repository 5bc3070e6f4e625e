/-
**String literals in type texts.**

* `longest_text`: a string literal is a token whatever stands behind it;
* `Tokens.append_space`: texts with white space between them have the tokens of both;
* `Derives.decoded`: the string literals of a text that has a type all denote texts;
* `string_literals_decode`: **a string literal denotes what is written in it**, as a type and as the
  key of a property, and one with a large escape is rejected wherever it stands.
-/

import TypeSchema.Proofs.Source.RightSide
import TypeSchema.Proofs.TypeExpr.Escapes

namespace TypeSchema

variable {quote c : Char} {text body rest lexeme side : List Char} {value : List CodePoint}
  {token : Token}
  {tokens more ts us : List Token} {node : TypeNode} {terminal : Terminal}

/-! ### String literals as tokens -/

/-- A text between quotes. -/
def stringLiteral (quote : Char) (body : List Char) : List Char := quote :: (body ++ [quote])

theorem lexeme_stringLiteral (isQuote : quote = '"' ∨ quote = '\'')
    (isBody : IsStringBody quote body) : Terminal.text.Lexeme (stringLiteral quote body) :=
  ⟨quote, body, isQuote, isBody, rfl⟩

theorem inner_stringLiteral (quote : Char) (body : List Char) :
    inner (stringLiteral quote body) = body := by
  rw [inner, stringLiteral, List.tail_cons, List.dropLast_concat]

/-- No lexeme of another kind begins like a string literal. -/
theorem terminal_eq_text {other : Token} (isLexeme : Terminal.text.Lexeme lexeme)
    (front : lexeme <+: text) (begins : other.Begins text) : other.terminal = .text := by
  by_contra different
  have related := Terminal.extends_of_prefix begins.1 begins.2 isLexeme front different
  generalize other.terminal = terminal at related
  rcases related with longer | longer <;> cases longer

/-- **A string literal is a token** whatever stands behind it. -/
theorem longest_text (isLexeme : Terminal.text.Lexeme lexeme) (rest : List Char) :
    Token.Longest ⟨.text, lexeme⟩ (lexeme ++ rest) := by
  have front := List.prefix_append lexeme rest
  refine ⟨⟨isLexeme, front⟩, fun other begins => ?_⟩
  have isText := terminal_eq_text isLexeme front begins
  obtain ⟨quote, body, isQuote, isBody, rfl⟩ := isLexeme
  have begins := begins
  rw [Token.Begins, isText] at begins
  obtain ⟨width, read, atMost⟩ := Terminal.exists_width begins.1 begins.2
  have taken : Terminal.text.width? (quote :: (body ++ [quote]) ++ rest) =
      some (body.length + 1 + 1) := by
    have read : stringRest? quote (body ++ quote :: rest) = some (body.length + 1) :=
      stringRest_eq_some isQuote isBody
    simp [Terminal.width?, isQuote, read]
  rw [taken, Option.some.injEq] at read
  simpa [← read] using atMost

/-! ### White space between tokens -/

/-- No white space stands inside other tokens. -/
theorem LexemeShape.noSpace (shape : LexemeShape terminal lexeme) (noText : terminal ≠ .text) :
    ∀ d ∈ lexeme, isTokenSpace d = false := by
  have visible {d : Char} (noBlank : isBlank d = false) : isTokenSpace d = false := by
    by_contra space
    rw [isBlank_of_isTokenSpace ((Bool.not_eq_false _).mp space)] at noBlank
    cases noBlank
  cases shape with
  | word _ _ each => exact fun d member => visible (not_isBlank_of_isWordChar (each d member))
  | text => exact absurd rfl noText
  | sign isSign =>
    have none_ : (signs.all fun sign => sign.2.all fun d => !isTokenSpace d) = true := by decide
    intro d member
    simpa using List.all_eq_true.mp (List.all_eq_true.mp none_ _ isSign) d member

/-- The longest token in front of white space does not depend on what stands behind that. -/
theorem Token.Longest.before_space (longest : token.Longest text) (space : isTokenSpace c)
    (rest : List Char) : token.Longest (text ++ c :: rest) := by
  obtain ⟨⟨isLexeme, front⟩, isLongest⟩ := longest
  have behind : token.lexeme <+: text ++ c :: rest := front.trans (List.prefix_append ..)
  refine ⟨⟨isLexeme, behind⟩, fun other begins => ?_⟩
  by_cases isText : other.terminal = .text
  · -- Then both are string literals, and a string literal is closed by its own quote.
    have isOther := begins.1
    rw [isText] at isOther
    have same := terminal_eq_text isOther begins.2 ⟨isLexeme, behind⟩
    rw [same] at isLexeme
    obtain ⟨more, isMore⟩ := behind
    rw [← isMore] at begins
    exact (longest_text isLexeme more).2 other begins
  · have visible := begins.1.shape.noSpace isText
    rcases Nat.lt_or_ge text.length other.lexeme.length with long | short
    · have inside : text ++ [c] <+: other.lexeme := by
        refine List.prefix_of_prefix_length_le ?_ begins.2 (by simpa using Nat.succ_le_of_lt long)
        exact ⟨rest, by simp⟩
      have noSpace := visible c (inside.subset (by simp))
      rw [space] at noSpace
      cases noSpace
    · exact isLongest other ⟨begins.1, List.prefix_of_prefix_length_le begins.2
        (List.prefix_append ..) short⟩

/-- **Texts with white space between them** have the tokens of both. -/
theorem Tokens.append_space (isTokens : Tokens text tokens) (space : isTokenSpace c)
    (areMore : Tokens rest more) : Tokens (text ++ c :: rest) (tokens ++ more) := by
  induction isTokens with
  | nil => exact .space space areMore
  | space inside _ ih => exact .space inside ih
  | @token text token tokens longest _ ih =>
    refine .token (longest.before_space space rest) ?_
    rwa [List.drop_append_of_le_length longest.1.2.length_le]

theorem Tokens.single (isLexeme : Terminal.text.Lexeme lexeme) :
    Tokens lexeme [⟨.text, lexeme⟩] := by
  have longest := longest_text isLexeme []
  rw [List.append_nil] at longest
  refine .token longest ?_
  rw [List.drop_length]
  exact .nil

/-- A text that is a token by itself. -/
theorem tokens_sign
    (found : firstToken? (fun _ => true) lexeme = some (terminal, lexeme.length)) :
    Tokens lexeme [⟨terminal, lexeme⟩] := by
  have longest := longest_of_firstToken found
  rw [List.take_length] at longest
  refine .token longest ?_
  rw [List.drop_length]
  exact .nil

/-! ### Denoting texts -/

/-- All string literals among tokens denote texts. -/
def Decoded (tokens : List Token) : Prop :=
  ∀ token ∈ tokens, token.terminal = .text → ∃ value, Unescapes (inner token.lexeme) value

/-- **The string literals of a text that has a type** all denote texts. -/
theorem Derives.decoded {symbol : Symbol} {value : symbol.Value}
    (derives : Derives symbol tokens value) : Decoded tokens := by
  refine derives.forall_token ?_ ?_ ?_
  · exact fun _ _ noText _ isText => absurd isText noText
  · exact fun _ value denotes _ => ⟨value, denotes⟩
  · exact fun _ _ _ _ isText => nomatch isText

/-! ### Objects with one property -/

/-- The brace that opens an object, and the one that closes it. -/
def openBrace (exact : Bool) : List Char := if exact then ['\x7b', '|'] else ['\x7b']

@[inherit_doc openBrace]
def closeBrace (exact : Bool) : List Char := if exact then ['|', '\x7d'] else ['\x7d']

/-- An object with one property, in parts with spaces between them. -/
def keyedText (exact optional : Bool) (key side : List Char) : List Char :=
  openBrace exact ++ ' ' :: (key ++ ' ' :: ((if optional then ['?', ' ', ':'] else [':']) ++
    ' ' :: (side ++ ' ' :: closeBrace exact)))

theorem tokens_keyedText (exact optional : Bool) (isLexeme : Terminal.text.Lexeme lexeme)
    (isTokens : Tokens side tokens) : ∃ mark, Optional .question mark ∧ mark.isEmpty = !optional ∧
      Tokens (keyedText exact optional lexeme side) (⟨openOf exact, openBrace exact⟩ ::
        ((⟨.text, lexeme⟩ :: (mark ++ ⟨.colon, [':']⟩ :: tokens)) ++
          [⟨closeOf exact, closeBrace exact⟩])) := by
  have space : isTokenSpace ' ' := rfl
  have opens : Tokens (openBrace exact) [⟨openOf exact, openBrace exact⟩] := by
    cases exact
    · exact tokens_sign rfl
    · exact tokens_sign rfl
  have closes : Tokens (closeBrace exact) [⟨closeOf exact, closeBrace exact⟩] := by
    cases exact
    · exact tokens_sign rfl
    · exact tokens_sign rfl
  have colon : Tokens [':'] [⟨.colon, [':']⟩] := tokens_sign rfl
  obtain ⟨mark, isMark, isOptional, isColon⟩ : ∃ mark, Optional .question mark ∧
      mark.isEmpty = !optional ∧
      Tokens (if optional then ['?', ' ', ':'] else [':']) (mark ++ [⟨.colon, [':']⟩]) := by
    cases optional with
    | false => exact ⟨[], .inl rfl, rfl, colon⟩
    | true =>
      have question : Tokens ['?'] [⟨.question, ['?']⟩] := tokens_sign rfl
      exact ⟨[_], .inr ⟨_, rfl⟩, rfl, question.append_space space colon⟩
  have whole := opens.append_space space ((Tokens.single isLexeme).append_space space
    (isColon.append_space space (isTokens.append_space space closes)))
  refine ⟨mark, isMark, isOptional, ?_⟩
  simpa [keyedText] using whole

/-- An object with one property has the tree of one, if its key denotes a name. -/
theorem derives_keyed (exact : Bool) {tree : ReadNode} {mark : List Token} {key : List Char}
    {name : List CodePoint} (isName : Unescapes (inner key) name) (isMark : Optional .question mark)
    (derives : Derives .start tokens tree) : Derives .start (⟨openOf exact, openBrace exact⟩ ::
      ((⟨.text, key⟩ :: (mark ++ ⟨.colon, [':']⟩ :: tokens)) ++
        [⟨closeOf exact, closeBrace exact⟩]))
      (.object [⟨name, tree, !mark.isEmpty⟩] exact none false) := by
  have property {ts : List Token} (value : Derives .type ts tree) :
      Derives .member (⟨.text, key⟩ :: (mark ++ ⟨.colon, [':']⟩ :: ts))
        (.property ⟨name, tree, !mark.isEmpty⟩) :=
    .property (.inl rfl) (.text isName) isMark value
  have object {ts : List Token} (inside : Derives (.list .member) ts
      [.property ⟨name, tree, !mark.isEmpty⟩]) :
      Derives .start
        (⟨openOf exact, openBrace exact⟩ :: (ts ++ [⟨closeOf exact, closeBrace exact⟩]))
        (.object [⟨name, tree, !mark.isEmpty⟩] exact none false) :=
    .start (.type (.lastAlternative (.nonunion (.arrays (.object inside)))))
  refine object ?_
  cases derives with
  | start whole => exact .lastItem (property whole)
  | @terminated ts _ l whole =>
    have items : Derives (.list .member)
        ((⟨.text, key⟩ :: (mark ++ ⟨.colon, [':']⟩ :: ts)) ++ ⟨.semicolon, l⟩ :: []) _ :=
      .item (property whole) (.tail _ (.head _)) .noItem
    simpa using items

/-! ### String literals -/

/-- A string literal as a type. -/
theorem ofText_stringLiteral (isQuote : quote = '"' ∨ quote = '\'')
    (isBody : IsStringBody quote body) (denotes : Unescapes body value) (path : Option String)
    (start : Position) : TypeNode.ofText (stringLiteral quote body) path start =
      .ok (.literal .string (.string (textOf value))) := by
  rw [← inner_stringLiteral quote body] at denotes
  exact TypeNode.accepted_iff.mpr ⟨_, _, .single (lexeme_stringLiteral isQuote isBody),
    .start (.type (.lastAlternative (.nonunion (.arrays (.text denotes))))), rfl⟩

/-- A string literal as the key of a property. -/
theorem ofText_keyedText (isQuote : quote = '"' ∨ quote = '\'')
    (isBody : IsStringBody quote body) (denotes : Unescapes body value)
    (accepted : TypeNode.ofText side none .first = .ok node) (exact optional : Bool)
    (path : Option String) (start : Position) :
    TypeNode.ofText (keyedText exact optional (stringLiteral quote body) side) path start =
      .ok (.object [⟨textOf value, node, optional⟩] exact none false) := by
  rw [← inner_stringLiteral quote body] at denotes
  obtain ⟨tokens, tree, isTokens, derives, rfl⟩ := TypeNode.accepted_iff.mp accepted
  obtain ⟨mark, isMark, isOptional, whole⟩ :=
    tokens_keyedText exact optional (lexeme_stringLiteral isQuote isBody) isTokens
  have object := derives_keyed exact denotes isMark derives
  rw [isOptional, Bool.not_not] at object
  exact TypeNode.accepted_iff.mpr ⟨_, _, whole, object, rfl⟩

/-- A text with a string literal that denotes nothing is rejected. -/
theorem rejected_of_not_unescapes (noText : ∀ value, ¬ Unescapes (inner lexeme) value)
    (isTokens : Tokens text tokens) (member : ⟨.text, lexeme⟩ ∈ tokens) (path : Option String)
    (start : Position) : ∃ error, TypeNode.ofText text path start = .error error := by
  cases parsed : TypeNode.ofText text path start with
  | error error => exact ⟨error, rfl⟩
  | ok node =>
    obtain ⟨others, tree, areOthers, derives, -⟩ := TypeNode.accepted_iff.mp parsed
    cases isTokens.unique areOthers
    obtain ⟨value, denotes⟩ := derives.decoded _ member rfl
    exact absurd denotes (noText value)

/-- A string literal that denotes nothing is reported where its text begins. -/
theorem ofText_of_not_unescapes (isQuote : quote = '"' ∨ quote = '\'')
    (isBody : IsStringBody quote body) (noText : ∀ value, ¬ Unescapes body value)
    (path : Option String) (start : Position) :
    ∃ error, TypeNode.ofText (stringLiteral quote body) path start =
      .error ⟨.literal error, path, start⟩ := by
  have isTokens := Tokens.single (lexeme_stringLiteral isQuote isBody)
  have reads : TypeExpr.ofText (stringLiteral quote body) =
      .ok (.text (stringLiteral quote body)) :=
    (run_eq_ok Reading.initial 0 0 _ _).mpr ⟨_, _, isTokens, rfl, rfl⟩
  cases decoded : unescape body with
  | ok value => exact absurd (unescapes_of_unescape decoded) (noText value)
  | error error =>
    refine ⟨error, ?_⟩
    have fails : unquote (stringLiteral quote body) = .error error := by
      rw [unquote, inner_stringLiteral, decoded]
    have node : (TypeExpr.text (stringLiteral quote body)).node = .error error := by
      rw [TypeExpr.node, fails]
      rfl
    simp only [TypeNode.ofText, ReadNode.ofText, reads, node]
    rfl

/-- A string literal with a large escape denotes nothing. -/
theorem not_unescapes_inner (large : HasLargeEscape quote body) (value : List CodePoint) :
    ¬ Unescapes (inner (stringLiteral quote body)) value := by
  rw [inner_stringLiteral]
  exact fun denotes => not_hasLargeEscape_of_unescapes denotes large

/-- **A string literal is no type** exactly if it has a large escape. -/
theorem ofText_stringLiteral_error_iff (isQuote : quote = '"' ∨ quote = '\'')
    (isBody : IsStringBody quote body) (path : Option String) (start : Position) :
    (∃ error, TypeNode.ofText (stringLiteral quote body) path start = .error error) ↔
      HasLargeEscape quote body := by
  constructor
  · rintro ⟨error, fails⟩
    by_contra noLarge
    obtain ⟨value, denotes⟩ := (exists_unescapes_iff isQuote isBody).mpr noLarge
    rw [ofText_stringLiteral isQuote isBody denotes] at fails
    cases fails
  · intro large
    exact rejected_of_not_unescapes (not_unescapes_inner large)
      (.single (lexeme_stringLiteral isQuote isBody)) List.mem_cons_self path start

/-- **A string literal is no key** exactly if it has a large escape. -/
theorem ofText_keyedText_error_iff (isQuote : quote = '"' ∨ quote = '\'')
    (isBody : IsStringBody quote body)
    (accepted : TypeNode.ofText side none .first = .ok node) (exact optional : Bool)
    (path : Option String) (start : Position) :
    (∃ error, TypeNode.ofText (keyedText exact optional (stringLiteral quote body) side) path
      start = .error error) ↔ HasLargeEscape quote body := by
  constructor
  · rintro ⟨error, fails⟩
    by_contra noLarge
    obtain ⟨value, denotes⟩ := (exists_unescapes_iff isQuote isBody).mpr noLarge
    rw [ofText_keyedText isQuote isBody denotes accepted] at fails
    cases fails
  · intro large
    obtain ⟨tokens, -, isTokens, -⟩ := TypeNode.accepted_iff.mp accepted
    obtain ⟨mark, -, -, whole⟩ :=
      tokens_keyedText exact optional (lexeme_stringLiteral isQuote isBody) isTokens
    exact rejected_of_not_unescapes (not_unescapes_inner large) whole (by simp) path start

/-- **A string literal denotes what is written in it.** However each character of a text is written,
the whole is one token wherever it is expected, it has the type of the text, and as the key of a
property it gives the property the text as its name. Conversely a string literal is rejected exactly
if it has a large escape, as a type and as a key, and so is every text with such a literal. -/
theorem string_literals_decode {quote : Char} (isQuote : quote = '"' ∨ quote = '\'') :
    (∀ (text : List Char) (pieces : List (List Char)),
      List.Forall₂ (Spells quote) text pieces →
        (∀ allowed rest, allowed .text = true →
          firstToken? allowed (stringLiteral quote pieces.flatten ++ rest) =
            some (.text, (stringLiteral quote pieces.flatten).length)) ∧
        (∀ path start, TypeNode.ofText (stringLiteral quote pieces.flatten) path start =
          .ok (.literal .string (.string (String.ofList text)))) ∧
        ∀ exact optional side node path start, TypeNode.ofText side none .first = .ok node →
          TypeNode.ofText (keyedText exact optional (stringLiteral quote pieces.flatten) side) path
            start = .ok (.object [⟨String.ofList text, node, optional⟩] exact none false)) ∧
    ∀ body, IsStringBody quote body →
      (∀ path start, (∃ error, TypeNode.ofText (stringLiteral quote body) path start =
        .error error) ↔ HasLargeEscape quote body) ∧
      (∀ exact optional side node path start, TypeNode.ofText side none .first = .ok node →
        ((∃ error, TypeNode.ofText (keyedText exact optional (stringLiteral quote body) side) path
          start = .error error) ↔ HasLargeEscape quote body)) ∧
      (HasLargeEscape quote body →
        (∀ path start, ∃ error, TypeNode.ofText (stringLiteral quote body) path start =
          .error ⟨.literal error, path, start⟩) ∧
        ∀ text tokens path start, Tokens text tokens →
          ⟨.text, stringLiteral quote body⟩ ∈ tokens →
            ∃ error, TypeNode.ofText text path start = .error error) := by
  refine ⟨fun text pieces spelled => ?_, fun body isBody => ?_⟩
  · have isBody := isStringBody_flatten isQuote spelled
    have denotes := unescapes_flatten spelled
    rw [← textOf_pointsOf]
    refine ⟨fun allowed rest isAllowed => ?_, ofText_stringLiteral isQuote isBody denotes, ?_⟩
    · exact (longest_text (lexeme_stringLiteral isQuote isBody) rest).firstToken isAllowed
    · intro exact optional side node path start accepted
      exact ofText_keyedText isQuote isBody denotes accepted exact optional path start
  · refine ⟨ofText_stringLiteral_error_iff isQuote isBody, ?_, fun large => ⟨?_, ?_⟩⟩
    · intro exact optional side node path start accepted
      exact ofText_keyedText_error_iff isQuote isBody accepted exact optional path start
    · exact ofText_of_not_unescapes isQuote isBody fun value denotes =>
        not_hasLargeEscape_of_unescapes denotes large
    · intro text tokens path start isTokens member
      exact rejected_of_not_unescapes (not_unescapes_inner large) isTokens member path start

/-- A text with a character in every spelling, and a literal with a large escape. -/
theorem string_literals_decode_spelled :
    TypeNode.ofText "'A\\x41\\u0041\\u\x7b00041\x7d\\A\\n\\''".toList none .first =
      .ok (.literal .string (.string "AAAAA\n'")) ∧
    TypeNode.ofText "\x7b 'A\\x41\\u0041\\u\x7b00041\x7d\\A\\n\\'' : any \x7d".toList none
      .first = .ok (.object [⟨"AAAAA\n'", .primitive .any, false⟩] false none false) ∧
    ∃ error, TypeNode.ofText "'\\u\x7b110000\x7d'".toList none .first = .error error := by
  obtain ⟨decodes, rejects⟩ := @string_literals_decode '\'' (.inr rfl)
  have spelled : List.Forall₂ (Spells '\'') "AAAAA\n'".toList [['A'], "\\x41".toList,
      "\\u0041".toList, "\\u\x7b00041\x7d".toList, "\\A".toList, "\\n".toList, "\\'".toList] :=
    .cons (.raw (by decide) (by decide) (by decide)) <|
    .cons (.byte rfl ⟨forall_mem_of_all (by decide), by decide⟩) <|
    .cons (.unit rfl ⟨forall_mem_of_all (by decide), by decide⟩) <|
    .cons (@Spells.braces _ _ "00041".toList (by decide)
      ⟨forall_mem_of_all (by decide), by decide⟩) <|
    .cons (.itself (by decide) (by decide)) <| .cons (.letter (by decide)) <|
    .cons (.itself (by decide) (by decide)) .nil
  obtain ⟨-, type, key⟩ := decodes _ _ spelled
  have large : HasLargeEscape '\'' "\\u\x7b110000\x7d".toList :=
    ⟨[], "110000".toList, [], .nil, by decide, forall_mem_of_all (by decide), by decide, rfl⟩
  have digits : IsStringBody '\'' ("\x7b110000\x7d".toList ++ []) :=
    .append_plain (forall_mem_of_all (by decide)) .nil
  have isBody : IsStringBody '\'' "\\u\x7b110000\x7d".toList := .escaped (by decide) digits
  have accepted : TypeNode.ofText "any".toList none .first = .ok (.primitive .any) := by
    with_unfolding_all rfl
  exact ⟨type none .first, key false false "any".toList _ none .first accepted,
    ((rejects _ isBody).1 none .first).mpr large⟩

end TypeSchema
