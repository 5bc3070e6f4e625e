/-
**The types that texts have are those of the grammar.**

* `derives_iff_feed`: tokens are read to an expression that denotes a type exactly if they
  derive the type;
* `Derives.unique`: they derive one type at most;
* `ofText_accepts_grammar`: **a text has a type** exactly if its tokens derive it, question marks
  apply to arrays and not the other way round, and all other texts are errors.
-/

import TypeSchema.Proofs.TypeExpr.Completeness
import TypeSchema.Proofs.TypeExpr.Lexing
import TypeSchema.Proofs.TypeExpr.Soundness

namespace TypeSchema

variable {text : List Char} {tokens others : List Token} {node other : ReadNode}

theorem Tokens.unique (isTokens : Tokens text tokens) (areOthers : Tokens text others) :
    tokens = others := by
  induction isTokens generalizing others with
  | nil => exact areOthers.of_nil.symm
  | space space _ ih => exact ih (areOthers.of_space space)
  | @token text token tokens longest _ ih =>
    cases areOthers with
    | nil =>
      obtain ⟨c, rest, same, -⟩ := longest.1.1.cons
      have front := longest.1.2
      rw [same] at front
      cases List.prefix_nil.mp front
    | space space =>
      have opens := longest.1.cons.1
      rw [openedBy_of_isTokenSpace space] at opens
      cases opens
    | token otherLongest more =>
      cases longest.unique otherLongest
      rw [ih more]

/-- The numerals among the tokens of a text are read to their ends. -/
theorem Tokens.proper (isTokens : Tokens text tokens) : ∀ token ∈ tokens, token.Proper := by
  induction isTokens with
  | nil => exact fun token member => nomatch member
  | space _ _ ih => exact ih
  | @token text token tokens longest _ ih =>
    intro other member isNumeral
    rcases List.mem_cons.mp member with rfl | member
    · have isLexeme := longest.1.1
      rw [isNumeral] at isLexeme
      exact read_lexeme isLexeme
    · exact ih other member isNumeral

/-- **Tokens derive a type** exactly if reading them leaves an expression that denotes it. -/
theorem derives_iff_feed (proper : ∀ token ∈ tokens, token.Proper) :
    Derives .start tokens node ↔ ∃ expr reading, expr.node = .ok node ∧
      Reading.initial.feed tokens = some reading ∧ reading.result? = some expr := by
  constructor
  · exact Reading.complete
  · rintro ⟨expr, reading, denotes, feeds, ends⟩
    exact sound proper feeds ends denotes

/-- **Tokens derive one type** at most. -/
theorem Derives.unique (derives : Derives .start tokens node)
    (derivesOther : Derives .start tokens other) : node = other := by
  obtain ⟨expr, reading, denotes, feeds, ends⟩ := Reading.complete derives
  obtain ⟨expr', reading', denotes', feeds', ends'⟩ := Reading.complete derivesOther
  cases feeds.symm.trans feeds'
  cases ends.symm.trans ends'
  cases denotes.symm.trans denotes'
  rfl

/-- An array behind a question mark is a nullable array. -/
theorem derives_nullable_array {ts : List Token} {element : ReadNode} {q l r : List Char}
    (isElement : Derives .arrays ts element) :
    Derives .nonunion (⟨.question, q⟩ :: (ts ++ [⟨.openBracket, l⟩, ⟨.closeBracket, r⟩])) node ↔
      node = .nullable (.generic "Array" [element]) := by
  have whole : Derives .nonunion
      (⟨.question, q⟩ :: (ts ++ [⟨.openBracket, l⟩, ⟨.closeBracket, r⟩]))
      (.nullable (.generic "Array" [element])) := .nullable (.nonunion (.arrayOf isElement))
  constructor
  · intro derives
    exact (Derives.start (.type (.lastAlternative derives))).unique
      (.start (.type (.lastAlternative whole)))
  · rintro rfl
    exact whole

theorem ofText_eq_ok (text : List Char) (path : Option String) (start : Position)
    (node : ReadNode) : ReadNode.ofText text path start = .ok node ↔
      ∃ tokens, Tokens text tokens ∧ Derives .start tokens node := by
  have read (expr : TypeExpr) : TypeExpr.ofText text = .ok expr ↔
      ∃ tokens after, Tokens text tokens ∧ Reading.initial.feed tokens = some after ∧
        after.result? = some expr := run_eq_ok Reading.initial 0 0 text expr
  constructor
  · intro parsed
    unfold ReadNode.ofText at parsed
    split at parsed
    · cases parsed
    · rename_i expr isExpr
      split at parsed
      · cases parsed
      · rename_i denotes
        cases parsed
        obtain ⟨tokens, after, isTokens, feeds, ends⟩ := (read expr).mp isExpr
        refine ⟨tokens, isTokens, ?_⟩
        exact (derives_iff_feed isTokens.proper).mpr ⟨expr, after, denotes, feeds, ends⟩
  · rintro ⟨tokens, isTokens, derives⟩
    obtain ⟨expr, after, denotes, feeds, ends⟩ := (derives_iff_feed isTokens.proper).mp derives
    have isExpr := (read expr).mpr ⟨tokens, after, isTokens, feeds, ends⟩
    simp only [ReadNode.ofText, isExpr, denotes]

/-- The type of a text is that of its tree. -/
theorem TypeNode.ofText_iff {text : List Char} {path : Option String} {start : Position}
    {type : TypeNode} : TypeNode.ofText text path start = .ok type ↔
      ∃ node, ReadNode.ofText text path start = .ok node ∧ node.type = type := by
  refine map_eq_ok_iff.trans ?_
  exact exists_congr fun node => and_congr_right fun _ => eq_comm

/-- A text has the types of the trees that the grammar gives it. -/
theorem TypeNode.accepted_iff {text : List Char} {path : Option String} {start : Position}
    {type : TypeNode} : TypeNode.ofText text path start = .ok type ↔
      ∃ tokens node, Tokens text tokens ∧ Derives .start tokens node ∧ node.type = type := by
  rw [TypeNode.ofText_iff]
  constructor
  · rintro ⟨node, isNode, isType⟩
    obtain ⟨tokens, isTokens, derives⟩ := (ofText_eq_ok ..).mp isNode
    exact ⟨tokens, node, isTokens, derives, isType⟩
  · rintro ⟨tokens, node, isTokens, derives, isType⟩
    exact ⟨node, (ofText_eq_ok ..).mpr ⟨tokens, isTokens, derives⟩, isType⟩

/-- **A text has a type exactly if the grammar gives it that type**: its longest tokens derive it.
The grammar gives a text one list of tokens and one type at most, a question mark applies to the
whole array behind it, and every other text is an error. -/
theorem ofText_accepts_grammar (text : List Char) (path : Option String) (start : Position) :
    (∀ node, ReadNode.ofText text path start = .ok node ↔
      ∃ tokens, Tokens text tokens ∧ Derives .start tokens node) ∧
    (∀ tokens others node other, Tokens text tokens → Derives .start tokens node →
      Tokens text others → Derives .start others other → tokens = others ∧ node = other) ∧
    (∀ ts element q l r, Derives .arrays ts element → ∀ node,
      Derives .nonunion (⟨.question, q⟩ :: (ts ++ [⟨.openBracket, l⟩, ⟨.closeBracket, r⟩])) node ↔
        node = .nullable (.generic "Array" [element])) ∧
    ((¬ ∃ tokens node, Tokens text tokens ∧ Derives .start tokens node) →
      ∃ error, ReadNode.ofText text path start = .error error) := by
  refine ⟨ofText_eq_ok text path start, ?_, ?_, ?_⟩
  · intro tokens others node other isTokens derives areOthers derivesOther
    cases isTokens.unique areOthers
    exact ⟨rfl, derives.unique derivesOther⟩
  · intro ts element q l r isElement node
    exact derives_nullable_array isElement
  · intro underivable
    cases parsed : ReadNode.ofText text path start with
    | error error => exact ⟨error, rfl⟩
    | ok node =>
      obtain ⟨tokens, isTokens, derives⟩ := (ofText_eq_ok text path start node).mp parsed
      exact absurd ⟨tokens, node, isTokens, derives⟩ underivable

/-- A question mark in front of an array, and an escape of a surrogate, which is no character. -/
theorem ofText_accepts_grammar_nullableArray :
    ReadNode.ofText ['?', 'T', ' ', '[', ']'] none ⟨1, 1⟩ =
        .ok (.nullable (.generic "Array" [.generic "T" []])) ∧
      ReadNode.ofText ['"', '\\', 'u', 'd', '8', '0', '0', '"'] none ⟨1, 1⟩ =
        .ok (.literal .string (.text [0xD800])) := by
  have mark : firstToken? (fun _ => true) ['?', 'T', ' ', '[', ']'] = some (.question, 1) := rfl
  have name : firstToken? (fun _ => true) ['T', ' ', '[', ']'] = some (.name, 1) := rfl
  have opens : firstToken? (fun _ => true) ['[', ']'] = some (.openBracket, 1) := rfl
  have closes : firstToken? (fun _ => true) [']'] = some (.closeBracket, 1) := rfl
  have isTokens := Tokens.token (longest_of_firstToken mark) (.token (longest_of_firstToken name)
    (.space rfl (.token (longest_of_firstToken opens)
      (.token (longest_of_firstToken closes) .nil))))
  have element : Derives .arrays [⟨.name, ['T']⟩] (.generic "T" []) := .arrays (.named .firstPart)
  have union : Derives .alternatives [⟨.question, ['?']⟩, ⟨.name, ['T']⟩, ⟨.openBracket, ['[']⟩,
      ⟨.closeBracket, [']']⟩] [_] := .lastAlternative (.nullable (.nonunion (.arrayOf element)))
  have text : firstToken? (fun _ => true) ['"', '\\', 'u', 'd', '8', '0', '0', '"'] =
      some (.text, 8) := rfl
  have isText := Tokens.token (longest_of_firstToken text) .nil
  have number : numberEscape? 'u' ['d', '8', '0', '0'] = some (0xD800, 4) := rfl
  have surrogate : Unescapes ['\\', 'u', 'd', '8', '0', '0'] [0xD800] :=
    .number number (by decide) .nil
  have literal : Derives .alternatives [⟨.text, ['"', '\\', 'u', 'd', '8', '0', '0', '"']⟩] [_] :=
    .lastAlternative (.nonunion (.arrays (.text surrogate)))
  exact ⟨((ofText_accepts_grammar _ _ _).1 _).mpr ⟨_, isTokens, .start (.type union)⟩,
    ((ofText_accepts_grammar _ _ _).1 _).mpr ⟨_, isText, .start (.type literal)⟩⟩

end TypeSchema
