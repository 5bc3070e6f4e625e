/-
**Quotes in type texts.**

* `Quoting`: whether a character stands in a string literal, told from the characters before it;
* `Quoting.Apart.after`: readings of a text that begin differently, in a string literal or not, end
  differently;
* `quotesClosed_of_ofText`: the string literals of an accepted text are closed, and no equals sign
  stands outside of them;
* `eq_of_sign`: **two texts with an equals sign between them are split nowhere else** into a text
  and an accepted one.
-/

import TypeSchema.Proofs.Source.RightSide

namespace TypeSchema

variable {text rest front back lexeme gap : List Char} {terminal : Terminal} {tokens : List Token}
  {node : TypeNode} {equals double : Bool} {state other next : Quoting}

/-! ### Reading quotes -/

/-- Where a character stands: outside of string literals, inside of one, or behind a backslash in
one. The string literal begins with a double quote or with a single one. -/
inductive Quoting where
  | outside
  | inside (double : Bool)
  | escaped (double : Bool)
deriving DecidableEq

/-- A quote. -/
def quoteChar (double : Bool) : Char := if double then '"' else '\''

theorem quoteChar_injective {a b : Bool} (same : quoteChar a = quoteChar b) : a = b := by
  revert a b
  decide

namespace Quoting

/-- What stands behind a character. Outside of string literals there is no backslash, and there are
equals signs only if they are allowed. -/
def next? (equals : Bool) : Quoting → Char → Option Quoting
  | outside, c =>
    if c = '\\' ∨ c = '=' ∧ equals = false then none
    else if c = '"' then some (inside true)
    else if c = '\'' then some (inside false)
    else some outside
  | inside double, c =>
    if c = '\\' then some (escaped double)
    else if c = quoteChar double then some outside
    else some (inside double)
  | escaped double, _ => some (inside double)

/-- What stands behind a text. -/
def after? (equals : Bool) (state : Quoting) (text : List Char) : Option Quoting :=
  text.foldlM (next? equals) state

theorem after?_cons (equals : Bool) (state : Quoting) (c : Char) (text : List Char) :
    state.after? equals (c :: text) =
      (state.next? equals c).bind fun next => next.after? equals text :=
  List.foldlM_cons

theorem after?_append (equals : Bool) (state : Quoting) (text rest : List Char) :
    state.after? equals (text ++ rest) =
      (state.after? equals text).bind fun next => next.after? equals rest :=
  List.foldlM_append

theorem after?_append_of (first : state.after? equals text = some next) (rest : List Char) :
    state.after? equals (text ++ rest) = next.after? equals rest := by
  rw [after?_append, first, Option.bind_some]

/-- What a text leads to without equals signs, it leads to if they are allowed. -/
theorem after?_true (reached : state.after? false text = some next) :
    state.after? true text = some next := by
  induction text generalizing state with
  | nil => exact reached
  | cons c text ih =>
    rw [after?_cons, Option.bind_eq_some_iff] at reached ⊢
    obtain ⟨middle, isMiddle, reached⟩ := reached
    refine ⟨middle, ?_, ih reached⟩
    cases state with
    | outside =>
      simp only [next?, and_true] at isMiddle
      split_ifs at isMiddle with refused double single
      all_goals
        rw [not_or] at refused
        simp only [next?, refused.1, false_or, Bool.true_eq_false, and_false, if_false]
      · rw [if_pos double, ← isMiddle]
      · rw [if_neg double, if_pos single, ← isMiddle]
      · rw [if_neg double, if_neg single, ← isMiddle]
    | inside | escaped => exact isMiddle

/-! ### Readings that stay apart -/

/-- Two places, of which none or both are behind a backslash, and which are in different string
literals or one of them in none. -/
def Apart : Quoting → Quoting → Prop
  | inside a, inside b | escaped a, escaped b => a ≠ b
  | outside, inside _ | inside _, outside => True
  | _, _ => False

theorem Apart.symm (apart : state.Apart other) : other.Apart state := by
  cases state <;> cases other <;> first | exact trivial | exact Ne.symm apart | cases apart

theorem Apart.ne (apart : state.Apart other) : state ≠ other := by
  rintro rfl
  cases state with
  | outside => exact apart
  | inside | escaped => exact apart rfl

theorem apart_of_outside {a b : Quoting} {c : Char} (first : outside.next? equals c = some a)
    (second : (inside double).next? equals c = some b) : a.Apart b := by
  simp only [next?] at first second
  split_ifs at first with refused isDouble isSingle
  all_goals
    rw [not_or] at refused
    rw [if_neg refused.1] at second
    cases first
  · subst isDouble
    cases double <;> cases second <;> simp [Apart]
  · subst isSingle
    cases double <;> cases second <;> simp [Apart]
  · have noQuote : c ≠ quoteChar double := by cases double <;> assumption
    rw [if_neg noQuote] at second
    cases second
    trivial

/-- A character keeps readings apart. -/
theorem Apart.step {a b : Quoting} {c : Char} (apart : state.Apart other)
    (first : state.next? equals c = some a) (second : other.next? equals c = some b) :
    a.Apart b := by
  cases state with
  | outside =>
    cases other with
    | inside => exact apart_of_outside first second
    | outside | escaped => cases apart
  | inside own =>
    cases other with
    | outside => exact (apart_of_outside second first).symm
    | inside double =>
      simp only [next?] at first second
      by_cases escapes : c = '\\'
      · rw [if_pos escapes] at first second
        cases first
        cases second
        exact apart
      · rw [if_neg escapes] at first second
        split_ifs at first second with own double
        all_goals
          cases first
          cases second
        · exact apart (quoteChar_injective (own.symm.trans double))
        · trivial
        · trivial
        · exact apart
    | escaped => cases apart
  | escaped own =>
    cases other with
    | escaped double =>
      cases first
      cases second
      exact apart
    | outside | inside => cases apart

/-- **Readings that begin apart end apart.** -/
theorem Apart.after {a b : Quoting} (apart : state.Apart other)
    (first : state.after? equals text = some a) (second : other.after? equals text = some b) :
    a.Apart b := by
  induction text generalizing state other with
  | nil =>
    cases first
    cases second
    exact apart
  | cons c text ih =>
    rw [after?_cons, Option.bind_eq_some_iff] at first second
    obtain ⟨middle, isMiddle, first⟩ := first
    obtain ⟨second', isSecond, second⟩ := second
    exact ih (apart.step isMiddle isSecond) first second

end Quoting

/-! ### QuotesClosed texts -/

/-- The string literals of a text are closed. -/
def QuotesClosed (equals : Bool) (text : List Char) : Prop :=
  Quoting.outside.after? equals text = some .outside

theorem QuotesClosed.append (first : QuotesClosed equals text) (second : QuotesClosed equals rest) :
    QuotesClosed equals (text ++ rest) :=
  (Quoting.after?_append_of first rest).trans second

/-- What is behind a closed text is closed if the whole is. -/
theorem QuotesClosed.of_append (first : QuotesClosed equals text)
    (whole : QuotesClosed equals (text ++ rest)) : QuotesClosed equals rest :=
  (Quoting.after?_append_of first rest).symm.trans whole

theorem quotesClosed_of_each (each : ∀ d ∈ text, Quoting.outside.next? equals d = some .outside) :
    QuotesClosed equals text := by
  induction text with
  | nil => rfl
  | cons c text ih =>
    obtain ⟨first, others⟩ := List.forall_mem_cons.mp each
    rw [QuotesClosed, Quoting.after?_cons, first]
    exact ih others

/-- Behind a closed text an equals sign stands outside of string literals. -/
theorem QuotesClosed.no_sign (closed : QuotesClosed true front) :
    ¬ QuotesClosed false (front ++ '=' :: back) := by
  intro whole
  rw [QuotesClosed, Quoting.after?_append, Option.bind_eq_some_iff] at whole
  obtain ⟨place, reached, later⟩ := whole
  rw [← Option.some.inj (closed.symm.trans (Quoting.after?_true reached))] at later
  cases later

/-! ### Accepted texts -/

theorem after?_body {body : List Char} (isBody : IsStringBody (quoteChar double) body) :
    (Quoting.inside double).after? equals body = some (.inside double) := by
  induction isBody with
  | nil => rfl
  | plain notQuote notEscape _ _ ih =>
    rw [Quoting.after?_cons, Quoting.next?, if_neg notEscape, if_neg notQuote]
    exact ih
  | escaped _ _ ih => exact ih

theorem LexemeShape.closed (shape : LexemeShape terminal lexeme) : QuotesClosed false lexeme := by
  cases shape with
  | word _ _ each =>
    refine quotesClosed_of_each fun d member => ?_
    have noSign {sign : Char} (noWord : isWordChar sign = false) : d ≠ sign :=
      ne_of_isWordChar (each d member) noWord
    have allowed : ¬ (d = '\\' ∨ d = '=' ∧ false = false) := by
      rintro (isSign | ⟨isSign, -⟩)
      · exact noSign rfl isSign
      · exact noSign rfl isSign
    rw [Quoting.next?, if_neg allowed, if_neg (noSign rfl), if_neg (noSign rfl)]
  | @text quote body isQuote isBody =>
    obtain ⟨double, rfl⟩ : ∃ double, quote = quoteChar double := by
      rcases isQuote with rfl | rfl
      · exact ⟨true, rfl⟩
      · exact ⟨false, rfl⟩
    have opens : Quoting.outside.next? false (quoteChar double) = some (.inside double) := by
      cases double <;> rfl
    have closes : (Quoting.inside double).after? false [quoteChar double] = some .outside := by
      cases double <;> rfl
    rw [QuotesClosed, Quoting.after?_cons, opens, Option.bind_some,
      Quoting.after?_append_of (after?_body isBody), closes]
  | sign isSign =>
    have known : (signs.all fun sign =>
        decide (Quoting.outside.after? false sign.2 = some .outside)) = true := by decide
    show Quoting.outside.after? false lexeme = some .outside
    exact of_decide_eq_true (List.all_eq_true.mp known _ isSign)

theorem Tokens.closed (isTokens : Tokens text tokens) : QuotesClosed false text := by
  induction isTokens with
  | nil => rfl
  | @space c rest tokens space _ ih =>
    have visible : QuotesClosed false [c] := by
      simp only [isTokenSpace, Bool.or_eq_true, beq_iff_eq] at space
      rcases space with (((rfl | rfl) | rfl) | rfl) | rfl <;> rfl
    exact visible.append ih
  | @token text token _ longest _ ih =>
    obtain ⟨⟨isLexeme, back, rfl⟩, -⟩ := longest
    rw [List.drop_left] at ih
    exact isLexeme.shape.closed.append ih

/-- **The string literals of an accepted text are closed**, and no equals sign stands outside of
them. -/
theorem quotesClosed_of_ofText {path : Option String} {start : Position}
    (accepted : TypeNode.ofText text path start = .ok node) :
    QuotesClosed false text := by
  obtain ⟨tokens, -, isTokens, -⟩ := TypeNode.accepted_iff.mp accepted
  exact isTokens.closed

/-! ### Texts with an equals sign between them -/

theorem quotesClosed_sign : QuotesClosed true ('=' :: text) ↔ QuotesClosed true text := Iff.rfl

/-- In front of an equals sign the string literals are closed if they are behind it. -/
theorem QuotesClosed.of_sign (whole : QuotesClosed true (front ++ '=' :: rest))
    (isRest : QuotesClosed true rest) : QuotesClosed true front := by
  rw [QuotesClosed, Quoting.after?_append, Option.bind_eq_some_iff] at whole
  obtain ⟨place, reached, later⟩ := whole
  -- Else the sign stands in a string literal, and the rest is read from inside of it.
  have inside (double : Bool)
      (reads : (Quoting.inside double).after? true rest = some .outside) : False := by
    have apart : (Quoting.inside double).Apart .outside := trivial
    exact (apart.after reads isRest).ne rfl
  cases place with
  | outside => exact reached
  | inside double =>
    have stays : (Quoting.inside double).next? true '=' = some (.inside double) := by
      cases double <;> rfl
    rw [Quoting.after?_cons, stays] at later
    exact (inside double later).elim
  | escaped double => exact (inside double later).elim

/-- **Two texts with an equals sign between them** are split nowhere else into two such texts. -/
theorem eq_of_sign (closed : QuotesClosed true front) (isBehind : QuotesClosed false back)
    (isRest : QuotesClosed false rest) (same : front ++ '=' :: back = text ++ '=' :: rest) :
    text = front := by
  have whole : QuotesClosed true (text ++ '=' :: rest) := by
    rw [← same]
    exact closed.append (quotesClosed_sign.mpr (Quoting.after?_true isBehind))
  have isText : QuotesClosed true text := whole.of_sign (Quoting.after?_true isRest)
  have between {a b middle : List Char} (isLeft : QuotesClosed true a)
      (isWhole : QuotesClosed true (a ++ '=' :: middle))
      (later : QuotesClosed false (middle ++ '=' :: b)) : False :=
    (quotesClosed_sign.mp (isLeft.of_append isWhole)).no_sign later
  rcases List.append_eq_append_iff.mp same with ⟨more, rfl, parts⟩ | ⟨more, rfl, parts⟩
  · cases more with
    | nil => exact List.append_nil _
    | cons c more =>
      obtain ⟨rfl, rfl⟩ := List.cons.inj parts
      exact (between closed isText isBehind).elim
  · cases more with
    | nil => exact (List.append_nil _).symm
    | cons c more =>
      obtain ⟨rfl, rfl⟩ := List.cons.inj parts
      exact (between isText closed isRest).elim

end TypeSchema
