/-
**Every reading can be completed.**

* `Place.rest`, `Frame.rest`: what is still missing at a place, and of a construct around it;
* `closes_place`, `closes_frame`: with that a type is complete;
* `Reading.feed_completion`: **a reading that is completed** leaves an expression, whatever it has
  read;
* `Tokens.completed`: in a text the completion stands behind what is there, with white space in
  front of each of its tokens.
-/

import TypeSchema.Proofs.TypeExpr.StringLiterals

namespace TypeSchema

variable {ts us : List Terminal} {stack : List Frame} {type : TypeExpr} {terminal : Terminal}
  {object : OpenObject}

/-! ### The missing tokens -/

/-- The lexeme of a token that completes a type. -/
def Terminal.filling : Terminal → List Char
  | .name => ['a']
  | .colon => [':']
  | .closeBracket => [']']
  | .greater => ['>']
  | .closeParen => [')']
  | .closeBrace => ['\x7d']
  | .closeExact => ['|', '\x7d']
  | _ => []

/-- A token that completes a type. -/
def Terminal.filler (terminal : Terminal) : Token := ⟨terminal, terminal.filling⟩

/-- Whether a token is one of those that complete types. -/
def Terminal.fills (terminal : Terminal) : Bool :=
  terminal ∈ [.name, .colon, .closeBracket, .greater, .closeParen, .closeBrace, .closeExact]

/-- The type of a member and the end of its object. -/
def OpenObject.rest (object : OpenObject) : List Terminal :=
  [.colon, .name, closeOf object.exact]

/-- What is missing at a place up to the end of a type. -/
def Place.rest : Place → List Terminal
  | .typeStart | .operandStart _ => [.name]
  | .tupleItem .. => [.closeBracket]
  | .nextArgument .. => [.greater]
  | .afterName .. | .afterOperand .. | .finished _ => []
  | .afterDot .. => [.name]
  | .arrayEnd .. => [.closeBracket]
  | .firstMember object | .nextMember object => [closeOf object.exact]
  | .afterVariance object => .name :: object.rest
  | .afterKey object _ | .afterOptionalKey object _ => object.rest
  | .indexerStart object => .name :: .closeBracket :: object.rest
  | .indexerName object _ => .closeBracket :: object.rest
  | .indexerEnd object _ => object.rest
  | .nextParameter object _ => .closeParen :: object.rest
  | .afterParameterName object _ | .parameterColon object _ =>
    .colon :: .name :: .closeParen :: object.rest
  | .afterEllipsis object _ => .name :: .colon :: .name :: .closeParen :: object.rest
  | .callEnd object _ => object.rest

/-- What is missing of a construct after a type. -/
def Frame.rest : Frame → List Terminal
  | .group _ => [.closeParen]
  | .tuple .. => [.closeBracket]
  | .arguments .. => [.greater]
  | .property object .. | .indexerValue object _ | .result object _ => [closeOf object.exact]
  | .indexerKey object => .closeBracket :: object.rest
  | .parameter object _ => .closeParen :: object.rest

/-- What is missing of all constructs around a place. A text may end after its semicolon, whatever
stands around that. -/
def Reading.rest (reading : Reading) : List Terminal :=
  match reading.place with
  | .finished _ => []
  | place => place.rest ++ reading.stack.flatMap Frame.rest

/-- The tokens that complete a reading. -/
def Reading.completion (reading : Reading) : List Token := reading.rest.map Terminal.filler

/-! ### Closing constructs -/

namespace Reading

variable {reading next : Reading}

/-- Tokens lead to the end of a type inside the given constructs. -/
def Closes (reading : Reading) (ts : List Terminal) (stack : List Frame) : Prop :=
  ∃ after type, reading.feed (ts.map Terminal.filler) = some after ∧ after.Ends type stack

theorem Ends.closes (ends : reading.Ends type stack) : reading.Closes [] stack :=
  ⟨reading, type, rfl, ends⟩

theorem AtOperand.closes {pending : Pending} {expr : TypeExpr}
    (at_ : AtOperand pending stack expr reading) : reading.Closes [] stack :=
  Ends.closes ⟨pending, expr, at_, rfl⟩

/-- One more token in front. -/
theorem Closes.cons (steps : reading.step terminal terminal.filling = some next)
    (closes : next.Closes ts stack) : reading.Closes (terminal :: ts) stack := by
  obtain ⟨after, type, feeds, ends⟩ := closes
  exact ⟨after, type, (feed_cons_of_step steps).trans feeds, ends⟩

/-- A type that is followed by more. -/
theorem Closes.append {inside : List Frame} (closes : reading.Closes ts inside)
    (more : ∀ next type, Ends type inside next → next.Closes us stack) :
    reading.Closes (ts ++ us) stack := by
  obtain ⟨middle, type, feeds, ends⟩ := closes
  obtain ⟨after, last, feedsMore, endsLast⟩ := more middle type ends
  refine ⟨after, last, ?_, endsLast⟩
  rw [List.map_append, feed_append_of_feed feeds, feedsMore]

theorem continuesType_closeOf (exact : Bool) : continuesType (closeOf exact) = false := by
  cases exact <;> rfl

/-- After its last type an object can be closed. -/
theorem closes_member {frame : Frame} {make : TypeExpr → Member TypeExpr}
    (isMember : ∀ type terminal, endType type (frame :: stack) terminal =
      endMember (object.add (make type)) stack terminal)
    (ends : reading.Ends type (frame :: stack)) :
    reading.Closes [closeOf object.exact] stack := by
  have steps : reading.step (closeOf object.exact) (closeOf object.exact).filling =
      some ⟨.afterOperand object.outer (object.add (make type)).finish, stack⟩ := by
    rw [Ends.step ends (continuesType_closeOf _), isMember, endMember]
    exact if_pos rfl
  exact .cons steps (AtOperand.closes .operand)

/-- Where the last type of an object is due, the object can be completed. -/
theorem closes_value {frame : Frame} {make : TypeExpr → Member TypeExpr}
    (isMember : ∀ type terminal, endType type (frame :: stack) terminal =
      endMember (object.add (make type)) stack terminal) :
    Closes ⟨.typeStart, frame :: stack⟩ [.name, closeOf object.exact] stack := by
  have name : Closes ⟨.typeStart, frame :: stack⟩ [.name] (frame :: stack) :=
    .cons rfl (AtOperand.closes .name)
  exact name.append fun next type ends => closes_member isMember ends

theorem closes_indexerEnd (key : TypeExpr) :
    Closes ⟨.indexerEnd object key, stack⟩ object.rest stack :=
  .cons rfl (closes_value fun _ _ => rfl)

theorem closes_callEnd (parameters : List TypeExpr) :
    Closes ⟨.callEnd object parameters, stack⟩ object.rest stack :=
  .cons rfl (closes_value fun _ _ => rfl)

/-- **A construct can be closed** after a type. -/
theorem closes_frame {frame : Frame} (ends : reading.Ends type (frame :: stack)) :
    reading.Closes frame.rest stack := by
  cases frame with
  | group | tuple | arguments => exact .cons (Ends.step ends rfl) (AtOperand.closes .operand)
  | property | indexerValue | result => exact closes_member (fun _ _ => rfl) ends
  | indexerKey object => exact .cons (Ends.step ends rfl) (closes_indexerEnd _)
  | parameter object parameters => exact .cons (Ends.step ends rfl) (closes_callEnd _)

/-- Where the type of a parameter is due, the call can be completed. -/
theorem closes_parameter (parameters : List TypeExpr) :
    Closes ⟨.typeStart, .parameter object parameters :: stack⟩
      (.name :: .closeParen :: object.rest) stack := by
  have name : Closes ⟨.typeStart, .parameter object parameters :: stack⟩ [.name]
      (.parameter object parameters :: stack) := .cons rfl (AtOperand.closes .name)
  exact name.append fun next type ends => closes_frame ends

/-- **A place can be completed** to the end of a type. -/
theorem closes_place (place : Place) (unfinished : ∀ expr, place ≠ .finished expr) :
    Closes ⟨place, stack⟩ place.rest stack := by
  cases place with
  | typeStart | operandStart | afterDot => exact .cons rfl (AtOperand.closes .name)
  | tupleItem | nextArgument | arrayEnd => exact .cons rfl (AtOperand.closes .operand)
  | afterName => exact AtOperand.closes .name
  | afterOperand => exact AtOperand.closes .operand
  | firstMember object | nextMember object =>
    exact .cons (if_pos rfl) (AtOperand.closes .operand)
  | afterVariance object => exact .cons rfl (.cons rfl (closes_value fun _ _ => rfl))
  | afterKey object key => exact .cons rfl (closes_value fun _ _ => rfl)
  | afterOptionalKey object key => exact .cons rfl (closes_value fun _ _ => rfl)
  | indexerStart object => exact .cons rfl (.cons rfl (closes_indexerEnd _))
  | indexerName object name => exact .cons rfl (closes_indexerEnd _)
  | indexerEnd object key => exact closes_indexerEnd key
  | nextParameter object parameters => exact .cons rfl (closes_callEnd parameters)
  | afterParameterName object parameters => exact .cons rfl (closes_parameter parameters)
  | parameterColon object parameters => exact .cons rfl (closes_parameter parameters)
  | afterEllipsis object parameters => exact .cons rfl (.cons rfl (closes_parameter parameters))
  | callEnd object parameters => exact closes_callEnd parameters
  | finished expr => exact absurd rfl (unfinished expr)

/-- All constructs can be closed, innermost first. -/
theorem closes_stack (ends : reading.Ends type stack) :
    reading.Closes (stack.flatMap Frame.rest) [] := by
  induction stack generalizing reading type with
  | nil => exact ends.closes
  | cons frame stack ih => exact (closes_frame ends).append fun next type ends => ih ends

/-- **A reading that is completed leaves an expression.** -/
theorem feed_completion (reading : Reading) :
    ∃ after expr, reading.feed reading.completion = some after ∧ after.result? = some expr := by
  obtain ⟨place, stack⟩ := reading
  by_cases unfinished : ∀ expr, place ≠ .finished expr
  · have closes : Closes ⟨place, stack⟩ (place.rest ++ stack.flatMap Frame.rest) [] :=
      (closes_place place unfinished).append fun next type ends => closes_stack ends
    have whole : rest ⟨place, stack⟩ = place.rest ++ stack.flatMap Frame.rest := by
      cases place with
      | finished expr => exact absurd rfl (unfinished expr)
      | _ => rfl
    obtain ⟨after, type, feeds, ends⟩ := closes
    rw [← whole] at feeds
    exact ⟨after, type, feeds, ends.result?⟩
  · obtain ⟨expr, rfl⟩ := not_forall_not.mp unfinished
    exact ⟨_, expr, rfl, rfl⟩

end Reading

/-! ### Completed texts -/

/-- The tokens of a completion as they are written, each behind white space. -/
def printed (tokens : List Token) : List Char := tokens.flatMap fun token => ' ' :: token.lexeme

theorem Terminal.lexeme_filling (fills : terminal.fills = true) :
    terminal.Lexeme terminal.filling := by
  cases terminal with
  | name => exact ⟨'a', [], rfl, fun c isRest => (List.not_mem_nil isRest).elim, rfl⟩
  | colon | closeBracket | greater | closeParen | closeBrace | closeExact => rfl
  | _ => cases fills

theorem Frame.fills_rest (frame : Frame) : frame.rest.all Terminal.fills = true := by
  cases frame with
  | group | tuple | arguments => rfl
  | property object | indexerKey object | indexerValue object | parameter object
  | result object =>
    obtain ⟨outer, exact_, members⟩ := object
    cases exact_ <;> rfl

theorem Place.fills_rest (place : Place) : place.rest.all Terminal.fills = true := by
  cases place with
  | firstMember object | nextMember object | afterVariance object | afterKey object
  | afterOptionalKey object | indexerStart object | indexerName object | indexerEnd object
  | nextParameter object | afterParameterName object | parameterColon object
  | afterEllipsis object | callEnd object =>
    obtain ⟨outer, exact_, members⟩ := object
    cases exact_ <;> rfl
  | _ => rfl

theorem Reading.fills_rest (reading : Reading) : ∀ terminal ∈ reading.rest, terminal.fills := by
  obtain ⟨place, stack⟩ := reading
  have whole : ∀ terminal ∈ place.rest ++ stack.flatMap Frame.rest, terminal.fills := by
    intro terminal isMissing
    rcases List.mem_append.mp isMissing with ofPlace | ofStack
    · exact List.all_eq_true.mp place.fills_rest terminal ofPlace
    · obtain ⟨frame, -, ofFrame⟩ := List.mem_flatMap.mp ofStack
      exact List.all_eq_true.mp frame.fills_rest terminal ofFrame
  cases place with
  | finished expr => exact fun terminal isMissing => nomatch isMissing
  | _ => exact whole

/-- A token of a completion has a lexeme of its kind, and it is no literal. -/
theorem Reading.mem_completion {reading : Reading} {token : Token}
    (isMissing : token ∈ reading.completion) :
    token.terminal.Lexeme token.lexeme ∧ token.terminal ≠ .text ∧ token.terminal ≠ .numeral := by
  obtain ⟨terminal, inRest, rfl⟩ := List.mem_map.mp isMissing
  have fills := reading.fills_rest terminal inRest
  refine ⟨Terminal.lexeme_filling fills, ?_, ?_⟩ <;>
  · rintro rfl
    cases fills

section

variable {front lexeme : List Char} {ts us : List Token}

theorem longest_lexeme (isLexeme : terminal.Lexeme lexeme) :
    Token.Longest ⟨terminal, lexeme⟩ lexeme :=
  ⟨⟨isLexeme, List.prefix_rfl⟩, fun _ begins => begins.2.length_le⟩

/-- A lexeme is a token by itself. -/
theorem tokens_lexeme (isLexeme : terminal.Lexeme lexeme) :
    Tokens lexeme [⟨terminal, lexeme⟩] := by
  refine .token (longest_lexeme isLexeme) ?_
  rw [List.drop_length]
  exact .nil

/-- **A completion stands behind a text** without changing its tokens. -/
theorem Tokens.append_printed (isTokens : Tokens front ts)
    (areLexemes : ∀ token ∈ us, token.terminal.Lexeme token.lexeme) :
    Tokens (front ++ printed us) (ts ++ us) := by
  induction us generalizing front ts with
  | nil =>
    rw [printed, List.flatMap_nil, List.append_nil, List.append_nil]
    exact isTokens
  | cons token us ih =>
    obtain ⟨isLexeme, areMore⟩ := List.forall_mem_cons.mp areLexemes
    have first := isTokens.append_space (c := ' ') rfl (tokens_lexeme isLexeme)
    have whole : front ++ printed (token :: us) = (front ++ ' ' :: token.lexeme) ++ printed us := by
      simp [printed]
    have same : ts ++ token :: us = (ts ++ [token]) ++ us := by simp
    rw [whole, same]
    exact ih first areMore

theorem Tokens.completed (isTokens : Tokens front ts) (reading : Reading) :
    Tokens (front ++ printed reading.completion) (ts ++ reading.completion) :=
  isTokens.append_printed fun _ isMissing => (Reading.mem_completion isMissing).1

/-- **A text that can be read so far** can be completed to a type expression. -/
theorem ofText_completed {reading : Reading} (isTokens : Tokens front ts)
    (feeds : Reading.initial.feed ts = some reading) :
    ∃ expr, TypeExpr.ofText (front ++ printed reading.completion) = .ok expr := by
  obtain ⟨after, expr, ends, result⟩ := reading.feed_completion
  refine ⟨expr, (run_eq_ok ..).mpr ⟨_, after, isTokens.completed reading, ?_, result⟩⟩
  rw [Reading.feed_append_of_feed feeds, ends]

end

end TypeSchema
