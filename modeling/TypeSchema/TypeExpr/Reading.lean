/-
**Reading a type expression token by token.**

A `Reading` is a place in the grammar and a stack of unfinished constructs.

* `Place.expects`: the tokens that are looked for at a place. At the end of a type these are all
  tokens that can follow a type anywhere, so that `|}` is one token also where only `|` could stand;
* `Reading.step`: what a token does, none if it may not stand here;
* `Reading.result?`: the expression, if the text may end here;
* `TypeExpr.ofText`: the expression of a text, or the fault and its offset. A fault at the end is
  placed at the start of the last token.
-/

import TypeSchema.TypeExpr.Basic
import TypeSchema.TypeExpr.Error
import TypeSchema.TypeExpr.Token

namespace TypeSchema

/-- What has been read of a type before its current operand: the alternatives of a union, latest
first, and the question marks in front of the operand. -/
structure Pending where
  alternatives : List TypeExpr
  questions : Nat

namespace Pending

/-- Nothing has been read. -/
def none : Pending := ⟨[], 0⟩

/-- The operand with its question marks. -/
def operand (pending : Pending) (expr : TypeExpr) : TypeExpr :=
  pending.questions.repeat .nullable expr

/-- The operand becomes an alternative, and another one is due. -/
def nextAlternative (pending : Pending) (expr : TypeExpr) : Pending :=
  ⟨pending.operand expr :: pending.alternatives, 0⟩

/-- The whole type; a single alternative is no union. -/
def finish (pending : Pending) (expr : TypeExpr) : TypeExpr :=
  match pending.alternatives with
  | [] => pending.operand expr
  | more => .union (more.reverse ++ [pending.operand expr])

end Pending

/-- An object type whose members are being read, latest first. -/
structure OpenObject where
  outer : Pending
  exact : Bool
  members : List (Member TypeExpr)

/-- One more member. -/
def OpenObject.add (object : OpenObject) (member : Member TypeExpr) : OpenObject :=
  { object with members := member :: object.members }

/-- The finished object type. -/
def OpenObject.finish (object : OpenObject) : TypeExpr :=
  .object object.exact object.members.reverse

/-- A construct that waits for a type; lists have the latest item first. -/
inductive Frame where
  | group (outer : Pending)
  | tuple (outer : Pending) (elements : List TypeExpr)
  | arguments (outer : Pending) (path : List String) (arguments : List TypeExpr)
  | property (object : OpenObject) (key : PropertyKey) (optional : Bool)
  | indexerKey (object : OpenObject)
  | indexerValue (object : OpenObject) (key : TypeExpr)
  | parameter (object : OpenObject) (parameters : List TypeExpr)
  | result (object : OpenObject) (parameters : List TypeExpr)

/-- A place in the grammar, named for what has just been read. -/
inductive Place where
  /-- A type is due. -/
  | typeStart
  /-- An operand is due, after a bar or a question mark. -/
  | operandStart (pending : Pending)
  /-- An element or the end of a tuple is due. -/
  | tupleItem (outer : Pending) (elements : List TypeExpr)
  /-- An argument or the end of the arguments is due. -/
  | nextArgument (outer : Pending) (path : List String) (arguments : List TypeExpr)
  /-- After a name; the path has its latest part first. -/
  | afterName (pending : Pending) (path : List String)
  | afterDot (pending : Pending) (path : List String)
  /-- After any other complete operand. -/
  | afterOperand (pending : Pending) (expr : TypeExpr)
  /-- After a complete operand and an opening bracket. -/
  | arrayEnd (pending : Pending) (expr : TypeExpr)
  /-- After the opening brace of an object. -/
  | firstMember (object : OpenObject)
  /-- After a separator of members. -/
  | nextMember (object : OpenObject)
  | afterVariance (object : OpenObject)
  | afterKey (object : OpenObject) (key : PropertyKey)
  | afterOptionalKey (object : OpenObject) (key : PropertyKey)
  | indexerStart (object : OpenObject)
  /-- After a name at the start of an indexer: the name of the key, or a type. -/
  | indexerName (object : OpenObject) (name : String)
  | indexerEnd (object : OpenObject) (key : TypeExpr)
  | nextParameter (object : OpenObject) (parameters : List TypeExpr)
  | afterParameterName (object : OpenObject) (parameters : List TypeExpr)
  /-- A colon is due before the type of a parameter. -/
  | parameterColon (object : OpenObject) (parameters : List TypeExpr)
  | afterEllipsis (object : OpenObject) (parameters : List TypeExpr)
  | callEnd (object : OpenObject) (parameters : List TypeExpr)
  /-- After the semicolon that ends the text. -/
  | finished (expr : TypeExpr)

/-- The tokens that an operand begins with. -/
def startsOperand (terminal : Terminal) : Bool :=
  terminal ∈ [.name, .text, .numeral, .question, .openBrace, .openExact, .openBracket, .openParen]

/-- The tokens that a type begins with. -/
def startsType (terminal : Terminal) : Bool := startsOperand terminal || terminal == .bar

/-- The tokens that can follow an operand somewhere. -/
def followsOperand (terminal : Terminal) : Bool :=
  terminal ∈ [.bar, .openBracket, .comma, .semicolon, .greater, .closeBrace, .closeExact,
    .closeParen, .closeBracket]

/-- The tokens that a member begins with. -/
def startsMember (terminal : Terminal) : Bool :=
  terminal ∈ [.name, .text, .variance, .openBracket, .openParen]

/-- The token that closes an object. -/
def closeOf (exact : Bool) : Terminal := if exact then .closeExact else .closeBrace

/-- The tokens that are looked for at a place. -/
def Place.expects : Place → Terminal → Bool
  | typeStart, t => startsType t
  | operandStart _, t => startsOperand t
  | tupleItem .., t => startsType t || t == .closeBracket
  | nextArgument .., t => startsType t || t == .greater
  | afterName .., t => followsOperand t || t == .dot || t == .less
  | afterDot .., t => t == .name
  | afterOperand .., t => followsOperand t
  | arrayEnd .., t => t == .closeBracket
  | firstMember object, t => startsMember t || t == closeOf object.exact
  | nextMember _, t => startsMember t || t == .closeBrace || t == .closeExact
  | afterVariance _, t => t == .name || t == .text || t == .openBracket
  | afterKey .., t => t == .colon || t == .question
  | afterOptionalKey .., t => t == .colon
  | indexerStart _, t => startsType t
  | indexerName .., t =>
    t == .colon || t == .dot || t == .less || t == .bar || t == .openBracket || t == .closeBracket
  | indexerEnd .., t => t == .colon
  | nextParameter .., t => t == .name || t == .ellipsis || t == .closeParen
  | afterParameterName .., t => t == .colon || t == .question
  | parameterColon .., t => t == .colon
  | afterEllipsis .., t => t == .name
  | callEnd .., t => t == .colon
  | finished _, _ => false

/-- A place in the grammar and the constructs around it, innermost first. -/
structure Reading where
  place : Place
  stack : List Frame

namespace Reading

/-- Nothing has been read. -/
def initial : Reading := ⟨.typeStart, []⟩

/-- The first token of an operand. -/
def startOperand (pending : Pending) (stack : List Frame) (lexeme : List Char) :
    Terminal → Option Reading
  | .question => some ⟨.operandStart { pending with questions := pending.questions + 1 }, stack⟩
  | .name => some ⟨.afterName pending [String.ofList lexeme], stack⟩
  | .text => some ⟨.afterOperand pending (.text lexeme), stack⟩
  | .numeral => some ⟨.afterOperand pending (.numeral lexeme), stack⟩
  | .openBrace => some ⟨.firstMember ⟨pending, false, []⟩, stack⟩
  | .openExact => some ⟨.firstMember ⟨pending, true, []⟩, stack⟩
  | .openBracket => some ⟨.tupleItem pending [], stack⟩
  | .openParen => some ⟨.typeStart, .group pending :: stack⟩
  | _ => none

/-- The first token of a type; a leading bar adds nothing. -/
def startType (stack : List Frame) (lexeme : List Char) : Terminal → Option Reading
  | .bar => some ⟨.operandStart .none, stack⟩
  | terminal => startOperand .none stack lexeme terminal

/-- The first token of a member, or of what follows a variance sign. -/
def startKey (object : OpenObject) (stack : List Frame) (lexeme : List Char) :
    Terminal → Option Reading
  | .name => some ⟨.afterKey object (.bare (String.ofList lexeme)), stack⟩
  | .text => some ⟨.afterKey object (.text lexeme), stack⟩
  | .openBracket => some ⟨.indexerStart object, stack⟩
  | _ => none

/-- A member, or the end of the object. -/
def startMember (object : OpenObject) (stack : List Frame) (lexeme : List Char)
    (terminal : Terminal) : Option Reading :=
  if terminal = closeOf object.exact then some ⟨.afterOperand object.outer object.finish, stack⟩
  else
    match terminal with
    | .variance => some ⟨.afterVariance object, stack⟩
    | .openParen => some ⟨.nextParameter object [], stack⟩
    | _ => startKey object stack lexeme terminal

/-- A token after the last type of a member: a separator, or the end of the object. -/
def endMember (object : OpenObject) (stack : List Frame) (terminal : Terminal) : Option Reading :=
  if terminal = closeOf object.exact then some ⟨.afterOperand object.outer object.finish, stack⟩
  else if terminal = .comma ∨ terminal = .semicolon then some ⟨.nextMember object, stack⟩
  else none

/-- A token after a complete type. -/
def endType (type : TypeExpr) (stack : List Frame) (terminal : Terminal) : Option Reading :=
  match stack, terminal with
  | [], .semicolon => some ⟨.finished type, []⟩
  | .group outer :: stack, .closeParen => some ⟨.afterOperand outer type, stack⟩
  | .tuple outer elements :: stack, .comma => some ⟨.tupleItem outer (type :: elements), stack⟩
  | .tuple outer elements :: stack, .closeBracket =>
    some ⟨.afterOperand outer (.tuple (type :: elements).reverse), stack⟩
  | .arguments outer path arguments :: stack, .comma =>
    some ⟨.nextArgument outer path (type :: arguments), stack⟩
  | .arguments outer path arguments :: stack, .greater =>
    some ⟨.afterOperand outer (.named path.reverse (some (type :: arguments).reverse)), stack⟩
  | .property object key optional :: stack, _ =>
    endMember (object.add (.property key optional type)) stack terminal
  | .indexerKey object :: stack, .closeBracket => some ⟨.indexerEnd object type, stack⟩
  | .indexerValue object key :: stack, _ =>
    endMember (object.add (.indexer key type)) stack terminal
  | .parameter object parameters :: stack, .comma =>
    some ⟨.nextParameter object (type :: parameters), stack⟩
  | .parameter object parameters :: stack, .closeParen =>
    some ⟨.callEnd object (type :: parameters), stack⟩
  | .result object parameters :: stack, _ =>
    endMember (object.add (.call parameters.reverse type)) stack terminal
  | _, _ => none

/-- A token after a complete operand. -/
def endOperand (pending : Pending) (expr : TypeExpr) (stack : List Frame) :
    Terminal → Option Reading
  | .bar => some ⟨.operandStart (pending.nextAlternative expr), stack⟩
  | .openBracket => some ⟨.arrayEnd pending expr, stack⟩
  | terminal => endType (pending.finish expr) stack terminal

/-- A token after a name. -/
def endName (pending : Pending) (path : List String) (stack : List Frame) :
    Terminal → Option Reading
  | .dot => some ⟨.afterDot pending path, stack⟩
  | .less => some ⟨.typeStart, .arguments pending path [] :: stack⟩
  | terminal => endOperand pending (.named path.reverse none) stack terminal

/-- What a token does. -/
def step (reading : Reading) (terminal : Terminal) (lexeme : List Char) : Option Reading :=
  let stack := reading.stack
  match reading.place, terminal with
  | .typeStart, _ => startType stack lexeme terminal
  | .operandStart pending, _ => startOperand pending stack lexeme terminal
  | .tupleItem outer elements, .closeBracket =>
    some ⟨.afterOperand outer (.tuple elements.reverse), stack⟩
  | .tupleItem outer elements, _ => startType (.tuple outer elements :: stack) lexeme terminal
  | .nextArgument outer path arguments, .greater =>
    some ⟨.afterOperand outer (.named path.reverse (some arguments.reverse)), stack⟩
  | .nextArgument outer path arguments, _ =>
    startType (.arguments outer path arguments :: stack) lexeme terminal
  | .afterName pending path, _ => endName pending path stack terminal
  | .afterDot pending path, .name =>
    some ⟨.afterName pending (String.ofList lexeme :: path), stack⟩
  | .afterOperand pending expr, _ => endOperand pending expr stack terminal
  | .arrayEnd pending expr, .closeBracket => some ⟨.afterOperand pending (.arrayOf expr), stack⟩
  | .firstMember object, _ => startMember object stack lexeme terminal
  | .nextMember object, _ => startMember object stack lexeme terminal
  | .afterVariance object, _ => startKey object stack lexeme terminal
  | .afterKey object key, .question => some ⟨.afterOptionalKey object key, stack⟩
  | .afterKey object key, .colon => some ⟨.typeStart, .property object key false :: stack⟩
  | .afterOptionalKey object key, .colon => some ⟨.typeStart, .property object key true :: stack⟩
  | .indexerStart object, .name => some ⟨.indexerName object (String.ofList lexeme), stack⟩
  | .indexerStart object, _ => startType (.indexerKey object :: stack) lexeme terminal
  | .indexerName object _, .colon => some ⟨.typeStart, .indexerKey object :: stack⟩
  | .indexerName object name, _ => endName .none [name] (.indexerKey object :: stack) terminal
  | .indexerEnd object key, .colon => some ⟨.typeStart, .indexerValue object key :: stack⟩
  | .nextParameter object parameters, .name => some ⟨.afterParameterName object parameters, stack⟩
  | .nextParameter object parameters, .ellipsis => some ⟨.afterEllipsis object parameters, stack⟩
  | .nextParameter object parameters, .closeParen => some ⟨.callEnd object parameters, stack⟩
  | .afterParameterName object parameters, .question =>
    some ⟨.parameterColon object parameters, stack⟩
  | .afterParameterName object parameters, .colon =>
    some ⟨.typeStart, .parameter object parameters :: stack⟩
  | .parameterColon object parameters, .colon =>
    some ⟨.typeStart, .parameter object parameters :: stack⟩
  | .afterEllipsis object parameters, .name => some ⟨.parameterColon object parameters, stack⟩
  | .callEnd object parameters, .colon => some ⟨.typeStart, .result object parameters :: stack⟩
  | _, _ => none

/-- The expression that has been read, if the text may end here. -/
def result? (reading : Reading) : Option TypeExpr :=
  match reading.place, reading.stack with
  | .afterName pending path, [] => some (pending.finish (.named path.reverse none))
  | .afterOperand pending expr, [] => some (pending.finish expr)
  | .finished expr, _ => some expr
  | _, _ => none

/-- Reads the rest of a text. `offset` is the number of characters before it, `last` the start of
the last token. -/
def run (reading : Reading) (offset last : Nat) (text : List Char) :
    Except (SyntaxFault × Nat) TypeExpr :=
  match text with
  | [] =>
    match reading.result? with
    | some expr => .ok expr
    | none => .error (.endOfInput, last)
  | c :: rest =>
    if isTokenSpace c then run reading (offset + 1) last rest
    else
      match firstToken? reading.place.expects (c :: rest) with
      | some (terminal, width) =>
        let lexeme := (c :: rest).take width
        match reading.step terminal lexeme with
        | some next => run next (offset + width) offset (rest.drop (width - 1))
        | none => .error (.token (String.ofList lexeme), offset)
      | none =>
        match firstToken? (fun _ => true) (c :: rest) with
        | some (_, width) => .error (.token (String.ofList ((c :: rest).take width)), offset)
        | none => .error (.character c, offset)
termination_by text.length
decreasing_by all_goals simp_all; try omega

end Reading

/-- The expression of a text, or the fault and its offset. -/
def TypeExpr.ofText (text : List Char) : Except (SyntaxFault × Nat) TypeExpr :=
  Reading.initial.run 0 0 text

end TypeSchema
