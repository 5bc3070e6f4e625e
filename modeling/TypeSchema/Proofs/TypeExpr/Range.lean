/-
**Expressions whose literals are in range.**

* `Token.InRange`: a string literal or a numeral denotes something; other tokens always do;
* `HasNode`, `Reading.HasNodes`: an expression denotes a type, and so does all that a reading holds;
* `hasNodes_step`: **a step keeps that** if its token is in range;
* `hasNode_of_feed`: an expression whose literals are in range denotes a type;
* `Derives.inRange`: the literals of a text that has a type are in range.
-/

import TypeSchema.Proofs.TypeExpr.StringLiterals

namespace TypeSchema

variable {expr : TypeExpr} {exprs : List TypeExpr} {pending : Pending} {object : OpenObject}
  {terminal : Terminal} {lexeme : List Char} {stack : List Frame} {reading next : Reading}
  {tokens ts us : List Token} {token : Token}

/-- A string literal denotes a text, and a numeral is not too long. -/
structure Token.InRange (token : Token) : Prop where
  text : token.terminal = .text → ∃ value, Unescapes (inner token.lexeme) value
  numeral : token.terminal = .numeral → ∀ numeral rest,
    Numeral.read? token.lexeme = some (numeral, rest) → numeral.InRange

/-! ### Expressions that denote types -/

/-- An expression denotes a type. -/
def HasNode (expr : TypeExpr) : Prop := ∃ node, expr.node = .ok node

/-- A key denotes a name. -/
def HasName (key : PropertyKey) : Prop := ∃ name, key.name = .ok name

/-- A member contributes to its object. -/
def Contributes (member : Member TypeExpr) : Prop := ∃ value, member.contribution = .ok value

theorem nodes_of_hasNode (each : ∀ expr ∈ exprs, HasNode expr) :
    ∃ types, nodes exprs = .ok types := by
  induction exprs with
  | nil => exact ⟨[], rfl⟩
  | cons expr exprs ih =>
    obtain ⟨⟨type, isType⟩, others⟩ := List.forall_mem_cons.mp each
    obtain ⟨types, areTypes⟩ := ih others
    exact ⟨type :: types, nodes_cons isType areTypes⟩

theorem contributions_of_contributes {members : List (Member TypeExpr)}
    (each : ∀ member ∈ members, Contributes member) :
    ∃ values, contributions members = .ok values := by
  induction members with
  | nil => exact ⟨[], rfl⟩
  | cons member members ih =>
    obtain ⟨⟨value, isValue⟩, others⟩ := List.forall_mem_cons.mp each
    obtain ⟨values, areValues⟩ := ih others
    exact ⟨value :: values,
      contributions_eq_ok.mpr (.cons isValue (contributions_eq_ok.mp areValues))⟩

theorem hasNode_text (inRange : Token.InRange ⟨.text, lexeme⟩) : HasNode (.text lexeme) := by
  obtain ⟨value, denotes⟩ := inRange.text rfl
  exact ⟨_, bind_eq_ok_iff.mpr ⟨_, unquote_eq_ok.mpr denotes, rfl⟩⟩

theorem hasName_text (inRange : Token.InRange ⟨.text, lexeme⟩) : HasName (.text lexeme) := by
  obtain ⟨value, denotes⟩ := inRange.text rfl
  exact ⟨_, unquote_eq_ok.mpr denotes⟩

theorem hasNode_numeral (inRange : Token.InRange ⟨.numeral, lexeme⟩) :
    HasNode (.numeral lexeme) := by
  have denotes : ∃ number, numberOf lexeme = .ok number := by
    unfold numberOf
    cases read : Numeral.read? lexeme with
    | none => exact ⟨_, rfl⟩
    | some pair =>
      have short := inRange.numeral rfl pair.1 pair.2 read
      by_cases integer : pair.1.isInteger
      · have notLong : ¬ digitLimit < pair.1.whole.length := Nat.not_lt.mpr (short integer)
        simp only [integer, if_true, notLong, if_false]
        exact ⟨_, rfl⟩
      · simp only [integer]
        exact ⟨_, rfl⟩
  obtain ⟨number, isNumber⟩ := denotes
  exact ⟨_, bind_eq_ok_iff.mpr ⟨number, isNumber, rfl⟩⟩

theorem hasNode_named (path : List String) : HasNode (.named path none) := ⟨_, rfl⟩

theorem hasNode_applied (path : List String) (each : ∀ expr ∈ exprs, HasNode expr) :
    HasNode (.named path (some exprs)) := by
  obtain ⟨types, areTypes⟩ := nodes_of_hasNode each
  exact ⟨_, bind_eq_ok_iff.mpr ⟨types, areTypes, rfl⟩⟩

theorem HasNode.arrayOf (element : HasNode expr) : HasNode (.arrayOf expr) := by
  obtain ⟨type, isType⟩ := element
  exact ⟨_, bind_eq_ok_iff.mpr ⟨type, isType, rfl⟩⟩

theorem HasNode.nullable (inner : HasNode expr) : HasNode (.nullable expr) := by
  obtain ⟨type, isType⟩ := inner
  exact ⟨_, bind_eq_ok_iff.mpr ⟨type, isType, rfl⟩⟩

theorem hasNode_tuple (each : ∀ expr ∈ exprs, HasNode expr) : HasNode (.tuple exprs) := by
  obtain ⟨types, areTypes⟩ := nodes_of_hasNode each
  exact ⟨_, bind_eq_ok_iff.mpr ⟨types, areTypes, rfl⟩⟩

theorem hasNode_unionOf (each : ∀ expr ∈ exprs, HasNode expr) : HasNode (.unionOf exprs) := by
  obtain ⟨types, areTypes⟩ := nodes_of_hasNode each
  exact ⟨_, node_unionOf_eq_ok.mpr ⟨types, areTypes, rfl⟩⟩

/-! ### Readings that denote types -/

/-- The alternatives before an operand denote types. -/
def Pending.HasNodes (pending : Pending) : Prop := ∀ expr ∈ pending.alternatives, HasNode expr

/-- What has been read of an object denotes something. -/
structure OpenObject.HasNodes (object : OpenObject) : Prop where
  outer : object.outer.HasNodes
  members : ∀ member ∈ object.members, Contributes member

/-- What has been read of a construct denotes something. -/
def Frame.HasNodes : Frame → Prop
  | .group outer => outer.HasNodes
  | .tuple outer elements => outer.HasNodes ∧ ∀ expr ∈ elements, HasNode expr
  | .arguments outer _ exprs => outer.HasNodes ∧ ∀ expr ∈ exprs, HasNode expr
  | .property object key _ => object.HasNodes ∧ HasName key
  | .indexerKey object => object.HasNodes
  | .indexerValue object key => object.HasNodes ∧ HasNode key
  | .parameter object parameters => object.HasNodes ∧ ∀ expr ∈ parameters, HasNode expr
  | .result object parameters => object.HasNodes ∧ ∀ expr ∈ parameters, HasNode expr

/-- What has been read at a place denotes something. -/
def Place.HasNodes : Place → Prop
  | .typeStart => True
  | .operandStart pending | .afterName pending _ | .afterDot pending _ => pending.HasNodes
  | .tupleItem outer exprs | .nextArgument outer _ exprs =>
    outer.HasNodes ∧ ∀ expr ∈ exprs, HasNode expr
  | .afterOperand pending expr | .arrayEnd pending expr => pending.HasNodes ∧ HasNode expr
  | .firstMember object | .nextMember object | .afterVariance object | .indexerStart object
  | .indexerName object _ => object.HasNodes
  | .afterKey object key | .afterOptionalKey object key => object.HasNodes ∧ HasName key
  | .indexerEnd object key => object.HasNodes ∧ HasNode key
  | .nextParameter object parameters | .afterParameterName object parameters
  | .parameterColon object parameters | .afterEllipsis object parameters
  | .callEnd object parameters => object.HasNodes ∧ ∀ expr ∈ parameters, HasNode expr
  | .finished expr => HasNode expr

/-- All that a reading holds denotes something. -/
structure Reading.HasNodes (reading : Reading) : Prop where
  place : reading.place.HasNodes
  stack : ∀ frame ∈ reading.stack, frame.HasNodes

theorem Pending.HasNodes.operand (inner : HasNode expr) (pending : Pending) :
    HasNode (pending.operand expr) := by
  have marks (questions : Nat) : HasNode (questions.repeat .nullable expr) := by
    induction questions with
    | zero => exact inner
    | succ questions ih => exact ih.nullable
  exact marks pending.questions

theorem Pending.HasNodes.finish (denotes : pending.HasNodes) (inner : HasNode expr) :
    HasNode (pending.finish expr) := by
  rw [pending.finish_eq_unionOf]
  refine hasNode_unionOf fun other isOther => ?_
  rcases List.mem_append.mp isOther with before | last
  · exact denotes other (List.mem_reverse.mp before)
  · rw [List.mem_singleton.mp last]
    exact HasNodes.operand inner pending

theorem OpenObject.HasNodes.finish (denotes : object.HasNodes) : HasNode object.finish := by
  have each : ∀ member ∈ object.members.reverse, Contributes member :=
    fun member isMember => denotes.members member (List.mem_reverse.mp isMember)
  obtain ⟨values, areValues⟩ := contributions_of_contributes each
  exact ⟨_, bind_eq_ok_iff.mpr ⟨values, areValues, rfl⟩⟩

theorem OpenObject.HasNodes.add {member : Member TypeExpr} (denotes : object.HasNodes)
    (contributes : Contributes member) : (object.add member).HasNodes :=
  ⟨denotes.outer, List.forall_mem_cons.mpr ⟨contributes, denotes.members⟩⟩

/-! ### Steps -/

namespace Reading

theorem hasNodes_startOperand (denotes : pending.HasNodes)
    (around : ∀ frame ∈ stack, frame.HasNodes) (inRange : Token.InRange ⟨terminal, lexeme⟩)
    (starts : startOperand pending stack lexeme terminal = some next) : next.HasNodes := by
  have noMembers : ∀ exact, OpenObject.HasNodes ⟨pending, exact, []⟩ :=
    fun _ => ⟨denotes, fun _ isMember => nomatch isMember⟩
  cases terminal with
  | question | name =>
    cases starts
    exact ⟨denotes, around⟩
  | text =>
    cases starts
    exact ⟨⟨denotes, hasNode_text inRange⟩, around⟩
  | numeral =>
    cases starts
    exact ⟨⟨denotes, hasNode_numeral inRange⟩, around⟩
  | openBrace | openExact =>
    cases starts
    exact ⟨noMembers _, around⟩
  | openBracket =>
    cases starts
    exact ⟨⟨denotes, fun _ isElement => nomatch isElement⟩, around⟩
  | openParen =>
    cases starts
    exact ⟨trivial, List.forall_mem_cons.mpr ⟨denotes, around⟩⟩
  | _ => cases starts

theorem hasNodes_startType (around : ∀ frame ∈ stack, frame.HasNodes)
    (inRange : Token.InRange ⟨terminal, lexeme⟩)
    (starts : startType stack lexeme terminal = some next) : next.HasNodes := by
  have nothing : Pending.none.HasNodes := fun _ isAlternative => nomatch isAlternative
  by_cases bar : terminal = .bar
  · subst bar
    cases starts
    exact ⟨nothing, around⟩
  · rw [startType_of_ne_bar bar] at starts
    exact hasNodes_startOperand nothing around inRange starts

theorem hasNodes_startKey (denotes : object.HasNodes) (around : ∀ frame ∈ stack, frame.HasNodes)
    (inRange : Token.InRange ⟨terminal, lexeme⟩)
    (starts : startKey object stack lexeme terminal = some next) : next.HasNodes := by
  cases terminal with
  | name =>
    cases starts
    exact ⟨⟨denotes, _, rfl⟩, around⟩
  | text =>
    cases starts
    exact ⟨⟨denotes, hasName_text inRange⟩, around⟩
  | openBracket =>
    cases starts
    exact ⟨denotes, around⟩
  | _ => cases starts

theorem hasNodes_startMember (denotes : object.HasNodes)
    (around : ∀ frame ∈ stack, frame.HasNodes) (inRange : Token.InRange ⟨terminal, lexeme⟩)
    (starts : startMember object stack lexeme terminal = some next) : next.HasNodes := by
  unfold startMember at starts
  split at starts
  · cases starts
    exact ⟨⟨denotes.outer, denotes.finish⟩, around⟩
  · split at starts
    · cases starts
      exact ⟨denotes, around⟩
    · cases starts
      exact ⟨⟨denotes, fun _ isParameter => nomatch isParameter⟩, around⟩
    · exact hasNodes_startKey denotes around inRange starts

theorem hasNodes_endMember (denotes : object.HasNodes)
    (around : ∀ frame ∈ stack, frame.HasNodes)
    (ends : endMember object stack terminal = some next) : next.HasNodes := by
  unfold endMember at ends
  split at ends
  · cases ends
    exact ⟨⟨denotes.outer, denotes.finish⟩, around⟩
  · split at ends
    · cases ends
      exact ⟨denotes, around⟩
    · cases ends

theorem hasNodes_endType (isType : HasNode expr) (around : ∀ frame ∈ stack, frame.HasNodes)
    (ends : endType expr stack terminal = some next) : next.HasNodes := by
  cases stack with
  | nil =>
    cases terminal <;> cases ends
    exact ⟨isType, around⟩
  | cons frame stack =>
    obtain ⟨denotes, outside⟩ := List.forall_mem_cons.mp around
    obtain ⟨node, isNode⟩ := isType
    have isType : HasNode expr := ⟨node, isNode⟩
    have reversed {exprs : List TypeExpr} (each : ∀ other ∈ exprs, HasNode other) :
        ∀ other ∈ (expr :: exprs).reverse, HasNode other := fun other isOther =>
      (List.forall_mem_cons.mpr ⟨isType, each⟩) other (List.mem_reverse.mp isOther)
    cases frame with
    | group outer =>
      cases terminal <;> cases ends
      exact ⟨⟨denotes, isType⟩, outside⟩
    | tuple outer elements =>
      cases terminal <;> cases ends
      · exact ⟨⟨denotes.1, hasNode_tuple (reversed denotes.2)⟩, outside⟩
      · exact ⟨⟨denotes.1, List.forall_mem_cons.mpr ⟨isType, denotes.2⟩⟩, outside⟩
    | arguments outer path arguments =>
      cases terminal <;> cases ends
      · exact ⟨⟨denotes.1, hasNode_applied _ (reversed denotes.2)⟩, outside⟩
      · exact ⟨⟨denotes.1, List.forall_mem_cons.mpr ⟨isType, denotes.2⟩⟩, outside⟩
    | property object key optional =>
      obtain ⟨name, isName⟩ := denotes.2
      have member : Contributes (.property key optional expr) :=
        ⟨_, bind_eq_ok_iff.mpr ⟨name, isName, bind_eq_ok_iff.mpr ⟨node, isNode, rfl⟩⟩⟩
      exact hasNodes_endMember (denotes.1.add member) outside ends
    | indexerKey object =>
      cases terminal <;> cases ends
      exact ⟨⟨denotes, isType⟩, outside⟩
    | indexerValue object key =>
      obtain ⟨keyNode, isKey⟩ := denotes.2
      have member : Contributes (.indexer key expr) :=
        ⟨_, bind_eq_ok_iff.mpr ⟨keyNode, isKey, bind_eq_ok_iff.mpr ⟨node, isNode, rfl⟩⟩⟩
      exact hasNodes_endMember (denotes.1.add member) outside ends
    | parameter object parameters =>
      cases terminal <;> cases ends
      · exact ⟨⟨denotes.1, List.forall_mem_cons.mpr ⟨isType, denotes.2⟩⟩, outside⟩
      · exact ⟨⟨denotes.1, List.forall_mem_cons.mpr ⟨isType, denotes.2⟩⟩, outside⟩
    | result object parameters =>
      have each : ∀ other ∈ parameters.reverse, HasNode other :=
        fun other isOther => denotes.2 other (List.mem_reverse.mp isOther)
      obtain ⟨types, areTypes⟩ := nodes_of_hasNode each
      have member : Contributes (.call parameters.reverse expr) :=
        ⟨_, bind_eq_ok_iff.mpr ⟨types, areTypes, bind_eq_ok_iff.mpr ⟨node, isNode, rfl⟩⟩⟩
      exact hasNodes_endMember (denotes.1.add member) outside ends

theorem hasNodes_endOperand (denotes : pending.HasNodes) (isOperand : HasNode expr)
    (around : ∀ frame ∈ stack, frame.HasNodes)
    (ends : endOperand pending expr stack terminal = some next) : next.HasNodes := by
  cases terminal with
  | bar =>
    cases ends
    refine ⟨List.forall_mem_cons.mpr ⟨?_, denotes⟩, around⟩
    exact Pending.HasNodes.operand isOperand pending
  | openBracket =>
    cases ends
    exact ⟨⟨denotes, isOperand⟩, around⟩
  | _ => exact hasNodes_endType (denotes.finish isOperand) around ends

theorem hasNodes_endName {path : List String} (denotes : pending.HasNodes)
    (around : ∀ frame ∈ stack, frame.HasNodes)
    (ends : endName pending path stack terminal = some next) : next.HasNodes := by
  have operand (ends : endOperand pending (.named path.reverse none) stack terminal = some next) :
      next.HasNodes := hasNodes_endOperand denotes (hasNode_named _) around ends
  cases terminal with
  | dot =>
    cases ends
    exact ⟨denotes, around⟩
  | less =>
    cases ends
    exact ⟨trivial, List.forall_mem_cons.mpr
      ⟨⟨denotes, fun _ isArgument => nomatch isArgument⟩, around⟩⟩
  | _ => exact operand ends

/-- **A step keeps what a reading holds denoting something** if its token is in range. -/
theorem hasNodes_step (denotes : reading.HasNodes) (inRange : Token.InRange ⟨terminal, lexeme⟩)
    (steps : reading.step terminal lexeme = some next) : next.HasNodes := by
  obtain ⟨place, stack⟩ := reading
  obtain ⟨here, around⟩ := denotes
  have inside {frame : Frame} (isFrame : frame.HasNodes) :
      ∀ other ∈ frame :: stack, other.HasNodes := List.forall_mem_cons.mpr ⟨isFrame, around⟩
  cases place with
  | typeStart => exact hasNodes_startType around inRange steps
  | operandStart pending => exact hasNodes_startOperand here around inRange steps
  | tupleItem outer elements =>
    by_cases closes : terminal = .closeBracket
    · subst closes
      cases steps
      exact ⟨⟨here.1, hasNode_tuple fun expr isElement =>
        here.2 expr (List.mem_reverse.mp isElement)⟩, around⟩
    · have starts : startType (.tuple outer elements :: stack) lexeme terminal = some next := by
        rw [← steps]
        cases terminal <;> first | rfl | exact absurd rfl closes
      refine hasNodes_startType ?_ inRange starts
      exact inside here
  | nextArgument outer path arguments =>
    by_cases closes : terminal = .greater
    · subst closes
      cases steps
      exact ⟨⟨here.1, hasNode_applied _ fun expr isArgument =>
        here.2 expr (List.mem_reverse.mp isArgument)⟩, around⟩
    · have starts : startType (.arguments outer path arguments :: stack) lexeme terminal =
          some next := by
        rw [← steps]
        cases terminal <;> first | rfl | exact absurd rfl closes
      refine hasNodes_startType ?_ inRange starts
      exact inside here
  | afterName pending path => exact hasNodes_endName here around steps
  | afterDot pending path =>
    cases terminal <;> cases steps
    exact ⟨here, around⟩
  | afterOperand pending expr => exact hasNodes_endOperand here.1 here.2 around steps
  | arrayEnd pending expr =>
    cases terminal <;> cases steps
    exact ⟨⟨here.1, here.2.arrayOf⟩, around⟩
  | firstMember object => exact hasNodes_startMember here around inRange steps
  | nextMember object => exact hasNodes_startMember here around inRange steps
  | afterVariance object => exact hasNodes_startKey here around inRange steps
  | afterKey object key =>
    cases terminal <;> cases steps
    · exact ⟨here, around⟩
    · exact ⟨trivial, inside here⟩
  | afterOptionalKey object key =>
    cases terminal <;> cases steps
    exact ⟨trivial, inside here⟩
  | indexerStart object =>
    by_cases isName : terminal = .name
    · subst isName
      cases steps
      exact ⟨here, around⟩
    · have starts : startType (.indexerKey object :: stack) lexeme terminal = some next := by
        rw [← steps]
        cases terminal <;> first | rfl | exact absurd rfl isName
      refine hasNodes_startType ?_ inRange starts
      exact inside here
  | indexerName object name =>
    by_cases colon : terminal = .colon
    · subst colon
      cases steps
      exact ⟨trivial, inside here⟩
    · have nothing : Pending.none.HasNodes := fun _ isAlternative => nomatch isAlternative
      have ends : endName .none [name] (.indexerKey object :: stack) terminal = some next := by
        rw [← steps]
        cases terminal <;> first | rfl | exact absurd rfl colon
      refine hasNodes_endName nothing ?_ ends
      exact inside here
  | indexerEnd object key =>
    cases terminal <;> cases steps
    exact ⟨trivial, inside here⟩
  | nextParameter object parameters | afterParameterName object parameters =>
    cases terminal <;> cases steps
    all_goals first | exact ⟨here, around⟩ | exact ⟨trivial, inside here⟩
  | parameterColon object parameters | callEnd object parameters =>
    cases terminal <;> cases steps
    exact ⟨trivial, inside here⟩
  | afterEllipsis object parameters =>
    cases terminal <;> cases steps
    exact ⟨here, around⟩
  | finished expr => cases steps

/-- What a text of tokens in range leaves denotes something. -/
theorem hasNodes_feed (denotes : reading.HasNodes) (inRange : ∀ token ∈ tokens, token.InRange)
    (feeds : reading.feed tokens = some next) : next.HasNodes := by
  induction tokens generalizing reading with
  | nil =>
    cases feeds
    exact denotes
  | cons token tokens ih =>
    obtain ⟨first, others⟩ := List.forall_mem_cons.mp inRange
    rw [feed_cons] at feeds
    obtain ⟨middle, steps, feeds⟩ := Option.bind_eq_some_iff.mp feeds
    exact ih (hasNodes_step denotes first steps) others feeds

theorem HasNodes.result? (denotes : reading.HasNodes) (ends : reading.result? = some expr) :
    HasNode expr := by
  obtain ⟨place, stack⟩ := reading
  unfold Reading.result? at ends
  split at ends
  · rename_i same _
    cases ends
    cases same
    exact denotes.place.finish (hasNode_named _)
  · rename_i same _
    cases ends
    cases same
    exact denotes.place.1.finish denotes.place.2
  · rename_i same
    cases ends
    cases same
    exact denotes.place
  · cases ends

/-- **An expression whose literals are in range denotes a type.** -/
theorem hasNode_of_feed (inRange : ∀ token ∈ tokens, token.InRange)
    (feeds : initial.feed tokens = some reading) (ends : reading.result? = some expr) :
    HasNode expr :=
  have nothing : initial.HasNodes := ⟨trivial, fun _ isFrame => nomatch isFrame⟩
  (hasNodes_feed nothing inRange feeds).result? ends

end Reading

/-! ### Texts -/

/-- **The literals of a text that has a type** are in range. -/
theorem Derives.inRange {symbol : Symbol} {value : symbol.Value}
    (derives : Derives symbol tokens value) : ∀ token ∈ tokens, token.InRange := by
  refine derives.forall_token ?_ ?_ ?_
  · exact fun _ _ noText noNumeral =>
      ⟨fun same => absurd same noText, fun same => absurd same noNumeral⟩
  · exact fun _ value denotes => ⟨fun _ => ⟨value, denotes⟩, fun same => nomatch same⟩
  · intro lexeme numeral reads inRange
    refine ⟨(nomatch ·), fun _ other rest readsOther => ?_⟩
    cases reads.symm.trans readsOther
    exact inRange

/-- **An expression that is read denotes a type** exactly if its literals are in range. -/
theorem exists_node_iff {text : List Char} (isTokens : Tokens text tokens)
    (isExpr : TypeExpr.ofText text = .ok expr) (path : Option String) (start : Position) :
    (∃ node, TypeNode.ofText text path start = .ok node) ↔ ∀ token ∈ tokens, token.InRange := by
  constructor
  · rintro ⟨node, accepted⟩
    obtain ⟨others, tree, areOthers, derives, -⟩ := TypeNode.accepted_iff.mp accepted
    cases isTokens.unique areOthers
    exact derives.inRange
  · intro inRange
    obtain ⟨others, reading, areOthers, feeds, ends⟩ := (run_eq_ok ..).mp isExpr
    cases isTokens.unique areOthers
    obtain ⟨node, isNode⟩ := Reading.hasNode_of_feed inRange feeds ends
    exact ⟨node.type, TypeNode.ofText_iff.mpr
      ⟨node, by simp only [ReadNode.ofText, isExpr, isNode], rfl⟩⟩

end TypeSchema
