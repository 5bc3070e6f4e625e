/-
**What is read can be derived.**

`Reads reading tokens`: the tokens that have led to a reading, cut into those of the constructs
around its place and those of the place itself. `reads_step` proves that a step preserves this, so
it holds after any tokens (`reads_feed`); where a text may end, the tokens derive the type
(`sound`).

An expression may hold a literal that denotes nothing. So `Denotes` speaks of derivations for those
values only that the expression has.
-/

import TypeSchema.Proofs.TypeExpr.Meaning
import TypeSchema.Proofs.TypeExpr.Steps

namespace TypeSchema

variable {ts us q own outside : List Token} {l r lexeme : List Char} {terminal : Terminal}
  {pending outer : Pending} {expr type : TypeExpr} {object : OpenObject} {token : Token}

/-- The tokens derive whatever the content of a symbol turns out to be. -/
def Denotes (symbol : Symbol) (content : Except LiteralError symbol.Value) (ts : List Token) :
    Prop :=
  ∀ value, content = .ok value → Derives symbol ts value

/-! ### Operands -/

/-- The tokens of a type before its current operand. -/
inductive PendingRead : Pending → List Token → Prop
  | nothing : PendingRead .none []
  | bar {l : List Char} : PendingRead .none [⟨.bar, l⟩]
  | question {pending : Pending} {q : List Token} {l : List Char} (read : PendingRead pending q) :
      PendingRead { pending with questions := pending.questions + 1 } (q ++ [⟨.question, l⟩])
  | alternative {pending : Pending} {q ts : List Token} {expr : TypeExpr} {l : List Char}
      (read : PendingRead pending q) (operand : Denotes .arrays expr.node ts) :
      PendingRead (pending.nextAlternative expr) (q ++ (ts ++ [⟨.bar, l⟩]))

theorem Denotes.nullable (inner : Denotes .nonunion expr.node ts) :
    Denotes .nonunion (TypeExpr.nullable expr).node (⟨.question, l⟩ :: ts) := by
  intro value denotes
  obtain ⟨type, inside, same⟩ := bind_eq_ok_iff.mp denotes
  cases pure_eq_ok_iff.mp same
  exact .nullable (inner type inside)

/-- A leading bar perhaps, alternatives with a bar after each of them, and question marks. -/
theorem PendingRead.parts (read : PendingRead pending q) :
    ∃ lead earlier marks, q = lead ++ (earlier ++ marks) ∧ Optional .bar lead ∧
      (∀ types, List.Forall₂ (fun expr type => expr.node = .ok type) pending.alternatives types →
        ∀ us more, Derives .alternatives us more →
          Derives .alternatives (earlier ++ us) (types.reverse ++ more)) ∧
      ∀ expr us, Denotes .nonunion expr.node us →
        Denotes .nonunion (pending.operand expr).node (marks ++ us) := by
  induction read with
  | nothing =>
    refine ⟨[], [], [], rfl, .inl rfl, ?_, fun _ _ inner => inner⟩
    rintro _ ⟨⟩ us more rest
    exact rest
  | @bar l =>
    refine ⟨[⟨.bar, l⟩], [], [], rfl, .inr ⟨l, rfl⟩, ?_, fun _ _ inner => inner⟩
    rintro _ ⟨⟩ us more rest
    exact rest
  | @question pending q l _ ih =>
    obtain ⟨lead, earlier, marks, rfl, isLead, alternatives, operand⟩ := ih
    refine ⟨lead, earlier, marks ++ [⟨.question, l⟩], by simp, isLead, alternatives, ?_⟩
    intro expr us inner
    have whole := operand (.nullable expr) (⟨.question, l⟩ :: us) inner.nullable
    rw [← Pending.operand_question] at whole
    simpa using whole
  | @alternative pending q ts expr l _ first ih =>
    obtain ⟨lead, earlier, marks, rfl, isLead, alternatives, operand⟩ := ih
    refine ⟨lead, earlier ++ (marks ++ (ts ++ [⟨.bar, l⟩])), [], by simp, isLead, ?_,
      fun _ _ inner => inner⟩
    rintro _ (_ | ⟨denotes, before⟩) us more rest
    have derives := operand expr ts (fun value denotes => .nonunion (first value denotes)) _ denotes
    simpa using alternatives _ before _ _ (.alternative derives rest)

/-- With its last operand a type is complete. -/
theorem PendingRead.finish (read : PendingRead pending q) (last : Denotes .arrays expr.node ts) :
    Denotes .type (pending.finish expr).node (q ++ ts) := by
  obtain ⟨lead, earlier, marks, rfl, isLead, alternatives, operand⟩ := read.parts
  intro value denotes
  rw [pending.finish_eq_unionOf, node_unionOf_eq_ok, ← List.reverse_cons] at denotes
  obtain ⟨types, denote, rfl⟩ := denotes
  obtain ⟨latest, before, isLatest, areBefore, same⟩ :=
    List.forall₂_cons_left_iff.mp (nodes_reverse_eq_ok.mp denote)
  have inner := operand expr ts (fun value denotes => .nonunion (last value denotes)) _ isLatest
  have union := alternatives _ areBefore _ _ (.lastAlternative inner)
  rw [← List.reverse_cons, ← same, List.reverse_reverse] at union
  rcases isLead with rfl | ⟨lexeme, rfl⟩
  · simpa using Derives.type union
  · have whole : Derives .type (⟨.bar, lexeme⟩ :: _) _ := .leadingBar union
    simpa using whole

/-! ### Lists -/

/-- Items with a separator after each of them; `items` has the latest first. -/
def ListRead (item : Symbol) {α : Type} (content : α → Except LiteralError item.Value)
    (items : List α) (ts : List Token) : Prop :=
  ∀ values, List.Forall₂ (fun item value => content item = .ok value) items values →
    ∀ us more, Derives (.list item) us more →
      Derives (.list item) (ts ++ us) (values.reverse ++ more)

section

variable {item : Symbol} {α : Type} {content : α → Except LiteralError item.Value} {items : List α}
  {a : α} {values : List item.Value}

theorem ListRead.nil : ListRead item content [] [] := by
  rintro _ ⟨⟩ us more rest
  exact rest

theorem ListRead.next (read : ListRead item content items ts) (last : Denotes item (content a) us)
    (separates : token.terminal ∈ item.separators) :
    ListRead item content (a :: items) (ts ++ (us ++ [token])) := by
  rintro _ (_ | ⟨denotes, before⟩) vs more rest
  simpa using read _ before _ _ (.item (last _ denotes) separates rest)

theorem ListRead.closed (read : ListRead item content items ts)
    (denote : List.Forall₂ (fun item value => content item = .ok value) items values.reverse) :
    Derives (.list item) ts values := by
  simpa using read _ denote _ _ .noItem

theorem ListRead.last (read : ListRead item content items ts) (last : Denotes item (content a) us)
    (denote : List.Forall₂ (fun item value => content item = .ok value) (a :: items)
      values.reverse) :
    Derives (.list item) (ts ++ us) values := by
  obtain ⟨value, before, denotes, areBefore, same⟩ := List.forall₂_cons_left_iff.mp denote
  have whole := read _ areBefore _ _ (.lastItem (last _ denotes))
  rwa [← List.reverse_cons, ← same, List.reverse_reverse] at whole

end

/-- The types of a list, with a comma after each of them. -/
abbrev TypesRead (exprs : List TypeExpr) : List Token → Prop :=
  ListRead .type TypeExpr.node exprs

/-- The parameters of a call, with a comma after each of them. -/
abbrev ParametersRead (exprs : List TypeExpr) : List Token → Prop :=
  ListRead .parameter (fun expr => (fun _ => ()) <$> expr.node) exprs

/-! ### Constructs around a place -/

/-- Tokens of one kind and then tokens of another. -/
def After (before own : List Token → Prop) (ts : List Token) : Prop :=
  ∃ us vs, ts = us ++ vs ∧ before us ∧ own vs

theorem After.mono {before own more : List Token → Prop} (after : After before own ts)
    (implies : ∀ vs, own vs → more vs) : After before more ts := by
  obtain ⟨first, second, rfl, isBefore, isOwn⟩ := after
  exact ⟨first, second, rfl, isBefore, implies second isOwn⟩

theorem After.assoc {before own more : List Token → Prop}
    (after : After (After before own) more ts) :
    After before (After own more) ts := by
  obtain ⟨_, third, rfl, ⟨first, second, rfl, isBefore, isOwn⟩, isMore⟩ := after
  exact ⟨first, second ++ third, List.append_assoc .., isBefore, second, third, rfl, isOwn, isMore⟩

/-- One more token of the given kind. -/
theorem After.snoc {before own : List Token → Prop} (isBefore : before ts) (isOwn : own [token]) :
    After before own (ts ++ [token]) :=
  ⟨ts, [token], rfl, isBefore, isOwn⟩

theorem After.append {before own more : List Token → Prop} (after : After before own ts)
    (extends_ : ∀ vs, own vs → more (vs ++ us)) : After before more (ts ++ us) := by
  obtain ⟨first, second, rfl, isBefore, isOwn⟩ := after
  exact ⟨first, second ++ us, List.append_assoc .., isBefore, extends_ second isOwn⟩

/-- The tokens of an object before its current member. -/
def ObjectRead (object : OpenObject) : List Token → Prop :=
  After (PendingRead object.outer) fun ts => ∃ l ms, ts = ⟨openOf object.exact, l⟩ :: ms ∧
    ListRead .member Member.contribution object.members ms

/-- The tokens of a list of types after its opening bracket. -/
def ElementsRead (elements : List TypeExpr) (ts : List Token) : Prop :=
  ∃ l es, ts = ⟨.openBracket, l⟩ :: es ∧ TypesRead elements es

/-- The tokens of a name and of its arguments. -/
def ArgumentsRead (path : List String) (types : List TypeExpr) : List Token → Prop :=
  After (fun ts => Derives .path ts path.reverse) fun ts => ∃ l es, ts = ⟨.less, l⟩ :: es ∧
    TypesRead types es

/-- The tokens of a call before its current parameter. -/
def CallRead (parameters : List TypeExpr) (ts : List Token) : Prop :=
  ∃ l ps, ts = ⟨.openParen, l⟩ :: ps ∧ ParametersRead parameters ps

/-- The tokens of a property up to its key. -/
def KeyRead (key : PropertyKey) (ts : List Token) : Prop :=
  ∃ sign token, ts = sign ++ [token] ∧ Optional .variance sign ∧
    ∀ name, key.name = .ok name → token.IsKey name

/-- The tokens of an indexer up to its opening bracket. -/
def BracketRead (ts : List Token) : Prop :=
  ∃ sign l, ts = sign ++ [⟨.openBracket, l⟩] ∧ Optional .variance sign

/-- The tokens of a member up to its last type, which makes the member. -/
def ValueDue (make : TypeExpr → Member TypeExpr) (ts : List Token) : Prop :=
  ∀ us expr, Denotes .type expr.node us → Denotes .member (make expr).contribution (ts ++ us)

/-- The tokens of a construct that waits for a type. -/
def FrameRead : Frame → List Token → Prop
  | .group outer => After (PendingRead outer) (One .openParen)
  | .tuple outer elements => After (PendingRead outer) (ElementsRead elements)
  | .arguments outer path types => After (PendingRead outer) (ArgumentsRead path types)
  | .property object key optional => After (ObjectRead object) (ValueDue (.property key optional))
  | .indexerKey object => After (ObjectRead object) (After BracketRead IsLabel)
  | .indexerValue object key => After (ObjectRead object) (ValueDue (.indexer key))
  | .parameter object parameters =>
    After (ObjectRead object) (After (CallRead parameters) IsParameterHead)
  | .result object parameters => After (ObjectRead object) (ValueDue (.call parameters.reverse))

/-- The tokens of the constructs around a place. -/
def StackRead : List Frame → List Token → Prop
  | [] => fun ts => ts = []
  | frame :: stack => After (StackRead stack) (FrameRead frame)

/-- The tokens of a place, inside the innermost construct. A text ends outside of all of them. -/
def PlaceRead (stack : List Frame) : Place → List Token → Prop
  | .typeStart => fun ts => ts = []
  | .operandStart pending => PendingRead pending
  | .tupleItem outer elements => FrameRead (.tuple outer elements)
  | .nextArgument outer path types => fun ts =>
    types ≠ [] ∧ FrameRead (.arguments outer path types) ts
  | .afterName pending path =>
    After (PendingRead pending) fun ts => Derives .path ts path.reverse
  | .afterDot pending path => After (PendingRead pending)
      (After (fun ts => Derives .path ts path.reverse) (One .dot))
  | .afterOperand pending expr => After (PendingRead pending) (Denotes .arrays expr.node)
  | .arrayEnd pending expr => After (PendingRead pending)
      (After (Denotes .arrays expr.node) (One .openBracket))
  | .firstMember object | .nextMember object => ObjectRead object
  | .afterVariance object => After (ObjectRead object) (One .variance)
  | .afterKey object key => After (ObjectRead object) (KeyRead key)
  | .afterOptionalKey object key =>
    After (ObjectRead object) (After (KeyRead key) (One .question))
  | .indexerStart object => After (ObjectRead object) BracketRead
  | .indexerName object name => After (ObjectRead object)
      (After BracketRead fun ts => ∃ l, ts = [⟨.name, l⟩] ∧ name = String.ofList l)
  | .indexerEnd object key => After (FrameRead (.indexerKey object))
      (After (Denotes .type key.node) (One .closeBracket))
  | .nextParameter object parameters => After (ObjectRead object) (CallRead parameters)
  | .afterParameterName object parameters =>
    After (ObjectRead object) (After (CallRead parameters) (One .name))
  | .parameterColon object parameters => After (ObjectRead object)
      (After (CallRead parameters) fun ts => ∀ l, IsParameterHead (ts ++ [⟨.colon, l⟩]))
  | .afterEllipsis object parameters =>
    After (ObjectRead object) (After (CallRead parameters) (One .ellipsis))
  | .callEnd object parameters => After (ObjectRead object) fun ts => ∃ l ps r,
      ts = ⟨.openParen, l⟩ :: (ps ++ [⟨.closeParen, r⟩]) ∧
        ∀ types, nodes parameters.reverse = .ok types →
          ∃ values, Derives (.list .parameter) ps values
  | .finished expr => fun ts => stack = [] ∧ Denotes .start expr.node ts

/-- The tokens that have led to a reading. -/
def Reads (reading : Reading) : List Token → Prop :=
  After (StackRead reading.stack) (PlaceRead reading.stack reading.place)

/-- A numeral is read to its end. -/
def Token.Proper (token : Token) : Prop :=
  token.terminal = .numeral → ∃ numeral, Numeral.read? token.lexeme = some (numeral, [])

section

variable {place following : Place} {stack : List Frame} {frame : Frame} {next : Reading}

/-- A token moves to another place in the same construct. -/
theorem Reads.move (reads : Reads ⟨place, stack⟩ ts)
    (moves : ∀ own, PlaceRead stack place own → PlaceRead stack following (own ++ us)) :
    Reads ⟨following, stack⟩ (ts ++ us) :=
  reads.append moves

/-- A type is due inside a construct that has been opened. -/
theorem Reads.inside (reads : Reads ⟨place, stack⟩ ts)
    (opened : ∀ own, PlaceRead stack place own → FrameRead frame own) :
    Reads ⟨.typeStart, frame :: stack⟩ ts :=
  ⟨ts, [], (List.append_nil _).symm, reads.mono opened, rfl⟩

/-- Tokens open a construct, inside which a type is due. -/
theorem Reads.enter (reads : Reads ⟨place, stack⟩ ts)
    (opens : ∀ own, PlaceRead stack place own → FrameRead frame (own ++ us)) :
    Reads ⟨.typeStart, frame :: stack⟩ (ts ++ us) :=
  ⟨ts ++ us, [], (List.append_nil _).symm, reads.append opens, rfl⟩

/-! ### The beginning of a type -/

theorem Denotes.text : Denotes .arrays (TypeExpr.text lexeme).node [⟨.text, lexeme⟩] := by
  intro value denotes
  obtain ⟨text, decodes, same⟩ := bind_eq_ok_iff.mp denotes
  cases pure_eq_ok_iff.mp same
  exact .arrays (.text (unquote_eq_ok.mp decodes))

theorem Denotes.numeral (proper : Token.Proper ⟨.numeral, lexeme⟩) :
    Denotes .arrays (TypeExpr.numeral lexeme).node [⟨.numeral, lexeme⟩] := by
  intro value denotes
  obtain ⟨number, decodes, same⟩ := bind_eq_ok_iff.mp denotes
  cases pure_eq_ok_iff.mp same
  obtain ⟨numeral, reads⟩ := proper rfl
  obtain ⟨inRange, rfl⟩ := (numberOf_eq_ok reads).mp decodes
  exact .arrays (.numeral reads inRange)

theorem reads_startOperand (reads : Reads ⟨.operandStart pending, stack⟩ ts)
    (proper : Token.Proper ⟨terminal, lexeme⟩)
    (starts : Reading.startOperand pending stack lexeme terminal = some next) :
    Reads next (ts ++ [⟨terminal, lexeme⟩]) := by
  cases terminal with
  | question =>
    cases starts
    exact reads.move fun own read => .question read
  | name =>
    cases starts
    exact reads.move fun own read => .snoc read .firstPart
  | text =>
    cases starts
    exact reads.move fun own read => .snoc read Denotes.text
  | numeral =>
    cases starts
    exact reads.move fun own read => .snoc read (Denotes.numeral proper)
  | openBrace =>
    cases starts
    exact reads.move fun own read => .snoc read ⟨lexeme, [], rfl, .nil⟩
  | openExact =>
    cases starts
    exact reads.move fun own read => .snoc read ⟨lexeme, [], rfl, .nil⟩
  | openBracket =>
    cases starts
    exact reads.move fun own read => .snoc read ⟨lexeme, [], rfl, .nil⟩
  | openParen =>
    cases starts
    exact reads.enter fun own read => .snoc read ⟨lexeme, rfl⟩
  | _ => cases starts

theorem reads_startType (reads : Reads ⟨.typeStart, stack⟩ ts)
    (proper : Token.Proper ⟨terminal, lexeme⟩)
    (starts : Reading.startType stack lexeme terminal = some next) :
    Reads next (ts ++ [⟨terminal, lexeme⟩]) := by
  by_cases bar : terminal = .bar
  · subst bar
    cases starts
    refine reads.move ?_
    rintro _ rfl
    exact .bar
  · rw [Reading.startType_of_ne_bar bar] at starts
    refine reads_startOperand ?_ proper starts
    refine reads.mono ?_
    rintro _ rfl
    exact .nothing

/-! ### The end of a type -/

/-- A member of an object has been read. -/
theorem reads_endMember {make : TypeExpr → Member TypeExpr}
    (read : After (StackRead stack) (After (After (ObjectRead object) (ValueDue make))
      (Denotes .type type.node)) ts)
    (ends : Reading.endMember (object.add (make type)) stack terminal = some next) :
    Reads next (ts ++ [⟨terminal, lexeme⟩]) := by
  have member : After (StackRead stack) (After (PendingRead object.outer)
      (After (fun ts => ∃ l ms, ts = ⟨openOf object.exact, l⟩ :: ms ∧
        ListRead .member Member.contribution object.members ms)
        (Denotes .member (make type).contribution))) ts := by
    refine read.mono fun own read => (After.assoc ?_)
    refine read.assoc.mono fun own read => ?_
    obtain ⟨us, vs, rfl, isDue, denotes⟩ := read
    exact isDue vs type denotes
  unfold Reading.endMember at ends
  split at ends
  · rename_i closes
    cases ends
    refine member.append fun own read => read.append ?_
    rintro _ ⟨_, ms, rfl, ⟨l, members, rfl, items⟩, isMember⟩ value denotes
    obtain ⟨contributions, denote, same⟩ := bind_eq_ok_iff.mp denotes
    cases pure_eq_ok_iff.mp same
    have inside := items.last isMember (contributions_reverse_eq_ok.mp denote)
    have whole : Derives .primary (⟨openOf object.exact, l⟩ ::
        ((members ++ ms) ++ [⟨closeOf object.exact, lexeme⟩])) _ := .object inside
    simpa [closes] using Derives.arrays whole
  · split at ends
    · rename_i separates
      cases ends
      refine member.append fun own read => read.append ?_
      rintro _ ⟨_, ms, rfl, ⟨l, members, rfl, items⟩, isMember⟩
      refine ⟨l, members ++ (ms ++ [⟨terminal, lexeme⟩]), by simp, items.next isMember ?_⟩
      simpa [Symbol.separators] using separates
    · cases ends

theorem Denotes.parameter {head : List Token} (isHead : IsParameterHead head)
    (denotes : Denotes .type type.node ts) :
    Denotes .parameter ((fun _ => ()) <$> type.node) (head ++ ts) := by
  intro value content
  obtain ⟨node, isNode, -⟩ := map_eq_ok_iff.mp content
  exact .parameter isHead (denotes node isNode)

/-- Parameters denote nothing, but all of them are decoded. -/
theorem exists_parameters {parameters : List TypeExpr} {types : List ReadNode}
    (denote : nodes parameters.reverse = .ok types) :
    ∃ values : List Unit, List.Forall₂ (fun expr value => (fun _ => ()) <$> expr.node = .ok value)
      parameters values.reverse := by
  refine ⟨types.map fun _ => (), ?_⟩
  rw [← List.map_reverse, List.forall₂_map_right_iff]
  refine (nodes_reverse_eq_ok.mp denote).imp fun expr type isType => ?_
  exact map_eq_ok_iff.mpr ⟨type, isType, rfl⟩

theorem reads_endType
    (read : After (StackRead stack) (Denotes .type type.node) ts)
    (ends : Reading.endType type stack terminal = some next) :
    Reads next (ts ++ [⟨terminal, lexeme⟩]) := by
  cases stack with
  | nil =>
    cases terminal <;> cases ends
    obtain ⟨_, own, rfl, rfl, denotes⟩ := read
    exact ⟨[], own ++ [⟨.semicolon, lexeme⟩], rfl, rfl, rfl,
      fun value content => .terminated (denotes value content)⟩
  | cons frame stack =>
    have inside := read.assoc
    cases frame with
    | group outer =>
      cases terminal <;> cases ends
      refine inside.append fun own read => read.assoc.append ?_
      rintro _ ⟨_, inner, rfl, ⟨l, rfl⟩, denotes⟩ value content
      have whole : Derives .primary (⟨.openParen, l⟩ :: (inner ++ [⟨.closeParen, lexeme⟩])) _ :=
        .group (denotes value content)
      exact .arrays whole
    | tuple outer elements =>
      cases terminal <;> cases ends
      · refine inside.append fun own read => read.assoc.append ?_
        rintro _ ⟨_, last, rfl, ⟨l, es, rfl, items⟩, denotes⟩ value content
        obtain ⟨types, denote, same⟩ := bind_eq_ok_iff.mp content
        cases pure_eq_ok_iff.mp same
        have elements := items.last denotes (nodes_reverse_eq_ok.mp denote)
        have whole : Derives .primary (⟨.openBracket, l⟩ ::
            ((es ++ last) ++ [⟨.closeBracket, lexeme⟩])) _ := .tuple elements
        exact .arrays whole
      · refine inside.append fun own read => read.assoc.append ?_
        rintro _ ⟨_, last, rfl, ⟨l, es, rfl, items⟩, denotes⟩
        exact ⟨l, es ++ (last ++ [⟨.comma, lexeme⟩]), by simp,
          items.next denotes (List.mem_singleton.mpr rfl)⟩
    | arguments outer path types =>
      cases terminal <;> cases ends
      · refine inside.append fun own read => read.assoc.append ?_
        rintro _ ⟨_, last, rfl, ⟨p, _, rfl, isPath, l, es, rfl, items⟩, denotes⟩ value content
        obtain ⟨nodes, denote, same⟩ := bind_eq_ok_iff.mp content
        cases pure_eq_ok_iff.mp same
        have each := nodes_reverse_eq_ok.mp denote
        cases nodes with
        | nil => cases each
        | cons first more =>
          have whole : Derives .primary (p ++ ⟨.less, l⟩ :: ((es ++ last) ++ [⟨.greater, lexeme⟩]))
              _ := .applied isPath (items.last denotes each)
          simpa using Derives.arrays whole
      · refine inside.append fun own read => ⟨by simp, read.assoc.append ?_⟩
        rintro _ ⟨_, last, rfl, arguments, denotes⟩
        rw [List.append_assoc]
        refine After.append arguments ?_
        rintro _ ⟨l, es, rfl, items⟩
        exact ⟨l, es ++ (last ++ [⟨.comma, lexeme⟩]), by simp,
          items.next denotes (List.mem_singleton.mpr rfl)⟩
    | property object key optional => exact reads_endMember inside ends
    | indexerKey object =>
      cases terminal <;> cases ends
      refine inside.append fun own read => read.append fun vs denotes => ?_
      exact .snoc denotes ⟨lexeme, rfl⟩
    | indexerValue object key => exact reads_endMember inside ends
    | parameter object parameters =>
      cases terminal <;> cases ends
      · refine inside.append fun own read => read.assoc.append ?_
        rintro _ ⟨_, us, rfl, ⟨_, head, rfl, ⟨l, ps, rfl, items⟩, isHead⟩, denotes⟩
        refine ⟨l, ps ++ (head ++ us), lexeme, by simp, fun types denote => ?_⟩
        obtain ⟨values, each⟩ := exists_parameters denote
        exact ⟨values, items.last (denotes.parameter isHead) each⟩
      · refine inside.append fun own read => read.assoc.append ?_
        rintro _ ⟨_, us, rfl, ⟨_, head, rfl, ⟨l, ps, rfl, items⟩, isHead⟩, denotes⟩
        exact ⟨l, ps ++ ((head ++ us) ++ [⟨.comma, lexeme⟩]), by simp,
          items.next (denotes.parameter isHead) (List.mem_singleton.mpr rfl)⟩
    | result object parameters => exact reads_endMember inside ends

/-! ### The end of an operand -/

theorem reads_endOperand (reads : Reads ⟨.afterOperand pending expr, stack⟩ ts)
    (ends : Reading.endOperand pending expr stack terminal = some next) :
    Reads next (ts ++ [⟨terminal, lexeme⟩]) := by
  have type : After (StackRead stack) (Denotes .type (pending.finish expr).node) ts := by
    refine reads.mono ?_
    rintro _ ⟨q, us, rfl, before, operand⟩
    exact before.finish operand
  cases terminal with
  | bar =>
    cases ends
    refine reads.move ?_
    rintro _ ⟨q, us, rfl, before, operand⟩
    rw [List.append_assoc]
    exact .alternative before operand
  | openBracket =>
    cases ends
    exact reads.move fun own read => read.append fun us operand => .snoc operand ⟨lexeme, rfl⟩
  | _ => exact reads_endType type ends

theorem Denotes.named {path : List String} (isPath : Derives .path ts path.reverse) :
    Denotes .arrays (TypeExpr.named path.reverse none).node ts := by
  intro value content
  simp only [TypeExpr.node, Except.ok.injEq] at content
  exact content ▸ .arrays (.named isPath)

theorem reads_endName {path : List String} (reads : Reads ⟨.afterName pending path, stack⟩ ts)
    (ends : Reading.endName pending path stack terminal = some next) :
    Reads next (ts ++ [⟨terminal, lexeme⟩]) := by
  have operand : Reads ⟨.afterOperand pending (.named path.reverse none), stack⟩ ts :=
    reads.mono fun own read => read.mono fun us isPath => Denotes.named isPath
  cases terminal with
  | dot =>
    cases ends
    exact reads.move fun own read => read.append fun us isPath => .snoc isPath ⟨lexeme, rfl⟩
  | less =>
    cases ends
    exact reads.enter fun own read => read.append fun us isPath =>
      .snoc isPath ⟨lexeme, [], rfl, .nil⟩
  | _ => exact reads_endOperand operand ends

/-! ### Members -/

/-- The key of a member, after the given tokens of its object. -/
theorem reads_startKey {sign : List Token} (around : StackRead stack outside)
    (read : ObjectRead object q) (variance : Optional .variance sign)
    (starts : Reading.startKey object stack lexeme terminal = some next) :
    Reads next (outside ++ (q ++ (sign ++ [⟨terminal, lexeme⟩]))) := by
  cases terminal with
  | name =>
    cases starts
    refine ⟨outside, _, rfl, around, q, _, rfl, read, sign, _, rfl, variance, ?_⟩
    intro name named
    cases (name_bare lexeme).symm.trans named
    exact .bare
  | text =>
    cases starts
    refine ⟨outside, _, rfl, around, q, _, rfl, read, sign, _, rfl, variance, ?_⟩
    exact fun name decodes => .text (unquote_eq_ok.mp decodes)
  | openBracket =>
    cases starts
    exact ⟨outside, _, rfl, around, q, _, rfl, read, sign, lexeme, rfl, variance⟩
  | _ => cases starts

theorem reads_startMember (around : StackRead stack outside) (read : ObjectRead object q)
    (starts : Reading.startMember object stack lexeme terminal = some next) :
    Reads next (outside ++ (q ++ [⟨terminal, lexeme⟩])) := by
  unfold Reading.startMember at starts
  split at starts
  · rename_i closes
    cases starts
    obtain ⟨p, _, rfl, pending, l, members, rfl, items⟩ := read
    refine ⟨outside, _, rfl, around, p, _, List.append_assoc .., pending, ?_⟩
    intro value content
    obtain ⟨contributions, denote, same⟩ := bind_eq_ok_iff.mp content
    cases pure_eq_ok_iff.mp same
    have inside := items.closed (contributions_reverse_eq_ok.mp denote)
    have whole : Derives .primary (⟨openOf object.exact, l⟩ ::
        (members ++ [⟨closeOf object.exact, lexeme⟩])) _ := .object inside
    rw [closes]
    exact .arrays whole
  · split at starts
    · cases starts
      exact ⟨outside, _, rfl, around, .snoc read ⟨lexeme, rfl⟩⟩
    · cases starts
      exact ⟨outside, _, rfl, around, .snoc read ⟨lexeme, [], rfl, .nil⟩⟩
    · exact reads_startKey around read (.inl rfl) starts

theorem ValueDue.property {key : PropertyKey} {optional : Bool} {mark : List Token}
    {colon : List Char} (isKey : KeyRead key ts) (isMark : Optional .question mark)
    (same : optional = !mark.isEmpty) :
    ValueDue (.property key optional) (ts ++ (mark ++ [⟨.colon, colon⟩])) := by
  obtain ⟨sign, token, rfl, variance, names⟩ := isKey
  intro us expr denotes value content
  obtain ⟨name, isName, content⟩ := bind_eq_ok_iff.mp content
  obtain ⟨type, isType, content⟩ := bind_eq_ok_iff.mp content
  cases pure_eq_ok_iff.mp content
  have whole : Derives .member (sign ++ token :: (mark ++ ⟨.colon, colon⟩ :: us)) _ :=
    .property variance (names name isName) isMark (denotes type isType)
  simpa [same] using whole

theorem ValueDue.indexer {label : List Token} {key : TypeExpr} {colon : List Char}
    (opens : BracketRead ts) (isLabel : IsLabel label) (isKey : Denotes .type key.node us) :
    ValueDue (.indexer key)
      ((ts ++ label) ++ (us ++ [⟨.closeBracket, r⟩, ⟨.colon, colon⟩])) := by
  obtain ⟨sign, l, rfl, variance⟩ := opens
  intro vs expr denotes value content
  obtain ⟨keyType, isKeyType, content⟩ := bind_eq_ok_iff.mp content
  obtain ⟨type, isType, content⟩ := bind_eq_ok_iff.mp content
  cases pure_eq_ok_iff.mp content
  have whole : Derives .member (sign ++ ⟨.openBracket, l⟩ ::
      (label ++ (us ++ ⟨.closeBracket, r⟩ :: ⟨.colon, colon⟩ :: vs))) _ :=
    .indexer variance isLabel (isKey keyType isKeyType) (denotes type isType)
  simpa using whole

theorem ValueDue.call {parameters : List TypeExpr} {colon : List Char}
    (derive : ∀ types, nodes parameters.reverse = .ok types →
      ∃ values, Derives (.list .parameter) ts values) :
    ValueDue (.call parameters.reverse)
      (⟨.openParen, l⟩ :: (ts ++ [⟨.closeParen, r⟩, ⟨.colon, colon⟩])) := by
  intro us expr denotes value content
  obtain ⟨types, denote, content⟩ := bind_eq_ok_iff.mp content
  obtain ⟨type, isType, content⟩ := bind_eq_ok_iff.mp content
  cases pure_eq_ok_iff.mp content
  obtain ⟨values, derived⟩ := derive types denote
  have whole : Derives .member
      (⟨.openParen, l⟩ :: (ts ++ ⟨.closeParen, r⟩ :: ⟨.colon, colon⟩ :: us)) _ :=
    .call derived (denotes type isType)
  simpa using whole

/-! ### Any token -/

/-- Where a name may be that of a key, it may also be the beginning of the type of the key. -/
theorem Reads.indexerName {name : String} (reads : Reads ⟨.indexerName object name, stack⟩ ts) :
    Reads ⟨.afterName .none [name], .indexerKey object :: stack⟩ ts := by
  obtain ⟨outside, _, rfl, around, o, _, rfl, read, b, _, rfl, opens, l, rfl, rfl⟩ := reads
  refine ⟨outside ++ (o ++ b), [⟨.name, l⟩], by simp, ?_, [], _, rfl, .nothing, .firstPart⟩
  exact ⟨outside, _, rfl, around, o, b, rfl, read, b, [], (List.append_nil b).symm, opens, .inl rfl⟩

/-- **A step preserves what a reading says of the tokens** that have led to it. -/
theorem reads_step {reading : Reading} (reads : Reads reading ts)
    (proper : Token.Proper ⟨terminal, lexeme⟩) (steps : reading.step terminal lexeme = some next) :
    Reads next (ts ++ [⟨terminal, lexeme⟩]) := by
  obtain ⟨place, stack⟩ := reading
  cases place with
  | typeStart => exact reads_startType reads proper steps
  | operandStart pending => exact reads_startOperand reads proper steps
  | tupleItem outer elements =>
    by_cases closes : terminal = .closeBracket
    · subst closes
      cases steps
      refine reads.move fun own read => read.append ?_
      rintro _ ⟨l, es, rfl, items⟩ value content
      obtain ⟨types, denote, same⟩ := bind_eq_ok_iff.mp content
      cases pure_eq_ok_iff.mp same
      have elements := items.closed (nodes_reverse_eq_ok.mp denote)
      have whole : Derives .primary (⟨.openBracket, l⟩ :: (es ++ [⟨.closeBracket, lexeme⟩])) _ :=
        .tuple elements
      exact .arrays whole
    · have inside : Reads ⟨.typeStart, .tuple outer elements :: stack⟩ ts :=
        reads.inside fun own read => read
      refine reads_startType inside proper ?_
      rw [← steps]
      cases terminal <;> first | rfl | exact absurd rfl closes
  | nextArgument outer path types =>
    by_cases closes : terminal = .greater
    · subst closes
      cases steps
      refine reads.move fun own read => read.2.append ?_
      rintro _ ⟨p, _, rfl, isPath, l, es, rfl, items⟩ value content
      obtain ⟨nodes, denote, same⟩ := bind_eq_ok_iff.mp content
      cases pure_eq_ok_iff.mp same
      have each := nodes_reverse_eq_ok.mp denote
      cases nodes with
      | nil => exact absurd (List.forall₂_nil_right_iff.mp each) read.1
      | cons first more =>
        have whole : Derives .primary (p ++ ⟨.less, l⟩ :: (es ++ [⟨.greater, lexeme⟩])) _ :=
          .applied isPath (items.closed each)
        simpa using Derives.arrays whole
    · have inside : Reads ⟨.typeStart, .arguments outer path types :: stack⟩ ts :=
        reads.inside fun own read => read.2
      refine reads_startType inside proper ?_
      rw [← steps]
      cases terminal <;> first | rfl | exact absurd rfl closes
  | afterName pending path => exact reads_endName reads steps
  | afterDot pending path =>
    cases terminal <;> cases steps
    refine reads.move fun own read => read.append ?_
    rintro _ ⟨us, _, rfl, isPath, l, rfl⟩
    show Derives .path _ (_ :: path).reverse
    rw [List.append_assoc, List.reverse_cons]
    exact .nextPart isPath
  | afterOperand pending expr => exact reads_endOperand reads steps
  | arrayEnd pending expr =>
    cases terminal <;> cases steps
    refine reads.move fun own read => read.append ?_
    rintro _ ⟨us, _, rfl, operand, l, rfl⟩ value content
    obtain ⟨type, isType, same⟩ := bind_eq_ok_iff.mp content
    cases pure_eq_ok_iff.mp same
    rw [List.append_assoc]
    exact .arrayOf (operand type isType)
  | firstMember object =>
    obtain ⟨outside, own, rfl, around, read⟩ := reads
    rw [List.append_assoc]
    exact reads_startMember around read steps
  | nextMember object =>
    obtain ⟨outside, own, rfl, around, read⟩ := reads
    rw [List.append_assoc]
    exact reads_startMember around read steps
  | afterVariance object =>
    obtain ⟨outside, _, rfl, around, o, _, rfl, read, sign⟩ := reads
    rw [List.append_assoc, List.append_assoc]
    exact reads_startKey around read (.inr sign) steps
  | afterKey object key =>
    cases terminal <;> cases steps
    · exact reads.move fun own read => read.append fun us isKey => .snoc isKey ⟨lexeme, rfl⟩
    · exact reads.enter fun own read => read.append fun us isKey =>
        ValueDue.property isKey (.inl rfl) rfl
  | afterOptionalKey object key =>
    cases terminal <;> cases steps
    refine reads.enter fun own read => read.append ?_
    rintro _ ⟨us, _, rfl, isKey, l, rfl⟩
    rw [List.append_assoc]
    exact ValueDue.property isKey (.inr ⟨l, rfl⟩) rfl
  | indexerStart object =>
    have inside : Reads ⟨.typeStart, .indexerKey object :: stack⟩ ts :=
      reads.inside fun own read => read.mono fun us opens =>
        ⟨us, [], (List.append_nil us).symm, opens, .inl rfl⟩
    by_cases isName : terminal = .name
    · subst isName
      cases steps
      exact reads.move fun own read => read.append fun us opens => .snoc opens ⟨lexeme, rfl, rfl⟩
    · refine reads_startType inside proper ?_
      rw [← steps]
      cases terminal <;> first | rfl | exact absurd rfl isName
  | indexerName object name =>
    by_cases colon : terminal = .colon
    · subst colon
      cases steps
      refine reads.enter fun own read => read.append ?_
      rintro _ ⟨us, _, rfl, opens, l, rfl, rfl⟩
      exact ⟨us, [⟨.name, l⟩, ⟨.colon, lexeme⟩], by simp, opens, .inr ⟨l, lexeme, rfl⟩⟩
    · refine reads_endName reads.indexerName ?_
      rw [← steps]
      cases terminal <;> first | rfl | exact absurd rfl colon
  | indexerEnd object key =>
    cases terminal <;> cases steps
    refine reads.enter fun own read => read.assoc.append ?_
    rintro _ ⟨_, _, rfl, ⟨us, label, rfl, opens, isLabel⟩, vs, _, rfl, isKey, r, rfl⟩
    have due : ValueDue _ ((us ++ label) ++ (vs ++ [⟨.closeBracket, r⟩, ⟨.colon, lexeme⟩])) :=
      ValueDue.indexer opens isLabel isKey
    simpa using due
  | nextParameter object parameters =>
    cases terminal <;> cases steps
    · exact reads.move fun own read => read.append fun us call => .snoc call ⟨lexeme, rfl⟩
    · exact reads.move fun own read => read.append fun us call => .snoc call ⟨lexeme, rfl⟩
    · refine reads.move fun own read => read.append ?_
      rintro _ ⟨l, ps, rfl, items⟩
      refine ⟨l, ps, lexeme, rfl, fun types denote => ?_⟩
      obtain ⟨values, each⟩ := exists_parameters denote
      exact ⟨values, items.closed each⟩
  | afterParameterName object parameters =>
    cases terminal <;> cases steps
    · refine reads.move fun own read => read.append fun us call => call.append ?_
      rintro _ ⟨l, rfl⟩ colon
      exact .name (.inr ⟨lexeme, rfl⟩)
    · refine reads.enter fun own read => read.append fun us call => call.append ?_
      rintro _ ⟨l, rfl⟩
      exact .name (.inl rfl)
  | parameterColon object parameters =>
    cases terminal <;> cases steps
    exact reads.enter fun own read => read.append fun us call => call.append fun head isHead =>
      isHead lexeme
  | afterEllipsis object parameters =>
    cases terminal <;> cases steps
    refine reads.move fun own read => read.append fun us call => call.append ?_
    rintro _ ⟨l, rfl⟩ colon
    exact .rest
  | callEnd object parameters =>
    cases terminal <;> cases steps
    refine reads.enter fun own read => read.append ?_
    rintro _ ⟨l, ps, r, rfl, derive⟩
    have due : ValueDue _ (⟨.openParen, l⟩ :: (ps ++ [⟨.closeParen, r⟩, ⟨.colon, lexeme⟩])) :=
      ValueDue.call derive
    simpa using due
  | finished expr => cases terminal <;> cases steps

/-! ### Whole texts -/

theorem reads_feed {reading : Reading} (reads : Reads reading ts)
    (proper : ∀ token ∈ us, token.Proper) (feeds : reading.feed us = some next) :
    Reads next (ts ++ us) := by
  induction us generalizing reading ts with
  | nil =>
    cases feeds
    simpa using reads
  | cons token us ih =>
    rw [Reading.feed_cons] at feeds
    obtain ⟨after, steps, feeds⟩ := Option.bind_eq_some_iff.mp feeds
    have one := reads_step reads (proper token List.mem_cons_self) steps
    rw [List.append_cons]
    exact ih one (fun token member => proper token (List.mem_cons_of_mem _ member)) feeds

/-- Where a text may end, its tokens derive the type that has been read. -/
theorem reads_result {reading : Reading} (reads : Reads reading ts)
    (ends : reading.result? = some type) : Denotes .start type.node ts := by
  obtain ⟨place, stack⟩ := reading
  intro value content
  cases place with
  | afterName pending path =>
    cases stack with
    | cons => cases ends
    | nil =>
      cases ends
      obtain ⟨_, _, rfl, rfl, q, us, rfl, before, isPath⟩ := reads
      exact .start (before.finish (Denotes.named isPath) value content)
  | afterOperand pending expr =>
    cases stack with
    | cons => cases ends
    | nil =>
      cases ends
      obtain ⟨_, _, rfl, rfl, q, us, rfl, before, operand⟩ := reads
      exact .start (before.finish operand value content)
  | finished expr =>
    cases ends
    obtain ⟨_, own, rfl, around, rfl, whole⟩ := reads
    cases around
    exact whole value content
  | _ => cases ends

/-- **What is read can be derived**: the tokens of a type derive what it denotes. -/
theorem sound {reading : Reading} {node : ReadNode} (proper : ∀ token ∈ ts, token.Proper)
    (feeds : Reading.initial.feed ts = some reading) (ends : reading.result? = some type)
    (denotes : type.node = .ok node) : Derives .start ts node := by
  have initial : Reads Reading.initial [] := ⟨[], [], rfl, rfl, rfl⟩
  exact reads_result (reads_feed initial proper feeds) ends node denotes

end

end TypeSchema
