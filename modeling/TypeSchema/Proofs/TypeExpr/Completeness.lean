/-
**What the grammar derives is read.**

`Complete symbol tokens value`: at every place where the symbol is due, its tokens are read, and the
expression they leave denotes the value. `complete` proves it for everything the grammar derives, by
induction on the derivation; each rule is one lemma.
-/

import TypeSchema.Proofs.TypeExpr.Meaning
import TypeSchema.Proofs.TypeExpr.Steps

namespace TypeSchema

/-! ### Places where a symbol is due -/

namespace Reading

/-- A list of types: where one of them or the end is due, the construct around a type, the token at
the end, and what the list makes. -/
inductive IsTypeList : (List TypeExpr → Place) → (List TypeExpr → Frame) → Terminal → Pending →
    (List TypeExpr → TypeExpr) → Prop
  | tuple (outer : Pending) :
      IsTypeList (.tupleItem outer) (.tuple outer) .closeBracket outer .tuple
  | arguments (outer : Pending) (path : List String) :
      IsTypeList (.nextArgument outer path) (.arguments outer path) .greater outer
        fun types => .named path.reverse (some types)

/-- The last type of a member has been read, and with it the member. -/
def EndsMember (object : OpenObject) (stack : List Frame) (reading : Reading) : Prop :=
  ∀ terminal lexeme, continuesType terminal = false →
    reading.step terminal lexeme = endMember object stack terminal

/-- At every place where a symbol is due, its tokens are read, and what they leave denotes a
value. -/
def Complete : (symbol : Symbol) → List Token → symbol.Value → Prop
  | .start, ts, type => ∃ expr reading, expr.node = .ok type ∧
      initial.feed ts = some reading ∧ reading.result? = some expr
  | .type, ts, type => ∃ expr, expr.node = .ok type ∧
      ∀ stack, ∃ reading, feed ⟨.typeStart, stack⟩ ts = some reading ∧ Ends expr stack reading
  | .alternatives, ts, types => ∃ exprs, nodes exprs = .ok types ∧ ∀ earlier stack, ∃ reading,
      feed ⟨.operandStart ⟨earlier, 0⟩, stack⟩ ts = some reading ∧
        Ends (.unionOf (earlier.reverse ++ exprs)) stack reading
  | .nonunion, ts, type => ∃ expr, expr.node = .ok type ∧
      ∀ pending stack, ∃ reading after inner,
        feed ⟨.operandStart pending, stack⟩ ts = some reading ∧
          AtOperand after stack inner reading ∧ after.alternatives = pending.alternatives ∧
          after.operand inner = pending.operand expr
  | .arrays, ts, type | .primary, ts, type => ∃ expr, expr.node = .ok type ∧
      ∀ pending stack, ∃ reading, feed ⟨.operandStart pending, stack⟩ ts = some reading ∧
        AtOperand pending stack expr reading
  | .path, ts, path => ∀ pending stack,
      feed ⟨.operandStart pending, stack⟩ ts = some ⟨.afterName pending path.reverse, stack⟩
  | .member, ts, contribution => ∃ member,
      member.contribution = .ok contribution ∧ ∀ object stack,
        ∃ reading, feed ⟨.nextMember object, stack⟩ ts = some reading ∧
          EndsMember (object.add member) stack reading
  | .parameter, ts, _ => ∃ expr type, expr.node = .ok type ∧ ∀ object parameters stack,
      ∃ reading, feed ⟨.nextParameter object parameters, stack⟩ ts = some reading ∧
        Ends expr (.parameter object parameters :: stack) reading
  | .list .type, ts, types => ∃ exprs, nodes exprs = .ok types ∧
      ∀ place frame close outer make, IsTypeList place frame close outer make →
        ∀ before stack l, ∃ reading,
          reading = ⟨.afterOperand outer (make (before.reverse ++ exprs)), stack⟩ ∧
          feed ⟨place before, stack⟩ (ts ++ [⟨close, l⟩]) = some reading ∧
          (types ≠ [] →
            feed ⟨.typeStart, frame before :: stack⟩ (ts ++ [⟨close, l⟩]) = some reading)
  | .list .member, ts, values => ∃ members, contributions members = .ok values ∧
      ∀ object stack l, feed ⟨.nextMember object, stack⟩ (ts ++ [⟨closeOf object.exact, l⟩]) =
        some ⟨.afterOperand object.outer
          (.object object.exact (object.members.reverse ++ members)), stack⟩
  | .list .parameter, ts, _ => ∃ exprs types, nodes exprs = .ok types ∧
      ∀ object parameters stack l,
        feed ⟨.nextParameter object parameters, stack⟩ (ts ++ [⟨.closeParen, l⟩]) =
          some ⟨.callEnd object (exprs.reverse ++ parameters), stack⟩
  | .list _, _, _ => True

variable {ts us : List Token} {l r : List Char} {stack : List Frame} {reading : Reading}
  {type : ReadNode} {types : List ReadNode} {object : OpenObject} {token : Token}
  {terminal : Terminal} {lexeme : List Char}

/-! ### Types -/

theorem complete_type (union : Complete .alternatives ts types) :
    Complete .type ts (unionOf types) := by
  obtain ⟨exprs, denote, reads⟩ := union
  refine ⟨.unionOf exprs, node_unionOf_eq_ok.mpr ⟨types, denote, rfl⟩, fun stack => ?_⟩
  obtain ⟨reading, feeds, ends⟩ := reads [] stack
  refine ⟨reading, ?_, ends⟩
  cases ts with
  | nil =>
    obtain ⟨pending, expr, at_, -⟩ := ends
    cases feeds
    cases at_
  | cons token ts =>
    -- No operand begins with a bar, so it does not matter that a type may.
    have notBar : token.terminal ≠ .bar := by
      intro bar
      rw [feed_cons] at feeds
      simp [step, bar, startOperand] at feeds
    rw [← feeds]
    exact feed_cons_congr (startType_of_ne_bar notBar)

theorem complete_leadingBar (union : Complete .alternatives ts types) :
    Complete .type (⟨.bar, l⟩ :: ts) (unionOf types) := by
  obtain ⟨exprs, denote, reads⟩ := union
  exact ⟨.unionOf exprs, node_unionOf_eq_ok.mpr ⟨types, denote, rfl⟩, reads []⟩

theorem complete_lastAlternative (last : Complete .nonunion ts type) :
    Complete .alternatives ts [type] := by
  obtain ⟨expr, denotes, reads⟩ := last
  refine ⟨[expr], nodes_cons denotes rfl, fun earlier stack => ?_⟩
  obtain ⟨reading, after, inner, feeds, at_, before, operand⟩ := reads ⟨earlier, 0⟩ stack
  refine ⟨reading, feeds, after, inner, at_, ?_⟩
  rw [after.finish_eq_unionOf, before, operand]
  rfl

theorem complete_alternative (first : Complete .nonunion ts type)
    (more : Complete .alternatives us types) :
    Complete .alternatives (ts ++ ⟨.bar, l⟩ :: us) (type :: types) := by
  obtain ⟨expr, denotes, reads⟩ := first
  obtain ⟨exprs, denote, readsMore⟩ := more
  refine ⟨expr :: exprs, nodes_cons denotes denote, fun earlier stack => ?_⟩
  obtain ⟨reading, after, inner, feeds, at_, before, operand⟩ := reads ⟨earlier, 0⟩ stack
  obtain ⟨last, feedsMore, ends⟩ := readsMore (expr :: earlier) stack
  refine ⟨last, ?_, by simpa using ends⟩
  have next : after.nextAlternative inner = ⟨expr :: earlier, 0⟩ := by
    rw [Pending.nextAlternative, operand, before]
    rfl
  rw [feed_append_of_feed feeds, feed_cons_of_step (at_.step (by simp))]
  rw [← next] at feedsMore
  exact feedsMore

theorem complete_nullable (inner : Complete .nonunion ts type) :
    Complete .nonunion (⟨.question, l⟩ :: ts) (.nullable type) := by
  obtain ⟨expr, denotes, reads⟩ := inner
  refine ⟨.nullable expr, ?_, fun pending stack => ?_⟩
  · exact bind_eq_ok_iff.mpr ⟨type, denotes, rfl⟩
  · obtain ⟨reading, after, inner, feeds, at_, before, operand⟩ :=
      reads ⟨pending.alternatives, pending.questions + 1⟩ stack
    refine ⟨reading, after, inner, feeds, at_, before, ?_⟩
    rw [operand]
    exact pending.operand_question expr

theorem complete_nonunion (inner : Complete .arrays ts type) : Complete .nonunion ts type := by
  obtain ⟨expr, denotes, reads⟩ := inner
  refine ⟨expr, denotes, fun pending stack => ?_⟩
  obtain ⟨reading, feeds, at_⟩ := reads pending stack
  exact ⟨reading, pending, expr, feeds, at_, rfl, rfl⟩

theorem complete_arrayOf (element : Complete .arrays ts type) :
    Complete .arrays (ts ++ [⟨.openBracket, l⟩, ⟨.closeBracket, r⟩]) (.generic "Array" [type]) := by
  obtain ⟨expr, denotes, reads⟩ := element
  refine ⟨.arrayOf expr, ?_, fun pending stack => ?_⟩
  · exact bind_eq_ok_iff.mpr ⟨type, denotes, rfl⟩
  · obtain ⟨reading, feeds, at_⟩ := reads pending stack
    refine ⟨⟨.afterOperand pending (.arrayOf expr), stack⟩, ?_, .operand⟩
    rw [feed_append_of_feed feeds, feed_cons_of_step (at_.step (by simp))]
    rfl

theorem complete_named {path : List String} (isPath : Complete .path ts path) :
    Complete .primary ts (namedType (".".intercalate path)) := by
  refine ⟨.named path none, by simp [TypeExpr.node], fun pending stack => ?_⟩
  have name : AtOperand pending stack (.named path.reverse.reverse none)
      ⟨.afterName pending path.reverse, stack⟩ := .name
  rw [List.reverse_reverse] at name
  exact ⟨_, isPath pending stack, name⟩

theorem complete_applied {path : List String} {first : ReadNode} {more : List ReadNode}
    (isPath : Complete .path ts path) (arguments : Complete (.list .type) us (first :: more)) :
    Complete .primary (ts ++ ⟨.less, l⟩ :: (us ++ [⟨.greater, r⟩]))
      (.generic (".".intercalate path) (first :: more)) := by
  obtain ⟨exprs, denote, reads⟩ := arguments
  refine ⟨.named path (some exprs), ?_, fun pending stack => ?_⟩
  · exact bind_eq_ok_iff.mpr ⟨_, denote, rfl⟩
  · obtain ⟨reading, rfl, -, feeds⟩ := reads _ _ _ _ _
      (.arguments pending path.reverse) [] stack r
    refine ⟨_, ?_, .operand⟩
    rw [feed_append_of_feed (isPath pending stack), feed_cons_of_step rfl, feeds (by simp)]
    simp

theorem complete_text {value : List CodePoint} (denotes : Unescapes (inner lexeme) value) :
    Complete .primary [⟨.text, lexeme⟩] (.literal .string (.text value)) := by
  refine ⟨.text lexeme, ?_, fun pending stack => ⟨_, rfl, .operand⟩⟩
  exact bind_eq_ok_iff.mpr ⟨_, unquote_eq_ok.mpr denotes, rfl⟩

theorem complete_numeral {numeral : Numeral} (reads : Numeral.read? lexeme = some (numeral, []))
    (inRange : numeral.InRange) :
    Complete .primary [⟨.numeral, lexeme⟩] (.literal .number (.number numeral.number)) := by
  refine ⟨.numeral lexeme, ?_, fun pending stack => ⟨_, rfl, .operand⟩⟩
  exact bind_eq_ok_iff.mpr ⟨_, (numberOf_eq_ok reads).mpr ⟨inRange, rfl⟩, rfl⟩

theorem complete_object {exact : Bool} {members : List Contribution}
    (inside : Complete (.list .member) ts members) :
    Complete .primary (⟨openOf exact, l⟩ :: (ts ++ [⟨closeOf exact, r⟩]))
      (objectType exact members) := by
  obtain ⟨exprs, denote, reads⟩ := inside
  refine ⟨.object exact exprs, ?_, fun pending stack => ⟨_, ?_, .operand⟩⟩
  · exact bind_eq_ok_iff.mpr ⟨_, denote, rfl⟩
  · have opens : step ⟨.operandStart pending, stack⟩ (openOf exact) l =
        some ⟨.firstMember ⟨pending, exact, []⟩, stack⟩ := by
      cases exact <;> rfl
    have feeds := reads ⟨pending, exact, []⟩ stack r
    rw [feed_cons_of_step opens]
    cases ts <;> exact feeds

theorem complete_tuple (elements : Complete (.list .type) ts types) :
    Complete .primary (⟨.openBracket, l⟩ :: (ts ++ [⟨.closeBracket, r⟩])) (.tuple types) := by
  obtain ⟨exprs, denote, reads⟩ := elements
  refine ⟨.tuple exprs, ?_, fun pending stack => ?_⟩
  · exact bind_eq_ok_iff.mpr ⟨_, denote, rfl⟩
  · obtain ⟨reading, rfl, feeds, -⟩ := reads _ _ _ _ _ (.tuple pending) [] stack r
    exact ⟨_, feeds, .operand⟩

theorem complete_group (inside : Complete .type ts type) :
    Complete .primary (⟨.openParen, l⟩ :: (ts ++ [⟨.closeParen, r⟩])) type := by
  obtain ⟨expr, denotes, reads⟩ := inside
  refine ⟨expr, denotes, fun pending stack => ?_⟩
  obtain ⟨reading, feeds, ends⟩ := reads (.group pending :: stack)
  refine ⟨⟨.afterOperand pending expr, stack⟩, ?_, .operand⟩
  rw [feed_cons_of_step rfl, feed_append_of_feed feeds, feed_cons_of_step (ends.step rfl)]
  rfl

/-! ### Paths and lists -/

theorem complete_nextPart {path : List String} {name : List Char}
    (front : Complete .path ts path) :
    Complete .path (ts ++ [⟨.dot, l⟩, ⟨.name, name⟩]) (path ++ [String.ofList name]) := by
  intro pending stack
  rw [feed_append_of_feed (front pending stack), List.reverse_append]
  rfl

/-- Where an item of a list of types is due, a type is read as it is where only a type is due. -/
theorem IsTypeList.feed {place : List TypeExpr → Place} {frame : List TypeExpr → Frame}
    {close : Terminal} {outer : Pending} {make : List TypeExpr → TypeExpr}
    (isList : IsTypeList place frame close outer make) {before : List TypeExpr} {next : Reading}
    (feeds : Reading.feed ⟨.typeStart, frame before :: stack⟩ (token :: ts) = some next) :
    Reading.feed ⟨place before, stack⟩ (token :: ts) = some next := by
  rw [← feeds]
  refine feed_cons_congr ?_
  have notClose : token.terminal ≠ close := by
    intro closes
    rw [feed_cons] at feeds
    cases isList <;> simp [step, closes, startType, startOperand] at feeds
  cases isList <;> cases same : token.terminal <;> first | rfl | simp [same] at notClose

theorem complete_noType : Complete (.list .type) [] [] := by
  refine ⟨[], rfl, fun place frame close outer make isList before stack l => ⟨_, rfl, ?_, by simp⟩⟩
  rw [List.append_nil]
  cases isList <;> rfl

theorem complete_lastType (last : Complete .type ts type) : Complete (.list .type) ts [type] := by
  obtain ⟨expr, denotes, reads⟩ := last
  refine ⟨[expr], nodes_cons denotes rfl,
    fun place frame close outer make isList before stack l => ⟨_, rfl, ?_⟩⟩
  obtain ⟨reading, feeds, ends⟩ := reads (frame before :: stack)
  have whole : Reading.feed ⟨.typeStart, frame before :: stack⟩ (ts ++ [⟨close, l⟩]) =
      some ⟨.afterOperand outer (make (before.reverse ++ [expr])), stack⟩ := by
    rw [feed_append_of_feed feeds]
    cases isList <;> rw [feed_cons_of_step (ends.step rfl)] <;> simp
  refine ⟨?_, fun _ => whole⟩
  cases ts with
  | nil => exact isList.feed whole
  | cons token ts => exact isList.feed whole

theorem complete_typeItem {separator : Token} (first : Complete .type ts type)
    (separates : separator.terminal ∈ Symbol.type.separators)
    (more : Complete (.list .type) us types) :
    Complete (.list .type) (ts ++ separator :: us) (type :: types) := by
  obtain ⟨expr, denotes, reads⟩ := first
  obtain ⟨exprs, denote, readsMore⟩ := more
  refine ⟨expr :: exprs, nodes_cons denotes denote,
    fun place frame close outer make isList before stack l => ⟨_, rfl, ?_⟩⟩
  obtain ⟨reading, feeds, ends⟩ := reads (frame before :: stack)
  obtain ⟨last, same, feedsMore, -⟩ := readsMore _ _ _ _ _ isList (expr :: before) stack l
  have comma : separator.terminal = .comma := by simpa [Symbol.separators] using separates
  have next : reading.step separator.terminal separator.lexeme =
      some ⟨place (expr :: before), stack⟩ := by
    rw [comma, ends.step rfl]
    cases isList <;> rfl
  have whole : Reading.feed ⟨.typeStart, frame before :: stack⟩
      ((ts ++ separator :: us) ++ [⟨close, l⟩]) =
        some ⟨.afterOperand outer (make (before.reverse ++ expr :: exprs)), stack⟩ := by
    rw [List.append_assoc, feed_append_of_feed feeds, List.cons_append, feed_cons_of_step next,
      feedsMore, same]
    simp
  refine ⟨?_, fun _ => whole⟩
  cases ts with
  | nil => exact isList.feed whole
  | cons token ts => exact isList.feed whole

/-! ### Members -/

theorem not_closeOf {exact : Bool} (brace : terminal ≠ .closeBrace) (bar : terminal ≠ .closeExact) :
    terminal ≠ closeOf exact := by
  cases exact
  · exact brace
  · exact bar

/-- A key is read as such with a variance sign in front of it or without. -/
theorem feed_key {sign : List Token} (variance : Optional .variance sign)
    (isKey : token.terminal ∈ [.name, .text, .openBracket]) :
    feed ⟨.nextMember object, stack⟩ (sign ++ token :: ts) =
      (startKey object stack token.lexeme token.terminal).bind fun next => next.feed ts := by
  have notClose : token.terminal ≠ closeOf object.exact := by
    apply not_closeOf <;> intro same <;> simp [same] at isKey
  rcases variance with rfl | ⟨lexeme, rfl⟩
  · have reads : step ⟨.nextMember object, stack⟩ token.terminal token.lexeme =
        startKey object stack token.lexeme token.terminal := by
      show startMember object stack token.lexeme token.terminal = _
      unfold startMember
      rw [if_neg notClose]
      cases same : token.terminal <;> first | rfl | simp [same] at isKey
    rw [List.nil_append, feed_cons, reads]
  · have reads : step ⟨.nextMember object, stack⟩ .variance lexeme =
        some ⟨.afterVariance object, stack⟩ := by
      show startMember object stack lexeme .variance = _
      rw [startMember, if_neg (not_closeOf (by simp) (by simp))]
    rw [List.singleton_append, feed_cons_of_step reads]
    rfl

/-- The last type of a member ends the member. -/
theorem Ends.endsMember {expr : TypeExpr} {frame : Frame}
    (ends : Ends expr (frame :: stack) reading)
    (closes : ∀ terminal, endType expr (frame :: stack) terminal =
      endMember object stack terminal) : EndsMember object stack reading := by
  intro terminal lexeme notContinued
  rw [ends.step notContinued, closes]

theorem complete_property {sign mark : List Token} {name : List CodePoint} {colon : List Char}
    (variance : Optional .variance sign) (isKey : token.IsKey name)
    (optional : Optional .question mark) (value : Complete .type ts type) :
    Complete .member (sign ++ token :: (mark ++ ⟨.colon, colon⟩ :: ts))
      (.property ⟨name, type, !mark.isEmpty⟩) := by
  obtain ⟨expr, denotes, reads⟩ := value
  obtain ⟨key, named, starts⟩ : ∃ key : PropertyKey, key.name = .ok name ∧
      ∀ object stack, startKey object stack token.lexeme token.terminal =
        some ⟨.afterKey object key, stack⟩ := by
    cases isKey with
    | @bare lexeme => exact ⟨.bare (String.ofList lexeme), name_bare lexeme, fun _ _ => rfl⟩
    | @text lexeme value denotes =>
      exact ⟨.text lexeme, unquote_eq_ok.mpr denotes, fun _ _ => rfl⟩
  have isName : token.terminal ∈ [.name, .text, .openBracket] := by
    cases isKey <;> simp
  refine ⟨.property key (!mark.isEmpty) expr, ?_, fun object stack => ?_⟩
  · exact bind_eq_ok_iff.mpr ⟨_, named, bind_eq_ok_iff.mpr ⟨_, denotes, rfl⟩⟩
  · obtain ⟨reading, feeds, ends⟩ := reads (.property object key (!mark.isEmpty) :: stack)
    refine ⟨reading, ?_, ends.endsMember fun terminal => rfl⟩
    rw [feed_key variance isName, starts, ← feeds]
    rcases optional with rfl | ⟨lexeme, rfl⟩ <;> rfl

/-- At the start of an indexer, where a name may be the name of the key, a type is read as it is
where only a type is due. -/
theorem feed_indexerStart {second : Token} {next : Reading}
    (feeds : feed ⟨.typeStart, .indexerKey object :: stack⟩ (token :: second :: ts) = some next) :
    feed ⟨.indexerStart object, stack⟩ (token :: second :: ts) = some next := by
  rw [← feeds]
  by_cases isName : token.terminal = .name
  · have named : feed ⟨.typeStart, .indexerKey object :: stack⟩ (token :: second :: ts) =
        feed ⟨.afterName .none [String.ofList token.lexeme], .indexerKey object :: stack⟩
          (second :: ts) := by
      rw [feed_cons, isName]
      rfl
    have key : feed ⟨.indexerStart object, stack⟩ (token :: second :: ts) =
        feed ⟨.indexerName object (String.ofList token.lexeme), stack⟩ (second :: ts) := by
      rw [feed_cons, isName]
      rfl
    have notColon : second.terminal ≠ .colon := by
      intro colon
      rw [named, feed_cons, colon] at feeds
      cases feeds
    rw [named, key]
    refine feed_cons_congr ?_
    cases same : second.terminal <;> first | rfl | exact absurd same notColon
  · refine feed_cons_congr ?_
    cases same : token.terminal <;> first | rfl | exact absurd same isName

theorem complete_indexer {sign label : List Token} {key value : ReadNode} {colon : List Char}
    (variance : Optional .variance sign) (isLabel : IsLabel label) (isKey : Complete .type ts key)
    (isValue : Complete .type us value) :
    Complete .member (sign ++ ⟨.openBracket, l⟩ ::
      (label ++ (ts ++ ⟨.closeBracket, r⟩ :: ⟨.colon, colon⟩ :: us)))
      (.indexer ⟨value, some key⟩) := by
  obtain ⟨keyExpr, keyDenotes, readsKey⟩ := isKey
  obtain ⟨valueExpr, valueDenotes, readsValue⟩ := isValue
  refine ⟨.indexer keyExpr valueExpr, ?_, fun object stack => ?_⟩
  · exact bind_eq_ok_iff.mpr ⟨_, keyDenotes, bind_eq_ok_iff.mpr ⟨_, valueDenotes, rfl⟩⟩
  · obtain ⟨afterKey, feedsKey, endsKey⟩ := readsKey (.indexerKey object :: stack)
    obtain ⟨reading, feeds, ends⟩ := readsValue (.indexerValue object keyExpr :: stack)
    refine ⟨reading, ?_, ends.endsMember fun terminal => rfl⟩
    have whole : feed ⟨.typeStart, .indexerKey object :: stack⟩
        (ts ++ ⟨.closeBracket, r⟩ :: ⟨.colon, colon⟩ :: us) = some reading := by
      rw [feed_append_of_feed feedsKey, feed_cons_of_step (endsKey.step rfl), ← feeds]
      rfl
    rw [feed_key variance (by simp)]
    show feed ⟨.indexerStart object, stack⟩ _ = _
    rcases isLabel with rfl | ⟨name, labelColon, rfl⟩
    · cases ts with
      | nil => exact feed_indexerStart whole
      | cons token ts =>
        cases ts with
        | nil => exact feed_indexerStart whole
        | cons second ts => exact feed_indexerStart whole
    · rw [← whole]
      rfl

theorem complete_call {values : List Unit} {result : ReadNode} {colon : List Char}
    (parameters : Complete (.list .parameter) ts values) (isResult : Complete .type us result) :
    Complete .member (⟨.openParen, l⟩ :: (ts ++ ⟨.closeParen, r⟩ :: ⟨.colon, colon⟩ :: us))
      .call := by
  obtain ⟨exprs, types, denote, readsAll⟩ := parameters
  obtain ⟨expr, denotes, reads⟩ := isResult
  refine ⟨.call exprs expr, ?_, fun object stack => ?_⟩
  · exact bind_eq_ok_iff.mpr ⟨_, denote, bind_eq_ok_iff.mpr ⟨_, denotes, rfl⟩⟩
  · obtain ⟨reading, feeds, ends⟩ := reads (.result object exprs.reverse :: stack)
    have opens : step ⟨.nextMember object, stack⟩ .openParen l =
        some ⟨.nextParameter object [], stack⟩ := by
      show startMember object stack l .openParen = _
      rw [startMember, if_neg (not_closeOf (by simp) (by simp))]
    refine ⟨reading, ?_, ends.endsMember fun terminal => ?_⟩
    · have whole := readsAll object [] stack r
      rw [feed_cons_of_step opens, List.append_cons, feed_append_of_feed whole, List.append_nil,
        ← feeds]
      rfl
    · show endMember (object.add (.call exprs.reverse.reverse expr)) stack terminal = _
      rw [List.reverse_reverse]

theorem complete_parameter {head : List Token} (isHead : IsParameterHead head)
    (isType : Complete .type ts type) : Complete .parameter (head ++ ts) () := by
  obtain ⟨expr, denotes, reads⟩ := isType
  refine ⟨expr, type, denotes, fun object parameters stack => ?_⟩
  obtain ⟨reading, feeds, ends⟩ := reads (.parameter object parameters :: stack)
  refine ⟨reading, ?_, ends⟩
  rw [← feeds]
  cases isHead with
  | rest => rfl
  | name optional => rcases optional with rfl | ⟨lexeme, rfl⟩ <;> rfl

/-! ### Lists of members and of parameters -/

theorem complete_noMember : Complete (.list .member) [] [] := by
  refine ⟨[], rfl, fun object stack l => ?_⟩
  have closes : step ⟨.nextMember object, stack⟩ (closeOf object.exact) l =
      some ⟨.afterOperand object.outer object.finish, stack⟩ := if_pos rfl
  rw [List.append_nil, List.nil_append, feed_cons_of_step closes]
  rfl

theorem complete_lastMember {value : Contribution} (last : Complete .member ts value) :
    Complete (.list .member) ts [value] := by
  obtain ⟨member, contributes, reads⟩ := last
  refine ⟨[member], contributions_eq_ok.mpr (.cons contributes .nil), fun object stack l => ?_⟩
  obtain ⟨reading, feeds, ends⟩ := reads object stack
  have closes : reading.step (closeOf object.exact) l =
      some ⟨.afterOperand object.outer (object.add member).finish, stack⟩ := by
    rw [ends _ l (by cases object.exact <;> rfl), endMember]
    exact if_pos rfl
  rw [feed_append_of_feed feeds, feed_cons_of_step closes]
  simp [OpenObject.finish, OpenObject.add]

theorem complete_memberItem {separator : Token} {value : Contribution}
    {values : List Contribution} (first : Complete .member ts value)
    (separates : separator.terminal ∈ Symbol.member.separators)
    (more : Complete (.list .member) us values) :
    Complete (.list .member) (ts ++ separator :: us) (value :: values) := by
  obtain ⟨member, contributes, reads⟩ := first
  obtain ⟨members, contribute, readsMore⟩ := more
  refine ⟨member :: members,
    contributions_eq_ok.mpr (.cons contributes (contributions_eq_ok.mp contribute)),
    fun object stack l => ?_⟩
  obtain ⟨reading, feeds, ends⟩ := reads object stack
  have comma : separator.terminal = .comma ∨ separator.terminal = .semicolon := by
    simpa [Symbol.separators] using separates
  have next : reading.step separator.terminal separator.lexeme =
      some ⟨.nextMember (object.add member), stack⟩ := by
    have notClose : separator.terminal ≠ closeOf (object.add member).exact := by
      apply not_closeOf <;> rcases comma with comma | comma <;> simp [comma]
    rw [ends _ _ (by rcases comma with comma | comma <;> rw [comma] <;> rfl), endMember,
      if_neg notClose]
    exact if_pos comma
  have feedsMore := readsMore (object.add member) stack l
  rw [List.append_assoc, feed_append_of_feed feeds, List.cons_append, feed_cons_of_step next]
  simpa [OpenObject.add] using feedsMore

theorem complete_noParameter : Complete (.list .parameter) [] [] :=
  ⟨[], [], rfl, fun _ _ _ _ => rfl⟩

theorem complete_lastParameter {value : Unit} (last : Complete .parameter ts value) :
    Complete (.list .parameter) ts [value] := by
  obtain ⟨expr, type, denotes, reads⟩ := last
  refine ⟨[expr], [type], nodes_cons denotes rfl, fun object parameters stack l => ?_⟩
  obtain ⟨reading, feeds, ends⟩ := reads object parameters stack
  rw [feed_append_of_feed feeds, feed_cons_of_step (ends.step rfl)]
  rfl

theorem complete_parameterItem {separator : Token} {value : Unit} {values : List Unit}
    (first : Complete .parameter ts value)
    (separates : separator.terminal ∈ Symbol.parameter.separators)
    (more : Complete (.list .parameter) us values) :
    Complete (.list .parameter) (ts ++ separator :: us) (value :: values) := by
  obtain ⟨expr, type, denotes, reads⟩ := first
  obtain ⟨exprs, types, denote, readsMore⟩ := more
  refine ⟨expr :: exprs, type :: types, nodes_cons denotes denote,
    fun object parameters stack l => ?_⟩
  obtain ⟨reading, feeds, ends⟩ := reads object parameters stack
  have comma : separator.terminal = .comma := by simpa [Symbol.separators] using separates
  have next : reading.step separator.terminal separator.lexeme =
      some ⟨.nextParameter object (expr :: parameters), stack⟩ := by
    rw [comma, ends.step rfl]
    rfl
  rw [List.append_assoc, feed_append_of_feed feeds, List.cons_append, feed_cons_of_step next,
    readsMore]
  simp

/-! ### Whole texts -/

theorem complete_start (whole : Complete .type ts type) : Complete .start ts type := by
  obtain ⟨expr, denotes, reads⟩ := whole
  obtain ⟨reading, feeds, ends⟩ := reads []
  exact ⟨expr, reading, denotes, feeds, ends.result?⟩

theorem complete_terminated (whole : Complete .type ts type) :
    Complete .start (ts ++ [⟨.semicolon, l⟩]) type := by
  obtain ⟨expr, denotes, reads⟩ := whole
  obtain ⟨reading, feeds, ends⟩ := reads []
  refine ⟨expr, ⟨.finished expr, []⟩, denotes, ?_, rfl⟩
  unfold initial
  rw [feed_append_of_feed feeds, feed_cons_of_step (ends.step rfl)]
  rfl

/-- **What the grammar derives is read**, wherever it is due, and what is left denotes its value. -/
theorem complete {symbol : Symbol} {ts : List Token} {value : symbol.Value}
    (derives : Derives symbol ts value) : Complete symbol ts value := by
  induction derives with
  | start _ ih => exact complete_start ih
  | terminated _ ih => exact complete_terminated ih
  | type _ ih => exact complete_type ih
  | leadingBar _ ih => exact complete_leadingBar ih
  | lastAlternative _ ih => exact complete_lastAlternative ih
  | alternative _ _ first more => exact complete_alternative first more
  | nullable _ ih => exact complete_nullable ih
  | nonunion _ ih => exact complete_nonunion ih
  | arrays _ ih => exact ih
  | arrayOf _ ih => exact complete_arrayOf ih
  | named _ ih => exact complete_named ih
  | applied _ _ path arguments => exact complete_applied path arguments
  | text denotes => exact complete_text denotes
  | numeral reads inRange => exact complete_numeral reads inRange
  | object _ ih => exact complete_object ih
  | tuple _ ih => exact complete_tuple ih
  | group _ ih => exact complete_group ih
  | firstPart => exact fun _ _ => rfl
  | nextPart _ ih => exact complete_nextPart ih
  | @noItem item =>
    cases item with
    | type => exact complete_noType
    | member => exact complete_noMember
    | parameter => exact complete_noParameter
    | _ => trivial
  | @lastItem item _ _ _ ih =>
    cases item with
    | type => exact complete_lastType ih
    | member => exact complete_lastMember ih
    | parameter => exact complete_lastParameter ih
    | _ => trivial
  | @item item _ _ _ _ _ _ separates _ first more =>
    cases item with
    | type => exact complete_typeItem first separates more
    | member => exact complete_memberItem first separates more
    | parameter => exact complete_parameterItem first separates more
    | _ => trivial
  | property variance isKey optional _ ih => exact complete_property variance isKey optional ih
  | indexer variance isLabel _ _ key value => exact complete_indexer variance isLabel key value
  | call _ _ parameters result => exact complete_call parameters result
  | parameter isHead _ ih => exact complete_parameter isHead ih

end Reading

end TypeSchema
