/-
**What a reading does with tokens.**

* `Reading.feed`: several tokens, one after the other;
* `Reading.AtOperand` and `Reading.Ends`: an operand or a whole type has been read, with a name or
  with any other token at its end;
* `step_expects`: a place takes only tokens that it looks for.
-/

import TypeSchema.Proofs.TypeExpr.Grammar

namespace TypeSchema

@[simp] theorem OpenObject.add_exact (object : OpenObject) (member : Member TypeExpr) :
    (object.add member).exact = object.exact := rfl

@[simp] theorem OpenObject.add_members (object : OpenObject) (member : Member TypeExpr) :
    (object.add member).members = member :: object.members := rfl

namespace Reading

variable {pending : Pending} {expr type : TypeExpr} {stack : List Frame} {reading next : Reading}
  {terminal : Terminal} {lexeme : List Char} {token : Token} {ts us : List Token}

/-- What tokens do, one after the other. -/
def feed (reading : Reading) (tokens : List Token) : Option Reading :=
  tokens.foldlM (fun reading token => reading.step token.terminal token.lexeme) reading

@[simp] theorem feed_nil : reading.feed [] = some reading := rfl

theorem feed_cons : reading.feed (token :: ts) =
    (reading.step token.terminal token.lexeme).bind fun next => next.feed ts := rfl

theorem feed_append : reading.feed (ts ++ us) = (reading.feed ts).bind fun next => next.feed us :=
  List.foldlM_append

/-- A token that may stand here is read, and the rest after it. -/
theorem feed_cons_of_step (steps : reading.step token.terminal token.lexeme = some next) :
    reading.feed (token :: ts) = next.feed ts := by
  rw [feed_cons, steps]
  rfl

theorem feed_append_of_feed (feeds : reading.feed ts = some next) :
    reading.feed (ts ++ us) = next.feed us := by
  rw [feed_append, feeds]
  rfl

/-- Two readings that do the same with a token do the same with all tokens that begin with it. -/
theorem feed_cons_congr {other : Reading}
    (same : reading.step token.terminal token.lexeme = other.step token.terminal token.lexeme) :
    reading.feed (token :: ts) = other.feed (token :: ts) := by
  rw [feed_cons, feed_cons, same]

/-! ### The beginning of a type -/

theorem startType_of_ne_bar (notBar : terminal ≠ .bar) :
    startType stack lexeme terminal = startOperand .none stack lexeme terminal := by
  cases terminal <;> first | rfl | simp at notBar

/-! ### The end of an operand and of a type -/

/-- An operand has been read, in front of which `pending` stands. -/
inductive AtOperand (pending : Pending) (stack : List Frame) : TypeExpr → Reading → Prop
  | name {path : List String} :
      AtOperand pending stack (.named path.reverse none) ⟨.afterName pending path, stack⟩
  | operand {expr : TypeExpr} : AtOperand pending stack expr ⟨.afterOperand pending expr, stack⟩

theorem AtOperand.step (at_ : AtOperand pending stack expr reading)
    (other : terminal ≠ .dot ∧ terminal ≠ .less) :
    reading.step terminal lexeme = endOperand pending expr stack terminal := by
  cases at_ with
  | operand => cases terminal <;> rfl
  | name => cases terminal <;> first | rfl | simp at other

theorem AtOperand.result? (at_ : AtOperand pending [] expr reading) :
    reading.result? = some (pending.finish expr) := by
  cases at_ <;> rfl

/-- A whole type has been read. -/
def Ends (type : TypeExpr) (stack : List Frame) (reading : Reading) : Prop :=
  ∃ pending expr, AtOperand pending stack expr reading ∧ pending.finish expr = type

/-- The tokens that continue a type. -/
def continuesType (terminal : Terminal) : Bool :=
  terminal ∈ [.dot, .less, .bar, .openBracket]

theorem Ends.step (ends : Ends type stack reading) (closes : continuesType terminal = false) :
    reading.step terminal lexeme = endType type stack terminal := by
  obtain ⟨pending, expr, at_, rfl⟩ := ends
  have other : terminal ≠ .dot ∧ terminal ≠ .less := by
    constructor <;> rintro rfl <;> simp [continuesType] at closes
  rw [at_.step other]
  cases terminal <;> first | rfl | simp [continuesType] at closes

theorem Ends.result? (ends : Ends type [] reading) : reading.result? = some type := by
  obtain ⟨pending, expr, at_, rfl⟩ := ends
  exact at_.result?

/-! ### The tokens that a place looks for -/

theorem endType_followsOperand (steps : endType type stack terminal = some next) :
    followsOperand terminal = true := by
  have member {object : OpenObject} {stack : List Frame}
      (steps : endMember object stack terminal = some next) : followsOperand terminal = true := by
    unfold endMember at steps
    split at steps
    · rename_i closes
      rw [closes]
      cases object.exact <;> rfl
    · split at steps
      · rename_i separates
        rcases separates with rfl | rfl <;> rfl
      · cases steps
  cases stack with
  | nil => cases terminal <;> first | rfl | cases steps
  | cons frame stack =>
    cases frame with
    | property => exact member steps
    | indexerValue => exact member steps
    | result => exact member steps
    | _ => cases terminal <;> first | rfl | cases steps

theorem endOperand_followsOperand (steps : endOperand pending expr stack terminal = some next) :
    followsOperand terminal = true := by
  cases terminal with
  | bar => rfl
  | openBracket => rfl
  | _ => exact endType_followsOperand steps

theorem startMember_expects {object : OpenObject}
    (steps : startMember object stack lexeme terminal = some next) :
    startsMember terminal = true ∨ terminal = closeOf object.exact := by
  unfold startMember at steps
  split at steps
  · rename_i closes
    exact .inr closes
  · left
    cases terminal <;> first | rfl | cases steps

/-- A place takes only tokens that it looks for. -/
theorem step_expects (steps : reading.step terminal lexeme = some next) :
    reading.place.expects terminal = true := by
  obtain ⟨place, stack⟩ := reading
  cases place with
  | afterOperand pending expr => exact endOperand_followsOperand steps
  | afterName pending path =>
    by_cases other : terminal ≠ .dot ∧ terminal ≠ .less
    · have named : AtOperand pending stack _ ⟨.afterName pending path, stack⟩ := .name
      rw [named.step other] at steps
      simp [Place.expects, endOperand_followsOperand steps]
    · cases terminal <;> first | rfl | simp at other
  | firstMember object =>
    rcases startMember_expects steps with starts | closes
    · simp [Place.expects, starts]
    · simp [Place.expects, closes]
  | nextMember object =>
    rcases startMember_expects steps with starts | closes
    · simp [Place.expects, starts]
    · rw [closes]
      show (startsMember _ || _ == Terminal.closeBrace || _ == Terminal.closeExact) = true
      cases object.exact <;> rfl
  | _ => cases terminal <;> first | rfl | cases steps

end Reading

end TypeSchema
