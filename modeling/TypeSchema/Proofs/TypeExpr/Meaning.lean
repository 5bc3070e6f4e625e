/-
**What literals and lists denote.**

* `unquote_eq_ok` and `numberOf_eq_ok`: decoding yields what the grammar says, and fails only for
  literals that are out of range;
* `namedType_induction`: what a name denotes;
* lists of types and of members denote something if all their items do.
-/

import TypeSchema.Proofs.Result
import TypeSchema.Proofs.TypeExpr.Grammar

namespace TypeSchema

/-! ### Literals -/

theorem codePointOf_eq_ok {number : Nat} {point : CodePoint} :
    codePointOf number = .ok point ↔ ∃ inRange : number < 0x110000, point = ⟨number, inRange⟩ := by
  unfold codePointOf
  by_cases inRange : number < 0x110000
  · simp [inRange, eq_comm]
  · by_cases small : number < 0x80000000 <;> simp [inRange, small]

theorem unescape_of_unescapes {text : List Char} {value : List CodePoint} (denotes : Unescapes text value) :
    unescape text = .ok value := by
  induction denotes with
  | nil => rw [unescape]
  | @plain c rest value notEscape more ih =>
    rw [unescape]
    · rw [ih]
      rfl
    · rintro letter rest' rfl rfl
      cases notEscape rfl
  | letter noNumber more ih =>
    rw [unescape, noNumber]
    simp only [ih]
    rfl
  | number isNumber inRange more ih =>
    rw [unescape, isNumber]
    simp only [codePointOf_eq_ok.mpr ⟨inRange, rfl⟩, ih]
    rfl

theorem unescapes_of_unescape {text : List Char} {value : List CodePoint}
    (decodes : unescape text = .ok value) : Unescapes text value := by
  fun_induction unescape text generalizing value with
  | case1 =>
    cases decodes
    exact .nil
  | case2 letter rest number width isNumber ih =>
    obtain ⟨point, found, decodes⟩ := bind_eq_ok_iff.mp decodes
    obtain ⟨more, decoded, same⟩ := bind_eq_ok_iff.mp decodes
    obtain ⟨inRange, rfl⟩ := codePointOf_eq_ok.mp found
    cases pure_eq_ok_iff.mp same
    exact .number isNumber inRange (ih decoded)
  | case3 letter rest noNumber ih =>
    obtain ⟨more, decoded, same⟩ := bind_eq_ok_iff.mp decodes
    cases pure_eq_ok_iff.mp same
    exact .letter noNumber (ih decoded)
  | case4 c rest notEscape ih =>
    obtain ⟨more, decoded, same⟩ := bind_eq_ok_iff.mp decodes
    cases pure_eq_ok_iff.mp same
    refine .plain ?_ (ih decoded)
    rintro rfl
    cases rest with
    | nil => rfl
    | cons letter rest => exact absurd rfl (notEscape letter rest rfl)

/-- A string literal denotes a text exactly if no escape in it is out of range. -/
theorem unquote_eq_ok {literal : List Char} {value : List CodePoint} :
    unquote literal = .ok value ↔ Unescapes (inner literal) value :=
  ⟨unescapes_of_unescape, unescape_of_unescapes⟩

theorem name_bare (lexeme : List Char) :
    (PropertyKey.bare (String.ofList lexeme)).name = .ok (pointsOf lexeme) := by
  rw [PropertyKey.name, String.toList_ofList]

/-- A numeral denotes a number exactly if it is in range. -/
theorem numberOf_eq_ok {spelling : List Char} {numeral : Numeral} {number : Number}
    (reads : Numeral.read? spelling = some (numeral, [])) :
    numberOf spelling = .ok number ↔ numeral.InRange ∧ number = numeral.number := by
  unfold numberOf Numeral.InRange Numeral.number
  rw [reads]
  by_cases integer : numeral.isInteger
  · by_cases long : digitLimit < numeral.whole.length
    · simp [integer, long, Nat.not_le.mpr long]
    · have short : numeral.whole.length ≤ digitLimit := Nat.not_lt.mp long
      simp [integer, long, short, eq_comm]
  · simp [integer, eq_comm]

/-! ### Names -/

/-- What holds of kinds, of truth values and of types without arguments holds of what a name
denotes. -/
theorem namedType_induction {motive : ReadNode → Prop}
    (primitive : ∀ kind, (∀ name, kind ≠ .other name) → motive (.primitive kind))
    (truth : ∀ value, motive (.literal .boolean (.truth value)))
    (generic : ∀ name, motive (.generic name [])) (name : String) : motive (namedType name) := by
  unfold namedType
  iterate 6
    refine iteInduction (fun _ => primitive _ fun other same => ?_) fun _ => ?_
    · cases same
  iterate 2
    refine iteInduction (fun _ => truth _) fun _ => ?_
  exact generic name

/-! ### Lists -/

theorem nodes_eq_mapM (exprs : List TypeExpr) : nodes exprs = exprs.mapM TypeExpr.node := by
  induction exprs with
  | nil => rfl
  | cons expr exprs ih => rw [nodes, List.mapM_cons, ih]

theorem nodes_eq_ok {exprs : List TypeExpr} {types : List ReadNode} :
    nodes exprs = .ok types ↔
      List.Forall₂ (fun expr type => expr.node = .ok type) exprs types := by
  rw [nodes_eq_mapM, mapM_eq_ok_iff]

theorem nodes_cons {expr : TypeExpr} {exprs : List TypeExpr} {type : ReadNode}
    {types : List ReadNode} (head : expr.node = .ok type) (tail : nodes exprs = .ok types) :
    nodes (expr :: exprs) = .ok (type :: types) :=
  nodes_eq_ok.mpr (.cons head (nodes_eq_ok.mp tail))

/-- What a member contributes. -/
def Member.contribution : Member TypeExpr → Except LiteralError Contribution
  | .property key optional expr => do
    let name ← key.name
    let type ← expr.node
    return .property ⟨name, type, optional⟩
  | .indexer key value => do
    let keyType ← key.node
    let valueType ← value.node
    return .indexer ⟨valueType, some keyType⟩
  | .call parameters result => do
    let _ ← nodes parameters
    let _ ← result.node
    return .call

theorem contributions_eq_mapM (members : List (Member TypeExpr)) :
    contributions members = members.mapM Member.contribution := by
  induction members with
  | nil => rfl
  | cons member members ih =>
    rw [List.mapM_cons, ← ih]
    cases member <;> simp [contributions, Member.contribution]

theorem contributions_eq_ok {members : List (Member TypeExpr)} {values : List Contribution} :
    contributions members = .ok values ↔
      List.Forall₂ (fun member value => member.contribution = .ok value) members values := by
  rw [contributions_eq_mapM, mapM_eq_ok_iff]

theorem nodes_reverse_eq_ok {exprs : List TypeExpr} {types : List ReadNode} :
    nodes exprs.reverse = .ok types ↔
      List.Forall₂ (fun expr type => expr.node = .ok type) exprs types.reverse := by
  rw [nodes_eq_ok, ← List.forall₂_reverse_iff, List.reverse_reverse]

theorem contributions_reverse_eq_ok {members : List (Member TypeExpr)}
    {values : List Contribution} :
    contributions members.reverse = .ok values ↔
      List.Forall₂ (fun member value => member.contribution = .ok value) members
        values.reverse := by
  rw [contributions_eq_ok, ← List.forall₂_reverse_iff, List.reverse_reverse]

/-! ### Unions and nullable types -/

/-- A union of expressions; a single one is no union. -/
def TypeExpr.unionOf : List TypeExpr → TypeExpr
  | [expr] => expr
  | exprs => .union exprs

theorem TypeExpr.unionOf_append {front : List TypeExpr} {last : TypeExpr} (several : front ≠ []) :
    unionOf (front ++ [last]) = .union (front ++ [last]) :=
  match front with
  | [_] => rfl
  | _ :: _ :: _ => rfl

theorem node_unionOf_eq_ok {exprs : List TypeExpr} {type : ReadNode} :
    (TypeExpr.unionOf exprs).node = .ok type ↔
      ∃ types, nodes exprs = .ok types ∧ type = unionOf types := by
  constructor
  · intro denotes
    match exprs with
    | [] => exact ⟨[], rfl, (Except.ok.inj denotes).symm⟩
    | [expr] => exact ⟨[type], nodes_cons denotes rfl, rfl⟩
    | first :: second :: more =>
      obtain ⟨types, denote, same⟩ := bind_eq_ok_iff.mp denotes
      cases pure_eq_ok_iff.mp same
      refine ⟨types, denote, ?_⟩
      cases nodes_eq_ok.mp denote with
      | cons _ more =>
        cases more
        rfl
  · rintro ⟨types, denote, rfl⟩
    match nodes_eq_ok.mp denote with
    | .nil => rfl
    | .cons head .nil => exact head
    | .cons _ (.cons _ _) => exact bind_eq_ok_iff.mpr ⟨_, denote, rfl⟩

theorem Pending.finish_eq_unionOf (pending : Pending) (expr : TypeExpr) :
    pending.finish expr = .unionOf (pending.alternatives.reverse ++ [pending.operand expr]) := by
  obtain ⟨alternatives, questions⟩ := pending
  cases alternatives with
  | nil => rfl
  | cons latest earlier =>
    rw [TypeExpr.unionOf_append (by simp)]
    rfl

/-- One more question mark in front of an operand makes it nullable. -/
theorem Pending.operand_question (pending : Pending) (expr : TypeExpr) :
    Pending.operand { pending with questions := pending.questions + 1 } expr =
      pending.operand (.nullable expr) := by
  have moves : ∀ questions : Nat, (questions + 1).repeat TypeExpr.nullable expr =
      questions.repeat .nullable (.nullable expr) := by
    intro questions
    induction questions with
    | zero => rfl
    | succ questions ih => exact congrArg TypeExpr.nullable ih
  exact moves pending.questions

end TypeSchema
