/-
**The types that texts denote.**

`TypeNode.Textual`: literals are texts, truth values and numbers that a text can spell, kinds are
those that have a name of their own, and a type stands wherever one is expected.
`textual_of_ofText`: **every accepted text denotes such a type.**
-/

import TypeSchema.Proofs.Number.Numerals
import TypeSchema.Proofs.TypeExpr.Acceptance

namespace TypeSchema

/-- A number that a text can spell: an integer that is not too long, or any number with a point or
an exponent. -/
def Number.Spellable : Number → Prop
  | .int value => Binary64.decimalLength value.natAbs ≤ digitLimit
  | .real value => value ≠ .nan

/-- A type that a text can denote. -/
inductive TypeNode.Textual : TypeNode → Prop
  | text (value : String) : Textual (.literal .string (.string value))
  | truth (value : Bool) : Textual (.literal .boolean (.bool value))
  | number {value : Number} (spellable : value.Spellable) :
      Textual (.literal .number (.number value))
  | primitive {kind : Kind} (named : ∀ name, kind ≠ .other name) : Textual (.primitive kind)
  | nullable {inner : TypeNode} (textual : Textual inner) : Textual (.nullable inner)
  | tuple {elements : List TypeNode} (each : ∀ type ∈ elements, Textual type) :
      Textual (.tuple elements)
  | union {alternatives : List TypeNode} (each : ∀ type ∈ alternatives, Textual type) :
      Textual (.union alternatives)
  | generic {name : String} {arguments : List TypeNode} (each : ∀ type ∈ arguments, Textual type) :
      Textual (.generic name arguments)
  | object {properties : List (Property TypeNode)} {exact hasCallSignature : Bool}
      {indexer : Option (Indexer TypeNode)}
      (each : ∀ property ∈ properties, Textual property.type)
      (values : ∀ entry, indexer = some entry → Textual entry.value) :
      Textual (.object properties exact indexer hasCallSignature)

/-! ### Numbers -/

theorem decimalDigit?_lt {c : Char} {value : Nat} (digit : decimalDigit? c = some value) :
    value < 10 := by
  unfold decimalDigit? at digit
  split_ifs at digit with ascii isDigit
  · have bounds : 48 ≤ c.toNat ∧ c.toNat ≤ 57 := by
      simpa [Char.isDigit, UInt32.le_iff_toNat_le] using isDigit
    have := Option.some.inj digit
    omega
  · -- Each range holds the ten digits of one script.
    obtain ⟨range, found, rfl⟩ := Option.map_eq_some_iff.mp digit
    have inRange := List.find?_some found
    have tenDigits : ∀ range ∈ decimalDigitClass, range.2 ≤ range.1 + 9 := by decide
    have ten := tenDigits range (List.mem_of_find?_eq_some found)
    simp only [Bool.and_eq_true, decide_eq_true_eq] at inRange
    omega

/-- Digits denote less than the power of ten of their count. -/
theorem digitsValue_lt (digits : List Char) : digitsValue digits < 10 ^ digits.length := by
  have from_ (start : Nat) :
      digits.foldl (fun value c => 10 * value + (decimalDigit? c).getD 0) start <
        (start + 1) * 10 ^ digits.length := by
    induction digits generalizing start with
    | nil => simp
    | cons c digits ih =>
      have small : (decimalDigit? c).getD 0 < 10 := by
        cases digit : decimalDigit? c with
        | none => decide
        | some value => exact decimalDigit?_lt digit
      rw [List.foldl_cons, List.length_cons, Nat.pow_succ']
      calc _ < (10 * start + (decimalDigit? c).getD 0 + 1) * 10 ^ digits.length := ih _
        _ ≤ ((start + 1) * 10) * 10 ^ digits.length := Nat.mul_le_mul_right _ (by omega)
        _ = (start + 1) * (10 * 10 ^ digits.length) := Nat.mul_assoc _ _ _
  simpa [digitsValue] using from_ 0

/-- Digits denote a number with no more digits, if there is one at all. -/
theorem decimalLength_digitsValue_le {digits : List Char} {bound : Nat} (positive : 0 < bound)
    (short : digits.length ≤ bound) : Binary64.decimalLength (digitsValue digits) ≤ bound := by
  rw [Binary64.decimalLength_le_iff positive]
  exact Nat.lt_of_lt_of_le (digitsValue_lt digits) (Nat.pow_le_pow_right (by decide) short)

theorem ofDecimal_ne_nan (negative : Bool) (coefficient : Nat) (exponent : Int) :
    Binary64.ofDecimal negative coefficient exponent ≠ .nan := by
  unfold Binary64.ofDecimal Binary64.ofQuotient Binary64.zero Binary64.ofUnits
  split_ifs <;> rintro ⟨⟩

theorem spellable_number {numeral : Numeral} (inRange : numeral.InRange) :
    numeral.number.Spellable := by
  unfold Numeral.number
  split_ifs with integer
  · have size : numeral.toInt.natAbs = digitsValue numeral.whole := by
      unfold Numeral.toInt
      split_ifs <;> omega
    show Binary64.decimalLength numeral.toInt.natAbs ≤ digitLimit
    rw [size]
    exact decimalLength_digitsValue_le (by decide) (inRange integer)
  · exact ofDecimal_ne_nan _ _ _

/-! ### Expressions -/

theorem textual_namedType (name : String) : (namedType name).type.Textual := by
  refine namedType_induction (motive := fun node => node.type.Textual) (fun kind named => ?_)
    (fun value => ?_) (fun name => ?_) name
  · exact .primitive named
  · exact .truth value
  · exact .generic fun _ member => absurd member List.not_mem_nil

/-- What members contribute has textual types in it. -/
structure Contribution.Textual (contribution : Contribution) : Prop where
  property : ∀ property, contribution.property? = some property → property.type.type.Textual
  indexer : ∀ indexer, contribution.indexer? = some indexer → indexer.value.type.Textual

theorem textual_objectType (exact : Bool) {members : List Contribution}
    (each : ∀ member ∈ members, member.Textual) : (objectType exact members).type.Textual := by
  rw [objectType, ReadNode.type_object]
  refine .object (List.forall_mem_map.mpr fun property member => ?_) fun entry isEntry => ?_
  · obtain ⟨contribution, inMembers, same⟩ := List.mem_filterMap.mp member
    exact (each contribution inMembers).property property same
  · obtain ⟨indexer, found, rfl⟩ := Option.map_eq_some_iff.mp isEntry
    obtain ⟨contribution, inMembers, same⟩ := List.exists_of_findSome?_eq_some found
    exact (each contribution inMembers).indexer indexer same

theorem spellable_numberOf {spelling : List Char} {value : Number}
    (denotes : numberOf spelling = .ok value) : value.Spellable := by
  unfold numberOf at denotes
  split at denotes
  · rename_i numeral rest _
    split_ifs at denotes with integer long
    · cases denotes
      have spellable := @spellable_number numeral fun _ => Nat.not_lt.mp long
      rwa [Numeral.number, if_pos integer] at spellable
    · cases denotes
      exact ofDecimal_ne_nan _ _ _
  · cases denotes
    show Binary64.decimalLength 0 ≤ digitLimit
    decide

attribute [local simp] bind_eq_ok_iff pure_eq_ok_iff map_eq_ok_iff TypeExpr.node nodes contributions

mutual

/-- **An expression denotes a type that a text can denote.** -/
theorem textual_of_node : (expr : TypeExpr) → {node : ReadNode} → expr.node = .ok node →
    node.type.Textual
  | .text spelling, node, denotes => by
    obtain ⟨value, -, rfl⟩ := by simpa using denotes
    exact .text (textOf value)
  | .numeral spelling, node, denotes => by
    obtain ⟨value, isValue, rfl⟩ := by simpa using denotes
    exact .number (spellable_numberOf isValue)
  | .named path none, node, denotes => by
    obtain rfl := by simpa using denotes
    exact textual_namedType _
  | .named path (some arguments), node, denotes => by
    obtain ⟨types, areTypes, rfl⟩ := by simpa using denotes
    rw [ReadNode.type_generic]
    exact .generic (textual_of_nodes arguments areTypes)
  | .arrayOf element, node, denotes => by
    obtain ⟨inner, isInner, rfl⟩ := by simpa using denotes
    exact .generic (List.forall_mem_singleton.mpr (textual_of_node element isInner))
  | .nullable inner, node, denotes => by
    obtain ⟨result, isResult, rfl⟩ := by simpa using denotes
    exact .nullable (textual_of_node inner isResult)
  | .tuple elements, node, denotes => by
    obtain ⟨types, areTypes, rfl⟩ := by simpa using denotes
    rw [ReadNode.type_tuple]
    exact .tuple (textual_of_nodes elements areTypes)
  | .union alternatives, node, denotes => by
    obtain ⟨types, areTypes, rfl⟩ := by simpa using denotes
    rw [ReadNode.type_union]
    exact .union (textual_of_nodes alternatives areTypes)
  | .object exact members, node, denotes => by
    obtain ⟨values, areValues, rfl⟩ := by simpa using denotes
    exact textual_objectType exact (textual_of_contributions members areValues)

theorem textual_of_nodes : (exprs : List TypeExpr) → {trees : List ReadNode} →
    nodes exprs = .ok trees → ∀ type ∈ trees.map ReadNode.type, type.Textual
  | [], trees, denote => by
    cases denote
    exact nofun
  | expr :: rest, trees, denote => by
    obtain ⟨node, isNode, more, areMore, rfl⟩ := by simpa using denote
    exact List.forall_mem_cons.mpr ⟨textual_of_node expr isNode, textual_of_nodes rest areMore⟩

theorem textual_of_contributions : (members : List (Member TypeExpr)) →
    {values : List Contribution} → contributions members = .ok values →
    ∀ value ∈ values, value.Textual
  | [], values, denote => by
    cases denote
    exact nofun
  | .property key optional expr :: rest, values, denote => by
    obtain ⟨name, -, type, isType, more, areMore, rfl⟩ := by simpa using denote
    refine List.forall_mem_cons.mpr ⟨⟨?_, nofun⟩, textual_of_contributions rest areMore⟩
    rintro property ⟨⟩
    exact textual_of_node expr isType
  | .indexer key value :: rest, values, denote => by
    obtain ⟨keyType, -, valueType, isType, more, areMore, rfl⟩ := by simpa using denote
    refine List.forall_mem_cons.mpr ⟨⟨nofun, ?_⟩, textual_of_contributions rest areMore⟩
    rintro indexer ⟨⟩
    exact textual_of_node value isType
  | .call parameters result :: rest, values, denote => by
    obtain ⟨-, -, more, areMore, rfl⟩ := by simpa using denote
    exact List.forall_mem_cons.mpr ⟨⟨nofun, nofun⟩, textual_of_contributions rest areMore⟩

end

/-- **Every accepted text denotes such a type.** -/
theorem textual_of_ofText {text : List Char} {path : Option String} {start : Position}
    {type : TypeNode} (accepted : TypeNode.ofText text path start = .ok type) : type.Textual := by
  obtain ⟨node, isNode, rfl⟩ := TypeNode.ofText_iff.mp accepted
  unfold ReadNode.ofText at isNode
  split at isNode
  · cases isNode
  · split at isNode
    · cases isNode
    · rename_i expr _ _ _ denotes
      cases isNode
      exact textual_of_node expr denotes

end TypeSchema
