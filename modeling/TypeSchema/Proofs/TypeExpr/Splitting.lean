/-
**Alias statements are split at their equals sign.**

* `TypeNode.ofText_anywhere`: which type a text denotes does not depend on the place of the text;
* `Alias.ofText_written`: **a written alias is split into its name and its right side**, which
  denotes what it denotes by itself.
-/

import TypeSchema.Proofs.Text.Blank
import TypeSchema.Proofs.TypeExpr.Acceptance

namespace TypeSchema

variable {name side : List Char} {node : TypeNode} {path path' : Option String}
  {start start' : Position}

/-- Which type a text denotes does not depend on its place. -/
theorem TypeNode.ofText_anywhere (accepted : TypeNode.ofText side path start = .ok node)
    (path' : Option String) (start' : Position) : TypeNode.ofText side path' start' = .ok node :=
  accepted_iff.mpr (accepted_iff.mp accepted)

/-- A text that denotes a type is not empty. -/
theorem ne_nil_of_ofText (accepted : TypeNode.ofText side path start = .ok node) : side ≠ [] := by
  rintro rfl
  have fails : (TypeExpr.ofText []).toOption = none := by cbv
  cases parsed : TypeExpr.ofText [] with
  | ok expr =>
    rw [parsed] at fails
    cases fails
  | error error =>
    rw [TypeNode.ofText, ReadNode.ofText, parsed] at accepted
    cases accepted

/-- White space stands at neither end of a text that trimming leaves as it is. -/
theorem ends_of_trim (trimmed : trim side = side) : trimStart side = side ∧ trimEnd side = side := by
  obtain ⟨gap, -, isSide, -⟩ := exists_trimStart side
  obtain ⟨more, -, isTrim, -⟩ := exists_trimEnd (trimStart side)
  have whole := congrArg List.length isSide
  have part := congrArg List.length isTrim
  rw [← trim, trimmed, List.length_append] at part
  rw [List.length_append] at whole
  have noGap : gap = [] := List.length_eq_zero_iff.mp (by omega)
  rw [noGap, List.nil_append] at isSide
  refine ⟨isSide.symm, ?_⟩
  conv_lhs => rw [isSide]
  exact trimmed

/-- The text of a written alias. -/
def aliasText (name side : List Char) : List Char :=
  "type ".toList ++ (name ++ (" = ".toList ++ side))

/-- The name of a written alias. -/
theorem aliasHead?_written (isIdentifier : IsIdentifier name) (side : List Char) :
    aliasHead? (aliasText name side) = some (name, 5 + name.length) := by
  obtain ⟨c, more, rfl, starts, parts⟩ := id isIdentifier
  generalize isRest : " = ".toList ++ side = rest
  have visible : trimStart (c :: more ++ rest) = c :: more ++ rest :=
    trimStart_visible (not_isBlank_of_isNameStart starts)
  have text : aliasText (c :: more) side = "type".toList ++ ([' '] ++ (c :: more ++ rest)) := by
    rw [← isRest]
    rfl
  have word : afterWord? "type".toList ("type".toList ++ ([' '] ++ (c :: more ++ rest))) =
      some (c :: more ++ rest) := by
    have blank : AllBlank [' '] := List.forall_mem_singleton.mpr (by decide)
    rw [afterWord?_append _ blank (List.cons_ne_nil _ _), visible]
  have read : identifier? (c :: more ++ rest) = some (c :: more, rest) := by
    refine identifier?_append isIdentifier fun d first => ?_
    rw [← isRest] at first
    cases first
    decide
  have start : skipWord "export".toList (skipWord "declare".toList
      (trimStart ("type".toList ++ ([' '] ++ (c :: more ++ rest))))) =
        "type".toList ++ ([' '] ++ (c :: more ++ rest)) := rfl
  rw [text]
  unfold aliasHead?
  simp only [start, word, read, Option.bind_eq_bind, Option.bind_some, Option.pure_def,
    Option.some.injEq, Prod.mk.injEq, true_and]
  have letters : "type".toList.length = 4 := rfl
  simp only [List.length_append, List.length_cons, List.length_nil, letters]
  omega

/-- **A written alias is split** into its name and its right side. -/
theorem Alias.ofText_written (isIdentifier : IsIdentifier name)
    (accepted : TypeNode.ofText side path' start' = .ok node) (trimmed : trim side = side)
    (noEnd : side.getLast? ≠ some ';') (path : Option String) (start : Position) :
    ∃ found, Alias.ofText (aliasText name side) path start = .ok found ∧
      found.name = String.ofList name ∧ found.source = String.ofList side ∧ found.type = node := by
  obtain ⟨noStart, noGap⟩ := ends_of_trim trimmed
  have some_ : side ≠ [] := ne_nil_of_ofText accepted
  generalize isHead : "type ".toList ++ name = head
  have text : aliasText name side = head ++ (" = ".toList ++ side) := by
    rw [← isHead, List.append_assoc]
    rfl
  have size : 5 + name.length = head.length := by
    rw [← isHead, List.length_append]
    rfl
  have sign : rightSideStart? (head ++ (" = ".toList ++ side)) head.length =
      some (head.length + 2) := by
    rw [rightSideStart?, List.drop_left]
    have reads (before : Option Char) :
        rightSide? before 0 head.length (" = ".toList ++ side) =
          some ((head.length : Int) + 1 + 1) := by simp [rightSide?]
    rw [reads, Option.map_some, Option.some.injEq]
    omega
  have ends : trimEnd (head ++ (" = ".toList ++ side)) = head ++ (" = ".toList ++ side) := by
    have shown : trimEnd side ≠ [] := by rwa [noGap]
    rw [← List.append_assoc, trimEnd_append shown, noGap]
  have stop : Alias.sourceEnd (head ++ (" = ".toList ++ side)) =
      (head ++ (" = ".toList ++ side)).length := by
    have last : (head ++ (" = ".toList ++ side)).getLast? = side.getLast? := by
      rw [← List.append_assoc, List.getLast?_append_of_ne_nil _ some_]
    rw [Alias.sourceEnd, ends, last, if_neg noEnd]
  have begins : (head ++ (" = ".toList ++ side)).length -
      (trimStart ((head ++ (" = ".toList ++ side)).drop (head.length + 2))).length =
        (head ++ " = ".toList).length := by
    have behind : (head ++ (" = ".toList ++ side)).drop (head.length + 2) = [' '] ++ side := by
      rw [← List.drop_drop, List.drop_left]
      rfl
    have blank : AllBlank [' '] := List.forall_mem_singleton.mpr (by decide)
    rw [behind, trimStart_gap blank, noStart]
    simp only [List.length_append]
    omega
  have source : ((head ++ (" = ".toList ++ side)).take
      (head ++ (" = ".toList ++ side)).length).drop (head ++ " = ".toList).length = side := by
    rw [List.take_length, ← List.append_assoc, List.drop_left]
  unfold Alias.ofText
  rw [aliasHead?_written isIdentifier, size, text]
  dsimp only
  rw [sign]
  dsimp only
  rw [stop, begins, source, TypeNode.ofText_anywhere accepted]
  exact ⟨_, rfl, rfl, rfl, rfl⟩

end TypeSchema
