/-
**Faults of type texts in the files that hold them.**

* `positionAt_append`: a place in a text, seen from the place where the text begins in a file, is
  its place in the file;
* `offset_le_of_ofText`: a fault stands inside the text;
* `TypeNode.ofText_in_file`: **a fault of a type text is reported where it stands in the file**;
* `Alias.ofText_in_file`: so is a fault in the right side of an alias statement.
-/

import TypeSchema.Proofs.Source.Aliases

namespace TypeSchema

variable {before text after front source : List Char} {path : Option String} {start : Position}
  {fault : SyntaxFault} {offset : Nat}

/-! ### Lines and columns -/

theorem lastLine_append_of_mem (breaks : '\n' ∈ text) :
    lastLine (front ++ text) = lastLine text := by
  have stops : (text.reverse.takeWhile (· != '\n')).length ≠ text.reverse.length := by
    intro whole
    have same := (List.takeWhile_prefix (· != '\n')).eq_of_length whole
    have plain := List.takeWhile_eq_self_iff.mp same '\n' (List.mem_reverse.mpr breaks)
    cases plain
  rw [lastLine, List.reverse_append, List.takeWhile_append, if_neg stops, lastLine]

theorem lastLine_append_of_notMem (plain : '\n' ∉ text) :
    lastLine (front ++ text) = lastLine front ++ text := by
  have each : ∀ c ∈ text.reverse, (c != '\n') = true := by
    intro c member
    rw [bne_iff_ne]
    rintro rfl
    exact plain (List.mem_reverse.mp member)
  rw [lastLine, List.reverse_append, List.takeWhile_append_of_pos each, List.reverse_append,
    List.reverse_reverse, lastLine]

/-- An offset inside a text has its line and column by what stands before it. -/
theorem positionAt_of_le (inside : offset ≤ text.length) :
    positionAt text offset =
      ⟨(text.take offset).count '\n' + 1, (lastLine (text.take offset)).length + 1⟩ := by
  have notNegative : ¬ (offset : Int) < 0 := by omega
  have place : charactersBefore text.length offset = offset := by
    rw [charactersBefore, if_neg notNegative, Int.toNat_natCast, Nat.min_eq_right inside]
  have length : (text.take offset).length = offset := List.length_take_of_le inside
  simp only [positionAt, place, length, Position.mk.injEq, true_and]
  omega

/-- **A place in a text**, seen from the place where the text begins, is its place in the file. -/
theorem positionAt_append (inside : offset ≤ text.length) :
    positionAt (before ++ text ++ after) (before.length + offset : Nat) =
      (positionAt (before ++ text ++ after) before.length).within (positionAt text offset) := by
  have fits : before.length + offset ≤ (before ++ text ++ after).length := by
    simp only [List.length_append]
    omega
  have whole : (before ++ text ++ after).take (before.length + offset) =
      before ++ text.take offset := by
    rw [List.append_assoc, List.take_length_add_append, List.take_append_of_le_length inside]
  have first : (before ++ text ++ after).take before.length = before := by
    rw [List.append_assoc, List.take_left]
  rw [positionAt_of_le fits, positionAt_of_le (Nat.le_of_add_right_le fits),
    positionAt_of_le inside, whole, first, List.count_append]
  by_cases breaks : '\n' ∈ text.take offset
  · have lines : 0 < (text.take offset).count '\n' := List.count_pos_iff.mpr breaks
    have notFirst : ¬ ((text.take offset).count '\n' : Int) + 1 = 1 := by omega
    rw [lastLine_append_of_mem breaks, Position.within, if_neg notFirst, Position.mk.injEq]
    exact ⟨by push_cast; omega, rfl⟩
  · have noLine : (text.take offset).count '\n' = 0 := List.count_eq_zero.mpr breaks
    have noBreak : lastLine (text.take offset) = text.take offset := by
      have alone := @lastLine_append_of_notMem (text.take offset) [] breaks
      simpa [lastLine] using alone
    rw [lastLine_append_of_notMem breaks, noLine, noBreak, Position.within, if_pos (by simp),
      Position.mk.injEq, List.length_append]
    exact ⟨by simp, by push_cast; omega⟩

/-- Seen from the beginning of a file, a place is the place it is. -/
theorem Position.within_first (place : Position) : Position.first.within place = place := by
  obtain ⟨line, column⟩ := place
  rw [within]
  split
  · rename_i first
    simp only [Position.first, Position.mk.injEq]
    exact ⟨first.symm, by omega⟩
  · simp only [Position.first, Position.mk.injEq, and_true]
    omega

/-! ### Faults of types -/

theorem width_of_firstToken {allowed : Terminal → Bool} {terminal : Terminal} {width : Nat}
    {c : Char} (found : firstToken? allowed (c :: text) = some (terminal, width)) :
    1 ≤ width ∧ width ≤ text.length + 1 := by
  obtain ⟨-, read, -⟩ := firstToken_eq_some found
  obtain ⟨lexeme, isLexeme, front, rfl⟩ := Terminal.exists_lexeme read
  have begins : Token.Begins ⟨terminal, lexeme⟩ (c :: text) := ⟨isLexeme, front⟩
  exact ⟨begins.cons.2, front.length_le⟩

/-- A reading reports no fault behind the end of its text. -/
theorem Reading.offset_le_of_run {reading : Reading} {last place : Nat}
    (failed : reading.run offset last text = .error (fault, place)) (earlier : last ≤ offset) :
    place ≤ offset + text.length := by
  fun_induction Reading.run reading offset last text with
  | case1 => cases failed
  | case2 reading offset last noResult =>
    cases failed
    exact earlier
  | case3 reading offset last c rest space ih =>
    have bound := ih failed (by omega)
    rw [List.length_cons]
    omega
  | case4 reading offset last c rest notSpace terminal width found lexeme next steps ih =>
    obtain ⟨positive, fits⟩ := width_of_firstToken found
    have bound := ih failed (by omega)
    rw [List.length_drop] at bound
    rw [List.length_cons]
    omega
  | case5 | case6 | case7 =>
    cases failed
    omega

/-- A fault stands inside the text. -/
theorem offset_le_of_ofText (failed : TypeExpr.ofText text = .error (fault, offset)) :
    offset ≤ text.length := by
  have bound := Reading.offset_le_of_run failed (Nat.le_refl 0)
  rwa [Nat.zero_add] at bound

/-- A fault of a text is reported at its place, seen from where the text begins. -/
theorem TypeNode.ofText_of_fault (failed : TypeExpr.ofText text = .error (fault, offset))
    (path : Option String) (start : Position) : TypeNode.ofText text path start =
      .error ⟨fault, path, start.within (positionAt text offset)⟩ := by
  rw [TypeNode.ofText, ReadNode.ofText, failed]
  rfl

/-- **A fault of a type text is reported where it stands in the file.** -/
theorem TypeNode.ofText_in_file (failed : TypeExpr.ofText text = .error (fault, offset))
    (before after : List Char) (path : Option String) :
    TypeNode.ofText text path (positionAt (before ++ text ++ after) before.length) =
      .error ⟨fault, path,
        positionAt (before ++ text ++ after) (before.length + offset : Nat)⟩ := by
  rw [ofText_of_fault failed, positionAt_append (offset_le_of_ofText failed)]

/-- Whether a text has a type, and which one, does not depend on its place. -/
theorem TypeNode.toOption_ofText (text : List Char) (path other : Option String)
    (start place : Position) :
    (TypeNode.ofText text path start).toOption = (TypeNode.ofText text other place).toOption := by
  simp only [TypeNode.ofText, ReadNode.ofText]
  cases TypeExpr.ofText text with
  | error => rfl
  | ok expr =>
    dsimp only
    cases expr.node <;> rfl

/-! ### Faults of alias statements -/

/-- The right side of an alias statement without the white space around it, and what stands before
it. -/
def Alias.rightSide? (text : List Char) : Option (List Char × List Char) := do
  let (_, nameEnd) ← aliasHead? text
  let side ← rightSideStart? text nameEnd
  let start := text.length - (trimStart (text.drop side)).length
  return (text.take start, (text.take (sourceEnd text)).drop start)

/-- The equals sign of a statement stands in it, behind its name and in front of its right side. -/
theorem rightSideStart?_eq_some {nameEnd side : Nat}
    (found : rightSideStart? text nameEnd = some side) :
    ∃ head more, text = head ++ '=' :: more ∧ side = head.length + 1 ∧
      text.take nameEnd <+: head := by
  rw [rightSideStart?, Option.map_eq_some_iff] at found
  obtain ⟨sign, found, rfl⟩ := found
  obtain ⟨skipped, more, behind, rfl⟩ := rightSide?_eq_some found
  refine ⟨text.take nameEnd ++ skipped, more, ?_, ?_, List.prefix_append ..⟩
  · rw [List.append_assoc, ← behind, List.take_append_drop]
  · have size := congrArg List.length behind
    simp only [List.length_drop, List.length_append, List.length_cons] at size
    rw [List.length_append, List.length_take]
    omega

/-- Between its equals sign and the rest of a statement stands white space. -/
theorem exists_front {nameEnd side : Nat} (found : rightSideStart? text nameEnd = some side) :
    ∃ head gap, AllBlank gap ∧ side = head.length + 1 ∧ text.take nameEnd <+: head ∧
      text = (head ++ '=' :: gap) ++ trimStart (text.drop side) := by
  obtain ⟨head, more, isText, rfl, isHead⟩ := rightSideStart?_eq_some found
  obtain ⟨gap, blank, isMore, -⟩ := exists_trimStart more
  have rest : text.drop (head.length + 1) = more := by
    rw [isText, List.drop_length_add_append, List.drop_one, List.tail_cons]
  refine ⟨head, gap, blank, rfl, isHead, ?_⟩
  rw [rest, isText, List.append_assoc, List.cons_append, ← isMore]

/-- The right side stands in the text, behind an equals sign and white space. -/
theorem Alias.parts_of_rightSide (split : Alias.rightSide? text = some (front, source)) :
    front ++ source <+: text ∧ ∃ head gap, front = head ++ '=' :: gap ∧ AllBlank gap := by
  simp only [Alias.rightSide?, Option.bind_eq_bind, Option.bind_eq_some_iff, Prod.exists] at split
  obtain ⟨name, nameEnd, -, side, found, isSplit⟩ := split
  obtain ⟨rfl, rfl⟩ := Prod.mk.inj (Option.some.inj isSplit)
  obtain ⟨head, gap, blank, -, -, parts⟩ := exists_front found
  constructor
  · rw [List.drop_take, ← List.take_add]
    exact List.take_prefix ..
  · refine ⟨head, gap, ?_, blank⟩
    have begins : text.length - (trimStart (text.drop side)).length =
        (head ++ '=' :: gap).length := by
      rw [congrArg List.length parts, List.length_append, Nat.add_sub_cancel]
    rw [begins]
    conv_lhs => rw [parts]
    exact List.take_left

/-- What is wrong with the right side is wrong with the statement. -/
theorem Alias.ofText_of_rightSide (split : Alias.rightSide? text = some (front, source))
    {error : SyntaxError} (failed : TypeNode.ofText source path
      (start.within (positionAt text front.length)) = .error error) :
    Alias.ofText text path start = .error error := by
  simp only [Alias.rightSide?, Option.bind_eq_bind, Option.bind_eq_some_iff, Prod.exists] at split
  obtain ⟨name, nameEnd, isHead, side, isSide, isSplit⟩ := split
  obtain ⟨rfl, rfl⟩ := Prod.mk.inj (Option.some.inj isSplit)
  have begins : (text.take (text.length - (trimStart (text.drop side)).length)).length =
      text.length - (trimStart (text.drop side)).length :=
    List.length_take_of_le (Nat.sub_le ..)
  rw [begins] at failed
  simp only [Alias.ofText, isHead, isSide, failed]

/-- **A fault in the right side of an alias statement is reported where it stands in the file.** -/
theorem Alias.ofText_in_file (split : Alias.rightSide? text = some (front, source))
    (failed : TypeExpr.ofText source = .error (fault, offset)) (before after : List Char)
    (path : Option String) :
    Alias.ofText text path (positionAt (before ++ text ++ after) before.length) =
      .error ⟨fault, path, positionAt (before ++ text ++ after)
        (before.length + front.length + offset : Nat)⟩ := by
  obtain ⟨⟨rest, whole⟩, -⟩ := parts_of_rightSide split
  have inside : front.length ≤ text.length := by
    rw [← whole]
    simp only [List.length_append]
    omega
  have inFile : before ++ text ++ after = (before ++ front) ++ source ++ (rest ++ after) := by
    rw [← whole]
    simp only [List.append_assoc]
  refine ofText_of_rightSide split ?_
  rw [← positionAt_append inside, inFile, ← List.length_append,
    TypeNode.ofText_in_file failed (before ++ front) (rest ++ after) path]

end TypeSchema
