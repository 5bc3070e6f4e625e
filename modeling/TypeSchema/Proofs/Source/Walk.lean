/-
**Walking over a masked module.**

* `Clear`: a statement may begin after a text: nothing but white space stands there since the start
  or since the last semicolon;
* `Loose.noneFound`: nothing that looks like a declaration is found in a loose text;
* `Searches.module`: **a search that finds nothing in white space, and at a statement what it
  declares**, finds in a module what its statements declare.
-/

import TypeSchema.Proofs.Source.Search
import TypeSchema.Proofs.Source.Shown

namespace TypeSchema

variable {c : Char} {text rest back front gap pre : List Char}

/-! ### Where statements begin -/

/-- Nothing but white space stands here since the start or since the last semicolon. -/
def Clear (pre : List Char) : Prop :=
  ∃ front gap, pre = front ++ gap ∧ AllBlank gap ∧ (front = [] ∨ ∃ more, front = more ++ [';'])

theorem clear_nil : Clear [] := ⟨[], [], rfl, allBlank_nil, .inl rfl⟩

theorem Clear.append_gap (clear : Clear pre) (blank : AllBlank gap) : Clear (pre ++ gap) := by
  obtain ⟨front, old, rfl, isBlank, ends⟩ := clear
  exact ⟨front, old ++ gap, by rw [List.append_assoc], isBlank.append blank, ends⟩

theorem clear_statement (pre text : List Char) : Clear (pre ++ (text ++ [';'])) :=
  ⟨pre ++ (text ++ [';']), [], by simp, allBlank_nil, .inr ⟨pre ++ text, by simp⟩⟩

theorem mayBeginWord_of_isBlank (blank : isBlank c) : mayBeginWord (some c) := by
  have notPoint : c ≠ '.' := by rintro rfl; cases blank
  simp [mayBeginWord, not_isIdentifierPart_of_isBlank blank, notPoint]

theorem Clear.mayBeginWord (clear : Clear pre) : mayBeginWord (lastOf none pre) := by
  obtain ⟨front, gap, rfl, blank, ends⟩ := clear
  rcases List.eq_nil_or_concat gap with rfl | ⟨more, c, rfl⟩
  · rcases ends with rfl | ⟨more, rfl⟩
    · rfl
    · simp [lastOf, TypeSchema.mayBeginWord]
      decide
  · have isLast : lastOf none (front ++ (more ++ [c])) = some c := by simp [lastOf]
    rw [List.concat_eq_append, isLast]
    exact mayBeginWord_of_isBlank (blank c (by simp))

theorem Clear.beginsStatement (clear : Clear pre) (rest : List Char) :
    beginsStatement (pre ++ rest) pre.length := by
  obtain ⟨front, gap, rfl, blank, ends⟩ := clear
  rw [TypeSchema.beginsStatement, List.take_left, trimEnd_gap blank]
  rcases ends with rfl | ⟨more, rfl⟩
  · rfl
  · have visible : isBlank ';' = false := by decide
    rw [trimEnd_visible visible, List.getLast?_concat]
    rfl

/-! ### Loose texts -/

/-- A text without a character stands before the first place of that character. -/
theorem append_eq_before {words after core : List Char} {stop : Char}
    (split : words ++ after = core ++ stop :: rest) (noStop : stop ∉ words) :
    ∃ more, core = words ++ more ∧ after = more ++ stop :: rest := by
  rcases List.append_eq_append_iff.mp split with ⟨more, isMore, isAfter⟩ | ⟨more, isWords, isAfter⟩
  · exact ⟨more, isMore, isAfter⟩
  · cases more with
    | nil => exact ⟨[], by rw [isWords]; simp, isAfter.symm⟩
    | cons e more =>
      obtain ⟨rfl, -⟩ := List.cons.inj isAfter
      exact absurd (by rw [isWords]; simp) noStop

theorem Joined.of_append {stop : Char} (visible : isBlank stop = false)
    (joined : Joined c (back ++ stop :: rest)) : Joined c (back ++ [stop]) := by
  obtain ⟨part, blank, name⟩ := joined
  refine ⟨part, ?_, ?_⟩
  · cases back with
    | nil => exact blank
    | cons d back => exact blank
  · obtain ⟨gap, isGap, same, first⟩ := exists_trimStart back
    rw [same, List.append_assoc, trimStart_gap isGap] at name ⊢
    cases shown : trimStart back with
    | nil =>
      rw [shown] at name
      rw [List.nil_append, trimStart_visible visible] at name ⊢
      exact name
    | cons d more =>
      have isVisible := first d (by rw [shown]; rfl)
      rw [shown] at name
      rw [List.cons_append, trimStart_visible isVisible] at name ⊢
      exact name

/-- The last character of a text is the last one of every end of it. -/
theorem concat_eq_append {core : List Char} {stop : Char} (same : core ++ [stop] = front ++ c :: back) :
    ∃ inner, c :: back = inner ++ [stop] ∧ core = front ++ inner := by
  have last := congrArg List.getLast? same
  rw [List.getLast?_concat, List.getLast?_append_of_ne_nil _ (List.cons_ne_nil c back)] at last
  have split := (List.dropLast_append_getLast? _ last.symm).symm
  refine ⟨_, split, ?_⟩
  rw [split, ← List.append_assoc] at same
  exact (List.append_inj' same rfl).1

theorem notMem_words {words : List Char} (each : ∀ d ∈ words, isIdentifierPart d ∨ isBlank d) :
    ';' ∉ words := by
  intro member
  rcases each _ member with part | blank
  · cases part
  · cases blank

/-- What a pattern finds begins with words, the first two of which are joined. -/
def FindsJoined {α : Type} (pattern : Option Char → List Char → Option α) : Prop :=
  ∀ before text found, pattern before text = some found → ∃ head c back, text = head ++ c :: back ∧
    (∀ d ∈ head ++ [c], isIdentifierPart d ∨ isBlank d) ∧ Joined c back

/-- **Nothing is found in a loose text.** -/
theorem Loose.noneFound {α : Type} {pattern : Option Char → List Char → Option (α × Nat)}
    (finds : FindsJoined pattern) (loose : Loose (text ++ [';'])) (rest : List Char) :
    NoneFound pattern (text ++ [';']) rest := by
  refine noneFound_of_none fun before front c back same => ?_
  by_contra some_
  obtain ⟨found, isMatch⟩ := Option.ne_none_iff_exists'.mp some_
  obtain ⟨head, d, after, isText, words, joined⟩ := finds _ _ _ isMatch
  obtain ⟨core, isCore, -⟩ := concat_eq_append same
  have noStop := notMem_words words
  have split : (head ++ [d]) ++ after = core ++ ';' :: rest := by
    rw [List.append_assoc, List.singleton_append, ← isText, isCore, List.append_assoc]
    rfl
  obtain ⟨more, rfl, rfl⟩ := append_eq_before split noStop
  refine loose (front ++ head) d (more ++ [';']) ?_ (joined.of_append (by decide))
  rw [same, isCore]
  simp

theorem not_joined (noPart : isIdentifierPart c = false) : ¬ Joined c back := by
  intro joined
  rw [joined.1] at noPart
  cases noPart

theorem loose_word {word : List Char} (parts : ∀ c ∈ word, isIdentifierPart c)
    (next : ¬ (trimStart rest).head?.any isNameStart) (loose : Loose rest) :
    Loose (word ++ rest) := by
  induction word with
  | nil => exact loose
  | cons c word ih =>
    rw [List.forall_mem_cons] at parts
    refine loose_cons (fun joined => ?_) (ih parts.2)
    cases word with
    | nil => exact next joined.2.2
    | cons d word =>
      have noPart := not_isIdentifierPart_of_isBlank (show isBlank d from joined.2.1)
      rw [parts.2 d List.mem_cons_self] at noPart
      cases noPart

/-! ### Parts of a module -/

/-- White space, anything that is hidden, or a well-formed statement. -/
def Part.WellFormed : Part → Prop
  | space text => AllBlank text
  | hidden _ => True
  | statement written => written.WellFormed

theorem IsModule.parts {inFlow : Bool} {parts : List Part} (isModule : IsModule inFlow parts) :
    ∀ part ∈ parts, part.WellFormed := by
  induction isModule with
  | nil => exact nofun
  | space blank _ ih => exact List.forall_mem_cons.mpr ⟨blank, ih⟩
  | statement wellFormed _ ih => exact List.forall_mem_cons.mpr ⟨wellFormed, ih⟩
  | lineComment _ _ ih => exact List.forall_mem_cons.mpr ⟨trivial, ih⟩
  | blockComment _ _ _ ih => exact List.forall_mem_cons.mpr ⟨trivial, ih⟩
  | opening _ _ ih => exact List.forall_mem_cons.mpr ⟨trivial, ih⟩
  | closing _ ih => exact List.forall_mem_cons.mpr ⟨trivial, ih⟩

theorem allBlank_blanked (text : List Char) : AllBlank (blanked text) := by
  intro c member
  obtain ⟨d, -, rfl⟩ := List.mem_map.mp member
  split_ifs with line
  · rw [line]
    decide
  · decide

theorem StatementText.WellFormed.length {written : StatementText}
    (wellFormed : written.WellFormed) : written.shown.text.length = written.text.length := by
  rw [← wellFormed.steady.2, length_mask]

theorem StatementText.exists_text (written : StatementText) :
    ∃ core, written.text = core ++ [';'] := by
  cases written with
  | define exported name side =>
    exact ⟨exportWord exported ++ (typeWord ++ (name ++ (equalsSign ++ side))), by simp [text]⟩
  | fetch names module =>
    exact ⟨importHead ++ (names.text ++ ('\x7d' :: fromText (some module))), by simp [text]⟩
  | offer names module =>
    exact ⟨exportHead ++ (names.text ++ ('\x7d' :: fromText module)), by simp [text]⟩

theorem clear_shown (pre : List Char) (written : StatementText) :
    Clear (pre ++ written.shown.text) := by
  obtain ⟨core, same⟩ := written.shown.exists_text
  rw [same]
  exact clear_statement pre core

/-! ### Searches -/

variable {α β : Type} {pattern : Option Char → List Char → Option (α × Nat)}
  {keep : List Char → Nat × α → Option β} {declared : List Char → Nat × StatementText → Option β}

/-- A search in masked modules finds nothing in white space, and at a statement what is declared
there, whatever stands around it. -/
structure Searches (pattern : Option Char → List Char → Option (α × Nat))
    (keep : List Char → Nat × α → Option β)
    (declared : List Char → Nat × StatementText → Option β) : Prop where
  gap : ∀ before c text, isBlank c → pattern before (c :: text) = none
  statement : ∀ {pre written}, Clear pre → written.WellFormed → ∀ rest,
    (findAll pattern 0 (lastOf none pre) pre.length (written.shown.text ++ rest)).filterMap
        (keep (pre ++ (written.shown.text ++ rest))) =
      (declared (pre ++ (written.shown.text ++ rest)) (pre.length, written)).toList ++
        (findAll pattern 0 (lastOf none (pre ++ written.shown.text))
          (pre.length + written.shown.text.length) rest).filterMap
            (keep (pre ++ (written.shown.text ++ rest)))

namespace Searches

/-- What is found from the middle of a module on. -/
theorem from_ (searches : Searches pattern keep declared) {parts : List Part}
    (wellFormed : ∀ part ∈ parts, part.WellFormed) (clear : Clear pre) :
    (findAll pattern 0 (lastOf none pre) pre.length (parts.flatMap Part.shown)).filterMap
        (keep (pre ++ parts.flatMap Part.shown)) =
      (located pre.length parts).filterMap (declared (pre ++ parts.flatMap Part.shown)) := by
  induction parts generalizing pre with
  | nil => rfl
  | cons part parts ih =>
    rw [List.forall_mem_cons] at wellFormed
    rw [List.flatMap_cons]
    -- White space is passed over, and what is hidden is white space as well.
    have overGap {gap : List Char} (blank : AllBlank gap) :
        (findAll pattern 0 (lastOf none pre) pre.length
          (gap ++ parts.flatMap Part.shown)).filterMap
            (keep (pre ++ (gap ++ parts.flatMap Part.shown))) =
          (located (pre.length + gap.length) parts).filterMap
            (declared (pre ++ (gap ++ parts.flatMap Part.shown))) := by
      have later := ih wellFormed.2 (clear.append_gap blank)
      rw [List.append_assoc, List.length_append] at later
      rw [noneFound_of_chars (fun c member before rest => searches.gap before c rest (blank c member)),
        ← lastOf_append, later]
    cases part with
    | space text => exact overGap wellFormed.1
    | hidden text =>
      have masked := overGap (allBlank_blanked text)
      rw [blanked, List.length_map, ← blanked] at masked
      exact masked
    | statement written =>
      have later := ih wellFormed.2 (clear_shown pre written)
      have length : written.shown.text.length = written.text.length :=
        StatementText.WellFormed.length wellFormed.1
      rw [List.append_assoc, List.length_append] at later
      rw [Part.shown, searches.statement clear wellFormed.1, later, located, length,
        filterMap_cons_toList]

/-- **What is found in a module is what its statements declare.** -/
theorem module (searches : Searches pattern keep declared) {parts : List Part}
    (isModule : IsModule false parts) :
    (findAll pattern 0 none 0 (mask (moduleText parts))).filterMap
        (keep (mask (moduleText parts))) =
      (located 0 parts).filterMap (declared (mask (moduleText parts))) := by
  rw [mask_moduleText isModule]
  exact searches.from_ isModule.parts clear_nil

end Searches

end TypeSchema
