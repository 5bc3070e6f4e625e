/-
**White space and identifiers.**

* `not_isIdentifierPart_of_isBlank`: no white space character stands inside an identifier;
* `trimStart_gap`, `trimEnd_gap`: trimming takes the white space at the ends of a text away;
* `identifier?_append`: an identifier is read up to a character that is no part of one;
* `afterWord?_append`: a word is read together with the white space after it.
-/

import Mathlib.Data.List.TakeWhile
import Mathlib.Tactic.ByContra
import Mathlib.Tactic.SplitIfs
import TypeSchema.TypeExpr.Alias

namespace TypeSchema

variable {c : Char} {text rest gap : List Char}

/-! ### Characters -/

/-- What holds of every item of a list can be seen by going through the list. -/
theorem forall_mem_of_all {α : Type} {property : α → Prop} [DecidablePred property] {items : List α}
    (all : (items.all fun item => decide (property item)) = true) :
    ∀ item ∈ items, property item :=
  fun item member => of_decide_eq_true (List.all_eq_true.mp all item member)

theorem ascii_of_isAlphanum (alphanum : c.isAlphanum) : 48 ≤ c.toNat ∧ c.toNat < 0x80 := by
  have within {low high : UInt32} (inside : c.val ≥ low ∧ c.val ≤ high)
      (bounds : 48 ≤ low.toNat ∧ high.toNat < 0x80) : 48 ≤ c.toNat ∧ c.toNat < 0x80 :=
    ⟨Nat.le_trans bounds.1 (UInt32.le_iff_toNat_le.mp inside.1),
      Nat.lt_of_le_of_lt (UInt32.le_iff_toNat_le.mp inside.2) bounds.2⟩
  have between {low high : UInt32}
      (inside : (decide (c.val ≥ low) && decide (c.val ≤ high)) = true) :
      c.val ≥ low ∧ c.val ≤ high :=
    (Bool.and_eq_true_iff.mp inside).imp of_decide_eq_true of_decide_eq_true
  rcases Bool.or_eq_true_iff.mp alphanum with alpha | digit
  · rcases Bool.or_eq_true_iff.mp alpha with upper | lower
    · exact within (of_decide_eq_true upper) (by decide)
    · exact within (between lower) (by decide)
  · exact within (between digit) (by decide)

theorem isIdentifierPart_of_isNamePart (part : isNamePart c) : isIdentifierPart c := by
  simp only [isNamePart, Bool.or_eq_true, beq_iff_eq] at part
  rcases part with (alphanum | rfl) | rfl
  · have ascii := (ascii_of_isAlphanum alphanum).2
    simp [isIdentifierPart, isWord, ascii, alphanum]
  · decide
  · decide

theorem isNamePart_of_isNameStart (starts : isNameStart c) : isNamePart c := by
  simp only [isNameStart, Bool.or_eq_true] at starts
  simp only [isNamePart, Char.isAlphanum, Bool.or_eq_true]
  rcases starts with (alpha | line) | dollar
  · exact .inl (.inl (.inl alpha))
  · exact .inl (.inr line)
  · exact .inr dollar

theorem isIdentifierPart_of_isNameStart (starts : isNameStart c) : isIdentifierPart c :=
  isIdentifierPart_of_isNamePart (isNamePart_of_isNameStart starts)

/-- The white space characters past the ASCII ones. -/
def wideBlanks : List Nat :=
  [0x85, 0xA0, 0x1680, 0x2000, 0x2001, 0x2002, 0x2003, 0x2004, 0x2005, 0x2006, 0x2007, 0x2008,
    0x2009, 0x200A, 0x2028, 0x2029, 0x202F, 0x205F, 0x3000]

theorem toNat_of_isBlank (blank : isBlank c) : c.toNat < 33 ∨ c.toNat ∈ wideBlanks := by
  simp only [isBlank, CharClass.contains, blankClass, List.any_cons, List.any_nil, Bool.or_eq_true,
    Bool.and_eq_true, decide_eq_true_eq, Bool.false_eq_true, or_false] at blank
  simp only [wideBlanks, List.mem_cons, List.not_mem_nil, or_false]
  omega

/-- **No white space character stands inside an identifier.** -/
theorem not_isIdentifierPart_of_isBlank (blank : isBlank c) : isIdentifierPart c = false := by
  have wide : ∀ code ∈ wideBlanks, 0x80 ≤ code ∧
      (wordClass.any fun range => range.1 ≤ code && code ≤ range.2) = false := by decide +kernel
  rcases toNat_of_isBlank blank with small | isWide
  · have notAlphanum : c.isAlphanum = false := by
      by_contra alphanum
      have := (ascii_of_isAlphanum ((Bool.not_eq_false _).mp alphanum)).1
      omega
    have notLine : c ≠ '_' := by rintro rfl; simp at small
    have notDollar : c ≠ '$' := by rintro rfl; simp at small
    simp [isIdentifierPart, isWord, notAlphanum, notLine, notDollar, Nat.lt_trans small]
  · obtain ⟨large, noWord⟩ := wide _ isWide
    have notDollar : c ≠ '$' := by rintro rfl; simp at large
    have isLarge : ¬ c.toNat < 0x80 := Nat.not_lt.mpr large
    simp only [isIdentifierPart, isWord, if_neg isLarge, CharClass.contains, noWord]
    simpa using notDollar

theorem isBlank_of_isTokenSpace (space : isTokenSpace c) : isBlank c := by
  simp only [isTokenSpace, Bool.or_eq_true, beq_iff_eq] at space
  rcases space with (((rfl | rfl) | rfl) | rfl) | rfl <;> decide

theorem not_isBlank_of_isNameStart (starts : isNameStart c) : isBlank c = false := by
  by_contra blank
  have notPart := not_isIdentifierPart_of_isBlank ((Bool.not_eq_false _).mp blank)
  rw [isIdentifierPart_of_isNameStart starts] at notPart
  cases notPart

/-! ### Trimming -/

/-- White space only. -/
def AllBlank (text : List Char) : Prop := ∀ c ∈ text, isBlank c

theorem allBlank_nil : AllBlank [] := nofun

theorem AllBlank.append (first : AllBlank text) (second : AllBlank rest) :
    AllBlank (text ++ rest) := by
  intro c member
  exact (List.mem_append.mp member).elim (first c) (second c)

theorem trimStart_gap (blank : AllBlank gap) : trimStart (gap ++ text) = trimStart text :=
  List.dropWhile_append_of_pos blank

theorem trimStart_visible (visible : isBlank c = false) : trimStart (c :: text) = c :: text := by
  rw [trimStart, List.dropWhile_cons_of_neg (by simp [visible])]

/-- A text begins with white space, and something visible follows unless it ends there. -/
theorem exists_trimStart (text : List Char) :
    ∃ gap, AllBlank gap ∧ text = gap ++ trimStart text ∧
      ∀ c, (trimStart text).head? = some c → isBlank c = false := by
  refine ⟨text.takeWhile isBlank, fun c => List.mem_takeWhile_imp, ?_, ?_⟩
  · exact List.takeWhile_append_dropWhile.symm
  · intro c first
    have head := List.head?_dropWhile_not isBlank text
    rw [trimStart] at first
    rw [first] at head
    simpa using head

theorem trimStart_append (some_ : trimStart text ≠ []) :
    trimStart (text ++ rest) = trimStart text ++ rest := by
  obtain ⟨gap, blank, same, visible⟩ := exists_trimStart text
  obtain ⟨c, more, shown⟩ := List.exists_cons_of_ne_nil some_
  have isVisible := visible c (by rw [shown]; rfl)
  rw [shown] at same ⊢
  rw [same, List.append_assoc, trimStart_gap blank, List.cons_append, trimStart_visible isVisible]

theorem trimEnd_gap (blank : AllBlank gap) : trimEnd (text ++ gap) = trimEnd text := by
  have reversed : AllBlank gap.reverse := fun c member => blank c (List.mem_reverse.mp member)
  rw [trimEnd, trimEnd, List.reverse_append, List.dropWhile_append_of_pos reversed]

theorem trimEnd_blank (blank : AllBlank gap) : trimEnd gap = [] := @trimEnd_gap [] gap blank

theorem trimEnd_visible (visible : isBlank c = false) : trimEnd (text ++ [c]) = text ++ [c] := by
  rw [trimEnd, List.reverse_append, List.reverse_singleton, List.singleton_append,
    List.dropWhile_cons_of_neg (by simp [visible])]
  simp

/-- A text ends with white space, and something visible precedes it unless it begins there. -/
theorem exists_trimEnd (text : List Char) :
    ∃ gap, AllBlank gap ∧ text = trimEnd text ++ gap ∧
      (trimEnd text = [] ∨ ∃ front c, trimEnd text = front ++ [c] ∧ isBlank c = false) := by
  obtain ⟨gap, blank, same, visible⟩ := exists_trimStart text.reverse
  refine ⟨gap.reverse, fun c member => blank c (List.mem_reverse.mp member), ?_, ?_⟩
  · have reversed := congrArg List.reverse same
    rwa [List.reverse_reverse, List.reverse_append] at reversed
  · unfold trimEnd
    cases shown : text.reverse.dropWhile isBlank with
    | nil => exact .inl rfl
    | cons c rest =>
      refine .inr ⟨rest.reverse, c, List.reverse_cons, visible c ?_⟩
      rw [trimStart, shown]
      rfl

theorem allBlank_of_trimEnd (nothing : trimEnd text = []) : AllBlank text := by
  obtain ⟨gap, blank, same, -⟩ := exists_trimEnd text
  rw [nothing, List.nil_append] at same
  rwa [same]

theorem trimEnd_append (some_ : trimEnd rest ≠ []) : trimEnd (text ++ rest) = text ++ trimEnd rest := by
  obtain ⟨gap, blank, same, nothing | ⟨front, c, shown, visible⟩⟩ := exists_trimEnd rest
  · exact absurd nothing some_
  · have split : text ++ rest = (text ++ front) ++ [c] ++ gap := by
      rw [same, shown]
      simp
    rw [split, trimEnd_gap blank, trimEnd_visible visible, shown, List.append_assoc]

/-- The last visible character of a text that goes on. -/
theorem getLast?_trimEnd_concat (front : List Char) (c : Char) :
    (trimEnd (front ++ [c])).getLast? = if isBlank c then (trimEnd front).getLast? else some c := by
  split_ifs with blank
  · rw [trimEnd_gap (List.forall_mem_singleton.mpr blank)]
  · rw [trimEnd_visible (by simpa using blank), List.getLast?_concat]

theorem head?_trimEnd_cons (visible : isBlank c = false) : (trimEnd (c :: text)).head? = some c := by
  obtain ⟨gap, -, same, -⟩ := exists_trimEnd (c :: text)
  cases shown : trimEnd (c :: text) with
  | nil =>
    have isBlank := allBlank_of_trimEnd shown c List.mem_cons_self
    rw [visible] at isBlank
    cases isBlank
  | cons d rest =>
    rw [shown] at same
    cases same
    rfl

/-- Texts whose parts are trimmed alike are trimmed alike. -/
theorem length_trimEnd_append {other back : List Char} (length : text.length = other.length)
    (front : (trimEnd text).length = (trimEnd other).length)
    (behind : (trimEnd rest).length = (trimEnd back).length) :
    (trimEnd (text ++ rest)).length = (trimEnd (other ++ back)).length := by
  by_cases nothing : trimEnd rest = []
  · have nothingBack : trimEnd back = [] := by
      rw [← List.length_eq_zero_iff, ← behind, nothing, List.length_nil]
    rw [trimEnd_gap (allBlank_of_trimEnd nothing), trimEnd_gap (allBlank_of_trimEnd nothingBack),
      front]
  · have someBack : trimEnd back ≠ [] := by
      intro nothingBack
      rw [nothingBack, List.length_nil, List.length_eq_zero_iff] at behind
      exact nothing behind
    rw [trimEnd_append nothing, trimEnd_append someBack, List.length_append, List.length_append,
      length, behind]

/-- What trimming leaves, by what it takes away at the ends. -/
theorem length_trim (text : List Char) :
    (trim text).length = (trimEnd text).length - (text.length - (trimStart text).length) := by
  obtain ⟨gap, blank, same, visible⟩ := exists_trimStart text
  have size : text.length - (trimStart text).length = gap.length := by
    have whole := congrArg List.length same
    rw [List.length_append] at whole
    omega
  rw [size, trim]
  cases shown : trimStart text with
  | nil =>
    rw [shown, List.append_nil] at same
    rw [same, trimEnd_blank blank, trimEnd_blank allBlank_nil, List.length_nil, Nat.zero_sub]
  | cons c rest =>
    have some_ : trimEnd (trimStart text) ≠ [] := by
      intro nothing
      have isBlank := allBlank_of_trimEnd nothing c (by rw [shown]; exact List.mem_cons_self)
      rw [visible c (by rw [shown]; rfl)] at isBlank
      cases isBlank
    rw [← shown]
    conv_rhs => rw [same, trimEnd_append some_, List.length_append, Nat.add_sub_cancel_left]

/-! ### Identifiers and words -/

/-- An identifier: a letter, `_` or `$`, then letters, digits, `_` and `$`. -/
def IsIdentifier (name : List Char) : Prop :=
  ∃ c rest, name = c :: rest ∧ isNameStart c ∧ ∀ d ∈ rest, isIdentifierPart d

theorem IsIdentifier.parts (isIdentifier : IsIdentifier text) : ∀ c ∈ text, isIdentifierPart c := by
  obtain ⟨c, rest, rfl, starts, parts⟩ := isIdentifier
  exact List.forall_mem_cons.mpr ⟨isIdentifierPart_of_isNameStart starts, parts⟩

/-- An identifier is read up to a character that is no part of one. -/
theorem identifier?_append (isIdentifier : IsIdentifier text)
    (stops : ∀ c, rest.head? = some c → isIdentifierPart c = false) :
    identifier? (text ++ rest) = some (text, rest) := by
  obtain ⟨c, more, rfl, starts, parts⟩ := isIdentifier
  have taken : rest.takeWhile isIdentifierPart = [] ∧ rest.dropWhile isIdentifierPart = rest := by
    cases rest with
    | nil => exact ⟨rfl, rfl⟩
    | cons d rest => simp [stops d rfl]
  rw [List.cons_append, identifier?, if_pos starts, List.takeWhile_append_of_pos parts,
    List.dropWhile_append_of_pos parts, taken.1, taken.2, List.append_nil]

theorem identifier?_eq_some {name : List Char} (found : identifier? text = some (name, rest)) :
    IsIdentifier name ∧ text = name ++ rest := by
  unfold identifier? at found
  split at found
  · split at found
    · rename_i c more starts
      cases found
      refine ⟨⟨c, _, rfl, starts, fun d => List.mem_takeWhile_imp⟩, ?_⟩
      rw [List.cons_append, List.takeWhile_append_dropWhile]
    · cases found
  · cases found

/-- A word is read together with the white space after it. -/
theorem afterWord?_append (word : List Char) (blank : AllBlank gap) (some_ : gap ≠ []) :
    afterWord? word (word ++ (gap ++ text)) = some (trimStart text) := by
  cases gap with
  | nil => exact absurd rfl some_
  | cons c gap =>
    have blanks := List.forall_mem_cons.mp blank
    have front : word.isPrefixOf (word ++ (c :: gap ++ text)) = true :=
      List.isPrefixOf_iff_prefix.mpr (List.prefix_append _ _)
    rw [afterWord?, if_pos front, List.drop_left, List.cons_append]
    simp only [blanks.1, if_true, trimStart_gap blanks.2]

theorem afterWord?_eq_some {word after : List Char} (found : afterWord? word text = some after) :
    ∃ c more, text = word ++ c :: more ∧ isBlank c ∧ after = trimStart more := by
  unfold afterWord? at found
  split_ifs at found with front
  obtain ⟨rest, rfl⟩ := List.isPrefixOf_iff_prefix.mp front
  rw [List.drop_left] at found
  split at found
  · rename_i c more
    split_ifs at found with blank
    cases found
    exact ⟨c, more, rfl, blank, rfl⟩
  · cases found

end TypeSchema
