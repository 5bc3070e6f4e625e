/-
**Masking, piece by piece.**

* `MasksTo`: how a text is masked, whatever follows it, and whether what follows stands inside a
  flow comment;
* `masksTo_code`, `masksTo_string`, `masksTo_lineComment`, `masksTo_blockComment`,
  `masksTo_opener`, `masksTo_closer`: code stays, the inside of a string and a comment become
  spaces, and the marks of a flow comment open and close it;
* `positionAt_mask`: **masking moves no line feed**, so that places keep their lines and columns.
-/

import Mathlib.Tactic.ByContra
import Mathlib.Tactic.SplitIfs
import Mathlib.Tactic.Tauto
import TypeSchema.Proofs.TypeExpr.Grammar
import TypeSchema.Source.Mask
import TypeSchema.Text.Position

namespace TypeSchema

variable {inFlow middle after : Bool} {c quote : Char} {text masked other shown rest : List Char}

/-! ### One piece of a text -/

theorem flowOpener?_eq_some {opener : List Char} (opens : flowOpener? text = some opener) :
    opener ∈ flowOpeners ∧ opener <+: text := by
  unfold flowOpener? at opens
  have isFront : opener.isPrefixOf text = true :=
    @List.find?_some _ (fun opener : List Char => opener.isPrefixOf text) _ _ opens
  exact ⟨List.mem_of_find?_eq_some opens, List.isPrefixOf_iff_prefix.mp isFront⟩

theorem length_flowOpener_pos {opener : List Char} (isOpener : opener ∈ flowOpeners) :
    0 < opener.length := by
  revert opener
  decide

theorem flowOpener_marks : ∀ opener ∈ flowOpeners,
    opener = '/' :: '*' :: opener.drop 2 ∧ '*' ∉ opener.drop 2 := by decide

/-- What replaces the front of a text keeps the lines, if what replaces the rest does. -/
theorem map_newline_front {front back : List Char} (count : Nat)
    (isFront : front.map (· == '\n') = (text.take count).map (· == '\n'))
    (isBack : back.map (· == '\n') = (text.drop count).map (· == '\n')) :
    (front ++ back).map (· == '\n') = text.map (· == '\n') := by
  rw [List.map_append, isFront, isBack, ← List.map_append, List.take_append_drop]

theorem map_newline_blanked (text : List Char) :
    (blanked text).map (· == '\n') = text.map (· == '\n') := by
  rw [blanked, List.map_map]
  refine List.map_congr_left fun c _ => ?_
  by_cases line : c = '\n' <;> simp [line]

/-- **Masking moves no line feed.** -/
theorem map_newline_maskFrom (inFlow : Bool) (text : List Char) :
    (maskFrom inFlow text).map (· == '\n') = text.map (· == '\n') := by
  fun_induction maskFrom inFlow text with
  | case1 => rfl
  | case2 inFlow c rest closes ih =>
    rw [if_pos closes]
    obtain ⟨more, same⟩ := List.isPrefixOf_iff_prefix.mp closes.2
    cases same
    simpa using ih
  | case3 inFlow c rest opener goesOn opens ih =>
    rw [dite_eq_ite] at opens
    rw [if_neg goesOn, opens]
    have isOpener : opener ∈ flowOpeners ∧ opener <+: c :: rest := by
      split_ifs at opens
      exact flowOpener?_eq_some opens
    obtain ⟨more, same⟩ := isOpener.2
    have front : (c :: rest).take opener.length = opener := by rw [← same, List.take_left]
    obtain ⟨count, isCount⟩ := Nat.exists_eq_add_of_lt (length_flowOpener_pos isOpener.1)
    rw [Nat.zero_add] at isCount
    refine map_newline_front opener.length ?_ ?_
    · rw [map_newline_blanked, front]
    · rw [ih, isCount, List.drop_succ_cons, Nat.add_sub_cancel]
  | case4 inFlow c rest goesOn noFlow comment width ih =>
    rw [dite_eq_ite] at noFlow
    rw [if_neg goesOn, noFlow, if_pos comment]
    exact map_newline_front width (map_newline_blanked _) ih
  | case5 inFlow c rest goesOn noFlow noBlock comment width ih =>
    rw [dite_eq_ite] at noFlow
    rw [if_neg goesOn, noFlow, if_neg noBlock, if_pos comment]
    have some_ : 0 < width := by
      obtain ⟨more, same⟩ := List.isPrefixOf_iff_prefix.mp comment
      cases same
      simp [width]
    obtain ⟨count, isCount⟩ := Nat.exists_eq_add_of_lt some_
    rw [Nat.zero_add] at isCount
    refine map_newline_front width (map_newline_blanked _) (ih.trans ?_)
    rw [isCount, List.drop_succ_cons, Nat.add_sub_cancel]
  | case6 inFlow c rest quote width goesOn noFlow noBlock noLine ih =>
    rw [dite_eq_ite] at noFlow
    rw [if_neg goesOn, noFlow, if_neg noBlock, if_neg noLine, if_pos quote]
    have body : (blanked (rest.take width) ++ (rest.drop width).take 1).map (· == '\n') =
        (rest.take (width + 1)).map (· == '\n') := by
      rw [List.map_append, map_newline_blanked, ← List.map_append, ← List.take_add]
    exact congrArg (List.cons (c == '\n')) (map_newline_front (width + 1) body ih)
  | case7 inFlow c rest noQuote goesOn noFlow noBlock noLine ih =>
    rw [dite_eq_ite] at noFlow
    rw [if_neg goesOn, noFlow, if_neg noBlock, if_neg noLine, if_neg noQuote]
    exact congrArg (List.cons (c == '\n')) ih

theorem length_mask (source : List Char) : (mask source).length = source.length := by
  have same := congrArg List.length (map_newline_maskFrom false source)
  rwa [List.length_map, List.length_map] at same

theorem count_newline (text : List Char) :
    text.count '\n' = (text.map (· == '\n')).count true := by
  rw [List.count, List.count, List.countP_map]
  exact List.countP_congr fun c _ => by simp

theorem length_lastLine (text : List Char) :
    (lastLine text).length = ((text.map (· == '\n')).reverse.takeWhile (! ·)).length := by
  rw [lastLine, List.length_reverse, ← List.map_reverse, List.takeWhile_map, List.length_map]
  rfl

/-- A place has its line and column by where the line feeds are. -/
theorem positionAt_congr (same : text.map (· == '\n') = other.map (· == '\n')) (offset : Int) :
    positionAt text offset = positionAt other offset := by
  have length : text.length = other.length := by simpa using congrArg List.length same
  have before (count : Nat) : (text.take count).map (· == '\n') =
      (other.take count).map (· == '\n') := by rw [List.map_take, List.map_take, same]
  simp only [positionAt, count_newline, length_lastLine, before, List.length_take, length]

/-- **A masked source has the lines and columns of the source.** -/
theorem positionAt_mask (source : List Char) (offset : Int) :
    positionAt (mask source) offset = positionAt source offset :=
  positionAt_congr (map_newline_maskFrom false source) offset

/-! ### One piece at a time -/

/-- A text is masked in this way, whatever follows it. -/
def MasksTo (inFlow : Bool) (text masked : List Char) (after : Bool) : Prop :=
  ∀ rest, maskFrom inFlow (text ++ rest) = masked ++ maskFrom after rest

theorem mask_of_masksTo (masks : MasksTo false text masked after) : mask text = masked := by
  have all := masks []
  rw [List.append_nil] at all
  rw [mask, all, maskFrom, List.append_nil]

theorem masksTo_nil : MasksTo inFlow [] [] inFlow := fun _ => rfl

theorem MasksTo.append (first : MasksTo inFlow text masked middle)
    (second : MasksTo middle other shown after) :
    MasksTo inFlow (text ++ other) (masked ++ shown) after := by
  intro rest
  rw [List.append_assoc, first, second, List.append_assoc]

/-- A character that neither opens a string or a comment nor closes a comment. -/
def isCode (c : Char) : Bool := !opensString c && c != '/' && c != '*'

/-- The characters of a class are code if none that is not code belongs to the class. -/
theorem isCode_of_class {isMember : Char → Bool} (member : isMember c)
    (outside : ∀ d ∈ ['\'', '"', '\x60', '/', '*'], isMember d = false) : isCode c := by
  by_contra noCode
  have special : c ∈ ['\'', '"', '\x60', '/', '*'] := by
    simp only [isCode, opensString] at noCode
    simp
    simp at noCode
    tauto
  rw [outside c special] at member
  cases member

theorem flowOpener?_eq_none (other : c ≠ '/') : flowOpener? (c :: rest) = none := by
  simp [flowOpener?, flowOpeners, List.isPrefixOf, other.symm]

theorem masksTo_char (code : isCode c) : MasksTo inFlow [c] [c] inFlow := by
  intro rest
  simp only [isCode, Bool.and_eq_true, Bool.not_eq_true', bne_iff_ne] at code
  obtain ⟨⟨noQuote, noSlash⟩, noStar⟩ := code
  rw [List.singleton_append, List.singleton_append, maskFrom]
  simp [List.isPrefixOf, flowOpener?_eq_none noSlash, noSlash.symm, noStar.symm, noQuote]

/-- **Code stays as it is.** -/
theorem masksTo_code (code : ∀ c ∈ text, isCode c) : MasksTo inFlow text text inFlow := by
  induction text with
  | nil => exact masksTo_nil
  | cons c rest ih =>
    rw [List.forall_mem_cons] at code
    exact (masksTo_char code.1).append (ih code.2)

/-- A text that is masked alike inside and outside of flow comments, whatever follows it. -/
def Steady (text : List Char) : Prop := ∀ inFlow, MasksTo inFlow text (mask text) inFlow

theorem steady_of_masksTo (masks : ∀ inFlow, MasksTo inFlow text masked inFlow) :
    Steady text ∧ mask text = masked := by
  have same : mask text = masked := mask_of_masksTo (masks false)
  exact ⟨fun inFlow => same ▸ masks inFlow, same⟩

theorem steady_of_code (code : ∀ c ∈ text, isCode c) :
    Steady text ∧ mask text = text := steady_of_masksTo fun _ => masksTo_code code

theorem Steady.append (first : Steady text) (second : Steady other) :
    Steady (text ++ other) ∧
      mask (text ++ other) = mask text ++ mask other :=
  steady_of_masksTo fun inFlow => (first inFlow).append (second inFlow)

/-! ### Strings -/

theorem notMem_body (isBody : IsStringBody quote text) : '\n' ∉ text := by
  induction isBody with
  | nil => exact List.not_mem_nil
  | plain _ _ notLine _ ih => simp [ih, notLine.symm]
  | escaped notLine _ ih => simp [ih, notLine.symm]

theorem stringWidth_body (isQuote : quote = '"' ∨ quote = '\'')
    (isBody : IsStringBody quote text) :
    stringWidth quote (text ++ quote :: rest) = text.length := by
  have notEscape : quote ≠ '\\' := by rintro rfl; simp at isQuote
  induction isBody with
  | nil =>
    rw [List.nil_append, stringWidth]
    · simp
    · exact fun _ _ same _ => notEscape same
  | @plain c more notQuote escape notLine _ ih =>
    rw [List.cons_append, stringWidth]
    · simp [notQuote, notLine, ih]
    · exact fun _ _ same _ => escape same
  | escaped notLine _ ih =>
    rw [List.cons_append, List.cons_append, stringWidth, ih]
    rfl

theorem blanked_of_notMem (oneLine : '\n' ∉ text) : blanked text = List.replicate text.length ' ' := by
  induction text with
  | nil => rfl
  | cons c rest ih =>
    rw [List.mem_cons, not_or] at oneLine
    rw [blanked, List.map_cons, if_neg (Ne.symm oneLine.1), ← blanked, ih oneLine.2]
    rfl

/-- **The inside of a string becomes spaces.** -/
theorem masksTo_string (isQuote : quote = '"' ∨ quote = '\'') (isBody : IsStringBody quote text) :
    MasksTo inFlow (quote :: (text ++ [quote]))
      (quote :: (List.replicate text.length ' ' ++ [quote])) inFlow := by
  intro rest
  have width := @stringWidth_body _ _ rest isQuote isBody
  have noSlash : quote ≠ '/' := by rintro rfl; simp at isQuote
  have noStar : quote ≠ '*' := by rintro rfl; simp at isQuote
  have opens : opensString quote = true := by rcases isQuote with rfl | rfl <;> rfl
  have whole : quote :: (text ++ [quote]) ++ rest = quote :: (text ++ quote :: rest) := by simp
  rw [whole, maskFrom]
  simp [List.isPrefixOf, flowOpener?_eq_none noSlash, noSlash.symm, noStar.symm, opens, width,
    blanked_of_notMem (notMem_body isBody), List.drop_append, List.drop_eq_nil_of_le]

/-! ### Comments -/

/-- **A comment up to the end of its line** becomes spaces. -/
theorem masksTo_lineComment (oneLine : '\n' ∉ text) :
    MasksTo inFlow ('/' :: '/' :: (text ++ ['\n'])) (blanked ('/' :: '/' :: (text ++ ['\n'])))
      inFlow := by
  intro rest
  have each : ∀ c ∈ '/' :: '/' :: text, decide (c ≠ '\n') = true := by
    intro c member
    rw [decide_eq_true_eq]
    rintro rfl
    simp [oneLine] at member
  have front : ('/' :: '/' :: (text ++ '\n' :: rest)).takeWhile (· ≠ '\n') = '/' :: '/' :: text := by
    rw [← List.cons_append, ← List.cons_append, List.takeWhile_append_of_pos each]
    simp
  have noFlow : flowOpener? ('/' :: '/' :: (text ++ '\n' :: rest)) = none := by
    simp [flowOpener?, flowOpeners, List.isPrefixOf]
  have last := @masksTo_char inFlow '\n' (by decide) rest
  rw [List.singleton_append] at last
  have whole : '/' :: '/' :: (text ++ ['\n']) ++ rest = '/' :: '/' :: (text ++ '\n' :: rest) := by
    simp
  rw [whole, maskFrom, front]
  simp [List.isPrefixOf, noFlow, blanked, last]

theorem commentWidth_append (noEnd : ¬ ['*', '/'] <:+: text) :
    commentWidth (text ++ '*' :: '/' :: rest) = text.length + 2 := by
  induction text with
  | nil => rfl
  | cons c more ih =>
    have later : ¬ ['*', '/'] <:+: more := fun inside =>
      noEnd (inside.trans (List.suffix_cons c more).isInfix)
    rw [List.cons_append, commentWidth, ih later, List.length_cons]
    rintro after rfl isEnd
    cases more with
    | nil => simp at isEnd
    | cons d more =>
      rw [List.cons_append, List.cons.injEq] at isEnd
      exact noEnd ⟨[], more, by rw [isEnd.1]; rfl⟩

/-- What begins a text that goes on with another character stands before that character. -/
theorem prefix_of_append {word : List Char} (front : word <+: text ++ c :: rest)
    (other : c ∉ word) : word <+: text := by
  by_contra outside
  have longer : (text ++ [c]).length ≤ word.length := by
    rw [List.length_append, List.length_singleton]
    by_contra short
    exact outside (List.prefix_of_prefix_length_le front (List.prefix_append _ _) (by omega))
  have whole : text ++ [c] <+: text ++ c :: rest := ⟨rest, by simp⟩
  have inside := List.prefix_of_prefix_length_le whole front longer
  exact other (inside.subset (List.mem_append_right _ List.mem_cons_self))

/-- **A comment between its marks** becomes spaces. -/
theorem masksTo_blockComment (noEnd : ¬ ['*', '/'] <:+: text)
    (noFlow : ∀ opener ∈ flowOpeners, ¬ opener.drop 2 <+: text) :
    MasksTo inFlow ('/' :: '*' :: (text ++ ['*', '/']))
      (blanked ('/' :: '*' :: (text ++ ['*', '/']))) inFlow := by
  intro rest
  have width := @commentWidth_append _ rest noEnd
  have notFlow : flowOpener? ('/' :: '*' :: (text ++ '*' :: '/' :: rest)) = none := by
    by_contra some_
    obtain ⟨opener, opens⟩ := Option.ne_none_iff_exists'.mp some_
    obtain ⟨isOpener, front⟩ := flowOpener?_eq_some opens
    obtain ⟨marks, noStar⟩ := flowOpener_marks opener isOpener
    rw [marks, List.cons_prefix_cons, List.cons_prefix_cons] at front
    exact noFlow opener isOpener (prefix_of_append front.2.2 noStar)
  have whole : '/' :: '*' :: (text ++ ['*', '/']) ++ rest =
      '/' :: '*' :: (text ++ '*' :: '/' :: rest) := by simp
  have taken : ∀ tail, (text ++ tail).take (text.length + 2) = text ++ tail.take 2 :=
    fun tail => by rw [List.take_append, Nat.add_sub_cancel_left, List.take_of_length_le (by omega)]
  have dropped : ∀ tail, (text ++ tail).drop (text.length + 2) = tail.drop 2 :=
    fun tail => by rw [List.drop_append, Nat.add_sub_cancel_left, List.drop_of_length_le (by omega),
      List.nil_append]
  rw [whole, maskFrom]
  simp [List.isPrefixOf, notFlow, width, taken, dropped, blanked]

/-- **A mark opens a flow comment.** -/
theorem masksTo_opener {opener : List Char} (isOpener : opener ∈ flowOpeners) :
    MasksTo false opener (blanked opener) true := by
  intro rest
  have opens : flowOpener? (opener ++ rest) = some opener := by
    simp only [flowOpeners, List.mem_cons, List.not_mem_nil, or_false] at isOpener
    rcases isOpener with rfl | rfl <;> rfl
  obtain ⟨c, more, same⟩ := List.exists_cons_of_length_pos (length_flowOpener_pos isOpener)
  rw [same, List.cons_append] at opens ⊢
  rw [maskFrom]
  simp [opens]

/-- **A mark closes a flow comment.** -/
theorem masksTo_closer : MasksTo true ['*', '/'] (blanked ['*', '/']) false := by
  intro rest
  show maskFrom true ('*' :: '/' :: rest) = _
  rw [maskFrom]
  simp [List.isPrefixOf, blanked]

end TypeSchema
