/-
**Where declarations stand in a source.**

* `exists_of_mem_findAll`, `pairwise_findAll`, `end_le_of_findAll`: what a search finds stands where
  the pattern matches, and matches do not overlap;
* `AliasDeclaration.StandsIn`: the offsets of an alias follow each other, its right side has no
  white space around it, and its name can be read at its line and column;
* `standsIn_of_aliasAt?`: **every alias that is found stands in the source**;
* `readsAt_specifier`: **every name in braces can be read at its line and column**.
-/

import TypeSchema.Proofs.Source.Aliases
import TypeSchema.Proofs.Source.Identifiers

namespace TypeSchema

variable {α : Type} {pattern : Option Char → List Char → Option (α × Nat)} {before : Option Char}
  {source text : List Char} {offset skip : Nat} {found : α}

/-! ### Searches -/

/-- What a search finds stands where the pattern matches, behind all that is skipped. -/
theorem exists_of_mem_findAll {place : Nat}
    (isFound : (place, found) ∈ findAll pattern skip before offset text) :
    ∃ front back last width, text = front ++ back ∧ place = offset + front.length ∧
      skip ≤ front.length ∧ pattern last back = some (found, width) := by
  induction text generalizing skip before offset with
  | nil => cases isFound
  | cons c rest ih =>
    have later {skip more : Nat} (atMost : more ≤ skip + 1)
        (isFound : (place, found) ∈ findAll pattern skip (some c) (offset + 1) rest) :
        ∃ front back last width, c :: rest = front ++ back ∧ place = offset + front.length ∧
          more ≤ front.length ∧ pattern last back = some (found, width) := by
      obtain ⟨front, back, last, width, rfl, rfl, skipped, isMatch⟩ := ih isFound
      refine ⟨c :: front, back, last, width, rfl, ?_, ?_, isMatch⟩ <;>
      · rw [List.length_cons]
        omega
    cases skip with
    | succ skip => exact later (Nat.le_refl _) isFound
    | zero =>
      rw [findAll] at isFound
      cases isMatch : pattern before (c :: rest) with
      | none =>
        rw [isMatch] at isFound
        exact later (Nat.zero_le _) isFound
      | some result =>
        obtain ⟨first, width⟩ := result
        rw [isMatch] at isFound
        rcases List.mem_cons.mp isFound with same | isLater
        · cases same
          exact ⟨[], c :: rest, before, width, rfl, rfl, Nat.le_refl _, isMatch⟩
        · exact later (Nat.zero_le _) isLater

/-- **Matches follow each other and do not overlap.** -/
theorem pairwise_findAll {size : α → Nat}
    (fits : ∀ before text found width, pattern before text = some (found, width) →
      size found ≤ width) (skip : Nat) (before : Option Char) (offset : Nat) (text : List Char) :
    (findAll pattern skip before offset text).Pairwise fun first second =>
      first.1 < second.1 ∧ first.1 + size first.2 ≤ second.1 := by
  induction text generalizing skip before offset with
  | nil => exact .nil
  | cons c rest ih =>
    cases skip with
    | succ skip => exact ih skip (some c) (offset + 1)
    | zero =>
      rw [findAll]
      cases isMatch : pattern before (c :: rest) with
      | none => exact ih 0 (some c) (offset + 1)
      | some result =>
        obtain ⟨first, width⟩ := result
        refine .cons (fun other isLater => ?_) (ih (width - 1) (some c) (offset + 1))
        obtain ⟨front, -, -, -, -, place, skipped, -⟩ := exists_of_mem_findAll isLater
        have inside := fits _ _ _ _ isMatch
        dsimp only
        omega

theorem increasing_findAll (pattern : Option Char → List Char → Option (α × Nat)) (skip : Nat)
    (before : Option Char) (offset : Nat) (text : List Char) :
    (findAll pattern skip before offset text).Pairwise fun first second => first.1 < second.1 := by
  have fits (before : Option Char) (text : List Char) (found : α) (width : Nat)
      (_ : pattern before text = some (found, width)) : 0 ≤ width := Nat.zero_le width
  exact (pairwise_findAll fits skip before offset text).imp And.left

/-- Of two values of a list whose earlier values are related to the later ones, one is related to
the other. -/
theorem rel_or_rel_of_pairwise {related : α → α → Prop} {values : List α} {first second : α}
    (pairs : values.Pairwise related) (isFirst : first ∈ values) (isSecond : second ∈ values)
    (differ : first ≠ second) : related first second ∨ related second first :=
  have : Std.Symm fun a b => related a b ∨ related b a := ⟨fun _ _ => Or.symm⟩
  (pairs.imp (S := fun a b => related a b ∨ related b a) Or.inl).forall isFirst isSecond differ

/-- A match ends before the next one begins. -/
theorem end_le_of_findAll {size : α → Nat}
    (fits : ∀ before text found width, pattern before text = some (found, width) →
      size found ≤ width) {first second : Nat × α}
    (isFirst : first ∈ findAll pattern skip before offset text)
    (isSecond : second ∈ findAll pattern skip before offset text) (less : first.1 < second.1) :
    first.1 + size first.2 ≤ second.1 := by
  have pairs := pairwise_findAll fits skip before offset text
  have differ : first ≠ second := by
    rintro rfl
    exact Nat.lt_irrefl _ less
  rcases rel_or_rel_of_pairwise pairs isFirst isSecond differ with apart | apart
  · exact apart.2
  · exact absurd apart.1 (Nat.lt_asymm less)

/-! ### Names of aliases -/

theorem suffix_of_afterWord? {word after : List Char} (found : afterWord? word text = some after) :
    after <:+ text := by
  obtain ⟨c, more, rfl, -, rfl⟩ := afterWord?_eq_some found
  obtain ⟨gap, -, same, -⟩ := exists_trimStart more
  refine ⟨word ++ c :: gap, ?_⟩
  conv_rhs => rw [same]
  simp

/-- The name of an alias stands where the start of the alias says. -/
theorem aliasStart?_name {head : AliasStart} {width : Nat}
    (isMatch : aliasStart? before text = some (head, width)) :
    ∃ rest, identifier? (text.drop head.nameStart) = some (head.name, rest) ∧
      head.nameStart + head.name.length = head.nameStop ∧
      head.nameStop + rest.length = text.length ∧ head.nameStop = width := by
  rw [aliasStart?] at isMatch
  split_ifs at isMatch
  simp only [Option.bind_eq_bind, Option.bind_eq_some_iff, Option.pure_def, Option.some.injEq,
    Prod.exists, Prod.mk.injEq] at isMatch
  obtain ⟨start, isStart, name, rest, isName, rfl, rfl⟩ := isMatch
  obtain ⟨-, isText⟩ := identifier?_eq_some isName
  have behind : start <:+ text := by
    cases exports : afterWord? "export".toList text with
    | none =>
      rw [exports, Option.getD_none] at isStart
      exact suffix_of_afterWord? isStart
    | some rest =>
      rw [exports, Option.getD_some] at isStart
      exact (suffix_of_afterWord? isStart).trans (suffix_of_afterWord? exports)
  have size := behind.length_le
  have parts := congrArg List.length isText
  rw [List.length_append] at parts
  refine ⟨rest, ?_, ?_, ?_, rfl⟩
  · rw [← List.suffix_iff_eq_drop.mp behind, isName]
  · dsimp only
    omega
  · dsimp only
    omega

/-! ### Spans of aliases -/

/-- The right side of an alias ends before its statement does, and both end in the text. -/
theorem aliasEnd_bounds (before : Char) (depth : Nat) (last : Option Char) (offset : Nat)
    (text : List Char) :
    let ends := aliasEnd before depth last offset text
    offset ≤ ends.1 ∧ ends.1 ≤ ends.2 ∧ ends.2 ≤ offset + text.length := by
  fun_induction aliasEnd before depth last offset text
  all_goals simp only [List.length_cons] at *
  all_goals omega

theorem head?_slice (text : List Char) (start stop : Nat) :
    (slice text start stop).head? = if start < stop then text[start]? else none := by
  rw [slice, List.head?_drop, List.getElem?_take]

theorem getLast?_slice {start stop : Nat} (inside : stop ≤ text.length) :
    (slice text start stop).getLast? = if start < stop then text[stop - 1]? else none := by
  rw [slice, List.getLast?_drop, List.length_take_of_le inside]
  by_cases some_ : start < stop
  · obtain ⟨last, isLast⟩ : ∃ last, text[stop - 1]? = some last :=
      ⟨_, List.getElem?_eq_getElem (show stop - 1 < text.length by omega)⟩
    rw [if_neg (by omega), if_pos some_, List.getLast?_take, if_neg (by omega), isLast,
      Option.some_or]
  · rw [if_pos (by omega), if_neg some_]

/-- A text is what trimming leaves of it, with white space around it. -/
theorem exists_trim (text : List Char) :
    ∃ gap back, text = gap ++ (trim text ++ back) ∧
      gap.length + (trimStart text).length = text.length ∧
      (∀ c, (trim text).head? = some c → isBlank c = false) ∧
      ∀ c, (trim text).getLast? = some c → isBlank c = false := by
  obtain ⟨gap, -, isText, visible⟩ := exists_trimStart text
  obtain ⟨back, -, isStart, ends⟩ := exists_trimEnd (trimStart text)
  rw [← trim] at isStart ends
  refine ⟨gap, back, by rw [← isStart, ← isText], ?_, fun c first => ?_, fun c last => ?_⟩
  · have size := congrArg List.length isText
    rw [List.length_append] at size
    exact size.symm
  · refine visible c ?_
    rw [isStart, List.head?_append_of_ne_nil _ (by rintro none_; rw [none_] at first; cases first),
      first]
  · rcases ends with none_ | ⟨front, d, isTrim, isVisible⟩
    · rw [none_] at last
      cases last
    · rw [isTrim, List.getLast?_concat] at last
      cases last
      exact isVisible

/-- A part of a text is still a part of it once it is trimmed. -/
theorem slice_trim {whole : List Char} {start stop first : Nat}
    (isWhole : whole = slice text start stop) (inOrder : start ≤ stop)
    (inside : stop ≤ text.length)
    (isFirst : first = start + (whole.length - (trimStart whole).length)) :
    slice text first (first + (trim whole).length) = trim whole ∧
      first + (trim whole).length ≤ stop := by
  obtain ⟨gap, back, parts, gapSize, -⟩ := exists_trim whole
  have partSize := congrArg List.length parts
  have wholeSize : whole.length = stop - start := by
    rw [isWhole, slice, List.length_drop, List.length_take_of_le inside]
  rw [List.length_append, List.length_append] at partSize
  have front : (text.take start ++ gap).length = first := by
    rw [List.length_append, List.length_take_of_le (inOrder.trans inside)]
    omega
  have before : text.take stop = text.take start ++ whole := by
    rw [isWhole, slice]
    conv_lhs => rw [← List.take_append_drop start (text.take stop), List.take_take,
      Nat.min_eq_left inOrder]
  have split : text = (text.take start ++ gap) ++ (trim whole ++ (back ++ text.drop stop)) := by
    calc text = (text.take start ++ whole) ++ text.drop stop := by
          rw [← before, List.take_append_drop]
      _ = _ := by
        conv_lhs => rw [parts]
        simp only [List.append_assoc]
  refine ⟨?_, by omega⟩
  conv_lhs => rw [split]
  exact slice_middle _ _ _ front rfl

/-- The offsets of an alias follow each other in a source. -/
structure AliasDeclaration.StandsIn (declaration : AliasDeclaration) (source : List Char) :
    Prop where
  named : ReadsAt source declaration.position declaration.name
  place : declaration.start ≤ offsetAt source declaration.position
  nameEnd : offsetAt source declaration.position + declaration.name.toList.length <
    declaration.sideStart
  side : declaration.sideStart ≤ declaration.sideStop
  sideEnd : declaration.sideStop ≤ declaration.stop
  stop : declaration.stop ≤ source.length
  /-- The right side does not begin with white space. -/
  first : ∀ c, (slice source declaration.sideStart declaration.sideStop).head? = some c →
    isBlank c = false
  /-- The right side does not end with white space. -/
  last : ∀ c, (slice source declaration.sideStart declaration.sideStop).getLast? = some c →
    isBlank c = false

/-- A trimmed part of the mask of a source has no white space around it in the source. -/
theorem visible_slice {start stop : Nat} (inside : stop ≤ source.length)
    (first : ∀ c, (slice (mask source) start stop).head? = some c → isBlank c = false)
    (last : ∀ c, (slice (mask source) start stop).getLast? = some c → isBlank c = false) :
    (∀ c, (slice source start stop).head? = some c → isBlank c = false) ∧
      ∀ c, (slice source start stop).getLast? = some c → isBlank c = false := by
  have shown (place : Nat) (fits : place < source.length)
      (visible : ∀ c, (mask source)[place]? = some c → isBlank c = false) :
      ∀ c, source[place]? = some c → isBlank c = false := by
    intro c found
    obtain ⟨d, isShown⟩ : ∃ d, (mask source)[place]? = some d :=
      ⟨_, List.getElem?_eq_getElem (by rwa [length_mask])⟩
    have isVisible := visible d isShown
    have noSpace : d ≠ ' ' := by
      rintro rfl
      cases isVisible
    cases found.symm.trans (getElem?_of_mask isShown noSpace)
    exact isVisible
  rw [getLast?_slice inside, head?_slice]
  rw [getLast?_slice (by rwa [length_mask])] at last
  rw [head?_slice] at first
  by_cases some_ : start < stop
  · simp only [if_pos some_] at first last ⊢
    exact ⟨shown start (by omega) first, shown (stop - 1) (by omega) last⟩
  · simp only [if_neg some_]
    exact ⟨nofun, nofun⟩

/-- What an alias is made of: the offset of its right side, and what is seen of that. -/
theorem aliasAt?_eq_some {masked : List Char} {head : AliasStart} {declaration : AliasDeclaration}
    (found : aliasAt? source masked offset head = some declaration) :
    ∃ side ends whole, rightSideStart? masked (offset + head.nameStop) = some side ∧
      ends = aliasEnd '=' 0 none side (masked.drop side) ∧ whole = slice masked side ends.1 ∧
      declaration = {
        name := String.ofList head.name
        exported := head.exported
        position := positionAt source (offset + head.nameStart : Nat)
        start := offset
        stop := ends.2
        sideStart := side + (whole.length - (trimStart whole).length)
        sideStop := side + (whole.length - (trimStart whole).length) + (trim whole).length } := by
  rw [aliasAt?] at found
  split_ifs at found
  cases isSide : rightSideStart? masked (offset + head.nameStop) with
  | none =>
    rw [isSide] at found
    cases found
  | some side =>
    rw [isSide] at found
    refine ⟨side, _, _, rfl, rfl, rfl, ?_⟩
    dsimp only at found
    split at found <;> cases found <;> rfl

/-- **Every alias that is found stands in the source**, with its name behind its beginning. -/
theorem standsIn_of_aliasAt? {head : AliasStart} {front back : List Char} {width : Nat}
    {declaration : AliasDeclaration} (isText : mask source = front ++ back)
    (starts : aliasStart? before back = some (head, width))
    (found : aliasAt? source (mask source) front.length head = some declaration) :
    declaration.StandsIn source ∧ declaration.start = front.length ∧
      declaration.exported = head.exported ∧
      offsetAt source declaration.position = front.length + head.nameStart := by
  obtain ⟨rest, isName, nameStop, length, -⟩ := aliasStart?_name starts
  have size := congrArg List.length isText
  rw [length_mask, List.length_append] at size
  have behind : identifier? ((mask source).drop (front.length + head.nameStart)) =
      some (head.name, rest) := by rw [isText, ← List.drop_drop, List.drop_left, isName]
  obtain ⟨place, reads⟩ := readsAt_of_mask behind
  obtain ⟨side, ends, whole, isSide, isEnd, isWhole, rfl⟩ := aliasAt?_eq_some found
  obtain ⟨sign, more, isMask, rfl, isBefore⟩ := rightSideStart?_eq_some isSide
  have atLeast := isBefore.length_le
  rw [List.length_take_of_le (by rw [length_mask]; omega)] at atLeast
  have inside := congrArg List.length isMask
  rw [length_mask, List.length_append, List.length_cons] at inside
  obtain ⟨later, ordered, stops⟩ := aliasEnd_bounds '=' 0 none (sign.length + 1)
    ((mask source).drop (sign.length + 1))
  rw [← isEnd] at later ordered stops
  rw [List.length_drop, length_mask] at stops
  -- The right side is what trimming leaves between the equals sign and its end.
  obtain ⟨trimmed, within⟩ := slice_trim isWhole later (by rw [length_mask]; omega) rfl
  obtain ⟨gap, after, -, -, first, last⟩ := exists_trim whole
  rw [← trimmed] at first last
  have visible := visible_slice (by omega) first last
  refine ⟨⟨reads, ?_, ?_, Nat.le_add_right _ _, ?_, ?_, visible.1, visible.2⟩, rfl, rfl, place⟩
  all_goals dsimp only
  · rw [place]
    omega
  · rw [place, String.toList_ofList]
    omega
  · omega
  · omega

/-! ### Names in braces -/

/-- The names of a block stand between its braces. -/
theorem specifierBlock?_eq_some {block : SpecifierBlock} {width : Nat}
    (isMatch : specifierBlock? before text = some (block, width)) :
    ∃ head after, text = head ++ '\x7b' :: (block.body ++ '\x7d' :: after) ∧
      block.bodyStart = head.length + 1 ∧ block.bodyStart + block.body.length < width := by
  rw [specifierBlock?] at isMatch
  split_ifs at isMatch
  simp only [Option.bind_eq_bind, Option.bind_eq_some_iff] at isMatch
  obtain ⟨rest, isRest, isMatch⟩ := isMatch
  split_ifs at isMatch with isType
  split at isMatch
  case h_2 => cases isMatch
  rename_i inside opens
  split at isMatch
  case h_2 => cases isMatch
  rename_i brace after closes
  have suffix : ('\x7b' :: inside) <:+ text := by
    have behind : rest <:+ text := by
      rcases Option.or_eq_some_iff.mp isRest with isExport | ⟨-, isImport⟩
      · exact suffix_of_afterWord? isExport
      · exact suffix_of_afterWord? isImport
    obtain ⟨gap, -, same, -⟩ := exists_trimStart (rest.drop 4)
    rw [opens] at same
    exact ((List.suffix_append gap _).trans (same ▸ List.drop_suffix 4 rest)).trans behind
  obtain ⟨head, rfl⟩ := suffix
  have parts : inside = inside.takeWhile (· != '\x7d') ++ brace :: after := by
    rw [← closes]
    exact (List.prefix_iff_eq_append.mp (List.takeWhile_prefix _)).symm
  have isBrace : brace = '\x7d' := by
    have dropped : inside.dropWhile (· != '\x7d') = brace :: after :=
      List.append_cancel_left (List.takeWhile_append_dropWhile.trans parts)
    have first := List.head?_dropWhile_not (· != '\x7d') inside
    rw [dropped] at first
    simpa using first
  subst isBrace
  have size := congrArg List.length parts
  have start : (head ++ '\x7b' :: inside).length - inside.length = head.length + 1 := by
    rw [List.length_append, List.length_cons]
    omega
  have reach : head.length + 1 + (inside.takeWhile (· != '\x7d')).length <
      (head ++ '\x7b' :: inside).length - after.length := by
    simp only [List.length_append, List.length_cons] at size ⊢
    omega
  split at isMatch <;> cases isMatch
  all_goals
    dsimp only
    rw [start]
    exact ⟨head, after, congrArg (fun text => head ++ '\x7b' :: text) parts, rfl, by omega⟩

theorem specifier?_eq_some {specifier : Specifier} {width : Nat}
    (isMatch : specifier? before text = some (specifier, width)) :
    ∃ rest, identifier? text = some (specifier.given, rest) := by
  simp only [specifier?, Option.bind_eq_bind, Option.bind_eq_some_iff, Prod.exists] at isMatch
  obtain ⟨given, rest, isName, isMatch⟩ := isMatch
  split at isMatch <;> cases isMatch <;> exact ⟨rest, isName⟩

/-- **Every name in braces can be read at its line and column**, and ends before the brace. -/
theorem readsAt_specifier {front back : List Char} {block : SpecifierBlock} {width place : Nat}
    {specifier : Specifier} (isText : mask source = front ++ back)
    (isMatch : specifierBlock? before back = some (block, width))
    (listed : (place, specifier) ∈ findAll specifier? 0 none 0 block.body) :
    let position := positionAt source (front.length + block.bodyStart + place : Nat)
    ReadsAt source position (String.ofList specifier.given) ∧
      offsetAt source position = front.length + block.bodyStart + place ∧
      place < block.body.length := by
  obtain ⟨head, after, rfl, start, -⟩ := specifierBlock?_eq_some isMatch
  obtain ⟨skipped, others, last, size, isBody, isPlace, -, reads⟩ := exists_of_mem_findAll listed
  rw [Nat.zero_add] at isPlace
  subst isPlace
  obtain ⟨rest, isName⟩ := specifier?_eq_some reads
  obtain ⟨isIdentifier, rfl⟩ := identifier?_eq_some isName
  have seen : identifier? ((mask source).drop
      (front.length + block.bodyStart + skipped.length)) =
        some (specifier.given, rest ++ '\x7d' :: after) := by
    have split : mask source = (front ++ (head ++ '\x7b' :: skipped)) ++
        (specifier.given ++ (rest ++ '\x7d' :: after)) := by
      rw [isText, isBody]
      simp
    have behind : (front ++ (head ++ '\x7b' :: skipped)).length =
        front.length + block.bodyStart + skipped.length := by
      simp only [List.length_append, List.length_cons, start]
      omega
    rw [split, ← behind, List.drop_left]
    refine identifier?_append isIdentifier fun c first => ?_
    cases rest with
    | nil =>
      cases first
      decide
    | cons d rest =>
      cases first
      exact identifier?_rest isName _ rfl
  obtain ⟨isOffset, isRead⟩ := readsAt_of_mask seen
  obtain ⟨c, more, same, -⟩ := isIdentifier
  have parts := congrArg List.length isBody
  rw [same, List.length_append, List.length_append, List.length_cons] at parts
  exact ⟨isRead, isOffset, by omega⟩

end TypeSchema
