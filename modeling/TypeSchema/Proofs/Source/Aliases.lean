/-
**The aliases of a module.**

* `aliasEnd_side`: the right side of a definition ends at its semicolon;
* `aliasAt?_define`: a definition is read as it is written;
* `aliasAt?_eq_none`: words that look like the start of a definition are none without an equals sign
  right behind them;
* `findAliases_moduleText`: **the aliases that are found in a module are those it defines**.
-/

import TypeSchema.Proofs.Source.Walk

namespace TypeSchema

variable {c : Char} {source text rest back front gap pre side : List Char} {before : Option Char}
  {exported : Bool} {name : List Char}

/-! ### The start of a definition -/

theorem typeWord_eq : StatementText.typeWord = "type".toList ++ [' '] := rfl

theorem equalsSign_eq : StatementText.equalsSign = [' ', '=', ' '] := rfl

theorem exportWord_true : StatementText.exportWord true = "export".toList ++ [' '] := rfl

theorem allBlank_space : AllBlank [' '] := List.forall_mem_singleton.mpr (by decide)

/-- The start of a definition. -/
def startOf (exported : Bool) (name : List Char) : AliasStart where
  exported
  name
  nameStart := (StatementText.exportWord exported).length + 5
  nameStop := (StatementText.exportWord exported).length + 5 + name.length

/-- The start of a definition is found with its name. -/
theorem aliasStart?_define (mayBegin : mayBeginWord before) (isIdentifier : IsIdentifier name)
    (stops : ∀ c, rest.head? = some c → isIdentifierPart c = false) (exported : Bool) :
    aliasStart? before (StatementText.exportWord exported ++ (StatementText.typeWord ++ (name ++ rest))) =
      some (startOf exported name, (startOf exported name).nameStop) := by
  have nameText : trimStart (name ++ rest) = name ++ rest := by
    obtain ⟨c, more, rfl, starts, -⟩ := isIdentifier
    exact trimStart_visible (not_isBlank_of_isNameStart starts)
  have word : afterWord? "type".toList (StatementText.typeWord ++ (name ++ rest)) =
      some (name ++ rest) := by
    rw [typeWord_eq, List.append_assoc, afterWord?_append _ allBlank_space (List.cons_ne_nil _ _),
      nameText]
  have found := identifier?_append isIdentifier stops
  have size : (StatementText.exportWord exported ++ (StatementText.typeWord ++ (name ++ rest))).length =
      (StatementText.exportWord exported).length + 5 + name.length + rest.length := by
    simp only [List.length_append]
    have word : StatementText.typeWord.length = 5 := rfl
    omega
  have start : (StatementText.exportWord exported ++ (StatementText.typeWord ++ (name ++ rest))).length -
      (name ++ rest).length = (StatementText.exportWord exported).length + 5 := by
    rw [size, List.length_append]
    omega
  have stop : (StatementText.exportWord exported ++ (StatementText.typeWord ++ (name ++ rest))).length -
      rest.length = (StatementText.exportWord exported).length + 5 + name.length := by
    rw [size]
    omega
  rw [aliasStart?, if_pos mayBegin]
  cases exported with
  | true =>
    have head : afterWord? "export".toList
        (StatementText.exportWord true ++ (StatementText.typeWord ++ (name ++ rest))) =
          some (StatementText.typeWord ++ (name ++ rest)) := by
      rw [exportWord_true, List.append_assoc,
        afterWord?_append _ allBlank_space (List.cons_ne_nil _ _)]
      rfl
    simp only [head, word, found, Option.getD_some, Option.bind_eq_bind, Option.bind_some,
      Option.isSome_some]
    rw [start, stop]
    rfl
  | false =>
    have head : afterWord? "export".toList
        (StatementText.exportWord false ++ (StatementText.typeWord ++ (name ++ rest))) = none := rfl
    have wordHere : afterWord? "type".toList
        (StatementText.exportWord false ++ (StatementText.typeWord ++ (name ++ rest))) =
          some (name ++ rest) := word
    simp only [head, wordHere, found, Option.getD_none, Option.bind_eq_bind, Option.bind_some,
      Option.isSome_none]
    rw [start, stop]
    rfl

/-- What looks like the start of a definition: words, the second last of which is joined to the
name. -/
theorem aliasStart?_eq_some {found : AliasStart} {width : Nat}
    (isMatch : aliasStart? before text = some (found, width)) :
    ∃ head gap name rest, text = head ++ 'e' :: (gap ++ (name ++ rest)) ∧
      (∀ c ∈ head, isIdentifierPart c ∨ isBlank c) ∧ AllBlank gap ∧ gap ≠ [] ∧
      IsIdentifier name ∧ found.nameStop = width ∧ width + rest.length = text.length := by
  rw [aliasStart?] at isMatch
  split_ifs at isMatch
  simp only [Option.bind_eq_bind, Option.bind_eq_some_iff, Option.pure_def, Option.some.injEq,
    Prod.exists, Prod.mk.injEq] at isMatch
  obtain ⟨start, isStart, name, rest, isName, rfl, rfl⟩ := isMatch
  obtain ⟨isIdentifier, rfl⟩ := identifier?_eq_some isName
  obtain ⟨c, more, isType, blank, same⟩ := afterWord?_eq_some isStart
  obtain ⟨gap, isGap, isMore, -⟩ := exists_trimStart more
  rw [← same] at isMore
  subst isMore
  have blanks : AllBlank (c :: gap) := List.forall_mem_cons.mpr ⟨blank, isGap⟩
  have words : ∀ d ∈ ['t', 'y', 'p'], isIdentifierPart d ∨ isBlank d :=
    forall_mem_of_all (by decide)
  have shorter {text : List Char} (behind : ∃ front, text = front ++ rest) :
      text.length - rest.length + rest.length = text.length := by
    obtain ⟨front, rfl⟩ := behind
    rw [List.length_append, Nat.add_sub_cancel]
  cases exports : afterWord? "export".toList text with
  | none =>
    rw [exports, Option.getD_none] at isType
    subst isType
    refine ⟨['t', 'y', 'p'], c :: gap, name, rest, rfl, words, blanks, List.cons_ne_nil _ _,
      isIdentifier, rfl, shorter ⟨"type".toList ++ c :: (gap ++ name), by simp⟩⟩
  | some head =>
    obtain ⟨d, after, rfl, blankAfter, sameHead⟩ := afterWord?_eq_some exports
    obtain ⟨space, isSpace, isAfter, -⟩ := exists_trimStart after
    rw [exports, Option.getD_some] at isType
    rw [← sameHead, isType] at isAfter
    subst isAfter
    refine ⟨"export".toList ++ (d :: (space ++ ['t', 'y', 'p'])), c :: gap, name, rest, ?_, ?_,
      blanks, List.cons_ne_nil _ _, isIdentifier, rfl, shorter ⟨"export".toList ++ d ::
        (space ++ ("type".toList ++ c :: (gap ++ name))), by simp⟩⟩
    · simp
    · refine List.forall_mem_append.mpr ⟨forall_mem_of_all (by decide),
        List.forall_mem_cons.mpr ⟨.inr blankAfter, ?_⟩⟩
      exact List.forall_mem_append.mpr ⟨fun e member => .inr (isSpace e member), words⟩

theorem findsJoined_aliasStart : FindsJoined aliasStart? := by
  intro before text found isMatch
  obtain ⟨head, gap, name, rest, same, words, blanks, some_, isIdentifier, -⟩ :=
    aliasStart?_eq_some isMatch
  refine ⟨head, 'e', gap ++ (name ++ rest), same, ?_, by decide, ?_, ?_⟩
  · exact List.forall_mem_append.mpr ⟨words, forall_mem_of_all (by decide)⟩
  · obtain ⟨c, more, rfl⟩ := List.exists_cons_of_ne_nil some_
    exact blanks c List.mem_cons_self
  · obtain ⟨c, more, rfl, starts, -⟩ := isIdentifier
    rw [trimStart_gap blanks, List.cons_append,
      trimStart_visible (not_isBlank_of_isNameStart starts)]
    exact starts

/-! ### The end of a right side -/

/-- The end of a right side, from a place in it on. -/
theorem aliasEnd_from (noEquals : '=' ∉ mask side) (breaks : BreaksAtBars side)
    (level : textLevel 0 (mask side) = some 0) (rest : List Char) {front back : List Char}
    (split : mask side = front ++ back) {depth : Nat} (reached : textLevel 0 front = some depth)
    {before : Char} (noArrow : before ≠ '=') (offset : Nat) :
    aliasEnd before depth (trimEnd front).getLast? offset (back ++ ';' :: rest) =
      (offset + back.length, offset + back.length + 1) := by
  induction back generalizing front depth before offset with
  | nil =>
    rw [List.append_nil] at split
    rw [split, reached, Option.some.injEq] at level
    subst level
    simp [aliasEnd, opensBracket, closesBracket]
  | cons c back ih =>
    have whole : mask side = (front ++ [c]) ++ back := by rw [split]; simp
    have noEqual : c ≠ '=' := by
      rintro rfl
      exact noEquals (by rw [split]; simp)
    obtain ⟨next, isNext⟩ : ∃ next, charLevel depth c = some next := by
      rw [split, textLevel_append, reached, Option.bind_some, textLevel] at level
      cases isNext : charLevel depth c with
      | none =>
        rw [isNext] at level
        cases level
      | some next => exact ⟨next, rfl⟩
    have reachedNext : textLevel 0 (front ++ [c]) = some next := by
      rw [textLevel_append, reached, Option.bind_some, textLevel, isNext]
      rfl
    have goesOn := ih whole reachedNext noEqual (offset + 1)
    have count : offset + (c :: back).length = offset + 1 + back.length := by
      rw [List.length_cons]
      omega
    rw [getLast?_trimEnd_concat] at goesOn
    rw [List.cons_append, count, aliasEnd.eq_def]
    dsimp only
    rw [charLevel] at isNext
    split_ifs at isNext with opens closes stops
    · cases isNext
      rw [if_pos opens, goesOn]
    · have noOpen : ¬ (c = '>' ∧ before = '=') := fun arrow => noArrow arrow.2
      rw [if_neg opens, if_neg noOpen, if_pos closes]
      cases depth with
      | zero => cases isNext
      | succ depth =>
        cases isNext
        exact goesOn
    · cases isNext
      have noOpen : ¬ (c = '>' ∧ before = '=') := fun arrow => noArrow arrow.2
      rw [if_neg opens, if_neg noOpen, if_neg closes, if_neg stops]
      -- A line feed outside of brackets is one that the type goes on after.
      rw [if_neg, goesOn]
      rintro ⟨rfl, rfl, isSome, notAfter, notBefore⟩
      rcases breaks front back split reached with bar | mark | bar
      · rw [bar] at notAfter
        exact notAfter rfl
      · rw [mark] at notAfter
        exact notAfter rfl
      · have some_ : trimStart back ≠ [] := by
          intro nothing
          rw [nothing] at bar
          cases bar
        rw [trimStart_append some_, List.head?_append_of_ne_nil _ some_, bar] at notBefore
        exact notBefore rfl

/-- **The right side of a definition ends at its semicolon.** -/
theorem aliasEnd_side (readable : Readable side) (breaks : BreaksAtBars side) (offset : Nat)
    (rest : List Char) :
    aliasEnd '=' 0 none offset (' ' :: (mask side ++ ';' :: rest)) =
      (offset + 1 + side.length, offset + 1 + side.length + 1) := by
  have blank : isBlank ' ' = true := by decide
  have from_ := aliasEnd_from readable.noEquals breaks readable.level rest
    (List.nil_append (mask side)).symm rfl (show ' ' ≠ '=' by decide) (offset + 1)
  rw [length_mask] at from_
  have nothing : trimEnd [] = [] := trimEnd_blank allBlank_nil
  rw [nothing] at from_
  rw [aliasEnd, ← from_]
  simp [opensBracket, closesBracket, blank]

/-! ### Definitions -/

theorem slice_middle (front middle back : List Char) {start stop : Nat}
    (isStart : front.length = start) (isStop : start + middle.length = stop) :
    slice (front ++ (middle ++ back)) start stop = middle := by
  subst isStart isStop
  rw [slice, ← List.append_assoc, ← List.length_append, List.take_left, List.drop_left]

theorem length_trimStart_le (text : List Char) : (trimStart text).length ≤ text.length := by
  obtain ⟨gap, -, same, -⟩ := exists_trimStart text
  have size := congrArg List.length same
  rw [List.length_append] at size
  omega

/-- **A definition is read as it is written.** -/
theorem aliasAt?_define (clear : Clear pre)
    (wellFormed : (StatementText.define exported name side).WellFormed) (rest : List Char) :
    aliasAt? source (pre ++ ((StatementText.define exported name side).shown.text ++ rest)) pre.length
        (startOf exported name) =
      (StatementText.define exported name side).aliasAt source pre.length := by
  have readable := wellFormed.readable
  have breaks : BreaksAtBars side := wellFormed.2.2.2
  generalize isHead :
    pre ++ (StatementText.exportWord exported ++ (StatementText.typeWord ++ name)) = head
  generalize isTail : mask side ++ ';' :: rest = tail
  have split : pre ++ ((StatementText.define exported name side).shown.text ++ rest) =
      head ++ (' ' :: '=' :: ' ' :: tail) := by
    subst isHead isTail
    simp only [StatementText.shown, StatementText.text, equalsSign_eq, List.append_assoc,
      List.cons_append, List.nil_append]
  have size : head.length =
      pre.length + ((StatementText.exportWord exported).length + 5 + name.length) := by
    rw [← isHead]
    simp only [List.length_append]
    have word : StatementText.typeWord.length = 5 := rfl
    omega
  have begins := clear.beginsStatement ((StatementText.define exported name side).shown.text ++ rest)
  rw [split] at begins ⊢
  have sideStart : rightSideStart? (head ++ (' ' :: '=' :: ' ' :: tail)) head.length =
      some (head.length + 2) := by
    rw [rightSideStart?, List.drop_left]
    have reads (before : Option Char) :
        rightSide? before 0 head.length (' ' :: '=' :: ' ' :: tail) =
          some ((head.length : Int) + 1 + 1) := by simp [rightSide?]
    rw [reads, Option.map_some, Option.some.injEq]
    omega
  have between : slice (head ++ (' ' :: '=' :: ' ' :: tail)) head.length (head.length + 2 - 1) = [' '] :=
    slice_middle head [' '] ('=' :: ' ' :: tail) rfl rfl
  have ends := aliasEnd_side readable breaks (head.length + 2) rest
  have behind : (head ++ (' ' :: '=' :: ' ' :: tail)).drop (head.length + 2) = ' ' :: tail := by
    simp [List.drop_append]
  have whole : slice (head ++ (' ' :: '=' :: ' ' :: tail)) (head.length + 2)
      (head.length + 2 + 1 + side.length) = ' ' :: mask side := by
    have parts : head ++ (' ' :: '=' :: ' ' :: tail) =
        (head ++ [' ', '=']) ++ ((' ' :: mask side) ++ ';' :: rest) := by
      rw [← isTail]
      simp
    rw [parts]
    exact slice_middle _ _ _ (by simp) (by simp [length_mask]; omega)
  rw [isTail] at ends
  rw [aliasAt?, if_pos begins, startOf]
  dsimp only
  rw [← size, sideStart]
  dsimp only
  rw [between]
  have noParameters : (trim [' ']).head? = none := by decide
  rw [noParameters]
  dsimp only
  rw [behind, ends]
  dsimp only
  have sides : trimStart (' ' :: mask side) = trimStart (mask side) :=
    @trimStart_gap (mask side) [' '] allBlank_space
  have trimmed : (trim (' ' :: mask side)).length = (trim side).length := by
    rw [trim, sides, ← trim, readable.length_trim]
  have shift : (' ' :: mask side).length - (trimStart (' ' :: mask side)).length =
      1 + (side.length - (trimStart side).length) := by
    have atMost := length_trimStart_le side
    rw [sides, readable.length_trimStart, List.length_cons, length_mask]
    omega
  have length : (StatementText.define exported name side).text.length =
      (StatementText.exportWord exported).length + 5 + name.length + 3 + side.length + 1 := by
    have word : StatementText.typeWord.length = 5 := rfl
    have sign : StatementText.equalsSign.length = 3 := rfl
    simp only [StatementText.text, List.length_append, List.length_singleton]
    omega
  rw [whole, shift, trimmed, StatementText.aliasAt, length]
  congr 2 <;> omega

/-! ### What is no definition -/

/-- The equals sign that is found stands in the text. -/
theorem rightSide?_eq_some {depth offset side : Int}
    (found : rightSide? before depth offset text = some side) :
    ∃ skipped more, text = skipped ++ '=' :: more ∧ side = offset + skipped.length + 1 := by
  induction text generalizing before depth offset with
  | nil => cases found
  | cons c rest ih =>
    have later (goesOn : ∃ skipped more, rest = skipped ++ '=' :: more ∧
        side = offset + 1 + skipped.length + 1) :
        ∃ skipped more, c :: rest = skipped ++ '=' :: more ∧
          side = offset + skipped.length + 1 := by
      obtain ⟨skipped, more, rfl, rfl⟩ := goesOn
      refine ⟨c :: skipped, more, rfl, ?_⟩
      rw [List.length_cons]
      omega
    rw [rightSide?] at found
    split_ifs at found with opens closes sign
    · exact later (ih found)
    · exact later (ih found)
    · obtain ⟨rfl, -⟩ := sign
      cases found
      exact ⟨[], rest, rfl, by simp⟩
    · exact later (ih found)

/-- **A name without an equals sign or type parameters behind it** defines nothing. -/
theorem aliasAt?_eq_none {d : Char} {others : List Char} {offset : Nat} {head : AliasStart}
    (blank : AllBlank gap) (visible : isBlank d = false) (other : d ≠ '=' ∧ d ≠ '<')
    (place : front.length = offset + head.nameStop) :
    aliasAt? source (front ++ (gap ++ d :: others)) offset head = none := by
  unfold aliasAt?
  split_ifs with begins
  · rw [← place, rightSideStart?, List.drop_left]
    cases found : rightSide? ((front ++ (gap ++ d :: others)).take front.length).getLast? 0
        front.length (gap ++ d :: others) with
    | none => rfl
    | some side =>
      obtain ⟨skipped, more, same, rfl⟩ := rightSide?_eq_some found
      have noSign : '=' ∉ gap ++ [d] := by
        intro member
        rcases List.mem_append.mp member with inside | last
        · cases blank _ inside
        · exact other.1 (List.mem_singleton.mp last).symm
      obtain ⟨after, rfl, -⟩ :=
        append_eq_before (show (gap ++ [d]) ++ others = _ by simpa using same) noSign
      have stop : (Int.toNat (front.length + ((gap ++ [d]) ++ after).length + 1)) - 1 =
          front.length + ((gap ++ [d]) ++ after).length := by omega
      rw [same, Option.map_some]
      dsimp only
      rw [stop, slice_middle front ((gap ++ [d]) ++ after) ('=' :: more) rfl rfl]
      have first : (trim ((gap ++ [d]) ++ after)).head? = some d := by
        rw [trim, List.append_assoc, trimStart_gap blank, List.singleton_append,
          trimStart_visible visible, head?_trimEnd_cons visible]
      rw [first]
      split
      · rename_i none_
        cases none_
      · rename_i less
        exact absurd (Option.some.inj less) other.2
      · rfl
  · rfl

/-- A text without equals signs and angle brackets that ends at its only semicolon defines
nothing. -/
theorem filterMap_aliases_plain {core : List Char}
    (plain : ∀ c ∈ core, c ≠ '=' ∧ c ≠ '<' ∧ c ≠ ';') (pre rest : List Char) :
    (findAll aliasStart? 0 (lastOf none pre) pre.length ((core ++ [';']) ++ rest)).filterMap
        (fun found => aliasAt? source (pre ++ ((core ++ [';']) ++ rest)) found.1 found.2) =
      (findAll aliasStart? 0 (lastOf none (pre ++ (core ++ [';'])))
        (pre.length + (core ++ [';']).length) rest).filterMap
          fun found => aliasAt? source (pre ++ ((core ++ [';']) ++ rest)) found.1 found.2 := by
  rw [lastOf_append]
  refine filterMap_findAll rest 0 pre.length (Nat.zero_le _) fun front c back found width same
    isMatch => ?_
  obtain ⟨inner, isInner, rfl⟩ := concat_eq_append same
  obtain ⟨head, gap, name, after, isText, words, blank, -, isName, isWidth, length⟩ :=
    aliasStart?_eq_some isMatch
  have noStop : ';' ∉ head ++ 'e' :: (gap ++ name) := by
    refine notMem_words (List.forall_mem_append.mpr ⟨words, List.forall_mem_cons.mpr
      ⟨by decide, List.forall_mem_append.mpr ⟨?_, ?_⟩⟩⟩)
    · exact fun d member => .inr (blank d member)
    · exact fun d member => .inl (isName.parts d member)
  have split : (head ++ 'e' :: (gap ++ name)) ++ after = inner ++ ';' :: rest := by
    have whole := isText
    rw [isInner] at whole
    simpa using whole.symm
  obtain ⟨more, rfl, rfl⟩ := append_eq_before split noStop
  -- What stands behind the name begins with something other than an equals sign.
  obtain ⟨space, isSpace, isMore, visible⟩ := exists_trimStart (more ++ [';'])
  obtain ⟨d, others, isFirst⟩ : ∃ d others, trimStart (more ++ [';']) = d :: others := by
    refine List.exists_cons_of_ne_nil fun nothing => ?_
    have isBlank := List.dropWhile_eq_nil_iff.mp nothing ';' (by simp)
    cases isBlank
  rw [isFirst] at isMore visible
  have other : d ≠ '=' ∧ d ≠ '<' := by
    have member : d ∈ more ++ [';'] := by rw [isMore]; simp
    rcases List.mem_append.mp member with inside | last
    · exact (plain d (by simp [inside])).imp id And.left
    · rw [List.mem_singleton.mp last]
      decide
  have whole : pre ++ ((front ++ ((head ++ 'e' :: (gap ++ name)) ++ more) ++ [';']) ++ rest) =
      (pre ++ (front ++ (head ++ 'e' :: (gap ++ name)))) ++ (space ++ d :: (others ++ rest)) := by
    have behind : more ++ ([';'] ++ rest) = space ++ (d :: (others ++ rest)) := by
      rw [← List.append_assoc, isMore, List.append_assoc, List.cons_append]
    simp only [List.append_assoc]
    rw [behind]
  have size := congrArg List.length isText
  simp only [isInner, List.length_append, List.length_cons, List.length_nil] at size length
  have isBack := congrArg List.length isInner
  simp only [List.length_append, List.length_cons, List.length_nil] at isBack
  refine ⟨by omega, ?_⟩
  rw [whole]
  refine aliasAt?_eq_none isSpace (visible d rfl) other ?_
  simp only [List.length_append, List.length_cons]
  omega

/-! ### Aliases of a module -/

/-- A character of a block of names, where the name of its module is hidden. -/
def isBlockChar (c : Char) : Bool :=
  isNamesChar c || c == '\x7b' || c == '\x7d' || c == '"' || c == '\''

theorem plain_of_isBlockChar (block : isBlockChar c) : c ≠ '=' ∧ c ≠ '<' ∧ c ≠ ';' := by
  refine ⟨?_, ?_, ?_⟩ <;>
    · rintro rfl
      cases block

/-- A block of names is written with few characters, where the name of its module is hidden. -/
theorem forall_isBlockChar {head : List Char} {names : NamesText} {module : Option ModuleText}
    (isHead : ∀ c ∈ head, isBlockChar c) (areNames : names.WellFormed)
    (quoted : ∀ found, module = some found → found.WellFormed) :
    ∀ c ∈ head ++ (names.text ++
      ('\x7d' :: StatementText.fromText (module.map ModuleText.shown))), isBlockChar c := by
  refine List.forall_mem_append.mpr ⟨isHead, List.forall_mem_append.mpr ⟨fun c member => ?_,
    List.forall_mem_cons.mpr ⟨by decide, ?_⟩⟩⟩
  · simp [isBlockChar, areNames.chars c member]
  · cases module with
    | none => exact nofun
    | some module =>
      refine List.forall_mem_append.mpr ⟨forall_mem_of_all (by decide), fun c member => ?_⟩
      have isQuote := (quoted module rfl).quote
      simp only [ModuleText.text, ModuleText.shown, List.mem_cons, List.mem_append,
        List.mem_replicate, List.not_mem_nil, or_false] at member
      rcases member with rfl | ⟨-, rfl⟩ | rfl
      · rcases isQuote with same | same <;> rw [same] <;> decide
      · decide
      · rcases isQuote with same | same <;> rw [same] <;> decide

theorem afterWord?_other {d : Char} (other : c ≠ d) (word : List Char) :
    afterWord? (d :: word) (c :: text) = none := by
  simp [afterWord?, List.isPrefixOf, other.symm]

theorem aliasStart?_blank (blank : isBlank c) (before : Option Char) (text : List Char) :
    aliasStart? before (c :: text) = none := by
  have noExport : c ≠ 'e' := by
    rintro rfl
    cases blank
  have noType : c ≠ 't' := by
    rintro rfl
    cases blank
  have none_ : afterWord? "export".toList (c :: text) = none := afterWord?_other noExport _
  have head : afterWord? "type".toList (c :: text) = none := afterWord?_other noType _
  unfold aliasStart?
  simp only [none_, Option.getD_none, head, Option.bind_eq_bind, Option.bind_none, ite_self]

/-- Nothing that looks like a declaration stands behind the name of a definition. -/
theorem Readable.loose_equals (readable : Readable side) :
    Loose ((StatementText.equalsSign ++ mask side) ++ [';']) := by
  rw [equalsSign_eq]
  exact loose_cons (not_joined rfl) (loose_cons (not_joined rfl)
    (loose_cons (not_joined rfl) readable.loose))

/-- A definition is found, and nothing else up to its end. -/
theorem findAll_define (clear : Clear pre)
    (wellFormed : (StatementText.define exported name side).WellFormed) (rest : List Char) :
    findAll aliasStart? 0 (lastOf none pre) pre.length
        ((StatementText.define exported name side).shown.text ++ rest) =
      (pre.length, startOf exported name) ::
        findAll aliasStart? 0
          (lastOf none (pre ++ (StatementText.define exported name side).shown.text))
          (pre.length + (StatementText.define exported name side).shown.text.length) rest := by
  generalize isHead :
    StatementText.exportWord exported ++ (StatementText.typeWord ++ name) = head
  have loose := wellFormed.readable.loose_equals
  have split : (StatementText.define exported name side).shown.text =
      head ++ ((StatementText.equalsSign ++ mask side) ++ [';']) := by
    simp [← isHead, StatementText.shown, StatementText.text]
  have width : head.length = (startOf exported name).nameStop := by
    have word : StatementText.typeWord.length = 5 := rfl
    simp only [← isHead, List.length_append, startOf]
    omega
  have some_ : head ≠ [] := by
    intro nothing
    have atLeast : 5 ≤ (startOf exported name).nameStop := by
      unfold startOf
      dsimp only
      omega
    rw [← width, nothing, List.length_nil] at atLeast
    omega
  have isStart : aliasStart? (lastOf none pre)
      (head ++ (((StatementText.equalsSign ++ mask side) ++ [';']) ++ rest)) =
        some (startOf exported name, (startOf exported name).nameStop) := by
    rw [← isHead, List.append_assoc, List.append_assoc]
    refine aliasStart?_define clear.mayBeginWord wellFormed.1 ?_ exported
    rw [equalsSign_eq]
    rintro c ⟨⟩
    rfl
  rw [split, List.append_assoc, findAll_found some_ width isStart pre.length, ← width,
    loose.noneFound findsJoined_aliasStart rest, ← lastOf_append, ← lastOf_append,
    List.append_assoc, @List.length_append _ head, Nat.add_assoc]

/-- **Aliases are found at definitions.** -/
theorem searches_aliases (source : List Char) : Searches aliasStart?
    (fun masked found => aliasAt? source masked found.1 found.2)
    (fun _ written => written.2.aliasAt source written.1) where
  gap before c text blank := aliasStart?_blank blank before text
  statement := by
    intro pre written clear wellFormed rest
    have blocks {head : List Char} {names : NamesText} {module : Option ModuleText}
        (isHead : ∀ c ∈ head, isBlockChar c) (areNames : names.WellFormed)
        (quoted : ∀ found, module = some found → found.WellFormed) :=
      @filterMap_aliases_plain source _
        (fun c member => plain_of_isBlockChar (forall_isBlockChar isHead areNames quoted c member))
        pre rest
    cases written with
    | define exported name side =>
      have declared := @aliasAt?_define source _ _ _ _ clear wellFormed rest
      rw [findAll_define clear wellFormed, ← declared]
      exact filterMap_cons_toList ..
    | fetch names module =>
      have passed := @blocks StatementText.importHead names (some module)
        (forall_mem_of_all (by decide)) wellFormed.1 (by rintro found ⟨⟩; exact wellFormed.2)
      have same : (StatementText.fetch names module).shown.text = (StatementText.importHead ++
          (names.text ++ ('\x7d' ::
            StatementText.fromText ((some module).map ModuleText.shown)))) ++ [';'] := by
        simp [StatementText.shown, StatementText.text]
      rw [same]
      exact passed
    | offer names module =>
      have passed := @blocks StatementText.exportHead names module
        (forall_mem_of_all (by decide)) wellFormed.1 wellFormed.2
      have same : (StatementText.offer names module).shown.text = (StatementText.exportHead ++
          (names.text ++ ('\x7d' ::
            StatementText.fromText (module.map ModuleText.shown)))) ++ [';'] := by
        simp [StatementText.shown, StatementText.text]
      rw [same]
      exact passed

/-- **The aliases that are found in a module are those it defines.** -/
theorem findAliases_moduleText {parts : List Part} (isModule : IsModule false parts) :
    findAliases (moduleText parts) (mask (moduleText parts)) =
      (located 0 parts).filterMap fun written => written.2.aliasAt (moduleText parts) written.1 :=
  (searches_aliases (moduleText parts)).module isModule

end TypeSchema
