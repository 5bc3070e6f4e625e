/-
**The tokens of a document with one entry for each line.**

* `BeginsPlain`: what a plain scalar may begin with, so that no sign is read instead;
* `ReadsAs`: what is written after a name is one scalar up to the end of its line; so read plain and
  quoted scalars;
* `Line`: a name, what is written after it, and the scalar that it is;
* `ofText_lines`: **the tokens of such a document**: a mapping with a key and a value for each line.
-/

import TypeSchema.Proofs.Yaml.Escapes
import TypeSchema.Proofs.Yaml.Plain

namespace TypeSchema.Yaml

/-! ### Which scalar begins -/

/-- The signs that no plain scalar begins with. -/
def signs : List Char :=
  ['#', ',', '[', ']', '\x7b', '\x7d', '&', '*', '!', '|', '>', '\'', '"', '%', '@', '\x60']

/-- A plain scalar may begin with a character in front of another one. -/
structure BeginsPlain (c : Char) (next : Option Char) : Prop where
  isChar : IsWordChar c
  noSign : c ∉ signs
  alone : c = '-' ∨ c = '?' ∨ c = ':' → isBlankOrEnd next = false

namespace Scanner

section First

variable {scanner : Scanner} {c : Char} {rest : List Char}

theorem mayBeginPlain_of_begins (block : scanner.flowLevel = 0)
    (begins : BeginsPlain c (scanner.cursor.peekAt 1)) : scanner.mayBeginPlain c = true := by
  unfold mayBeginPlain
  by_cases sign : c = '-' ∨ c = '?' ∨ c = ':'
  · rw [begins.alone sign, block]
    obtain rfl | rfl | rfl := sign <;> rfl
  · have isSign : ∀ mark ∈ "-?:,[]\x7b\x7d#&*!|>'\"%@\x60".toList,
        (mark = '-' ∨ mark = '?' ∨ mark = ':') ∨ mark ∈ signs :=
      List.all_iff_forall_prop.mp (by decide)
    have noMark : c ∉ "-?:,[]\x7b\x7d#&*!|>'\"%@\x60".toList :=
      fun mark => (isSign c mark).elim sign begins.noSign
    have ink := begins.isChar.ink
    rw [ink.1, ink.2, List.contains_eq_mem, decide_eq_false noMark]
    rfl

theorem fetchAt_plain (block : scanner.flowLevel = 0) (here : scanner.cursor.rest = c :: rest)
    (begins : BeginsPlain c rest.head?)
    (inside : scanner.cursor.column = 0 → scanner.cursor.atSeparator = false) :
    scanner.fetchAt = scanner.fetchPlain := by
  have first : scanner.cursor.peek = some c := by rw [Cursor.peek, here]; rfl
  have second : scanner.cursor.peekAt 1 = rest.head? := by
    rw [Cursor.peekAt, here, List.head?_eq_getElem?]
    rfl
  have noSign := begins.noSign
  simp only [signs, List.mem_cons, List.not_mem_nil, not_or, not_false_eq_true, and_true] at noSign
  have noMark : ∀ mark, ¬(c = mark ∧ scanner.cursor.column = 0 ∧
      scanner.cursor.atSeparator = true) := by
    rintro mark ⟨-, start, isMark⟩
    rw [inside start] at isMark
    cases isMark
  have noIndicator : ∀ sign, (sign = '-' ∨ sign = '?' ∨ sign = ':') →
      ¬(c = sign ∧ isBlankOrEnd rest.head? = true) := by
    rintro sign isSign ⟨rfl, blank⟩
    rw [begins.alone isSign] at blank
    cases blank
  have may : scanner.mayBeginPlain c = true := mayBeginPlain_of_begins block (second.symm ▸ begins)
  unfold fetchAt
  dsimp only
  rw [first, second]
  simp only [noSign, noMark, block, noIndicator '-' (.inl rfl), noIndicator '?' (.inr (.inl rfl)),
    noIndicator ':' (.inr (.inr rfl)), may, false_and, if_false, if_true, bne_self_eq_false,
    Bool.false_eq_true, false_or]

theorem fetchAt_quoted (double : Bool)
    (here : scanner.cursor.rest = quoteOf double :: rest) :
    scanner.fetchAt = scanner.fetchInline (readQuoted double) := by
  have first : scanner.cursor.peek = some (quoteOf double) := by rw [Cursor.peek, here]; rfl
  unfold fetchAt
  dsimp only
  rw [first]
  cases double <;> simp [quoteOf]

end First

/-! ### One step -/

/-- The next token begins here: there is no white space and no comment. -/
def Stops (rest : List Char) : Prop := ∀ c ∈ rest.head?, IsInk c ∧ c ≠ '#'

section Step

variable {scanner placed : Scanner} {rest : List Char}

theorem skipToToken_spaces (count : Nat) (stops : Stops rest)
    (here : scanner.cursor.rest = List.replicate count ' ' ++ rest) (fuel : Nat) :
    scanner.skipToToken (fuel + 1) = { scanner with cursor := scanner.cursor.advance count } := by
  have spaces : ∀ c ∈ List.replicate count ' ', (c == ' ') = true := fun c member => by
    rw [List.eq_of_mem_replicate member]
    rfl
  have visible : rest.head?.any (· == ' ') = false := by
    cases rest with
    | nil => rfl
    | cons c rest =>
      have ink := (stops c rfl).1.1
      simp only [isGap, Bool.or_eq_false_iff] at ink
      exact ink.1
  have skipped : scanner.cursor.skipSpaces = scanner.cursor.advance count := by
    unfold Cursor.skipSpaces Cursor.skipWhile
    rw [Cursor.takeWhile_append _ rest spaces visible here, List.length_replicate]
  have left : (scanner.cursor.advance count).peek = rest.head? := by
    rw [Cursor.peek, Cursor.rest_advance, here]
    congr 1
    exact List.drop_left' (List.length_replicate ..)
  have noComment : rest.head? ≠ some '#' := fun comment => (stops _ comment).2 rfl
  have noBreak : rest.head?.any isBreak = false := by
    cases rest with
    | nil => rfl
    | cons c rest => exact (stops c rfl).1.2
  unfold skipToToken
  dsimp only
  rw [skipped, Cursor.skipComment, left, if_neg noComment, left, noBreak]
  rfl

theorem skipToToken_break (block : scanner.flowLevel = 0) (stops : Stops rest)
    (here : scanner.cursor.rest = '\n' :: rest) (fuel : Nat) :
    ∃ place, place.rest = rest ∧ place.column = 0 ∧
      scanner.skipToToken (fuel + 2) = { scanner with cursor := place, allowKey := true } := by
  obtain ⟨⟨_, index, line, column⟩, flowLevel, indent, indents, allowKey, keys, tokens, finished⟩ :=
    scanner
  cases here
  cases block
  have skipped : (Cursor.mk ('\n' :: rest) index line column).skipSpaces =
      ⟨'\n' :: rest, index, line, column⟩ := by
    unfold Cursor.skipSpaces Cursor.skipWhile
    rw [Cursor.takeWhile_nothing rfl]
  refine ⟨⟨rest, index + 1, line + 1, 0⟩, rfl, rfl, ?_⟩
  rw [skipToToken]
  dsimp only
  rw [skipped]
  simp only [Cursor.skipComment, Cursor.peek, List.head?_cons, Option.some.injEq, Char.reduceEq,
    if_false, Option.any_some, isBreak, beq_self_eq_true, Bool.true_or, if_true,
    Cursor.takeBreak_lineFeed, Bool.or_true]
  exact skipToToken_spaces 0 stops rfl fuel

theorem closeBlocks_of_le {column : Int} (inner : scanner.indent ≤ column) :
    scanner.closeBlocks column = scanner := by
  unfold closeBlocks
  split
  · cases indents : scanner.indents with
    | nil => rfl
    | cons outer more =>
      unfold unwind
      rw [if_neg (Int.not_lt.mpr inner)]
  · rfl

/-- A step reads the token at the place that comes after white space, if no possible key is left
behind and no block ends there. -/
theorem fetch_eq (noMark : scanner.cursor.peek ≠ some '\uFEFF')
    (skipped : scanner.skipToToken scanner.cursor.bound = placed)
    (fresh : ∀ entry ∈ placed.keys, placed.isStale entry.2 = false)
    (inner : placed.indent ≤ placed.cursor.column) : scanner.fetch = placed.fetchAt := by
  have kept : placed.dropStale = .ok placed := by
    have none_ : placed.keys.any (fun entry => placed.isStale entry.2 && entry.2.required) =
        false := List.any_eq_false.mpr fun entry member => by simp [fresh entry member]
    have all : placed.keys.filter (fun entry => !placed.isStale entry.2) = placed.keys :=
      List.filter_eq_self.mpr fun entry member => by simp [fresh entry member]
    unfold dropStale
    rw [if_neg (by simp [none_]), all]
  unfold fetch
  dsimp only
  rw [if_neg (fun mark => noMark mark.2), skipped, kept]
  exact congrArg fetchAt (closeBlocks_of_le inner)

end Step

/-! ### The three tokens of a line -/

/-- A scanner in the outermost mapping of a document, or before it. -/
def inMapping (opened : Bool) (tokens : List Token) (cursor : Cursor) (allowKey : Bool) : Scanner where
  cursor := cursor
  flowLevel := 0
  indent := if opened then 0 else -1
  indents := if opened then [-1] else []
  allowKey := allowKey
  keys := []
  tokens := tokens
  finished := false

/-- A place between two lines: at the start of the later one, or at the end of the earlier one. -/
def AtLine (rest : List Char) (cursor : Cursor) (allowKey : Bool) : Prop :=
  (cursor.rest = rest ∧ cursor.column = 0 ∧ allowKey = true) ∨ cursor.rest = '\n' :: rest

section Tokens

variable {opened allowKey : Bool} {tokens : List Token} {cursor : Cursor} {rest name : List Char}

theorem stops_of_startsLine (starts : StartsLine rest) : Stops rest := fun c head =>
  ⟨(starts c head).1.ink, (starts c head).2.1⟩

theorem fetch_line (opened : Bool) (tokens : List Token) (starts : StartsLine rest)
    (atLine : AtLine rest cursor allowKey) :
    ∃ place, place.rest = rest ∧ place.column = 0 ∧
      (inMapping opened tokens cursor allowKey).fetch =
        (inMapping opened tokens place true).fetchAt := by
  have outer : ∀ place : Cursor, (inMapping opened tokens place true).indent ≤ place.column := by
    intro place
    have least : (if opened then 0 else -1 : Int) ≤ 0 := by cases opened <;> decide
    exact Int.le_trans least (Int.natCast_nonneg _)
  obtain ⟨here, column, rfl⟩ | here := atLine
  · have noMark : cursor.peek ≠ some '\uFEFF' := by
      rw [Cursor.peek, here]
      intro mark
      exact absurd (starts _ mark).1.1 (by decide)
    refine ⟨cursor, here, column, fetch_eq noMark ?_ (by simp [inMapping]) (outer cursor)⟩
    exact skipToToken_spaces 0 (stops_of_startsLine starts) here _
  · have noMark : cursor.peek ≠ some '\uFEFF' := by
      rw [Cursor.peek, here, List.head?_cons]
      decide
    have hereAlso : (inMapping opened tokens cursor allowKey).cursor.rest = '\n' :: rest := here
    obtain ⟨place, left, column, skipped⟩ :=
      skipToToken_break rfl (stops_of_startsLine starts) hereAlso cursor.rest.length
    exact ⟨place, left, column, fetch_eq noMark skipped (by simp [inMapping]) (outer place)⟩

/-- A name of an entry. -/
structure IsName (name : List Char) : Prop where
  isWord : IsPlainWord name
  short : name.length ≤ 1024
  noSign : ∀ c ∈ name.head?, c ∉ '-' :: '?' :: ':' :: '.' :: signs

namespace IsName

variable (isName : IsName name)

include isName

theorem exists_cons : ∃ c more, name = c :: more ∧ IsWordChar c ∧ c ≠ '-' ∧ c ≠ '?' ∧ c ≠ ':' ∧
    c ≠ '.' ∧ c ∉ signs := by
  obtain ⟨c, more, rfl⟩ := List.exists_cons_of_ne_nil isName.isWord.nonempty
  have noSign := isName.noSign c rfl
  simp only [List.mem_cons, not_or] at noSign
  exact ⟨c, more, rfl, isName.isWord.chars c List.mem_cons_self, noSign⟩

theorem startsLine (rest : List Char) : StartsLine (name ++ rest) := by
  obtain ⟨c, more, rfl, isChar, noDash, -, -, noDot, noSign⟩ := isName.exists_cons
  intro d head
  cases head
  exact ⟨isChar, fun comment => noSign (by rw [comment]; decide), noDash, noDot⟩

end IsName

/-- The scanner after a name, which a colon may make a key. -/
def afterName (opened : Bool) (tokens : List Token) (name : List Char) (place : Cursor) : Scanner :=
  { inMapping opened (tokens ++ [.scalar (String.ofList name) true]) (place.advance name.length)
      false with
    keys := [(0, ⟨tokens.length, opened, place.index, place.line, 0⟩)] }

theorem fetch_name (opened : Bool) (tokens : List Token) (isName : IsName name)
    (atLine : AtLine (name ++ ':' :: ' ' :: rest) cursor allowKey) :
    ∃ place, place.rest = name ++ ':' :: ' ' :: rest ∧ place.column = 0 ∧
      (inMapping opened tokens cursor allowKey).fetch =
        .ok (afterName opened tokens name place) := by
  obtain ⟨place, left, column, step⟩ := fetch_line opened tokens (isName.startsLine _) atLine
  refine ⟨place, left, column, ?_⟩
  obtain ⟨c, more, same, isChar, noDash, noQuestion, noColon, -, noSign⟩ := isName.exists_cons
  have here : (inMapping opened tokens place true).cursor.rest = c :: (more ++ ':' :: ' ' :: rest) := by
    rw [same] at left
    exact left
  have begins : BeginsPlain c (more ++ ':' :: ' ' :: rest).head? :=
    ⟨isChar, noSign, by simp [noDash, noQuestion, noColon]⟩
  have noSeparator : place.atSeparator = false :=
    startsLine_noMark (by rw [left]; exact isName.startsLine _)
  rw [step, fetchAt_plain rfl here begins fun _ => noSeparator]
  have saved : (inMapping opened tokens place true).saveKey = .ok
      { inMapping opened tokens place true with
        keys := [(0, ⟨tokens.length, opened, place.index, place.line, 0⟩)] } := by
    unfold saveKey removeKey
    cases opened <;> simp [inMapping, column, bind, Except.bind, pure, Except.pure]
  have read : plainScalar ((inMapping opened tokens place true).flowLevel != 0)
      ((inMapping opened tokens place true).indent + 1) (inMapping opened tokens place true).cursor =
      ⟨name, place.advance name.length, false⟩ := plainScalar_name isName.isWord _ left
  unfold fetchPlain
  rw [saved, read]
  rfl

/-- What opens the mapping in front of its first key. -/
def opening (opened : Bool) : List Token := if opened then [] else [.mappingStart]

theorem fetchAt_colon {scanner : Scanner}
    (here : scanner.cursor.rest = ':' :: ' ' :: rest) : scanner.fetchAt = scanner.fetchValue := by
  have first : scanner.cursor.peek = some ':' := by rw [Cursor.peek, here]; rfl
  have second : scanner.cursor.peekAt 1 = some ' ' := by rw [Cursor.peekAt, here]; rfl
  unfold fetchAt
  dsimp only
  rw [first, second]
  simp [isBlankOrEnd, isGap]

theorem insertIdx_front (front rest : List Token) (token : Token) :
    (front ++ rest).insertIdx front.length token = front ++ token :: rest := by
  induction front with
  | nil => rfl
  | cons first front ih => exact congrArg (first :: ·) ih

/-- A colon makes the name a key. -/
theorem fetch_colon (opened : Bool) (tokens : List Token) (isName : IsName name) {place : Cursor}
    (here : place.rest = name ++ ':' :: ' ' :: rest) :
    ∃ next, next.rest = ' ' :: rest ∧
      (afterName opened tokens name place).fetch = .ok
        (inMapping true (tokens ++ opening opened ++
          [.key, .scalar (String.ofList name) true, .value]) next false) := by
  have moved := Cursor.advance_printable (fun c member => (isName.isWord.chars c member).1) here
  have colon : (place.advance name.length).next = ⟨' ' :: rest, place.index + name.length + 1,
      place.line, place.column + name.length + 1⟩ := by
    rw [moved]
    exact Cursor.next_printable rfl
  have left : (place.advance name.length).rest = ':' :: ' ' :: rest := by rw [moved]
  refine ⟨_, congrArg Cursor.rest colon, ?_⟩
  have stops : Stops (':' :: ' ' :: rest) := by
    intro c head
    cases head
    decide
  have fresh : ∀ entry ∈ (afterName opened tokens name place).keys,
      (afterName opened tokens name place).isStale entry.2 = false := by
    intro entry member
    cases List.mem_singleton.mp member
    have short := isName.short
    simp only [isStale, afterName, inMapping, moved, bne_self_eq_false, Bool.false_or,
      decide_eq_false_iff_not]
    omega
  have inner : (afterName opened tokens name place).indent ≤
      (afterName opened tokens name place).cursor.column := by
    have least : (if opened then 0 else -1 : Int) ≤ 0 := by cases opened <;> decide
    exact Int.le_trans least (Int.natCast_nonneg _)
  have noMark : (place.advance name.length).peek ≠ some '\uFEFF' := by
    rw [Cursor.peek, left, List.head?_cons]
    decide
  have step : (afterName opened tokens name place).fetch =
      (afterName opened tokens name place).fetchAt :=
    fetch_eq noMark (skipToToken_spaces 0 stops left _) fresh inner
  rw [step, fetchAt_colon left]
  cases opened <;>
    simp [fetchValue, afterName, inMapping, opening, openBlock, push, insertIdx_front, pure,
      Except.pure]

/-- What is written after a name is read as one scalar, up to the end of its line. -/
structure ReadsAs (written : List Char) (token : Token) : Prop where
  begins : ∃ c more, written = c :: more ∧ IsInk c ∧ c ≠ '#'
  reads {rest : List Char} (starts : StartsLine rest) (tokens : List Token) {place : Cursor}
    (here : place.rest = written ++ '\n' :: rest) (inside : 0 < place.column) :
    ∃ next allowKey, AtLine rest next allowKey ∧
      (inMapping true tokens place false).fetchAt =
        .ok (inMapping true (tokens ++ [token]) next allowKey)

theorem fetch_value (tokens : List Token) {written : List Char} {token : Token}
    (reads : ReadsAs written token) (starts : StartsLine rest) (here : cursor.rest = ' ' :: (written ++ '\n' :: rest)) :
    ∃ next allowKey, AtLine rest next allowKey ∧
      (inMapping true tokens cursor false).fetch =
        .ok (inMapping true (tokens ++ [token]) next allowKey) := by
  have stops : Stops (written ++ '\n' :: rest) := by
    obtain ⟨c, more, rfl, ink⟩ := reads.begins
    intro d head
    cases head
    exact ink
  have inside : 0 < (cursor.advance 1).column := by
    obtain ⟨_, index, line, column⟩ := cursor
    cases here
    exact (congrArg (0 < ·.column) (Cursor.next_printable (c := ' ') rfl)).mpr (Nat.succ_pos column)
  have left : (cursor.advance 1).rest = written ++ '\n' :: rest := by
    rw [Cursor.rest_advance, here]
    rfl
  have noMark : cursor.peek ≠ some '\uFEFF' := by
    rw [Cursor.peek, here, List.head?_cons]
    decide
  have step : (inMapping true tokens cursor false).fetch =
      (inMapping true tokens (cursor.advance 1) false).fetchAt :=
    fetch_eq noMark (skipToToken_spaces 1 stops here _) (by simp [inMapping]) (Int.natCast_nonneg _)
  rw [step]
  exact reads.reads starts tokens left inside

end Tokens

/-! ### Scalars after a name -/

section Values

variable {written text : List Char}

/-- **A plain scalar is read as its text.** -/
theorem readsAs_plain {c : Char} {more : List Char} (spaced : Spaced text (c :: more))
    (begins : BeginsPlain c more.head?) :
    ReadsAs (c :: more) (.scalar (String.ofList text) true) := by
  obtain ⟨_, _, same, ink⟩ := spaced.exists_cons
  refine ⟨⟨_, _, same, ink⟩, fun starts tokens place here inside => ?_⟩
  rename_i rest
  have beginsHere : BeginsPlain c (more ++ '\n' :: rest).head? := by
    refine ⟨begins.isChar, begins.noSign, fun sign => ?_⟩
    have alone := begins.alone sign
    cases more with
    | nil => cases alone
    | cons d more => exact alone
  have step : (inMapping true tokens place false).fetchAt =
      (inMapping true tokens place false).fetchPlain :=
    fetchAt_plain rfl here beginsHere fun start => absurd start (Nat.ne_of_gt inside)
  obtain ⟨next, read, left, column⟩ := plainScalar_spaced spaced starts here
  have readHere : plainScalar ((inMapping true tokens place false).flowLevel != 0)
      ((inMapping true tokens place false).indent + 1) (inMapping true tokens place false).cursor =
      ⟨text, next, true⟩ := read
  refine ⟨next, true, .inl ⟨left, column, rfl⟩, ?_⟩
  rw [step]
  unfold fetchPlain
  rw [readHere]
  rfl

/-- **A quoted scalar is read as its text.** -/
theorem readsAs_quoted {double : Bool} {inner : List Char}
    (gives : ∀ rest : List Char, rest.head? ≠ some '\'' →
      Gives (quotedScalar double) (quoteOf double :: inner ++ rest) text rest) :
    ReadsAs (quoteOf double :: inner) (.scalar (String.ofList text) false) := by
  refine ⟨⟨_, _, rfl, by cases double <;> decide⟩, fun starts tokens place here inside => ?_⟩
  rename_i rest
  have step : (inMapping true tokens place false).fetchAt =
      (inMapping true tokens place false).fetchInline (readQuoted double) :=
    fetchAt_quoted double here
  obtain ⟨next, left, read⟩ := gives ('\n' :: rest) (by simp) place here
  have readHere : readQuoted double (inMapping true tokens place false).cursor =
      .ok (.scalar (String.ofList text) false, next) := by
    unfold readQuoted
    exact congrArg (Except.map _) read
  refine ⟨next, false, .inr left, ?_⟩
  rw [step]
  unfold fetchInline
  rw [readHere]
  rfl

end Values

end Scanner

/-! ### Whole documents -/

open Scanner

/-- A line of a document: a name, what is written after it, the text of the scalar that this is,
and whether it is plain. -/
structure Line where
  name : List Char
  written : List Char
  scalar : String
  plain : Bool

namespace Line

/-- A line as it is written. -/
def text (line : Line) : List Char := line.name ++ ':' :: ' ' :: (line.written ++ ['\n'])

/-- The tokens of a line. -/
def tokens (line : Line) : List Token :=
  [.key, .scalar (String.ofList line.name) true, .value, .scalar line.scalar line.plain]

/-- A line that is read as it should be. -/
structure Reads (line : Line) : Prop where
  isName : IsName line.name
  reads : ReadsAs line.written (.scalar line.scalar line.plain)

theorem startsLine {lines : List Line} (good : ∀ line ∈ lines, line.Reads) :
    StartsLine (lines.flatMap text) := by
  cases lines with
  | nil => exact nofun
  | cons line lines =>
    rw [List.flatMap_cons, text, List.append_assoc]
    exact (good line List.mem_cons_self).isName.startsLine _

end Line

namespace Scanner

section Lines

variable {line : Line} {lines : List Line} {rest : List Char} {opened allowKey : Bool}
  {tokens : List Token} {cursor : Cursor}

theorem run_fetch {scanner next : Scanner} (step : scanner.fetch = .ok next)
    (running : next.finished = false) (fuel : Nat) : scanner.run (fuel + 1) = next.run fuel := by
  rw [run, step]
  dsimp only
  rw [running]
  rfl

/-- **The three tokens of a line**, in three steps. -/
theorem run_line (opened : Bool) (tokens : List Token) (good : line.Reads) (starts : StartsLine rest)
    (atLine : AtLine (line.text ++ rest) cursor allowKey) :
    ∃ next allowNext, AtLine rest next allowNext ∧ ∀ fuel,
      (inMapping opened tokens cursor allowKey).run (fuel + 3) =
        (inMapping true (tokens ++ opening opened ++ line.tokens) next allowNext).run fuel := by
  have split : line.text ++ rest =
      line.name ++ ':' :: ' ' :: (line.written ++ '\n' :: rest) := by
    simp [Line.text]
  rw [split] at atLine
  obtain ⟨place, here, -, first⟩ := fetch_name opened tokens good.isName atLine
  obtain ⟨after, left, second⟩ := fetch_colon opened tokens good.isName here
  obtain ⟨next, allowNext, ends, third⟩ := fetch_value
    (tokens ++ opening opened ++ [.key, .scalar (String.ofList line.name) true, .value])
    good.reads starts left
  refine ⟨next, allowNext, ends, fun fuel => ?_⟩
  rw [run_fetch first rfl, run_fetch second rfl, run_fetch third rfl, List.append_assoc]
  rfl

/-- The end of the document closes the mapping. -/
theorem run_end (atEnd : AtLine [] cursor allowKey) (fuel : Nat) :
    (inMapping true tokens cursor allowKey).run (fuel + 1) =
      (tokens ++ [.blockEnd, .streamEnd], none) := by
  have starts : StartsLine [] := nofun
  obtain ⟨place, left, -, step⟩ := fetch_line true tokens starts atEnd
  have last : (inMapping true tokens place true).fetchAt =
      (inMapping true tokens place true).fetchEnd := by
    have ended : (inMapping true tokens place true).cursor.peek = none := by
      rw [Cursor.peek, show (inMapping true tokens place true).cursor.rest = [] from left]
      rfl
    unfold fetchAt
    dsimp only
    rw [ended]
  rw [run, step, last]
  simp [fetchEnd, closeBlocks, inMapping, unwind, removeKey, bind, Except.bind, pure, Except.pure]

theorem run_lines (good : ∀ line ∈ lines, line.Reads)
    (atLine : AtLine (lines.flatMap Line.text) cursor allowKey) {fuel : Nat}
    (enough : 3 * lines.length < fuel) :
    (inMapping true tokens cursor allowKey).run fuel =
      (tokens ++ lines.flatMap Line.tokens ++ [.blockEnd, .streamEnd], none) := by
  induction lines generalizing tokens cursor allowKey fuel with
  | nil =>
    obtain ⟨fuel, rfl⟩ := Nat.exists_eq_add_of_lt enough
    rw [run_end atLine, List.flatMap_nil, List.append_nil]
  | cons line lines ih =>
    rw [List.forall_mem_cons] at good
    obtain ⟨fuel, rfl⟩ := Nat.exists_eq_add_of_le' (show 3 ≤ fuel by
      rw [List.length_cons] at enough
      omega)
    obtain ⟨next, allowNext, ends, steps⟩ := run_line true tokens good.1 (Line.startsLine good.2)
      atLine
    rw [steps, ih good.2 ends (by rw [List.length_cons] at enough; omega), List.flatMap_cons]
    simp [opening]

end Lines

end Scanner

theorem length_lines (lines : List Line) : 3 * lines.length ≤ (lines.flatMap Line.text).length := by
  induction lines with
  | nil => exact Nat.le_refl 0
  | cons line lines ih =>
    simp only [List.flatMap_cons, List.length_append, List.length_cons, Line.text]
    omega

/-- **The tokens of a document with one entry for each line.** -/
theorem ofText_lines {lines : List Line} (some_ : lines ≠ []) (good : ∀ line ∈ lines, line.Reads) :
    Tokens.ofText (lines.flatMap Line.text) =
      ⟨.mappingStart :: (lines.flatMap Line.tokens ++ [.blockEnd, .streamEnd]), none⟩ := by
  obtain ⟨line, lines, rfl⟩ := List.exists_cons_of_ne_nil some_
  rw [List.forall_mem_cons] at good
  have size := length_lines (line :: lines)
  obtain ⟨fuel, fuelEq⟩ := Nat.exists_eq_add_of_le'
    (show 3 ≤ ((line :: lines).flatMap Line.text).length + 2 by
      rw [List.length_cons] at size
      omega)
  have atLine : AtLine (line.text ++ lines.flatMap Line.text)
      (.ofText ((line :: lines).flatMap Line.text)) true := .inl ⟨rfl, rfl, rfl⟩
  obtain ⟨next, allowNext, ends, steps⟩ :=
    run_line false [] good.1 (Line.startsLine good.2) atLine
  have start : Scanner.ofText ((line :: lines).flatMap Line.text) =
      inMapping false [] (.ofText ((line :: lines).flatMap Line.text)) true := rfl
  unfold Tokens.ofText
  rw [start, fuelEq, steps, run_lines good.2 ends (by rw [List.length_cons] at size; omega)]
  simp [opening]

end TypeSchema.Yaml
