/-
**Numbers in YAML documents.**

* `numeralChars`: the characters of a written number;
* `isPlainWord_of_spells`, `beginsPlain_of_spells`: a written number is a word of a plain scalar, and
  one may begin with it;
* `scalarDatum_real`, `scalarDatum_int`: **a written number has the tag of its kind and denotes that
  number**, an integer if it is not too long.
-/

import TypeSchema.Proofs.Number.Numerals
import TypeSchema.Proofs.Result
import TypeSchema.Proofs.Text.Blank
import TypeSchema.Proofs.Yaml.Lines
import TypeSchema.Yaml.Value

namespace TypeSchema

/-! ### The opposite of a decimal -/

theorem Binary64.ofUnits_true (units : Nat) : ofUnits true units = -ofUnits false units := by
  unfold ofUnits
  split <;> rfl

theorem Binary64.ofDecimal_true (coefficient : Nat) (exponent : Int) :
    ofDecimal true coefficient exponent = -ofDecimal false coefficient exponent := by
  unfold ofDecimal
  split_ifs
  · exact ofUnits_true 0
  · rfl
  · exact ofUnits_true 0
  · exact ofUnits_true _
  · exact ofUnits_true _

theorem Spelling.toBinary64_true (spelling : Spelling) :
    (spelling.numeral true).toBinary64 = -(spelling.numeral false).toBinary64 := by
  unfold Numeral.toBinary64 Spelling.numeral
  exact Binary64.ofDecimal_true _ _

namespace Yaml

/-! ### Characters -/

/-- The characters of a written number. -/
def numeralChars : List Char :=
  ['0', '1', '2', '3', '4', '5', '6', '7', '8', '9', '.', 'e', '+', '-']

theorem mem_numeralChars_of_isDigit {c : Char} (digit : c.isDigit = true) : c ∈ numeralChars := by
  have bounds : 48 ≤ c.toNat ∧ c.toNat ≤ 57 := by
    simpa [Char.isDigit, UInt32.le_iff_toNat_le] using digit
  rw [← c.ofNat_toNat]
  obtain ⟨low, high⟩ := bounds
  generalize c.toNat = code at low high
  interval_cases code <;> decide

variable {number : Number} {text : List Char} {spelling : Spelling}

theorem mem_numeralChars_of_mem_text (wellFormed : spelling.WellFormed) :
    ∀ c ∈ spelling.text, c ∈ numeralChars := by
  obtain ⟨whole, fraction, exponent⟩ := spelling
  obtain ⟨⟨-, isWhole⟩, -, isFraction, isExponent⟩ := wellFormed
  intro c member
  simp only [Spelling.text, List.mem_append] at member
  obtain digit | fractional | power := member
  · exact mem_numeralChars_of_isDigit (isWhole c digit)
  · cases fraction with
    | none => cases fractional
    | some digits =>
      obtain rfl | digit := List.mem_cons.mp fractional
      · decide
      · exact mem_numeralChars_of_isDigit ((isFraction digits rfl).2 c digit)
  · cases exponent with
    | none => cases power
    | some exponent =>
      obtain ⟨down, digits⟩ := exponent
      obtain rfl | signed := List.mem_cons.mp power
      · decide
      · obtain rfl | digit := List.mem_cons.mp signed
        · cases down <;> decide
        · exact mem_numeralChars_of_isDigit ((isExponent down digits rfl).2 c digit)

theorem mem_numeralChars_of_spells (spells : number.Spells text) :
    ∀ c ∈ text, c ∈ numeralChars := by
  obtain ⟨negative, spelling, wellFormed, rfl, -⟩ := spells
  intro c member
  obtain sign | digits := List.mem_append.mp member
  · cases negative with
    | true =>
      cases List.mem_singleton.mp sign
      decide
    | false => cases sign
  · exact mem_numeralChars_of_mem_text wellFormed c digits

/-- No character of a number has a meaning in a document or in a number but its own. -/
theorem numeralChar : ∀ c ∈ numeralChars, (isPrintableAscii c = true ∧ c ≠ ' ') ∧ c ≠ '#' ∧
    c ≠ ':' ∧ c ≠ '_' ∧ c.toLower = c ∧ isBlank c = false :=
  List.all_iff_forall_prop.mp (by decide)

/-! ### Words -/

theorem isPlainWord_of_spells (spells : number.Spells text) : IsPlainWord text := by
  have chars := mem_numeralChars_of_spells spells
  refine ⟨?_, fun c member => (numeralChar c (chars c member)).1, ?_, ?_⟩
  · obtain ⟨c, more, rfl, -⟩ := spells.cons
    exact List.cons_ne_nil c more
  · intro comment
    exact (numeralChar _ (chars _ (List.mem_of_head? comment))).2.1 rfl
  · intro colon
    exact (numeralChar _ (chars _ (List.mem_of_getLast? colon))).2.2.1 rfl

/-- A number may stand where a plain scalar begins. -/
theorem beginsPlain_of_spells (spells : number.Spells text) :
    ∃ c more, text = c :: more ∧ BeginsPlain c more.head? := by
  have chars := mem_numeralChars_of_spells spells
  obtain ⟨negative, spelling, wellFormed, rfl, -⟩ := spells
  obtain ⟨d, more, same, digit⟩ := wellFormed.text_cons
  rw [same] at chars ⊢
  have ink : IsInk d := by
    have isChar : IsWordChar d := (numeralChar d (chars d (by simp))).1
    exact isChar.ink
  cases negative with
  | true =>
    exact ⟨'-', d :: more, rfl, ⟨by decide, by decide⟩, by decide, fun _ => isBlankOrEnd_ink ink⟩
  | false =>
    have isDigit : ∀ e : Char, e.isDigit = false → d ≠ e := by
      rintro e notDigit rfl
      rw [digit] at notDigit
      cases notDigit
    refine ⟨d, more, rfl, (numeralChar d (chars d (by simp))).1, ?_, ?_⟩
    · intro sign
      have noDigit : ∀ e ∈ signs, e.isDigit = false := List.all_iff_forall_prop.mp (by decide)
      exact isDigit d (noDigit d sign) rfl
    · rintro (rfl | rfl | rfl) <;> cases digit

/-! ### Tags -/

/-- No word for truth begins like a number. -/
theorem not_truthWord (spells : number.Spells text) :
    truthWords.contains (String.ofList text) = false := by
  obtain ⟨c, more, rfl, other⟩ := spells.cons
  rw [List.contains_eq_mem, decide_eq_false_iff_not]
  intro word
  have letters : ∀ word ∈ truthWords,
      word.toList.head?.any (fun d => d != '-' && !d.isDigit) = true := by decide
  obtain ⟨d, head, isLetter⟩ := (Option.any_eq_true _ _).mp (letters _ word)
  have noSign : d ≠ '-' := fun sign => by simp [sign] at isLetter
  have noDigit : d.isDigit = false := (Bool.not_eq_true' _).mp (Bool.and_eq_true_iff.mp isLetter).2
  rw [String.toList_ofList] at head
  exact other d noSign noDigit (Option.some.inj head)

/-- Digits are the digits in front of whatever is none. -/
theorem dropWhile_digits {digits rest : List Char} (isDigits : ∀ c ∈ digits, c.isDigit = true)
    (stops : rest.head?.any isDigitOrGap = false) :
    (digits ++ rest).dropWhile isDigitOrGap = rest := by
  rw [List.dropWhile_append_of_pos fun c member => by simp [isDigitOrGap, isDigits c member]]
  cases rest with
  | nil => rfl
  | cons c rest => rw [List.dropWhile_cons_of_neg (by simpa using stops)]

theorem isSignedExponent_exponentText (wellFormed : spelling.WellFormed) :
    isSignedExponent (Spelling.exponentText spelling.exponent) = true := by
  cases exponent : spelling.exponent with
  | none => rfl
  | some power =>
    obtain ⟨down, digits⟩ := power
    obtain ⟨some_, isDigits⟩ := wellFormed.exponent down digits exponent
    cases down <;> simpa [Spelling.exponentText, isSignedExponent, some_] using isDigits

/-- The sign comes off a number. -/
theorem afterSign_spelling (wellFormed : spelling.WellFormed) (negative : Bool) :
    afterSign (Number.signText negative ++ spelling.text) = spelling.text := by
  obtain ⟨d, more, same, digit⟩ := wellFormed.text_cons
  cases negative with
  | true => rfl
  | false =>
    have noSign : d ≠ '+' ∧ d ≠ '-' := by
      constructor <;>
      · rintro rfl
        exact absurd digit (by decide)
    rw [same]
    show afterSign (d :: more) = d :: more
    simp [afterSign, noSign]

/-- A text that does not begin with a point is no word that does. -/
theorem any_word_eq_false {words : List String} (points : ∀ word ∈ words, word.toList.head? = some '.')
    (noPoint : text.head? ≠ some '.') : (words.any fun word => word.toList == text) = false := by
  rw [List.any_eq_false]
  intro word member same
  rw [beq_iff_eq] at same
  exact noPoint (same ▸ points word member)

/-- A number has a point if it is written with a fraction. -/
theorem isReal_spelling (wellFormed : spelling.WellFormed) (negative : Bool) :
    isReal (Number.signText negative ++ spelling.text) = spelling.fraction.isSome := by
  have magnitude := afterSign_spelling wellFormed negative
  obtain ⟨d, more, same, digit⟩ := wellFormed.text_cons
  have noPoint : d ≠ '.' := by
    rintro rfl
    exact absurd digit (by decide)
  have noPointInside : spelling.text.head? ≠ some '.' := by
    rw [same]
    simpa using noPoint
  have noPointBefore : (Number.signText negative ++ spelling.text).head? ≠ some '.' := by
    cases negative with
    | true => simp [Number.signText]
    | false => exact noPointInside
  have afterDigits : spelling.text.dropWhile isDigitOrGap =
      Spelling.fractionText spelling.fraction ++ Spelling.exponentText spelling.exponent := by
    refine dropWhile_digits wellFormed.whole.2 ?_
    cases spelling.fraction with
    | some digits => rfl
    | none =>
      cases spelling.exponent with
      | none => rfl
      | some power => rfl
  have first : spelling.text.head?.any Char.isDigit = true := by
    rw [same]
    exact digit
  unfold isReal
  dsimp only
  rw [magnitude, any_word_eq_false (by decide) noPointInside,
    any_word_eq_false (by decide) noPointBefore, if_neg Bool.false_ne_true,
    if_neg Bool.false_ne_true]
  split
  next point => exact absurd (by rw [point]; rfl) noPointBefore
  next =>
    rw [first, afterDigits]
    cases fraction : spelling.fraction with
    | some digits =>
      have last : (digits ++ Spelling.exponentText spelling.exponent).dropWhile isDigitOrGap =
          Spelling.exponentText spelling.exponent := by
        refine dropWhile_digits (wellFormed.fraction digits fraction).2 ?_
        cases spelling.exponent with
        | none => rfl
        | some power => rfl
      simp [Spelling.fractionText, last, isSignedExponent_exponentText wellFormed]
    | none =>
      cases spelling.exponent with
      | none => rfl
      | some power => simp [Spelling.fractionText, Spelling.exponentText]

/-- What is written with a point has a fraction. -/
theorem isSome_fraction (wellFormed : spelling.WellFormed) (point : '.' ∈ spelling.text) :
    spelling.fraction.isSome = true := by
  cases fraction : spelling.fraction with
  | some digits => rfl
  | none =>
    have noDigit : ∀ {digits : List Char}, IsAsciiDigits digits → '.' ∉ digits := by
      intro digits isDigits member
      exact absurd (isDigits.2 '.' member) (by decide)
    rw [Spelling.text, fraction] at point
    obtain inside | power := List.mem_append.mp point
    · exact absurd inside (noDigit wellFormed.whole)
    · cases exponent : spelling.exponent with
      | none =>
        rw [exponent] at power
        cases power
      | some signed =>
        obtain ⟨down, digits⟩ := signed
        rw [exponent] at power
        have noPoint := noDigit (wellFormed.exponent down digits exponent)
        cases down <;> simp [Spelling.fractionText, Spelling.exponentText, noPoint] at power

/-! ### Values -/

/-- A written number has no capital letters. -/
theorem lowered_chars (chars : ∀ c ∈ text, c ∈ numeralChars) : lowered text = text :=
  (List.map_congr_left fun c member => (numeralChar c (chars c member)).2.2.2.2.1).trans
    (List.map_id text)

/-- A written number has no underscores. -/
theorem withoutGaps_chars (chars : ∀ c ∈ text, c ∈ numeralChars) : withoutGaps text = text := by
  refine List.filter_eq_self.mpr fun c member => ?_
  simpa using (numeralChar c (chars c member)).2.2.2.1

theorem joinDigitGroups?_chars (chars : ∀ c ∈ text, c ∈ numeralChars) (before : Option Char) :
    joinDigitGroups? before text = some text := by
  induction text generalizing before with
  | nil => rfl
  | cons c text ih =>
    rw [List.forall_mem_cons] at chars
    have noGap := (numeralChar c chars.1).2.2.2.1
    rw [joinDigitGroups?, ih chars.2]
    · rfl
    · exact noGap

theorem trim_chars (chars : ∀ c ∈ text, c ∈ numeralChars) : trim text = text := by
  have visible : ∀ c ∈ text, isBlank c = false := fun c member =>
    (numeralChar c (chars c member)).2.2.2.2.2
  have noneAtStart : trimStart text = text := by
    cases text with
    | nil => rfl
    | cons c text => exact trimStart_visible (visible c List.mem_cons_self)
  rw [trim, noneAtStart, trimEnd]
  cases back : text.reverse with
  | nil => rw [← List.reverse_reverse text, back]; rfl
  | cons c others =>
    have last : isBlank c = false := visible c (List.mem_reverse.mp (back ▸ List.mem_cons_self))
    rw [List.dropWhile_cons_of_neg (by simp [last]), ← back, List.reverse_reverse]

theorem readLiteral?_spelling (wellFormed : spelling.WellFormed) :
    Binary64.readLiteral? spelling.text = some (spelling.numeral false).toBinary64 := by
  have chars := mem_numeralChars_of_mem_text wellFormed
  have read : Numeral.readUnsigned? (spelling.text ++ []) = _ :=
    Spelling.readUnsigned?_text wellFormed nofun
  rw [List.append_nil] at read
  obtain ⟨d, more, same, digit⟩ := wellFormed.text_cons
  have noLetter : ∀ e : Char, e.isDigit = false → d ≠ e := by
    rintro e notDigit rfl
    rw [digit] at notDigit
    cases notDigit
  have noWord : ∀ word : String, (word.toList.head?.all fun e => !e.isDigit) = true →
      spelling.text ≠ word.toList := by
    intro word letter isWord
    rw [← isWord, same] at letter
    simp [digit] at letter
  have magnitude : Binary64.readMagnitude? false spelling.text =
      some (spelling.numeral false).toBinary64 := by
    unfold Binary64.readMagnitude?
    rw [lowered_chars chars, if_neg (not_or.mpr ⟨noWord "inf" rfl, noWord "infinity" rfl⟩),
      if_neg (noWord "nan" rfl), read]
    rfl
  rw [Binary64.readLiteral?, trim_chars chars, joinDigitGroups?_chars chars, Option.bind_some]
  rw [same] at magnitude ⊢
  rw [Binary64.read?]
  · exact magnitude
  · intro rest begins
    exact noLetter '-' rfl (List.cons.inj begins).1
  · intro rest begins
    exact noLetter '+' rfl (List.cons.inj begins).1

theorem isNegative_spelling (wellFormed : spelling.WellFormed) (negative : Bool) :
    isNegative (Number.signText negative ++ spelling.text) = negative := by
  obtain ⟨d, more, same, digit⟩ := wellFormed.text_cons
  cases negative with
  | true => rfl
  | false =>
    rw [same]
    show (some d == some '-') = false
    rw [beq_eq_false_iff_ne]
    rintro ⟨⟩
    cases digit

/-- **A number with a fraction denotes what it spells.** -/
theorem realOf_spelling (wellFormed : spelling.WellFormed) (negative : Bool) :
    realOf (Number.signText negative ++ spelling.text) =
      .ok (spelling.numeral negative).toBinary64 := by
  have chars := mem_numeralChars_of_mem_text wellFormed
  have all : ∀ c ∈ Number.signText negative ++ spelling.text, c ∈ numeralChars := by
    intro c member
    obtain sign | digits := List.mem_append.mp member
    · cases negative with
      | true =>
        cases List.mem_singleton.mp sign
        decide
      | false => cases sign
    · exact chars c digits
  have noWord : ∀ word : List Char, word.head? = some '.' → spelling.text ≠ word := by
    rintro word point rfl
    obtain ⟨d, more, same, digit⟩ := wellFormed.text_cons
    rw [same] at point
    cases point
    cases digit
  have noGroups : spelling.text.contains ':' = false := by
    rw [List.contains_eq_mem, decide_eq_false_iff_not]
    intro colon
    exact (numeralChar _ (chars _ colon)).2.2.1 rfl
  unfold realOf
  dsimp only
  rw [withoutGaps_chars all, lowered_chars all, afterSign_spelling wellFormed,
    if_neg (noWord _ rfl), if_neg (noWord _ rfl), noGroups, if_neg Bool.false_ne_true,
    readLiteral?_spelling wellFormed, isNegative_spelling wellFormed]
  dsimp only
  cases negative with
  | true => rw [if_pos rfl, Spelling.toBinary64_true]
  | false => rw [if_neg Bool.false_ne_true]

/-- **A number with a point has the tag of a real number and denotes it.** -/
theorem scalarDatum_real {value : Binary64} (spells : (Number.real value).Spells text)
    (point : '.' ∈ text) :
    impliedTag (String.ofList text) = basicTag "float" ∧
      scalarDatum (basicTag "float") (String.ofList text) = .ok (.number (.real value)) := by
  have noTruth := not_truthWord spells
  obtain ⟨negative, spelling, wellFormed, rfl, denotes, -⟩ := spells
  have inside : '.' ∈ spelling.text := by
    refine (List.mem_append.mp point).resolve_left fun sign => ?_
    cases negative with
    | true => exact absurd (List.mem_singleton.mp sign) (by decide)
    | false => cases sign
  have fraction := isSome_fraction wellFormed inside
  have real : (spelling.numeral negative).toBinary64 = value := by
    have noInteger : (spelling.numeral negative).isInteger = false := by
      obtain ⟨digits, same⟩ := Option.isSome_iff_exists.mp fraction
      simp [Numeral.isInteger, Spelling.numeral, same]
    rw [Numeral.number, noInteger, if_neg Bool.false_ne_true] at denotes
    exact Number.real.inj denotes
  constructor
  · rw [impliedTag, noTruth, String.toList_ofList, isReal_spelling wellFormed, fraction]
    rfl
  · rw [scalarDatum, if_neg (by decide), if_neg (by decide), if_neg (by decide),
      if_neg (by decide), if_pos rfl, String.toList_ofList, realOf_spelling wellFormed, real]
    rfl

/-! ### Integers -/

theorem hexDigit?_of_isDigit {c : Char} (digit : c.isDigit = true) :
    hexDigit? c = some (c.toNat - 0x30) := by
  have bounds : '0' ≤ c ∧ c ≤ '9' := by simpa [Char.isDigit, Char.le_def] using digit
  rw [hexDigit?, if_pos bounds]

theorem isDigitOf_ten {c : Char} (digit : c.isDigit = true) : isDigitOf 10 c = true := by
  have bounds : 48 ≤ c.toNat ∧ c.toNat ≤ 57 := by
    simpa [Char.isDigit, UInt32.le_iff_toNat_le] using digit
  rw [isDigitOf, hexDigit?_of_isDigit digit]
  simp only [Option.any_some, decide_eq_true_eq]
  omega

/-- Digits denote their number in base ten. -/
theorem inBase_toDigits (value : Nat) : inBase 10 (Nat.toDigits 10 value) = .ok (value : Int) := by
  have isDigits : ∀ c ∈ Nat.toDigits 10 value, c.isDigit = true := fun _ => isDigit_of_mem_toDigits
  have denotes (digits : List Char) (isDigits : ∀ c ∈ digits, c.isDigit = true) (start : Nat) :
      digits.foldl (fun value c => ((10 : Nat) : Int) * value + ((hexDigit? c).getD 0 : Nat))
          (start : Int) =
        (Nat.ofDigitChars 10 digits start : Nat) := by
    induction digits generalizing start with
    | nil => rfl
    | cons c digits ih =>
      rw [List.forall_mem_cons] at isDigits
      rw [List.foldl_cons, Nat.ofDigitChars_cons, hexDigit?_of_isDigit isDigits.1]
      exact ih isDigits.2 _
  have all : (Nat.toDigits 10 value).all (isDigitOf 10) = true :=
    List.all_eq_true.mpr fun c member => isDigitOf_ten (isDigits c member)
  rw [inBase, if_pos ⟨Nat.toDigits_ne_nil, all⟩]
  refine congrArg Except.ok ((denotes _ isDigits 0).trans ?_)
  rw [Nat.ofDigitChars_ten_toDigits]

theorem nonzero_digit {c : Char} (digit : c.isDigit = true) (nonzero : c ≠ '0') :
    ('1' ≤ c && c ≤ '9') = true := by
  have each : ∀ c ∈ numeralChars, c.isDigit = true → c ≠ '0' → ('1' ≤ c && c ≤ '9') = true :=
    List.all_iff_forall_prop.mp (by decide)
  exact each c (mem_numeralChars_of_isDigit digit) digit nonzero

section Integer

variable {value : Int}

/-- The digits of an integer, without its sign. -/
theorem afterSign_intText (value : Int) :
    afterSign (intText value).toList = Nat.toDigits 10 value.natAbs := by
  rw [Number.toList_intText, afterSign_spelling (Number.wellFormed_digitsSpelling _),
    Number.text_digitsSpelling]

theorem exists_toDigits (nonzero : value ≠ 0) :
    ∃ c more, Nat.toDigits 10 value.natAbs = c :: more ∧ c.isDigit = true ∧ c ≠ '0' ∧
      ∀ d ∈ more, d.isDigit = true := by
  have isDigits : ∀ c ∈ Nat.toDigits 10 value.natAbs, c.isDigit = true :=
    fun _ => isDigit_of_mem_toDigits
  have first := head?_toDigits_ne_zero (Int.natAbs_pos.mpr nonzero)
  obtain ⟨c, more, same⟩ := List.exists_cons_of_ne_nil
    (Nat.toDigits_ne_nil (n := value.natAbs) (b := 10))
  rw [same] at isDigits first
  rw [List.forall_mem_cons] at isDigits
  exact ⟨c, more, same, isDigits.1, fun zero => first (by rw [zero]; rfl), isDigits.2⟩

theorem isInteger_intText (value : Int) : isInteger (intText value).toList = true := by
  by_cases zero : value = 0
  · subst zero
    decide
  · obtain ⟨c, more, same, digit, nonzero, isDigits⟩ := exists_toDigits zero
    have noneLeft : more.dropWhile isDigitOrGap = [] := by
      have dropped : (more ++ []).dropWhile isDigitOrGap = [] := dropWhile_digits isDigits rfl
      rwa [List.append_nil] at dropped
    unfold isInteger
    rw [afterSign_intText, same]
    simp [nonzero, nonzero_digit digit nonzero, noneLeft, isSexagesimalTail]

theorem integerOf_intText (short : (Nat.toDigits 10 value.natAbs).length ≤ digitLimit) :
    integerOf (intText value).toList = .ok value := by
  by_cases zero : value = 0
  · subst zero
    rfl
  · obtain ⟨c, more, same, digit, nonzero, isDigits⟩ := exists_toDigits zero
    have chars := mem_numeralChars_of_spells (Number.spells_intText value)
    have denotes := inBase_toDigits value.natAbs
    rw [same] at short denotes
    have noGroups : (c :: more).contains ':' = false := by
      rw [List.contains_eq_mem, decide_eq_false_iff_not]
      intro colon
      have digits : ∀ d ∈ c :: more, d.isDigit = true := List.forall_mem_cons.mpr ⟨digit, isDigits⟩
      exact absurd (digits ':' colon) (by decide)
    have magnitude : decimalInteger (c :: more) = .ok (value.natAbs : Int) := by
      rw [decimalInteger, if_neg fun long => Nat.not_lt.mpr short long.1, denotes]
    have sign : isNegative (intText value).toList = decide (value < 0) := by
      rw [Number.toList_intText, isNegative_spelling (Number.wellFormed_digitsSpelling _)]
    unfold integerOf
    dsimp only
    rw [withoutGaps_chars chars, afterSign_intText, same, sign]
    split
    next first => exact absurd (List.cons.inj first).1 nonzero
    next first => exact absurd (List.cons.inj first).1 nonzero
    next first => exact absurd (List.cons.inj first).1 nonzero
    next first => exact absurd (List.cons.inj first).1 nonzero
    next =>
      rw [noGroups, if_neg Bool.false_ne_true, magnitude, ok_bind]
      refine congrArg Except.ok ?_
      by_cases negative : value < 0
      · rw [decide_eq_true negative, if_pos rfl]
        omega
      · rw [decide_eq_false negative, if_neg Bool.false_ne_true]
        omega

/-- **An integer has the tag of integers and denotes itself**, if it is not too long. -/
theorem scalarDatum_int (short : (Nat.toDigits 10 value.natAbs).length ≤ digitLimit) :
    impliedTag (intText value) = basicTag "int" ∧
      scalarDatum (basicTag "int") (intText value) = .ok (.number (.int value)) := by
  have noTruth := not_truthWord (Number.spells_intText value)
  rw [String.ofList_toList] at noTruth
  have noReal : isReal (intText value).toList = false := by
    rw [Number.toList_intText, isReal_spelling (Number.wellFormed_digitsSpelling _)]
    rfl
  constructor
  · rw [impliedTag, noTruth, noReal, isInteger_intText]
    rfl
  · rw [scalarDatum, if_neg (by decide), if_neg (by decide), if_neg (by decide), if_pos rfl,
      integerOf_intText short]
    rfl

end Integer

/-! ### Points -/

/-- A real number is written with a point. -/
theorem point_write (negative : Bool) {units : Nat} (representable : Representable units) :
    '.' ∈ (Binary64.finite negative units representable).write yamlNumeral := by
  have decimal (decimal : Decimal) : '.' ∈ decimal.write yamlNumeral := by
    unfold Decimal.write Decimal.positional Decimal.scientific
    split
    · dsimp only
      split_ifs <;> simp
    · cases tail : decimal.digits.tail <;> simp [yamlNumeral]
  rw [Binary64.write]
  refine List.mem_append_right _ ?_
  split
  · decide
  · exact decimal _

end Yaml

end TypeSchema
