/-
**Written numbers.**

* `Spelling`: a numeral in ASCII digits, without its sign and without superfluous zeros before it;
* `Spelling.readUnsigned?_text`, `Spelling.readMagnitude_text`: both readers of numbers take a
  spelling as a whole and give the numeral it spells;
* `Decimal.spells_write`: however a decimal is laid out, it is spelled;
* `Number.Spells`, `spells_document`, `spells_literal`: **a written number is a spelling of that
  number**, if it is finite.
-/

import TypeSchema.Json.Read
import TypeSchema.Json.Write
import TypeSchema.Proofs.Number.Rounding
import TypeSchema.Proofs.TypeExpr.Grammar

namespace TypeSchema

/-! ### Digits -/

/-- One or more ASCII digits. -/
def IsAsciiDigits (digits : List Char) : Prop := digits ≠ [] ∧ ∀ c ∈ digits, c.isDigit

theorem lt_of_isDigit {c : Char} (digit : c.isDigit = true) : c.toNat < 0x80 := by
  have bounds : 48 ≤ c.toNat ∧ c.toNat ≤ 57 := by simpa [Char.isDigit, UInt32.le_iff_toNat_le] using digit
  omega

theorem decimalDigit?_of_isDigit {c : Char} (digit : c.isDigit = true) :
    decimalDigit? c = some (c.toNat - 0x30) := by
  rw [decimalDigit?, if_pos (lt_of_isDigit digit), if_pos digit]

theorem isDecimalDigit_of_isDigit {c : Char} (digit : c.isDigit = true) :
    isDecimalDigit c = true := by
  rw [isDecimalDigit, decimalDigit?_of_isDigit digit]
  rfl

/-- ASCII digits denote what they denote in base ten. -/
theorem digitsValue_eq {digits : List Char} (isDigits : ∀ c ∈ digits, c.isDigit) :
    digitsValue digits = Nat.ofDigitChars 10 digits 0 := by
  have from_ (start : Nat) :
      digits.foldl (fun value c => 10 * value + (decimalDigit? c).getD 0) start =
        Nat.ofDigitChars 10 digits start := by
    induction digits generalizing start with
    | nil => rfl
    | cons c digits ih =>
      rw [List.foldl_cons, Nat.ofDigitChars_cons,
        decimalDigit?_of_isDigit (isDigits c List.mem_cons_self)]
      exact ih (fun d member => isDigits d (List.mem_cons_of_mem c member)) _
  exact from_ 0

theorem isDigit_of_mem_toDigits {value : Nat} {c : Char} (member : c ∈ Nat.toDigits 10 value) :
    c.isDigit = true := Nat.isDigit_of_mem_toDigits (by decide) (by decide) member

theorem isAsciiDigits_toDigits (value : Nat) : IsAsciiDigits (Nat.toDigits 10 value) :=
  ⟨Nat.toDigits_ne_nil, fun _ => isDigit_of_mem_toDigits⟩

theorem digitsValue_toDigits (value : Nat) : digitsValue (Nat.toDigits 10 value) = value := by
  rw [digitsValue_eq fun _ => isDigit_of_mem_toDigits, Nat.ofDigitChars_ten_toDigits]

theorem isDigit_of_mem_replicate {count : Nat} {c : Char} (member : c ∈ List.replicate count '0') :
    c.isDigit = true := by
  rw [List.eq_of_mem_replicate member]
  rfl

/-- Zeros before the digits of a number change nothing. -/
theorem digitsValue_zeros_append (zeros value : Nat) :
    digitsValue (List.replicate zeros '0' ++ Nat.toDigits 10 value) = value := by
  rw [digitsValue_eq]
  · rw [Nat.ofDigitChars_append, Nat.ofDigitChars_replicate_zero, Nat.mul_zero,
      Nat.ofDigitChars_ten_toDigits]
  · intro c member
    exact (List.mem_append.mp member).elim isDigit_of_mem_replicate isDigit_of_mem_toDigits

/-- Zeros after the digits of a number multiply it. -/
theorem digitsValue_append_zeros (value zeros : Nat) :
    digitsValue (Nat.toDigits 10 value ++ List.replicate zeros '0') = value * 10 ^ zeros := by
  rw [digitsValue_eq]
  · rw [Nat.ofDigitChars_append, Nat.ofDigitChars_ten_toDigits, Nat.ofDigitChars_replicate_zero,
      Nat.mul_comm]
  · intro c member
    exact (List.mem_append.mp member).elim isDigit_of_mem_toDigits isDigit_of_mem_replicate

/-- The digits of a positive number begin with no zero. -/
theorem head?_toDigits_ne_zero {value : Nat} (positive : 0 < value) :
    (Nat.toDigits 10 value).head? ≠ some '0' := by
  induction value using Nat.strongRecOn with
  | _ value ih =>
    by_cases small : value < 10
    · rw [Nat.toDigits_of_lt_base small, List.head?_cons, Ne, Option.some.injEq,
        Nat.digitChar_eq_zero]
      exact Nat.ne_of_gt positive
    · have split := Nat.toDigits_append_toDigits (b := 10) (n := value / 10) (d := value % 10)
        (by decide) (by omega) (Nat.mod_lt _ (by decide))
      rw [Nat.div_add_mod] at split
      rw [← split, List.head?_append, Option.or_of_isSome
        (List.isSome_head?.mpr Nat.toDigits_ne_nil)]
      exact ih (value / 10) (by omega) (by omega)

/-! ### Spellings -/

/-- A numeral as it is written, without its sign: digits, perhaps a point and more digits, perhaps
a power of ten with its sign. -/
structure Spelling where
  whole : List Char
  fraction : Option (List Char)
  /-- Whether the power of ten is negative, and its digits. -/
  exponent : Option (Bool × List Char)

namespace Spelling

/-- Digits stand in each place, and no zero before others. -/
structure WellFormed (spelling : Spelling) : Prop where
  whole : IsAsciiDigits spelling.whole
  noZero : spelling.whole.head? = some '0' → spelling.whole = ['0']
  fraction : ∀ digits, spelling.fraction = some digits → IsAsciiDigits digits
  exponent : ∀ down digits, spelling.exponent = some (down, digits) → IsAsciiDigits digits

/-- The digits behind the point, with the point. -/
def fractionText : Option (List Char) → List Char
  | none => []
  | some digits => '.' :: digits

/-- The power of ten. -/
def exponentText : Option (Bool × List Char) → List Char
  | none => []
  | some (down, digits) => 'e' :: (if down then '-' else '+') :: digits

/-- The text of a spelling. -/
def text (spelling : Spelling) : List Char :=
  spelling.whole ++ (fractionText spelling.fraction ++ exponentText spelling.exponent)

/-- A spelling begins with a digit. -/
theorem WellFormed.text_cons {spelling : Spelling} (wellFormed : spelling.WellFormed) :
    ∃ d more, spelling.text = d :: more ∧ d.isDigit = true := by
  obtain ⟨some_, isDigits⟩ := wellFormed.whole
  obtain ⟨d, more, same⟩ := List.exists_cons_of_ne_nil some_
  exact ⟨d, _, by rw [text, same]; rfl, isDigits d (same ▸ List.mem_cons_self)⟩

/-- The value of a power of ten. -/
def exponentValue : Bool × List Char → Int
  | (down, digits) => if down then -(digitsValue digits : Int) else digitsValue digits

/-- The numeral of a spelling, with a sign. -/
def numeral (negative : Bool) (spelling : Spelling) : Numeral :=
  ⟨negative, spelling.whole, spelling.fraction, spelling.exponent.map exponentValue⟩

/-- No numeral goes on here. -/
def Ends (rest : List Char) : Prop :=
  ∀ c, rest.head? = some c → isDecimalDigit c = false ∧ c ≠ '.' ∧ c ≠ 'e' ∧ c ≠ 'E'

theorem takeWhile_append_of_stop (digit : Char → Bool) {digits rest : List Char}
    (isDigits : ∀ c ∈ digits, digit c) (stops : ∀ c, rest.head? = some c → digit c = false) :
    (digits ++ rest).takeWhile digit = digits := by
  rw [List.takeWhile_append_of_pos isDigits]
  cases rest with
  | nil => simp
  | cons c rest => simp [stops c rfl]

theorem dropWhile_append_of_stop (digit : Char → Bool) {digits rest : List Char}
    (isDigits : ∀ c ∈ digits, digit c) (stops : ∀ c, rest.head? = some c → digit c = false) :
    (digits ++ rest).dropWhile digit = rest := by
  rw [List.dropWhile_append_of_pos isDigits]
  cases rest with
  | nil => rfl
  | cons c rest => simp [stops c rfl]

variable {spelling : Spelling} {rest : List Char}

theorem Ends.notDigit (ends : Ends rest) (c : Char) (first : rest.head? = some c) :
    isDecimalDigit c = false := (ends c first).1

/-- What follows the digits before the point is no digit. -/
theorem head?_exponentText (exponent : Option (Bool × List Char)) (ends : Ends rest) {c : Char}
    (first : (exponentText exponent ++ rest).head? = some c) : isDecimalDigit c = false := by
  cases exponent with
  | none => exact ends.notDigit c first
  | some exponent =>
    cases first
    decide

theorem head?_fractionText (fraction : Option (List Char))
    (exponent : Option (Bool × List Char)) (ends : Ends rest) {c : Char}
    (first : (fractionText fraction ++ (exponentText exponent ++ rest)).head? = some c) :
    isDecimalDigit c = false := by
  cases fraction with
  | none => exact head?_exponentText exponent ends first
  | some digits =>
    cases first
    decide

theorem readExponent_exponentText {exponent : Option (Bool × List Char)} (ends : Ends rest)
    (isDigits : ∀ down digits, exponent = some (down, digits) → IsAsciiDigits digits) :
    Numeral.readExponent (exponentText exponent ++ rest) = (exponent.map exponentValue, rest) := by
  match exponent with
  | none =>
    cases rest with
    | nil => rfl
    | cons c rest =>
      have noMark := ends c rfl
      unfold exponentText Numeral.readExponent
      split <;> simp_all
  | some (down, digits) =>
    obtain ⟨some_, isDigits⟩ := isDigits down digits rfl
    have taken := takeWhile_append_of_stop _ (fun c member => isDecimalDigit_of_isDigit
      (isDigits c member)) ends.notDigit
    have dropped := dropWhile_append_of_stop _ (fun c member => isDecimalDigit_of_isDigit
      (isDigits c member)) ends.notDigit
    cases down <;>
      simp [exponentText, Numeral.readExponent, exponentValue, taken, dropped, some_]

/-- Without digits behind it there is no point. -/
theorem exponentText_ne_point {exponent : Option (Bool × List Char)} (ends : Ends rest)
    {more : List Char} : exponentText exponent ++ rest ≠ '.' :: more := by
  intro same
  cases exponent with
  | none =>
    subst same
    exact (ends '.' rfl).2.1 rfl
  | some exponent => cases same

/-- **The reader of numerals takes a spelling as a whole.** -/
theorem readUnsigned?_text (wellFormed : spelling.WellFormed) (ends : Ends rest) :
    Numeral.readUnsigned? (spelling.text ++ rest) = some (spelling.numeral false, rest) := by
  obtain ⟨whole, fraction, exponent⟩ := spelling
  obtain ⟨⟨some_, isWhole⟩, -, isFraction, isExponent⟩ := wellFormed
  have isWhole' (c : Char) (member : c ∈ whole) := isDecimalDigit_of_isDigit (isWhole c member)
  have readExponent := readExponent_exponentText ends isExponent
  have taken := takeWhile_append_of_stop isDecimalDigit isWhole'
    (fun c => head?_fractionText fraction exponent ends)
  have dropped := dropWhile_append_of_stop isDecimalDigit isWhole'
    (fun c => head?_fractionText fraction exponent ends)
  simp only [text, List.append_assoc]
  unfold Numeral.readUnsigned?
  rw [taken, dropped]
  cases fraction with
  | none =>
    dsimp only [fractionText, List.nil_append]
    split
    · rename_i same
      exact absurd same (exponentText_ne_point ends)
    · rw [if_neg some_, readExponent]
      rfl
  | some digits =>
    obtain ⟨someDigits, isDigits⟩ := isFraction digits rfl
    have isDigits' (c : Char) (member : c ∈ digits) :=
      isDecimalDigit_of_isDigit (isDigits c member)
    have takenDigits := takeWhile_append_of_stop isDecimalDigit isDigits'
      (fun c => head?_exponentText exponent ends)
    have droppedDigits := dropWhile_append_of_stop isDecimalDigit isDigits'
      (fun c => head?_exponentText exponent ends)
    simp only [fractionText, List.cons_append, takenDigits, droppedDigits, readExponent]
    rw [if_neg fun both => some_ both.1]
    rfl

/-! ### Numbers of documents -/

/-- The power of ten at the beginning of a text, as documents have it. -/
def readPower (text : List Char) : Option Int × List Char :=
  match text with
  | mark :: rest' =>
    if mark = 'e' ∨ mark = 'E' then
      let (down, rest') :=
        match rest' with
        | '-' :: more => (true, more)
        | '+' :: more => (false, more)
        | _ => (false, rest')
      let size : Int := digitsValue (rest'.takeWhile Json.isDigit)
      (some (if down then -size else size), rest'.dropWhile Json.isDigit)
    else (none, text)
  | [] => (none, text)

/-- The digits behind a point at the beginning of a text, as documents have them. -/
def readFraction (text : List Char) : Option (List Char) × List Char :=
  match text with
  | '.' :: rest => (some (rest.takeWhile Json.isDigit), rest.dropWhile Json.isDigit)
  | rest => (none, rest)

/-- A number is read in three parts. -/
theorem readMagnitude_eq (negative : Bool) (text : List Char) :
    Json.readMagnitude negative text =
      (Numeral.number ⟨negative, text.takeWhile Json.isDigit,
        (readFraction (text.dropWhile Json.isDigit)).1,
        (readPower (readFraction (text.dropWhile Json.isDigit)).2).1⟩,
        (readPower (readFraction (text.dropWhile Json.isDigit)).2).2) := rfl

theorem isDigit_eq_false {c : Char} (notDigit : isDecimalDigit c = false) :
    Json.isDigit c = false := by
  cases digit : Json.isDigit c with
  | false => rfl
  | true => rw [isDecimalDigit_of_isDigit digit] at notDigit; cases notDigit

theorem readPower_exponentText {exponent : Option (Bool × List Char)} (ends : Ends rest)
    (isDigits : ∀ down digits, exponent = some (down, digits) → IsAsciiDigits digits) :
    readPower (exponentText exponent ++ rest) = (exponent.map exponentValue, rest) := by
  match exponent with
  | none =>
    cases rest with
    | nil => rfl
    | cons c rest =>
      have noMark := ends c rfl
      simp [exponentText, readPower, noMark]
  | some (down, digits) =>
    have isDigits := (isDigits down digits rfl).2
    have notDigit (c : Char) (first : rest.head? = some c) :=
      isDigit_eq_false (ends.notDigit c first)
    have taken := takeWhile_append_of_stop Json.isDigit isDigits notDigit
    have dropped := dropWhile_append_of_stop Json.isDigit isDigits notDigit
    cases down <;> simp [exponentText, readPower, exponentValue, taken, dropped]

theorem readFraction_fractionText {fraction : Option (List Char)}
    (exponent : Option (Bool × List Char)) (ends : Ends rest)
    (isDigits : ∀ digits, fraction = some digits → IsAsciiDigits digits) :
    readFraction (fractionText fraction ++ (exponentText exponent ++ rest)) =
      (fraction, exponentText exponent ++ rest) := by
  cases fraction with
  | none =>
    rw [fractionText, List.nil_append, readFraction]
    exact fun more same => exponentText_ne_point ends same
  | some digits =>
    have isDigits := (isDigits digits rfl).2
    have notDigit (c : Char) (first : (exponentText exponent ++ rest).head? = some c) :=
      isDigit_eq_false (head?_exponentText exponent ends first)
    have taken := takeWhile_append_of_stop Json.isDigit isDigits notDigit
    have dropped := dropWhile_append_of_stop Json.isDigit isDigits notDigit
    simp only [fractionText, List.cons_append, readFraction, taken, dropped]

/-- **The reader of documents takes a spelling as a whole.** -/
theorem readMagnitude_text (negative : Bool) (wellFormed : spelling.WellFormed)
    (ends : Ends rest) :
    Json.readMagnitude negative (spelling.text ++ rest) =
      ((spelling.numeral negative).number, rest) := by
  obtain ⟨whole, fraction, exponent⟩ := spelling
  obtain ⟨⟨-, isWhole⟩, -, isFraction, isExponent⟩ := wellFormed
  have notDigit (c : Char)
      (first : (fractionText fraction ++ (exponentText exponent ++ rest)).head? = some c) :=
    isDigit_eq_false (head?_fractionText fraction exponent ends first)
  have taken := takeWhile_append_of_stop Json.isDigit isWhole notDigit
  have dropped := dropWhile_append_of_stop Json.isDigit isWhole notDigit
  have readFraction := readFraction_fractionText exponent ends isFraction
  have readPower := readPower_exponentText ends isExponent
  rw [readMagnitude_eq]
  simp only [text, List.append_assoc, taken, dropped, readFraction, readPower]
  rfl

end Spelling

/-! ### Written decimals -/

namespace Decimal

/-- A text spells a decimal: a number with a point or a power of ten that is rounded from it. -/
def Spells (decimal : Decimal) (text : List Char) : Prop :=
  ∃ spelling : Spelling, spelling.WellFormed ∧ text = spelling.text ∧
    ∀ negative, (spelling.numeral negative).number =
      .real (Binary64.ofDecimal negative decimal.coefficient decimal.exponent)

variable {decimal : Decimal}

/-- A spelling with the digits of a decimal, perhaps with zeros behind them, spells it if its power
of ten makes up for these and for the digits behind the point. -/
theorem spells_of_digits (spelling : Spelling) (zeros : Nat) (wellFormed : spelling.WellFormed)
    (point : spelling.fraction.isSome ∨ spelling.exponent.isSome)
    (coefficient : digitsValue (spelling.whole ++ spelling.fraction.getD []) =
      decimal.coefficient * 10 ^ zeros)
    (exponent : (spelling.exponent.map Spelling.exponentValue).getD 0 -
      (spelling.fraction.getD []).length = decimal.exponent - zeros) :
    decimal.Spells spelling.text := by
  refine ⟨spelling, wellFormed, rfl, fun negative => ?_⟩
  have notInteger : (spelling.numeral negative).isInteger = false := by
    rcases point with some_ | some_ <;> obtain ⟨_, isSome⟩ := Option.isSome_iff_exists.mp some_ <;>
      simp [Numeral.isInteger, Spelling.numeral, isSome]
  have shift := Binary64.ofDecimal_shift negative decimal.coefficient (decimal.exponent - zeros)
    zeros
  rw [Int.sub_add_cancel, ← coefficient, ← exponent] at shift
  rw [Numeral.number, notInteger, if_neg Bool.false_ne_true, ← shift]
  rfl

theorem isDigit_of_mem_digits {c : Char} (member : c ∈ decimal.digits) : c.isDigit = true :=
  isDigit_of_mem_toDigits member

theorem length_digits_pos : 0 < decimal.digits.length := Nat.length_toDigits_pos

theorem digits_ne_nil : decimal.digits ≠ [] := Nat.toDigits_ne_nil

/-- What begins with the first digits of a positive number begins with no zero. -/
theorem noZero_of_front (positive : 0 < decimal.coefficient) {front : List Char}
    (isFront : front <+: decimal.digits) (some_ : front ≠ []) (more : List Char) :
    (front ++ more).head? ≠ some '0' := by
  have first := head?_toDigits_ne_zero positive
  obtain ⟨back, same⟩ := isFront
  rw [← digits, ← same, List.head?_append, Option.or_of_isSome (List.isSome_head?.mpr some_)]
    at first
  rwa [List.head?_append, Option.or_of_isSome (List.isSome_head?.mpr some_)]

/-- Only zeros stand before the digits of a number below one. -/
theorem spells_below_one (below : decimal.pointPosition ≤ 0) :
    decimal.Spells
      (['0', '.'] ++ List.replicate (-decimal.pointPosition).toNat '0' ++ decimal.digits) := by
  have isFraction : IsAsciiDigits
      (List.replicate (-decimal.pointPosition).toNat '0' ++ decimal.digits) := by
    refine ⟨fun empty => digits_ne_nil (List.append_eq_nil_iff.mp empty).2, fun c member => ?_⟩
    exact (List.mem_append.mp member).elim isDigit_of_mem_replicate isDigit_of_mem_digits
  have value := digitsValue_zeros_append ((-decimal.pointPosition).toNat + 1) decimal.coefficient
  rw [List.replicate_succ] at value
  have spells := spells_of_digits ⟨['0'],
      some (List.replicate (-decimal.pointPosition).toNat '0' ++ decimal.digits), none⟩ 0
    ⟨⟨by simp, by simp⟩, fun _ => rfl, by rintro digits ⟨⟩; exact isFraction, nofun⟩ (.inl rfl)
    (value.trans (Nat.mul_one _).symm) (by
      simp only [Option.getD_some, List.length_append, List.length_replicate]
      unfold pointPosition at below ⊢
      dsimp only [Option.map_none, Option.getD_none]
      omega)
  simpa [Spelling.text, Spelling.fractionText, Spelling.exponentText] using spells

/-- Only zeros stand behind the digits of a number without a fraction. -/
theorem spells_whole (positive : 0 < decimal.coefficient)
    (whole : (decimal.digits.length : Int) ≤ decimal.pointPosition) :
    decimal.Spells (decimal.digits ++
      List.replicate (decimal.pointPosition.toNat - decimal.digits.length) '0' ++ ['.', '0']) := by
  have isWhole : IsAsciiDigits (decimal.digits ++
      List.replicate (decimal.pointPosition.toNat - decimal.digits.length) '0') := by
    refine ⟨fun empty => digits_ne_nil (List.append_eq_nil_iff.mp empty).1, fun c member => ?_⟩
    exact (List.mem_append.mp member).elim isDigit_of_mem_digits isDigit_of_mem_replicate
  have value := digitsValue_append_zeros decimal.coefficient
    (decimal.pointPosition.toNat - decimal.digits.length + 1)
  rw [List.replicate_succ', ← List.append_assoc] at value
  have spells := spells_of_digits ⟨decimal.digits ++
      List.replicate (decimal.pointPosition.toNat - decimal.digits.length) '0', some ['0'], none⟩ _
    ⟨isWhole,
      fun zero => absurd zero (noZero_of_front positive List.prefix_rfl digits_ne_nil _),
      by rintro digits ⟨⟩; exact ⟨by simp, by simp⟩, nofun⟩ (.inl rfl) value (by
      unfold pointPosition at whole ⊢
      dsimp only [Option.map_none, Option.getD_none, Option.getD_some, List.length_singleton]
      omega)
  simpa [Spelling.text, Spelling.fractionText, Spelling.exponentText] using spells

/-- The point stands between the digits. -/
theorem spells_split (positive : 0 < decimal.coefficient) (some_ : 0 < decimal.pointPosition)
    (inside : decimal.pointPosition < decimal.digits.length) :
    decimal.Spells (decimal.digits.take decimal.pointPosition.toNat ++
      '.' :: decimal.digits.drop decimal.pointPosition.toNat) := by
  have isWhole : IsAsciiDigits (decimal.digits.take decimal.pointPosition.toNat) := by
    refine ⟨List.ne_nil_of_length_pos ?_, fun c member =>
      isDigit_of_mem_digits (List.mem_of_mem_take member)⟩
    rw [List.length_take]
    omega
  have isFraction : IsAsciiDigits (decimal.digits.drop decimal.pointPosition.toNat) := by
    refine ⟨List.ne_nil_of_length_pos ?_, fun c member =>
      isDigit_of_mem_digits (List.mem_of_mem_drop member)⟩
    rw [List.length_drop]
    omega
  have noZero := noZero_of_front positive (List.take_prefix _ _) isWhole.1 []
  rw [List.append_nil] at noZero
  have spells := spells_of_digits ⟨decimal.digits.take decimal.pointPosition.toNat,
      some (decimal.digits.drop decimal.pointPosition.toNat), none⟩ 0
    ⟨isWhole, fun zero => absurd zero noZero, by rintro digits ⟨⟩; exact isFraction, nofun⟩
    (.inl rfl)
    (by
      dsimp only [Option.getD_some]
      rw [List.take_append_drop, digits, digitsValue_toDigits, Nat.pow_zero, Nat.mul_one]) (by
      dsimp only [Option.map_none, Option.getD_none, Option.getD_some]
      rw [List.length_drop]
      unfold pointPosition at some_ inside ⊢
      omega)
  simpa [Spelling.text, Spelling.fractionText, Spelling.exponentText] using spells

theorem spells_positional (positive : 0 < decimal.coefficient) :
    decimal.Spells decimal.positional := by
  unfold positional
  dsimp only
  split_ifs with below whole
  · exact spells_below_one below
  · exact spells_whole positive whole
  · exact spells_split positive (by omega) (by omega)

theorem exponentValue_digits (exponent : Int) (zeros : Nat) :
    Spelling.exponentValue (decide (exponent < 0),
      List.replicate zeros '0' ++ Nat.toDigits 10 exponent.natAbs) = exponent := by
  rw [Spelling.exponentValue, digitsValue_zeros_append]
  split_ifs with negative <;> simp at negative <;> omega

/-- One digit before the point, the others and perhaps some zeros behind it, and the power of ten
that makes up for them. -/
theorem spells_power (positive : 0 < decimal.coefficient) (padding zeros : Nat)
    (fraction : Option (List Char))
    (isFraction : ∀ digits, fraction = some digits → IsAsciiDigits digits)
    (same : decimal.digits.take 1 ++ fraction.getD [] =
      decimal.digits ++ List.replicate zeros '0') :
    decimal.Spells (decimal.digits.take 1 ++ (Spelling.fractionText fraction ++
      'e' :: (if decimal.pointPosition - 1 < 0 then '-' else '+') ::
        (List.replicate padding '0' ++ Nat.toDigits 10 (decimal.pointPosition - 1).natAbs))) := by
  have some_ := decimal.length_digits_pos
  have isWhole : IsAsciiDigits (decimal.digits.take 1) := by
    refine ⟨List.ne_nil_of_length_pos ?_, fun c member =>
      isDigit_of_mem_digits (List.mem_of_mem_take member)⟩
    rw [List.length_take]
    omega
  have isPower : IsAsciiDigits
      (List.replicate padding '0' ++ Nat.toDigits 10 (decimal.pointPosition - 1).natAbs) := by
    refine ⟨fun empty => Nat.toDigits_ne_nil (List.append_eq_nil_iff.mp empty).2,
      fun c member => ?_⟩
    exact (List.mem_append.mp member).elim isDigit_of_mem_replicate isDigit_of_mem_toDigits
  have noZero := noZero_of_front positive (List.take_prefix 1 _) isWhole.1 []
  rw [List.append_nil] at noZero
  have lengths := congrArg List.length same
  rw [List.length_append, List.length_append, List.length_take, List.length_replicate] at lengths
  have spells := spells_of_digits ⟨decimal.digits.take 1, fraction,
      some (decide (decimal.pointPosition - 1 < 0),
        List.replicate padding '0' ++ Nat.toDigits 10 (decimal.pointPosition - 1).natAbs)⟩ zeros
    ⟨isWhole, fun zero => absurd zero noZero, isFraction, by rintro down digits ⟨⟩; exact isPower⟩
    (.inr rfl)
    (by
      dsimp only
      rw [same]
      exact digitsValue_append_zeros _ _) (by
      dsimp only [Option.map_some, Option.getD_some]
      rw [exponentValue_digits]
      unfold pointPosition
      omega)
  simpa [Spelling.text, Spelling.exponentText] using spells

theorem spells_scientific (style : NumeralStyle) (positive : 0 < decimal.coefficient) :
    decimal.Spells (decimal.scientific style) := by
  have whole : decimal.digits.take 1 ++ decimal.digits.tail = decimal.digits := by
    rw [← List.drop_one, List.take_append_drop]
  unfold scientific
  dsimp only
  generalize style.exponentDigits - _ = padding
  cases tail : decimal.digits.tail with
  | nil =>
    rw [tail, List.append_nil] at whole
    cases style.pointBeforeExponent with
    | false =>
      simpa [Spelling.fractionText] using
        spells_power positive padding 0 none nofun (by simpa using whole)
    | true =>
      simpa [Spelling.fractionText] using spells_power positive padding 1 (some ['0'])
        (by rintro digits ⟨⟩; exact ⟨by simp, by simp⟩) (by rw [whole]; rfl)
  | cons d more =>
    rw [tail] at whole
    have isFraction : IsAsciiDigits (d :: more) := by
      refine ⟨List.cons_ne_nil d more, fun c member => ?_⟩
      have isDigit : c ∈ decimal.digits := List.mem_of_mem_tail (tail ▸ member)
      exact isDigit_of_mem_digits isDigit
    simpa [Spelling.fractionText] using spells_power positive padding 0 (some (d :: more))
      (by rintro digits ⟨⟩; exact isFraction) (by simpa using whole)

/-- **However a decimal is laid out, it is spelled.** -/
theorem spells_write (style : NumeralStyle) (positive : 0 < decimal.coefficient) :
    decimal.Spells (decimal.write style) := by
  unfold write
  split
  · exact spells_positional positive
  · exact spells_scientific style positive

end Decimal

/-! ### Written numbers -/

namespace Number

/-- A number that is neither infinite nor no number. -/
def Finite : Number → Prop
  | int _ => True
  | real (.finite ..) => True
  | real _ => False

/-- A minus sign. -/
def signText (negative : Bool) : List Char := if negative then ['-'] else []

/-- A text spells a number: it is a sign and the spelling of a numeral that denotes the number. An
integer is spelled by its digits. -/
def Spells (number : Number) (text : List Char) : Prop :=
  ∃ (negative : Bool) (spelling : Spelling), spelling.WellFormed ∧
    text = signText negative ++ spelling.text ∧ (spelling.numeral negative).number = number ∧
    ∀ value, number = .int value → spelling.whole = Nat.toDigits 10 value.natAbs

/-- The spelling of a natural number by its digits. -/
def digitsSpelling (value : Nat) : Spelling := ⟨Nat.toDigits 10 value, none, none⟩

theorem wellFormed_digitsSpelling (value : Nat) : (digitsSpelling value).WellFormed := by
  refine ⟨isAsciiDigits_toDigits _, fun zero => ?_, nofun, nofun⟩
  rcases Nat.eq_zero_or_pos value with rfl | positive
  · exact Nat.toDigits_zero 10
  · exact absurd zero (head?_toDigits_ne_zero positive)

theorem text_digitsSpelling (value : Nat) : (digitsSpelling value).text = Nat.toDigits 10 value := by
  simp [digitsSpelling, Spelling.text, Spelling.fractionText, Spelling.exponentText]

/-- An integer is written as a sign and its digits. -/
theorem toList_intText (value : Int) :
    (intText value).toList = signText (decide (value < 0)) ++ (digitsSpelling value.natAbs).text := by
  rw [text_digitsSpelling]
  unfold intText
  by_cases negative : value < 0 <;> simp [negative, signText]

theorem spells_intText (value : Int) : (int value).Spells (intText value).toList := by
  refine ⟨decide (value < 0), digitsSpelling value.natAbs, wellFormed_digitsSpelling _,
    toList_intText value, ?_, ?_⟩
  · have size := digitsValue_toDigits value.natAbs
    by_cases negative : value < 0 <;>
      simp only [digitsSpelling, Numeral.number, Numeral.isInteger, Spelling.numeral, Numeral.toInt,
        negative, size, decide_true, decide_false, Option.map_none, Option.isNone_none,
        Bool.and_self, Bool.false_eq_true, ↓reduceIte, int.injEq] <;>
      omega
  · rintro _ ⟨⟩
    rfl

/-- What spells a decimal of a number spells the number. -/
theorem spells_of_decimal {decimal : Decimal} {text : List Char} (spells : decimal.Spells text)
    {negative : Bool} {value : Binary64}
    (denotes : Binary64.ofDecimal negative decimal.coefficient decimal.exponent = value) :
    (real value).Spells (signText negative ++ text) := by
  obtain ⟨spelling, wellFormed, rfl, numeral⟩ := spells
  exact ⟨negative, spelling, wellFormed, rfl, by rw [numeral, denotes], nofun⟩

theorem spells_write (style : NumeralStyle) (negative : Bool) {units : Nat}
    (representable : Representable units) :
    (real (.finite negative units representable)).Spells
      ((Binary64.finite negative units representable).write style) := by
  rw [Binary64.write]
  rcases Nat.eq_zero_or_pos units with rfl | positive
  · have spells : Decimal.Spells ⟨0, 0⟩ _ := Decimal.spells_of_digits ⟨['0'], some ['0'], none⟩ 1
      ⟨⟨by simp, by simp⟩, fun _ => rfl, by rintro digits ⟨⟩; exact ⟨by simp, by simp⟩,
        by rintro _ _ ⟨⟩⟩
      (.inl rfl) rfl rfl
    exact spells_of_decimal spells (Binary64.ofDecimal_zero negative 0 representable)
  · rw [if_neg (Nat.ne_of_gt positive)]
    exact spells_of_decimal (Decimal.spells_write style (Binary64.shortest_pos representable positive))
      (Binary64.ofDecimal_shortest negative representable positive)

/-- **A number in a document is spelled**, if it is finite. -/
theorem spells_document {number : Number} (finite : number.Finite) :
    number.Spells number.document.toList := by
  match number with
  | int value => exact spells_intText value
  | real (.finite negative units representable) =>
    rw [document, String.toList_ofList]
    exact spells_write documentNumeral negative representable

/-- **A number in a literal is spelled**, if it is finite. -/
theorem spells_literal {number : Number} (finite : number.Finite) :
    number.Spells number.literal.toList := by
  match number with
  | int value => exact spells_intText value
  | real (.finite negative units representable) =>
    rw [literal, String.toList_ofList]
    exact spells_write literalNumeral negative representable

/-- A written number begins with a digit or a minus sign, and with no other character. -/
theorem Spells.cons {number : Number} {text : List Char} (spells : number.Spells text) :
    ∃ c more, text = c :: more ∧ ∀ d : Char, d ≠ '-' → d.isDigit = false → c ≠ d := by
  obtain ⟨negative, spelling, wellFormed, rfl, -⟩ := spells
  obtain ⟨c, more, same, digit⟩ := wellFormed.text_cons
  rw [same]
  cases negative with
  | true => exact ⟨'-', _, rfl, fun d notSign _ => notSign.symm⟩
  | false => exact ⟨c, _, rfl, by rintro d - notDigit rfl; rw [digit] at notDigit; cases notDigit⟩

end Number

end TypeSchema
