/-
**Decimals round to the number they were found for.**

* `nearestUnits_scale`: rounding depends on the quotient alone; `nearestUnits_self`: a representable
  count is its own rounding;
* `ofDecimal_shift`: zeros at the end of the digits may be moved into the exponent;
* `readsBack_exactDecimal`: the exact decimal of a count rounds to it;
* `ofDecimal_shortest`: **the shortest decimal of a number denotes that number**, with either sign.
-/

import Mathlib.Tactic.Ring
import TypeSchema.Number.Decimal

namespace TypeSchema

/-! ### Rounding a quotient -/

/-- Rounding depends on the quotient alone. -/
theorem roundHalfEven_scale (numerator denominator : Nat) {factor : Nat} (positive : 0 < factor) :
    roundHalfEven (numerator * factor) (denominator * factor) =
      roundHalfEven numerator denominator := by
  have quotient : numerator * factor / (denominator * factor) = numerator / denominator :=
    Nat.mul_div_mul_right _ _ positive
  have remainder : numerator * factor % (denominator * factor) =
      numerator % denominator * factor := Nat.mul_mod_mul_right _ _ _
  have twice : 2 * (numerator % denominator * factor) = 2 * (numerator % denominator) * factor :=
    (Nat.mul_assoc ..).symm
  simp only [roundHalfEven, quotient, remainder, twice, Nat.mul_lt_mul_right positive]

/-- A quotient without remainder is its own rounding. -/
theorem roundHalfEven_of_dvd {numerator denominator : Nat} (positive : 0 < denominator)
    (divides : denominator ∣ numerator) :
    roundHalfEven numerator denominator = numerator / denominator := by
  simp [roundHalfEven, Nat.mod_eq_zero_of_dvd divides, positive]

theorem spacing_pos (units : Nat) : 0 < spacing units := Nat.two_pow_pos _

theorem nearestUnits_scale (numerator denominator : Nat) {factor : Nat} (positive : 0 < factor) :
    nearestUnits (numerator * factor) (denominator * factor) =
      nearestUnits numerator denominator := by
  have quotient : numerator * factor / (denominator * factor) = numerator / denominator :=
    Nat.mul_div_mul_right _ _ positive
  have reordered (step : Nat) : denominator * factor * step = denominator * step * factor := by ring
  simp only [nearestUnits, quotient, reordered, roundHalfEven_scale _ _ positive]

/-- A representable count is its own rounding. -/
theorem nearestUnits_self {units : Nat} (representable : Representable units) :
    nearestUnits units 1 = units := by
  simp only [nearestUnits, Nat.div_one, Nat.one_mul]
  rw [roundHalfEven_of_dvd (spacing_pos units) representable.2]
  exact Nat.div_mul_cancel representable.2

namespace Binary64

theorem ofUnits_of_representable (negative : Bool) {units : Nat}
    (representable : Representable units) :
    ofUnits negative units = finite negative units representable := dif_pos representable

theorem ofQuotient_scale (negative : Bool) (numerator denominator : Nat) {factor : Nat}
    (positive : 0 < factor) :
    ofQuotient negative (numerator * factor) (denominator * factor) =
      ofQuotient negative numerator denominator := by
  rw [ofQuotient, nearestUnits_scale _ _ positive, ofQuotient]

/-! ### Decimals -/

/-- A number times ten has one digit more. -/
theorem decimalLength_mul_ten {value : Nat} (positive : 0 < value) :
    decimalLength (value * 10) = decimalLength value + 1 := by
  have digits := Nat.toDigits_append_toDigits (b := 10) (n := value) (d := 0) (by decide) positive
    (by decide)
  rw [Nat.add_zero, Nat.mul_comm] at digits
  rw [decimalLength, ← digits, List.length_append, Nat.toDigits_zero, decimalLength]
  rfl

theorem decimalLength_le_iff {value bound : Nat} (positive : 0 < bound) :
    decimalLength value ≤ bound ↔ value < Nat.pow 10 bound :=
  Nat.length_toDigits_le_iff (by decide) positive

theorem lt_decimalLength_mul {value factor bound : Nat} (positive : 0 < value) (some : 0 < bound)
    (power : Nat.pow 10 bound ≤ factor) : bound < decimalLength (value * factor) := by
  rw [← Nat.not_le, decimalLength_le_iff some, Nat.not_lt]
  exact Nat.le_trans power (Nat.le_mul_of_pos_left _ positive)

/-- A zero at the end of the digits may be moved into the exponent. -/
theorem ofDecimal_mul_ten (negative : Bool) (coefficient : Nat) (exponent : Int) :
    ofDecimal negative (coefficient * 10) exponent =
      ofDecimal negative coefficient (exponent + 1) := by
  rcases Nat.eq_zero_or_pos coefficient with rfl | positive
  · rfl
  have length : (decimalLength (coefficient * 10) : Int) + exponent =
      decimalLength coefficient + (exponent + 1) := by
    rw [decimalLength_mul_ten positive]
    omega
  have nonzero : coefficient ≠ 0 := Nat.ne_of_gt positive
  have nonzero' : coefficient * 10 ≠ 0 := by omega
  simp only [ofDecimal, if_neg nonzero, if_neg nonzero', length]
  -- The two spellings lie in the same range; there the quotients differ by the factor ten.
  congr 2
  generalize unitsPerOne = unit
  rcases Int.lt_trichotomy exponent (-1) with below | rfl | above
  · obtain ⟨size, isSize⟩ : ∃ size : Nat, -exponent = size + 1 := ⟨(-exponent - 1).toNat, by omega⟩
    have sizes : (-exponent).toNat = size + 1 ∧ (-(exponent + 1)).toNat = size := by omega
    rw [if_neg (by omega), if_neg (by omega), sizes.1, sizes.2]
    have numerator : coefficient * 10 * unit = coefficient * unit * 10 := by ring
    rw [numerator]
    exact ofQuotient_scale negative _ (Nat.pow 10 size) (by decide)
  · rw [if_neg (by decide), if_pos (by decide)]
    have numerator : coefficient * 10 * unit =
        coefficient * Nat.pow 10 (-1 + 1 : Int).toNat * unit * 10 := by
      show _ = coefficient * 1 * unit * 10
      ring
    rw [numerator]
    exact ofQuotient_scale negative _ 1 (by decide)
  · obtain ⟨size, rfl⟩ : ∃ size : Nat, exponent = size := ⟨exponent.toNat, by omega⟩
    have sizes : (size : Int).toNat = size ∧ ((size : Int) + 1).toNat = size + 1 := by omega
    rw [if_pos (by omega), if_pos (by omega), sizes.1, sizes.2]
    have power : Nat.pow 10 (size + 1) = Nat.pow 10 size * 10 := rfl
    rw [power]
    congr 1
    ring

/-- Zeros at the end of the digits may be moved into the exponent. -/
theorem ofDecimal_shift (negative : Bool) (coefficient : Nat) (exponent : Int) (zeros : Nat) :
    ofDecimal negative (coefficient * 10 ^ zeros) exponent =
      ofDecimal negative coefficient (exponent + zeros) := by
  induction zeros generalizing exponent with
  | zero => simp
  | succ zeros ih =>
    rw [Nat.pow_succ, ← Nat.mul_assoc, ofDecimal_mul_ten, ih]
    congr 1
    omega

/-- The sign of a decimal is the sign of its number. -/
theorem ofDecimal_negative {coefficient units : Nat} {exponent : Int}
    {representable : Representable units}
    (denotes : ofDecimal false coefficient exponent = finite false units representable)
    (negative : Bool) :
    ofDecimal negative coefficient exponent = finite negative units representable := by
  have ofUnits_negative {count : Nat}
      (same : ofUnits false count = finite false units representable) :
      ofUnits negative count = finite negative units representable := by
    by_cases holds : Representable count
    · rw [ofUnits_of_representable _ holds] at same ⊢
      cases same
      rfl
    · rw [ofUnits, dif_neg holds] at same
      cases same
  unfold ofDecimal at denotes ⊢
  split_ifs at denotes ⊢ <;> exact ofUnits_negative denotes

end Binary64

/-! ### The decimals of a number -/

theorem Decimal.ofDecimal_normalise (negative : Bool) (decimal : Decimal) :
    Binary64.ofDecimal negative decimal.normalise.coefficient decimal.normalise.exponent =
      Binary64.ofDecimal negative decimal.coefficient decimal.exponent := by
  fun_induction Decimal.normalise decimal with
  | case1 decimal divisible ih =>
    rw [ih, ← Binary64.ofDecimal_mul_ten, Nat.div_mul_cancel (Nat.dvd_of_mod_eq_zero divisible.2)]
  | case2 => rfl

namespace Binary64

theorem ofDecimal_of_readsBack {units : Nat} {decimal : Decimal}
    (representable : Representable units) (reads : readsBack units decimal = true) :
    ofDecimal false decimal.coefficient decimal.exponent = finite false units representable := by
  unfold readsBack at reads
  split at reads
  · rename_i negative others isRepresentable denotes
    cases beq_iff_eq.mp reads
    have isPositive : negative = false := by
      unfold ofDecimal ofQuotient zero ofUnits at denotes
      split_ifs at denotes <;> injection denotes with same <;> exact same.symm
    rw [denotes, isPositive]
  · cases reads

theorem readsBack_of_ofDecimal {units : Nat} {decimal : Decimal} {negative : Bool}
    {representable : Representable units}
    (denotes : ofDecimal false decimal.coefficient decimal.exponent =
      finite negative units representable) : readsBack units decimal = true := by
  rw [readsBack, denotes]
  exact beq_self_eq_true units

/-- The decimal of a count in steps of `10 ^ -size`, if its digits and its exponent are in range. -/
theorem ofDecimal_steps {units steps : Nat} (size : Nat) (representable : Representable units)
    (power : steps * unitsPerOne = Nat.pow 10 size) (nonzero : 0 < units * steps)
    (exponent : 0 < size) (short : decimalLength (units * steps) ≤ size + 400)
    (long : size ≤ decimalLength (units * steps) + 400) :
    ofDecimal false (units * steps) (-size) = finite false units representable := by
  have same : (- -(size : Int)).toNat = size := by omega
  unfold ofDecimal
  rw [if_neg (by omega), if_neg (by omega), if_neg (by omega), if_neg (by omega), same,
    Nat.mul_assoc, power]
  have quotient := ofQuotient_scale false units 1
    (show 0 < Nat.pow 10 size from Nat.pow_pos (by decide))
  rw [Nat.one_mul] at quotient
  rw [quotient, ofQuotient, nearestUnits_self representable, ofUnits_of_representable]

/-- **The exact decimal of a count rounds to it.** -/
theorem readsBack_exactDecimal {units : Nat} (representable : Representable units)
    (positive : 0 < units) : readsBack units (exactDecimal units) = true := by
  have nonzero : 0 < units * Nat.pow 5 1074 := Nat.mul_pos positive (by decide +kernel)
  have short : decimalLength (units * Nat.pow 5 1074) ≤ 1074 + 400 := by
    rw [decimalLength_le_iff (by decide)]
    calc units * Nat.pow 5 1074 < unitsLimit * Nat.pow 5 1074 :=
          Nat.mul_lt_mul_of_pos_right representable.1 (by decide +kernel)
      _ ≤ Nat.pow 10 (1074 + 400) := by decide +kernel
  have long : 1073 < decimalLength (units * Nat.pow 5 1074) + 400 :=
    Nat.add_lt_add_right (lt_decimalLength_mul positive (by decide) (by decide +kernel)) 400
  exact readsBack_of_ofDecimal
    (ofDecimal_steps 1074 representable (by decide +kernel) nonzero (by decide) short long)

theorem readsBack_of_shortestOf {units length : Nat} {decimal : Decimal}
    (found : shortestOf units length = some decimal) : readsBack units decimal = true := by
  unfold shortestOf at found
  -- Only that each candidate is tested matters, not how.
  generalize readsBack units = reads at found ⊢
  generalize pointPosition units - length = exponent at found
  generalize stepsOfTen units exponent = steps at found
  dsimp only at found
  split_ifs at found with accepted accepted accepted <;>
    exact Option.some.inj found ▸ accepted

/-- The decimal that is normalised to the shortest one. -/
theorem exists_shortest {units : Nat} (representable : Representable units)
    (positive : 0 < units) :
    ∃ decimal : Decimal, shortest units = decimal.normalise ∧ readsBack units decimal = true := by
  unfold shortest
  cases found : (List.range 17).findSome? fun length => shortestOf units (length + 1) with
  | none => exact ⟨exactDecimal units, rfl, readsBack_exactDecimal representable positive⟩
  | some decimal =>
    obtain ⟨length, -, isShortest⟩ := List.exists_of_findSome?_eq_some found
    exact ⟨decimal, rfl, readsBack_of_shortestOf isShortest⟩

/-- **The shortest decimal of a number denotes that number.** -/
theorem ofDecimal_shortest (negative : Bool) {units : Nat} (representable : Representable units)
    (positive : 0 < units) :
    ofDecimal negative (shortest units).coefficient (shortest units).exponent =
      finite negative units representable := by
  obtain ⟨decimal, same, reads⟩ := exists_shortest representable positive
  rw [same, Decimal.ofDecimal_normalise]
  exact ofDecimal_negative (ofDecimal_of_readsBack representable reads) negative

theorem ofDecimal_zero (negative : Bool) (exponent : Int) (representable : Representable 0) :
    ofDecimal negative 0 exponent = finite negative 0 representable := by
  rw [ofDecimal, if_pos rfl, zero, ofUnits_of_representable]

theorem representable_zero : Representable 0 := ⟨by decide +kernel, Nat.dvd_zero _⟩

/-- The digits of the shortest decimal are those of a positive number. -/
theorem shortest_pos {units : Nat} (representable : Representable units) (positive : 0 < units) :
    0 < (shortest units).coefficient := by
  rcases Nat.eq_zero_or_pos (shortest units).coefficient with isZero | isPositive
  · have denotes := ofDecimal_shortest false representable positive
    rw [isZero, ofDecimal_zero false _ representable_zero] at denotes
    cases denotes
    exact absurd positive (Nat.lt_irrefl 0)
  · exact isPositive

end Binary64

end TypeSchema
