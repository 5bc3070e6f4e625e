/-
**Hexadecimal numerals read back.**

* `isHexDigit_of_mem_hexadecimal`: a numeral is made of hexadecimal digits;
* `hexValue_hexadecimal`: **the digits of a number that fits the width denote it**.
-/

import Mathlib.Tactic.IntervalCases
import TypeSchema.Text.Hexadecimal

namespace TypeSchema

theorem hexDigit?_hexDigit {value : Nat} (small : value < 16) :
    hexDigit? (hexDigit value) = some value := by
  interval_cases value <;> rfl

theorem length_hexadecimal (width value : Nat) : (hexadecimal width value).length = width := by
  induction width generalizing value with
  | zero => rfl
  | succ width ih => rw [hexadecimal, List.length_append, ih, List.length_singleton]

theorem isHexDigit_hexDigit {value : Nat} (small : value < 16) :
    isHexDigit (hexDigit value) = true := by
  rw [isHexDigit, hexDigit?_hexDigit small, Option.isSome_some]

theorem exists_hexDigit_of_mem {width value : Nat} {c : Char}
    (member : c ∈ hexadecimal width value) : ∃ digit < 16, c = hexDigit digit := by
  induction width generalizing value with
  | zero => cases member
  | succ width ih =>
    rcases List.mem_append.mp member with inFront | last
    · exact ih inFront
    · exact ⟨value % 16, Nat.mod_lt _ (by decide), List.mem_singleton.mp last⟩

theorem isHexDigit_of_mem_hexadecimal {width value : Nat} {c : Char}
    (member : c ∈ hexadecimal width value) : isHexDigit c = true := by
  obtain ⟨digit, small, rfl⟩ := exists_hexDigit_of_mem member
  exact isHexDigit_hexDigit small

/-- **The digits of a number that fits the width denote it.** -/
theorem hexValue_hexadecimal {width value : Nat} (fits : value < 16 ^ width) :
    hexValue (hexadecimal width value) = value := by
  induction width generalizing value with
  | zero =>
    cases Nat.lt_one_iff.mp fits
    rfl
  | succ width ih =>
    have front : value / 16 < 16 ^ width := Nat.div_lt_of_lt_mul (by rwa [← Nat.pow_succ'])
    have last := hexDigit?_hexDigit (Nat.mod_lt value (show 0 < 16 by decide))
    have denotes := ih front
    rw [hexValue] at denotes
    rw [hexadecimal, hexValue, List.foldl_append, denotes, List.foldl_cons, List.foldl_nil, last,
      Option.getD_some, Nat.div_add_mod]

end TypeSchema
