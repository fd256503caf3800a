import Mathlib
import OrderNarration.Number.Ether

/-!
# Ether amounts as decimal fractions

The text of an amount is a decimal fraction in its shortest form: one digit after
the point at least, and no zero at the end beyond that. It denotes the amount
exactly, whatever its size.
-/

namespace OrderNarration

/-- A decimal fraction by its whole part and the digits after the point. There is at least one
of them, and the last one is a zero only if it is the only one. -/
structure DecimalFraction where
  whole : Nat
  fraction : List Char
  isDigit : ∀ c ∈ fraction, c.isDigit = true
  fraction_ne_nil : fraction ≠ []
  trimmed : fraction.getLast? = some '0' → fraction = ['0']

namespace DecimalFraction

/-- The fraction in writing. -/
def text (d : DecimalFraction) : Text := Text.ofNat d.whole ++ "." ++ Text.ofChars d.fraction

/-- The number that is written. -/
def value (d : DecimalFraction) : ℚ :=
  d.whole + (Nat.ofDigitChars 10 d.fraction 0 : ℚ) / 10 ^ d.fraction.length

end DecimalFraction

namespace Ether

theorem length_fixedDigits (width n : Nat) : (fixedDigits width n).length = width := by
  induction width generalizing n with
  | zero => rfl
  | succ width ih => rw [fixedDigits, List.length_append, ih, List.length_singleton]

theorem isDigit_of_mem_fixedDigits {width n : Nat} {c : Char} (h : c ∈ fixedDigits width n) :
    c.isDigit = true := by
  induction width generalizing n with
  | zero => simp [fixedDigits] at h
  | succ width ih =>
      rw [fixedDigits, List.mem_append, List.mem_singleton] at h
      rcases h with h | rfl
      · exact ih h
      · rw [Nat.isDigit_digitChar]
        exact decide_eq_true (Nat.mod_lt n (by norm_num))

/-- Digits of a fixed number denote what fits into them. -/
theorem ofDigitChars_fixedDigits (width n : Nat) :
    Nat.ofDigitChars 10 (fixedDigits width n) 0 = n % Nat.pow 10 width := by
  induction width generalizing n with
  | zero => exact (Nat.mod_one n).symm
  | succ width ih =>
      have hpow : Nat.pow 10 (width + 1) = 10 * Nat.pow 10 width := Nat.mul_comm _ 10
      rw [fixedDigits, Nat.ofDigitChars_append, ih,
        Nat.ofDigitChars_cons_digitChar_of_lt_ten (Nat.mod_lt n (by norm_num)),
        Nat.ofDigitChars_nil, hpow, Nat.mod_mul, Nat.add_comm]

/-- Only zeros at the end are dropped. -/
theorem exists_eq_append_replicate (digits : List Char) :
    ∃ k, digits = digits.rdropWhile (· == '0') ++ List.replicate k '0' := by
  refine ⟨(digits.rtakeWhile (· == '0')).length, ?_⟩
  have hzeros : digits.rtakeWhile (· == '0') =
      List.replicate (digits.rtakeWhile (· == '0')).length '0' := by
    rw [List.eq_replicate_iff]
    refine ⟨rfl, fun c hc => ?_⟩
    simpa using List.mem_rtakeWhile_imp hc
  rw [← hzeros, List.rdropWhile_append_rtakeWhile]

theorem trimFraction_eq (digits : List Char) :
    trimFraction digits =
      if digits.rdropWhile (· == '0') = [] then ['0'] else digits.rdropWhile (· == '0') := by
  rw [trimFraction, ← List.rdropWhile]
  cases digits.rdropWhile (· == '0') <;> rfl

/-- What is left of a fraction denotes the same as all of it. -/
theorem value_trimFraction (digits : List Char) :
    (Nat.ofDigitChars 10 (trimFraction digits) 0 : ℚ) / 10 ^ (trimFraction digits).length =
      (Nat.ofDigitChars 10 digits 0 : ℚ) / 10 ^ digits.length := by
  obtain ⟨k, hk⟩ := exists_eq_append_replicate digits
  generalize hkept : digits.rdropWhile (· == '0') = kept at hk
  have hnumber : Nat.ofDigitChars 10 digits 0 = 10 ^ k * Nat.ofDigitChars 10 kept 0 := by
    rw [hk, Nat.ofDigitChars_append, Nat.ofDigitChars_replicate_zero]
  have hlength : digits.length = kept.length + k := by
    rw [hk, List.length_append, List.length_replicate]
  rw [trimFraction_eq, hkept, hnumber, hlength]
  split
  next hnil => simp [hnil, Nat.ofDigitChars_cons]
  · rw [pow_add, Nat.cast_mul, Nat.cast_pow, Nat.cast_ofNat, mul_comm (10 ^ kept.length : ℚ)]
    exact (mul_div_mul_left _ _ (by positivity)).symm

theorem isDigit_of_mem_trimFraction {digits : List Char} (h : ∀ c ∈ digits, c.isDigit = true)
    {c : Char} (hc : c ∈ trimFraction digits) : c.isDigit = true := by
  rw [trimFraction_eq] at hc
  split at hc
  · obtain rfl := List.mem_singleton.mp hc
    rfl
  · exact h c ((List.rdropWhile_prefix _ _).subset hc)

theorem trimFraction_ne_nil (digits : List Char) : trimFraction digits ≠ [] := by
  rw [trimFraction_eq]
  split
  · simp
  next hne => exact hne

theorem trimFraction_eq_of_getLast? {digits : List Char}
    (h : (trimFraction digits).getLast? = some '0') : trimFraction digits = ['0'] := by
  rw [trimFraction_eq] at h ⊢
  split
  · rfl
  next hne =>
    rw [if_neg hne, List.getLast?_eq_some_getLast hne] at h
    have hlast := List.rdropWhile_last_not (· == '0') _ hne
    simp [Option.some.inj h] at hlast

theorem length_trimFraction_le {digits : List Char} (h : digits ≠ []) :
    (trimFraction digits).length ≤ digits.length := by
  rw [trimFraction_eq]
  split
  · exact List.length_pos_of_ne_nil h
  · exact (List.rdropWhile_prefix _ _).length_le

/-- A number of units as a decimal fraction, if so many decimal places make one unit. -/
def scaled (places n : Nat) : DecimalFraction where
  whole := n / Nat.pow 10 places
  fraction := trimFraction (fixedDigits places (n % Nat.pow 10 places))
  isDigit _ := isDigit_of_mem_trimFraction fun _ => isDigit_of_mem_fixedDigits
  fraction_ne_nil := trimFraction_ne_nil _
  trimmed := trimFraction_eq_of_getLast?

theorem div_add_mod_div {unit : Nat} (h : unit ≠ 0) (n : Nat) :
    ((n / unit : Nat) : ℚ) + ((n % unit : Nat) : ℚ) / unit = (n : ℚ) / unit := by
  have hunit : (unit : ℚ) ≠ 0 := Nat.cast_ne_zero.mpr h
  rw [eq_div_iff hunit, add_mul, div_mul_cancel₀ _ hunit]
  exact_mod_cast Nat.div_add_mod' n unit

theorem value_scaled (places n : Nat) : (scaled places n).value = (n : ℚ) / 10 ^ places := by
  have hpos : Nat.pow 10 places ≠ 0 := Nat.pos_iff_ne_zero.mp (Nat.pow_pos (by norm_num))
  have hunit : ((Nat.pow 10 places : Nat) : ℚ) = 10 ^ places := Nat.cast_pow 10 places
  rw [DecimalFraction.value, scaled, value_trimFraction, length_fixedDigits,
    ofDigitChars_fixedDigits, Nat.mod_mod, ← hunit, ← div_add_mod_div hpos n]

theorem length_fraction_scaled_le {places : Nat} (h : places ≠ 0) (n : Nat) :
    (scaled places n).fraction.length ≤ places := by
  have hlength := length_fixedDigits places (n % Nat.pow 10 places)
  have hne : fixedDigits places (n % Nat.pow 10 places) ≠ [] := by
    intro hnil
    rw [hnil] at hlength
    exact h hlength.symm
  rw [scaled]
  exact (length_trimFraction_le hne).trans_eq hlength

/-- The amount in ether as a decimal fraction. -/
def fractionOfWei (wei : Nat) : DecimalFraction := scaled places wei

/-- The text of an amount is that of its decimal fraction. -/
theorem ofWei_eq_text (wei : Nat) : ofWei wei = (fractionOfWei wei).text := by
  rw [ofWei, DecimalFraction.text, fractionOfWei, scaled]

theorem length_fraction_le (wei : Nat) : (fractionOfWei wei).fraction.length ≤ places := by
  rw [fractionOfWei]
  exact length_fraction_scaled_le (by decide) wei

/-- The decimal fraction of an amount denotes exactly the amount in ether. -/
theorem value_fractionOfWei (wei : Nat) : (fractionOfWei wei).value = (wei : ℚ) / 10 ^ places := by
  rw [fractionOfWei, value_scaled]

end Ether

end OrderNarration
