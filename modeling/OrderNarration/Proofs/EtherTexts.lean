import OrderNarration.Proofs.EtherFractions

/-!
# Ether amounts in writing

A number with finitely many decimal places has one shortest decimal fraction: equal values
have equal digits, so the text of an amount is decided by the amount, and the amount by its
text. It makes no difference either with how many places a quotient is written out first:
once the needless zeros are dropped, the text is the same.
-/

namespace OrderNarration

namespace Ether

variable {cs : List Char} {c : Char}

theorem digitChar_of_isDigit (h : c.isDigit = true) :
    c.toNat - '0'.toNat < 10 ∧ Nat.digitChar (c.toNat - '0'.toNat) = c := by
  obtain ⟨hlow, hhigh⟩ : 48 ≤ c.toNat ∧ c.toNat ≤ 57 := by
    simpa [Char.isDigit, UInt32.le_iff_toNat_le] using h
  have hlt : c.toNat - '0'.toNat < 10 := by
    change c.toNat - 48 < 10
    omega
  refine ⟨hlt, Char.toNat_inj.mp ?_⟩
  rw [Nat.toNat_digitChar_of_lt_ten hlt]
  change 48 + (c.toNat - 48) = c.toNat
  omega

/-- The last digit comes off the end of a number. -/
theorem ofDigitChars_concat (h : c.isDigit = true) (cs : List Char) :
    Nat.ofDigitChars 10 (cs ++ [c]) 0 / 10 = Nat.ofDigitChars 10 cs 0 ∧
      Nat.digitChar (Nat.ofDigitChars 10 (cs ++ [c]) 0 % 10) = c := by
  obtain ⟨hlt, hchar⟩ := digitChar_of_isDigit h
  rw [Nat.ofDigitChars_append, Nat.ofDigitChars_cons, Nat.ofDigitChars_nil, Nat.mul_add_mod,
    Nat.mod_eq_of_lt hlt, Nat.mul_add_div (by norm_num), Nat.div_eq_of_lt hlt]
  exact ⟨rfl, hchar⟩

/-- Digits are recovered from their number and their count. -/
theorem fixedDigits_ofDigitChars (digits : ∀ c ∈ cs, c.isDigit = true) :
    fixedDigits cs.length (Nat.ofDigitChars 10 cs 0) = cs := by
  induction cs using List.reverseRecOn with
  | nil => rfl
  | append_singleton cs c ih =>
      obtain ⟨hdiv, hchar⟩ := ofDigitChars_concat (digits c (by simp)) cs
      have hcs := ih fun d hd => digits d (List.mem_append_left _ hd)
      rw [List.length_append, List.length_singleton, fixedDigits, hdiv, hchar, hcs]

theorem ofDigitChars_lt (digits : ∀ c ∈ cs, c.isDigit = true) :
    Nat.ofDigitChars 10 cs 0 < 10 ^ cs.length := by
  have hmod := ofDigitChars_fixedDigits cs.length (Nat.ofDigitChars 10 cs 0)
  rw [fixedDigits_ofDigitChars digits] at hmod
  rw [hmod]
  exact Nat.mod_lt _ (Nat.pow_pos (by norm_num))

/-- A numeral without needless zeros is the numeral of its number. -/
theorem toDigits_ofDigitChars (digits : ∀ c ∈ cs, c.isDigit = true) (ne_nil : cs ≠ [])
    (leading : cs.head? = some '0' → cs = ['0']) :
    Nat.toDigits 10 (Nat.ofDigitChars 10 cs 0) = cs := by
  induction cs using List.reverseRecOn with
  | nil => exact absurd rfl ne_nil
  | append_singleton cs c ih =>
      obtain ⟨hdiv, hchar⟩ := ofDigitChars_concat (digits c (by simp)) cs
      by_cases hcs : cs = []
      · subst hcs
        rw [Nat.ofDigitChars_nil] at hdiv
        have hlt : Nat.ofDigitChars 10 ([] ++ [c]) 0 < 10 := by omega
        rw [Nat.mod_eq_of_lt hlt] at hchar
        rw [Nat.toDigits_of_lt_base hlt, hchar, List.nil_append]
      · have hhead : cs.head? ≠ some '0' := by
          intro hzero
          have hall := leading (by rw [List.head?_append_of_ne_nil _ hcs, hzero])
          have hlength := congrArg List.length hall
          have hpos := List.length_pos_of_ne_nil hcs
          rw [List.length_append, List.length_singleton, List.length_singleton] at hlength
          omega
        have hprefix := ih (fun d hd => digits d (List.mem_append_left _ hd)) hcs
          fun hzero => absurd hzero hhead
        have hne : Nat.ofDigitChars 10 cs 0 ≠ 0 := by
          intro hzero
          rw [hzero, Nat.toDigits_zero] at hprefix
          exact hhead (by rw [← hprefix]; rfl)
        rw [Nat.toDigits_of_base_le (by norm_num) (by omega), hdiv, hchar, hprefix]

/-- The numeral of a number begins with a zero only if the number is zero. -/
theorem eq_zero_of_head?_toDigits {n : Nat} (h : (Nat.toDigits 10 n).head? = some '0') : n = 0 := by
  induction n using Nat.strong_induction_on with
  | h n ih =>
      by_cases hlt : n < 10
      · rw [Nat.toDigits_of_lt_base hlt] at h
        interval_cases n <;> simp_all [Nat.digitChar]
      · rw [Nat.toDigits_of_base_le (by norm_num) (by omega),
          List.head?_append_of_ne_nil _ Nat.toDigits_ne_nil] at h
        have hzero := ih (n / 10) (by omega) h
        omega

/-- Zeros at the end do not change the fraction that is left without them. -/
theorem trimFraction_append_zeros (ne_nil : cs ≠ [])
    (trimmed : cs.getLast? = some '0' → cs = ['0']) (k : Nat) :
    trimFraction (cs ++ List.replicate k '0') = cs := by
  have hkept : (cs ++ List.replicate k '0').rdropWhile (· == '0') =
      cs.rdropWhile (· == '0') := by
    induction k with
    | zero => simp
    | succ k ih =>
        rw [List.replicate_succ', ← List.append_assoc, List.rdropWhile_concat_pos _ _ _ rfl, ih]
  rw [trimFraction_eq, hkept]
  by_cases hlast : cs.getLast? = some '0'
  · rw [trimmed hlast]
    rfl
  · have hself : cs.rdropWhile (· == '0') = cs := by
      rw [List.rdropWhile_eq_self_iff]
      intro hne hzero
      rw [List.getLast?_eq_some_getLast hne] at hlast
      exact hlast (congrArg some (beq_iff_eq.mp hzero))
    rw [hself, if_neg ne_nil]

end Ether

namespace DecimalFraction

open Ether

variable {d e : DecimalFraction}

/-- The digits after the point, filled up with zeros. -/
def padded (d : DecimalFraction) (k : Nat) : List Char := d.fraction ++ List.replicate k '0'

/-- The digits before and after the point as one number. -/
def numerator (d : DecimalFraction) (k : Nat) : Nat :=
  10 ^ (d.fraction.length + k) * d.whole + Nat.ofDigitChars 10 (d.padded k) 0

theorem length_padded (d : DecimalFraction) (k : Nat) :
    (d.padded k).length = d.fraction.length + k := by
  rw [padded, List.length_append, List.length_replicate]

theorem isDigit_of_mem_padded {k : Nat} : ∀ c ∈ d.padded k, c.isDigit = true := by
  intro c hc
  rcases List.mem_append.mp hc with h | h
  · exact d.isDigit c h
  · obtain rfl := List.eq_of_mem_replicate h
    rfl

theorem trimFraction_padded (d : DecimalFraction) (k : Nat) :
    trimFraction (d.padded k) = d.fraction :=
  trimFraction_append_zeros d.fraction_ne_nil d.trimmed k

theorem value_eq_numerator (d : DecimalFraction) (k : Nat) :
    d.value = (d.numerator k : ℚ) / 10 ^ (d.fraction.length + k) := by
  have hpadded : Nat.ofDigitChars 10 (d.padded k) 0 =
      10 ^ k * Nat.ofDigitChars 10 d.fraction 0 := by
    rw [padded, Nat.ofDigitChars_append, Nat.ofDigitChars_replicate_zero]
  rw [value, numerator, hpadded]
  push_cast
  rw [pow_add]
  field_simp

/-- Both parts come off the number of all digits. -/
theorem numerator_parts (d : DecimalFraction) (k : Nat) :
    d.numerator k / 10 ^ (d.fraction.length + k) = d.whole ∧
      d.numerator k % 10 ^ (d.fraction.length + k) = Nat.ofDigitChars 10 (d.padded k) 0 := by
  have hlt := ofDigitChars_lt (isDigit_of_mem_padded (d := d) (k := k))
  rw [length_padded] at hlt
  rw [numerator, Nat.mul_add_div (Nat.pow_pos (by norm_num)), Nat.div_eq_of_lt hlt,
    Nat.mul_add_mod, Nat.mod_eq_of_lt hlt]
  exact ⟨rfl, rfl⟩

/-- Equal values have equal parts. -/
theorem parts_eq_of_value_eq (h : d.value = e.value) :
    d.whole = e.whole ∧ d.fraction = e.fraction := by
  -- each fraction is filled up with as many zeros as the other one has digits
  have hlength : d.fraction.length + e.fraction.length =
      e.fraction.length + d.fraction.length := Nat.add_comm _ _
  have hnumerator : d.numerator e.fraction.length = e.numerator d.fraction.length := by
    rw [value_eq_numerator d e.fraction.length, value_eq_numerator e d.fraction.length, hlength,
      div_left_inj' (by positivity)] at h
    exact_mod_cast h
  obtain ⟨hwhole, hpadded⟩ := d.numerator_parts e.fraction.length
  obtain ⟨hwhole', hpadded'⟩ := e.numerator_parts d.fraction.length
  rw [hnumerator, hlength] at hwhole hpadded
  refine ⟨hwhole.symm.trans hwhole', ?_⟩
  have hsame : d.padded e.fraction.length = e.padded d.fraction.length := by
    rw [← fixedDigits_ofDigitChars (isDigit_of_mem_padded (d := d)),
      ← fixedDigits_ofDigitChars (isDigit_of_mem_padded (d := e)), ← hpadded, ← hpadded',
      length_padded, length_padded, hlength]
  rw [← trimFraction_padded d e.fraction.length, hsame, trimFraction_padded]

theorem text_eq_of_value_eq (h : d.value = e.value) : d.text = e.text := by
  obtain ⟨hwhole, hfraction⟩ := parts_eq_of_value_eq h
  rw [text, text, hwhole, hfraction]

theorem text_eq_ofChars (d : DecimalFraction) :
    d.text = Text.ofChars (Nat.toDigits 10 d.whole ++ '.' :: d.fraction) := by
  rw [text, Text.ofNat, List.append_cons, Text.ofChars_append, Text.ofChars_append]
  rfl

end DecimalFraction

namespace Ether

/-- No digit is a point. -/
theorem point_notMem {cs : List Char} (digits : ∀ c ∈ cs, c.isDigit = true) : '.' ∉ cs := by
  intro h
  have hpoint := digits '.' h
  simp [Char.isDigit] at hpoint

theorem isDigit_of_mem_toDigits (n : Nat) : ∀ c ∈ Nat.toDigits 10 n, c.isDigit = true :=
  fun _ hc => Nat.isDigit_of_mem_toDigits (by norm_num) (by norm_num) hc

section Shortening

/-- A quotient written out to a number of places; without places there is no point. -/
def fixedPoint (places coefficient : Nat) : List Char :=
  Nat.toDigits 10 (coefficient / Nat.pow 10 places) ++
    if places = 0 then [] else '.' :: fixedDigits places (coefficient % Nat.pow 10 places)

/-- Drop the zeros at the end of what has a point, and then a bare point. What has no point is
given one with a zero. -/
def shorten (cs : List Char) : List Char :=
  let kept := if '.' ∈ cs then (cs.rdropWhile (· == '0')).rdropWhile (· == '.') else cs
  if '.' ∈ kept then kept else kept ++ ['.', '0']

variable {cs whole fraction : List Char}

theorem rdropWhile_append (p : Char → Bool) (cs others : List Char) :
    (cs ++ others).rdropWhile p =
      if others.rdropWhile p = [] then cs.rdropWhile p else cs ++ others.rdropWhile p := by
  simp only [List.rdropWhile, List.reverse_append, List.dropWhile_append, List.reverse_eq_nil_iff]
  split <;> simp_all

theorem rdropWhile_point (h : '.' ∉ cs) : cs.rdropWhile (· == '.') = cs := by
  rw [List.rdropWhile_eq_self_iff]
  intro hne hlast
  exact h (beq_iff_eq.mp hlast ▸ List.getLast_mem hne)

theorem shorten_of_no_point (h : '.' ∉ cs) : shorten cs = cs ++ ['.', '0'] := by
  simp only [shorten, if_neg h]

theorem rdropWhile_point_append (hwhole : '.' ∉ whole) (hfraction : '.' ∉ fraction) :
    (whole ++ '.' :: fraction).rdropWhile (· == '.') =
      if fraction = [] then whole else whole ++ '.' :: fraction := by
  rw [List.append_cons, rdropWhile_append, rdropWhile_point hfraction,
    List.rdropWhile_concat_pos _ _ _ rfl, rdropWhile_point hwhole]

theorem rdropWhile_zero_append (whole fraction : List Char) :
    (whole ++ '.' :: fraction).rdropWhile (· == '0') =
      whole ++ '.' :: fraction.rdropWhile (· == '0') := by
  rw [List.append_cons, rdropWhile_append]
  split
  next hnil => rw [hnil, List.rdropWhile_concat_neg _ _ _ (by decide)]
  · rw [← List.append_cons]

theorem shorten_of_point (hwhole : '.' ∉ whole) (hfraction : '.' ∉ fraction) :
    shorten (whole ++ '.' :: fraction) = whole ++ '.' :: trimFraction fraction := by
  have hpoint : '.' ∈ whole ++ '.' :: fraction := by simp
  have hkept : '.' ∉ fraction.rdropWhile (· == '0') :=
    fun h => hfraction ((List.rdropWhile_prefix _ _).subset h)
  rw [shorten, if_pos hpoint, rdropWhile_zero_append, rdropWhile_point_append hwhole hkept,
    trimFraction_eq]
  by_cases hnil : fraction.rdropWhile (· == '0') = []
  · rw [if_pos hnil, if_pos hnil]
    exact if_neg hwhole
  · rw [if_neg hnil, if_neg hnil]
    exact if_pos (by simp)

/-- To write out a quotient and to shorten it gives the shortest fraction of its value. -/
theorem shorten_fixedPoint (places n : Nat) :
    Text.ofChars (shorten (fixedPoint places n)) = (scaled places n).text := by
  have hwhole := point_notMem (isDigit_of_mem_toDigits (n / Nat.pow 10 places))
  rw [DecimalFraction.text_eq_ofChars, scaled, fixedPoint]
  by_cases hplaces : places = 0
  · subst hplaces
    rw [if_pos rfl, List.append_nil, shorten_of_no_point hwhole]
    rfl
  · rw [if_neg hplaces, shorten_of_point hwhole
      (point_notMem fun _ => isDigit_of_mem_fixedDigits)]

end Shortening

/-- An amount of wei is written in ether with these digits before and after the point: there are
no needless zeros on either side, at most 18 digits after the point, and the value is exact. -/
structure Writes (wei : Int) (whole fraction : List Char) : Prop where
  wholeDigits : ∀ c ∈ whole, c.isDigit = true
  whole_ne_nil : whole ≠ []
  leading : whole.head? = some '0' → whole = ['0']
  wholeValue : (Nat.ofDigitChars 10 whole 0 : Int) = wei / 10 ^ 18
  fractionDigits : ∀ c ∈ fraction, c.isDigit = true
  fraction_ne_nil : fraction ≠ []
  length : fraction.length ≤ 18
  trailing : fraction.getLast? = some '0' → fraction = ['0']
  value : ((Nat.ofDigitChars 10 whole 0 : ℚ) +
    (Nat.ofDigitChars 10 fraction 0 : ℚ) / 10 ^ fraction.length) * 10 ^ 18 = wei

namespace Writes

variable {wei wei' : Int} {whole fraction whole' fraction' : List Char}

/-- The digits as a decimal fraction. -/
def decimal (h : Writes wei whole fraction) : DecimalFraction where
  whole := Nat.ofDigitChars 10 whole 0
  fraction
  isDigit := h.fractionDigits
  fraction_ne_nil := h.fraction_ne_nil
  trimmed := h.trailing

theorem value_decimal (h : Writes wei whole fraction) : h.decimal.value * 10 ^ 18 = wei := h.value

theorem toDigits_whole (h : Writes wei whole fraction) :
    Nat.toDigits 10 h.decimal.whole = whole :=
  toDigits_ofDigitChars h.wholeDigits h.whole_ne_nil h.leading

/-- An amount is written in one way. -/
theorem unique (h : Writes wei whole fraction) (h' : Writes wei whole' fraction') :
    whole = whole' ∧ fraction = fraction' := by
  have hvalue : h.decimal.value = h'.decimal.value :=
    mul_right_cancel₀ (by positivity : (10 : ℚ) ^ 18 ≠ 0)
      (h.value_decimal.trans h'.value_decimal.symm)
  obtain ⟨hwhole, hfraction⟩ := DecimalFraction.parts_eq_of_value_eq hvalue
  refine ⟨?_, hfraction⟩
  rw [← h.toDigits_whole, ← h'.toDigits_whole, hwhole]

/-- What is written is one amount. -/
theorem wei_eq (h : Writes wei whole fraction) (h' : Writes wei' whole fraction) : wei = wei' := by
  have hcast : (wei : ℚ) = wei' := h.value.symm.trans h'.value
  exact_mod_cast hcast

/-- The point tells the digits before it from those after it. -/
theorem parts_eq_of_append (h : Writes wei whole fraction)
    (same : whole ++ '.' :: fraction = whole' ++ '.' :: fraction') :
    whole = whole' ∧ fraction = fraction' := by
  obtain ⟨hwhole, -, hfraction⟩ := (List.append_cons_inj_of_notMem
    (point_notMem h.wholeDigits) (point_notMem h.fractionDigits)).mp same
  exact ⟨hwhole, hfraction⟩

end Writes

theorem whole_scaled (places n : Nat) : (scaled places n).whole = n / 10 ^ places := by
  rw [scaled]
  rfl

theorem writes_fractionOfWei (wei : Nat) :
    Writes wei (Nat.toDigits 10 (fractionOfWei wei).whole) (fractionOfWei wei).fraction where
  wholeDigits := isDigit_of_mem_toDigits _
  whole_ne_nil := Nat.toDigits_ne_nil
  leading h := by rw [eq_zero_of_head?_toDigits h, Nat.toDigits_zero]
  wholeValue := by
    rw [Nat.ofDigitChars_ten_toDigits, fractionOfWei, whole_scaled, places]
    push_cast
    rfl
  fractionDigits := (fractionOfWei wei).isDigit
  fraction_ne_nil := (fractionOfWei wei).fraction_ne_nil
  length := length_fraction_le wei
  trailing := (fractionOfWei wei).trimmed
  value := by
    have hvalue := value_fractionOfWei wei
    rw [DecimalFraction.value, places] at hvalue
    rw [Nat.ofDigitChars_ten_toDigits, hvalue]
    push_cast
    field_simp

theorem ofWei?_eq_some_iff {wei : Int} {t : Text} :
    ofWei? wei = some t ↔ (0 ≤ wei ∧ wei < 2 ^ 256) ∧ ofWei wei.toNat = t := by
  have hlimit : (limit : Int) = 2 ^ 256 := by norm_num [limit]
  rw [ofWei?, hlimit]
  by_cases hrange : 0 ≤ wei ∧ wei < 2 ^ 256
  · rw [if_pos hrange, Option.some.injEq, and_iff_right hrange]
  · rw [if_neg hrange]
    exact ⟨fun h => absurd h (by simp), fun h => absurd h.1 hrange⟩

/-- Where an amount has a text, its digits write the amount. -/
theorem writes_of_ofWei? {wei : Int} {t : Text} (h : ofWei? wei = some t) :
    ∃ whole fraction, t = Text.ofChars (whole ++ '.' :: fraction) ∧
      Writes wei whole fraction := by
  obtain ⟨⟨hpos, -⟩, rfl⟩ := ofWei?_eq_some_iff.mp h
  obtain ⟨n, rfl⟩ := Int.eq_ofNat_of_zero_le hpos
  refine ⟨_, _, ?_, writes_fractionOfWei n⟩
  rw [Int.toNat_natCast, ofWei_eq_text, DecimalFraction.text_eq_ofChars]

/-- No two numbers have the same text. -/
theorem wei_eq_of_ofWei? {wei wei' : Int} {t : Text} (h : ofWei? wei = some t)
    (h' : ofWei? wei' = some t) : wei = wei' := by
  obtain ⟨whole, fraction, rfl, hwrites⟩ := writes_of_ofWei? h
  obtain ⟨whole', fraction', htext, hwrites'⟩ := writes_of_ofWei? h'
  obtain ⟨rfl, rfl⟩ := hwrites.parts_eq_of_append (Text.ofChars_inj htext)
  exact hwrites.wei_eq hwrites'

/-- However the quotient is written out, its shortened form is the text of the amount. -/
theorem ofWei_eq_shorten {wei decimals quotient : Nat}
    (h : quotient * 10 ^ 18 = wei * 10 ^ decimals) :
    ofWei wei = Text.ofChars (shorten (fixedPoint decimals quotient)) := by
  rw [shorten_fixedPoint, ofWei_eq_text]
  refine DecimalFraction.text_eq_of_value_eq ?_
  rw [value_fractionOfWei, value_scaled, div_eq_div_iff (by positivity) (by positivity), places]
  exact_mod_cast h.symm

/-- Every amount of at most 256 bits has one text: its shortest decimal fraction in ether, which
is exact. No other number has this text, and any quotient of the amount that is written out and
shortened gives it. -/
theorem ether_text_exact_and_canonical :
    (∀ wei : Int, 0 ≤ wei → wei < 2 ^ 256 → ∃ whole fraction,
      ofWei? wei = some (Text.ofChars (whole ++ '.' :: fraction)) ∧ Writes wei whole fraction ∧
      ∀ whole' fraction', Writes wei whole' fraction' →
        whole' = whole ∧ fraction' = fraction) ∧
    (∀ wei wei' : Int, 0 ≤ wei → wei < 2 ^ 256 → ofWei? wei = ofWei? wei' → wei = wei') ∧
    ∀ (wei : Int) (decimals quotient : Nat), 0 ≤ wei → wei < 2 ^ 256 →
      (quotient : Int) * 10 ^ 18 = wei * 10 ^ decimals →
      ofWei? wei = some (Text.ofChars (shorten (fixedPoint decimals quotient))) := by
  refine ⟨?_, ?_, ?_⟩
  · intro wei hpos hlt
    have hsome := ofWei?_eq_some_iff.mpr ⟨⟨hpos, hlt⟩, rfl⟩
    obtain ⟨whole, fraction, htext, hwrites⟩ := writes_of_ofWei? hsome
    exact ⟨whole, fraction, hsome.trans (congrArg some htext), hwrites,
      fun _ _ h => h.unique hwrites⟩
  · intro wei wei' hpos hlt same
    have hsome := ofWei?_eq_some_iff.mpr ⟨⟨hpos, hlt⟩, rfl⟩
    exact wei_eq_of_ofWei? hsome (same.symm.trans hsome)
  · intro wei decimals quotient hpos hlt hquotient
    obtain ⟨n, rfl⟩ := Int.eq_ofNat_of_zero_le hpos
    refine ofWei?_eq_some_iff.mpr ⟨⟨hpos, hlt⟩, ?_⟩
    rw [Int.toNat_natCast]
    exact ofWei_eq_shorten (by exact_mod_cast hquotient)

/-- One and a half ether, written out with three places. -/
theorem ether_text_of_one_and_a_half :
    ofWei? 1500000000000000000 = some "1.5" ∧
      Writes 1500000000000000000 "1".toList "5".toList := by
  have htext : ofWei? 1500000000000000000 = some "1.5" :=
    ether_text_exact_and_canonical.2.2 _ 3 1500 (by norm_num) (by norm_num) (by norm_num)
  obtain ⟨whole, fraction, hsome, hwrites, -⟩ :=
    ether_text_exact_and_canonical.1 1500000000000000000 (by norm_num) (by norm_num)
  have hchars : whole ++ '.' :: fraction = "1".toList ++ '.' :: "5".toList :=
    Text.ofChars_inj (Option.some.inj (hsome.symm.trans htext))
  obtain ⟨rfl, rfl⟩ := hwrites.parts_eq_of_append hchars
  exact ⟨htext, hwrites⟩

end Ether

end OrderNarration
