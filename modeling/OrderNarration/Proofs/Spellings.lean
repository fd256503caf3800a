import Mathlib.Data.List.Basic
import OrderNarration.HashText
import OrderNarration.Proofs.Runs

/-!
# Spellings of byte strings

A byte string can be given as it is, or as hexadecimal text with letters of either case and
with or without the marker. A hash may also have blanks around it. What reads byte strings
and what brings hashes to their normal form agree on all spellings of the same bytes.
-/

namespace OrderNarration

/-- What holds of the 128 characters of ASCII holds of a character with such a number. -/
theorem of_forall_ascii {p : Char → Prop} (h : ∀ n : Fin 128, p (Char.ofNat n)) {c : Char}
    (hc : c.toNat < 128) : p c := by
  have hown := h ⟨c.toNat, hc⟩
  rwa [Char.ofNat_toNat] at hown

namespace Hex

/-- The marker in either case, or nothing. -/
def IsMarker (chars : List Char) : Prop :=
  chars = [] ∨ chars = ['0', 'x'] ∨ chars = ['0', 'X']

theorem IsMarker.eq_of_mem {chars : List Char} (h : IsMarker chars) {c : Char} (hc : c ∈ chars) :
    c = '0' ∨ c = 'x' ∨ c = 'X' := by
  rcases h with rfl | rfl | rfl
  · simp at hc
  · have hcases : c = '0' ∨ c = 'x' := by simpa using hc
    exact hcases.imp id Or.inl
  · have hcases : c = '0' ∨ c = 'X' := by simpa using hc
    exact hcases.imp id Or.inr

/-- The text spells the bytes with two digits of either case for each of them, after a marker or
without one. -/
def Spells (bytes : List UInt8) (t : Text) : Prop :=
  ∃ marker digits, IsMarker marker ∧ digits.map Char.toLower = encode bytes ∧
    t = Text.ofChars (marker ++ digits)

theorem bounds_of_value? {c : Char} {n : Nat} (h : value? c = some n) : '0' ≤ c ∧ c ≤ 'f' := by
  rw [value?] at h
  split at h
  next hc => exact ⟨hc.1, Char.le_trans hc.2 (by decide)⟩
  next =>
    split at h
    next hc => exact ⟨Char.le_trans (by decide) hc.1, hc.2⟩
    next =>
      split at h
      next hc => exact ⟨Char.le_trans (by decide) hc.1, Char.le_trans hc.2 (by decide)⟩
      next => simp at h

theorem toNat_lt_of_value? {c : Char} {n : Nat} (h : value? c = some n) : c.toNat < 128 := by
  have hle : c.toNat ≤ 'f'.toNat := (bounds_of_value? h).2
  exact Nat.lt_of_le_of_lt hle (by decide)

/-- Digits of both cases have the same value. -/
theorem value?_toLower (c : Char) : value? c.toLower = value? c := by
  by_cases hc : c.toNat < 128
  · exact of_forall_ascii (p := fun c => value? c.toLower = value? c) (by decide) hc
  · have hsame : c.toLower = c := by
      refine dif_neg ?_
      rintro ⟨-, hle⟩
      have : c.toNat ≤ 'Z'.toNat := hle
      simp only [Char.reduceToNat] at this
      omega
    rw [hsame]

theorem exists_value?_of_mem_encode {bytes : List UInt8} {c : Char} (h : c ∈ encode bytes) :
    ∃ n, value? c = some n := by
  rw [encode, List.mem_flatMap] at h
  obtain ⟨b, -, hc⟩ := h
  have hb := b.toNat_lt
  simp only [List.mem_cons, List.not_mem_nil, or_false] at hc
  rcases hc with rfl | rfl
  · exact ⟨_, value?_digit (by omega)⟩
  · exact ⟨_, value?_digit (by omega)⟩

/-- Lowercase digits come from digits. -/
theorem exists_value?_of_mem_digits {bytes : List UInt8} {digits : List Char}
    (h : digits.map Char.toLower = encode bytes) :
    ∀ c ∈ digits, ∃ n, value? c = some n := by
  intro c hc
  rw [← value?_toLower]
  apply exists_value?_of_mem_encode
  rw [← h]
  exact List.mem_map_of_mem hc

/-- No digit is taken for the letter of the marker. -/
theorem isMarked_digits {digits : List Char} (h : ∀ c ∈ digits, ∃ n, value? c = some n) :
    isMarked (Text.ofChars digits) = false := by
  match digits, h with
  | [], _ => rfl
  | [_], _ => simp [Text.ofChars, isMarked]
  | c :: d :: rest, h =>
      obtain ⟨n, hn⟩ := h d (by simp)
      have hd : (d == 'x' || d == 'X') = false := by
        by_contra hnot
        simp only [Bool.not_eq_false, Bool.or_eq_true, beq_iff_eq] at hnot
        rcases hnot with rfl | rfl
        · simp [value?] at hn
        · simp [value?] at hn
      simp only [Text.ofChars, List.map_cons, isMarked]
      split
      next heq =>
        simp only [List.cons.injEq, CodePoint.scalar.injEq] at heq
        rw [← heq.2.1]
        exact hd
      next => rfl

theorem decode_map_toLower (digits : List Char) :
    decode (digits.map Char.toLower) = decode digits := by
  fun_induction decode digits with
  | case1 => rfl
  | case2 => rfl
  | case3 high low rest h l hlow hhigh ih =>
      simp only [List.map_cons, decode, value?_toLower, hlow, hhigh, ih]
  | case4 high low rest hodd hnone =>
      simp only [List.map_cons, decode, value?_toLower, List.length_map, hodd, if_true]
  | case5 high low rest heven hnone =>
      simp only [List.map_cons, decode, value?_toLower, List.length_map, heven, if_false]

theorem foreignRun_ofChars {chars : List Char} (h : ∀ c ∈ chars, c.toNat < 128)
    (position : Nat) : foreignRun position (Text.ofChars chars) = none := by
  induction chars generalizing position with
  | nil => rfl
  | cons c rest ih =>
      obtain ⟨hc, hrest⟩ := List.forall_mem_cons.mp h
      have hsmall : (CodePoint.scalar c).number < 0x80 := hc
      rw [Text.ofChars, List.map_cons, foreignRun, if_pos hsmall]
      exact ih hrest (position + 1)

theorem unmarked_of_marker {marker digits : List Char} (hmarker : IsMarker marker)
    (h : ∀ c ∈ digits, ∃ n, value? c = some n) :
    unmarked (Text.ofChars (marker ++ digits)) = Text.ofChars digits := by
  rcases hmarker with rfl | rfl | rfl
  · rw [List.nil_append, unmarked, isMarked_digits h]
    rfl
  · rfl
  · rfl

/-- A text that spells bytes is read as these bytes. -/
theorem readText_of_spells {bytes : List UInt8} {t : Text} (h : Spells bytes t) :
    readText t = .ok bytes := by
  obtain ⟨marker, digits, hmarker, hlower, rfl⟩ := h
  have hdigits := exists_value?_of_mem_digits hlower
  have hascii : ∀ c ∈ digits, c.toNat < 128 := by
    intro c hc
    obtain ⟨n, hn⟩ := hdigits c hc
    exact toNat_lt_of_value? hn
  have hchars : (Text.ofChars digits).filterMap CodePoint.char? = digits := by
    rw [Text.ofChars, List.filterMap_map]
    exact List.filterMap_some
  rw [readText, unmarked_of_marker hmarker hdigits, foreignRun_ofChars hascii, hchars,
    ← decode_map_toLower, hlower, decode_encode]

end Hex

namespace Text

variable {inClass : CodePoint → Bool}

/-- Cutting stops at the first code point that is not in the class. -/
theorem dropWhile_append_of_head {before rest : Text} (hbefore : ∀ c ∈ before, inClass c = true)
    (hrest : ∀ c ∈ rest.head?, inClass c = false) : (before ++ rest).dropWhile inClass = rest := by
  rw [List.dropWhile_append_of_pos hbefore]
  cases rest with
  | nil => rfl
  | cons c rest => exact List.dropWhile_cons_of_neg (by simp [hrest c rfl])

/-- Only what stands around a text is cut off if the text has nothing in the class at its ends. -/
theorem trim_append_of_ends {before core after : Text} (hbefore : ∀ c ∈ before, inClass c = true)
    (hfirst : ∀ c ∈ core.head?, inClass c = false) (hlast : ∀ c ∈ core.getLast?, inClass c = false)
    (hafter : ∀ c ∈ after, inClass c = true) :
    (before ++ core ++ after).trim inClass = core := by
  have hback : ∀ c ∈ after.reverse, inClass c = true := by simpa using hafter
  have hend : ∀ c ∈ core.reverse.head?, inClass c = false := by simpa using hlast
  cases core with
  | nil =>
      -- nothing is kept, so there is nothing at which the cut from the front could stop
      have hall : ∀ c ∈ before ++ after, inClass c = true :=
        List.forall_mem_append.mpr ⟨hbefore, hafter⟩
      have hnone : (before ++ after ++ []).dropWhile inClass = [] :=
        dropWhile_append_of_head hall (by simp)
      rw [List.append_nil] at hnone
      rw [trim, List.append_nil, hnone]
      rfl
  | cons c rest =>
      have hstart : ∀ d ∈ (c :: rest ++ after).head?, inClass d = false := by simpa using hfirst
      rw [trim, List.append_assoc, dropWhile_append_of_head hbefore hstart, List.reverse_append,
        dropWhile_append_of_head hback hend, List.reverse_reverse]

/-- Only what stands around a text is cut off if nothing in the text is in the class. -/
theorem trim_append {before core after : Text} (hbefore : ∀ c ∈ before, inClass c = true)
    (hcore : ∀ c ∈ core, inClass c = false) (hafter : ∀ c ∈ after, inClass c = true) :
    (before ++ core ++ after).trim inClass = core :=
  trim_append_of_ends hbefore (fun c hc => hcore c (List.mem_of_mem_head? hc))
    (fun c hc => hcore c (List.mem_of_getLast? hc)) hafter

/-- ASCII has the lowercase form that its characters have one by one. -/
theorem lowercase_ofChars {chars : List Char} (h : ∀ c ∈ chars, c.toNat < 128) :
    (ofChars chars).lowercase = ofChars (chars.map Char.toLower) := by
  have hlower : ∀ n : Fin 128,
      Char.ofNat (CodePoint.lowerNumber (Char.ofNat n).toNat) = (Char.ofNat n).toLower := by
    decide +kernel
  have hafter (before : Text) : lowercaseAfter before (ofChars chars) =
      ofChars (chars.map Char.toLower) := by
    induction chars generalizing before with
    | nil => rfl
    | cons c rest ih =>
        obtain ⟨hc, hrest⟩ := List.forall_mem_cons.mp h
        have hone (after : Text) : lowerBetween before (.scalar c) after =
            [.scalar c.toLower] := by
          have hsigma : CodePoint.scalar c ≠ .scalar 'Σ' := by
            rintro ⟨⟩
            revert hc
            decide
          have hdotted : CodePoint.scalar c ≠ .scalar 'İ' := by
            rintro ⟨⟩
            revert hc
            decide
          rw [lowerBetween, if_neg hsigma, if_neg hdotted, CodePoint.lower,
            of_forall_ascii (p := fun c => Char.ofNat (CodePoint.lowerNumber c.toNat) = c.toLower)
              hlower hc]
        rw [ofChars, List.map_cons, lowercaseAfter, hone]
        exact congrArg _ (ih hrest _)
  exact hafter []

end Text

namespace HashText

/-- The text spells the bytes, possibly with blanks around. -/
def Spells (bytes : List UInt8) (t : Text) : Prop :=
  ∃ before core after, (∀ c ∈ before, CodePoint.isBlank c = true) ∧
    (∀ c ∈ after, CodePoint.isBlank c = true) ∧ Hex.Spells bytes core ∧
    t = before ++ core ++ after

theorem isBlank_of_value? {c : Char} {n : Nat} (h : Hex.value? c = some n) :
    (CodePoint.scalar c).isBlank = false := by
  have hascii : ∀ k : Fin 128, (Hex.value? (Char.ofNat k)).isSome = true →
      (CodePoint.scalar (Char.ofNat k)).isBlank = false := by decide
  exact of_forall_ascii (p := fun c => (Hex.value? c).isSome = true →
    (CodePoint.scalar c).isBlank = false) hascii (Hex.toNat_lt_of_value? h) (by simp [h])

/-- All texts that spell the same bytes have the normal form of these bytes. -/
theorem ofText_of_spells {bytes : List UInt8} {t : Text} (h : Spells bytes t) :
    ofText t = Hex.marked bytes := by
  obtain ⟨before, core, after, hbefore, hafter, ⟨marker, digits, hmarker, hlower, rfl⟩, rfl⟩ := h
  have hdigit : ∀ c ∈ digits, c.toNat < 128 ∧ (CodePoint.scalar c).isBlank = false := by
    intro c hc
    obtain ⟨n, hn⟩ := Hex.exists_value?_of_mem_digits hlower c hc
    exact ⟨Hex.toNat_lt_of_value? hn, isBlank_of_value? hn⟩
  have hmark : ∀ c ∈ marker, c.toNat < 128 ∧ (CodePoint.scalar c).isBlank = false := by
    intro c hc
    rcases hmarker.eq_of_mem hc with rfl | rfl | rfl
    · exact ⟨by decide, rfl⟩
    · exact ⟨by decide, rfl⟩
    · exact ⟨by decide, rfl⟩
  have hchars := List.forall_mem_append.mpr ⟨hmark, hdigit⟩
  have hcore : ∀ p ∈ Text.ofChars (marker ++ digits), CodePoint.isBlank p = false := by
    intro p hp
    obtain ⟨c, hc, rfl⟩ := List.mem_map.mp hp
    exact (hchars c hc).2
  have hlowered : (Text.ofChars (marker ++ digits)).lowercase =
      Text.ofChars (marker.map Char.toLower ++ Hex.encode bytes) := by
    rw [Text.lowercase_ofChars fun c hc => (hchars c hc).1, List.map_append, hlower]
  rw [ofText, Text.strip, Text.trim_append hbefore hcore hafter, hlowered]
  rcases hmarker with rfl | rfl | rfl
  · rw [List.map_nil, List.nil_append,
      Hex.isMarked_digits fun c hc => Hex.exists_value?_of_mem_encode hc]
    rfl
  · rfl
  · rfl

end HashText

namespace Value

/-- The value gives the bytes: as they are, or as a text that spells them. -/
inductive Gives (spells : List UInt8 → Text → Prop) (bytes : List UInt8) : Value → Prop
  | bytes : Gives spells bytes (.bytes bytes)
  | text {t : Text} (h : spells bytes t) : Gives spells bytes (.text t)

/-- Two values are one value, or they give the same bytes. -/
inductive Respells (spells : List UInt8 → Text → Prop) : Value → Value → Prop
  | same (v : Value) : Respells spells v v
  | spelled {bytes : List UInt8} {v w : Value} (hv : v.Gives spells bytes)
      (hw : w.Gives spells bytes) : Respells spells v w

variable {v w : Value} {bytes : List UInt8}

theorem byteString_of_gives (h : v.Gives Hex.Spells bytes) : v.byteString = .ok bytes := by
  cases h with
  | bytes => rfl
  | text h => rw [byteString, Hex.readText_of_spells h]

theorem hashText_of_gives (h : v.Gives HashText.Spells bytes) :
    HashText.ofValue v = .ok (some (Hex.marked bytes)) := by
  cases h with
  | bytes => rfl
  | text h => rw [← HashText.ofText_of_spells h]; rfl

/-- Byte strings are read in the same way from all their spellings. -/
theorem Respells.byteString_eq (h : v.Respells Hex.Spells w) : v.byteString = w.byteString := by
  cases h with
  | same => rfl
  | spelled hv hw => rw [byteString_of_gives hv, byteString_of_gives hw]

/-- Hashes have the same normal form in all their spellings. -/
theorem Respells.hashText_eq (h : v.Respells HashText.Spells w) :
    HashText.ofValue v = HashText.ofValue w := by
  cases h with
  | same => rfl
  | spelled hv hw => rw [hashText_of_gives hv, hashText_of_gives hw]

end Value

end OrderNarration
