import OrderNarration.Proofs.EtherTexts
import OrderNarration.Proofs.Spellings

/-!
# The numeral of an integer

The numeral that is written for an integer is read back as this integer, as long as it
has no more than 4300 digits.
-/

namespace OrderNarration

theorem CodePoint.isWhiteSpace_of_isDigit {c : Char} (h : c.isDigit = true) :
    (CodePoint.scalar c).isWhiteSpace = false := by
  have hascii : ∀ k : Fin 128, (Char.ofNat k).isDigit = true →
      (CodePoint.scalar (Char.ofNat k)).isWhiteSpace = false := by decide
  have hlt : c.toNat < 128 := by
    have hbounds : '0' ≤ c ∧ c ≤ '9' := by simpa [Char.isDigit, Char.le_def] using h
    exact lt_of_le_of_lt hbounds.2 (by decide)
  exact of_forall_ascii (p := fun c => c.isDigit = true →
    (CodePoint.scalar c).isWhiteSpace = false) hascii hlt h

namespace Numeral

variable {cs : List Char}

theorem digitGroup_ofChars (digits : ∀ c ∈ cs, c.isDigit = true) (ne_nil : cs ≠ []) :
    digitGroup (Text.ofChars cs) = some (cs.map fun c => c.toNat - 48) := by
  induction cs with
  | nil => exact absurd rfl ne_nil
  | cons c rest ih =>
      obtain ⟨hc, hrest⟩ := List.forall_mem_cons.mp digits
      cases rest with
      | nil => simp [Text.ofChars, digitGroup, CodePoint.digit?_of_isDigit hc]
      | cons d rest =>
          have hd : d ≠ '_' := by
            rintro rfl
            exact absurd (hrest '_' List.mem_cons_self) (by decide)
          have htail := ih hrest (List.cons_ne_nil d rest)
          simp only [Text.ofChars, List.map_cons] at htail ⊢
          simp [digitGroup, hd, CodePoint.digit?_of_isDigit hc, htail]

theorem ofDigits_map (cs : List Char) :
    ofDigits (cs.map fun c => c.toNat - 48) = Nat.ofDigitChars 10 cs 0 := by
  rw [ofDigits, List.foldl_map]
  rfl

theorem splitSign_ofChars (digits : ∀ c ∈ cs, c.isDigit = true) :
    splitSign (Text.ofChars cs) = (false, Text.ofChars cs) := by
  cases cs with
  | nil => rfl
  | cons c rest =>
      have hc := digits c List.mem_cons_self
      have hplus : c ≠ '+' := by
        rintro rfl
        exact absurd hc (by decide)
      have hminus : c ≠ '-' := by
        rintro rfl
        exact absurd hc (by decide)
      simp [Text.ofChars, splitSign, hplus, hminus]

/-- Digits within the limit, with a sign or without one, are read as the number they denote. -/
theorem read?_of_digits {t : Text} {negative : Bool} (digits : ∀ c ∈ cs, c.isDigit = true)
    (ne_nil : cs ≠ []) (limited : cs.length ≤ maxDigits)
    (noSpace : ∀ c ∈ t, c.isWhiteSpace = false)
    (sign : splitSign t = (negative, Text.ofChars cs)) :
    read? t = some (signed negative (Nat.ofDigitChars 10 cs 0)) := by
  have htrim : t.trim CodePoint.isWhiteSpace = t := by
    have hcut := @Text.trim_append CodePoint.isWhiteSpace [] t [] (by simp) noSpace (by simp)
    rwa [List.nil_append, List.append_nil] at hcut
  simp [read?, htrim, sign, digitGroup_ofChars digits ne_nil, limited, ofDigits_map]

/-- An integer of at most 4300 digits is read from its own numeral. -/
theorem read?_ofInt {n : Int} (limited : n.natAbs < 10 ^ maxDigits) :
    read? (Text.ofInt n) = some n := by
  have digits := Ether.isDigit_of_mem_toDigits n.natAbs
  have ne_nil : Nat.toDigits 10 n.natAbs ≠ [] :=
    List.ne_nil_of_length_pos Nat.length_toDigits_pos
  have hlength : (Nat.toDigits 10 n.natAbs).length ≤ maxDigits :=
    (Nat.length_toDigits_le_iff (by decide) (by decide)).mpr limited
  have noSpace : ∀ c ∈ Text.ofChars (Nat.toDigits 10 n.natAbs), c.isWhiteSpace = false := by
    intro c hc
    obtain ⟨d, hd, rfl⟩ := List.mem_map.mp hc
    exact CodePoint.isWhiteSpace_of_isDigit (digits d hd)
  cases n with
  | ofNat n =>
      have hread := read?_of_digits digits ne_nil hlength noSpace (splitSign_ofChars digits)
      rwa [Nat.ofDigitChars_ten_toDigits] at hread
  | negSucc n =>
      have hminus : ∀ c ∈ Text.ofInt (.negSucc n), c.isWhiteSpace = false :=
        List.forall_mem_cons.mpr ⟨by decide, noSpace⟩
      have hsign : splitSign (Text.ofInt (.negSucc n)) =
          (true, Text.ofChars (Nat.toDigits 10 (Int.negSucc n).natAbs)) := rfl
      have hread := read?_of_digits digits ne_nil hlength hminus hsign
      rwa [Nat.ofDigitChars_ten_toDigits] at hread

end Numeral

end OrderNarration
