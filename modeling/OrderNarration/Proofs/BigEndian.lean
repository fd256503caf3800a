import Mathlib.Data.Nat.Digits.Lemmas
import OrderNarration.Rlp.Item

/-!
# Big-endian numbers

Big-endian bytes are the digits of a number to the base 256, the highest one
first. The fewest bytes of a number are those without a leading zero, so that
spelling and reading undo each other.
-/

namespace OrderNarration.Rlp

/-- The digits that bytes stand for, the lowest one first. -/
def digitsOfBytes (bytes : List UInt8) : List Nat := bytes.reverse.map UInt8.toNat

theorem digitsOfBytes_append_singleton (bytes : List UInt8) (b : UInt8) :
    digitsOfBytes (bytes ++ [b]) = b.toNat :: digitsOfBytes bytes := by
  simp [digitsOfBytes]

theorem length_digitsOfBytes (bytes : List UInt8) :
    (digitsOfBytes bytes).length = bytes.length := by
  simp [digitsOfBytes]

theorem digitsOfBytes_injective : Function.Injective digitsOfBytes := by
  intro bytes others h
  have hreverse := List.map_injective_iff.mpr (fun _ _ => UInt8.toNat_inj.mp) h
  exact List.reverse_injective hreverse

theorem lt_of_mem_digitsOfBytes {bytes : List UInt8} {d : Nat} (h : d ∈ digitsOfBytes bytes) :
    d < 256 := by
  obtain ⟨b, -, rfl⟩ := List.mem_map.mp h
  exact b.toNat_lt

theorem bigEndian_append_singleton (bytes : List UInt8) (b : UInt8) :
    bigEndian (bytes ++ [b]) = 256 * bigEndian bytes + b.toNat := by
  simp [bigEndian]

/-- The number of bytes is the number of their digits. -/
theorem bigEndian_eq_ofDigits (bytes : List UInt8) :
    bigEndian bytes = Nat.ofDigits 256 (digitsOfBytes bytes) := by
  induction bytes using List.reverseRecOn with
  | nil => rfl
  | append_singleton bytes b ih =>
      rw [bigEndian_append_singleton, digitsOfBytes_append_singleton, Nat.ofDigits_cons, ih]
      exact Nat.add_comm _ _

theorem bigEndian_lt (bytes : List UInt8) : bigEndian bytes < 256 ^ bytes.length := by
  rw [bigEndian_eq_ofDigits, ← length_digitsOfBytes]
  exact Nat.ofDigits_lt_base_pow_length (by norm_num) fun d => lt_of_mem_digitsOfBytes

/-- The bytes of a number that is small enough are its digits. -/
theorem digitsOfBytes_bigEndianBytes {width n : Nat} (h : n < 256 ^ width) :
    digitsOfBytes (bigEndianBytes width n) = Nat.digits 256 n := by
  induction width generalizing n with
  | zero =>
      obtain rfl : n = 0 := by simpa using h
      rfl
  | succ width ih =>
      rw [bigEndianBytes]
      by_cases hn : n = 0
      · simp [hn, digitsOfBytes]
      · have hquotient : n / 256 < 256 ^ width := by
          rw [pow_succ] at h
          exact Nat.div_lt_of_lt_mul (by rwa [Nat.mul_comm])
        have hbyte : (UInt8.ofNat (n % 256)).toNat = n % 256 :=
          UInt8.toNat_ofNat_of_lt (Nat.mod_lt n (by norm_num))
        rw [if_neg hn, digitsOfBytes_append_singleton, ih hquotient, hbyte,
          ← Nat.digits_def' (by norm_num) (Nat.pos_of_ne_zero hn)]

/-- Reading undoes spelling. -/
theorem bigEndian_bigEndianBytes {width n : Nat} (h : n < 256 ^ width) :
    bigEndian (bigEndianBytes width n) = n := by
  rw [bigEndian_eq_ofDigits, digitsOfBytes_bigEndianBytes h, Nat.ofDigits_digits]

theorem length_bigEndianBytes_le {width n : Nat} (h : n < 256 ^ width) :
    (bigEndianBytes width n).length ≤ width := by
  rw [← length_digitsOfBytes, digitsOfBytes_bigEndianBytes h]
  exact (Nat.digits_length_le_iff (by norm_num) n).mpr h

theorem length_bigEndianBytes_pos {width n : Nat} (h : n < 256 ^ width) (hn : n ≠ 0) :
    0 < (bigEndianBytes width n).length := by
  rw [← length_digitsOfBytes, digitsOfBytes_bigEndianBytes h]
  exact List.length_pos_of_ne_nil (Nat.digits_ne_nil_iff_ne_zero.mpr hn)

theorem getLast?_digitsOfBytes (bytes : List UInt8) :
    (digitsOfBytes bytes).getLast? = bytes.head?.map UInt8.toNat := by
  simp [digitsOfBytes]

/-- The fewest bytes have no leading zero. -/
theorem head?_bigEndianBytes {width n : Nat} (h : n < 256 ^ width) :
    (bigEndianBytes width n).head? ≠ some 0 := by
  intro hzero
  have hlast : (Nat.digits 256 n).getLast? = some 0 := by
    rw [← digitsOfBytes_bigEndianBytes h, getLast?_digitsOfBytes, hzero]
    rfl
  have hn : n ≠ 0 := by
    rintro rfl
    simp at hlast
  have hne : Nat.digits 256 n ≠ [] := Nat.digits_ne_nil_iff_ne_zero.mpr hn
  rw [List.getLast?_eq_some_getLast hne] at hlast
  exact Nat.getLast_digit_ne_zero 256 hn (Option.some.inj hlast)

/-- Spelling undoes reading if there is no leading zero. -/
theorem bigEndianBytes_bigEndian {width : Nat} {bytes : List UInt8} (h : bytes.length ≤ width)
    (hzero : bytes.head? ≠ some 0) : bigEndianBytes width (bigEndian bytes) = bytes := by
  have hwidth : bigEndian bytes < 256 ^ width :=
    (bigEndian_lt bytes).trans_le (Nat.pow_le_pow_right (by norm_num) h)
  apply digitsOfBytes_injective
  rw [digitsOfBytes_bigEndianBytes hwidth, bigEndian_eq_ofDigits]
  refine Nat.digits_ofDigits 256 (by norm_num) _ (fun d => lt_of_mem_digitsOfBytes) ?_
  intro hne hlast
  have hsome : bytes.head?.map UInt8.toNat = some 0 := by
    rw [← getLast?_digitsOfBytes, List.getLast?_eq_some_getLast hne, hlast]
  obtain ⟨b, hb, hb0⟩ := Option.map_eq_some_iff.mp hsome
  exact hzero (hb.trans (congrArg some (UInt8.toNat_inj.mp hb0)))

end OrderNarration.Rlp
