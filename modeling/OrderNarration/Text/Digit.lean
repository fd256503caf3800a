import OrderNarration.Text.Basic

/-!
# Decimal digits

A numeral may use the decimal digits of any script, and mix them.
-/

namespace OrderNarration.CodePoint

/-- The zeros of the 66 scripts of Unicode 14; each is followed by its digits one to nine. -/
def zeros : List Nat := [
    0x30, 0x660, 0x6F0, 0x7C0, 0x966, 0x9E6, 0xA66, 0xAE6, 0xB66, 0xBE6, 0xC66, 0xCE6,
    0xD66, 0xDE6, 0xE50, 0xED0, 0xF20, 0x1040, 0x1090, 0x17E0, 0x1810, 0x1946, 0x19D0,
    0x1A80, 0x1A90, 0x1B50, 0x1BB0, 0x1C40, 0x1C50, 0xA620, 0xA8D0, 0xA900, 0xA9D0, 0xA9F0,
    0xAA50, 0xABF0, 0xFF10, 0x104A0, 0x10D30, 0x11066, 0x110F0, 0x11136, 0x111D0, 0x112F0,
    0x11450, 0x114D0, 0x11650, 0x116C0, 0x11730, 0x118E0, 0x11950, 0x11C50, 0x11D50,
    0x11DA0, 0x16A60, 0x16AC0, 0x16B50, 0x1D7CE, 0x1D7D8, 0x1D7E2, 0x1D7EC, 0x1D7F6,
    0x1E140, 0x1E2F0, 0x1E950, 0x1FBF0]

/-- The value of a decimal digit. -/
def digit? (c : CodePoint) : Option Nat :=
  (zeros.find? fun z => z ≤ c.number && c.number ≤ z + 9).map (c.number - ·)

theorem digit?_of_isDigit {c : Char} (h : c.isDigit = true) :
    (scalar c).digit? = some (c.toNat - 48) := by
  simp only [Char.isDigit, Bool.and_eq_true, decide_eq_true_eq] at h
  have h₁ : 48 ≤ c.toNat := by simpa [Char.le_def, UInt32.le_iff_toNat_le] using h.1
  have h₂ : c.toNat ≤ 57 := by simpa [Char.le_def, UInt32.le_iff_toNat_le] using h.2
  simp [digit?, zeros, number, h₁, h₂]

end OrderNarration.CodePoint
