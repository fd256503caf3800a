import OrderNarration.Text.Basic

/-!
# Blank code points

Numerals may be surrounded by Unicode white space. Hashes and settings may also
be surrounded by the four information separators, which are blank without
being white space.
-/

namespace OrderNarration.CodePoint

/-- The code points with the Unicode property White_Space. -/
def isWhiteSpace (c : CodePoint) : Bool :=
  let n := c.number
  (0x09 ≤ n && n ≤ 0x0D) || n == 0x20 || n == 0x85 || n == 0xA0 || n == 0x1680 ||
    (0x2000 ≤ n && n ≤ 0x200A) || n == 0x2028 || n == 0x2029 || n == 0x202F ||
    n == 0x205F || n == 0x3000

/-- White space and the information separators U+001C to U+001F. -/
def isBlank (c : CodePoint) : Bool :=
  c.isWhiteSpace || (0x1C ≤ c.number && c.number ≤ 0x1F)

example (c : Char) (h : c.isWhitespace = true) : (scalar c).isBlank = true := by
  simp only [Char.isWhitespace, Bool.or_eq_true, decide_eq_true_eq] at h
  rcases h with ((rfl | rfl) | rfl) | rfl <;> rfl

end OrderNarration.CodePoint

namespace OrderNarration.Text

/-- Cut blanks from both ends. -/
def strip (t : Text) : Text := t.trim CodePoint.isBlank

end OrderNarration.Text
