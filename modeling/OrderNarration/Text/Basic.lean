/-!
# Texts

A text is a list of code points. An order context may spell one half of a
surrogate pair without the other half, so a code point is either a Unicode
scalar value or a surrogate that stands alone.

## Implementation notes

String literals coerce to texts, and texts are joined with list append. The numeral
of a number may have any length; what relies on a limit of digits states it.
-/

namespace OrderNarration

/-- A Unicode scalar value, or a surrogate without its partner. -/
inductive CodePoint where
  | scalar (char : Char)
  | surrogate (offset : Fin 2048)
  deriving DecidableEq

namespace CodePoint

/-- The number that Unicode gives the code point. -/
def number : CodePoint → Nat
  | scalar c => c.toNat
  | surrogate k => 0xD800 + k.val

/-- The code point that one 16-bit unit stands for when it is read alone. -/
def ofUnit (unit : Nat) : CodePoint :=
  if h : 0xD800 ≤ unit ∧ unit < 0xE000 then
    surrogate ⟨unit - 0xD800, by omega⟩
  else
    scalar (Char.ofNat unit)

/-- The character of a scalar value. -/
def char? : CodePoint → Option Char
  | scalar c => some c
  | surrogate _ => none

end CodePoint

/-- A sequence of code points. -/
abbrev Text := List CodePoint

namespace Text

/-- The text of a list of characters. -/
def ofChars (chars : List Char) : Text := chars.map .scalar

/-- The text of a string. -/
def ofString (s : String) : Text := ofChars s.toList

/-- The characters of a text that holds no lone surrogate. -/
def chars? (t : Text) : Option (List Char) := t.mapM CodePoint.char?

/-- Cut the longest run of code points in the class from both ends. -/
def trim (inClass : CodePoint → Bool) (t : Text) : Text :=
  ((t.dropWhile inClass).reverse.dropWhile inClass).reverse

/-- Write the texts one after another with the separator between neighbours. -/
def join (separator : Text) (parts : List Text) : Text :=
  (parts.intersperse separator).flatten

/-- The decimal numeral of a natural number. -/
def ofNat (n : Nat) : Text := ofChars (Nat.toDigits 10 n)

/-- Fill up to the width with the given code point on the left. -/
def padLeft (width : Nat) (fill : Char) (t : Text) : Text :=
  List.replicate (width - t.length) (.scalar fill) ++ t

/-- Fill up to the width with the given code point on the right. -/
def padRight (width : Nat) (fill : Char) (t : Text) : Text :=
  t ++ List.replicate (width - t.length) (.scalar fill)

end Text

instance : Coe String Text := ⟨Text.ofString⟩

/-- The decimal numeral of an integer, with a leading minus sign below zero. -/
def Text.ofInt : Int → Text
  | .ofNat n => ofNat n
  | .negSucc n => "-" ++ ofNat (n + 1)

theorem Text.ofChars_append (a b : List Char) :
    Text.ofChars (a ++ b) = Text.ofChars a ++ Text.ofChars b := by
  simp [Text.ofChars]

theorem Text.chars?_ofChars (chars : List Char) :
    (Text.ofChars chars).chars? = some chars := by
  induction chars with
  | nil => rfl
  | cons c rest ih =>
    simp only [Text.ofChars, Text.chars?, List.map_cons, List.mapM_cons] at ih ⊢
    simp [CodePoint.char?, ih]

theorem Text.ofChars_inj {a b : List Char} (h : Text.ofChars a = Text.ofChars b) : a = b := by
  have hchars := congrArg Text.chars? h
  rw [Text.chars?_ofChars, Text.chars?_ofChars] at hchars
  exact Option.some.inj hchars

end OrderNarration
