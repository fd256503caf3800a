import OrderNarration.Number.Binary64
import OrderNarration.Number.Numeral

/-!
# Decimal numerals

A decimal numeral has a sign, digits on at least one side of a decimal point and
an optional power of ten. It is read to the nearest binary number or kept as it
is; infinities and the absence of a number have names instead of digits.

## Implementation notes

Digits of every script are first brought to ASCII. A code point that no numeral
can hold becomes a question mark, which the later steps refuse.
-/

namespace OrderNarration

/-- The digits before and after the decimal point, and the power of ten. -/
structure DecimalNumeral where
  whole : List Char
  fraction : List Char
  exponent : Int

namespace DecimalNumeral

/-- The digit sequence as a number. -/
def digits (n : DecimalNumeral) : Nat := Nat.ofDigitChars 10 (n.whole ++ n.fraction) 0

/-- The power of ten that the digit sequence is multiplied by. -/
def scale (n : DecimalNumeral) : Int := n.exponent - n.fraction.length

/-- The nearest binary number. -/
def toBinary64 (n : DecimalNumeral) (negative : Bool) : Binary64 :=
  .ofDecimal negative n.digits n.scale

/-- Bring one code point to ASCII. -/
def asciiOf (c : CodePoint) : Char :=
  match c.digit?, c with
  | some d, _ => Char.ofNat (48 + d)
  | none, .scalar char => if char.toNat < 0x80 then char else '?'
  | none, .surrogate _ => '?'

/-- Remove underscores that stand between digits; `previous` is the character before. -/
def dropUnderscores (previous : Char) : List Char → Option (List Char)
  | [] => if previous = '_' then none else some []
  | c :: rest =>
    if c = '_' then
      if previous.isDigit then dropUnderscores c rest else none
    else if previous = '_' ∧ ¬ c.isDigit then none
    else (c :: ·) <$> dropUnderscores c rest

/-- A leading sign, which is minus if the flag is set, and what follows it. -/
def splitSign : List Char → Bool × List Char
  | '+' :: rest => (false, rest)
  | '-' :: rest => (true, rest)
  | cs => (false, cs)

/-- The power of ten after the digits: nothing, or a letter E and a signed numeral. -/
def readExponent? : List Char → Option Int
  | [] => some 0
  | c :: rest =>
    let (negative, digits) := splitSign rest
    if (c = 'e' ∨ c = 'E') ∧ digits ≠ [] ∧ digits.all Char.isDigit then
      some (Numeral.signed negative (Nat.ofDigitChars 10 digits 0))
    else none

/-- Read a numeral without its sign. -/
def read? (cs : List Char) : Option DecimalNumeral := do
  let whole := cs.takeWhile Char.isDigit
  let (fraction, rest) :=
    match cs.dropWhile Char.isDigit with
    | '.' :: rest => (rest.takeWhile Char.isDigit, rest.dropWhile Char.isDigit)
    | rest => ([], rest)
  if whole = [] ∧ fraction = [] then none
  else return ⟨whole, fraction, ← readExponent? rest⟩

end DecimalNumeral

/-- Read the text of a binary number. -/
def Binary64.read? (t : Text) : Option Binary64 := do
  let ascii := (t.trim CodePoint.isWhiteSpace).map DecimalNumeral.asciiOf
  let cs ← DecimalNumeral.dropUnderscores ' ' ascii
  let (negative, body) := DecimalNumeral.splitSign cs
  let name := String.ofList (body.map Char.toLower)
  if name = "inf" ∨ name = "infinity" then return .infinite negative
  else if name = "nan" then return .notANumber
  else return (← DecimalNumeral.read? body).toBinary64 negative

end OrderNarration
