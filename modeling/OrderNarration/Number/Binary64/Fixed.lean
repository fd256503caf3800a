import OrderNarration.Number.Binary64.Shortest

/-!
# Decimal texts with a given number of digits

A magnitude is rounded to a number of decimal places or of significant digits;
a tie goes to the even digit. The general form chooses between the two by size.
-/

namespace OrderNarration.Binary64

/-- No finite number has more digits than this after the decimal point: the least positive one,
two to the power -1074, has 1074. -/
def maxPlaces : Nat := 1074

/-- No finite number has more significant digits than this. -/
def maxSignificantDigits : Nat := 1074

/-- Write a magnitude with the given number of decimal places. -/
def fixedForm (significand : Nat) (exponent : Int) (places : Nat) (keepPoint : Bool) : Text :=
  let (num, den) := fraction significand exponent
  let exact := min places maxPlaces
  let digits := Nat.toDigits 10 (roundHalfEven (num * Nat.pow 10 exact) den)
  let digits := List.replicate (exact + 1 - digits.length) '0' ++ digits
  let whole := digits.take (digits.length - exact)
  if places = 0 ∧ ¬ keepPoint then Text.ofChars whole
  else
    Text.ofChars (whole ++ '.' :: digits.drop (digits.length - exact) ++
      List.replicate (places - exact) '0')

/-- The first digits of a magnitude and its power of ten; zero has the power zero. -/
def significantDigits (significand : Nat) (exponent : Int) (count : Nat) : List Char × Int :=
  if significand = 0 then (List.replicate count '0', 0)
  else
    let (num, den) := fraction significand exponent
    let point := decimalPoint num den
    let exact := min count maxSignificantDigits
    let (tens, tenths) := power 10 (point - exact)
    let digits := Nat.toDigits 10 (roundHalfEven (num * tenths) (den * tens))
    let zeros := List.replicate (count - exact) '0'
    if digits.length = exact then (digits ++ zeros, point - 1)
    else (digits.take exact ++ zeros, point)

/-- Write digits with a power of ten. -/
def scientificForm (mark : Char) (digits : List Char) (power : Int) (keepPoint : Bool) : Text :=
  let mantissa :=
    match digits with
    | [d] => if keepPoint then [d, '.'] else [d]
    | d :: rest => d :: '.' :: rest
    | [] => []
  let sign : Char := if power < 0 then '-' else '+'
  Text.ofChars (mantissa ++ [mark, sign]) ++ Text.padLeft 2 '0' (Text.ofNat power.natAbs)

/-- Write a magnitude with the given number of significant digits, positional if its power of
ten is at least -4 and below that number. Zeros at the end are dropped unless they are kept. -/
def generalForm (mark : Char) (significand : Nat) (exponent : Int) (count : Nat) (keep : Bool) :
    Text :=
  let count := max count 1
  let written := if keep then count else min count maxSignificantDigits
  let (digits, power) := significantDigits significand exponent written
  let kept := if keep then digits else
    match dropTrailingZeros digits with
    | [] => ['0']
    | ds => ds
  if -4 ≤ power ∧ power < count then
    let point := power + 1
    if point ≤ 0 then
      Text.ofChars ('0' :: '.' :: List.replicate (-point).toNat '0' ++ kept)
    else if point.toNat < kept.length then
      Text.ofChars (kept.take point.toNat ++ '.' :: kept.drop point.toNat)
    else
      Text.ofChars (kept ++ List.replicate (point.toNat - kept.length) '0' ++
        (if keep then ['.'] else []))
  else scientificForm mark kept power keep

end OrderNarration.Binary64
