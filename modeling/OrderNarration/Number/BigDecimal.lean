import OrderNarration.Number.DecimalNumeral

/-!
# Decimal numbers of any size

Decimal numbers keep the digits and the power of ten they were written with, so
that `1.50` and `1.5` are different numbers with different texts.
-/

namespace OrderNarration

/-- A signed coefficient with a power of ten, an infinity, or no number. -/
inductive BigDecimal where
  | finite (negative : Bool) (coefficient : Nat) (exponent : Int)
  | infinite (negative : Bool)
  | notANumber (negative signaling : Bool) (payload : List Char)
  deriving DecidableEq

namespace BigDecimal

/-- Read the name of an infinity or of the absence of a number, in lowercase. -/
def readName? (negative : Bool) (name : List Char) : Option BigDecimal :=
  let payload? (signaling : Bool) (digits : List Char) : Option BigDecimal :=
    if digits.all Char.isDigit then
      some (notANumber negative signaling (digits.dropWhile (· == '0')))
    else none
  match name with
  | ['i', 'n', 'f'] => some (infinite negative)
  | ['i', 'n', 'f', 'i', 'n', 'i', 't', 'y'] => some (infinite negative)
  | 'n' :: 'a' :: 'n' :: digits => payload? false digits
  | 's' :: 'n' :: 'a' :: 'n' :: digits => payload? true digits
  | _ => none

/-- Read a decimal number. Underscores are passed over. -/
def read? (t : Text) : Option BigDecimal :=
  let ascii := (t.strip.map DecimalNumeral.asciiOf).filter (· != '_')
  let (negative, body) := DecimalNumeral.splitSign ascii
  match readName? negative (body.map Char.toLower) with
  | some d => some d
  | none => (DecimalNumeral.read? body).map fun n => finite negative n.digits n.scale

/-- The text of a finite number without its sign: an exponent stands only for a positive power
of ten or for a number below one millionth. -/
def magnitudeText (coefficient : Nat) (exponent : Int) : Text :=
  let digits := Nat.toDigits 10 coefficient
  let left : Int := digits.length + exponent
  let point : Int := if exponent ≤ 0 ∧ -6 < left then left else 1
  let body : List Char :=
    if point ≤ 0 then '0' :: '.' :: List.replicate (-point).toNat '0' ++ digits
    else if point.toNat < digits.length then
      digits.take point.toNat ++ '.' :: digits.drop point.toNat
    else digits ++ List.replicate (point.toNat - digits.length) '0'
  let power := left - point
  let sign : Text := if power < 0 then "-" else "+"
  if power = 0 then Text.ofChars body
  else Text.ofChars body ++ "E" ++ sign ++ Text.ofNat power.natAbs

/-- The text of a decimal number. -/
def text (d : BigDecimal) : Text :=
  let sign (negative : Bool) : Text := if negative then "-" else ""
  match d with
  | finite negative coefficient exponent => sign negative ++ magnitudeText coefficient exponent
  | infinite negative => sign negative ++ "Infinity"
  | notANumber negative signaling payload =>
    sign negative ++ (if signaling then "sNaN" else "NaN") ++ Text.ofChars payload

/-- The number is zero. -/
def isZero : BigDecimal → Bool
  | finite _ coefficient _ => coefficient == 0
  | _ => false

/-- The number of digits before the decimal point, not above zero for a number below one. -/
def wholeDigits (coefficient : Nat) (exponent : Int) : Int :=
  if coefficient = 0 then 0 else (Nat.toDigits 10 coefficient).length + exponent

/-- The integer that remains when the fractional part is cut off. -/
def truncate (negative : Bool) (coefficient : Nat) (exponent : Int) : Int :=
  if wholeDigits coefficient exponent ≤ 0 then 0
  else
    let (tens, tenths) := Binary64.power 10 exponent
    Numeral.signed negative (coefficient * tens / tenths)

end BigDecimal

end OrderNarration
