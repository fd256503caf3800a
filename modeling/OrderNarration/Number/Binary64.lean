/-!
# Binary floating-point numbers

The numbers of the 64-bit binary interchange format, as exact dyadic fractions.
A rational number is rounded to the nearest of them, and of two equally near
ones to that with the even significand.

## Implementation notes

A finite number is a significand and an exponent of two. The rounding function
gives the significand 53 bits, or fewer at the least exponent -1074; zero has
that exponent too, so equal numbers of one sign have equal fields.
-/

namespace OrderNarration

/-- A number of the format: `significand * 2 ^ exponent` with a sign, an infinity, or no number. -/
inductive Binary64 where
  | finite (negative : Bool) (significand : Nat) (exponent : Int)
  | infinite (negative : Bool)
  | notANumber
  deriving DecidableEq

namespace Binary64

/-- The least exponent of two. -/
def minExponent : Int := -1074

/-- The greatest exponent of two. -/
def maxExponent : Int := 971

/-- Zero with a sign. -/
def zero (negative : Bool) : Binary64 := finite negative 0 minExponent

/-- The power as a fraction: numerator and denominator. -/
def power (base : Nat) (exponent : Int) : Nat × Nat :=
  (Nat.pow base exponent.toNat, Nat.pow base (-exponent).toNat)

/-- The natural number nearest to a fraction, of two equally near ones the even one. -/
def roundHalfEven (num den : Nat) : Nat :=
  let q := num / den
  let r := num % den
  if 2 * r < den then q
  else if den < 2 * r then q + 1
  else if q % 2 = 0 then q else q + 1

/-- The exponent `e` with `2 ^ e ≤ num / den < 2 ^ (e + 1)`, for positive numbers. -/
def floorLog2 (num den : Nat) : Int :=
  let guess : Int := (num.log2 : Int) - den.log2
  let (up, down) := power 2 guess
  if den * up ≤ num * down then guess else guess - 1

/-- The number nearest to a fraction with a sign. -/
def ofFraction (negative : Bool) (num den : Nat) : Binary64 :=
  if num = 0 then zero negative
  else
    let exponent := max (floorLog2 num den - 52) minExponent
    let (up, down) := power 2 exponent
    let significand := roundHalfEven (num * down) (den * up)
    let (significand, exponent) :=
      if significand = Nat.pow 2 53 then (Nat.pow 2 52, exponent + 1) else (significand, exponent)
    if maxExponent < exponent then infinite negative
    else finite negative significand exponent

/-- Beyond this power of ten every positive number is above the greatest or below half the least. -/
def decimalBound : Nat := 400

/-- The number nearest to `digits * 10 ^ exponent` with a sign. -/
def ofDecimal (negative : Bool) (digits : Nat) (exponent : Int) : Binary64 :=
  if digits = 0 then zero negative
  else
    let magnitude : Int := (Nat.toDigits 10 digits).length + exponent
    if (decimalBound : Int) < magnitude then infinite negative
    else if magnitude < -(decimalBound : Int) then zero negative
    else
      let (up, down) := power 10 exponent
      ofFraction negative (digits * up) down

/-- The absolute value of a finite number as numerator and denominator. -/
def fraction (significand : Nat) (exponent : Int) : Nat × Nat :=
  let (up, down) := power 2 exponent
  (significand * up, down)

/-- The integer that remains when the fractional part is cut off. -/
def truncate (negative : Bool) (significand : Nat) (exponent : Int) : Int :=
  let (num, den) := fraction significand exponent
  if negative then -((num / den : Nat) : Int) else ((num / den : Nat) : Int)

/-- The greatest integer that is not above a finite number. -/
def floor (negative : Bool) (significand : Nat) (exponent : Int) : Int :=
  let (num, den) := fraction significand exponent
  (if negative then -(num : Int) else (num : Int)) / den

/-- The integer that a number is equal to, if there is one. -/
def whole? : Binary64 → Option Int
  | finite negative significand exponent =>
    let (num, den) := fraction significand exponent
    if num % den = 0 then some (truncate negative significand exponent) else none
  | _ => none

/-- The number is positive or negative zero. -/
def isZero : Binary64 → Bool
  | finite _ significand _ => significand == 0
  | _ => false

end Binary64

end OrderNarration
