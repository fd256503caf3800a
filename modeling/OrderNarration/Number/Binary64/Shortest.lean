import OrderNarration.Number.Binary64
import OrderNarration.Text.Basic

/-!
# Shortest decimal texts

A finite number is written with the fewest decimal digits that read back as the
same number, and of the candidates with that many digits the nearest one.

## Implementation notes

The numbers that read back are those between the midpoints to the two
neighbours, with both ends included if the significand is even. If a point of a
decimal grid lies there, so does one of the two grid points beside the number.
-/

namespace OrderNarration.Binary64

/-- The position `d` of the decimal point: `10 ^ (d - 1) ≤ num / den < 10 ^ d`. -/
def decimalPoint (num den : Nat) : Int :=
  (Nat.toDigits 10 (num * Nat.pow 10 decimalBound / den)).length - (decimalBound : Int)

/-- The end points of the numbers that read back, in quarters of the last place. -/
def quarterBounds (significand : Nat) (exponent : Int) : Nat × Nat :=
  let below := if significand = Nat.pow 2 52 ∧ minExponent < exponent then 1 else 2
  (4 * significand - below, 4 * significand + 2)

/-- The candidate `c * 10 ^ p` reads back as the number. -/
def readsBack (significand : Nat) (exponent : Int) (c : Nat) (p : Int) : Bool :=
  let (low, high) := quarterBounds significand exponent
  let (up, down) := power 2 (exponent - 2)
  let (tens, tenths) := power 10 p
  let candidate := c * tens * down
  let low := low * up * tenths
  let high := high * up * tenths
  if significand % 2 = 0 then low ≤ candidate && candidate ≤ high
  else low < candidate && candidate < high

/-- The nearer of the two grid points beside the number that read back; of two equally near ones
the even one. -/
def nearestOnGrid? (significand : Nat) (exponent : Int) (p : Int) : Option Nat :=
  let (num, den) := fraction significand exponent
  let (tens, tenths) := power 10 p
  let scaledNum := num * tenths
  let scaledDen := den * tens
  let below := scaledNum / scaledDen
  let nearest := roundHalfEven scaledNum scaledDen
  let other := if nearest = below then below + 1 else below
  if readsBack significand exponent nearest p then some nearest
  else if readsBack significand exponent other p then some other
  else none

/-- The first grid, from one digit upwards, with a point that reads back. -/
def shortestFrom (significand : Nat) (exponent : Int) (point : Int) : Nat → Nat → Nat × Int
  | _, 0 => (0, 0)
  | digits, fuel + 1 =>
    let p := point - digits
    match nearestOnGrid? significand exponent p with
    | some c => (c, p)
    | none => shortestFrom significand exponent point (digits + 1) fuel

/-- Drop the zeros at the end of a digit sequence. -/
def dropTrailingZeros (digits : List Char) : List Char :=
  (digits.reverse.dropWhile (· == '0')).reverse

/-- The digits of a positive number without zeros at the end, and where the decimal point
stands. -/
def shortest (significand : Nat) (exponent : Int) : List Char × Int :=
  let (num, den) := fraction significand exponent
  let (c, p) := shortestFrom significand exponent (decimalPoint num den) 1 17
  let digits := Nat.toDigits 10 c
  (dropTrailingZeros digits, digits.length + p)

/-- Write digits and an exponent: the exponent has a sign and at least two digits. -/
def exponentForm (digits : List Char) (exponent : Int) : Text :=
  let mantissa : Text :=
    match digits with
    | [d] => Text.ofChars [d]
    | d :: rest => Text.ofChars (d :: '.' :: rest)
    | [] => []
  let sign : Text := if exponent < 0 then "-" else "+"
  mantissa ++ "e" ++ sign ++ Text.padLeft 2 '0' (Text.ofNat exponent.natAbs)

/-- Write digits with the decimal point at the given position, with a digit on both sides of it. -/
def positionalForm (digits : List Char) (point : Int) : Text :=
  if point ≤ 0 then
    "0." ++ Text.ofChars (List.replicate (-point).toNat '0' ++ digits)
  else if point.toNat < digits.length then
    Text.ofChars (digits.take point.toNat ++ '.' :: digits.drop point.toNat)
  else
    Text.ofChars (digits ++ List.replicate (point.toNat - digits.length) '0') ++ ".0"

/-- The text of a number: positional from 0.0001 up to below 10^16, else with an exponent. -/
def text : Binary64 → Text
  | notANumber => "nan"
  | infinite negative => if negative then "-inf" else "inf"
  | finite negative significand exponent =>
    let sign : Text := if negative then "-" else ""
    if significand = 0 then sign ++ "0.0"
    else
      let (digits, point) := shortest significand exponent
      if -4 < point ∧ point ≤ 16 then sign ++ positionalForm digits point
      else sign ++ exponentForm digits (point - 1)

end OrderNarration.Binary64
