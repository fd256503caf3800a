import OrderNarration.Text.Basic

/-!
# Ether amounts

Amounts of wei are shown in ether, which is 10^18 wei, as an exact decimal
fraction. Zeros at the end of the fraction are dropped, but one digit stays.
-/

namespace OrderNarration.Ether

/-- The number of decimal places of one wei. -/
def places : Nat := 18

/-- The first amount that does not fit into 256 bits. -/
def limit : Nat := Nat.pow 2 256

/-- Exactly `width` decimal digits of a number, with leading zeros. -/
def fixedDigits : Nat → Nat → List Char
  | 0, _ => []
  | width + 1, n => fixedDigits width (n / 10) ++ [Nat.digitChar (n % 10)]

/-- The fraction without zeros at its end, or one zero if nothing else is left. -/
def trimFraction (digits : List Char) : List Char :=
  match (digits.reverse.dropWhile (· == '0')).reverse with
  | [] => ['0']
  | kept => kept

/-- The amount in ether. -/
def ofWei (wei : Nat) : Text :=
  Text.ofNat (wei / Nat.pow 10 places) ++ "." ++
    Text.ofChars (trimFraction (fixedDigits places (wei % Nat.pow 10 places)))

/-- The amount in ether of a number of wei that may be out of range. -/
def ofWei? (wei : Int) : Option Text :=
  if 0 ≤ wei ∧ wei < limit then some (ofWei wei.toNat) else none

end OrderNarration.Ether
