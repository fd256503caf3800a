import OrderNarration.Text.Blank
import OrderNarration.Text.Digit

/-!
# Integer numerals

A numeral is a sign and decimal digits of any script, with single underscores
allowed between digits and white space allowed around the whole. Numerals of
more than 4300 digits are not read.
-/

namespace OrderNarration.Numeral

/-- The greatest number of digits in a numeral. -/
def maxDigits : Nat := 4300

/-- The number that a digit sequence denotes, read after a number already read. -/
def ofDigits (digits : List Nat) : Nat := digits.foldl (fun n d => 10 * n + d) 0

/-- Digits separated by at most one underscore, with a digit at both ends. -/
def digitGroup : Text → Option (List Nat)
  | [] => none
  | [c] => c.digit?.map ([·])
  | c :: .scalar '_' :: rest => do
    let d ← c.digit?
    let ds ← digitGroup rest
    return d :: ds
  | c :: rest => do
    let d ← c.digit?
    let ds ← digitGroup rest
    return d :: ds

/-- A leading sign, which is minus if the flag is set, and what follows it. -/
def splitSign : Text → Bool × Text
  | .scalar '+' :: rest => (false, rest)
  | .scalar '-' :: rest => (true, rest)
  | t => (false, t)

/-- The integer with a sign and a magnitude. -/
def signed (negative : Bool) (magnitude : Nat) : Int :=
  if negative then -(magnitude : Int) else magnitude

/-- Read a numeral. -/
def read? (t : Text) : Option Int := do
  let (negative, body) := splitSign (t.trim CodePoint.isWhiteSpace)
  let digits ← digitGroup body
  if digits.length ≤ maxDigits then some (signed negative (ofDigits digits)) else none

/-- Read a numeral spelled in ASCII bytes. -/
def readBytes? (bytes : List UInt8) : Option Int :=
  if bytes.all (· < 0x80) then read? (bytes.map fun b => .scalar (Char.ofNat b.toNat)) else none

end OrderNarration.Numeral
