import OrderNarration.Value

/-!
# The integer that a value denotes

Booleans count as zero and one, fractions are cut off towards zero, and texts
and byte strings denote the integer they are a numeral of. Every other value,
and what is not a number, denotes no integer; an infinity is an error, and so is
a decimal number of more digits than can be held.
-/

namespace OrderNarration

/-- Why a number has no integer. -/
inductive IntegerError where
  | infiniteFloat
  | infiniteDecimal
  | outOfMemory
  deriving DecidableEq

/-- The wording of the error; being out of memory has none. -/
def IntegerError.message : IntegerError → Text
  | infiniteFloat => "cannot convert float infinity to integer"
  | infiniteDecimal => "cannot convert Infinity to integer"
  | outOfMemory => ""

/-- The greatest number of digits of an integer that can be held. -/
def BigDecimal.maxWholeDigits : Int := 1000000000

/-- The integer that a value denotes, if it denotes one. -/
def Value.integer? : Value → Except IntegerError (Option Int)
  | bool b => .ok (some (if b then 1 else 0))
  | int n => .ok (some n)
  | float (.finite negative significand exponent) =>
    .ok (some (Binary64.truncate negative significand exponent))
  | float (.infinite _) => .error .infiniteFloat
  | text t => .ok (Numeral.read? t)
  | bytes b => .ok (Numeral.readBytes? b)
  | decimal (.finite negative coefficient exponent) =>
    if BigDecimal.maxWholeDigits < BigDecimal.wholeDigits coefficient exponent then
      .error .outOfMemory
    else .ok (some (BigDecimal.truncate negative coefficient exponent))
  | decimal (.infinite _) => .error .infiniteDecimal
  | _ => .ok none

end OrderNarration
