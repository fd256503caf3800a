import OrderNarration.Logging.Level

/-!
# Log records

A record is one message given to a named logger with an urgency. Urgencies are
numbers; most are levels, and some lie between two levels.

## Implementation notes

A fraction that is equal to a level is written in its own way but else counts as
that level, so the two are told apart only in the text of a number without a name.
-/

namespace OrderNarration.Logging

/-- The urgency of a record: a level, or a number that may lie between two. -/
inductive Urgency where
  | level (level : Level)
  | number (x : Binary64)
  deriving DecidableEq

namespace Urgency

/-- The level that the urgency is equal to, if there is one. -/
def level? : Urgency → Option Level
  | level n => some n
  | number x => x.whole?

/-- The urgency as a level wherever it is equal to one. -/
def normal (u : Urgency) : Urgency := u.level?.elim u level

/-- The urgency is the level or above it. What is no number reaches no level. -/
def reaches (least : Level) : Urgency → Bool
  | level n => decide (least ≤ n)
  | number (.finite negative significand exponent) =>
    decide (least ≤ Binary64.floor negative significand exponent)
  | number (.infinite negative) => !negative
  | number .notANumber => false

/-- The urgency is above zero. -/
def isPositive : Urgency → Bool
  | level n => decide (0 < n)
  | number (.finite negative significand _) => !negative && significand != 0
  | number (.infinite negative) => !negative
  | number .notANumber => false

/-- The text of the number. -/
def text : Urgency → Text
  | level n => Text.ofInt n
  | number x => x.text

/-- The name of an urgency; one without a name is given by its number. -/
def name (u : Urgency) : Text := (u.level?.bind Level.name?).getD ("Level " ++ u.text)

example : (number (Binary64.ofFraction false 51 2)).name = ("Level 25.5" : Text) := by
  decide +kernel
example : (number (Binary64.ofFraction false 25 1)).name = ("Level 25.0" : Text) := by
  decide +kernel
example : (number (Binary64.ofFraction false 20 1)).name = ("INFO" : Text) := by decide +kernel

end Urgency

/-- A message with its logger, its urgency, and the time and the line at which it was given. -/
structure Record where
  logger : Text
  urgency : Urgency
  message : Text
  seconds : Int
  milliseconds : Int
  line : Int

end OrderNarration.Logging
