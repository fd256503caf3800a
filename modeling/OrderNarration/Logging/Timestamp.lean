import OrderNarration.Text.Basic

/-!
# Timestamps

Seconds since the start of 1970 as a date and a time of day in UTC, by the rules of
the Gregorian calendar in both directions. A second has a timestamp if a machine
word holds it, and a 32-bit word its year, whether counted from 1900 or from 0.

## Implementation notes

Days are counted from 1 March of the year 0, so that a leap day is the last day
of its year, in eras of 400 years, which have 146097 days each.
-/

namespace OrderNarration.Logging

/-- A day of the Gregorian calendar. -/
structure Date where
  year : Int
  month : Nat
  day : Nat
  deriving DecidableEq

/-- The date that is a number of days after 1 January 1970. -/
def Date.ofDays (days : Int) : Date :=
  let shifted := days + 719468
  let era := shifted / 146097
  let dayOfEra := (shifted % 146097).toNat
  let yearOfEra := (dayOfEra - dayOfEra / 1460 + dayOfEra / 36524 - dayOfEra / 146096) / 365
  let dayOfYear := dayOfEra - (365 * yearOfEra + yearOfEra / 4 - yearOfEra / 100)
  let shiftedMonth := (5 * dayOfYear + 2) / 153
  let day := dayOfYear - (153 * shiftedMonth + 2) / 5 + 1
  let month := if shiftedMonth < 10 then shiftedMonth + 3 else shiftedMonth - 9
  { year := yearOfEra + era * 400 + (if month ≤ 2 then 1 else 0), month, day }

/-- Two digits, with a leading zero below ten. -/
def twoDigits (n : Nat) : Text := Text.padLeft 2 '0' (Text.ofNat n)

/-- Why a second has no timestamp: it is out of range itself, its year is out of range as counted
from 1900, or only as counted from 0. -/
inductive TimestampError where
  | secondTooFar
  | yearTooFar
  | shownYearTooFar
  deriving DecidableEq

/-- The wording of the error. -/
def TimestampError.message : TimestampError → Text
  | secondTooFar => "timestamp out of range for platform time_t"
  | yearTooFar => "[Errno 75] Value too large for defined data type"
  | shownYearTooFar => "signed integer is greater than maximum"

/-- A number is within a signed word of the given number of bits. -/
def fitsWord (bits : Nat) (n : Int) : Bool :=
  let half : Int := Nat.pow 2 (bits - 1)
  decide (-half ≤ n) && decide (n < half)

/-- The date and the time of day that is a number of seconds after the start of 1970. -/
def timestamp (seconds : Int) : Except TimestampError Text :=
  let date := Date.ofDays (seconds / 86400)
  let second := (seconds % 86400).toNat
  if ¬ fitsWord 64 seconds then .error .secondTooFar
  else if ¬ fitsWord 32 (date.year - 1900) then .error .yearTooFar
  else if ¬ fitsWord 32 date.year then .error .shownYearTooFar
  else
    .ok (Text.ofInt date.year ++ "-" ++ twoDigits date.month ++ "-" ++ twoDigits date.day ++ " " ++
      twoDigits (second / 3600) ++ ":" ++ twoDigits (second / 60 % 60) ++ ":" ++
      twoDigits (second % 60))

example : Date.ofDays 0 = ⟨1970, 1, 1⟩ := by decide
example : Date.ofDays (-1) = ⟨1969, 12, 31⟩ := by decide
example : Date.ofDays 11016 = ⟨2000, 2, 29⟩ := by decide

end OrderNarration.Logging
