import Mathlib.Algebra.Group.Nat.Defs
import OrderNarration.Node
import OrderNarration.Number.Numeral

/-!
# Values that a message shows

All kinds of value but one have a text of their own. What may still stand in the way of a
text is the length of an integer's numeral: an integer of more than 4300 digits has none,
and neither has a value in which there is such an integer.

What refuses a value names it, so it needs the text of the value. For a value without a
text the refusal fails in its own turn, and the fault is the lack of the text. Integers
whose numerals are too long are left out of both cases.
-/

namespace OrderNarration

namespace Value

/-- No integer in the value, at any depth, has more digits than a numeral may have. -/
inductive DigitsLimited : Value → Prop
  | null : DigitsLimited .null
  | bool (b : Bool) : DigitsLimited (.bool b)
  | int {n : Int} (limited : n.natAbs < 10 ^ Numeral.maxDigits) : DigitsLimited (.int n)
  | float (x : Binary64) : DigitsLimited (.float x)
  | text (t : Text) : DigitsLimited (.text t)
  | bytes (b : List UInt8) : DigitsLimited (.bytes b)
  | decimal (d : BigDecimal) : DigitsLimited (.decimal d)
  | list {items : List Value} (all : ∀ v ∈ items, DigitsLimited v) : DigitsLimited (.list items)
  | mapping {entries : Entries Value} (all : ∀ e ∈ entries, DigitsLimited e.2) :
      DigitsLimited (.mapping entries)
  | unprintable (shown : Text) : DigitsLimited (.unprintable shown)

/-- The value can be shown by itself: its kind has a text, and no numeral in it is too long. -/
structure HasText (v : Value) : Prop where
  display : v.display?.isSome
  digits : v.DigitsLimited

end Value

namespace Fault

theorem showing_of_displays {given : List Value} (h : ∀ v ∈ given, v.display?.isSome)
    (e : Fault) : showing given e = e :=
  if_pos (List.all_eq_true.mpr h)

theorem showing_of_unshown {given : List Value} (h : ∃ v ∈ given, v.display? = none)
    (e : Fault) : showing given e = unprintable := by
  refine if_neg fun hall => ?_
  obtain ⟨v, hv, hnone⟩ := h
  simpa [hnone] using List.all_eq_true.mp hall v hv

end Fault

/-- A run refuses the values that it was given before anything happens. The fault names them if
they have texts, and it is the lack of a text if one of them has none. -/
structure Run.Refuses {α : Type u} (r : Run α) (given : List Value) (e : Fault) : Prop where
  events : r.events = []
  failed : ∃ fault, r.outcome = .error fault
  named : (∀ v ∈ given, v.HasText) → r.outcome = .error e
  unshown : (∀ v ∈ given, v.DigitsLimited) → (∃ v ∈ given, v.display? = none) →
    r.outcome = .error .unprintable

theorem Run.refuses_of_showing {α : Type u} {r : Run α} {given : List Value} {e : Fault}
    (h : r = ⟨.error (.showing given e), []⟩) : r.Refuses given e := by
  subst h
  constructor
  case events => rfl
  case failed => exact ⟨_, rfl⟩
  case named =>
    intro texts
    exact congrArg _ (Fault.showing_of_displays (fun v hv => (texts v hv).display) e)
  case unshown =>
    intro _ unshown
    exact congrArg _ (Fault.showing_of_unshown unshown e)

end OrderNarration
