import OrderNarration.Number.Integer

/-!
# Sides of an order

A context states the side as a value. The integer it denotes is zero for a buy
and one for a sale; every other side is shown as unknown.
-/

namespace OrderNarration

/-- The two sides. -/
inductive Side where
  | buy
  | sell
  deriving DecidableEq

namespace Side

/-- The side with a number. -/
def ofInteger? (n : Int) : Option Side :=
  if n = 0 then some buy else if n = 1 then some sell else none

/-- The side that a value states, if it states one. -/
def ofValue (v : Value) : Except IntegerError (Option Side) := do
  return (← v.integer?).bind ofInteger?

/-- The word for a side in narrations. -/
def word : Option Side → Text
  | some buy => "BUY"
  | some sell => "SELL"
  | none => "UNKNOWN"

/-- The word for the side that a value states. -/
def wordOfValue (v : Value) : Except IntegerError Text := word <$> ofValue v

end Side

end OrderNarration
