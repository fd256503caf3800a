/-!
# Spans of code point numbers

Tables of Unicode properties are lists of spans, in ascending order.
-/

namespace OrderNarration

/-- An inclusive range of code point numbers. -/
structure Span where
  first : Nat
  last : Nat

namespace Span

/-- The number lies in the span. -/
def contains (s : Span) (n : Nat) : Bool := s.first ≤ n && n ≤ s.last

/-- The number lies in a span of the table. -/
def anyContains (table : List Span) (n : Nat) : Bool := table.any (·.contains n)

end Span

end OrderNarration
