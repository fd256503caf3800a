import OrderNarration.Diagnostic
import OrderNarration.Fault

/-!
# Nodes and runs

A node answers lookups. A run is what happens when an operation asks a node: how
it ends, and which lookups and diagnostics it makes on the way, in their order.

## Implementation notes

A run is a value, and a node is a function, so two runs can be compared and the
same operation can be run on two nodes.
-/

namespace OrderNarration

/-- A question to a node. The receipt of a block entry is asked for even if the entry states no
hash. -/
inductive Lookup where
  | transaction (hash : Text)
  | receipt (hash : Option Text)
  | block (number : Int)
  deriving DecidableEq

/-- An answer of a node. -/
inductive Reply where
  | absent
  | found (value : Value)
  | failed (failure : Failure)

/-- What answers lookups. -/
abbrev Node := Lookup → Reply

/-- What happens on the way of a run. -/
inductive Event where
  | asked (lookup : Lookup)
  | noted (diagnostic : Diagnostic)

namespace Event

/-- The lookup of an event that is one. -/
def lookup? : Event → Option Lookup
  | asked l => some l
  | noted _ => none

/-- The diagnostic of an event that is one. -/
def diagnostic? : Event → Option Diagnostic
  | asked _ => none
  | noted d => some d

end Event

/-- The outcome of an operation with the events on the way to it. -/
structure Run (α : Type u) where
  outcome : Except Fault α
  events : List Event

namespace Run

/-- Go on with a result. The events of both parts come one after another; a fault ends the run. -/
def andThen (r : Run α) (next : α → Run β) : Run β :=
  match r.outcome with
  | .ok a =>
    let rest := next a
    ⟨rest.outcome, r.events ++ rest.events⟩
  | .error e => ⟨.error e, r.events⟩

instance : Monad Run where
  pure a := ⟨.ok a, []⟩
  bind := andThen
  map f r := ⟨f <$> r.outcome, r.events⟩

/-- End with a fault. -/
def fail (e : Fault) : Run α := ⟨.error e, []⟩

/-- Take over a result that needed no lookups. -/
def ofExcept (r : Except Fault α) : Run α := ⟨r, []⟩

/-- Note a diagnostic. -/
def note (source : Source) (level : Logging.Level) (message : Text) : Run Unit :=
  ⟨.ok (), [.noted ⟨source, level, message⟩]⟩

/-- Turn the outcome into a result, so that the run goes on after a fault. -/
def attempt (r : Run α) : Run (Except Fault α) := ⟨.ok r.outcome, r.events⟩

/-- The lookups of a run. -/
def lookups (r : Run α) : List Lookup := r.events.filterMap Event.lookup?

/-- The diagnostics of a run. -/
def diagnostics (r : Run α) : List Diagnostic := r.events.filterMap Event.diagnostic?

end Run

namespace Lookup

/-- The failure by which a node says that it has no answer to the lookup. -/
def absence : Lookup → FailureKind
  | transaction _ | receipt _ => .transactionUnknown
  | block _ => .blockUnknown

/-- The diagnostic for a lookup without an answer. -/
def absenceNote : Lookup → Text
  | transaction hash => "Transaction " ++ hash ++ " not found"
  | receipt hash => "Receipt for " ++ hash.getD "None" ++ " not found"
  | block number => "Block " ++ Text.ofInt number ++ " not found"

end Lookup

/-- Ask a node. An answer that is null is no answer either. -/
def Node.ask (node : Node) (lookup : Lookup) : Run (Option Value) :=
  let missing : List Event :=
    [.asked lookup, .noted ⟨.nodeClient, .debug, lookup.absenceNote⟩]
  match node lookup with
  | .absent => ⟨.ok none, missing⟩
  | .found .null => ⟨.ok none, [.asked lookup]⟩
  | .found v => ⟨.ok (some v), [.asked lookup]⟩
  | .failed failure =>
    if failure.kind = lookup.absence then ⟨.ok none, missing⟩
    else ⟨.error (.lookup failure), [.asked lookup]⟩

end OrderNarration
