import OrderNarration.Node
import OrderNarration.Order.Intent

/-!
# Resolving orders

An order hash is resolved by looking its transaction up and reading the input.
Whatever goes wrong with the one order is part of the result, so that the two
orders of a trade are resolved independently of each other.
-/

namespace OrderNarration

/-- The outcome of resolving an order hash: the order's intent, or what went wrong. -/
structure Resolution where
  hash : Text
  outcome : Except Text OrderIntent

namespace Resolution

/-- The order was found and read. -/
def isSuccess (r : Resolution) : Bool :=
  match r.outcome with
  | .ok _ => true
  | .error _ => false

/-- The order that was read. -/
def intent? (r : Resolution) : Option OrderIntent :=
  match r.outcome with
  | .ok intent => some intent
  | .error _ => none

/-- The wording of what went wrong. -/
def error? (r : Resolution) : Option Text :=
  match r.outcome with
  | .ok _ => none
  | .error wording => some wording

/-- The input of a transaction, which some nodes give under another name. -/
def transactionInput (transaction : Value) : Except Fault Value := do
  match ← (transaction.field "input").mapError .shape with
  | .null => (transaction.field "data").mapError .shape
  | input => return input

/-- Look the order up and read it. -/
def find (node : Node) (hash : Text) : Run OrderIntent := do
  match ← node.ask (.transaction hash) with
  | none => .fail (.notFound .transaction (.text hash))
  | some transaction => .ofExcept (transactionInput transaction >>= OrderIntent.ofValue)

/-- Resolve an order hash. -/
def resolve (node : Node) (hash : Text) : Run Resolution := do
  Run.note .orders .debug ("Resolving order tx " ++ hash)
  match ← (find node hash).attempt with
  | .ok intent =>
    Run.note .orders .debug
      ("  type=" ++ intent.kind.name ++ " label=" ++ intent.label?.getD "None" ++ " price=" ++
        intent.context.price.display)
    return ⟨hash, .ok intent⟩
  | .error e =>
    match e with
    | .notFound .transaction _ | .context _ =>
      Run.note .orders .warning ("Could not resolve order " ++ hash ++ ": " ++ e.message)
      return ⟨hash, .error e.message⟩
    | _ =>
      if e.isPassing then do
        Run.note .orders .warning ("Fetch failed for order " ++ hash ++ ": " ++ e.message)
        return ⟨hash, .error ("fetch failed: " ++ e.message)⟩
      else .fail e

end Resolution

end OrderNarration
