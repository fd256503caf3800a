import OrderNarration.HashText
import OrderNarration.Order.Kind
import OrderNarration.Order.Side

/-!
# Order intents

The input of an order transaction is a tag byte and a JSON order context in
UTF-8. Together they tell what the order is meant to do.
-/

namespace OrderNarration

/-- What an order transaction is meant to do. -/
structure OrderIntent where
  tag : UInt8
  context : OrderContext

namespace OrderIntent

/-- The kind of the transaction. -/
def kind (intent : OrderIntent) : OrderKind := .ofTag intent.tag.toNat

/-- The words for the order in narrations: only stop orders and new orders have some. -/
def label? (intent : OrderIntent) : Option Text :=
  match intent.kind with
  | .stopOrder => some "STOP_ORDER"
  | .new =>
    match intent.context.tpslLimit with
    | .null => some "LIMIT"
    | _ => some "LIMIT_TPSL"
  | _ => none

/-- Read the context after the tag. -/
def readContext (bytes : List UInt8) : Except Fault OrderContext :=
  match Utf8.decode bytes with
  | .error cause => .error (.context (.notUtf8 cause))
  | .ok chars =>
    match Json.read chars with
    | .error (.flaw kind place) => .error (.context (.notJson kind place))
    | .error (.tooManyDigits count) => .error (.tooManyDigits count)
    | .ok (.mapping entries) => (OrderContext.ofEntries entries).mapError .context
    | .ok v => .error (.context (.notObject v.kindName))

/-- Read the input of a transaction. -/
def ofBytes : List UInt8 → Except Fault OrderIntent
  | [] => .error (.context .emptyInput)
  | tag :: rest => do
    return { tag, context := ← readContext rest }

/-- Read the input of a transaction given as a value. -/
def ofValue (input : Value) : Except Fault OrderIntent := input.byteString >>= ofBytes

end OrderIntent

end OrderNarration
