import OrderNarration.Bytes.Utf8
import OrderNarration.Json.Reader

/-!
# Order contexts

An order transaction carries a JSON object after its tag. Price and side have to
be there, five more keys are known, and all other entries are kept as they are.
-/

namespace OrderNarration

/-- Why the input of a transaction holds no order context. -/
inductive ContextError where
  | emptyInput
  | notUtf8 (cause : Utf8Error)
  | notJson (flaw : Json.Flaw) (place : Json.Place)
  | notObject (kindName : Text)
  | missing (keys : List Text)
  deriving DecidableEq

/-- The wording of the error. -/
def ContextError.message : ContextError → Text
  | emptyInput => "transaction input is empty"
  | notUtf8 cause => "order context is not UTF-8: " ++ cause.message
  | notJson flaw place =>
    "order context is not valid JSON: " ++ (Json.Error.flaw flaw place).message
  | notObject kindName => "order context is a JSON " ++ kindName ++ ", expected an object"
  | missing keys => "order context missing " ++ Text.join ", " keys

/-- What an order transaction says about its order. Null stands for a known key that is absent. -/
structure OrderContext where
  price : Value
  side : Value
  tpslLimit : Value
  baseToken : Value
  quoteToken : Value
  quantity : Value
  orderType : Value
  extra : Entries Value

namespace OrderContext

/-- The keys that have to be there. -/
def requiredKeys : List Text := ["price", "side"]

/-- The keys with a meaning of their own. -/
def knownKeys : List Text :=
  ["price", "side", "tpslLimit", "baseToken", "quoteToken", "quantity", "orderType"]

/-- The context with the given entries. -/
def ofEntries (entries : Entries Value) : Except ContextError OrderContext :=
  let absent := requiredKeys.filter fun key => (Entries.get? key entries).isNone
  if absent = [] then
    let value (key : Text) : Value := (Entries.get? key entries).getD .null
    .ok {
      price := value "price"
      side := value "side"
      tpslLimit := value "tpslLimit"
      baseToken := value "baseToken"
      quoteToken := value "quoteToken"
      quantity := value "quantity"
      orderType := value "orderType"
      extra := entries.filter fun e => !knownKeys.contains e.1 }
  else .error (.missing absent)

end OrderContext

end OrderNarration
