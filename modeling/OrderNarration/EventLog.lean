import OrderNarration.HashText
import OrderNarration.Payload

/-!
# Event logs

A log of a receipt with its topics, its data and the transaction it belongs to.
-/

namespace OrderNarration

/-- The data of every event can be read, but not that of an unknown kind. This is settled without
looking at a log. -/
def EventKind.checkReader (kind : EventKind) : Except Fault Unit :=
  if kind = .unknown then .error (.noReader kind) else .ok ()

/-- One event log. Empty data means that the log says nothing beyond its topic. -/
structure EventLog where
  topics : List Value
  data : List UInt8
  hash : Option Text
  index : Value

namespace EventLog

/-- Read a log from the entry of a receipt. Topics and the hash are brought to their normal form. -/
def ofValue (entry : Value) : Except Fault EventLog := do
  let topics ← (entry.field "topics").mapError .shape
  let items ← topics.itemsOrNone.mapError .shape
  let hashes ← items.mapM HashText.ofValue
  let hash ← (entry.field "transactionHash").mapError .shape
  let data ← (entry.field "data").mapError .shape
  let bytes ← data.byteString
  let hash ← HashText.ofValue hash
  let index ← (entry.field "logIndex").mapError .shape
  return {
    topics := hashes.map fun h => (h.map Value.text).getD .null
    data := bytes
    hash
    index }

/-- The topic that tells the kind of a log, null if there is none. -/
def mainTopic (log : EventLog) : Value := log.topics.head?.getD .null

/-- A log of an event has at most one topic. -/
def checkTopics (log : EventLog) : Except Fault Unit :=
  if 1 < log.topics.length then .error (.multipleTopics (.int log.topics.length)) else .ok ()

/-- Read the data of a log as that of an event. -/
def payload (log : EventLog) (kind : EventKind) : Except Fault Payload := do
  kind.checkReader
  log.checkTopics
  (Payload.read kind log.data).mapError .payload

end EventLog

/-- Read data given as a value; data of an event that says nothing more is not looked at. -/
def Payload.ofValue (kind : EventKind) (data : Value) : Except Fault Payload := do
  kind.checkReader
  match kind with
  | .cancel | .triggerAbove => .ok .empty
  | _ => (dataOfValue data >>= read kind).mapError .payload

end OrderNarration
