import OrderNarration.Value

/-!
# Narration records

A narration is a list of records. A record states one fact in words and as data,
with the log it comes from.
-/

namespace OrderNarration

/-- What a record states. -/
inductive RecordKind where
  | logHeader
  | tradeLeg
  | matchedPrice
  | triggeredId
  | canceledId
  | skipped
  | noLogs
  | unknownTopic
  | error
  deriving DecidableEq

/-- The identifier of a kind of record. -/
def RecordKind.identifier : RecordKind → Text
  | logHeader => "log_header"
  | tradeLeg => "trade_leg"
  | matchedPrice => "matched_price"
  | triggeredId => "triggered_id"
  | canceledId => "canceled_id"
  | skipped => "skipped"
  | noLogs => "no_logs"
  | unknownTopic => "unknown_topic"
  | error => "error"

/-- One fact. The index is null if the log has none. -/
structure Record where
  kind : RecordKind
  message : Text
  index : Value := .null
  topic : Option Text := none
  hash : Option Text := none
  data : Entries Value := []

namespace Record

/-- The record tells of something that could not be narrated. -/
def isError (r : Record) : Bool := r.kind == .error || r.kind == .unknownTopic

/-- Byte strings and decimal numbers become texts, all else stays. -/
def plainValue : Value → Value
  | .bytes b => .text (Value.bytes b).display
  | .decimal d => .text d.text
  | v => v

/-- The data with its outermost byte strings and decimal numbers as texts. -/
def plainData (r : Record) : Entries Value := r.data.map fun e => (e.1, plainValue e.2)

/-- The record as one value, with its fields under their names. -/
def toValue (r : Record) : Value :=
  let optional (t : Option Text) : Value := (t.map Value.text).getD .null
  .mapping [
    ("kind", .text r.kind.identifier), ("message", .text r.message), ("log_index", r.index),
    ("topic", optional r.topic), ("tx_hash", optional r.hash), ("data", .mapping r.plainData)]

/-- Headers and the remark that there are no logs stand out by a shorter indent. -/
def line (r : Record) : Text :=
  if r.kind = .noLogs ∨ r.kind = .logHeader then ".." ++ r.message else "...." ++ r.message

end Record

end OrderNarration
