import OrderNarration.EventLog
import OrderNarration.Narration.Record
import OrderNarration.Order.Resolution
import OrderNarration.Topic

/-!
# Narrating a log

The kind of a log's first topic decides what its data says. Two orders stand
behind a trade, and both are resolved whatever becomes of the other one. What is
wrong with the log itself becomes a record, and the narration goes on.
-/

namespace OrderNarration

namespace EventLog

/-- A record about a log at the given position. -/
def record (log : EventLog) (kind : EventKind) (position : Value) (recordKind : RecordKind)
    (message : Text) (data : Entries Value) : Record where
  kind := recordKind
  message
  index := position
  topic := some kind.label
  hash := log.hash
  data

/-- The position that a narration names: the one given by the caller goes before the one that
the log states. -/
def position (log : EventLog) : Value → Value
  | .null => log.index
  | given => given

/-- The hash as a log message shows it. -/
def shownHash (log : EventLog) : Text := log.hash.getD "None"

end EventLog

/-- The two orders of a trade. -/
inductive Leg where
  | buy
  | sell
  deriving DecidableEq

/-- The word for a leg. -/
def Leg.word : Leg → Text
  | buy => "buy"
  | sell => "sell"

namespace Narration

/-- The description of a resolved order: price, side, label if there is one, and hash. -/
def describeOrder (intent : OrderIntent) (side hash : Text) : Text :=
  let label : Text :=
    match intent.label? with
    | some l => " " ++ l
    | none => []
  "$" ++ intent.context.price.display ++ " " ++ side ++ label ++ " (" ++ hash ++ ")"

/-- The value of an optional text. -/
def optionalText (t : Option Text) : Value := (t.map Value.text).getD .null

/-- The record of an order that was resolved. -/
def resolvedLeg (record : RecordKind → Text → Entries Value → Record) (leg : Leg) (hash : Text)
    (intent : OrderIntent) (side : Text) : Record :=
  record .tradeLeg (describeOrder intent side hash) [
    ("leg", .text leg.word), ("order_tx_hash", .text hash), ("price", intent.context.price),
    ("side", .text side), ("order_label", optionalText intent.label?),
    ("tx_type", .text intent.kind.name)]

/-- The record of an order that was not resolved. -/
def unresolvedLeg (record : RecordKind → Text → Entries Value → Record) (leg : Leg) (hash : Text)
    (wording : Text) : Record :=
  record .error ("failed to resolve " ++ leg.word ++ " order " ++ hash ++ ": " ++ wording) [
    ("leg", .text leg.word), ("order_tx_hash", .text hash), ("error", .text wording)]

/-- Resolve one order of a trade and narrate it. -/
def leg (node : Node) (record : RecordKind → Text → Entries Value → Record) (leg : Leg)
    (hash : Text) : Run Record := do
  let resolution ← Resolution.resolve node hash
  match resolution.outcome with
  | .ok intent =>
    let side ← Run.ofExcept ((Side.wordOfValue intent.context.side).mapError .noInteger)
    return resolvedLeg record leg hash intent side
  | .error wording => return unresolvedLeg record leg hash wording

/-- Narrate a trade: its two orders and its price. -/
def trade (node : Node) (record : RecordKind → Text → Entries Value → Record) (t : Trade) :
    Run (List Record) := do
  let buy ← leg node record .buy t.buyHash
  let sell ← leg node record .sell t.sellHash
  return [buy, sell, record .matchedPrice ("matched price: $" ++ t.priceEther)
    [("price_eth", .text t.priceEther), ("price_hex", .text t.priceHex)]]

/-- Narrate a list of order hashes. -/
def hashes (record : RecordKind → Text → Entries Value → Record) (recordKind : RecordKind)
    (heading : Text) (ids : List Text) : List Record :=
  ids.mapIdx fun i hash =>
    record recordKind (heading ++ "[" ++ Text.ofNat i ++ "]: " ++ hash)
      [("index", .int i), ("order_tx_hash", .text hash)]

/-- Narrate the data of a log. -/
def payload (node : Node) (record : RecordKind → Text → Entries Value → Record) :
    Payload → Run (List Record)
  | .trade t => do
    Run.note .payloads .debug
      ("Trade decoded: buy=" ++ t.buyHash ++ " sell=" ++ t.sellHash ++ " price=" ++ t.priceEther)
    trade node record t
  | .triggered ids => pure (hashes record .triggeredId EventKind.triggeredIds.label ids)
  | .canceled ids => pure (hashes record .canceledId EventKind.canceledIds.label ids)
  | .empty => pure []

/-- Narrate a log at the position given by the caller. -/
def log (topics : TopicTable) (node : Node) (log : EventLog) (given : Value) :
    Run (List Record) := do
  let position := log.position given
  let ⟨kind, topic⟩ ← topics.classify log.mainTopic
  let record := log.record kind position
  let place : Text := "log[" ++ (← Run.ofExcept position.shown) ++ "]"
  Run.note .logs .debug
    (place ++ " topic=" ++ topic.getD "None" ++ " kind=" ++ kind.identifier)
  match log.checkTopics with
  | .error e =>
    Run.note .logs .error (place ++ " of tx " ++ log.shownHash ++ ": " ++ e.message)
    return [record .error e.message [("error", .text "UnsupportedMultiTopic")]]
  | .ok () =>
    if log.data = [] then
      return [record .skipped "Skipping empty data field." []]
    else if kind = .unknown then
      let message :=
        "unexpected topic found: " ++ topic.getD "None" ++ ", txhash: " ++ log.shownHash
      Run.note .logs .error message
      return [record .unknownTopic message [("topic_hash", optionalText topic)]]
    else
      match Payload.read kind log.data with
      | .ok p => payload node record p
      | .error e =>
        Run.note .logs .error
          (place ++ " (" ++ kind.label ++ ") of tx " ++ log.shownHash ++ ": " ++ e.message)
        return [record .error ("malformed " ++ kind.label ++ " payload: " ++ e.message)
          [("error", .text "MalformedPayload")]]

end Narration

end OrderNarration
