import OrderNarration.Narration.Log

/-!
# Narrating a receipt

Every log of a receipt gets a header and then its own narration. A log that does
not state its transaction belongs to the one the receipt was asked for.
-/

namespace OrderNarration.Narration

/-- Narrate the entry of a receipt at a position. -/
def entry (topics : TopicTable) (node : Node) (hash : Option Text) (position : Nat)
    (value : Value) : Run (List Record) := do
  let log ← Run.ofExcept (EventLog.ofValue value)
  let log := { log with hash := log.hash.or hash }
  let ⟨kind, _⟩ ← topics.classify log.mainTopic
  let header : Record := {
    kind := .logHeader
    message := "log[" ++ Text.ofNat position ++ "] (topic: " ++ kind.label ++ ")"
    index := .int position
    topic := some kind.label
    hash := log.hash }
  let records ← Narration.log topics node log (.int position)
  return header :: records

/-- Narrate the entries of a receipt from a position on. -/
def entriesFrom (topics : TopicTable) (node : Node) (hash : Option Text) :
    Nat → List Value → Run (List Record)
  | _, [] => pure []
  | position, v :: rest => do
    let records ← entry topics node hash position v
    (records ++ ·) <$> entriesFrom topics node hash (position + 1) rest

/-- Narrate a receipt. -/
def receipt (topics : TopicTable) (node : Node) (value : Value) (hash : Option Text) :
    Run (List Record) := do
  let logs ← Run.ofExcept ((value.field "logs" >>= Value.itemsOrNone).mapError .shape)
  match logs with
  | [] => return [{ kind := .noLogs, message := "No logs found", hash }]
  | _ => entriesFrom topics node hash 0 logs

/-- Narrate the transaction with a hash. The node is asked only for what can be a hash. -/
def transaction (topics : TopicTable) (node : Node) (hash : Value) : Run (List Record) := do
  let hash ← Run.ofExcept (HashText.transactionHash hash)
  match ← node.ask (.receipt (some hash)) with
  | none => .fail (.notFound .receipt (.text hash))
  | some value => receipt topics node value (some hash)

end OrderNarration.Narration
