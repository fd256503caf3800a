import OrderNarration.Bytes.Keccak
import OrderNarration.Bytes.Utf8

/-!
# Events of the exchange

The exchange contract announces five kinds of event. The topic of an event is
the Keccak-256 digest of its bare name, without an argument list.
-/

namespace OrderNarration

/-- What a log announces. -/
inductive EventKind where
  | trades
  | cancel
  | canceledIds
  | triggeredIds
  | triggerAbove
  | unknown
  deriving DecidableEq

namespace EventKind

/-- The kinds of event that have a name, in the order in which tables list them. -/
def named : List EventKind := [trades, cancel, canceledIds, triggeredIds, triggerAbove]

/-- The identifier of a kind. -/
def identifier : EventKind → Text
  | trades => "TRADES"
  | cancel => "CANCEL"
  | canceledIds => "CANCELED_IDS"
  | triggeredIds => "TRIGGERED_IDS"
  | triggerAbove => "TRIGGER_ABOVE"
  | unknown => "UNKNOWN"

/-- The words for a kind in narrations. -/
def label : EventKind → Text
  | trades => "TRADES"
  | cancel => "CANCEL"
  | canceledIds => "CANCELED IDS"
  | triggeredIds => "TRIGGERED IDS"
  | triggerAbove => "TRIGGER ABOVE"
  | unknown => "UNKNOWN"

/-- The event's name in the contract. -/
def eventName? : EventKind → Option String
  | trades => some "Trades"
  | cancel => some "Cancel"
  | canceledIds => some "CanceledIds"
  | triggeredIds => some "TriggeredIds"
  | triggerAbove => some "TopicTriggerAbove"
  | unknown => none

end EventKind

/-- The topic of an event with the given name. -/
def eventTopic (name : String) : Text := Hex.marked (Keccak.digest (Utf8.encode name.toList))

end OrderNarration
