import OrderNarration.Json.Reader
import OrderNarration.Number.Integer
import OrderNarration.Order.Context
import OrderNarration.Payload

/-!
# Faults

Everything that can end an operation early, by cause. Some faults concern only
the item that was being fetched; the callers that walk over many items pass over
those and let all others through.
-/

namespace OrderNarration

/-- How a failed lookup is labelled. -/
inductive FailureKind where
  | connection
  | timeout
  | httpStatus
  | nodeReply
  | nodeArgument
  | transactionUnknown
  | blockUnknown
  | invalidValue
  | missingKey
  | runtime
  | refusedConnection
  | interrupt
  deriving DecidableEq

namespace FailureKind

/-- The failure arose on the way to the node. -/
def isTransport : FailureKind → Bool
  | connection | timeout | httpStatus => true
  | _ => false

/-- The failure concerns only the item that was asked for. -/
def isPassing : FailureKind → Bool
  | connection | timeout | httpStatus | nodeReply | nodeArgument | transactionUnknown
  | blockUnknown | invalidValue => true
  | missingKey | runtime | refusedConnection | interrupt => false

end FailureKind

/-- A lookup that failed. -/
structure Failure where
  kind : FailureKind
  text : Text
  deriving DecidableEq

/-- The wording of a failure; a missing key is quoted. -/
def Failure.message (f : Failure) : Text :=
  if f.kind = .missingKey then f.text.quoted else f.text

/-- What a lookup is for. -/
inductive Wanted where
  | transaction
  | receipt
  | block
  deriving DecidableEq

/-- The kinds of problem that callers can state in their own words. -/
inductive StatedKind where
  | problem
  | invalidInput
  | notFound
  | malformedPayload
  | malformedContext
  deriving DecidableEq

/-- What ended an operation. -/
inductive Fault where
  | invalidHash (given : Value)
  | invalidRange (first last : Value)
  | notFound (wanted : Wanted) (key : Value)
  | multipleTopics (count : Value)
  | payload (cause : PayloadError)
  | context (cause : ContextError)
  | stated (kind : StatedKind) (details : List Value)
  | hexText (cause : HexError)
  | notHexText (value : Value)
  | tooManyDigits (count : Nat)
  | notEncodable (wording : Text)
  | amountOutOfRange
  | noInteger (cause : IntegerError)
  | shape (cause : ShapeError)
  | unprintable
  | noReader (kind : EventKind)
  | unreachable (url : Text) (cause : Option Failure)
  | lookup (failure : Failure)

namespace Fault

/-- The wording of a problem in the caller's words: one detail stands alone, more are listed. -/
def statedMessage : List Value → Text
  | [] => ""
  | [v] => v.display
  | details => "(" ++ Value.commaSeparated (Value.quotedItems details) ++ ")"

/-- The wording of a fault. -/
def message : Fault → Text
  | invalidHash given => "Invalid txhash: " ++ given.display
  | invalidRange first last =>
    "Invalid block range: " ++ first.display ++ " -> " ++ last.display
  | notFound .transaction key => "Transaction not found: " ++ key.display
  | notFound .receipt key => "No receipt found for tx: " ++ key.display
  | notFound .block key => "No block found for block: " ++ key.display
  | multipleTopics count => "Multiple topics found in a log (" ++ count.display ++ ")"
  | payload cause => cause.message
  | context cause => cause.message
  | stated _ details => statedMessage details
  | hexText cause => cause.message
  | notHexText value => "is_0x_prefixed requires text typed arguments. Got: " ++ value.quoted
  | tooManyDigits count => (Json.Error.tooManyDigits count).message
  | notEncodable wording => wording
  | amountOutOfRange => "value must be between 0 and 2**256 - 1"
  | noInteger cause => cause.message
  | shape cause => cause.message
  | unprintable => Value.noTextMessage
  | noReader kind => "<EventKind." ++ kind.identifier ++ ": '" ++ kind.label ++ "'>"
  | unreachable url none => "Failed to connect to RPC " ++ url
  | unreachable url (some cause) => "Failed to connect to RPC " ++ url ++ ": " ++ cause.message
  | lookup failure => failure.message

/-- A fault whose wording shows the given values. If one of them has no text, there is no wording,
and the lack of a text is the fault. -/
def showing (given : List Value) (e : Fault) : Fault :=
  if given.all fun v => v.display?.isSome then e else unprintable

/-- A problem in the caller's words. One detail is shown as it is and needs a text. -/
def stating (kind : StatedKind) : List Value → Fault
  | [v] => showing [v] (stated kind [v])
  | details => stated kind details

/-- The fault concerns only the item that was being fetched: the node's own failures, and data
that is no valid text of the value it stands for. -/
def isPassing : Fault → Bool
  | lookup failure => failure.kind.isPassing
  | hexText _ | tooManyDigits _ | notEncodable _ | amountOutOfRange => true
  | _ => false

end Fault

/-- The text of a value that a message is to show. -/
def Value.shown (v : Value) : Except Fault Text :=
  match v.display? with
  | some t => .ok t
  | none => .error .unprintable

end OrderNarration
