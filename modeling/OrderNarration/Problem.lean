import OrderNarration.Fault

/-!
# Classes of problems

The faults that this library reports under a class of its own, from the most
general class to the most special ones, with the details that each one carries.
A class that words its problems itself needs a fixed number of details; the
others take any number and show them as they are.
-/

namespace OrderNarration

/-- The classes of problems. -/
inductive ProblemClass where
  | problem
  | invalidInput
  | invalidHash
  | invalidRange
  | notFound
  | transactionNotFound
  | receiptNotFound
  | blockNotFound
  | malformedPayload
  | malformedContext
  | multipleTopics
  deriving DecidableEq

namespace ProblemClass

/-- The class right above a class. -/
def broader? : ProblemClass → Option ProblemClass
  | problem => none
  | invalidHash | invalidRange => some invalidInput
  | transactionNotFound | receiptNotFound | blockNotFound => some notFound
  | invalidInput | notFound | malformedPayload | malformedContext | multipleTopics => some problem

/-- A class with the classes above it; no class has more than two above it. -/
def lineage (c : ProblemClass) : List ProblemClass :=
  match c.broader? with
  | none => [c]
  | some d => c :: d :: d.broader?.toList

/-- The name of a class. -/
def name : ProblemClass → Text
  | problem => "OrderDecoderError"
  | invalidInput => "InvalidInput"
  | invalidHash => "InvalidTxHash"
  | invalidRange => "InvalidRange"
  | notFound => "NotFound"
  | transactionNotFound => "TransactionNotFound"
  | receiptNotFound => "ReceiptNotFound"
  | blockNotFound => "BlockNotFound"
  | malformedPayload => "MalformedPayload"
  | malformedContext => "MalformedContext"
  | multipleTopics => "UnsupportedMultiTopic"

/-- All classes. -/
def all : List ProblemClass :=
  [problem, invalidInput, invalidHash, invalidRange, notFound, transactionNotFound,
    receiptNotFound, blockNotFound, malformedPayload, malformedContext, multipleTopics]

/-- The class with a name. -/
def ofName? (name : Text) : Option ProblemClass := all.find? fun c => c.name = name

/-- The names of the details that a class needs. -/
def needed : ProblemClass → List Text
  | invalidHash | transactionNotFound | receiptNotFound => ["tx_hash"]
  | invalidRange => ["from_block", "to_block"]
  | blockNotFound => ["block_number"]
  | multipleTopics => ["topic_count"]
  | _ => []

example (c : ProblemClass) : c.lineage.getLast? = some problem := by cases c <;> rfl
example (c : ProblemClass) : ofName? c.name = some c := by cases c <;> decide

end ProblemClass

/-- A class was not given as many details as it needs. -/
structure WrongDetails where
  problemClass : ProblemClass
  given : Nat

/-- The wording of the error: too few details are told by name, too many are counted, the problem
itself included. -/
def WrongDetails.message (e : WrongDetails) : Text :=
  let needed := e.problemClass.needed
  let what := e.problemClass.name ++ ".__init__() "
  match (needed.drop e.given).map Text.quoted with
  | [] =>
    what ++ "takes " ++ Text.ofNat (needed.length + 1) ++ " positional arguments but " ++
      Text.ofNat (e.given + 1) ++ " were given"
  | [detail] => what ++ "missing 1 required positional argument: " ++ detail
  | details =>
    what ++ "missing " ++ Text.ofNat details.length ++ " required positional arguments: " ++
      Text.join " and " details

/-- The problem of a class with the given details. -/
def ProblemClass.fault : ProblemClass → List Value → Except WrongDetails Fault
  | problem, details => .ok (.stating .problem details)
  | invalidInput, details => .ok (.stating .invalidInput details)
  | notFound, details => .ok (.stating .notFound details)
  | malformedPayload, details => .ok (.stating .malformedPayload details)
  | malformedContext, details => .ok (.stating .malformedContext details)
  | invalidHash, [given] => .ok (.showing [given] (.invalidHash given))
  | invalidRange, [first, last] => .ok (.showing [first, last] (.invalidRange first last))
  | transactionNotFound, [key] => .ok (.showing [key] (.notFound .transaction key))
  | receiptNotFound, [key] => .ok (.showing [key] (.notFound .receipt key))
  | blockNotFound, [key] => .ok (.showing [key] (.notFound .block key))
  | multipleTopics, [count] => .ok (.showing [count] (.multipleTopics count))
  | c, details => .error ⟨c, details.length⟩

namespace Fault

/-- The class of a fault that has one. -/
def problemClass? : Fault → Option ProblemClass
  | invalidHash _ => some .invalidHash
  | invalidRange _ _ => some .invalidRange
  | notFound .transaction _ => some .transactionNotFound
  | notFound .receipt _ => some .receiptNotFound
  | notFound .block _ => some .blockNotFound
  | multipleTopics _ => some .multipleTopics
  | payload _ | stated .malformedPayload _ => some .malformedPayload
  | context _ | stated .malformedContext _ => some .malformedContext
  | stated .problem _ => some .problem
  | stated .invalidInput _ => some .invalidInput
  | stated .notFound _ => some .notFound
  | _ => none

/-- The details that a fault shows. -/
def shownDetails : Fault → List Value
  | invalidHash given => [given]
  | invalidRange first last => [first, last]
  | notFound _ key => [key]
  | multipleTopics count => [count]
  | _ => []

/-- The details of a fault under their names. -/
def details (e : Fault) : Entries Value :=
  (e.problemClass?.elim [] ProblemClass.needed).zip e.shownDetails

end Fault

end OrderNarration
