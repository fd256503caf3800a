import OrderNarration.Proofs.LogLines
import OrderNarration.Proofs.RoutingSteps

/-!
# Where a record is written

After a set-up there is one handler for the console and at most one for the debug file, so a
record is written at most once to each of them. What is written follows from the last set-up,
from whether a debug file was ever asked for, and from the name and the urgency of the record.
-/

namespace OrderNarration.Logging

namespace Routing

variable {r : Routing} {level : Level} {debug filed : Bool} {steps : List Step}

section SetUp

variable (s : r.IsSetUp level debug filed) (record : Record)
include s

end SetUp

section DebugConsole

variable {before : List Step} {records : List Record} {record : Record}

/-- What the console shows of a record after some steps, a set-up and the records given since. -/
def shown (colored : Bool) (before : List Step) (level : Level) (debug : Bool)
    (records : List Record) (record : Record) : Text :=
  let r := run colored (before ++ .setUp level debug :: records.map .given)
  ((r.step (.given record)).write record).console

section Shown

variable (undotted : ∀ s ∈ before, s.IsUndotted)
  (names : ∀ record ∈ records, record.logger.getLast? ≠ some dot) (colored : Bool)
  (level : Level) (record : Record)
include undotted names

end Shown

end DebugConsole

end Routing

end OrderNarration.Logging
