import OrderNarration.Narration.Receipt

/-!
# Scanning a range of blocks

A scan visits the blocks of a range in ascending order and the transactions of
each block in their order, but for the first one, which opens the block and
carries no orders. A block or a receipt that cannot be had is noted and passed
over; every other fault ends the scan, and the traces made so far stay.
-/

namespace OrderNarration

/-- The blocks from `first` to `last`, both included. -/
structure BlockRange where
  first : Int
  last : Int
  positive : 0 < first
  ordered : first ≤ last

namespace BlockRange

/-- The number of blocks. -/
def count (range : BlockRange) : Nat := (range.last - range.first + 1).toNat

/-- The block number that a value is; booleans count as numbers. -/
def number? : Value → Option Int
  | .int n => some n
  | .bool b => some (if b then 1 else 0)
  | _ => none

/-- The range between two numbers. -/
def ofNumbers? (first last : Int) : Option BlockRange :=
  if h : 0 < first ∧ first ≤ last then some ⟨first, last, h.1, h.2⟩ else none

/-- The range between two values. -/
def ofValues (first last : Value) : Except Fault BlockRange :=
  match number? first, number? last with
  | some a, some b =>
    match ofNumbers? a b with
    | some range => .ok range
    | none => .error (.invalidRange first last)
  | _, _ => .error (.showing [first, last] (.invalidRange first last))

end BlockRange

/-- The narration of one transaction of a block. -/
structure Trace where
  block : Int
  position : Nat
  hash : Option Text
  records : List Record

/-- The traces of a scan, the fault that ended it early, and the events on the way. -/
structure Scan where
  traces : List Trace
  stop : Option Fault
  events : List Event

namespace Scan

/-- The scan of nothing. -/
def done : Scan := ⟨[], none, []⟩

/-- Put a trace in front. -/
def withTrace (trace : Option Trace) (s : Scan) : Scan :=
  { s with traces := trace.toList ++ s.traces }

/-- Go on after a run, which ends the scan if it ends with a fault. -/
def after (r : Run α) (next : α → Scan) : Scan :=
  match r.outcome with
  | .ok a =>
    let rest := next a
    { rest with events := r.events ++ rest.events }
  | .error e => ⟨[], some e, r.events⟩

/-- Go on with another scan unless the first one was ended. -/
def append (s : Scan) (next : Unit → Scan) : Scan :=
  match s.stop with
  | some _ => s
  | none =>
    let rest := next ()
    ⟨s.traces ++ rest.traces, rest.stop, s.events ++ rest.events⟩

/-- The scan as a run, whose traces are lost if it was ended. -/
def toRun (s : Scan) : Run (List Trace) :=
  match s.stop with
  | some e => ⟨.error e, s.events⟩
  | none => ⟨.ok s.traces, s.events⟩

end Scan

namespace Narration

/-- The hash of a block's entry: the entry itself, or what it states as its hash. -/
def entryHash : Value → Except Fault (Option Text)
  | .text t => HashText.ofValue (.text t)
  | .bytes b => HashText.ofValue (.bytes b)
  | v => (v.key "hash").mapError .shape >>= HashText.ofValue

/-- The entries of a block. A block that cannot be had is noted and has none. -/
def blockEntries (node : Node) (number : Int) : Run (List Value) := do
  match ← (node.ask (.block number)).attempt with
  | .ok (some block) =>
    .ofExcept ((block.field "transactions" >>= Value.itemsOrNone).mapError .shape)
  | .ok none =>
    Run.note .walker .error ("No block found for block: " ++ Text.ofInt number)
    return []
  | .error e =>
    if e.isPassing then do
      Run.note .walker .error
        ("Failed to fetch block " ++ Text.ofInt number ++ ": " ++ e.message)
      return []
    else .fail e

/-- Narrate the transaction of a block's entry. A receipt that cannot be had is noted. -/
def visit (topics : TopicTable) (node : Node) (block : Int) (position : Nat) (value : Value) :
    Run (Option Trace) := do
  let hash ← Run.ofExcept (entryHash value)
  let shown := hash.getD "None"
  match ← (node.ask (.receipt hash)).attempt with
  | .ok (some found) =>
    let records ← receipt topics node found hash
    return some { block, position, hash, records }
  | .ok none =>
    Run.note .walker .error ("No receipt found for tx: " ++ shown)
    return none
  | .error e =>
    if e.isPassing then do
      Run.note .walker .error ("Failed to fetch receipt for tx " ++ shown ++ ": " ++ e.message)
      return none
    else .fail e

/-- Visit the entries of a block from a position on. -/
def scanEntries (topics : TopicTable) (node : Node) (block : Int) : Nat → List Value → Scan
  | _, [] => .done
  | position, v :: rest =>
    .after (visit topics node block position v) fun trace =>
      (scanEntries topics node block (position + 1) rest).withTrace trace

/-- Visit a number of blocks from one on. -/
def scanBlocks (topics : TopicTable) (node : Node) : Int → Nat → Scan
  | _, 0 => .done
  | number, count + 1 =>
    .after (blockEntries node number) fun entries =>
      (scanEntries topics node number 1 (entries.drop 1)).append fun _ =>
        scanBlocks topics node (number + 1) count

/-- Scan a range of blocks. -/
def scanRange (topics : TopicTable) (node : Node) (range : BlockRange) : Scan :=
  scanBlocks topics node range.first range.count

/-- Scan the range between two values; the traces are lost if a fault ends the scan. -/
def range (topics : TopicTable) (node : Node) (first last : Value) : Run (List Trace) := do
  let range ← Run.ofExcept (BlockRange.ofValues first last)
  (scanRange topics node range).toRun

end Narration

end OrderNarration
