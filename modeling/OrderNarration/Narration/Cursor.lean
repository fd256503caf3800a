import OrderNarration.Narration.Scan

/-!
# Scanning step by step

A cursor stands between two traces of a scan. A step goes on to the next trace
and asks the node for what it needs on the way, and for nothing else. The entries of
a block are kept from the moment the block was fetched.
-/

namespace OrderNarration

/-- Where a scan stands: before its range was looked at, inside a block with the entries that
are left in it and the number of blocks after it, or at its end. -/
inductive Cursor where
  | start (first last : Value)
  | inside (block : Int) (position : Nat) (entries : List Value) (blocksLeft : Nat)
  | finished

namespace Cursor

/-- Visit entries up to the first one with a trace. -/
def nextInBlock (topics : TopicTable) (node : Node) (block : Int) :
    Nat → List Value → Run (Option (Trace × Nat × List Value))
  | _, [] => pure none
  | position, v :: rest => do
    match ← Narration.visit topics node block position v with
    | some trace => return some (trace, position + 1, rest)
    | none => nextInBlock topics node block (position + 1) rest

/-- Visit blocks up to the first one with a trace. -/
def nextFromBlock (topics : TopicTable) (node : Node) : Int → Nat → Run (Option (Trace × Cursor))
  | _, 0 => pure none
  | number, count + 1 => do
    let entries ← Narration.blockEntries node number
    match ← nextInBlock topics node number 1 (entries.drop 1) with
    | some (trace, position, rest) => return some (trace, inside number position rest count)
    | none => nextFromBlock topics node (number + 1) count

/-- Go on to the next trace. -/
def advance (topics : TopicTable) (node : Node) : Cursor → Run (Option (Trace × Cursor))
  | start first last => do
    let range ← Run.ofExcept (BlockRange.ofValues first last)
    nextFromBlock topics node range.first range.count
  | inside block position entries blocksLeft => do
    match ← nextInBlock topics node block position entries with
    | some (trace, position, rest) => return some (trace, inside block position rest blocksLeft)
    | none => nextFromBlock topics node (block + 1) blocksLeft
  | finished => pure none

/-- Take the next trace, and the cursor after it. After the last trace and after a fault the
cursor is at its end. -/
def next (topics : TopicTable) (node : Node) (cursor : Cursor) : Run (Option Trace) × Cursor :=
  let r := advance topics node cursor
  match r.outcome with
  | .ok (some (trace, cursor)) => (⟨.ok (some trace), r.events⟩, cursor)
  | .ok none => (⟨.ok none, r.events⟩, finished)
  | .error e => (⟨.error e, r.events⟩, finished)

end Cursor

end OrderNarration
