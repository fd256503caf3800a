import OrderNarration.Entries
import OrderNarration.Node

/-!
# Nodes in memory

A table of transactions, receipts and blocks answers lookups by the text of
their keys. A lookup can also be made to fail.
-/

namespace OrderNarration

/-- The text of the key that a lookup asks for. -/
def Lookup.key : Lookup → Text
  | transaction hash => hash
  | receipt hash => hash.getD "None"
  | block number => Text.ofInt number

/-- The name under which a lookup is known. -/
def Lookup.method : Lookup → Text
  | transaction _ => "get_transaction"
  | receipt _ => "get_transaction_receipt"
  | block _ => "get_block"

/-- The content of a node. Failures are filed under method, colon and key. -/
structure NodeTable where
  transactions : Entries Value := []
  receipts : Entries Value := []
  blocks : Entries Value := []
  failures : Entries Failure := []

namespace NodeTable

/-- The values that a lookup looks among. -/
def shelf (table : NodeTable) : Lookup → Entries Value
  | .transaction _ => table.transactions
  | .receipt _ => table.receipts
  | .block _ => table.blocks

/-- The value under a key. A null counts as no value. -/
def find? (key : Text) (shelf : Entries Value) : Option Value :=
  match Entries.get? key shelf with
  | some .null => none
  | found => found

/-- The table as a node. -/
def node (table : NodeTable) : Node := fun lookup =>
  match Entries.get? (lookup.method ++ ":" ++ lookup.key) table.failures with
  | some failure => .failed failure
  | none =>
    match find? lookup.key (table.shelf lookup) with
    | none => .absent
    | some v => .found v

/-- The entries of a field that is a mapping. -/
def entriesOf (v : Value) (field : Text) : Entries Value :=
  match v.field field with
  | .ok (.mapping entries) => entries
  | _ => []

/-- The table that a value lays out in its fields `transactions`, `receipts` and `blocks`. -/
def ofValue (v : Value) : NodeTable where
  transactions := entriesOf v "transactions"
  receipts := entriesOf v "receipts"
  blocks := entriesOf v "blocks"

end NodeTable

end OrderNarration
