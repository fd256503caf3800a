import OrderNarration.Entries
import OrderNarration.Number.BigDecimal
import OrderNarration.Number.Binary64.Shortest
import OrderNarration.Text.Quoted

/-!
# Values

A node answers with values of many kinds, and an order context may hold any JSON
value. This module gives the type of these values, their texts, and the three
ways in which a program looks inside one: by field, by item and by key.

## Implementation notes

A mapping keeps its entries in the order in which their keys were first given.
-/

namespace OrderNarration

/-- A value from a node, an order context or a caller. The last kind has no text of its own
but can be shown inside other values. -/
inductive Value where
  | null
  | bool (b : Bool)
  | int (n : Int)
  | float (x : Binary64)
  | text (t : Text)
  | bytes (bytes : List UInt8)
  | decimal (d : BigDecimal)
  | list (items : List Value)
  | mapping (entries : List (Text × Value))
  | unprintable (shown : Text)
  deriving Inhabited

namespace Value

/-- The name of a value's kind. -/
def kindName : Value → Text
  | null => "NoneType"
  | bool _ => "bool"
  | int _ => "int"
  | float _ => "float"
  | text _ => "str"
  | bytes _ => "bytes"
  | decimal _ => "Decimal"
  | list _ => "list"
  | mapping _ => "dict"
  | unprintable _ => "Unprintable"

/-- The name of a value's kind where it is written in full. -/
def fullKindName : Value → Text
  | decimal _ => "decimal.Decimal"
  | v => v.kindName

/-- Texts of the items with a comma and a space between neighbours. -/
def commaSeparated (parts : List Text) : Text := Text.join ", " parts

mutual

/-- The text of a value inside another one: texts and byte strings stand in quotes. -/
def quoted : Value → Text
  | null => "None"
  | bool b => if b then "True" else "False"
  | int n => Text.ofInt n
  | float x => x.text
  | text t => t.quoted
  | bytes b => Text.quotedBytes b
  | decimal d => "Decimal('" ++ d.text ++ "')"
  | list items => "[" ++ commaSeparated (quotedItems items) ++ "]"
  | mapping entries => "\x7b" ++ commaSeparated (quotedEntries entries) ++ "\x7d"
  | unprintable shown => shown

/-- The quoted texts of a list of values. -/
def quotedItems : List Value → List Text
  | [] => []
  | v :: rest => v.quoted :: quotedItems rest

/-- The texts of a list of entries: key, colon and value. -/
def quotedEntries : List (Text × Value) → List Text
  | [] => []
  | (k, v) :: rest => (k.quoted ++ ": " ++ v.quoted) :: quotedEntries rest

end

/-- The text of a value that stands by itself, if it has one. An integer has one however long it
is. -/
def display? : Value → Option Text
  | text t => some t
  | decimal d => some d.text
  | unprintable _ => none
  | v => some v.quoted

/-- What is said of a value that has no text of its own. -/
def noTextMessage : Text := "no text form"

/-- The text of a value, or what is shown for it if it has no text. -/
def display (v : Value) : Text := v.display?.getD v.quoted

/-- False for null, false, zero and everything empty. -/
def holds : Value → Bool
  | null => false
  | bool b => b
  | int n => n != 0
  | float x => !x.isZero
  | text t => !t.isEmpty
  | bytes b => !b.isEmpty
  | decimal d => !d.isZero
  | list items => !items.isEmpty
  | mapping entries => !entries.isEmpty
  | unprintable _ => true

end Value

/-- Why a value cannot be looked into. -/
inductive ShapeError where
  | noFields (value : Value)
  | noItems (value : Value)
  | noKeys (value : Value)
  | missingKey (key : Text)

/-- The wording of the error. -/
def ShapeError.message : ShapeError → Text
  | noFields v => "'" ++ v.fullKindName ++ "' object has no attribute 'get'"
  | noItems v => "'" ++ v.fullKindName ++ "' object is not iterable"
  | noKeys (.list _) => "list indices must be integers or slices, not str"
  | noKeys v => "'" ++ v.fullKindName ++ "' object is not subscriptable"
  | missingKey k => k.quoted

namespace Value

/-- The value of a field, null if the field is absent; only mappings have fields. -/
def field (name : Text) : Value → Except ShapeError Value
  | mapping entries => .ok ((Entries.get? name entries).getD null)
  | v => .error (.noFields v)

/-- The items of a value: of a text its code points, of a mapping its keys. -/
def items : Value → Except ShapeError (List Value)
  | list items => .ok items
  | text t => .ok (t.map fun c => text [c])
  | bytes b => .ok (b.map fun byte => int byte.toNat)
  | mapping entries => .ok (entries.map fun e => text e.1)
  | v => .error (.noItems v)

/-- The items of a value, none if the value does not hold. -/
def itemsOrNone (v : Value) : Except ShapeError (List Value) :=
  if v.holds then v.items else .ok []

/-- The value of a key that has to be there. -/
def key (name : Text) : Value → Except ShapeError Value
  | mapping entries =>
    match Entries.get? name entries with
    | some v => .ok v
    | none => .error (.missingKey name)
  | v => .error (.noKeys v)

end Value

end OrderNarration
