import OrderNarration.Fault
import OrderNarration.Text.Blank
import OrderNarration.Text.Lowercase

/-!
# Hashes and byte strings as values

A node may give a hash or a byte string as bytes or as hexadecimal text. Hashes
are compared as lowercase text with the marker `0x`; byte strings are read into
bytes.
-/

namespace OrderNarration

namespace HashText

/-- The lowercase text with the marker, without blanks around it. -/
def ofText (t : Text) : Text :=
  let lowered := t.strip.lowercase
  if Hex.isMarked lowered then lowered else "0x" ++ lowered

/-- The normal form of a hash given as a value; null stays without one. -/
def ofValue : Value → Except Fault (Option Text)
  | .null => .ok none
  | .bytes b => .ok (some (Hex.marked b))
  | v => some <$> (ofText <$> v.shown)

/-- The value is a text of the marker and 64 hexadecimal digits. -/
def isTransactionHash (t : Text) : Bool :=
  match t with
  | .scalar '0' :: .scalar 'x' :: digits =>
    digits.length == 64 && digits.all fun c => (c.char?.bind Hex.value?).isSome
  | _ => false

/-- The transaction hash that a value is. -/
def transactionHash : Value → Except Fault Text
  | .text t => if isTransactionHash t then .ok t else .error (.invalidHash (.text t))
  | v => .error (.showing [v] (.invalidHash v))

end HashText

/-- The byte string given as a value: as bytes, as hexadecimal text, or as null if it is empty. -/
def Value.byteString : Value → Except Fault (List UInt8)
  | null => .ok []
  | bytes b => .ok b
  | text t =>
    match Hex.readText t with
    | .ok b => .ok b
    | .error e => .error (.hexText e)
  | v => .error (.notHexText v)

end OrderNarration
