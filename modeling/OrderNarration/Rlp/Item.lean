/-!
# Recursive length prefixes

An item is a byte string or a list of items. Its canonical encoding puts a
prefix with the length before the payload: a byte below 0x80 stands for itself,
lengths below 56 are part of the prefix byte, and greater lengths follow it
big-endian without leading zeros.
-/

namespace OrderNarration.Rlp

/-- A byte string or a list of items. -/
inductive Item where
  | bytes (payload : List UInt8)
  | list (items : List Item)
  deriving Inhabited

/-- The number that big-endian bytes spell. -/
def bigEndian (bytes : List UInt8) : Nat := bytes.foldl (fun n b => 256 * n + b.toNat) 0

/-- The fewest big-endian bytes of a number, at most `width` of them; none for zero. -/
def bigEndianBytes : Nat → Nat → List UInt8
  | 0, _ => []
  | width + 1, n =>
    if n = 0 then [] else bigEndianBytes width (n / 256) ++ [UInt8.ofNat (n % 256)]

/-- The length prefix of a payload; `base` tells byte strings from lists. -/
def lengthPrefix (base : Nat) (length : Nat) : List UInt8 :=
  if length < 56 then [UInt8.ofNat (base + length)]
  else
    let digits := bigEndianBytes 8 length
    UInt8.ofNat (base + 55 + digits.length) :: digits

/-- The encoding of a byte string. -/
def encodeBytes (bytes : List UInt8) : List UInt8 :=
  match bytes with
  | [b] => if b < 0x80 then [b] else lengthPrefix 0x80 1 ++ [b]
  | _ => lengthPrefix 0x80 bytes.length ++ bytes

mutual

/-- The canonical encoding of an item whose parts are shorter than 2^64 bytes. -/
def Item.encode : Item → List UInt8
  | .bytes payload => encodeBytes payload
  | .list items =>
    let payload := Item.encodeAll items
    lengthPrefix 0xC0 payload.length ++ payload

/-- The encodings of items one after another. -/
def Item.encodeAll : List Item → List UInt8
  | [] => []
  | x :: rest => x.encode ++ Item.encodeAll rest

end

end OrderNarration.Rlp
