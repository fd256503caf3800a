import OrderNarration.Rlp.Item
import OrderNarration.Text.Basic

/-!
# Reading recursive length prefixes

The reader accepts canonical encodings and nothing else. It does not compare a
byte string with the end of the input while it reads: a byte string that is cut
short is shown by the final comparison of the input's length with the length
that was announced.

## Implementation notes

A step takes the unread bytes and gives an item with the length announced for
it, which can be greater than the number of unread bytes. The fuel of the
nested steps is two for a byte, which is more than they can use up.
-/

namespace OrderNarration.Rlp

/-- Why an input is no canonical encoding. -/
inductive Error where
  | tooShort
  | superfluous (count : Int)
  | needlessPrefix
  | leadingZeros
  | longFormString
  | longFormList
  | listTooShort
  deriving DecidableEq

/-- The wording of an error. -/
def Error.message : Error → Text
  | .tooShort => "RLP string too short"
  | .superfluous count =>
    "RLP string ends with " ++ Text.ofInt count ++ " superfluous bytes"
  | .needlessPrefix => "Encoded as short string although single byte was possible"
  | .leadingZeros => "Length starts with zero bytes"
  | .longFormString => "Long string prefix used for short string"
  | .longFormList => "Long list prefix used for short list"
  | .listTooShort => "List length prefix announced a too small length"

/-- What a prefix announces: one byte without a prefix, or the length of the prefix, whether a
list follows and the length of the payload. -/
inductive Announcement where
  | single (byte : UInt8)
  | payload (prefixLength : Nat) (isList : Bool) (length : Nat)

/-- Read the length after a prefix byte that says how many bytes it takes. -/
def readLength (count : Nat) (rest : List UInt8) (tooLong : Error) : Except Error Nat :=
  if rest.head? = some 0 then .error .leadingZeros
  else
    let length := bigEndian (rest.take count)
    if length < 56 then .error tooLong else .ok length

/-- Read the prefix of an item. -/
def readPrefix : List UInt8 → Except Error Announcement
  | [] => .error .tooShort
  | b :: rest =>
    if b < 0x80 then .ok (.single b)
    else if b < 0xB8 then
      if b = 0x81 then
        match rest with
        | [] => .error .tooShort
        | c :: _ => if c < 0x80 then .error .needlessPrefix else .ok (.payload 1 false 1)
      else .ok (.payload 1 false (b.toNat - 0x80))
    else if b < 0xC0 then do
      let count := b.toNat - 0xB7
      return .payload (1 + count) false (← readLength count rest .longFormString)
    else if b < 0xF8 then .ok (.payload 1 true (b.toNat - 0xC0))
    else do
      let count := b.toNat - 0xF7
      return .payload (1 + count) true (← readLength count rest .longFormList)

mutual

/-- Read an item and the length announced for it. -/
def readItem : Nat → List UInt8 → Except Error (Item × Nat)
  | 0, _ => .error .tooShort
  | fuel + 1, unread =>
    match readPrefix unread with
    | .error e => .error e
    | .ok (.single b) => .ok (.bytes [b], 1)
    | .ok (.payload offset isList length) =>
      if isList then do
        let items ← readItems fuel length (unread.drop offset)
        return (.list items, offset + length)
      else .ok (.bytes ((unread.drop offset).take length), offset + length)

/-- Read items up to the announced length of their list. -/
def readItems : Nat → Nat → List UInt8 → Except Error (List Item)
  | 0, _, _ => .error .tooShort
  | fuel + 1, length, unread =>
    if length = 0 then .ok []
    else do
      let (x, consumed) ← readItem fuel unread
      if length < consumed then .error .listTooShort
      else
        let items ← readItems fuel (length - consumed) (unread.drop consumed)
        return x :: items

end

/-- Read an input that is one item. -/
def read (input : List UInt8) : Except Error Item := do
  let (x, consumed) ← readItem (2 * input.length + 2) input
  if consumed = input.length then return x
  else .error (.superfluous ((input.length : Int) - consumed))

end OrderNarration.Rlp
