import OrderNarration.Bytes.Utf8
import OrderNarration.Event
import OrderNarration.Number.Ether
import OrderNarration.Rlp.Reader
import OrderNarration.Value

/-!
# Payloads of event logs

The data of a log is one list in length-prefixed form. A trade has 14 elements,
of which three are used: the hashes of the buy and the sell order and the price
in wei. The two kinds of id list hold order hashes and nothing else. Hashes are
stored as the text of their hexadecimal form.
-/

namespace OrderNarration

/-- Why the data of a log does not have the layout of its event. -/
inductive PayloadError where
  | notBytes (kindName : Text)
  | notCanonical (cause : Rlp.Error)
  | notList
  | wrongCount (count : Nat)
  | elementNotBytes (kindName : Text)
  | elementNotText (cause : Utf8Error)
  | priceIsList
  | priceTooWide (count : Nat)
  deriving DecidableEq

/-- A matched trade. -/
structure Trade where
  buyHash : Text
  sellHash : Text
  priceHex : Text
  priceEther : Text
  deriving DecidableEq

/-- What the data of a log says. Two kinds of event say nothing beyond their topic. -/
inductive Payload where
  | trade (trade : Trade)
  | triggered (hashes : List Text)
  | canceled (hashes : List Text)
  | empty
  deriving DecidableEq

namespace Payload

/-- The number of elements of a trade. -/
def tradeElements : Nat := 14

/-- The greatest number of bytes of a price. -/
def maxPriceBytes : Nat := 32

end Payload

/-- The wording of the error. -/
def PayloadError.message : PayloadError → Text
  | notBytes kindName =>
    "invalid RLP payload: Can only decode RLP bytes, got type " ++ kindName
  | notCanonical cause => "invalid RLP payload: " ++ cause.message
  | notList => "expected an RLP list, got a byte string"
  | wrongCount count =>
    "expected " ++ Text.ofNat Payload.tradeElements ++ " elements, got " ++ Text.ofNat count
  | elementNotBytes kindName => "expected byte string element, got " ++ kindName
  | elementNotText cause => "element is not text: " ++ cause.message
  | priceIsList => "price element is a list, expected a byte string"
  | priceTooWide count =>
    "price element is " ++ Text.ofNat count ++ " bytes, max " ++ Text.ofNat Payload.maxPriceBytes

namespace Payload

/-- The elements of data that is a list. -/
def elements (data : List UInt8) : Except PayloadError (List Rlp.Item) :=
  match Rlp.read data with
  | .error cause => .error (.notCanonical cause)
  | .ok (.bytes _) => .error .notList
  | .ok (.list items) => .ok items

/-- The text that a byte string stores. The bytes are taken from the digits of its hexadecimal
form. -/
def textOfBytes (bytes : List UInt8) : Except PayloadError Text :=
  match Utf8.decode (Hex.restored bytes) with
  | .ok chars => .ok (Text.ofChars chars)
  | .error cause => .error (.elementNotText cause)

/-- The text that an element stores. -/
def textOfItem : Rlp.Item → Except PayloadError Text
  | .bytes bytes => textOfBytes bytes
  | .list _ => .error (.elementNotBytes (Value.list []).kindName)

/-- The text that a value stores, which has to be a byte string. -/
def textOfValue : Value → Except PayloadError Text
  | .bytes bytes => textOfBytes bytes
  | v => .error (.elementNotBytes v.kindName)

/-- The data of a log given as a value. -/
def dataOfValue : Value → Except PayloadError (List UInt8)
  | .bytes bytes => .ok bytes
  | v => .error (.notBytes v.kindName)

/-- The bytes of a price element. -/
def priceBytes : Rlp.Item → Except PayloadError (List UInt8)
  | .list _ => .error .priceIsList
  | .bytes bytes =>
    if maxPriceBytes < bytes.length then .error (.priceTooWide bytes.length) else .ok bytes

/-- Read a trade. -/
def readTrade (data : List UInt8) : Except PayloadError Trade := do
  let fields ← elements data
  match fields with
  | [_, buy, sell, _, _, _, _, price, _, _, _, _, _, _] =>
    let buyHash ← textOfItem buy
    let sellHash ← textOfItem sell
    let bytes ← priceBytes price
    return {
      buyHash
      sellHash
      priceHex := Hex.marked bytes
      priceEther := Ether.ofWei (Rlp.bigEndian bytes) }
  | _ => .error (.wrongCount fields.length)

/-- Read a list of order hashes. -/
def readHashes (data : List UInt8) : Except PayloadError (List Text) := do
  (← elements data).mapM textOfItem

/-- Read the data of a log of the given kind; nothing is read for an unknown kind. -/
def read (kind : EventKind) (data : List UInt8) : Except PayloadError Payload :=
  match kind with
  | .trades => Payload.trade <$> readTrade data
  | .triggeredIds => Payload.triggered <$> readHashes data
  | .canceledIds => Payload.canceled <$> readHashes data
  | .cancel | .triggerAbove | .unknown => .ok .empty

end Payload

end OrderNarration
