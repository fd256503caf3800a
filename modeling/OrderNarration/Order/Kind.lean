import OrderNarration.Text.Basic

/-!
# Kinds of order transaction

The first byte of an order transaction's input tells its kind.
-/

namespace OrderNarration

/-- What an order transaction asks for. -/
inductive OrderKind where
  | session
  | transfer
  | tokenTransfer
  | new
  | cancel
  | cancelAll
  | modify
  | stopOrder
  | invalid
  | unknown
  deriving DecidableEq

namespace OrderKind

/-- The kind with a tag; a number that is no tag has the unknown kind. -/
def ofTag (tag : Int) : OrderKind :=
  if tag = 0x01 then session
  else if tag = 0x02 then transfer
  else if tag = 0x11 then tokenTransfer
  else if tag = 0x21 then new
  else if tag = 0x22 then cancel
  else if tag = 0x23 then cancelAll
  else if tag = 0x24 then modify
  else if tag = 0x25 then stopOrder
  else if tag = 0xFF then invalid
  else unknown

/-- The name of a kind. -/
def name : OrderKind → Text
  | session => "SESSION"
  | transfer => "TRANSFER"
  | tokenTransfer => "TOKEN_TRANSFER"
  | new => "NEW"
  | cancel => "CANCEL"
  | cancelAll => "CANCEL_ALL"
  | modify => "MODIFY"
  | stopOrder => "STOP_ORDER"
  | invalid => "INVALID"
  | unknown => "UNKNOWN"

end OrderKind

end OrderNarration
