import OrderNarration.Bytes.Hex

/-!
# Strict UTF-8

The reader accepts exactly the well-formed byte sequences of the Unicode
standard: no overlong form, no surrogate, nothing above U+10FFFF. A refusal
names the longest prefix of a well-formed sequence that stands at the fault.

## Implementation notes

The lead byte fixes the count of bytes that follow and the range of the first
of them; all later ones range over the continuation bytes.
-/

namespace OrderNarration

/-- What is wrong at the place where a byte sequence stops being UTF-8. -/
inductive Utf8Flaw where
  | invalidStart
  | invalidContinuation
  | unexpectedEnd
  deriving DecidableEq

/-- A flaw with the bytes of the broken sequence and the position of its first byte. -/
structure Utf8Error where
  flaw : Utf8Flaw
  broken : List UInt8
  position : Nat
  deriving DecidableEq

namespace Utf8Error

/-- The wording of a flaw. -/
def reason : Utf8Flaw → Text
  | .invalidStart => "invalid start byte"
  | .invalidContinuation => "invalid continuation byte"
  | .unexpectedEnd => "unexpected end of data"

/-- The wording of the error: one broken byte is shown, more are given by position. -/
def message (e : Utf8Error) : Text :=
  match e.broken with
  | [b] =>
    "'utf-8' codec can't decode byte 0x" ++ Text.ofHex 2 b.toNat ++ " in position " ++
      Text.ofNat e.position ++ ": " ++ reason e.flaw
  | _ =>
    "'utf-8' codec can't decode bytes in position " ++ Text.ofNat e.position ++ "-" ++
      Text.ofNat (e.position + e.broken.length - 1) ++ ": " ++ reason e.flaw

end Utf8Error

namespace Utf8

/-- What a lead byte announces. -/
inductive Lead where
  | one
  | two
  | three (low high : UInt8)
  | four (low high : UInt8)
  | none

/-- Classify a lead byte; the bounds are those of the byte after it. -/
def lead (b : UInt8) : Lead :=
  if b < 0x80 then .one
  else if b < 0xC2 then .none
  else if b < 0xE0 then .two
  else if b = 0xE0 then .three 0xA0 0xBF
  else if b = 0xED then .three 0x80 0x9F
  else if b < 0xF0 then .three 0x80 0xBF
  else if b = 0xF0 then .four 0x90 0xBF
  else if b < 0xF4 then .four 0x80 0xBF
  else if b = 0xF4 then .four 0x80 0x8F
  else .none

/-- A byte of the form 10xxxxxx. -/
def isContinuation (b : UInt8) : Bool := 0x80 ≤ b && b ≤ 0xBF

/-- The scalar value of a sequence whose lead byte carries `bits`, and all others six bits
each. -/
def assemble (bits : Nat) (others : List UInt8) : Char :=
  Char.ofNat (others.foldl (fun n b => 64 * n + (b.toNat - 0x80)) bits)

/-- Read a byte string whose first byte stands at the given position. -/
def decodeFrom (position : Nat) : List UInt8 → Except Utf8Error (List Char)
  | [] => .ok []
  | b :: rest =>
    match lead b with
    | .none => .error ⟨.invalidStart, [b], position⟩
    | .one => do
      let cs ← decodeFrom (position + 1) rest
      return Char.ofNat b.toNat :: cs
    | .two =>
      match rest with
      | [] => .error ⟨.unexpectedEnd, [b], position⟩
      | b₁ :: rest =>
        if isContinuation b₁ then do
          let cs ← decodeFrom (position + 2) rest
          return assemble (b.toNat - 0xC0) [b₁] :: cs
        else .error ⟨.invalidContinuation, [b], position⟩
    | .three low high =>
      match rest with
      | [] => .error ⟨.unexpectedEnd, [b], position⟩
      | b₁ :: rest =>
        if low ≤ b₁ ∧ b₁ ≤ high then
          match rest with
          | [] => .error ⟨.unexpectedEnd, [b, b₁], position⟩
          | b₂ :: rest =>
            if isContinuation b₂ then do
              let cs ← decodeFrom (position + 3) rest
              return assemble (b.toNat - 0xE0) [b₁, b₂] :: cs
            else .error ⟨.invalidContinuation, [b, b₁], position⟩
        else .error ⟨.invalidContinuation, [b], position⟩
    | .four low high =>
      match rest with
      | [] => .error ⟨.unexpectedEnd, [b], position⟩
      | b₁ :: rest =>
        if low ≤ b₁ ∧ b₁ ≤ high then
          match rest with
          | [] => .error ⟨.unexpectedEnd, [b, b₁], position⟩
          | b₂ :: rest =>
            if isContinuation b₂ then
              match rest with
              | [] => .error ⟨.unexpectedEnd, [b, b₁, b₂], position⟩
              | b₃ :: rest =>
                if isContinuation b₃ then do
                  let cs ← decodeFrom (position + 4) rest
                  return assemble (b.toNat - 0xF0) [b₁, b₂, b₃] :: cs
                else .error ⟨.invalidContinuation, [b, b₁, b₂], position⟩
            else .error ⟨.invalidContinuation, [b, b₁], position⟩
        else .error ⟨.invalidContinuation, [b], position⟩

/-- Read a byte string as UTF-8. -/
def decode (bytes : List UInt8) : Except Utf8Error (List Char) := decodeFrom 0 bytes

/-- The UTF-8 form of a character sequence. -/
def encode (chars : List Char) : List UInt8 := chars.flatMap String.utf8EncodeChar

/-- The leftmost run of lone surrogates, which UTF-8 cannot express, with its position. -/
def surrogateRun (position : Nat) : Text → Option (Text × Nat)
  | [] => none
  | .scalar _ :: rest => surrogateRun (position + 1) rest
  | .surrogate k :: rest =>
    some (.surrogate k :: rest.takeWhile (fun c => c.char?.isNone), position)

/-- The UTF-8 form of a text, or the position of what has none. -/
def encodeText (t : Text) : Except Text (List UInt8) :=
  match surrogateRun 0 t with
  | none => .ok (encode (t.filterMap CodePoint.char?))
  | some (run, first) =>
    let last := first + run.length - 1
    .error (HexError.unencodable "utf-8" "surrogates not allowed" run first last)

end Utf8

end OrderNarration
