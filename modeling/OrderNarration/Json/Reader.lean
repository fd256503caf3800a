import OrderNarration.Bytes.Hex
import OrderNarration.Number.DecimalNumeral
import OrderNarration.Value

/-!
# Reading JSON

The reader follows the JSON grammar with three additions: the names `NaN`,
`Infinity` and `-Infinity` are numbers, a repeated key counts with its last
value at its first place, and an escaped surrogate may stand alone. Controls in
strings are refused. An integer of more than 4300 digits is no syntax fault but
a fault of its own.

## Implementation notes

A step takes the unread characters and gives a result with the characters after
it. A fault carries the unread characters at its place, from which the place is
computed at the end. The fuel of the nested readers is two for a character,
which is more than they can use up. So there is no limit to how deep a text may be
nested; what relies on one states it.
-/

namespace OrderNarration.Json

/-- What the text violates. -/
inductive Flaw where
  | expectingValue
  | expectingName
  | expectingColon
  | expectingComma
  | extraData
  | controlCharacter
  | invalidEscape
  | invalidUnicodeEscape
  | unterminatedString
  | byteOrderMark
  deriving DecidableEq

/-- Why reading stopped, with the unread characters at the place of the flaw. -/
inductive Stop where
  | flaw (kind : Flaw) (unread : List Char)
  | tooManyDigits (count : Nat)

/-- A position in a text: line and column from one, offset from zero. -/
structure Place where
  line : Nat
  column : Nat
  offset : Nat
  deriving DecidableEq

/-- Why a text was not read. -/
inductive Error where
  | flaw (kind : Flaw) (place : Place)
  | tooManyDigits (count : Nat)
  deriving DecidableEq

/-- The wording of a flaw. -/
def Flaw.message : Flaw → Text
  | .expectingValue => "Expecting value"
  | .expectingName => "Expecting property name enclosed in double quotes"
  | .expectingColon => "Expecting ':' delimiter"
  | .expectingComma => "Expecting ',' delimiter"
  | .extraData => "Extra data"
  | .controlCharacter => "Invalid control character at"
  | .invalidEscape => "Invalid \\escape"
  | .invalidUnicodeEscape => "Invalid \\uXXXX escape"
  | .unterminatedString => "Unterminated string starting at"
  | .byteOrderMark => "Unexpected UTF-8 BOM (decode using utf-8-sig)"

/-- The wording of an error. -/
def Error.message : Error → Text
  | .flaw kind place =>
    kind.message ++ ": line " ++ Text.ofNat place.line ++ " column " ++ Text.ofNat place.column ++
      " (char " ++ Text.ofNat place.offset ++ ")"
  | .tooManyDigits count =>
    "Exceeds the limit (" ++ Text.ofNat Numeral.maxDigits ++
      " digits) for integer string conversion: value has " ++ Text.ofNat count ++
      " digits; use sys.set_int_max_str_digits() to increase the limit"

/-- The place that comes after the given characters. -/
def Place.after (read : List Char) : Place where
  line := read.count '\n' + 1
  column := (read.reverse.takeWhile (· != '\n')).length + 1
  offset := read.length

/-- The blanks between tokens. -/
def isBlank (c : Char) : Bool := c = ' ' || c = '\t' || c = '\n' || c = '\r'

/-- The characters after the blanks. -/
def skip (cs : List Char) : List Char := cs.dropWhile isBlank

/-- The character that a one-letter escape stands for. -/
def shortEscape? : Char → Option Char
  | '"' => some '"'
  | '\\' => some '\\'
  | '/' => some '/'
  | 'b' => some '\x08'
  | 'f' => some '\x0c'
  | 'n' => some '\n'
  | 'r' => some '\r'
  | 't' => some '\t'
  | _ => none

/-- The 16-bit unit that four hexadecimal digits spell. -/
def unit? (a b c d : Char) : Option Nat := do
  return ((← Hex.value? a) * 16 + (← Hex.value? b)) * 256 + (← Hex.value? c) * 16 +
    (← Hex.value? d)

/-- The first half of a surrogate pair. -/
def isHigh (unit : Nat) : Bool := 0xD800 ≤ unit && unit < 0xDC00

/-- The second half of a surrogate pair. -/
def isLow (unit : Nat) : Bool := 0xDC00 ≤ unit && unit < 0xE000

/-- The character of a surrogate pair. -/
def joinPair (high low : Nat) : Char :=
  Char.ofNat (0x10000 + (high - 0xD800) * 0x400 + (low - 0xDC00))

/-- Read the digits of a numeric escape; at least one character has to follow them. A high
surrogate takes a low one after it into the same code point. -/
def readUnit (unread : List Char) : List Char → Except Stop (CodePoint × List Char)
  | a :: b :: c :: d :: next :: rest =>
    match unit? a b c d with
    | none => .error (.flaw .invalidUnicodeEscape unread)
    | some u =>
      let alone := (CodePoint.ofUnit u, next :: rest)
      if isHigh u then
        match next :: rest with
        | '\\' :: 'u' :: e :: f :: g :: h :: after :: rest =>
          match unit? e f g h with
          | none =>
            .error (.flaw .invalidUnicodeEscape ('u' :: e :: f :: g :: h :: after :: rest))
          | some v => .ok (if isLow v then (.scalar (joinPair u v), after :: rest) else alone)
        | _ => .ok alone
      else .ok alone
  | _ => .error (.flaw .invalidUnicodeEscape unread)

/-- Read what follows a backslash. `opening` starts at the string, `unread` at the backslash. -/
def readEscape (opening unread : List Char) : List Char → Except Stop (CodePoint × List Char)
  | [] => .error (.flaw .unterminatedString opening)
  | c :: rest =>
    if c = 'u' then readUnit (c :: rest) rest
    else
      match shortEscape? c with
      | some e => .ok (.scalar e, rest)
      | none => .error (.flaw .invalidEscape unread)

/-- Read the characters of a string and the quote after them. -/
def readString (opening : List Char) : Nat → List Char → Except Stop (Text × List Char)
  | 0, _ => .error (.flaw .unterminatedString opening)
  | _, [] => .error (.flaw .unterminatedString opening)
  | fuel + 1, c :: rest =>
    if c = '"' then .ok ([], rest)
    else if c = '\\' then do
      let (point, rest) ← readEscape opening (c :: rest) rest
      let (t, rest) ← readString opening fuel rest
      return (point :: t, rest)
    else if c.toNat < 0x20 then .error (.flaw .controlCharacter (c :: rest))
    else do
      let (t, rest) ← readString opening fuel rest
      return (.scalar c :: t, rest)

/-- The digits of the integer part: a zero alone, or digits that start with another digit. -/
def wholeDigits? : List Char → Option (List Char × List Char)
  | [] => none
  | c :: rest =>
    if c = '0' then some (['0'], rest)
    else if c.isDigit then
      some (c :: rest.takeWhile Char.isDigit, rest.dropWhile Char.isDigit)
    else none

/-- The digits after a decimal point, none if no digit follows the point. -/
def fractionDigits : List Char → List Char × List Char
  | '.' :: rest =>
    match rest.takeWhile Char.isDigit with
    | [] => ([], '.' :: rest)
    | digits => (digits, rest.dropWhile Char.isDigit)
  | cs => ([], cs)

/-- The exponent, if there is one with at least one digit. -/
def exponent? : List Char → Option (Int × List Char)
  | [] => none
  | c :: rest =>
    let (negative, body) := DecimalNumeral.splitSign rest
    match body.takeWhile Char.isDigit with
    | [] => none
    | digits =>
      if c = 'e' ∨ c = 'E' then
        some (Numeral.signed negative (Nat.ofDigitChars 10 digits 0), body.dropWhile Char.isDigit)
      else none

/-- Read a number without its sign. -/
def readMagnitude (negative : Bool) (unread body : List Char) : Except Stop (Value × List Char) :=
  match wholeDigits? body with
  | none => .error (.flaw .expectingValue unread)
  | some (whole, rest) =>
    let (fraction, rest) := fractionDigits rest
    match exponent? rest with
    | some (exponent, rest) =>
      .ok (.float (DecimalNumeral.toBinary64 ⟨whole, fraction, exponent⟩ negative), rest)
    | none =>
      if fraction ≠ [] then
        .ok (.float (DecimalNumeral.toBinary64 ⟨whole, fraction, 0⟩ negative), rest)
      else if whole.length ≤ Numeral.maxDigits then
        .ok (.int (Numeral.signed negative (Nat.ofDigitChars 10 whole 0)), rest)
      else .error (.tooManyDigits whole.length)

/-- The names of values. -/
def names : List (String × Value) := [
  ("null", .null), ("true", .bool true), ("false", .bool false), ("NaN", .float .notANumber),
  ("Infinity", .float (.infinite false)), ("-Infinity", .float (.infinite true))]

/-- Read a name or a number. -/
def readAtom (cs : List Char) : Except Stop (Value × List Char) :=
  match names.find? fun entry => entry.1.toList.isPrefixOf cs with
  | some (name, v) => .ok (v, cs.drop name.toList.length)
  | none =>
    let (negative, body) :=
      match cs with
      | '-' :: body => (true, body)
      | body => (false, body)
    readMagnitude negative cs body

mutual

/-- Read a value whose first character comes first. -/
def readValue : Nat → List Char → Except Stop (Value × List Char)
  | 0, cs => .error (.flaw .expectingValue cs)
  | fuel + 1, cs =>
    match cs with
    | '"' :: rest => do
      let (t, rest) ← readString cs fuel rest
      return (.text t, rest)
    | '[' :: rest =>
      match skip rest with
      | ']' :: rest => .ok (.list [], rest)
      | rest => do
        let (vs, rest) ← readItems fuel rest
        return (.list vs, rest)
    | '\x7b' :: rest =>
      match skip rest with
      | '\x7d' :: rest => .ok (.mapping [], rest)
      | rest => do
        let (entries, rest) ← readMembers fuel rest
        return (.mapping (Entries.ofPairs entries), rest)
    | _ => readAtom cs

/-- Read the items of an array that is not empty, and the bracket after them. -/
def readItems : Nat → List Char → Except Stop (List Value × List Char)
  | 0, cs => .error (.flaw .expectingValue cs)
  | fuel + 1, cs => do
    let (v, rest) ← readValue fuel cs
    match skip rest with
    | ']' :: rest => return ([v], rest)
    | ',' :: rest =>
      let (vs, rest) ← readItems fuel (skip rest)
      return (v :: vs, rest)
    | rest => .error (.flaw .expectingComma rest)

/-- Read the members of an object that is not empty, and the brace after them. -/
def readMembers : Nat → List Char → Except Stop (List (Text × Value) × List Char)
  | 0, cs => .error (.flaw .expectingName cs)
  | fuel + 1, cs =>
    match cs with
    | '"' :: rest => do
      let (k, rest) ← readString cs fuel rest
      match skip rest with
      | ':' :: rest =>
        let (v, rest) ← readValue fuel (skip rest)
        match skip rest with
        | '\x7d' :: rest => return ([(k, v)], rest)
        | ',' :: rest =>
          let (entries, rest) ← readMembers fuel (skip rest)
          return ((k, v) :: entries, rest)
        | rest => .error (.flaw .expectingComma rest)
      | rest => .error (.flaw .expectingColon rest)
    | _ => .error (.flaw .expectingName cs)

end

/-- Read a value and nothing after it but blanks. -/
def readAll (cs : List Char) : Except Stop Value := do
  let (v, rest) ← readValue (2 * cs.length + 2) (skip cs)
  match skip rest with
  | [] => return v
  | rest => .error (.flaw .extraData rest)

/-- Read a JSON text. -/
def read (cs : List Char) : Except Error Value :=
  match cs with
  | '\uFEFF' :: _ => .error (.flaw .byteOrderMark (Place.after []))
  | _ =>
    match readAll cs with
    | .ok v => .ok v
    | .error (.flaw kind unread) =>
      .error (.flaw kind (Place.after (cs.take (cs.length - unread.length))))
    | .error (.tooManyDigits count) => .error (.tooManyDigits count)

end OrderNarration.Json
