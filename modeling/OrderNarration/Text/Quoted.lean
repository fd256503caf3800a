import OrderNarration.Text.Unprintable

/-!
# Quoted texts

A text is quoted with apostrophes, or with quotation marks if it holds
apostrophes and no quotation mark. The quote and the backslash are escaped, and
so is every code point that is not printable, with the shortest of the escapes
`\t`, `\n`, `\r`, `\xNN`, `\uNNNN` and `\UNNNNNNNN` that fits. Byte strings
follow the same rule with ASCII alone as printable, and are marked with a
leading `b`.
-/

namespace OrderNarration.Text

/-- The lowercase hexadecimal numeral, filled with zeros up to the width. -/
def ofHex (width : Nat) (n : Nat) : Text := padLeft width '0' (ofChars (Nat.toDigits 16 n))

/-- The shortest numeric escape of a code point number. -/
def escapeNumber (n : Nat) : Text :=
  if n ≤ 0xFF then "\\x" ++ ofHex 2 n
  else if n ≤ 0xFFFF then "\\u" ++ ofHex 4 n
  else "\\U" ++ ofHex 8 n

/-- One code point number inside quotes; `plain` says whether it may stand as it is. -/
def escapeWithin (quote : Char) (plain : Bool) (c : CodePoint) : Text :=
  if c = .scalar quote ∨ c = .scalar '\\' then [.scalar '\\', c]
  else if c = .scalar '\t' then "\\t"
  else if c = .scalar '\n' then "\\n"
  else if c = .scalar '\r' then "\\r"
  else if plain then [c]
  else escapeNumber c.number

/-- The quote that needs the fewest escapes; an apostrophe if neither does better. -/
def quoteMark (t : Text) : Char :=
  if t.contains (.scalar '\'') && !t.contains (.scalar '"') then '"' else '\''

/-- The text in quotes. -/
def quoted (t : Text) : Text :=
  let mark := t.quoteMark
  .scalar mark :: t.flatMap (fun c => escapeWithin mark c.isPrintable c) ++ [.scalar mark]

/-- The byte string in quotes. -/
def quotedBytes (bytes : List UInt8) : Text :=
  let t : Text := bytes.map fun b => .scalar (Char.ofNat b.toNat)
  let mark := t.quoteMark
  let plain (c : CodePoint) : Bool := 0x20 ≤ c.number && c.number < 0x7F
  .scalar 'b' :: .scalar mark :: t.flatMap (fun c => escapeWithin mark (plain c) c) ++
    [.scalar mark]

end OrderNarration.Text
