import OrderNarration.Text.Quoted

/-!
# Hexadecimal texts

Byte strings travel as hexadecimal text, with or without the marker `0x`.
Writing gives lowercase digits; reading takes both cases and an odd count of
digits is refused before the digits are looked at. Digits without a marker may
have blanks between the bytes.
-/

namespace OrderNarration

/-- Why a text is not hexadecimal. `first` and `last` delimit the leftmost run outside ASCII. -/
inductive HexError where
  | notAscii (run : Text) (first last : Nat)
  | oddLength
  | badDigit
  deriving DecidableEq

namespace HexError

/-- The run of code points that an encoding cannot express, as its message shows it. -/
def unencodable (encoding reason : Text) (run : Text) (first last : Nat) : Text :=
  match run with
  | [c] =>
    "'" ++ encoding ++ "' codec can't encode character '" ++ Text.escapeNumber c.number ++
      "' in position " ++ Text.ofNat first ++ ": " ++ reason
  | _ =>
    "'" ++ encoding ++ "' codec can't encode characters in position " ++ Text.ofNat first ++ "-" ++
      Text.ofNat last ++ ": " ++ reason

/-- The wording of the error. -/
def message : HexError → Text
  | notAscii run first last => unencodable "ascii" "ordinal not in range(128)" run first last
  | oddLength => "Odd-length string"
  | badDigit => "Non-hexadecimal digit found"

end HexError

namespace Hex

/-- The lowercase digit of a value below sixteen. -/
def digit (n : Nat) : Char :=
  if n < 10 then Char.ofNat (48 + n) else Char.ofNat (87 + n)

/-- The value of a hexadecimal digit of either case. -/
def value? (c : Char) : Option Nat :=
  if '0' ≤ c ∧ c ≤ '9' then some (c.toNat - 48)
  else if 'a' ≤ c ∧ c ≤ 'f' then some (c.toNat - 87)
  else if 'A' ≤ c ∧ c ≤ 'F' then some (c.toNat - 55)
  else none

/-- Two lowercase digits a byte. -/
def encode (bytes : List UInt8) : List Char :=
  bytes.flatMap fun b => [digit (b.toNat / 16), digit (b.toNat % 16)]

/-- Read two digits a byte. -/
def decode : List Char → Except HexError (List UInt8)
  | [] => .ok []
  | [_] => .error .oddLength
  | high :: low :: rest =>
    match value? high, value? low with
    | some h, some l => do
      let bytes ← decode rest
      return UInt8.ofNat (16 * h + l) :: bytes
    | _, _ =>
      if rest.length % 2 = 1 then .error .oddLength else .error .badDigit

/-- The byte string as marked hexadecimal text. -/
def marked (bytes : List UInt8) : Text := "0x" ++ Text.ofChars (encode bytes)

/-- The text starts with the marker in either case. -/
def isMarked : Text → Bool
  | .scalar '0' :: .scalar x :: _ => x == 'x' || x == 'X'
  | _ => false

/-- The text without its marker. -/
def unmarked (t : Text) : Text := if isMarked t then t.drop 2 else t

/-- Find the leftmost run of code points outside ASCII and the position of its start. -/
def foreignRun (position : Nat) : Text → Option (Text × Nat)
  | [] => none
  | c :: rest =>
    if c.number < 0x80 then foreignRun (position + 1) rest
    else some (c :: rest.takeWhile (fun d => 0x80 ≤ d.number), position)

/-- Read a hexadecimal text with or without the marker. -/
def readText (t : Text) : Except HexError (List UInt8) :=
  let digits := unmarked t
  match foreignRun 0 digits with
  | some (run, first) => .error (.notAscii run first (first + run.length - 1))
  | none => decode (digits.filterMap CodePoint.char?)

/-- A blank of ASCII: the space and the controls from U+0009 to U+000D. -/
def isSpace (c : CodePoint) : Bool := (0x09 ≤ c.number && c.number ≤ 0x0D) || c.number == 0x20

/-- Read a text of two digits a byte without a marker. Blanks may stand between the bytes and
around them. -/
def ofPairs? : Text → Option (List UInt8)
  | [] => some []
  | c :: rest =>
    if isSpace c then ofPairs? rest
    else
      match rest with
      | [] => none
      | d :: rest => do
        let high ← c.char?.bind value?
        let low ← d.char?.bind value?
        let bytes ← ofPairs? rest
        return UInt8.ofNat (16 * high + low) :: bytes

theorem value?_digit {n : Nat} (h : n < 16) : value? (digit n) = some n := by
  have : ∀ k : Fin 16, value? (digit k) = some k.val := by decide
  exact this ⟨n, h⟩

theorem toNat_div_lt (b : UInt8) : b.toNat / 16 < 16 := by
  have := b.toNat_lt
  omega

theorem toNat_mod_lt (b : UInt8) : b.toNat % 16 < 16 := Nat.mod_lt _ (by decide)

theorem decode_encode (bytes : List UInt8) : decode (encode bytes) = .ok bytes := by
  induction bytes with
  | nil => rfl
  | cons b rest ih =>
    simp only [encode, List.flatMap_cons, List.cons_append, List.nil_append, decode,
      value?_digit (toNat_div_lt b), value?_digit (toNat_mod_lt b)] at ih ⊢
    rw [ih]
    simp [bind, Except.bind, pure, Except.pure, Nat.div_add_mod]

theorem isSpace_digit {n : Nat} (h : n < 16) : isSpace (.scalar (digit n)) = false := by
  have : ∀ k : Fin 16, isSpace (.scalar (digit k)) = false := by decide
  exact this ⟨n, h⟩

theorem ofPairs?_digit_digit {high low : Nat} (hhigh : high < 16) (hlow : low < 16) (rest : Text) :
    ofPairs? (.scalar (digit high) :: .scalar (digit low) :: rest) =
      (UInt8.ofNat (16 * high + low) :: ·) <$> ofPairs? rest := by
  rw [ofPairs?, isSpace_digit hhigh]
  simp only [Bool.false_eq_true, if_false, CodePoint.char?, Option.bind_some, value?_digit hhigh,
    value?_digit hlow]
  cases ofPairs? rest <;> rfl

theorem ofPairs?_encode (bytes : List UInt8) :
    ofPairs? (Text.ofChars (encode bytes)) = some bytes := by
  induction bytes with
  | nil => rfl
  | cons b rest ih =>
    calc
      ofPairs? (Text.ofChars (encode (b :: rest)))
          = (UInt8.ofNat (16 * (b.toNat / 16) + b.toNat % 16) :: ·) <$>
              ofPairs? (Text.ofChars (encode rest)) :=
            ofPairs?_digit_digit (toNat_div_lt b) (toNat_mod_lt b) _
      _ = some (b :: rest) := by
            rw [ih, Nat.div_add_mod, UInt8.ofNat_toNat, Option.map_eq_map, Option.map_some]

/-- Taking the marker off leaves the digits of the byte string, whatever they begin with. -/
theorem unmarked_marked (bytes : List UInt8) :
    unmarked (marked bytes) = Text.ofChars (encode bytes) := rfl

theorem ofPairs?_unmarked_marked (bytes : List UInt8) :
    ofPairs? (unmarked (marked bytes)) = some bytes := by
  rw [unmarked_marked, ofPairs?_encode]

/-- What is read back from the hexadecimal form of a byte string with the marker taken off. Every
such form can be read. -/
def restored (bytes : List UInt8) : List UInt8 :=
  (ofPairs? (unmarked (marked bytes))).get (by rw [ofPairs?_unmarked_marked, Option.isSome_some])

@[simp] theorem restored_eq (bytes : List UInt8) : restored bytes = bytes := by
  simp only [restored, ofPairs?_unmarked_marked, Option.get_some]

end Hex

end OrderNarration
