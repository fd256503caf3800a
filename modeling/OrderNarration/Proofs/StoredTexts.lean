import OrderNarration.Proofs.StoredPayloads

/-!
# Stored texts

A byte string is read as a text exactly if it splits into sequences of the table of
well-formed UTF-8, and the text is the one with this UTF-8 form. The way through the
hexadecimal form changes nothing: the digits behind the marker give back the bytes.

## Implementation notes

The table is independent of the reader and of the writer. Both are compared with it
through the sequences that spell one character.
-/

namespace OrderNarration

namespace Utf8

/-- A range of bytes with both of its bounds. -/
structure ByteRange where
  low : UInt8
  high : UInt8

/-- The byte is in the range. -/
def ByteRange.Holds (r : ByteRange) (b : UInt8) : Prop := r.low ≤ b ∧ b ≤ r.high

/-- The bytes that follow a first one. -/
def following : ByteRange := ⟨0x80, 0xBF⟩

/-- The table of the well-formed sequences of one character, with the range of each byte in turn.
It has no overlong form, no surrogate and nothing above U+10FFFF. -/
def table : List (List ByteRange) :=
  [[⟨0x00, 0x7F⟩],
    [⟨0xC2, 0xDF⟩, following],
    [⟨0xE0, 0xE0⟩, ⟨0xA0, 0xBF⟩, following],
    [⟨0xE1, 0xEC⟩, following, following],
    [⟨0xED, 0xED⟩, ⟨0x80, 0x9F⟩, following],
    [⟨0xEE, 0xEF⟩, following, following],
    [⟨0xF0, 0xF0⟩, ⟨0x90, 0xBF⟩, following, following],
    [⟨0xF1, 0xF3⟩, following, following, following],
    [⟨0xF4, 0xF4⟩, ⟨0x80, 0x8F⟩, following, following]]

/-- The sequence fits a row of the table. -/
def Fits (s : List UInt8) : Prop := ∃ row ∈ table, List.Forall₂ ByteRange.Holds row s

/-- The byte string splits into sequences of the table. -/
def Splits (bytes : List UInt8) : Prop :=
  ∃ parts : List (List UInt8), (∀ s ∈ parts, Fits s) ∧ bytes = parts.flatten

section Rows

variable {b b₁ b₂ b₃ : UInt8}

theorem ByteRange.holds_iff {low high : UInt8} :
    (ByteRange.mk low high).Holds b ↔ low.toNat ≤ b.toNat ∧ b.toNat ≤ high.toNat := by
  simp only [Holds, UInt8.le_iff_toNat_le]

theorem fits_one_iff : Fits [b] ↔ lead b = .one := by
  rw [lead_eq_one_iff]
  simp [Fits, table, ByteRange.holds_iff]
  omega

theorem fits_two_iff : Fits [b, b₁] ↔ lead b = .two ∧ isContinuation b₁ = true := by
  rw [lead_eq_two_iff, isContinuation_iff]
  simp [Fits, table, following, ByteRange.holds_iff]
  omega

theorem fits_three_iff : Fits [b, b₁, b₂] ↔
    (∃ low high, lead b = .three low high ∧ low ≤ b₁ ∧ b₁ ≤ high) ∧ isContinuation b₂ = true := by
  rw [exists_lead_three_iff, isContinuation_iff]
  simp [Fits, table, following, ByteRange.holds_iff]
  omega

theorem fits_four_iff : Fits [b, b₁, b₂, b₃] ↔
    (∃ low high, lead b = .four low high ∧ low ≤ b₁ ∧ b₁ ≤ high) ∧
      isContinuation b₂ = true ∧ isContinuation b₃ = true := by
  rw [exists_lead_four_iff, isContinuation_iff, isContinuation_iff]
  simp [Fits, table, following, ByteRange.holds_iff]
  omega

theorem not_fits_nil : ¬ Fits [] := by
  simp [Fits, table]

theorem not_fits_five {b₄ : UInt8} {rest : List UInt8} :
    ¬ Fits (b :: b₁ :: b₂ :: b₃ :: b₄ :: rest) := by
  simp [Fits, table]

end Rows

/-- A sequence fits the table exactly if the reader makes a character of it. -/
theorem fits_iff_spells {s : List UInt8} : Fits s ↔ ∃ c, Spells s c := by
  constructor
  · intro h
    match s with
    | [] => exact absurd h not_fits_nil
    | [b] => exact ⟨_, .one (fits_one_iff.mp h)⟩
    | [b, b₁] =>
      obtain ⟨start, second⟩ := fits_two_iff.mp h
      exact ⟨_, .two start second⟩
    | [b, b₁, b₂] =>
      obtain ⟨⟨low, high, start, second⟩, third⟩ := fits_three_iff.mp h
      exact ⟨_, .three start second third⟩
    | [b, b₁, b₂, b₃] =>
      obtain ⟨⟨low, high, start, second⟩, third, fourth⟩ := fits_four_iff.mp h
      exact ⟨_, .four start second third fourth⟩
    | b :: b₁ :: b₂ :: b₃ :: b₄ :: rest => exact absurd h not_fits_five
  · rintro ⟨c, h⟩
    cases h with
    | one start => exact fits_one_iff.mpr start
    | two start second => exact fits_two_iff.mpr ⟨start, second⟩
    | three start second third => exact fits_three_iff.mpr ⟨⟨_, _, start, second⟩, third⟩
    | four start second third fourth =>
      exact fits_four_iff.mpr ⟨⟨_, _, start, second⟩, third, fourth⟩

/-- The sequences of the table are what the characters are written as. -/
theorem fits_iff_utf8EncodeChar {s : List UInt8} :
    Fits s ↔ ∃ c, s = String.utf8EncodeChar c := by
  rw [fits_iff_spells]
  constructor
  · rintro ⟨c, h⟩
    exact ⟨c, h.utf8EncodeChar_eq.symm⟩
  · rintro ⟨c, rfl⟩
    exact ⟨c, spells_utf8EncodeChar c⟩

theorem exists_flatten_eq_encode {parts : List (List UInt8)} (h : ∀ s ∈ parts, Fits s) :
    ∃ chars, parts.flatten = encode chars := by
  induction parts with
  | nil => exact ⟨[], rfl⟩
  | cons s rest ih =>
      obtain ⟨hs, hrest⟩ := List.forall_mem_cons.mp h
      obtain ⟨c, rfl⟩ := fits_iff_utf8EncodeChar.mp hs
      obtain ⟨chars, hchars⟩ := ih hrest
      exact ⟨c :: chars, by rw [List.flatten_cons, hchars, encode, encode, List.flatMap_cons]⟩

/-- A byte string is well-formed exactly if the table says so. -/
theorem wellFormed_iff_splits {bytes : List UInt8} : WellFormed bytes ↔ Splits bytes := by
  constructor
  · rintro ⟨chars, rfl⟩
    refine ⟨chars.map String.utf8EncodeChar, ?_, List.flatMap_def⟩
    rw [List.forall_mem_map]
    exact fun c _ => fits_iff_utf8EncodeChar.mpr ⟨c, rfl⟩
  · rintro ⟨parts, hparts, rfl⟩
    exact exists_flatten_eq_encode hparts

end Utf8

namespace Payload

/-- What a payload reader refuses is reported as a malformed payload. -/
theorem malformedPayload_iff {α : Type} {r : Except PayloadError α} :
    (∃ e, r.mapError Fault.payload = .error e ∧ e.problemClass? = some .malformedPayload) ↔
      ¬ ∃ x, r = .ok x := by
  cases r with
  | ok x => simp
  | error cause => simp [Fault.problemClass?]

theorem exists_textOfBytes_iff {bytes : List UInt8} :
    (∃ t, textOfBytes bytes = .ok t) ↔ Utf8.Splits bytes := by
  simp only [textOfBytes_eq_ok_iff, ← Utf8.wellFormed_iff, Utf8.wellFormed_iff_splits]

/-- A stored text is read by strict UTF-8 decoding and nothing else. The digits behind the marker
are those of the bytes, and give them back. A text is read exactly if its UTF-8 form is the byte
string; there is one exactly if the byte string splits into sequences of the table, and all
others are malformed payloads. -/
theorem stored_text_read_exactly (bytes : List UInt8) :
    (Hex.unmarked (Hex.marked bytes) = Text.ofChars (Hex.encode bytes) ∧
      Hex.ofPairs? (Hex.unmarked (Hex.marked bytes)) = some bytes) ∧
    textOfValue (.bytes bytes) =
      ((Utf8.decode bytes).map Text.ofChars).mapError .elementNotText ∧
    (∀ t, textOfValue (.bytes bytes) = .ok t ↔ Utf8.encodeText t = .ok bytes) ∧
    ((∃ t, textOfValue (.bytes bytes) = .ok t) ↔ Utf8.Splits bytes) ∧
    ((∃ e, (textOfValue (.bytes bytes)).mapError Fault.payload = .error e ∧
      e.problemClass? = some .malformedPayload) ↔ ¬ Utf8.Splits bytes) := by
  have hread : (∃ t, textOfValue (.bytes bytes) = .ok t) ↔ Utf8.Splits bytes :=
    exists_textOfBytes_iff
  refine ⟨⟨Hex.unmarked_marked bytes, Hex.ofPairs?_unmarked_marked bytes⟩, ?_,
    fun t => textOfBytes_eq_ok_iff, hread, ?_⟩
  · rw [textOfValue, textOfBytes, Hex.restored_eq]
    cases Utf8.decode bytes <;> rfl
  · rw [malformedPayload_iff, hread]

/-- A text that begins like the marker is read with its beginning. -/
example : textOfValue (.bytes [0x30, 0x78, 0xC3, 0xA9]) = .ok "0xé" := by decide +kernel

end Payload

end OrderNarration
