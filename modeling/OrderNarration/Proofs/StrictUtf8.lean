import OrderNarration.Bytes.Utf8
import OrderNarration.Proofs.Runs

/-!
# Strict UTF-8

The reader accepts a byte string exactly if it is the UTF-8 form of a character
sequence, and it gives that sequence. Both directions go through the byte sequences
of single characters: the reader takes such a sequence off its input, and such a
sequence is what the character is written as. A text has a UTF-8 form exactly if no
surrogate stands alone in it.
-/

namespace OrderNarration.Utf8

section Lead

variable {b : UInt8}

theorem lead_eq_one_iff : lead b = .one ↔ b.toNat < 0x80 := by
  unfold lead
  simp only [UInt8.lt_iff_toNat_lt, ← UInt8.toNat_inj]
  repeat' split
  all_goals simp_all

theorem lead_eq_two_iff : lead b = .two ↔ 0xC2 ≤ b.toNat ∧ b.toNat < 0xE0 := by
  unfold lead
  simp only [UInt8.lt_iff_toNat_lt, ← UInt8.toNat_inj]
  repeat' split
  all_goals simp_all
  all_goals omega

/-- A lead byte of three with a second byte in its range: no overlong form and no surrogate. -/
theorem exists_lead_three_iff (b b₁ : UInt8) :
    (∃ low high, lead b = .three low high ∧ low ≤ b₁ ∧ b₁ ≤ high) ↔
      (0xE0 ≤ b.toNat ∧ b.toNat < 0xF0) ∧ (0x80 ≤ b₁.toNat ∧ b₁.toNat ≤ 0xBF) ∧
        (b.toNat = 0xE0 → 0xA0 ≤ b₁.toNat) ∧ (b.toNat = 0xED → b₁.toNat ≤ 0x9F) := by
  unfold lead
  simp only [UInt8.lt_iff_toNat_lt, ← UInt8.toNat_inj]
  repeat' split
  all_goals simp only [Lead.three.injEq, reduceCtorEq, false_and, exists_false, and_assoc,
    exists_and_left, exists_eq_left', false_iff, UInt8.le_iff_toNat_le, UInt8.reduceToNat] at *
  all_goals omega

/-- A lead byte of four with a second byte in its range: no overlong form and nothing above the
last scalar value. -/
theorem exists_lead_four_iff (b b₁ : UInt8) :
    (∃ low high, lead b = .four low high ∧ low ≤ b₁ ∧ b₁ ≤ high) ↔
      (0xF0 ≤ b.toNat ∧ b.toNat < 0xF5) ∧ (0x80 ≤ b₁.toNat ∧ b₁.toNat ≤ 0xBF) ∧
        (b.toNat = 0xF0 → 0x90 ≤ b₁.toNat) ∧ (b.toNat = 0xF4 → b₁.toNat ≤ 0x8F) := by
  unfold lead
  simp only [UInt8.lt_iff_toNat_lt, ← UInt8.toNat_inj]
  repeat' split
  all_goals simp only [Lead.four.injEq, reduceCtorEq, false_and, exists_false, and_assoc,
    exists_and_left, exists_eq_left', false_iff, UInt8.le_iff_toNat_le, UInt8.reduceToNat] at *
  all_goals omega

theorem isContinuation_iff : isContinuation b = true ↔ 0x80 ≤ b.toNat ∧ b.toNat ≤ 0xBF := by
  simp [isContinuation, UInt8.le_iff_toNat_le]

end Lead

/-- A byte sequence with the character that the reader makes of it. -/
inductive Spells : List UInt8 → Char → Prop
  | one {b : UInt8} (start : lead b = .one) : Spells [b] (Char.ofNat b.toNat)
  | two {b b₁ : UInt8} (start : lead b = .two) (second : isContinuation b₁ = true) :
      Spells [b, b₁] (assemble (b.toNat - 0xC0) [b₁])
  | three {b b₁ b₂ low high : UInt8} (start : lead b = .three low high)
      (second : low ≤ b₁ ∧ b₁ ≤ high) (third : isContinuation b₂ = true) :
      Spells [b, b₁, b₂] (assemble (b.toNat - 0xE0) [b₁, b₂])
  | four {b b₁ b₂ b₃ low high : UInt8} (start : lead b = .four low high)
      (second : low ≤ b₁ ∧ b₁ ≤ high) (third : isContinuation b₂ = true)
      (fourth : isContinuation b₃ = true) :
      Spells [b, b₁, b₂, b₃] (assemble (b.toNat - 0xF0) [b₁, b₂, b₃])

theorem Spells.decodeFrom_append {bytes : List UInt8} {c : Char} (h : Spells bytes c)
    (position : Nat) (rest : List UInt8) :
    decodeFrom position (bytes ++ rest) =
      (c :: ·) <$> decodeFrom (position + bytes.length) rest := by
  cases h with
  | one start =>
      rw [List.cons_append, List.nil_append, decodeFrom.eq_def]
      simp only [start]
      rfl
  | two start second =>
      simp only [List.cons_append, List.nil_append]
      rw [decodeFrom.eq_def]
      simp only [start, second, if_true]
      rfl
  | three start second third =>
      simp only [List.cons_append, List.nil_append]
      rw [decodeFrom.eq_def]
      simp only [start, second, third, and_self, if_true]
      rfl
  | four start second third fourth =>
      simp only [List.cons_append, List.nil_append]
      rw [decodeFrom.eq_def]
      simp only [start, second, third, fourth, and_self, if_true]
      rfl

theorem toNat_ofNat_of_isValidChar {n : Nat} (h : n.isValidChar) : (Char.ofNat n).toNat = n := by
  rw [Char.ofNat, dif_pos h]
  rfl

theorem ofNat_eq_toNat (b : UInt8) {n : Nat} (h : n = b.toNat) : UInt8.ofNat n = b := by
  rw [h, UInt8.ofNat_toNat]

/-- The sequence of a character is what the character is written as. -/
theorem Spells.utf8EncodeChar_eq {bytes : List UInt8} {c : Char} (h : Spells bytes c) :
    String.utf8EncodeChar c = bytes := by
  cases h with
  | @one b start =>
      have hb := lead_eq_one_iff.mp start
      have hvalue := toNat_ofNat_of_isValidChar (n := b.toNat) (Or.inl (by omega))
      change (Char.ofNat b.toNat).val.toNat = _ at hvalue
      simp only [String.utf8EncodeChar, hvalue]
      rw [if_pos (by omega), UInt8.ofNat_toNat]
  | @two b b₁ start second =>
      have hb := lead_eq_two_iff.mp start
      have hb₁ := isContinuation_iff.mp second
      have hvalue := toNat_ofNat_of_isValidChar (n := 64 * (b.toNat - 0xC0) + (b₁.toNat - 0x80))
        (Or.inl (by omega))
      change (assemble (b.toNat - 0xC0) [b₁]).val.toNat = _ at hvalue
      simp only [String.utf8EncodeChar, hvalue]
      rw [if_neg (by omega), if_pos (by omega), ofNat_eq_toNat b (by omega),
        ofNat_eq_toNat b₁ (by omega)]
  | @three b b₁ b₂ low high start second third =>
      obtain ⟨hb, hb₁, hE0, hED⟩ := (exists_lead_three_iff b b₁).mp ⟨low, high, start, second⟩
      have hb₂ := isContinuation_iff.mp third
      have hvalue := toNat_ofNat_of_isValidChar
        (n := 64 * (64 * (b.toNat - 0xE0) + (b₁.toNat - 0x80)) + (b₂.toNat - 0x80))
        (by unfold Nat.isValidChar; omega)
      change (assemble (b.toNat - 0xE0) [b₁, b₂]).val.toNat = _ at hvalue
      simp only [String.utf8EncodeChar, hvalue]
      rw [if_neg (by omega), if_neg (by omega), if_pos (by omega),
        ofNat_eq_toNat b (by omega), ofNat_eq_toNat b₁ (by omega),
        ofNat_eq_toNat b₂ (by omega)]
  | @four b b₁ b₂ b₃ low high start second third fourth =>
      obtain ⟨hb, hb₁, hF0, hF4⟩ := (exists_lead_four_iff b b₁).mp ⟨low, high, start, second⟩
      have hb₂ := isContinuation_iff.mp third
      have hb₃ := isContinuation_iff.mp fourth
      have hvalue := toNat_ofNat_of_isValidChar
        (n := 64 * (64 * (64 * (b.toNat - 0xF0) + (b₁.toNat - 0x80)) + (b₂.toNat - 0x80)) +
          (b₃.toNat - 0x80)) (by unfold Nat.isValidChar; omega)
      change (assemble (b.toNat - 0xF0) [b₁, b₂, b₃]).val.toNat = _ at hvalue
      simp only [String.utf8EncodeChar, hvalue]
      rw [if_neg (by omega), if_neg (by omega), if_neg (by omega),
        ofNat_eq_toNat b (by omega), ofNat_eq_toNat b₁ (by omega),
        ofNat_eq_toNat b₂ (by omega), ofNat_eq_toNat b₃ (by omega)]

section Written

variable {n : Nat}

theorem toNat_byte (h : n < 256) : (UInt8.ofNat n).toNat = n := UInt8.toNat_ofNat_of_lt h

theorem isContinuation_byte (n : Nat) : isContinuation (UInt8.ofNat (n % 64 + 0x80)) = true := by
  rw [isContinuation_iff, toNat_byte (by omega)]
  omega

theorem spells_one (h : n ≤ 0x7F) : Spells [UInt8.ofNat n] (Char.ofNat n) := by
  have hb : (UInt8.ofNat n).toNat = n := toNat_byte (by omega)
  have hspells := Spells.one (b := UInt8.ofNat n) (lead_eq_one_iff.mpr (by omega))
  rwa [hb] at hspells

theorem spells_two (h : 0x7F < n) (h' : n ≤ 0x7FF) :
    Spells [UInt8.ofNat (n / 64 % 32 + 0xC0), UInt8.ofNat (n % 64 + 0x80)] (Char.ofNat n) := by
  have hb : (UInt8.ofNat (n / 64 % 32 + 0xC0)).toNat = n / 64 + 0xC0 :=
    (toNat_byte (by omega)).trans (by omega)
  have hb₁ : (UInt8.ofNat (n % 64 + 0x80)).toNat = n % 64 + 0x80 := toNat_byte (by omega)
  have start : lead (UInt8.ofNat (n / 64 % 32 + 0xC0)) = .two := lead_eq_two_iff.mpr (by omega)
  have hspells := Spells.two start (isContinuation_byte n)
  have hvalue : 64 * (n / 64 + 0xC0 - 0xC0) + (n % 64 + 0x80 - 0x80) = n := by omega
  simpa only [assemble, List.foldl_cons, List.foldl_nil, hb, hb₁, hvalue] using hspells

theorem spells_three (h : 0x7FF < n) (h' : n ≤ 0xFFFF) (hscalar : n < 0xD800 ∨ 0xDFFF < n) :
    Spells [UInt8.ofNat (n / 4096 % 16 + 0xE0), UInt8.ofNat (n / 64 % 64 + 0x80),
      UInt8.ofNat (n % 64 + 0x80)] (Char.ofNat n) := by
  have hb : (UInt8.ofNat (n / 4096 % 16 + 0xE0)).toNat = n / 4096 + 0xE0 :=
    (toNat_byte (by omega)).trans (by omega)
  have hb₁ : (UInt8.ofNat (n / 64 % 64 + 0x80)).toNat = n / 64 % 64 + 0x80 :=
    toNat_byte (by omega)
  have hb₂ : (UInt8.ofNat (n % 64 + 0x80)).toNat = n % 64 + 0x80 := toNat_byte (by omega)
  obtain ⟨low, high, start, second⟩ := (exists_lead_three_iff
    (UInt8.ofNat (n / 4096 % 16 + 0xE0)) (UInt8.ofNat (n / 64 % 64 + 0x80))).mpr (by omega)
  have hspells := Spells.three start second (isContinuation_byte n)
  have hvalue : 64 * (64 * (n / 4096 + 0xE0 - 0xE0) + (n / 64 % 64 + 0x80 - 0x80)) +
      (n % 64 + 0x80 - 0x80) = n := by omega
  simpa only [assemble, List.foldl_cons, List.foldl_nil, hb, hb₁, hb₂, hvalue] using hspells

theorem spells_four (h : 0xFFFF < n) (h' : n < 0x110000) :
    Spells [UInt8.ofNat (n / 262144 % 8 + 0xF0), UInt8.ofNat (n / 4096 % 64 + 0x80),
      UInt8.ofNat (n / 64 % 64 + 0x80), UInt8.ofNat (n % 64 + 0x80)] (Char.ofNat n) := by
  have hb : (UInt8.ofNat (n / 262144 % 8 + 0xF0)).toNat = n / 262144 + 0xF0 :=
    (toNat_byte (by omega)).trans (by omega)
  have hb₁ : (UInt8.ofNat (n / 4096 % 64 + 0x80)).toNat = n / 4096 % 64 + 0x80 :=
    toNat_byte (by omega)
  have hb₂ : (UInt8.ofNat (n / 64 % 64 + 0x80)).toNat = n / 64 % 64 + 0x80 :=
    toNat_byte (by omega)
  have hb₃ : (UInt8.ofNat (n % 64 + 0x80)).toNat = n % 64 + 0x80 := toNat_byte (by omega)
  obtain ⟨low, high, start, second⟩ := (exists_lead_four_iff
    (UInt8.ofNat (n / 262144 % 8 + 0xF0)) (UInt8.ofNat (n / 4096 % 64 + 0x80))).mpr (by omega)
  have hspells := Spells.four start second (isContinuation_byte (n / 64)) (isContinuation_byte n)
  have hvalue : 64 * (64 * (64 * (n / 262144 + 0xF0 - 0xF0) + (n / 4096 % 64 + 0x80 - 0x80)) +
      (n / 64 % 64 + 0x80 - 0x80)) + (n % 64 + 0x80 - 0x80) = n := by omega
  simpa only [assemble, List.foldl_cons, List.foldl_nil, hb, hb₁, hb₂, hb₃, hvalue] using hspells

end Written

/-- What a character is written as is a sequence of the character. -/
theorem spells_utf8EncodeChar (c : Char) : Spells (String.utf8EncodeChar c) c := by
  have hscalar : c.val.toNat < 0xD800 ∨ 0xDFFF < c.val.toNat ∧ c.val.toNat < 0x110000 := c.valid
  have hchar : Char.ofNat c.val.toNat = c := Char.ofNat_toNat c
  generalize hn : c.val.toNat = n at hscalar hchar
  rw [String.utf8EncodeChar, hn, ← hchar]
  split
  next h₁ => exact spells_one h₁
  · split
    next h₁ h₂ => exact spells_two (by omega) h₂
    · split
      next h₂ h₃ => exact spells_three (by omega) h₃ (by omega)
      next h₃ => exact spells_four (by omega) (by omega)

theorem eq_encode_of_step {s rest : List UInt8} {c : Char} {chars : List Char}
    {r : Except Utf8Error (List Char)} (hs : Spells s c)
    (ih : ∀ {cs}, r = .ok cs → rest = encode cs)
    (h : (r >>= fun cs => pure (c :: cs)) = .ok chars) : s ++ rest = encode chars := by
  obtain ⟨cs, hcs, hchars⟩ := Outcome.bind_eq_ok_iff.mp h
  obtain rfl := Except.ok.inj hchars
  rw [encode, List.flatMap_cons, hs.utf8EncodeChar_eq, ih hcs, encode]

/-- A byte string that is read is the form of what was read. -/
theorem eq_encode_of_decodeFrom {position : Nat} {bytes : List UInt8} {chars : List Char}
    (h : decodeFrom position bytes = .ok chars) : bytes = encode chars := by
  fun_induction decodeFrom position bytes generalizing chars with
  | case1 =>
      obtain rfl := Except.ok.inj h
      rfl
  | case3 position b rest start ih => exact eq_encode_of_step (.one start) ih h
  | case5 position b start b₁ rest second ih => exact eq_encode_of_step (.two start second) ih h
  | case9 position b low high start b₁ second b₂ rest third ih =>
      exact eq_encode_of_step (.three start second third) ih h
  | case15 position b low high start b₁ second b₂ third b₃ rest fourth ih =>
      exact eq_encode_of_step (.four start second third fourth) ih h
  | _ => simp at h

theorem decodeFrom_encode (position : Nat) (chars : List Char) :
    decodeFrom position (encode chars) = .ok chars := by
  induction chars generalizing position with
  | nil => rfl
  | cons c rest ih =>
      rw [encode, List.flatMap_cons, (spells_utf8EncodeChar c).decodeFrom_append, ← encode, ih]
      rfl

/-- A byte string is read exactly as the characters whose form it is. -/
theorem decode_eq_ok_iff {bytes : List UInt8} {chars : List Char} :
    decode bytes = .ok chars ↔ bytes = encode chars := by
  constructor
  · exact eq_encode_of_decodeFrom
  · rintro rfl
    exact decodeFrom_encode 0 chars

/-- The bytes are the UTF-8 form of a character sequence. -/
def WellFormed (bytes : List UInt8) : Prop := ∃ chars, bytes = encode chars

theorem surrogateRun_ofChars (position : Nat) (chars : List Char) :
    surrogateRun position (Text.ofChars chars) = none := by
  induction chars generalizing position with
  | nil => rfl
  | cons c rest ih => exact ih (position + 1)

theorem exists_ofChars_of_surrogateRun {position : Nat} {t : Text}
    (h : surrogateRun position t = none) : ∃ chars, t = Text.ofChars chars := by
  induction t generalizing position with
  | nil => exact ⟨[], rfl⟩
  | cons c rest ih =>
      cases c with
      | scalar c =>
          obtain ⟨chars, rfl⟩ := ih h
          exact ⟨c :: chars, rfl⟩
      | surrogate k => simp [surrogateRun] at h

theorem encodeText_ofChars (chars : List Char) :
    encodeText (Text.ofChars chars) = .ok (encode chars) := by
  have hchars : (Text.ofChars chars).filterMap CodePoint.char? = chars := by
    rw [Text.ofChars, List.filterMap_map]
    exact List.filterMap_some
  rw [encodeText, surrogateRun_ofChars, hchars]

/-- A text has a UTF-8 form exactly if it consists of characters. -/
theorem encodeText_eq_ok_iff {t : Text} {bytes : List UInt8} :
    encodeText t = .ok bytes ↔ ∃ chars, t = Text.ofChars chars ∧ bytes = encode chars := by
  constructor
  · intro h
    cases hrun : surrogateRun 0 t with
    | some found => simp [encodeText, hrun] at h
    | none =>
        obtain ⟨chars, rfl⟩ := exists_ofChars_of_surrogateRun hrun
        rw [encodeText_ofChars] at h
        exact ⟨chars, rfl, (Except.ok.inj h).symm⟩
  · rintro ⟨chars, rfl, rfl⟩
    exact encodeText_ofChars chars

/-- A byte string is the UTF-8 form of one text only. -/
theorem encodeText_unique {t u : Text} {bytes : List UInt8} (h : encodeText t = .ok bytes)
    (h' : encodeText u = .ok bytes) : t = u := by
  obtain ⟨chars, rfl, hbytes⟩ := encodeText_eq_ok_iff.mp h
  obtain ⟨others, rfl, hothers⟩ := encodeText_eq_ok_iff.mp h'
  rw [Except.ok.inj ((decode_eq_ok_iff.mpr hbytes).symm.trans (decode_eq_ok_iff.mpr hothers))]

theorem wellFormed_iff {bytes : List UInt8} :
    WellFormed bytes ↔ ∃ t, encodeText t = .ok bytes := by
  constructor
  · rintro ⟨chars, rfl⟩
    exact ⟨Text.ofChars chars, encodeText_ofChars chars⟩
  · rintro ⟨t, h⟩
    obtain ⟨chars, -, rfl⟩ := encodeText_eq_ok_iff.mp h
    exact ⟨chars, rfl⟩

end OrderNarration.Utf8

namespace OrderNarration

/-- There is a lone surrogate in the text. -/
def Text.HasSurrogate (t : Text) : Prop := ∃ k, CodePoint.surrogate k ∈ t

namespace Text

variable {s t : Text}

theorem hasSurrogate_append : (s ++ t).HasSurrogate ↔ s.HasSurrogate ∨ t.HasSurrogate := by
  simp [HasSurrogate, exists_or]

theorem not_hasSurrogate_ofChars (chars : List Char) : ¬ (ofChars chars).HasSurrogate := by
  rintro ⟨k, hk⟩
  simp [ofChars] at hk

theorem not_hasSurrogate_ofString (s : String) : ¬ (ofString s).HasSurrogate :=
  not_hasSurrogate_ofChars _

theorem not_hasSurrogate_ofNat (n : Nat) : ¬ (ofNat n).HasSurrogate := not_hasSurrogate_ofChars _

theorem not_hasSurrogate_ofInt (n : Int) : ¬ (ofInt n).HasSurrogate := by
  cases n with
  | ofNat n => exact not_hasSurrogate_ofNat n
  | negSucc n =>
      exact hasSurrogate_append.not.mpr
        (not_or.mpr ⟨not_hasSurrogate_ofString _, not_hasSurrogate_ofNat _⟩)

theorem exists_ofChars_of_no_surrogate (h : ¬ t.HasSurrogate) : ∃ chars, t = ofChars chars := by
  induction t with
  | nil => exact ⟨[], rfl⟩
  | cons c rest ih =>
      obtain ⟨chars, rfl⟩ := ih fun ⟨k, hk⟩ => h ⟨k, List.mem_cons_of_mem _ hk⟩
      cases c with
      | scalar c => exact ⟨c :: chars, rfl⟩
      | surrogate k => exact absurd ⟨k, List.mem_cons_self⟩ h

end Text

/-- A text has a UTF-8 form exactly if there is no lone surrogate in it. -/
theorem Utf8.exists_encodeText_iff {t : Text} :
    (∃ bytes, encodeText t = .ok bytes) ↔ ¬ t.HasSurrogate := by
  constructor
  · rintro ⟨bytes, h⟩
    obtain ⟨chars, rfl, -⟩ := encodeText_eq_ok_iff.mp h
    exact Text.not_hasSurrogate_ofChars chars
  · intro h
    obtain ⟨chars, rfl⟩ := Text.exists_ofChars_of_no_surrogate h
    exact ⟨_, encodeText_ofChars chars⟩

theorem Utf8.exists_encodeText_error {t : Text} (h : t.HasSurrogate) :
    ∃ wording, encodeText t = .error wording := by
  cases hform : encodeText t with
  | ok bytes => exact absurd h (exists_encodeText_iff.mp ⟨bytes, hform⟩)
  | error wording => exact ⟨wording, rfl⟩

end OrderNarration
