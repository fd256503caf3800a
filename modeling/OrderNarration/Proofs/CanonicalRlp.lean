import OrderNarration.Payload
import OrderNarration.Problem
import OrderNarration.Proofs.BigEndian
import OrderNarration.Proofs.Runs

/-!
# Canonical encodings

The reader accepts exactly the canonical encodings of items whose payload is
shorter than 2^64 bytes. What it announces for an item can reach past the end of
the input, so the reading of a part is related to an encoding only where the
announced length fits; the final comparison of lengths makes sure that it does.

## Implementation notes

A prefix is treated once for byte strings and lists: the two differ in the base
of their prefix byte and in the byte strings that need no prefix.
-/

namespace OrderNarration.Rlp

/-- The prefix byte of the empty byte string or of the empty list. -/
def prefixBase (isList : Bool) : Nat := if isList then 0xC0 else 0x80

/-- The error about a short payload with a long prefix. -/
def needlesslyLong (isList : Bool) : Error := if isList then .longFormList else .longFormString

/-- The bytes do not begin with one that stands for itself. -/
def NeedsPrefix (bytes : List UInt8) : Prop := ∃ c, bytes.head? = some c ∧ 0x80 ≤ c

theorem NeedsPrefix.append {bytes : List UInt8} (h : NeedsPrefix bytes) (rest : List UInt8) :
    NeedsPrefix (bytes ++ rest) := by
  obtain ⟨c, hhead, hc⟩ := h
  exact ⟨c, by simp [List.head?_append, hhead], hc⟩

theorem NeedsPrefix.take {bytes : List UInt8} (h : NeedsPrefix bytes) :
    NeedsPrefix (bytes.take 1) := by
  obtain ⟨c, hhead, hc⟩ := h
  exact ⟨c, by simpa [List.head?_take] using hhead, hc⟩

section Prefix

variable {isList : Bool} {n count : Nat} {b : UInt8} {rest unread : List UInt8}

/-- Every byte stands for itself, or it is a short prefix, or it says how many bytes spell the
length. -/
theorem prefixByte_cases (b : UInt8) :
    b < 0x80 ∨
      (∃ isList n, n < 56 ∧ b = UInt8.ofNat (prefixBase isList + n)) ∨
      ∃ isList count, 0 < count ∧ count ≤ 8 ∧
        b = UInt8.ofNat (prefixBase isList + 55 + count) := by
  have hb := b.toNat_lt
  have hofNat (k : Nat) (h : b.toNat = k) : b = UInt8.ofNat k := by
    rw [← h, UInt8.ofNat_toNat]
  rw [UInt8.lt_iff_toNat_lt]
  by_cases h₁ : b.toNat < 0x80
  · exact Or.inl h₁
  · by_cases h₂ : b.toNat < 0xB8
    · exact Or.inr (Or.inl ⟨false, b.toNat - 0x80, by omega,
        hofNat _ (by simp [prefixBase]; omega)⟩)
    · by_cases h₃ : b.toNat < 0xC0
      · exact Or.inr (Or.inr ⟨false, b.toNat - 0xB7, by omega, by omega,
          hofNat _ (by simp [prefixBase]; omega)⟩)
      · by_cases h₄ : b.toNat < 0xF8
        · exact Or.inr (Or.inl ⟨true, b.toNat - 0xC0, by omega,
            hofNat _ (by simp [prefixBase]; omega)⟩)
        · exact Or.inr (Or.inr ⟨true, b.toNat - 0xF7, by omega, by omega,
            hofNat _ (by simp [prefixBase]; omega)⟩)

theorem toNat_prefixByte (isList : Bool) {k : Nat} (h : k < 64) :
    (UInt8.ofNat (prefixBase isList + k)).toNat = prefixBase isList + k := by
  apply UInt8.toNat_ofNat_of_lt
  cases isList <;> simp [prefixBase, UInt8.size] <;> omega

theorem lengthPrefix_of_long {base : Nat} (h : ¬ n < 56) :
    lengthPrefix base n =
      UInt8.ofNat (base + 55 + (bigEndianBytes 8 n).length) :: bigEndianBytes 8 n := by
  simp [lengthPrefix, h]

theorem readPrefix_single (h : b < 0x80) : readPrefix (b :: rest) = .ok (.single b) := by
  simp [readPrefix, h]

theorem readPrefix_short (isList : Bool) (h : n < 56) (hone : isList = false → n ≠ 1) :
    readPrefix (UInt8.ofNat (prefixBase isList + n) :: rest) = .ok (.payload 1 isList n) := by
  have hb := toNat_prefixByte isList (show n < 64 by omega)
  generalize UInt8.ofNat (prefixBase isList + n) = b at hb
  have hlt (k : UInt8) : b < k ↔ prefixBase isList + n < k.toNat := by
    rw [UInt8.lt_iff_toNat_lt, hb]
  have heq (k : UInt8) : b = k ↔ prefixBase isList + n = k.toNat := by
    rw [← UInt8.toNat_inj, hb]
  cases isList with
  | false =>
      have hn := hone rfl
      have hrange : 0x80 + n < 0xB8 ∧ 0x80 + n ≠ 0x81 := by omega
      simp [readPrefix, hlt, heq, hb, prefixBase, hrange]
  | true =>
      have hrange : ¬ 0xC0 + n < 0x80 ∧ ¬ 0xC0 + n < 0xB8 ∧ ¬ 0xC0 + n < 0xC0 ∧
          0xC0 + n < 0xF8 := by
        omega
      simp [readPrefix, hlt, hb, prefixBase, hrange]

/-- The prefix of a single byte has to be needed. -/
theorem readPrefix_one {a : Announcement} :
    readPrefix (UInt8.ofNat (prefixBase false + 1) :: rest) = .ok a ↔
      a = .payload 1 false 1 ∧ NeedsPrefix rest := by
  cases rest with
  | nil => simp [readPrefix, prefixBase, NeedsPrefix]
  | cons c tail =>
      by_cases hc : c < 0x80
      · simp [readPrefix, prefixBase, NeedsPrefix, hc]
      · simp [readPrefix, prefixBase, NeedsPrefix, hc, UInt8.not_lt.mp hc, eq_comm]

theorem readPrefix_long (isList : Bool) (hpos : 0 < count) (h : count ≤ 8) :
    readPrefix (UInt8.ofNat (prefixBase isList + 55 + count) :: rest) =
      .payload (1 + count) isList <$> readLength count rest (needlesslyLong isList) := by
  have hb := toNat_prefixByte isList (show 55 + count < 64 by omega)
  rw [← Nat.add_assoc] at hb
  generalize UInt8.ofNat (prefixBase isList + 55 + count) = b at hb
  have hlt (k : UInt8) : b < k ↔ prefixBase isList + 55 + count < k.toNat := by
    rw [UInt8.lt_iff_toNat_lt, hb]
  cases isList with
  | false =>
      have hrange : ¬ 0xB7 + count < 0x80 ∧ ¬ 0xB7 + count < 0xB8 ∧ 0xB7 + count < 0xC0 := by
        omega
      have hcount : b.toNat - 0xB7 = count := by simp [hb, prefixBase]
      simp only [readPrefix, hlt, hcount, prefixBase, needlesslyLong, hrange, Bool.false_eq_true,
        if_true, if_false, Nat.reduceAdd, UInt8.reduceToNat, Outcome.pure_eq_ok]
      rfl
  | true =>
      have hrange : ¬ 0xF7 + count < 0x80 ∧ ¬ 0xF7 + count < 0xB8 ∧ ¬ 0xF7 + count < 0xC0 ∧
          ¬ 0xF7 + count < 0xF8 := by omega
      have hcount : b.toNat - 0xF7 = count := by simp [hb, prefixBase]
      simp only [readPrefix, hlt, hcount, prefixBase, needlesslyLong, hrange, if_true, if_false,
        Nat.reduceAdd, UInt8.reduceToNat, Outcome.pure_eq_ok]
      rfl

/-- The length that was spelled is read, whatever follows it. -/
theorem readLength_bigEndianBytes (hlong : ¬ n < 56) (h : n < 256 ^ 8) (rest : List UInt8)
    (tooLong : Error) :
    readLength (bigEndianBytes 8 n).length (bigEndianBytes 8 n ++ rest) tooLong = .ok n := by
  have hpos := length_bigEndianBytes_pos h (by omega)
  have hhead : (bigEndianBytes 8 n ++ rest).head? ≠ some 0 := by
    rw [List.head?_append_of_ne_nil _ (List.ne_nil_of_length_pos hpos)]
    exact head?_bigEndianBytes h
  rw [readLength, if_neg hhead, List.take_left, bigEndian_bigEndianBytes h]
  simp [hlong]

/-- Where the announced number of bytes is there, the bytes are those that spell the length. -/
theorem of_readLength {tooLong : Error} (hpos : 0 < count) (hcount : count ≤ 8)
    (fits : count ≤ rest.length) (h : readLength count rest tooLong = .ok n) :
    ¬ n < 56 ∧ n < 256 ^ 8 ∧ rest.take count = bigEndianBytes 8 n := by
  rw [readLength] at h
  split at h
  · simp at h
  next hzero =>
    dsimp only at h
    split at h
    · simp at h
    next hlong =>
      obtain rfl := Except.ok.inj h
      have hlength : (rest.take count).length = count := List.length_take_of_le fits
      have hhead : (rest.take count).head? ≠ some 0 := by
        rwa [List.head?_take, if_neg (by omega)]
      refine ⟨hlong, ?_, (bigEndianBytes_bigEndian (by omega) hhead).symm⟩
      calc
        bigEndian (rest.take count) < 256 ^ (rest.take count).length := bigEndian_lt _
        _ ≤ 256 ^ 8 := Nat.pow_le_pow_right (by norm_num) (by omega)

/-- A prefix is read back unless it announces a byte that needs none. -/
theorem readPrefix_lengthPrefix (isList : Bool) (rest : List UInt8) (h : n < 256 ^ 8)
    (needed : isList = false → n = 1 → NeedsPrefix rest) :
    readPrefix (lengthPrefix (prefixBase isList) n ++ rest) =
      .ok (.payload (lengthPrefix (prefixBase isList) n).length isList n) := by
  by_cases hshort : n < 56
  · simp only [lengthPrefix, if_pos hshort, List.singleton_append, List.length_singleton]
    by_cases hone : isList = false ∧ n = 1
    · obtain ⟨rfl, rfl⟩ := hone
      exact readPrefix_one.mpr ⟨rfl, needed rfl rfl⟩
    · exact readPrefix_short isList hshort fun hbytes hn => hone ⟨hbytes, hn⟩
  · simp only [lengthPrefix_of_long hshort, List.cons_append, List.length_cons]
    have hpos := length_bigEndianBytes_pos h (by omega)
    rw [readPrefix_long isList hpos (length_bigEndianBytes_le h),
      readLength_bigEndianBytes hshort h, Outcome.map_ok, Nat.add_comm]

/-- All that the reading of a prefix can give. -/
theorem readPrefix_cases {a : Announcement} (h : readPrefix unread = .ok a) :
    (∃ b rest, unread = b :: rest ∧ b < 0x80 ∧ a = .single b) ∨
      (∃ isList n rest, unread = UInt8.ofNat (prefixBase isList + n) :: rest ∧ n < 56 ∧
        (isList = false → n = 1 → NeedsPrefix rest) ∧ a = .payload 1 isList n) ∨
      ∃ isList count n rest, unread = UInt8.ofNat (prefixBase isList + 55 + count) :: rest ∧
        0 < count ∧ count ≤ 8 ∧ readLength count rest (needlesslyLong isList) = .ok n ∧
        a = .payload (1 + count) isList n := by
  cases unread with
  | nil => simp [readPrefix] at h
  | cons b rest =>
      rcases prefixByte_cases b with hsingle | ⟨isList, n, hn, rfl⟩ |
        ⟨isList, count, hpos, hcount, rfl⟩
      · rw [readPrefix_single hsingle] at h
        exact Or.inl ⟨b, rest, rfl, hsingle, (Except.ok.inj h).symm⟩
      · refine Or.inr (Or.inl ⟨isList, n, rest, rfl, hn, ?_⟩)
        by_cases hone : isList = false ∧ n = 1
        · obtain ⟨rfl, rfl⟩ := hone
          obtain ⟨ha, hneeded⟩ := readPrefix_one.mp h
          exact ⟨fun _ _ => hneeded, ha⟩
        · rw [readPrefix_short isList hn fun hbytes hone' => hone ⟨hbytes, hone'⟩] at h
          exact ⟨fun hbytes hone' => absurd ⟨hbytes, hone'⟩ hone, (Except.ok.inj h).symm⟩
      · rw [readPrefix_long isList hpos hcount] at h
        cases hlength : readLength count rest (needlesslyLong isList) with
        | error e => simp [hlength] at h
        | ok n =>
            rw [hlength] at h
            exact Or.inr (Or.inr ⟨isList, count, n, rest, rfl, hpos, hcount, hlength,
              (Except.ok.inj h).symm⟩)

theorem of_readPrefix_single (h : readPrefix unread = .ok (.single b)) :
    b < 0x80 ∧ unread.take 1 = [b] := by
  rcases readPrefix_cases h with ⟨c, rest, rfl, hc, ha⟩ | ⟨_, _, _, -, -, -, ha⟩ |
    ⟨_, _, _, _, -, -, -, -, ha⟩
  · obtain rfl := Announcement.single.inj ha
    exact ⟨hc, rfl⟩
  · simp at ha
  · simp at ha

/-- A prefix that was read and that fits is the one that spells the length. -/
theorem of_readPrefix {offset : Nat} (fits : offset ≤ unread.length)
    (h : readPrefix unread = .ok (.payload offset isList n)) :
    n < 256 ^ 8 ∧ (isList = false → n = 1 → NeedsPrefix (unread.drop offset)) ∧
      unread.take offset = lengthPrefix (prefixBase isList) n := by
  rcases readPrefix_cases h with ⟨_, _, -, -, ha⟩ | ⟨_, _, rest, rfl, hn, hneeded, ha⟩ |
    ⟨_, count, _, rest, rfl, hpos, hcount, hread, ha⟩
  · simp at ha
  · obtain ⟨rfl, rfl, rfl⟩ := Announcement.payload.inj ha
    exact ⟨by omega, hneeded, by simp [lengthPrefix, hn]⟩
  · obtain ⟨rfl, rfl, rfl⟩ := Announcement.payload.inj ha
    have hcountFits : count ≤ rest.length := by
      rw [List.length_cons] at fits
      omega
    obtain ⟨hlong, hn, htake⟩ := of_readLength hpos hcount hcountFits hread
    have hdigits : (bigEndianBytes 8 n).length = count := by
      rw [← htake, List.length_take_of_le hcountFits]
    refine ⟨hn, fun _ hone => by omega, ?_⟩
    rw [Nat.add_comm, List.take_succ_cons, htake, lengthPrefix_of_long hlong, hdigits]

/-- A prefix takes at least one byte. -/
theorem readPrefix_advances {offset : Nat}
    (h : readPrefix unread = .ok (.payload offset isList n)) : 0 < offset ∧ 0 < unread.length := by
  rcases readPrefix_cases h with ⟨_, _, -, -, ha⟩ | ⟨_, _, _, rfl, -, -, ha⟩ |
    ⟨_, _, _, _, rfl, -, -, -, ha⟩
  · simp at ha
  · obtain ⟨rfl, -, -⟩ := Announcement.payload.inj ha
    exact ⟨by omega, by simp⟩
  · obtain ⟨rfl, -, -⟩ := Announcement.payload.inj ha
    exact ⟨by omega, by simp⟩

end Prefix

/-- A byte string is a byte that stands for itself, or it is encoded with a prefix. -/
theorem encodeBytes_cases (bytes : List UInt8) :
    (∃ b, bytes = [b] ∧ b < 0x80 ∧ encodeBytes bytes = [b]) ∨
      encodeBytes bytes = lengthPrefix (prefixBase false) bytes.length ++ bytes ∧
        (bytes.length = 1 → NeedsPrefix bytes) := by
  match bytes with
  | [] => exact Or.inr ⟨rfl, by simp⟩
  | [b] =>
      by_cases hb : b < 0x80
      · exact Or.inl ⟨b, rfl, hb, by simp [encodeBytes, hb]⟩
      · exact Or.inr ⟨by simp [encodeBytes, hb, prefixBase],
          fun _ => ⟨b, rfl, UInt8.not_lt.mp hb⟩⟩
  | _ :: _ :: _ => exact Or.inr ⟨rfl, by simp⟩

theorem encodeBytes_of_needed (bytes : List UInt8) (h : bytes.length = 1 → NeedsPrefix bytes) :
    encodeBytes bytes = lengthPrefix (prefixBase false) bytes.length ++ bytes := by
  rcases encodeBytes_cases bytes with ⟨b, rfl, hb, -⟩ | ⟨hencode, -⟩
  · obtain ⟨c, hhead, hc⟩ := h rfl
    obtain rfl := Option.some.inj hhead
    exact absurd hb (UInt8.not_lt.mpr hc)
  · exact hencode

/-- What an item encodes after its prefix. -/
def Item.payload : Item → List UInt8
  | .bytes content => content
  | .list items => encodeAll items

theorem lengthPrefix_ne_nil (base n : Nat) : lengthPrefix base n ≠ [] := by
  rw [lengthPrefix]
  split <;> simp

theorem Item.encode_ne_nil (x : Item) : x.encode ≠ [] := by
  cases x with
  | bytes bytes =>
      rcases encodeBytes_cases bytes with ⟨b, -, -, hencode⟩ | ⟨hencode, -⟩
      · simp [Item.encode, hencode]
      · simp [Item.encode, hencode, lengthPrefix_ne_nil]
  | list items => simp [Item.encode, lengthPrefix_ne_nil]

theorem Item.length_payload_le (x : Item) : x.payload.length ≤ x.encode.length := by
  cases x with
  | bytes bytes =>
      rcases encodeBytes_cases bytes with ⟨b, rfl, -, hencode⟩ | ⟨hencode, -⟩
      · simp [Item.encode, Item.payload, hencode]
      · simp [Item.encode, Item.payload, hencode]
  | list items => simp [Item.encode, Item.payload]

mutual

/-- An item is read back from its encoding, whatever follows it. -/
theorem readItem_encode (x : Item) (fuel : Nat) (rest : List UInt8)
    (hfuel : 2 * x.encode.length ≤ fuel) (h : x.payload.length < 256 ^ 8) :
    readItem fuel (x.encode ++ rest) = .ok (x, x.encode.length) := by
  -- an item and the list around it take one off the fuel each, and every item has a byte
  have hpos := List.length_pos_of_ne_nil x.encode_ne_nil
  obtain ⟨fuel, rfl⟩ : ∃ k, fuel = k + 1 := ⟨fuel - 1, by omega⟩
  cases x with
  | bytes content =>
      rcases encodeBytes_cases content with ⟨b, rfl, hb, hencode⟩ | ⟨hencode, hneeded⟩
      · simp [readItem, Item.encode, hencode, readPrefix_single hb]
      · have hread := readPrefix_lengthPrefix false (content ++ rest) h fun _ hone =>
          (hneeded hone).append rest
        simp only [Item.payload] at hread
        simp [readItem, Item.encode, hencode, hread]
  | list items =>
      have hread := readPrefix_lengthPrefix true (Item.encodeAll items ++ rest) h (by simp)
      simp only [Item.payload] at hread h
      have hannounced := List.length_pos_of_ne_nil
        (lengthPrefix_ne_nil (prefixBase true) (Item.encodeAll items).length)
      have hencode : (Item.list items).encode =
          lengthPrefix (prefixBase true) (Item.encodeAll items).length ++ Item.encodeAll items := by
        simp [Item.encode, prefixBase]
      rw [hencode, List.length_append] at hfuel
      have hitems := readItems_encodeAll items fuel rest (by omega) h
      simp [readItem, hencode, hread, hitems]

/-- Items are read back from their encodings up to the announced length. -/
theorem readItems_encodeAll (items : List Item) (fuel : Nat) (rest : List UInt8)
    (hfuel : 2 * (Item.encodeAll items).length + 1 ≤ fuel)
    (h : (Item.encodeAll items).length < 256 ^ 8) :
    readItems fuel (Item.encodeAll items).length (Item.encodeAll items ++ rest) = .ok items := by
  obtain ⟨fuel, rfl⟩ : ∃ k, fuel = k + 1 := ⟨fuel - 1, by omega⟩
  cases items with
  | nil => simp [readItems, Item.encodeAll]
  | cons x others =>
      have hpos := List.length_pos_of_ne_nil x.encode_ne_nil
      have hpayload := x.length_payload_le
      simp only [Item.encodeAll, List.length_append] at hfuel h ⊢
      have hx := readItem_encode x fuel (Item.encodeAll others ++ rest) (by omega) (by omega)
      have hothers := readItems_encodeAll others fuel rest (by omega) (by omega)
      simp [readItems, x.encode_ne_nil, hx, hothers]

end

mutual

/-- An item whose announced length fits was read from its encoding. -/
theorem of_readItem {fuel n : Nat} {unread : List UInt8} {x : Item}
    (h : readItem fuel unread = .ok (x, n)) (fits : n ≤ unread.length) :
    x.payload.length < 256 ^ 8 ∧ unread.take n = x.encode := by
  cases fuel with
  | zero => simp [readItem] at h
  | succ fuel =>
      rw [readItem] at h
      cases hannounced : readPrefix unread with
      | error e => simp [hannounced] at h
      | ok announced =>
          cases announced with
          | single b =>
              simp only [hannounced] at h
              obtain ⟨rfl, rfl⟩ := Prod.mk.inj (Except.ok.inj h)
              obtain ⟨hb, htake⟩ := of_readPrefix_single hannounced
              exact ⟨by simp [Item.payload], by simp [htake, Item.encode, encodeBytes, hb]⟩
          | payload offset isList length =>
              cases isList with
              | false =>
                  simp only [hannounced] at h
                  obtain ⟨rfl, rfl⟩ := Prod.mk.inj (Except.ok.inj h)
                  obtain ⟨hlength, hneeded, htake⟩ := of_readPrefix (by omega) hannounced
                  -- a byte string that is cut short is ruled out because its length does not fit
                  have hcontent : ((unread.drop offset).take length).length = length := by
                    rw [List.length_take, List.length_drop]
                    omega
                  have hencode := encodeBytes_of_needed ((unread.drop offset).take length)
                    fun hone => by
                      rw [hcontent] at hone
                      subst hone
                      exact (hneeded rfl rfl).take
                  refine ⟨by rw [Item.payload, hcontent]; exact hlength, ?_⟩
                  rw [List.take_add, htake, Item.encode, hencode, hcontent]
              | true =>
                  simp only [hannounced, if_true] at h
                  obtain ⟨items, hitems, hpair⟩ := Outcome.bind_eq_ok_iff.mp h
                  obtain ⟨rfl, rfl⟩ := Prod.mk.inj (Except.ok.inj hpair)
                  obtain ⟨hlength, -, htake⟩ := of_readPrefix (by omega) hannounced
                  have hrest : length ≤ (unread.drop offset).length := by
                    rw [List.length_drop]
                    omega
                  have hpayload := of_readItems hitems hrest
                  have hcount : (Item.encodeAll items).length = length := by
                    rw [← hpayload, List.length_take_of_le hrest]
                  refine ⟨by rw [Item.payload, hcount]; exact hlength, ?_⟩
                  rw [List.take_add, htake, hpayload, Item.encode, hcount]
                  rfl

/-- Items whose announced length fits were read from their encodings. -/
theorem of_readItems {fuel length : Nat} {unread : List UInt8} {items : List Item}
    (h : readItems fuel length unread = .ok items) (fits : length ≤ unread.length) :
    unread.take length = Item.encodeAll items := by
  cases fuel with
  | zero => simp [readItems] at h
  | succ fuel =>
      rw [readItems] at h
      by_cases hzero : length = 0
      · rw [if_pos hzero] at h
        obtain rfl := Except.ok.inj h
        simp [hzero, Item.encodeAll]
      · rw [if_neg hzero] at h
        obtain ⟨⟨x, consumed⟩, hx, hothers⟩ := Outcome.bind_eq_ok_iff.mp h
        dsimp only at hothers
        split at hothers
        · simp at hothers
        next hconsumed =>
          obtain ⟨others, hread, hitems⟩ := Outcome.bind_eq_ok_iff.mp hothers
          obtain rfl := Except.ok.inj hitems
          obtain ⟨-, htake⟩ := of_readItem hx (by omega)
          have hrest := of_readItems hread (by rw [List.length_drop]; omega)
          have hlength : length = consumed + (length - consumed) := by omega
          rw [hlength, List.take_add, htake, hrest, Item.encodeAll]

end

/-- An item is read from its canonical encoding and from nothing else. -/
theorem read_eq_ok_iff {input : List UInt8} {x : Item} :
    read input = .ok x ↔ x.payload.length < 256 ^ 8 ∧ input = x.encode := by
  constructor
  · intro h
    obtain ⟨⟨y, consumed⟩, hitem, hend⟩ := Outcome.bind_eq_ok_iff.mp h
    dsimp only at hend
    split at hend
    next hconsumed =>
      obtain rfl := Except.ok.inj hend
      obtain ⟨hpayload, htake⟩ := of_readItem hitem hconsumed.le
      refine ⟨hpayload, ?_⟩
      rw [← htake, hconsumed, List.take_length]
    · simp at hend
  · rintro ⟨hpayload, rfl⟩
    have hitem := readItem_encode x (2 * x.encode.length + 2) [] (by omega) hpayload
    rw [List.append_nil] at hitem
    simp [read, hitem]

/-- An item that was read takes at least one byte. -/
theorem readItem_advances {fuel n : Nat} {unread : List UInt8} {x : Item}
    (h : readItem fuel unread = .ok (x, n)) : 0 < n ∧ 0 < unread.length := by
  cases fuel with
  | zero => simp [readItem] at h
  | succ fuel =>
      rw [readItem] at h
      cases hannounced : readPrefix unread with
      | error e => simp [hannounced] at h
      | ok announced =>
          cases announced with
          | single b =>
              simp only [hannounced] at h
              obtain ⟨-, rfl⟩ := Prod.mk.inj (Except.ok.inj h)
              refine ⟨by omega, List.length_pos_of_ne_nil ?_⟩
              rintro rfl
              simp [readPrefix] at hannounced
          | payload offset isList length =>
              have hoffset := readPrefix_advances hannounced
              cases isList with
              | false =>
                  simp only [hannounced] at h
                  obtain ⟨-, rfl⟩ := Prod.mk.inj (Except.ok.inj h)
                  omega
              | true =>
                  simp only [hannounced, if_true] at h
                  obtain ⟨items, -, hpair⟩ := Outcome.bind_eq_ok_iff.mp h
                  obtain ⟨-, rfl⟩ := Prod.mk.inj (Except.ok.inj hpair)
                  omega

mutual

/-- The fuel is never used up: more than two for a byte changes nothing. -/
theorem readItem_fuel (fuel more : Nat) {unread : List UInt8}
    (h : 2 * unread.length + 1 ≤ fuel) (hmore : 2 * unread.length + 1 ≤ more) :
    readItem fuel unread = readItem more unread := by
  obtain ⟨more, rfl⟩ : ∃ k, more = k + 1 := ⟨more - 1, by omega⟩
  cases fuel with
  | zero => omega
  | succ fuel =>
      rw [readItem, readItem]
      cases hannounced : readPrefix unread with
      | error e => rfl
      | ok announced =>
          cases announced with
          | single b => rfl
          | payload offset isList length =>
              have hoffset := readPrefix_advances hannounced
              have hdrop : (unread.drop offset).length < unread.length := by
                rw [List.length_drop]
                omega
              dsimp only
              rw [readItems_fuel fuel more (by omega) (by omega)]

/-- The fuel is never used up by a list either. -/
theorem readItems_fuel (fuel more : Nat) {length : Nat} {unread : List UInt8}
    (h : 2 * unread.length + 2 ≤ fuel) (hmore : 2 * unread.length + 2 ≤ more) :
    readItems fuel length unread = readItems more length unread := by
  obtain ⟨more, rfl⟩ : ∃ k, more = k + 1 := ⟨more - 1, by omega⟩
  cases fuel with
  | zero => omega
  | succ fuel =>
      rw [readItems, readItems, readItem_fuel fuel more (by omega) (by omega)]
      cases hread : readItem more unread with
      | error e => rfl
      | ok pair =>
          obtain ⟨x, consumed⟩ := pair
          have hconsumed := readItem_advances hread
          have hdrop : (unread.drop consumed).length < unread.length := by
            rw [List.length_drop]
            omega
          simp only [Outcome.ok_bind]
          rw [readItems_fuel fuel more (by omega) (by omega)]

end

end OrderNarration.Rlp

namespace OrderNarration.Payload

open Rlp

theorem elements_eq_ok_iff {data : List UInt8} {items : List Item} :
    elements data = .ok items ↔
      (Item.encodeAll items).length < 2 ^ 64 ∧ data = (Item.list items).encode := by
  have hread : elements data = .ok items ↔ Rlp.read data = .ok (.list items) := by
    rw [elements]
    cases Rlp.read data with
    | error e => simp
    | ok x => cases x <;> simp
  rw [hread, read_eq_ok_iff, Item.payload]
  norm_num

/-- Data gives elements exactly if it is the canonical encoding of their list. Data that is no
such encoding gives a problem of the class for malformed payloads, and no two data give the same
elements. -/
theorem elements_canonical (data : List UInt8) :
    (∀ items, elements data = .ok items ↔
      (Item.encodeAll items).length < 2 ^ 64 ∧ data = (Item.list items).encode) ∧
    (∀ items, (Item.list items).encode.length < 2 ^ 64 →
      elements (Item.list items).encode = .ok items) ∧
    ((¬ ∃ items, (Item.encodeAll items).length < 2 ^ 64 ∧ data = (Item.list items).encode) →
      ∃ e, elements data = .error e ∧
        (Fault.payload e).problemClass? = some .malformedPayload) ∧
    ∀ other items, elements data = .ok items → elements other = .ok items → data = other := by
  refine ⟨fun items => elements_eq_ok_iff, ?_, ?_, ?_⟩
  · intro items hshort
    have hpayload := (Item.list items).length_payload_le
    exact elements_eq_ok_iff.mpr ⟨hpayload.trans_lt hshort, rfl⟩
  · intro hother
    cases hread : elements data with
    | error e => exact ⟨e, rfl, rfl⟩
    | ok items => exact absurd ⟨items, elements_eq_ok_iff.mp hread⟩ hother
  · intro other items hdata hother
    rw [(elements_eq_ok_iff.mp hdata).2, (elements_eq_ok_iff.mp hother).2]

/-- A list of a byte and an empty list is read from its encoding. -/
theorem elements_canonical_nested :
    (Item.list [.bytes [1], .list []]).encode.length < 2 ^ 64 ∧
      elements [0xC2, 0x01, 0xC0] = .ok [.bytes [1], .list []] := by
  have hshort : (Item.list [.bytes [1], .list []]).encode.length < 2 ^ 64 := by decide +kernel
  exact ⟨hshort, (elements_canonical [0xC2, 0x01, 0xC0]).2.1 _ hshort⟩

end OrderNarration.Payload
