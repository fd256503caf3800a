import OrderNarration.EventLog
import OrderNarration.Proofs.CanonicalRlp
import OrderNarration.Proofs.EtherFractions
import OrderNarration.Proofs.StrictUtf8

/-!
# What payloads store

A trade is read from the canonical encoding of a list of fourteen items, three of which
are looked at; a list of order hashes is read from the encoding of a flat list. In both
cases the condition on the data is exact, and what is read is told by the items alone.
-/

namespace OrderNarration

namespace Hex

/-- Every byte of a marked text is two lowercase digits after the marker. -/
theorem marked_eq (bytes : List UInt8) :
    marked bytes = Text.ofChars ('0' :: 'x' :: bytes.flatMap fun b =>
      [Nat.digitChar (b.toNat / 16), Nat.digitChar (b.toNat % 16)]) := by
  have hdigit : ∀ k : Fin 16, digit k = Nat.digitChar k := by decide
  have hencode : encode bytes = bytes.flatMap fun b =>
      [Nat.digitChar (b.toNat / 16), Nat.digitChar (b.toNat % 16)] := by
    rw [encode]
    congr 1
    funext b
    have hb := b.toNat_lt
    rw [hdigit ⟨b.toNat / 16, by omega⟩, hdigit ⟨b.toNat % 16, by omega⟩]
  rw [marked, hencode]
  rfl

end Hex

namespace Payload

open Rlp

/-- The data is the canonical encoding of a list of items. -/
def Encodes (data : List UInt8) (items : List Item) : Prop :=
  (Item.encodeAll items).length < 2 ^ 64 ∧ data = (Item.list items).encode

/-- Bytes store the text whose UTF-8 form they are. -/
theorem textOfBytes_eq_ok_iff {bytes : List UInt8} {t : Text} :
    textOfBytes bytes = .ok t ↔ Utf8.encodeText t = .ok bytes := by
  rw [Utf8.encodeText_eq_ok_iff, textOfBytes, Hex.restored_eq]
  constructor
  · intro h
    cases hdecode : Utf8.decode bytes with
    | error cause => simp [hdecode] at h
    | ok chars =>
        rw [hdecode] at h
        exact ⟨chars, (Except.ok.inj h).symm, Utf8.decode_eq_ok_iff.mp hdecode⟩
  · rintro ⟨chars, rfl, hbytes⟩
    rw [Utf8.decode_eq_ok_iff.mpr hbytes]

theorem textOfItem_eq_ok_iff {x : Item} {t : Text} :
    textOfItem x = .ok t ↔ ∃ bytes, x = .bytes bytes ∧ Utf8.encodeText t = .ok bytes := by
  cases x with
  | list items => simp [textOfItem]
  | bytes bytes => simp [textOfItem, textOfBytes_eq_ok_iff]

theorem priceBytes_eq_ok_iff {x : Item} {price : List UInt8} :
    priceBytes x = .ok price ↔ x = .bytes price ∧ price.length ≤ maxPriceBytes := by
  cases x with
  | list items => simp [priceBytes]
  | bytes bytes =>
      rw [priceBytes]
      by_cases hwide : maxPriceBytes < bytes.length
      · rw [if_pos hwide]
        constructor
        · simp
        · rintro ⟨h, hle⟩
          obtain rfl := Item.bytes.inj h
          omega
      · rw [if_neg hwide]
        constructor
        · intro h
          obtain rfl := Except.ok.inj h
          exact ⟨rfl, Nat.le_of_not_lt hwide⟩
        · rintro ⟨h, -⟩
          rw [Item.bytes.inj h]

section Trade

/-- The items of a trade: there are fourteen of them, the hashes of the two orders are stored in
UTF-8, and the price is at most 32 bytes long. -/
structure IsTrade (items : List Item) (buy sell price : List UInt8) : Prop where
  count : items.length = 14
  buyAt : items[1]? = some (.bytes buy)
  sellAt : items[2]? = some (.bytes sell)
  priceAt : items[7]? = some (.bytes price)
  buyText : Utf8.WellFormed buy
  sellText : Utf8.WellFormed sell
  width : price.length ≤ 32

variable {data : List UInt8} {t : Trade}

/-- A trade is read from its list of fourteen items, three of which are looked at. -/
theorem readTrade_eq_ok_iff :
    readTrade data = .ok t ↔ ∃ items buy sell price, Encodes data items ∧
      IsTrade items buy sell price ∧
      Utf8.encodeText t.buyHash = .ok buy ∧ Utf8.encodeText t.sellHash = .ok sell ∧
      t.priceHex = Hex.marked price ∧ t.priceEther = Ether.ofWei (bigEndian price) := by
  rw [readTrade]
  simp only [Outcome.bind_eq_ok_iff, elements_eq_ok_iff]
  constructor
  · rintro ⟨items, hdata, h⟩
    split at h
    · simp only [Outcome.bind_eq_ok_iff, textOfItem_eq_ok_iff, priceBytes_eq_ok_iff] at h
      obtain ⟨buyHash, ⟨buy, rfl, hbuy⟩, sellHash, ⟨sell, rfl, hsell⟩, price,
        ⟨rfl, hwidth⟩, ht⟩ := h
      obtain rfl := Except.ok.inj ht
      exact ⟨_, buy, sell, price, hdata,
        ⟨rfl, rfl, rfl, rfl, Utf8.wellFormed_iff.mpr ⟨buyHash, hbuy⟩,
          Utf8.wellFormed_iff.mpr ⟨sellHash, hsell⟩, hwidth⟩, hbuy, hsell, rfl, rfl⟩
    · simp at h
  · rintro ⟨items, buy, sell, price, hdata, htrade, hbuy, hsell, hhex, hether⟩
    obtain ⟨hcount, hbuyAt, hsellAt, hpriceAt, -, -, hwidth⟩ := htrade
    refine ⟨items, hdata, ?_⟩
    match items, hcount with
    | [_, _, _, _, _, _, _, _, _, _, _, _, _, _], _ =>
      obtain rfl := Option.some.inj hbuyAt
      obtain rfl := Option.some.inj hsellAt
      obtain rfl := Option.some.inj hpriceAt
      simp only [Outcome.bind_eq_ok_iff, textOfItem_eq_ok_iff, priceBytes_eq_ok_iff]
      refine ⟨_, ⟨buy, rfl, hbuy⟩, _, ⟨sell, rfl, hsell⟩, price, ⟨rfl, hwidth⟩, ?_⟩
      rw [← hhex, ← hether]
      rfl

/-- The data of a trade is readable exactly if it encodes the items of a trade. -/
theorem exists_readTrade_iff :
    (∃ t, readTrade data = .ok t) ↔
      ∃ items buy sell price, Encodes data items ∧ IsTrade items buy sell price := by
  simp only [readTrade_eq_ok_iff]
  constructor
  · rintro ⟨t, items, buy, sell, price, hdata, htrade, -⟩
    exact ⟨items, buy, sell, price, hdata, htrade⟩
  · rintro ⟨items, buy, sell, price, hdata, htrade⟩
    obtain ⟨buyHash, hbuy⟩ := Utf8.wellFormed_iff.mp htrade.buyText
    obtain ⟨sellHash, hsell⟩ := Utf8.wellFormed_iff.mp htrade.sellText
    exact ⟨⟨buyHash, sellHash, Hex.marked price, Ether.ofWei (bigEndian price)⟩, items, buy, sell,
      price, hdata, htrade, hbuy, hsell, rfl, rfl⟩

/-- A price of at most 32 bytes fits into 256 bits. -/
theorem bigEndian_lt_limit {price : List UInt8} (h : price.length ≤ 32) :
    bigEndian price < Ether.limit := by
  calc
    bigEndian price < 256 ^ price.length := bigEndian_lt price
    _ ≤ 256 ^ 32 := Nat.pow_le_pow_right (by norm_num) h
    _ = Ether.limit := by norm_num [Ether.limit]

end Trade

section Hashes

variable {data : List UInt8} {ids : List Text}

theorem exists_bytes_of_forall₂ {items : List Item} {R : List UInt8 → Text → Prop}
    (h : List.Forall₂ (fun x id => ∃ bytes, x = .bytes bytes ∧ R bytes id) items ids) :
    ∃ elements : List (List UInt8), items = elements.map .bytes ∧ List.Forall₂ R elements ids := by
  induction h with
  | nil => exact ⟨[], rfl, .nil⟩
  | cons hx _ ih =>
      obtain ⟨bytes, rfl, hid⟩ := hx
      obtain ⟨elements, rfl, helements⟩ := ih
      exact ⟨bytes :: elements, rfl, .cons hid helements⟩

/-- The data is the canonical encoding of a flat list of byte strings, the UTF-8 forms of order
hashes. -/
def StoresHashes (data : List UInt8) (ids : List Text) : Prop :=
  ∃ elements, Encodes data (elements.map .bytes) ∧
    List.Forall₂ (fun bytes id => Utf8.encodeText id = .ok bytes) elements ids

/-- Order hashes are read exactly from data that stores them. -/
theorem readHashes_eq_ok_iff : readHashes data = .ok ids ↔ StoresHashes data ids := by
  rw [readHashes, StoresHashes]
  simp only [Outcome.bind_eq_ok_iff, elements_eq_ok_iff, Outcome.mapM_eq_ok_iff,
    textOfItem_eq_ok_iff]
  constructor
  · rintro ⟨items, hdata, h⟩
    obtain ⟨elements, rfl, helements⟩ := exists_bytes_of_forall₂ h
    exact ⟨elements, hdata, helements⟩
  · rintro ⟨elements, hdata, h⟩
    refine ⟨_, hdata, ?_⟩
    rw [List.forall₂_map_left_iff]
    exact h.imp fun bytes id hid => ⟨bytes, rfl, hid⟩

end Hashes

end Payload

/-- A trade tells the hashes and the price that are stored: the hashes as texts, and the price both
byte for byte and as an exact decimal fraction of an ether. -/
structure Trade.Tells (t : Trade) (buy sell price : List UInt8) : Prop where
  buyHash : Utf8.encodeText t.buyHash = .ok buy
  sellHash : Utf8.encodeText t.sellHash = .ok sell
  priceHex : t.priceHex = Text.ofChars ('0' :: 'x' :: price.flatMap fun b =>
    [Nat.digitChar (b.toNat / 16), Nat.digitChar (b.toNat % 16)])
  priceEther : ∃ d : DecimalFraction,
    t.priceEther = d.text ∧ d.value = (Rlp.bigEndian price : ℚ) / 10 ^ 18
  priceInRange : Ether.ofWei? (Rlp.bigEndian price) = some t.priceEther

namespace Payload

open Rlp

theorem Encodes.unique {data : List UInt8} {items others : List Item} (h : Encodes data items)
    (h' : Encodes data others) : items = others :=
  Except.ok.inj ((elements_eq_ok_iff.mpr h).symm.trans (elements_eq_ok_iff.mpr h'))

theorem IsTrade.unique {items : List Item} {buy sell price buy' sell' price' : List UInt8}
    (h : IsTrade items buy sell price) (h' : IsTrade items buy' sell' price') :
    buy = buy' ∧ sell = sell' ∧ price = price' := by
  have hbuy := Item.bytes.inj (Option.some.inj (h.buyAt.symm.trans h'.buyAt))
  have hsell := Item.bytes.inj (Option.some.inj (h.sellAt.symm.trans h'.sellAt))
  have hprice := Item.bytes.inj (Option.some.inj (h.priceAt.symm.trans h'.priceAt))
  exact ⟨hbuy, hsell, hprice⟩

/-- What was read as a trade tells what the items store. -/
theorem tells_of_readTrade {data : List UInt8} {t : Trade} {items : List Item}
    {buy sell price : List UInt8} (h : readTrade data = .ok t) (hdata : Encodes data items)
    (htrade : IsTrade items buy sell price) : t.Tells buy sell price := by
  obtain ⟨items', _, _, _, hdata', htrade', hbuy, hsell, hhex, hether⟩ := readTrade_eq_ok_iff.mp h
  obtain rfl := hdata.unique hdata'
  obtain ⟨rfl, rfl, rfl⟩ := htrade.unique htrade'
  have hlimit := bigEndian_lt_limit htrade.width
  have hrange : (0 : Int) ≤ (bigEndian price : Int) ∧ (bigEndian price : Int) < Ether.limit := by
    omega
  refine ⟨hbuy, hsell, hhex.trans (Hex.marked_eq price), ?_, ?_⟩
  · exact ⟨Ether.fractionOfWei (bigEndian price), hether.trans (Ether.ofWei_eq_text _),
      Ether.value_fractionOfWei _⟩
  · rw [Ether.ofWei?, if_pos hrange, Int.toNat_natCast, hether]

theorem ofValue_trades (data : List UInt8) :
    ofValue .trades (.bytes data) = (Payload.trade <$> readTrade data).mapError .payload := rfl

/-- The data of a trade is readable exactly if it encodes the items of a trade, and then it tells
what they store. On all other data the problem is that of a malformed payload. -/
theorem trade_read_exactly (data : List UInt8) :
    ((∃ p, ofValue .trades (.bytes data) = .ok p) ↔
      ∃ items buy sell price, Encodes data items ∧ IsTrade items buy sell price) ∧
    (∀ p items buy sell price, ofValue .trades (.bytes data) = .ok p → Encodes data items →
      IsTrade items buy sell price → ∃ t, p = .trade t ∧ t.Tells buy sell price) ∧
    ∀ e, ofValue .trades (.bytes data) = .error e → e.problemClass? = some .malformedPayload := by
  rw [← exists_readTrade_iff]
  simp only [ofValue_trades]
  cases hread : readTrade data with
  | ok t =>
      refine ⟨⟨fun _ => ⟨t, rfl⟩, fun _ => ⟨.trade t, rfl⟩⟩, ?_, ?_⟩
      · intro p items buy sell price hp hdata htrade
        exact ⟨t, (Except.ok.inj hp).symm, tells_of_readTrade hread hdata htrade⟩
      · intro e he
        simp at he
  | error cause =>
      refine ⟨⟨?_, ?_⟩, ?_, ?_⟩
      · rintro ⟨p, hp⟩
        simp at hp
      · rintro ⟨t, ht⟩
        simp at ht
      · intro p items buy sell price hp
        simp at hp
      · intro e he
        obtain rfl := Except.error.inj he
        rfl

/-- The items of a trade of the orders `A` and `é` at one wei, with nested lists and a leading
zero. -/
def nestedTrade : List Item :=
  [.list [.list []], .bytes [0x41], .bytes [0xC3, 0xA9], .list [], .bytes [], .bytes [], .bytes [],
    .bytes [0x00, 0x01], .bytes [], .bytes [], .bytes [], .bytes [], .bytes [], .bytes []]

theorem trade_read_exactly_nested :
    Encodes (Item.list nestedTrade).encode nestedTrade ∧
      IsTrade nestedTrade [0x41] [0xC3, 0xA9] [0x00, 0x01] ∧
      ∃ t, ofValue .trades (.bytes (Item.list nestedTrade).encode) = .ok (.trade t) ∧
        t.Tells [0x41] [0xC3, 0xA9] [0x00, 0x01] := by
  have hdata : Encodes (Item.list nestedTrade).encode nestedTrade := ⟨by decide +kernel, rfl⟩
  have htrade : IsTrade nestedTrade [0x41] [0xC3, 0xA9] [0x00, 0x01] :=
    ⟨rfl, rfl, rfl, rfl, ⟨['A'], by decide +kernel⟩, ⟨['é'], by decide +kernel⟩, by decide⟩
  obtain ⟨hiff, htells, -⟩ := trade_read_exactly (Item.list nestedTrade).encode
  obtain ⟨p, hp⟩ := hiff.mpr ⟨_, _, _, _, hdata, htrade⟩
  obtain ⟨t, rfl, ht⟩ := htells p _ _ _ _ hp hdata htrade
  exact ⟨hdata, htrade, t, hp, ht⟩

end Payload

end OrderNarration
