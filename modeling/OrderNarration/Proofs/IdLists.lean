import Mathlib.Data.Set.List
import OrderNarration.Proofs.LogShapes

/-!
# Lists of order hashes

The events that trigger and cancel orders store a list of hashes as texts, and nothing
else. A payload has one such list at most, and a list of texts has one payload: the
canonical encoding of the UTF-8 forms. One element that is no text spoils the whole list.

## Implementation notes

A text of the model can have lone surrogates, and it has no UTF-8 form then. The lists that
can be stored are lists of character sequences whose encoding is shorter than 2^64 bytes,
which is what a length prefix can announce.
-/

namespace OrderNarration

namespace Payload

open Rlp

variable {data data' : List UInt8} {ids : List Text}

/-- The items that store texts: their UTF-8 forms. -/
def storedTexts (texts : List (List Char)) : List Item :=
  texts.map fun text => .bytes (Utf8.encode text)

theorem forall₂_encodeText_iff {elements : List (List UInt8)} :
    List.Forall₂ (fun bytes id => Utf8.encodeText id = .ok bytes) elements ids ↔
      ∃ texts : List (List Char), elements = texts.map Utf8.encode ∧
        ids = texts.map Text.ofChars := by
  constructor
  · intro h
    induction h with
    | nil => exact ⟨[], rfl, rfl⟩
    | cons hid _ ih =>
        obtain ⟨text, rfl, rfl⟩ := Utf8.encodeText_eq_ok_iff.mp hid
        obtain ⟨texts, rfl, rfl⟩ := ih
        exact ⟨text :: texts, rfl, rfl⟩
  · rintro ⟨texts, rfl, rfl⟩
    rw [List.forall₂_map_left_iff, List.forall₂_map_right_iff, List.forall₂_same]
    exact fun text _ => Utf8.encodeText_ofChars text

/-- Data stores the hashes that are texts, each in the place of its UTF-8 form. -/
theorem storesHashes_iff :
    StoresHashes data ids ↔
      ∃ texts : List (List Char), ids = texts.map Text.ofChars ∧
        Encodes data (storedTexts texts) := by
  simp only [StoresHashes, forall₂_encodeText_iff]
  constructor
  · rintro ⟨_, hdata, texts, rfl, rfl⟩
    rw [List.map_map] at hdata
    exact ⟨texts, rfl, hdata⟩
  · rintro ⟨texts, rfl, hdata⟩
    refine ⟨_, ?_, texts, rfl, rfl⟩
    rw [List.map_map]
    exact hdata

theorem exists_storesHashes_iff :
    (∃ ids, StoresHashes data ids) ↔ ∃ elements : List (List UInt8),
      Encodes data (elements.map .bytes) ∧ ∀ bytes ∈ elements, Utf8.WellFormed bytes := by
  simp only [storesHashes_iff]
  constructor
  · rintro ⟨_, texts, rfl, hdata⟩
    refine ⟨texts.map Utf8.encode, by rwa [List.map_map], ?_⟩
    intro bytes hbytes
    obtain ⟨text, -, rfl⟩ := List.mem_map.mp hbytes
    exact ⟨text, rfl⟩
  · rintro ⟨elements, hdata, htexts⟩
    have hrange : elements ∈ Set.range (List.map Utf8.encode) := by
      rw [Set.range_list_map]
      intro bytes hbytes
      obtain ⟨text, rfl⟩ := htexts bytes hbytes
      exact ⟨text, rfl⟩
    obtain ⟨texts, rfl⟩ := hrange
    rw [List.map_map] at hdata
    exact ⟨_, texts, rfl, hdata⟩

/-- The same hashes are stored by the same data only. -/
theorem StoresHashes.unique (h : StoresHashes data ids) (h' : StoresHashes data' ids) :
    data = data' := by
  obtain ⟨texts, rfl, -, rfl⟩ := storesHashes_iff.mp h
  obtain ⟨others, hids, -, rfl⟩ := storesHashes_iff.mp h'
  rw [List.map_injective_iff.mpr (fun _ _ => Text.ofChars_inj) hids]

/-- Lists of texts that are short enough to be stored, and no other lists, are stored by data. -/
theorem exists_data_iff :
    (∃ data, StoresHashes data ids) ↔
      ∃ texts : List (List Char), ids = texts.map Text.ofChars ∧
        (Item.encodeAll (storedTexts texts)).length < 2 ^ 64 := by
  simp only [storesHashes_iff]
  constructor
  · rintro ⟨_, texts, hids, hshort, -⟩
    exact ⟨texts, hids, hshort⟩
  · rintro ⟨texts, hids, hshort⟩
    exact ⟨_, texts, hids, hshort, rfl⟩

/-- Payloads of the kind and lists of hashes correspond to each other: a payload is accepted exactly
if it is a flat list of byte strings in UTF-8, whose texts are the hashes in their order, and a list
of hashes that can be stored has one payload. Anything else is malformed. -/
structure ReadsIds (kind : EventKind) (list : List Text → Payload) : Prop where
  accepts : ∀ v, (∃ p, ofValue kind v = .ok p) ↔
    ∃ (data : List UInt8) (elements : List (List UInt8)), v = .bytes data ∧
      Encodes data (elements.map .bytes) ∧ ∀ bytes ∈ elements, Utf8.WellFormed bytes
  ids : ∀ (data : List UInt8) (elements : List (List UInt8)) p, Encodes data (elements.map .bytes) →
    ofValue kind (.bytes data) = .ok p →
    ∃ ids, p = list ids ∧
      List.Forall₂ (fun bytes id => Utf8.encodeText id = .ok bytes) elements ids
  obtained : ∀ ids, (∃ v, ofValue kind v = .ok (list ids)) ↔
    ∃ texts : List (List Char), ids = texts.map Text.ofChars ∧
      (Item.encodeAll (storedTexts texts)).length < 2 ^ 64
  unique : ∀ ids v v', ofValue kind v = .ok (list ids) → ofValue kind v' = .ok (list ids) → v = v'
  refused : ∀ v e, ofValue kind v = .error e → e.problemClass? = some .malformedPayload
  spoilt : ∀ data items x, Encodes data items → x ∈ items →
    (∀ bytes, x = .bytes bytes → ¬ Utf8.WellFormed bytes) →
    ∃ e, ofValue kind (.bytes data) = .error e ∧ e.problemClass? = some .malformedPayload

section Kinds

variable {kind : EventKind} {list : List Text → Payload}
  (reads : ∀ v, ofValue kind v =
    (dataOfValue v >>= fun data => list <$> readHashes data).mapError .payload)
include reads

theorem ofValue_eq_ok_iff {v : Value} {p : Payload} :
    ofValue kind v = .ok p ↔
      ∃ data ids, v = .bytes data ∧ StoresHashes data ids ∧ p = list ids := by
  rw [reads, Outcome.mapError_eq_ok_iff]
  simp only [Outcome.bind_eq_ok_iff, Outcome.map_eq_ok_iff, readHashes_eq_ok_iff]
  cases v with
  | bytes data => simp [dataOfValue, eq_comm]
  | _ => simp [dataOfValue]

theorem malformed_of_ofValue {v : Value} {e : Fault} (h : ofValue kind v = .error e) :
    e.problemClass? = some .malformedPayload := by
  rw [reads, Outcome.mapError_eq_error_iff] at h
  obtain ⟨cause, -, rfl⟩ := h
  rfl

theorem exists_ofValue_iff {v : Value} :
    (∃ p, ofValue kind v = .ok p) ↔ ∃ data, v = .bytes data ∧ ∃ ids, StoresHashes data ids := by
  simp only [ofValue_eq_ok_iff reads]
  constructor
  · rintro ⟨_, data, ids, hv, hids, -⟩
    exact ⟨data, hv, ids, hids⟩
  · rintro ⟨data, hv, ids, hids⟩
    exact ⟨_, data, ids, hv, hids, rfl⟩

theorem ofValue_eq_list_iff (injective : Function.Injective list) {v : Value} {ids : List Text} :
    ofValue kind v = .ok (list ids) ↔ ∃ data, v = .bytes data ∧ StoresHashes data ids := by
  rw [ofValue_eq_ok_iff reads]
  constructor
  · rintro ⟨data, ids', hv, hids, hlist⟩
    obtain rfl := injective hlist
    exact ⟨data, hv, hids⟩
  · rintro ⟨data, hv, hids⟩
    exact ⟨data, ids, hv, hids, rfl⟩

theorem readsIds (injective : Function.Injective list) : ReadsIds kind list := by
  constructor
  case accepts =>
    intro v
    simp only [exists_ofValue_iff reads, exists_storesHashes_iff, ← exists_and_left]
  case ids =>
    intro data elements p hdata hp
    obtain ⟨_, ids, hv, ⟨others, hothers, hids⟩, rfl⟩ := (ofValue_eq_ok_iff reads).mp hp
    obtain rfl := Value.bytes.inj hv
    obtain rfl := List.map_injective_iff.mpr (fun _ _ => Item.bytes.inj) (hdata.unique hothers)
    exact ⟨ids, rfl, hids⟩
  case obtained =>
    intro ids
    rw [← exists_data_iff]
    simp only [ofValue_eq_list_iff reads injective]
    constructor
    · rintro ⟨_, data, -, hids⟩
      exact ⟨data, hids⟩
    · rintro ⟨data, hids⟩
      exact ⟨_, data, rfl, hids⟩
  case unique =>
    intro ids v v' h h'
    obtain ⟨data, rfl, hids⟩ := (ofValue_eq_list_iff reads injective).mp h
    obtain ⟨data', rfl, hids'⟩ := (ofValue_eq_list_iff reads injective).mp h'
    rw [hids.unique hids']
  case refused => exact fun v e he => malformed_of_ofValue reads he
  case spoilt =>
    intro data items x hdata hx hbad
    cases hp : ofValue kind (.bytes data) with
    | error e => exact ⟨e, rfl, malformed_of_ofValue reads hp⟩
    | ok p =>
        obtain ⟨_, hv, hids⟩ := (exists_ofValue_iff reads).mp ⟨p, hp⟩
        obtain rfl := Value.bytes.inj hv
        obtain ⟨elements, helements, htexts⟩ := exists_storesHashes_iff.mp hids
        obtain rfl := hdata.unique helements
        obtain ⟨bytes, hbytes, rfl⟩ := List.mem_map.mp hx
        exact absurd (htexts bytes hbytes) (hbad bytes rfl)

end Kinds

end Payload

/-- The order hash that a record names. -/
def Record.id? (r : Record) : Option Value := Entries.get? "order_tx_hash" r.data

/-- The log is read as a list of order hashes. -/
def EventLog.TellsIds (topics : TopicTable) (log : EventLog) : Prop :=
  log.Speaks ∧ (log.classified topics).kind.hashRecord?.isSome ∧
    ∃ ids, Payload.StoresHashes log.data ids

namespace Narration

variable {topics topics' : TopicTable} {node node' : Node} {log log' : EventLog}
  {given given' : Value} {records records' : List Record}

theorem map_id?_hashes (log : EventLog) (kind : EventKind) (position : Value)
    (recordKind : RecordKind) (heading : Text) (ids : List Text) :
    (hashes (log.record kind position) recordKind heading ids).map Record.id? =
      ids.map fun id => some (.text id) := by
  apply List.ext_getElem?
  intro i
  rw [hashes, List.getElem?_map, List.getElem?_mapIdx, List.getElem?_map, Option.map_map]
  rfl

/-- The narration of a list names its hashes in their order. -/
theorem map_id?_log (h : (Narration.log topics node log given).outcome = .ok records)
    (tells : log.TellsIds topics) :
    ∃ ids, Payload.StoresHashes log.data ids ∧
      records.map Record.id? = ids.map fun id => some (.text id) := by
  obtain ⟨speaks, hkind, ids, hids⟩ := tells
  obtain ⟨recordKind, hkind⟩ := Option.isSome_iff_exists.mp hkind
  obtain ⟨heading, hlog⟩ : ∃ heading, (Narration.log topics node log given).outcome =
      .ok (hashes (log.record (log.classified topics).kind (log.position given)) recordKind
        heading ids) := log_of_hashes (shown_of_log h) speaks hkind hids
  obtain rfl := Except.ok.inj (h.symm.trans hlog)
  exact ⟨ids, hids, map_id?_hashes _ _ _ _ _ _⟩

/-- Lists that name the same hashes were read from the same data. -/
theorem data_eq_of_map_id? (h : (Narration.log topics node log given).outcome = .ok records)
    (h' : (Narration.log topics' node' log' given').outcome = .ok records')
    (tells : log.TellsIds topics) (tells' : log'.TellsIds topics')
    (same : records.map Record.id? = records'.map Record.id?) : log.data = log'.data := by
  obtain ⟨ids, hids, hnames⟩ := map_id?_log h tells
  obtain ⟨ids', hids', hnames'⟩ := map_id?_log h' tells'
  have hsame : ids = ids' := by
    refine List.map_injective_iff.mpr ?_ (hnames.symm.trans (same.trans hnames'))
    exact fun _ _ hid => Value.text.inj (Option.some.inj hid)
  obtain rfl := hsame
  exact hids.unique hids'

end Narration

namespace Payload

/-- Lists of order hashes and the payloads that store them correspond one to one, in the same way
for both kinds of list, and different payloads are never narrated with the same hashes. -/
theorem id_lists_correspond_to_payloads :
    ReadsIds .triggeredIds .triggered ∧ ReadsIds .canceledIds .canceled ∧
    (∀ v ids, ofValue .triggeredIds v = .ok (.triggered ids) ↔
      ofValue .canceledIds v = .ok (.canceled ids)) ∧
    ∀ (topics topics' : TopicTable) (node node' : Node) (log log' : EventLog)
      (given given' : Value) (records records' : List Record),
      log.TellsIds topics → log'.TellsIds topics' →
      (Narration.log topics node log given).outcome = .ok records →
      (Narration.log topics' node' log' given').outcome = .ok records' →
      records.map Record.id? = records'.map Record.id? → log.data = log'.data := by
  have htriggered : ∀ v, ofValue .triggeredIds v =
      (dataOfValue v >>= fun data => triggered <$> readHashes data).mapError .payload :=
    fun _ => rfl
  have hcanceled : ∀ v, ofValue .canceledIds v =
      (dataOfValue v >>= fun data => canceled <$> readHashes data).mapError .payload :=
    fun _ => rfl
  refine ⟨readsIds htriggered fun _ _ => triggered.inj, readsIds hcanceled fun _ _ => canceled.inj,
    ?_, ?_⟩
  · intro v ids
    simp only [ofValue_eq_ok_iff htriggered, ofValue_eq_ok_iff hcanceled, triggered.injEq,
      canceled.injEq]
  · intro _ _ _ _ _ _ _ _ _ _ tells tells' h h' same
    exact Narration.data_eq_of_map_id? h h' tells tells' same

/-- The only payload of the hashes `A` and `é`, and a payload that a nested list spoils. -/
theorem id_list_of_two_texts :
    let ids : List Text := ["A", "é"]
    let data : Value := .bytes [0xC4, 0x41, 0x82, 0xC3, 0xA9]
    (∀ v, ofValue .triggeredIds v = .ok (.triggered ids) ↔ v = data) ∧
      ∃ e, ofValue .canceledIds (.bytes [0xC2, 0x41, 0xC0]) = .error e ∧
        e.problemClass? = some .malformedPayload := by
  intro ids data
  obtain ⟨htriggered, hcanceled, -⟩ := id_lists_correspond_to_payloads
  have hview : (ofValue .triggeredIds data).toOption.map id = some (.triggered ids) := by
    decide +kernel
  obtain ⟨p, hp, hids⟩ := Outcome.exists_ok_of_view hview
  have hread : ofValue .triggeredIds data = .ok (.triggered ids) := hp.trans (congrArg _ hids)
  refine ⟨fun v => ⟨fun hv => htriggered.unique _ _ _ hv hread, ?_⟩, ?_⟩
  · rintro rfl
    exact hread
  · exact hcanceled.spoilt _ [.bytes [0x41], .list []] (.list []) ⟨by decide +kernel, rfl⟩
      (by simp) (by simp)

end Payload

end OrderNarration
