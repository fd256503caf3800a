import OrderNarration.Proofs.ReceiptGroups
import OrderNarration.Proofs.ScanAccount

/-!
# Records as JSON

A record is written out as one value, in which only the outermost values of its data are
turned into texts where JSON has no word for them. For the records of a narration this is
enough, and there is nothing to turn: their data is made of texts, positions and the price
of an order, which was read from JSON, so they are JSON values at every depth.
-/

namespace OrderNarration

/-- What JSON can spell stays as it is. -/
theorem Record.plainValue_of_isJson {v : Value} (json : v.IsJson) : plainValue v = v := by
  cases json with
  | _ => rfl

theorem Narration.optionalText_isJson (t : Option Text) : (optionalText t).IsJson := by
  cases t with
  | none => exact .null
  | some t => exact .text t

namespace Record

/-- All that the record states as data is made of JSON values. -/
def HoldsJson (r : Record) : Prop := ∀ e ∈ r.data, e.2.IsJson

/-- The record can be written as JSON: the value that it is as a whole is made of JSON values at
every depth, no datum has to be turned into a text for it, and the data stands in it unchanged. -/
structure Serialises (r : Record) : Prop where
  value : r.toValue.IsJson
  plain : r.plainData = r.data
  data : r.toValue.field "data" = .ok (.mapping r.data)

theorem plainData_of_holdsJson {r : Record} (json : r.HoldsJson) : r.plainData = r.data := by
  rw [plainData]
  refine (List.map_congr_left fun e he => ?_).trans (List.map_id _)
  rw [plainValue_of_isJson (json e he)]
  rfl

theorem serialises_of_holdsJson {r : Record} (index : r.index.IsJson) (json : r.HoldsJson) :
    r.Serialises := by
  have hdata := plainData_of_holdsJson json
  have hfield : r.toValue.field "data" = .ok (.mapping r.plainData) := rfl
  refine ⟨.mapping ?_, hdata, hdata ▸ hfield⟩
  rw [hdata]
  simp only [List.forall_mem_cons, List.not_mem_nil, false_implies, implies_true, and_true]
  exact ⟨.text _, .text _, index, Narration.optionalText_isJson r.topic,
    Narration.optionalText_isJson r.hash, .mapping json⟩

end Record

/-- The price of an order that was found is a JSON value. -/
theorem Resolution.find_price_isJson {node : Node} {hash : Text} {intent : OrderIntent}
    (h : (find node hash).outcome = .ok intent) : intent.context.price.IsJson := by
  obtain ⟨_, _, -, -, hintent⟩ := find_eq_ok_iff.mp h
  obtain ⟨chars, entries, hread, hentries⟩ := OrderIntent.exists_entries_of_ofValue hintent
  cases Json.read_isJson hread with
  | mapping all => exact all _ (Entries.mem_of_get? (OrderContext.get?_of_ofEntries hentries).1)

/-- A resolution reports an order only if it was found. -/
theorem Resolution.find_of_resolve {node : Node} {hash : Text} {r : Resolution}
    {intent : OrderIntent} (h : (resolve node hash).outcome = .ok r)
    (hintent : r.outcome = .ok intent) : (find node hash).outcome = .ok intent := by
  rw [resolve_outcome] at h
  cases hfind : (find node hash).outcome with
  | ok found =>
      rw [hfind] at h
      obtain rfl := Except.ok.inj h
      exact congrArg _ (Except.ok.inj hintent)
  | error e =>
      rw [hfind] at h
      dsimp only at h
      split at h
      · obtain rfl := Except.ok.inj h
        cases hintent
      · cases h

namespace Narration

variable {topics : TopicTable} {node : Node} {log : EventLog} {kind : EventKind}
  {place given value : Value} {hash : Option Text} {records : List Record}

/-- Of what the record of an order states only the price is no text of the narration's own. -/
theorem holdsJson_of_leg {l : Leg} {orderHash : Text} {r : Record}
    (h : (leg node (log.record kind place) l orderHash).outcome = .ok r) : r.HoldsJson := by
  rw [leg, Run.outcome_bind] at h
  obtain ⟨resolution, hresolve, h⟩ := Outcome.bind_eq_ok_iff.mp h
  split at h
  next intent hintent =>
    have hprice := Resolution.find_price_isJson (Resolution.find_of_resolve hresolve hintent)
    rw [Run.outcome_bind] at h
    obtain ⟨side, -, hr⟩ := Outcome.bind_eq_ok_iff.mp h
    obtain rfl := Except.ok.inj hr
    simp only [Record.HoldsJson, resolvedLeg, EventLog.record, List.forall_mem_cons,
      List.not_mem_nil, false_implies, implies_true, and_true]
    exact ⟨.text _, .text _, hprice, .text _, optionalText_isJson _, .text _⟩
  next wording _ =>
    obtain rfl := Except.ok.inj h
    simp only [Record.HoldsJson, unresolvedLeg, EventLog.record, List.forall_mem_cons,
      List.not_mem_nil, false_implies, implies_true, and_true]
    exact ⟨.text _, .text _, .text _⟩

theorem holdsJson_matchedPrice (t : Trade) : (matchedPrice log kind place t).HoldsJson := by
  simp only [Record.HoldsJson, matchedPrice, EventLog.record, List.forall_mem_cons,
    List.not_mem_nil, false_implies, implies_true, and_true]
  exact ⟨.text _, .text _⟩

/-- A log that is no trade states fixed words, its topic, and positions and texts of its list. -/
theorem holdsJson_of_narrates (h : log.Narrates topics place records) :
    ∀ r ∈ records, r.HoldsJson := by
  intro r hr
  cases h with
  | noData =>
      obtain rfl := List.mem_singleton.mp hr
      exact List.forall_mem_nil _
  | unknownTopic hkind =>
      obtain rfl := List.mem_singleton.mp hr
      exact List.forall_mem_singleton.mpr (optionalText_isJson _)
  | hashes hkind ids =>
      obtain ⟨i, hi, rfl⟩ := List.mem_mapIdx.mp hr
      exact List.forall_mem_cons.mpr ⟨.int _, List.forall_mem_singleton.mpr (.text _)⟩
  | silent => exact absurd hr List.not_mem_nil
  | _ =>
      obtain rfl := List.mem_singleton.mp hr
      exact List.forall_mem_singleton.mpr (.text _)

theorem holdsJson_of_log (h : (Narration.log topics node log given).outcome = .ok records) :
    ∀ r ∈ records, r.HoldsJson := by
  have shown := shown_of_log h
  by_cases htrade : ∃ t, log.IsTrade topics t
  · obtain ⟨t, htrade⟩ := htrade
    rw [log_of_trade shown htrade] at h
    obtain ⟨legs, hlegs, rfl⟩ := trade_eq_ok_iff.mp h
    simp only [List.forall_mem_cons, List.not_mem_nil, false_implies, implies_true, and_true]
    exact ⟨holdsJson_of_leg (hlegs .buy), holdsJson_of_leg (hlegs .sell),
      holdsJson_matchedPrice t⟩
  · obtain ⟨all, hnarrates, hall⟩ := log_of_no_trade shown (not_exists.mp htrade)
    obtain rfl := Except.ok.inj (h.symm.trans (hall node))
    exact holdsJson_of_narrates hnarrates

/-- In a group the position is a number, the header states no data, and the rest is what the log
narrates by itself. -/
theorem IsGroup.serialises {position : Nat} {group : List Record}
    (h : IsGroup topics node hash position value group) : ∀ r ∈ group, r.Serialises := by
  intro r hr
  have hindex : r.index.IsJson := by
    rw [h.index r hr]
    exact .int _
  obtain ⟨log, header, own, -, rfl, -, -, hdata, hown, -⟩ := h.narrated
  refine Record.serialises_of_holdsJson hindex ?_
  rcases List.mem_cons.mp hr with rfl | hr
  · rw [Record.HoldsJson, hdata]
    exact List.forall_mem_nil _
  · exact holdsJson_of_log hown r hr

theorem receipt_serialises (h : (receipt topics node value hash).outcome = .ok records) :
    ∀ r ∈ records, r.Serialises := by
  rw [receipt, Run.outcome_bind, Run.outcome_ofExcept] at h
  obtain ⟨values, -, hrest⟩ := Outcome.bind_eq_ok_iff.mp h
  intro r hr
  cases values with
  | nil =>
      obtain rfl := Except.ok.inj hrest
      obtain rfl := List.mem_singleton.mp hr
      exact Record.serialises_of_holdsJson .null (List.forall_mem_nil _)
  | cons first rest =>
      obtain ⟨groups, hgroups, rfl⟩ := entriesFrom_eq_ok_iff.mp hrest
      obtain ⟨group, hgroup, hr⟩ := List.mem_flatten.mp hr
      obtain ⟨i, hi⟩ := List.getElem?_of_mem hgroup
      obtain ⟨own, -, hown⟩ := hgroups.isGroup hi
      exact hown.serialises r hr

theorem transaction_serialises (h : (transaction topics node value).outcome = .ok records) :
    ∀ r ∈ records, r.Serialises := by
  rw [transaction, Run.outcome_bind, Run.outcome_ofExcept] at h
  obtain ⟨own, -, h⟩ := Outcome.bind_eq_ok_iff.mp h
  rw [Run.outcome_bind] at h
  obtain ⟨found, -, h⟩ := Outcome.bind_eq_ok_iff.mp h
  cases found with
  | none => cases h
  | some found => exact receipt_serialises h

end Narration

/-- All records of the trace can be written as JSON. -/
def Trace.Serialises (t : Trace) : Prop := ∀ r ∈ t.records, r.Serialises

namespace Scan

theorem mem_traces_after {α : Type} {r : Run α} {next : α → Scan} {t : Trace}
    (h : t ∈ (after r next).traces) : ∃ a, r.outcome = .ok a ∧ t ∈ (next a).traces := by
  cases houtcome : r.outcome with
  | ok a =>
      rw [after, houtcome] at h
      exact ⟨a, rfl, h⟩
  | error e =>
      rw [after, houtcome] at h
      cases h

theorem mem_traces_append {s : Scan} {next : Unit → Scan} {t : Trace}
    (h : t ∈ (s.append next).traces) : t ∈ s.traces ∨ t ∈ (next ()).traces := by
  rw [append] at h
  split at h
  · exact .inl h
  · exact List.mem_append.mp h

end Scan

namespace Narration

variable {topics : TopicTable} {node : Node} {value : Value} {t : Trace}

theorem visit_serialises {block : Int} {position : Nat}
    (h : (visit topics node block position value).outcome = .ok (some t)) : t.Serialises := by
  obtain ⟨f, hat, htrace, -⟩ := visit_of_ok topics block position h
  obtain rfl := Finding.trace?_eq_some_iff.mp htrace
  cases hat with
  | trace stated fetched narrated => exact receipt_serialises narrated

theorem scanEntries_serialises {block : Int} {position : Nat} {entries : List Value} :
    ∀ t ∈ (scanEntries topics node block position entries).traces, t.Serialises := by
  induction entries generalizing position with
  | nil => exact List.forall_mem_nil _
  | cons v rest ih =>
      intro t ht
      obtain ⟨trace, hvisit, ht⟩ := Scan.mem_traces_after ht
      rcases List.mem_append.mp ht with hown | hrest
      · obtain rfl := Option.mem_toList.mp hown
        exact visit_serialises hvisit
      · exact ih t hrest

theorem scanBlocks_serialises {number : Int} {count : Nat} :
    ∀ t ∈ (scanBlocks topics node number count).traces, t.Serialises := by
  induction count generalizing number with
  | zero => exact List.forall_mem_nil _
  | succ count ih =>
      intro t ht
      obtain ⟨entries, -, ht⟩ := Scan.mem_traces_after ht
      rcases Scan.mem_traces_append ht with hown | hrest
      · exact scanEntries_serialises t hown
      · exact ih t hrest

/-- Every record that is narrated can be written as JSON, and its data needs no change for that:
the records of a receipt, those of a transaction, and those of the traces of a scan, also of a
scan that a fault ended. -/
theorem narrated_records_serialise (topics : TopicTable) (node : Node) :
    (∀ value hash records, (receipt topics node value hash).outcome = .ok records →
      ∀ r ∈ records, r.Serialises) ∧
    (∀ hash records, (transaction topics node hash).outcome = .ok records →
      ∀ r ∈ records, r.Serialises) ∧
    (∀ first last traces, (range topics node first last).outcome = .ok traces →
      ∀ t ∈ traces, ∀ r ∈ t.records, r.Serialises) ∧
    ∀ (range : BlockRange), ∀ t ∈ (scanRange topics node range).traces,
      ∀ r ∈ t.records, r.Serialises := by
  refine ⟨fun _ _ _ => receipt_serialises, fun _ _ => transaction_serialises, ?_,
    fun _ => scanBlocks_serialises⟩
  intro first last traces h
  obtain ⟨range, -, -, rfl, -⟩ := scanRange_of_range h
  exact scanBlocks_serialises

end Narration

/-- An order whose price is a list of lists. -/
def nestedOrder : List UInt8 :=
  0x21 :: Utf8.encode "\x7b\"price\":[1,[null,\"a\"]],\"side\":0\x7d".toList

/-- A trade of two orders with nested prices, and two further logs. -/
theorem narrated_records_serialise_of_nested_price :
    ∃ records,
      (Narration.receipt tradeTable (orderNode nestedOrder) (receiptOf mixedEntries)
        none).outcome = .ok records ∧
      records.map Record.kind = [.logHeader, .tradeLeg, .tradeLeg, .matchedPrice, .logHeader,
        .skipped, .logHeader, .unknownTopic] ∧
      ∀ r ∈ records, r.Serialises := by
  have hkinds :
      (Narration.receipt tradeTable (orderNode nestedOrder) (receiptOf mixedEntries)
        none).outcome.toOption.map (List.map Record.kind) =
      some [.logHeader, .tradeLeg, .tradeLeg, .matchedPrice, .logHeader, .skipped, .logHeader,
        .unknownTopic] := by decide +kernel
  obtain ⟨records, hok, hkinds⟩ := exists_ok_of_kinds hkinds
  exact ⟨records, hok, hkinds,
    (Narration.narrated_records_serialise tradeTable (orderNode nestedOrder)).1 _ _ _ hok⟩

end OrderNarration
