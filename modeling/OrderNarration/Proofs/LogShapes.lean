import OrderNarration.Proofs.LogContainment
import OrderNarration.Proofs.StoredPayloads

/-!
# The shape of a log's narration

Which records a log narrates is decided by its topics and its data, before the node is
asked for anything. The node is asked for the two orders of a readable trade and for
nothing else, and two nodes can differ only in the records of these two orders.

## Implementation notes

All statements are about narrations that have a result. When there is one is the matter
of containment, and the node has a say in that.
-/

namespace OrderNarration

@[simp] theorem Node.lookups_ask (node : Node) (lookup : Lookup) :
    (node.ask lookup).lookups = [lookup] := by
  unfold Node.ask
  dsimp only
  split
  · rfl
  · rfl
  · rfl
  · split
    · rfl
    · rfl

@[simp] theorem TopicTable.lookups_classify (table : TopicTable) (topic : Value) :
    (table.classify topic).lookups = [] := by
  rw [TopicTable.classify]
  split
  · rfl
  · rfl
  · rfl

namespace Resolution

theorem lookups_find (node : Node) (hash : Text) :
    (find node hash).lookups = [.transaction hash] := by
  rw [find, Run.lookups_bind_of_silent, Node.lookups_ask]
  intro found
  cases found with
  | none => rfl
  | some transaction => rfl

/-- An order is resolved by one lookup, of its transaction. -/
theorem lookups_resolve (node : Node) (hash : Text) :
    (resolve node hash).lookups = [.transaction hash] := by
  rw [resolve, Run.lookups_bind_of_ok (Run.outcome_note _ _ _), Run.lookups_note,
    List.nil_append, Run.lookups_bind_of_silent, Run.lookups_attempt, lookups_find]
  intro result
  split
  · rfl
  · split
    · rfl
    · rfl
    · split
      · rfl
      · rfl

end Resolution

/-- The kind of record that tells of one hash of a list. -/
def EventKind.hashRecord? : EventKind → Option RecordKind
  | triggeredIds => some .triggeredId
  | canceledIds => some .canceledId
  | _ => none

namespace Payload

/-- The data is the canonical encoding of the items of a trade. -/
def StoresTrade (data buy sell price : List UInt8) : Prop :=
  ∃ items, Encodes data items ∧ IsTrade items buy sell price

/-- The data is stored as its kind of event requires. Kinds that read nothing require nothing. -/
def Fits (kind : EventKind) (data : List UInt8) : Prop :=
  match kind with
  | .trades => ∃ buy sell price, StoresTrade data buy sell price
  | .triggeredIds | .canceledIds => ∃ ids, StoresHashes data ids
  | .cancel | .triggerAbove | .unknown => True

theorem readTrade_of_storesTrade {data buy sell price : List UInt8}
    (h : StoresTrade data buy sell price) :
    ∃ t, readTrade data = .ok t ∧ t.Tells buy sell price := by
  obtain ⟨items, hdata, htrade⟩ := h
  obtain ⟨t, ht⟩ := exists_readTrade_iff.mpr ⟨items, buy, sell, price, hdata, htrade⟩
  exact ⟨t, ht, tells_of_readTrade ht hdata htrade⟩

/-- Data can be read exactly if it is stored as its kind of event requires. -/
theorem exists_read_iff {kind : EventKind} {data : List UInt8} :
    (∃ p, read kind data = .ok p) ↔ Fits kind data := by
  cases kind with
  | trades =>
      rw [read, Outcome.exists_map_eq_ok_iff, exists_readTrade_iff, Fits]
      constructor
      · rintro ⟨items, buy, sell, price, h⟩
        exact ⟨buy, sell, price, items, h⟩
      · rintro ⟨buy, sell, price, items, h⟩
        exact ⟨items, buy, sell, price, h⟩
  | triggeredIds => simp only [read, Outcome.exists_map_eq_ok_iff, readHashes_eq_ok_iff, Fits]
  | canceledIds => simp only [read, Outcome.exists_map_eq_ok_iff, readHashes_eq_ok_iff, Fits]
  | _ => simp [read, Fits]

theorem read_error_of_not_fits {kind : EventKind} {data : List UInt8} (h : ¬ Fits kind data) :
    ∃ cause, read kind data = .error cause := by
  cases hread : read kind data with
  | ok p => exact absurd (exists_read_iff.mp ⟨p, hread⟩) h
  | error cause => exact ⟨cause, rfl⟩

end Payload

/-- The record is about a log of a kind at a position. -/
structure Record.IsAbout (r : Record) (log : EventLog) (kind : EventKind) (position : Value) :
    Prop where
  index : r.index = position
  topic : r.topic = some kind.label
  hash : r.hash = log.hash

/-- What the record of an order of a trade names, whatever became of the order. -/
def legNames (leg : Leg) (hash : Text) : Entries Value :=
  [("leg", .text leg.word), ("order_tx_hash", .text hash)]

/-- What the record of a hash in a list states. -/
def hashData (i : Nat) (hash : Text) : Entries Value :=
  [("index", .int i), ("order_tx_hash", .text hash)]

/-- The hash of an order of a trade. -/
def Trade.order (t : Trade) : Leg → Text
  | .buy => t.buyHash
  | .sell => t.sellHash

/-- The record is that of an order of a trade: the order, or why it could not be resolved. -/
structure Record.IsLeg (r : Record) (log : EventLog) (kind : EventKind) (position : Value)
    (leg : Leg) (hash : Text) : Prop where
  about : r.IsAbout log kind position
  kind : r.kind = .tradeLeg ∨ r.kind = .error
  names : r.data.take 2 = legNames leg hash

theorem EventLog.record_isAbout (log : EventLog) (kind : EventKind) (position : Value)
    (recordKind : RecordKind) (message : Text) (data : Entries Value) :
    (log.record kind position recordKind message data).IsAbout log kind position :=
  ⟨rfl, rfl, rfl⟩

namespace EventLog

/-- The log has at most one topic, and it has data: only then its kind matters. -/
def Speaks (log : EventLog) : Prop := log.topics.length ≤ 1 ∧ log.data ≠ []

/-- The topics and the data of a log make it a trade. -/
def IsTrade (topics : TopicTable) (log : EventLog) (t : Trade) : Prop :=
  log.Speaks ∧ (log.classified topics).kind = .trades ∧ Payload.readTrade log.data = .ok t

theorem checkTopics_eq_ok_iff {log : EventLog} :
    log.checkTopics = .ok () ↔ log.topics.length ≤ 1 := by
  rw [checkTopics]
  split
  next hmany => simp [Nat.not_le.mpr hmany]
  next hfew => simp [Nat.not_lt.mp hfew]

/-- What a log tells, as its topics and its data decide it: the records and the lookups of its
narration. -/
structure Decides (topics : TopicTable) (log : EventLog) (position : Value)
    (records : List Record) (lookups : List Lookup) : Prop where
  manyTopics : 1 < log.topics.length → records.map Record.kind = [.error] ∧ lookups = []
  noData : log.topics.length ≤ 1 → log.data = [] →
    records.map Record.kind = [.skipped] ∧ lookups = []
  hashes : log.Speaks → ∀ recordKind,
    (log.classified topics).kind.hashRecord? = some recordKind →
    ∀ ids, Payload.StoresHashes log.data ids →
      records.map Record.kind = List.replicate ids.length recordKind ∧
      records.map Record.data = ids.mapIdx hashData ∧ lookups = []
  trade : log.Speaks → (log.classified topics).kind = .trades →
    ∀ buy sell price, Payload.StoresTrade log.data buy sell price →
      ∃ t : Trade, t.Tells buy sell price ∧
        (∃ buyLeg sellLeg matched, records = [buyLeg, sellLeg, matched] ∧
          buyLeg.IsLeg log .trades position .buy t.buyHash ∧
          sellLeg.IsLeg log .trades position .sell t.sellHash ∧
          matched.kind = .matchedPrice) ∧
        lookups = [.transaction t.buyHash, .transaction t.sellHash]
  malformed : log.Speaks → ¬ Payload.Fits (log.classified topics).kind log.data →
    records.map Record.kind = [.error] ∧ lookups = []
  silent : log.Speaks →
    (log.classified topics).kind = .cancel ∨ (log.classified topics).kind = .triggerAbove →
    records = [] ∧ lookups = []
  unknownTopic : log.Speaks → (log.classified topics).kind = .unknown →
    records.map Record.kind = [.unknownTopic] ∧ lookups = []

/-- What a log narrates that is no trade: a problem of the log, the remark that it has no data, its
list of hashes, or nothing. -/
inductive Narrates (topics : TopicTable) (log : EventLog) (position : Value) : List Record → Prop
  | manyTopics : Narrates topics log position
      [log.record (log.classified topics).kind position .error
        ((LogProblem.manyTopics log.topics.length).message log)
        [("error", .text "UnsupportedMultiTopic")]]
  | noData : Narrates topics log position
      [log.record (log.classified topics).kind position .skipped "Skipping empty data field." []]
  | unknownTopic (hkind : (log.classified topics).kind = .unknown) : Narrates topics log position
      [log.record .unknown position .unknownTopic
        ((LogProblem.unknownTopic (log.classified topics).topic).message log)
        [("topic_hash", Narration.optionalText (log.classified topics).topic)]]
  | malformed {cause : PayloadError}
      (hread : Payload.read (log.classified topics).kind log.data = .error cause) :
      Narrates topics log position
        [log.record (log.classified topics).kind position .error
          ((LogProblem.malformed (log.classified topics).kind cause).message log)
          [("error", .text "MalformedPayload")]]
  | hashes {kind : EventKind} {recordKind : RecordKind}
      (hkind : kind.hashRecord? = some recordKind) (ids : List Text) :
      Narrates topics log position
        (Narration.hashes (log.record (log.classified topics).kind position) recordKind kind.label
          ids)
  | silent : Narrates topics log position []

/-- Two narrations of a log that differ in the records of its orders at most. -/
inductive AgreeUpToLegs (log : EventLog) (position : Value) : List Record → List Record → Prop
  | same (records : List Record) : AgreeUpToLegs log position records records
  | legs {buy sell buy' sell' : Record} {buyHash sellHash : Text} (matched : Record)
      (hbuy : buy.IsLeg log .trades position .buy buyHash)
      (hbuy' : buy'.IsLeg log .trades position .buy buyHash)
      (hsell : sell.IsLeg log .trades position .sell sellHash)
      (hsell' : sell'.IsLeg log .trades position .sell sellHash) :
      AgreeUpToLegs log position [buy, sell, matched] [buy', sell', matched]

end EventLog

namespace Narration

variable {topics : TopicTable} {node node' : Node} {log : EventLog} {kind : EventKind}
  {position given : Value} {records records' : List Record}

section Trade

variable {l : Leg} {hash : Text} {r : Record} {t : Trade}

/-- The record of an order of a trade is that of a resolved order or that of an unresolved one. -/
theorem leg_cases {record : RecordKind → Text → Entries Value → Record}
    (h : (leg node record l hash).outcome = .ok r) :
    (∃ intent side, r = resolvedLeg record l hash intent side) ∨
      ∃ wording, r = unresolvedLeg record l hash wording := by
  rw [leg, Run.outcome_bind] at h
  obtain ⟨resolution, -, h⟩ := Outcome.bind_eq_ok_iff.mp h
  split at h
  next intent _ =>
    rw [Run.outcome_bind] at h
    obtain ⟨side, -, hr⟩ := Outcome.bind_eq_ok_iff.mp h
    exact .inl ⟨intent, side, (Except.ok.inj hr).symm⟩
  next wording _ => exact .inr ⟨wording, (Except.ok.inj h).symm⟩

/-- An order of a trade that is narrated has one record, whatever the node answers. -/
theorem isLeg_of_leg (h : (leg node (log.record kind position) l hash).outcome = .ok r) :
    r.IsLeg log kind position l hash := by
  rcases leg_cases h with ⟨intent, side, rfl⟩ | ⟨wording, rfl⟩
  · exact ⟨log.record_isAbout _ _ _ _ _, .inl rfl, rfl⟩
  · exact ⟨log.record_isAbout _ _ _ _ _, .inr rfl, rfl⟩

/-- For an order of a trade the node is asked for its transaction and for nothing else. -/
theorem lookups_leg (node : Node) (record : RecordKind → Text → Entries Value → Record) (l : Leg)
    (hash : Text) : (leg node record l hash).lookups = [.transaction hash] := by
  rw [leg, Run.lookups_bind_of_silent, Resolution.lookups_resolve]
  intro resolution
  split
  · exact Run.lookups_bind_of_silent fun _ => rfl
  · rfl

/-- The record of the price of a trade. -/
def matchedPrice (log : EventLog) (kind : EventKind) (position : Value) (t : Trade) : Record :=
  log.record kind position .matchedPrice ("matched price: $" ++ t.priceEther)
    [("price_eth", .text t.priceEther), ("price_hex", .text t.priceHex)]

/-- A trade is narrated exactly if its two orders are, and then its records are theirs and that of
its price. -/
theorem trade_eq_ok_iff :
    (trade node (log.record kind position) t).outcome = .ok records ↔
      ∃ legs : Leg → Record,
        (∀ l, (leg node (log.record kind position) l (t.order l)).outcome = .ok (legs l)) ∧
        records = [legs .buy, legs .sell, matchedPrice log kind position t] := by
  rw [trade, Run.outcome_bind, Outcome.bind_eq_ok_iff]
  constructor
  · rintro ⟨buy, hbuy, h⟩
    rw [Run.outcome_bind] at h
    obtain ⟨sell, hsell, h⟩ := Outcome.bind_eq_ok_iff.mp h
    refine ⟨fun l => match l with | .buy => buy | .sell => sell, fun l => ?_,
      (Except.ok.inj h).symm⟩
    cases l with
    | buy => exact hbuy
    | sell => exact hsell
  · rintro ⟨legs, hlegs, rfl⟩
    refine ⟨legs .buy, hlegs .buy, ?_⟩
    rw [Run.outcome_bind]
    exact Outcome.bind_eq_ok_iff.mpr ⟨legs .sell, hlegs .sell, rfl⟩

/-- A trade that is narrated has the records of its two orders and of its price, and the node is
asked for both orders. -/
theorem trade_narrates (h : (trade node (log.record kind position) t).outcome = .ok records) :
    (∃ buy sell, records = [buy, sell, matchedPrice log kind position t] ∧
      buy.IsLeg log kind position .buy t.buyHash ∧
      sell.IsLeg log kind position .sell t.sellHash) ∧
    (trade node (log.record kind position) t).lookups =
      [.transaction t.buyHash, .transaction t.sellHash] := by
  obtain ⟨legs, hlegs, rfl⟩ := trade_eq_ok_iff.mp h
  refine ⟨⟨_, _, rfl, isLeg_of_leg (hlegs .buy), isLeg_of_leg (hlegs .sell)⟩, ?_⟩
  have hbuy : (leg node (log.record kind position) .buy t.buyHash).outcome = _ := hlegs .buy
  have hsell : (leg node (log.record kind position) .sell t.sellHash).outcome = _ := hlegs .sell
  rw [trade, Run.lookups_bind_of_ok hbuy, Run.lookups_bind_of_ok hsell, lookups_leg, lookups_leg]
  rfl

end Trade

/-- A narration that has a result could name the position of its log. -/
theorem shown_of_log (h : (Narration.log topics node log given).outcome = .ok records) :
    (log.position given).display?.isSome := by
  rw [Narration.log, Run.outcome_bind, TopicTable.classify_outcome, Outcome.ok_bind,
    Run.outcome_bind] at h
  obtain ⟨place, hplace, -⟩ := Outcome.bind_eq_ok_iff.mp h
  rw [Run.outcome_ofExcept, Value.shown] at hplace
  split at hplace
  next found => simp [found]
  · simp at hplace

/-- Only for a trade the node is asked for anything. -/
theorem lookups_log_of_no_trade (h : ∀ t, ¬ log.IsTrade topics t) :
    (Narration.log topics node log given).lookups = [] := by
  rw [Narration.log, Run.lookups_bind_of_ok (TopicTable.classify_outcome _ _),
    TopicTable.lookups_classify, List.nil_append, Run.lookups_bind_of_silent]
  · rfl
  intro place
  rw [Run.lookups_bind_of_silent]
  · rfl
  intro _
  split
  · rfl
  next hfew =>
    split
    · rfl
    next hdata =>
      split
      · rfl
      · split
        next p hread =>
          cases p with
          | trade t =>
              obtain ⟨hkind, ht⟩ := Payload.read_eq_trade hread
              exact absurd ⟨⟨EventLog.checkTopics_eq_ok_iff.mp hfew, hdata⟩, hkind, ht⟩ (h t)
          | triggered ids => rfl
          | canceled ids => rfl
          | empty => rfl
        · rfl

section Hashes

variable (log : EventLog) (kind : EventKind) (position : Value) (recordKind : RecordKind)
  (heading : Text) (ids : List Text)

theorem map_kind_hashes :
    (hashes (log.record kind position) recordKind heading ids).map Record.kind =
      List.replicate ids.length recordKind := by
  rw [List.eq_replicate_iff]
  constructor
  · simp [hashes]
  · intro k hk
    obtain ⟨r, hr, rfl⟩ := List.mem_map.mp hk
    obtain ⟨i, hi, rfl⟩ := List.mem_mapIdx.mp hr
    rfl

theorem map_data_hashes :
    (hashes (log.record kind position) recordKind heading ids).map Record.data =
      ids.mapIdx hashData := by
  apply List.ext_getElem?
  intro i
  rw [hashes, List.getElem?_map, List.getElem?_mapIdx, List.getElem?_mapIdx, Option.map_map]
  rfl

theorem hashes_isAbout :
    ∀ r ∈ hashes (log.record kind position) recordKind heading ids,
      r.IsAbout log kind position := by
  intro r hr
  obtain ⟨i, hi, rfl⟩ := List.mem_mapIdx.mp hr
  exact log.record_isAbout _ _ _ _ _

end Hashes

section Routes

variable (shown : (log.position given).display?.isSome)
include shown

theorem log_of_trade {t : Trade} (h : log.IsTrade topics t) :
    (Narration.log topics node log given).outcome =
      (trade node (log.record .trades (log.position given)) t).outcome := by
  obtain ⟨⟨hfew, hdata⟩, hkind, hread⟩ := h
  have hpayload : Payload.read (log.classified topics).kind log.data = .ok (.trade t) := by
    rw [hkind, Payload.read, hread, Outcome.map_ok]
  rw [log_of_payload shown hfew hdata (by simp [hkind]) hpayload, hkind]
  simp [payload]

theorem lookups_log_of_trade {t : Trade} (h : log.IsTrade topics t) :
    (Narration.log topics node log given).lookups =
      (trade node (log.record .trades (log.position given)) t).lookups := by
  obtain ⟨place, hplace⟩ := Option.isSome_iff_exists.mp shown
  obtain ⟨⟨hfew, hdata⟩, hkind, hread⟩ := h
  rw [EventLog.classified] at hkind
  rw [Narration.log, Run.lookups_bind_of_ok (TopicTable.classify_outcome _ _)]
  simp [Run.lookups_bind, Value.shown, hplace, EventLog.checkTopics, Nat.not_lt.mpr hfew, hdata,
    hkind, hread, Payload.read, payload]

/-- A log that is no trade narrates the same on every node. -/
theorem log_of_no_trade (h : ∀ t, ¬ log.IsTrade topics t) :
    ∃ records, log.Narrates topics (log.position given) records ∧
      ∀ node, (Narration.log topics node log given).outcome = .ok records := by
  by_cases hfew : log.topics.length ≤ 1
  · by_cases hdata : log.data = []
    · exact ⟨_, .noData, fun node => log_of_no_data shown hfew hdata⟩
    · by_cases hkind : (log.classified topics).kind = .unknown
      · exact ⟨_, .unknownTopic hkind, fun node => log_of_unknown_topic shown hfew hdata hkind⟩
      · cases hread : Payload.read (log.classified topics).kind log.data with
        | error cause =>
            exact ⟨_, .malformed hread, fun node => log_of_malformed shown hfew hdata hkind hread⟩
        | ok p =>
            cases p with
            | trade t =>
                obtain ⟨htrades, ht⟩ := Payload.read_eq_trade hread
                exact absurd ⟨⟨hfew, hdata⟩, htrades, ht⟩ (h t)
            | triggered ids =>
                exact ⟨_, .hashes (rfl : EventKind.triggeredIds.hashRecord? = _) ids,
                  fun node => log_of_payload shown hfew hdata hkind hread⟩
            | canceled ids =>
                exact ⟨_, .hashes (rfl : EventKind.canceledIds.hashRecord? = _) ids,
                  fun node => log_of_payload shown hfew hdata hkind hread⟩
            | empty =>
                exact ⟨_, .silent, fun node => log_of_payload shown hfew hdata hkind hread⟩
  · exact ⟨_, .manyTopics, fun node => log_of_many_topics shown (Nat.not_le.mp hfew)⟩

end Routes

/-- A list of order hashes has one record for each hash, in the order of the list. -/
theorem log_of_hashes {ids : List Text} {recordKind : RecordKind}
    (shown : (log.position given).display?.isSome) (speaks : log.Speaks)
    (hkind : (log.classified topics).kind.hashRecord? = some recordKind)
    (hids : Payload.StoresHashes log.data ids) :
    ∃ heading, (Narration.log topics node log given).outcome =
      .ok (hashes (log.record (log.classified topics).kind (log.position given)) recordKind
        heading ids) := by
  have hread := Payload.readHashes_eq_ok_iff.mpr hids
  cases hk : (log.classified topics).kind with
  | triggeredIds =>
      rw [hk] at hkind
      obtain rfl := Option.some.inj hkind
      refine ⟨EventKind.triggeredIds.label, ?_⟩
      rw [log_of_payload shown (p := .triggered ids) speaks.1 speaks.2 (by simp [hk])
        (by rw [hk, Payload.read, hread, Outcome.map_ok]), hk]
      rfl
  | canceledIds =>
      rw [hk] at hkind
      obtain rfl := Option.some.inj hkind
      refine ⟨EventKind.canceledIds.label, ?_⟩
      rw [log_of_payload shown (p := .canceled ids) speaks.1 speaks.2 (by simp [hk])
        (by rw [hk, Payload.read, hread, Outcome.map_ok]), hk]
      rfl
  | _ => simp [hk, EventKind.hashRecord?] at hkind

/-- Two nodes agree on what a log narrates, but for the records of its orders. -/
theorem log_agrees (h : (Narration.log topics node log given).outcome = .ok records)
    (h' : (Narration.log topics node' log given).outcome = .ok records') :
    log.AgreeUpToLegs (log.position given) records records' := by
  have shown := shown_of_log h
  by_cases htrade : ∃ t, log.IsTrade topics t
  · obtain ⟨t, htrade⟩ := htrade
    rw [log_of_trade shown htrade] at h h'
    obtain ⟨⟨buy, sell, rfl, hbuy, hsell⟩, -⟩ := trade_narrates h
    obtain ⟨⟨buy', sell', rfl, hbuy', hsell'⟩, -⟩ := trade_narrates h'
    exact .legs _ hbuy hbuy' hsell hsell'
  · obtain ⟨all, -, hall⟩ := log_of_no_trade shown (not_exists.mp htrade)
    obtain rfl := Except.ok.inj (h.symm.trans (hall node))
    obtain rfl := Except.ok.inj (h'.symm.trans (hall node'))
    exact .same _

theorem isAbout_of_narrates (h : log.Narrates topics position records) :
    ∀ r ∈ records, r.IsAbout log (log.classified topics).kind position := by
  intro r hr
  cases h with
  | hashes hkind ids => exact hashes_isAbout _ _ _ _ _ _ r hr
  | silent => exact absurd hr List.not_mem_nil
  | unknownTopic hkind =>
      obtain rfl := List.mem_singleton.mp hr
      rw [hkind]
      exact log.record_isAbout _ _ _ _ _
  | _ =>
      obtain rfl := List.mem_singleton.mp hr
      exact log.record_isAbout _ _ _ _ _

/-- All records of a narration name the log: its position, its topic and its transaction. -/
theorem log_isAbout (h : (Narration.log topics node log given).outcome = .ok records) :
    ∀ r ∈ records, r.IsAbout log (log.classified topics).kind (log.position given) := by
  have shown := shown_of_log h
  by_cases htrade : ∃ t, log.IsTrade topics t
  · obtain ⟨t, htrade⟩ := htrade
    rw [log_of_trade shown htrade] at h
    obtain ⟨⟨buy, sell, rfl, hbuy, hsell⟩, -⟩ := trade_narrates h
    rw [htrade.2.1]
    intro r hr
    simp only [List.mem_cons, List.not_mem_nil, or_false] at hr
    rcases hr with rfl | rfl | rfl
    · exact hbuy.about
    · exact hsell.about
    · exact log.record_isAbout _ _ _ _ _
  · obtain ⟨all, hnarrates, hall⟩ := log_of_no_trade shown (not_exists.mp htrade)
    obtain rfl := Except.ok.inj (h.symm.trans (hall node))
    exact isAbout_of_narrates hnarrates

/-- The records and the lookups of a narration are those that its log decides. -/
theorem log_decides (h : (Narration.log topics node log given).outcome = .ok records) :
    log.Decides topics (log.position given) records
      (Narration.log topics node log given).lookups := by
  have shown := shown_of_log h
  constructor
  case manyTopics =>
    intro hmany
    rw [log_of_many_topics shown hmany] at h
    obtain rfl := Except.ok.inj h
    refine ⟨rfl, lookups_log_of_no_trade ?_⟩
    rintro t ⟨⟨hfew, -⟩, -⟩
    omega
  case noData =>
    intro hfew hdata
    rw [log_of_no_data shown hfew hdata] at h
    obtain rfl := Except.ok.inj h
    refine ⟨rfl, lookups_log_of_no_trade ?_⟩
    rintro t ⟨⟨-, hsome⟩, -⟩
    exact hsome hdata
  case hashes =>
    intro speaks recordKind hkind ids hids
    obtain ⟨heading, hok⟩ := log_of_hashes shown speaks hkind hids
    obtain rfl := Except.ok.inj (hok.symm.trans h)
    refine ⟨map_kind_hashes _ _ _ _ _ _, map_data_hashes _ _ _ _ _ _, lookups_log_of_no_trade ?_⟩
    rintro t ⟨-, htrades, -⟩
    simp [htrades, EventKind.hashRecord?] at hkind
  case trade =>
    intro speaks hkind buy sell price hstored
    obtain ⟨t, ht, htells⟩ := Payload.readTrade_of_storesTrade hstored
    have htrade : log.IsTrade topics t := ⟨speaks, hkind, ht⟩
    rw [lookups_log_of_trade shown htrade]
    rw [log_of_trade shown htrade] at h
    obtain ⟨⟨buyLeg, sellLeg, rfl, hbuy, hsell⟩, hlookups⟩ := trade_narrates h
    exact ⟨t, htells, ⟨buyLeg, sellLeg, _, rfl, hbuy, hsell, rfl⟩, hlookups⟩
  case malformed =>
    intro speaks hfits
    obtain ⟨cause, hread⟩ := Payload.read_error_of_not_fits hfits
    have hkind : (log.classified topics).kind ≠ .unknown := by
      intro hunknown
      exact hfits (by simp [hunknown, Payload.Fits])
    rw [log_of_malformed shown speaks.1 speaks.2 hkind hread] at h
    obtain rfl := Except.ok.inj h
    refine ⟨rfl, lookups_log_of_no_trade ?_⟩
    rintro t ⟨-, htrades, ht⟩
    simp [htrades, Payload.read, ht] at hread
  case silent =>
    intro speaks hkind
    have hread : Payload.read (log.classified topics).kind log.data = .ok .empty := by
      rcases hkind with hkind | hkind
      · rw [hkind, Payload.read]
      · rw [hkind, Payload.read]
    have hknown : (log.classified topics).kind ≠ .unknown := by
      rcases hkind with hkind | hkind
      · simp [hkind]
      · simp [hkind]
    rw [log_of_payload shown speaks.1 speaks.2 hknown hread] at h
    obtain rfl := Except.ok.inj h
    refine ⟨rfl, lookups_log_of_no_trade ?_⟩
    rintro t ⟨-, htrades, -⟩
    simp [htrades] at hkind
  case unknownTopic =>
    intro speaks hkind
    rw [log_of_unknown_topic shown speaks.1 speaks.2 hkind] at h
    obtain rfl := Except.ok.inj h
    refine ⟨rfl, lookups_log_of_no_trade ?_⟩
    rintro t ⟨-, htrades, -⟩
    simp [htrades] at hkind

/-- A narration that has a result is decided by its log: which records there are, what they name
and which orders are asked for. The node has a say in the records of the two orders of a trade
only; what is no trade narrates the same on every node. -/
theorem log_decided_by_log_alone
    (h : (Narration.log topics node log given).outcome = .ok records) :
    log.Decides topics (log.position given) records
        (Narration.log topics node log given).lookups ∧
      (∀ node' records', (Narration.log topics node' log given).outcome = .ok records' →
        log.AgreeUpToLegs (log.position given) records records') ∧
      ((∀ t, ¬ log.IsTrade topics t) →
        ∀ node', (Narration.log topics node' log given).outcome = .ok records) := by
  refine ⟨log_decides h, fun _ _ => log_agrees h, ?_⟩
  intro htrade node'
  obtain ⟨all, -, hall⟩ := log_of_no_trade (shown_of_log h) htrade
  obtain rfl := Except.ok.inj (h.symm.trans (hall node))
  exact hall node'

end Narration

/-- An order to buy at a price of 5. -/
def buyOrder : List UInt8 := 0x21 :: Utf8.encode "\x7b\"price\":5,\"side\":0\x7d".toList

/-- A narration whose records have kinds has records. -/
theorem exists_ok_of_kinds {r : Run (List Record)} {kinds : List RecordKind}
    (h : r.outcome.toOption.map (List.map Record.kind) = some kinds) :
    ∃ records, r.outcome = .ok records ∧ records.map Record.kind = kinds :=
  Outcome.exists_ok_of_view h

/-- A trade on two nodes, one of which has no input for its orders: the three records stand in
their places on both, and only what is said of the two orders differs. -/
theorem log_decided_on_two_nodes :
    ∃ records records',
      (Narration.log tradeTable (orderNode []) tradeLog (.int 0)).outcome = .ok records ∧
      (Narration.log tradeTable (orderNode buyOrder) tradeLog (.int 0)).outcome = .ok records' ∧
      records.map Record.kind = [.error, .error, .matchedPrice] ∧
      records'.map Record.kind = [.tradeLeg, .tradeLeg, .matchedPrice] ∧
      tradeLog.Decides tradeTable (.int 0) records [.transaction "A", .transaction "B"] ∧
      tradeLog.AgreeUpToLegs (.int 0) records records' := by
  have hunresolved :
      (Narration.log tradeTable (orderNode []) tradeLog (.int 0)).outcome.toOption.map
        (List.map Record.kind) = some [.error, .error, .matchedPrice] := by decide +kernel
  have hresolved :
      (Narration.log tradeTable (orderNode buyOrder) tradeLog (.int 0)).outcome.toOption.map
        (List.map Record.kind) = some [.tradeLeg, .tradeLeg, .matchedPrice] := by decide +kernel
  obtain ⟨records, hok, hkinds⟩ := exists_ok_of_kinds hunresolved
  obtain ⟨records', hok', hkinds'⟩ := exists_ok_of_kinds hresolved
  have hlookups : (Narration.log tradeTable (orderNode []) tradeLog (.int 0)).lookups =
      [.transaction "A", .transaction "B"] := by decide +kernel
  obtain ⟨hdecides, hagree, -⟩ := Narration.log_decided_by_log_alone hok
  rw [hlookups] at hdecides
  exact ⟨records, records', hok, hok', hkinds, hkinds', hdecides, hagree _ _ hok'⟩

end OrderNarration
