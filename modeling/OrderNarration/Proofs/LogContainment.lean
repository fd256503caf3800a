import OrderNarration.Narration.Log
import OrderNarration.Proofs.OrderFaults
import OrderNarration.Proofs.ShownValues

/-!
# Containment at the log

On a node under contract the narration of a log ends with a result, and everything
that is wrong with the log or with an order behind it comes back as a record of
its own. One input is left out: an order whose side is an infinity ends the
narration, because the word for the side is asked for after all faults of the
order have been caught.
-/

namespace OrderNarration

namespace TopicTable

/-- The kind and the shown text of a topic, without the diagnostic for what is no topic. -/
def classification (table : TopicTable) (topic : Value) : Classification :=
  match HashText.ofValue topic with
  | .ok none => ⟨.unknown, none⟩
  | .ok (some t) => ⟨(Entries.get? t table).getD .unknown, some t⟩
  | .error _ => ⟨.unknown, some topic.quoted⟩

/-- Every value is classified. -/
@[simp] theorem classify_outcome (table : TopicTable) (topic : Value) :
    (table.classify topic).outcome = .ok (table.classification topic) := by
  unfold classify classification
  cases HashText.ofValue topic with
  | error e => rfl
  | ok found =>
      cases found with
      | none => rfl
      | some t => rfl

end TopicTable

/-- What is wrong with a log or with an order behind it. -/
inductive LogProblem where
  | manyTopics (count : Nat)
  | unknownTopic (topic : Option Text)
  | malformed (kind : EventKind) (cause : PayloadError)
  | unresolved (leg : Leg) (hash : Text) (cause : Fault)

namespace LogProblem

/-- The kind of the record that tells of a problem. -/
def recordKind : LogProblem → RecordKind
  | unknownTopic _ => .unknownTopic
  | _ => .error

/-- The message of the record that tells of a problem of the log. -/
def message (log : EventLog) : LogProblem → Text
  | manyTopics count => (Fault.multipleTopics (.int count)).message
  | unknownTopic topic =>
    "unexpected topic found: " ++ topic.getD "None" ++ ", txhash: " ++ log.shownHash
  | malformed kind cause => "malformed " ++ kind.label ++ " payload: " ++ cause.message
  | unresolved leg hash cause =>
    "failed to resolve " ++ leg.word ++ " order " ++ hash ++ ": " ++ cause.containedWording

end LogProblem

namespace Node

/-- The problem of an order of a trade: it cannot be looked up or read. -/
def orderProblem (node : Node) (leg : Leg) (hash : Text) : List LogProblem :=
  match (Resolution.find node hash).outcome with
  | .ok _ => []
  | .error cause => [.unresolved leg hash cause]

/-- The order is found and read, and its side is an infinity. -/
def HasInfiniteSide (node : Node) (hash : Text) : Prop :=
  ∃ intent, (Resolution.find node hash).outcome = .ok intent ∧
    intent.context.side.isInfinite = true

instance (node : Node) (hash : Text) : Decidable (node.HasInfiniteSide hash) :=
  match h : (Resolution.find node hash).outcome with
  | .ok intent =>
    if hside : intent.context.side.isInfinite = true then .isTrue ⟨intent, h, hside⟩
    else .isFalse fun ⟨other, hother, hsideOther⟩ => by
      obtain rfl := Except.ok.inj (h.symm.trans hother)
      exact hside hsideOther
  | .error _ => .isFalse fun ⟨_, hother, _⟩ => by simp [h] at hother

end Node

namespace Payload

theorem readTrade_nil : readTrade [] = .error (.notCanonical .tooShort) := rfl

/-- Only a trade is read as a trade. -/
theorem read_eq_trade {kind : EventKind} {data : List UInt8} {t : Trade}
    (h : read kind data = .ok (.trade t)) : kind = .trades ∧ readTrade data = .ok t := by
  cases kind with
  | trades =>
      cases hread : readTrade data with
      | error cause => simp [read, hread] at h
      | ok other => simpa [read, hread] using h
  | triggeredIds => cases hread : readHashes data <;> simp [read, hread] at h
  | canceledIds => cases hread : readHashes data <;> simp [read, hread] at h
  | _ => simp [read] at h

end Payload

namespace EventLog

/-- The class of the topic that tells the kind of a log. -/
def classified (topics : TopicTable) (log : EventLog) : Classification :=
  topics.classification log.mainTopic

/-- The problems of a log and of the orders behind it, in the order of their discovery. -/
def problems (topics : TopicTable) (node : Node) (log : EventLog) : List LogProblem :=
  let ⟨kind, topic⟩ := log.classified topics
  if 1 < log.topics.length then [.manyTopics log.topics.length]
  else if log.data = [] then []
  else if kind = .unknown then [.unknownTopic topic]
  else
    match Payload.read kind log.data with
    | .error cause => [.malformed kind cause]
    | .ok (.trade t) => node.orderProblem .buy t.buyHash ++ node.orderProblem .sell t.sellHash
    | .ok _ => []

/-- The data is a readable trade, and the side of one of its orders is an infinity. -/
def TradesAtInfiniteSide (node : Node) (data : List UInt8) : Prop :=
  ∃ t, Payload.readTrade data = .ok t ∧
    (node.HasInfiniteSide t.buyHash ∨ node.HasInfiniteSide t.sellHash)

instance (node : Node) (data : List UInt8) : Decidable (TradesAtInfiniteSide node data) :=
  match h : Payload.readTrade data with
  | .ok t =>
    if hside : node.HasInfiniteSide t.buyHash ∨ node.HasInfiniteSide t.sellHash then
      .isTrue ⟨t, h, hside⟩
    else .isFalse fun ⟨other, hother, hsideOther⟩ => by
      obtain rfl := Except.ok.inj (h.symm.trans hother)
      exact hside hsideOther
  | .error _ => .isFalse fun ⟨_, hother, _⟩ => by simp [h] at hother

/-- The log is of a trade, and the side of one of the orders behind it is an infinity. -/
def StatesInfiniteSide (topics : TopicTable) (node : Node) (log : EventLog) : Prop :=
  log.topics.length ≤ 1 ∧ (log.classified topics).kind = .trades ∧
    TradesAtInfiniteSide node log.data

instance (topics : TopicTable) (node : Node) (log : EventLog) :
    Decidable (log.StatesInfiniteSide topics node) :=
  inferInstanceAs (Decidable (_ ∧ _ ∧ _))

end EventLog

/-- Kinds and messages of the records that tell of problems. -/
def Record.reports (records : List Record) : List (RecordKind × Text) :=
  (records.filter Record.isError).map fun r => (r.kind, r.message)

theorem Record.reports_append (records others : List Record) :
    Record.reports (records ++ others) = Record.reports records ++ Record.reports others := by
  simp [Record.reports]

theorem Record.reports_eq_nil {records : List Record} (h : ∀ r ∈ records, r.isError = false) :
    Record.reports records = [] := by
  simpa [Record.reports] using h

namespace Narration

variable {topics : TopicTable} {node : Node} {log : EventLog} {kind : EventKind}
  {position given : Value}

theorem leg_of_infinite_side {l : Leg} {hash : Text} (h : node.HasInfiniteSide hash) :
    (leg node (log.record kind position) l hash).outcome =
      .error (.noInteger .infiniteFloat) := by
  obtain ⟨intent, hfind, hside⟩ := h
  have hword := Value.wordOfSide_of_isJson (Resolution.find_side_isJson hfind)
  rw [if_pos hside] at hword
  rw [leg]
  simp [Resolution.resolve_outcome, hfind, hword]

/-- An order of a trade gives one record, which tells of the order's problem if it has one. -/
theorem leg_of_finite_side (log : EventLog) (kind : EventKind) (position : Value) (l : Leg)
    {hash : Text} (orders : node.AnswersOrders) (h : ¬ node.HasInfiniteSide hash) :
    ∃ r, (leg node (log.record kind position) l hash).outcome = .ok r ∧
      Record.reports [r] =
        (node.orderProblem l hash).map fun p => (p.recordKind, p.message log) := by
  rw [leg]
  cases hfind : (Resolution.find node hash).outcome with
  | error e =>
      have hcontained := Resolution.find_fault orders hfind
      refine ⟨unresolvedLeg (log.record kind position) l hash e.containedWording, ?_, ?_⟩
      · simp [Resolution.resolve_outcome, hfind, hcontained]
      · simp only [Node.orderProblem, hfind]
        rfl
  | ok intent =>
      have hword := Value.wordOfSide_of_isJson (Resolution.find_side_isJson hfind)
      rw [if_neg fun hside => h ⟨intent, hfind, hside⟩] at hword
      obtain ⟨word, hword⟩ := hword
      refine ⟨resolvedLeg (log.record kind position) l hash intent word, ?_, ?_⟩
      · simp [Resolution.resolve_outcome, hfind, hword]
      · simp only [Node.orderProblem, hfind]
        rfl

theorem trade_of_infinite_side {t : Trade} (orders : node.AnswersOrders)
    (h : node.HasInfiniteSide t.buyHash ∨ node.HasInfiniteSide t.sellHash) :
    (trade node (log.record kind position) t).outcome = .error (.noInteger .infiniteFloat) := by
  rw [trade]
  simp only [Run.outcome_bind]
  -- the sell order is come to only if the buy order has a record
  by_cases hbuy : node.HasInfiniteSide t.buyHash
  · rw [leg_of_infinite_side hbuy]
    rfl
  · obtain ⟨buy, hok, -⟩ := leg_of_finite_side log kind position .buy orders hbuy
    rw [hok, Outcome.ok_bind, leg_of_infinite_side (h.resolve_left hbuy)]
    rfl

/-- A trade gives the records of its two orders and of its price. -/
theorem trade_of_finite_sides {t : Trade} (orders : node.AnswersOrders)
    (h : ¬ (node.HasInfiniteSide t.buyHash ∨ node.HasInfiniteSide t.sellHash)) :
    ∃ records, (trade node (log.record kind position) t).outcome = .ok records ∧
      Record.reports records =
        (node.orderProblem .buy t.buyHash ++ node.orderProblem .sell t.sellHash).map
          fun p => (p.recordKind, p.message log) := by
  rw [not_or] at h
  obtain ⟨buy, hbuy, hbuyReports⟩ := leg_of_finite_side log kind position .buy orders h.1
  obtain ⟨sell, hsell, hsellReports⟩ := leg_of_finite_side log kind position .sell orders h.2
  let price := log.record kind position .matchedPrice ("matched price: $" ++ t.priceEther)
    [("price_eth", .text t.priceEther), ("price_hex", .text t.priceHex)]
  refine ⟨[buy, sell, price], ?_, ?_⟩
  · rw [trade]
    simp only [Run.outcome_bind, hbuy, hsell, Outcome.ok_bind, Run.outcome_pure]
    rfl
  · have hprice : Record.reports [price] = [] := rfl
    calc
      Record.reports [buy, sell, price] =
          Record.reports [buy] ++ (Record.reports [sell] ++ Record.reports [price]) := by
        rw [← Record.reports_append, ← Record.reports_append]
        rfl
      _ = _ := by rw [hbuyReports, hsellReports, hprice, List.append_nil, List.map_append]

theorem reports_hashes {recordKind : RecordKind} (h : recordKind ≠ .error)
    (h' : recordKind ≠ .unknownTopic) (heading : Text) (ids : List Text) :
    Record.reports (hashes (log.record kind position) recordKind heading ids) = [] := by
  apply Record.reports_eq_nil
  intro r hr
  obtain ⟨i, hi, rfl⟩ := List.mem_mapIdx.mp hr
  simp [Record.isError, EventLog.record, h, h']

section Routes

variable (shown : (log.position given).display?.isSome)
include shown

theorem log_of_many_topics (hmany : 1 < log.topics.length) :
    (Narration.log topics node log given).outcome =
      .ok [log.record (log.classified topics).kind (log.position given) .error
        ((LogProblem.manyTopics log.topics.length).message log)
        [("error", .text "UnsupportedMultiTopic")]] := by
  obtain ⟨place, hplace⟩ := Option.isSome_iff_exists.mp shown
  simp [Narration.log, Value.shown, hplace, EventLog.checkTopics, hmany, EventLog.classified,
    LogProblem.message]

theorem log_of_no_data (hfew : log.topics.length ≤ 1) (hdata : log.data = []) :
    (Narration.log topics node log given).outcome =
      .ok [log.record (log.classified topics).kind (log.position given) .skipped
        "Skipping empty data field." []] := by
  obtain ⟨place, hplace⟩ := Option.isSome_iff_exists.mp shown
  simp [Narration.log, Value.shown, hplace, EventLog.checkTopics, Nat.not_lt.mpr hfew, hdata,
    EventLog.classified]

theorem log_of_unknown_topic (hfew : log.topics.length ≤ 1) (hdata : log.data ≠ [])
    (hkind : (log.classified topics).kind = .unknown) :
    (Narration.log topics node log given).outcome =
      .ok [log.record .unknown (log.position given) .unknownTopic
        ((LogProblem.unknownTopic (log.classified topics).topic).message log)
        [("topic_hash", optionalText (log.classified topics).topic)]] := by
  obtain ⟨place, hplace⟩ := Option.isSome_iff_exists.mp shown
  rw [EventLog.classified] at hkind ⊢
  simp [Narration.log, Value.shown, hplace, EventLog.checkTopics, Nat.not_lt.mpr hfew, hdata,
    hkind, LogProblem.message]

theorem log_of_malformed {cause : PayloadError} (hfew : log.topics.length ≤ 1)
    (hdata : log.data ≠ []) (hkind : (log.classified topics).kind ≠ .unknown)
    (hread : Payload.read (log.classified topics).kind log.data = .error cause) :
    (Narration.log topics node log given).outcome =
      .ok [log.record (log.classified topics).kind (log.position given) .error
        ((LogProblem.malformed (log.classified topics).kind cause).message log)
        [("error", .text "MalformedPayload")]] := by
  obtain ⟨place, hplace⟩ := Option.isSome_iff_exists.mp shown
  rw [EventLog.classified] at hkind hread ⊢
  simp [Narration.log, Value.shown, hplace, EventLog.checkTopics, Nat.not_lt.mpr hfew, hdata,
    hkind, hread, LogProblem.message]

theorem log_of_payload {p : Payload} (hfew : log.topics.length ≤ 1)
    (hdata : log.data ≠ []) (hkind : (log.classified topics).kind ≠ .unknown)
    (hread : Payload.read (log.classified topics).kind log.data = .ok p) :
    (Narration.log topics node log given).outcome =
      (payload node (log.record (log.classified topics).kind (log.position given)) p).outcome := by
  obtain ⟨place, hplace⟩ := Option.isSome_iff_exists.mp shown
  rw [EventLog.classified] at hkind hread ⊢
  simp [Narration.log, Value.shown, hplace, EventLog.checkTopics, Nat.not_lt.mpr hfew, hdata,
    hkind, hread]

theorem log_of_infinite_side (orders : node.AnswersOrders)
    (h : log.StatesInfiniteSide topics node) :
    (Narration.log topics node log given).outcome = .error (.noInteger .infiniteFloat) := by
  obtain ⟨hfew, hkind, t, hread, hside⟩ := h
  have hdata : log.data ≠ [] := by
    intro hempty
    rw [hempty] at hread
    exact absurd hread (by simp [Payload.readTrade_nil])
  have hpayload : Payload.read (log.classified topics).kind log.data = .ok (.trade t) := by
    simp [hkind, Payload.read, hread]
  rw [log_of_payload shown hfew hdata (by simp [hkind]) hpayload]
  simpa [payload] using trade_of_infinite_side orders hside

/-- Without an infinite side a narration is complete, and it tells of every problem in its place. -/
theorem log_of_finite_sides (orders : node.AnswersOrders)
    (h : ¬ log.StatesInfiniteSide topics node) :
    ∃ records, (Narration.log topics node log given).outcome = .ok records ∧
      Record.reports records =
        (log.problems topics node).map fun p => (p.recordKind, p.message log) := by
  rw [EventLog.problems]
  by_cases hfew : log.topics.length ≤ 1
  · have hmany := Nat.not_lt.mpr hfew
    by_cases hdata : log.data = []
    · exact ⟨_, log_of_no_data shown hfew hdata, by simp [hmany, hdata]; rfl⟩
    · by_cases hkind : (log.classified topics).kind = .unknown
      · exact ⟨_, log_of_unknown_topic shown hfew hdata hkind,
          by simp [hmany, hdata, hkind]; rfl⟩
      · cases hread : Payload.read (log.classified topics).kind log.data with
        | error cause =>
            exact ⟨_, log_of_malformed shown hfew hdata hkind hread,
              by simp [hmany, hdata, hkind, hread]; rfl⟩
        | ok p =>
            rw [log_of_payload shown hfew hdata hkind hread]
            simp only [hmany, hdata, hkind, hread, if_false]
            cases p with
            | trade t =>
                have hside :
                    ¬ (node.HasInfiniteSide t.buyHash ∨ node.HasInfiniteSide t.sellHash) := by
                  intro hside
                  obtain ⟨htrades, ht⟩ := Payload.read_eq_trade hread
                  exact h ⟨hfew, htrades, t, ht, hside⟩
                simpa [payload] using trade_of_finite_sides orders hside
            | triggered ids => exact ⟨_, rfl, reports_hashes (by simp) (by simp) _ ids⟩
            | canceled ids => exact ⟨_, rfl, reports_hashes (by simp) (by simp) _ ids⟩
            | empty => exact ⟨_, rfl, rfl⟩
  · have hmany := Nat.not_le.mp hfew
    exact ⟨_, log_of_many_topics shown hmany, by simp [hmany]; rfl⟩

end Routes

/-- Containment at the log, with its exact condition: on a node under contract a narration is
complete and tells of every problem unless an order behind the log states an infinite side; then
it ends with the fault of the side. The position of the log has a text, as null does and numbers
within the limit of numerals do. -/
theorem log_contains_problems_iff (orders : node.AnswersOrders)
    (shown : (log.position given).HasText) :
    ((∃ records, (Narration.log topics node log given).outcome = .ok records ∧
        Record.reports records =
          (log.problems topics node).map fun p => (p.recordKind, p.message log)) ↔
      ¬ log.StatesInfiniteSide topics node) ∧
    (log.StatesInfiniteSide topics node →
      (Narration.log topics node log given).outcome = .error (.noInteger .infiniteFloat)) := by
  refine ⟨⟨?_, log_of_finite_sides shown.display orders⟩,
    log_of_infinite_side shown.display orders⟩
  rintro ⟨records, hok, -⟩ hside
  rw [log_of_infinite_side shown.display orders hside] at hok
  simp at hok

end Narration

/-- A node that has the same input for every order, and nothing else. -/
def orderNode (input : List UInt8) : Node
  | .transaction _ => .found (.mapping [("input", .bytes input)])
  | _ => .absent

theorem orderNode_answersOrders (input : List UInt8) : (orderNode input).AnswersOrders := by
  intro hash
  refine ⟨fun v hv => ?_, fun failure hfailure => ?_⟩
  · obtain rfl := Option.some.inj hv
    rfl
  · simp [orderNode] at hfailure

/-- The topic `0xaa` announces trades. -/
def tradeTable : TopicTable := [("0xaa", .trades)]

/-- A trade of the orders `A` and `B` at a price of one wei. -/
def tradeLog : EventLog where
  topics := [.text "0xaa"]
  data := [0xCE, 0x80, 0x41, 0x42, 0x80, 0x80, 0x80, 0x80, 0x01, 0x80, 0x80, 0x80, 0x80, 0x80, 0x80]
  hash := none
  index := .null

/-- Zero as the position of a trade has a text. -/
theorem tradeLog_position_hasText : (tradeLog.position (.int 0)).HasText :=
  ⟨rfl, .int (Nat.pow_pos (by decide))⟩

/-- Orders without an input are two problems of a trade, and both are told. -/
theorem log_contains_problems_of_empty_orders :
    (orderNode []).AnswersOrders ∧ (tradeLog.position (.int 0)).HasText ∧
      ¬ tradeLog.StatesInfiniteSide tradeTable (orderNode []) ∧
      (tradeLog.problems tradeTable (orderNode [])).length = 2 ∧
      ∃ records,
        (Narration.log tradeTable (orderNode []) tradeLog (.int 0)).outcome = .ok records ∧
        Record.reports records =
          (tradeLog.problems tradeTable (orderNode [])).map
            fun p => (p.recordKind, p.message tradeLog) := by
  have hside : ¬ tradeLog.StatesInfiniteSide tradeTable (orderNode []) := by decide +kernel
  exact ⟨orderNode_answersOrders [], tradeLog_position_hasText, hside, by decide +kernel,
    (Narration.log_contains_problems_iff (orderNode_answersOrders [])
      tradeLog_position_hasText).1.mpr hside⟩

/-- An order with the side `Infinity`: the narration of its trade has no result. -/
theorem log_fails_at_infinite_side :
    let node := orderNode (0x21 :: Utf8.encode "\x7b\"price\":1,\"side\":Infinity\x7d".toList)
    node.AnswersOrders ∧ (tradeLog.position (.int 0)).HasText ∧
      ¬ ∃ records, (Narration.log tradeTable node tradeLog (.int 0)).outcome = .ok records := by
  intro node
  have horders : node.AnswersOrders := orderNode_answersOrders _
  have hside : tradeLog.StatesInfiniteSide tradeTable node := by decide +kernel
  refine ⟨horders, tradeLog_position_hasText, ?_⟩
  rintro ⟨records, hok⟩
  rw [Narration.log_of_infinite_side rfl horders hside] at hok
  simp at hok

end OrderNarration
