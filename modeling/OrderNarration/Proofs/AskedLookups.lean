import OrderNarration.Proofs.ReceiptGroups
import OrderNarration.Proofs.ScanSurvival

/-!
# What the node is asked

A receipt asks for the two orders of each of its trades, one log after another, and for
nothing else. Its logs alone decide this: the answers to these questions have no part in it.
A scan asks for one block after another, and between two blocks for the receipts of the
entries after the first one, each of them followed by what the receipt asks for.

## Implementation notes

The questions are given as lists, so a question that is repeated, left out or asked in
another place would make another list.
-/

namespace OrderNarration

namespace EventLog

/-- The log is a trade of two orders: it has one topic at most and some data, its topic announces
trades, and the data stores a trade of the orders with these hashes. -/
def TradesOrders (topics : TopicTable) (log : EventLog) (buyHash sellHash : Text) : Prop :=
  log.Speaks ∧ (log.classified topics).kind = .trades ∧
    ∃ buy sell price, Payload.StoresTrade log.data buy sell price ∧
      Utf8.encodeText buyHash = .ok buy ∧ Utf8.encodeText sellHash = .ok sell

/-- The orders that a log asks for: those of a trade, the buy order first. -/
def orderLookups (topics : TopicTable) (log : EventLog) : List Lookup :=
  if log.topics.length ≤ 1 ∧ log.data ≠ [] ∧ (log.classified topics).kind = .trades then
    match Payload.readTrade log.data with
    | .ok t => [.transaction t.buyHash, .transaction t.sellHash]
    | .error _ => []
  else []

variable {topics : TopicTable} {log : EventLog} {buyHash sellHash : Text}

theorem orderLookups_of_isTrade {t : Trade} (h : log.IsTrade topics t) :
    log.orderLookups topics = [.transaction t.buyHash, .transaction t.sellHash] := by
  obtain ⟨⟨hfew, hdata⟩, hkind, hread⟩ := h
  rw [orderLookups, if_pos ⟨hfew, hdata, hkind⟩, hread]

theorem orderLookups_of_no_trade (h : ∀ t, ¬ log.IsTrade topics t) :
    log.orderLookups topics = [] := by
  rw [orderLookups]
  split
  next htrade =>
    obtain ⟨hfew, hdata, hkind⟩ := htrade
    cases hread : Payload.readTrade log.data with
    | ok t => exact absurd ⟨⟨hfew, hdata⟩, hkind, hread⟩ (h t)
    | error cause => rfl
  · rfl

/-- A trade of two orders is one that can be read, and it is read with the hashes of the orders. -/
theorem tradesOrders_iff :
    log.TradesOrders topics buyHash sellHash ↔
      ∃ t, log.IsTrade topics t ∧ t.buyHash = buyHash ∧ t.sellHash = sellHash := by
  constructor
  · rintro ⟨speaks, hkind, buy, sell, price, stored, hbuy, hsell⟩
    obtain ⟨t, hread, tells⟩ := Payload.readTrade_of_storesTrade stored
    refine ⟨t, ⟨speaks, hkind, hread⟩, ?_, ?_⟩
    · exact Utf8.encodeText_unique tells.buyHash hbuy
    · exact Utf8.encodeText_unique tells.sellHash hsell
  · rintro ⟨t, ⟨speaks, hkind, hread⟩, rfl, rfl⟩
    obtain ⟨items, buy, sell, price, hdata, htrade, hbuy, hsell, -⟩ :=
      Payload.readTrade_eq_ok_iff.mp hread
    exact ⟨speaks, hkind, buy, sell, price, ⟨items, hdata, htrade⟩, hbuy, hsell⟩

end EventLog

namespace Value

/-- The logs of a receipt, as they are read one by one. -/
def readLogs (receipt : Value) : Except Fault (List EventLog) := do
  let entries ← (receipt.field "logs" >>= itemsOrNone).mapError .shape
  entries.mapM EventLog.ofValue

/-- The orders that a receipt asks for: those of its logs, one log after another. -/
def orderLookups (topics : TopicTable) (receipt : Value) : List Lookup :=
  match receipt.readLogs with
  | .ok logs => logs.flatMap (EventLog.orderLookups topics)
  | .error _ => []

theorem orderLookups_of_readLogs {topics : TopicTable} {receipt : Value} {logs : List EventLog}
    (h : receipt.readLogs = .ok logs) :
    receipt.orderLookups topics = logs.flatMap (EventLog.orderLookups topics) := by
  rw [orderLookups, h]

end Value

namespace Node

/-- What the entry of a block asks for: its receipt, and the orders of the receipt if the node
gives it. -/
def entryLookups (topics : TopicTable) (node : Node) (entry : Value) : List Lookup :=
  match Narration.entryHash entry with
  | .ok hash =>
    .receipt hash ::
      (node.fetched (.receipt hash)).toList.flatMap (Value.orderLookups topics)
  | .error _ => []

theorem entryLookups_of_entryHash {topics : TopicTable} {node : Node} {entry : Value}
    {hash : Option Text} (h : Narration.entryHash entry = .ok hash) :
    node.entryLookups topics entry = .receipt hash ::
      (node.fetched (.receipt hash)).toList.flatMap (Value.orderLookups topics) := by
  rw [entryLookups, h]

/-- What a block asks for: the block itself, and what its entries after the first one ask for. -/
def blockLookups (topics : TopicTable) (node : Node) (number : Int) : List Lookup :=
  .block number :: ((node.entriesOf number).drop 1).flatMap (node.entryLookups topics)

end Node

/-- The lookups of a scan. -/
def Scan.lookups (s : Scan) : List Lookup := s.events.filterMap Event.lookup?

namespace Narration

variable {topics : TopicTable} {node : Node} {log : EventLog} {given value : Value}
  {hash : Option Text} {position : Nat} {records : List Record} {number : Int}

theorem lookups_log (h : (Narration.log topics node log given).outcome = .ok records) :
    (Narration.log topics node log given).lookups = log.orderLookups topics := by
  have shown := shown_of_log h
  by_cases htrade : ∃ t, log.IsTrade topics t
  · obtain ⟨t, htrade⟩ := htrade
    rw [log_of_trade shown htrade] at h
    rw [lookups_log_of_trade shown htrade, (trade_narrates h).2,
      EventLog.orderLookups_of_isTrade htrade]
  · have hno := not_exists.mp htrade
    rw [lookups_log_of_no_trade hno, EventLog.orderLookups_of_no_trade hno]

theorem lookups_entry (h : (entry topics node hash position value).outcome = .ok records) :
    ∃ log, EventLog.ofValue value = .ok log ∧
      (entry topics node hash position value).lookups = log.orderLookups topics := by
  obtain ⟨log, own, hlog, hown, -⟩ := entry_eq_ok_iff.mp h
  refine ⟨log, hlog, ?_⟩
  have hasked : (Narration.log topics node (log.within hash) (.int position)).lookups =
      log.orderLookups topics := lookups_log hown
  rw [entry, Run.lookups_bind_of_ok hlog, Run.lookups_bind_of_ok (TopicTable.classify_outcome _ _),
    Run.lookups_bind_of_silent (fun _ => rfl), Run.lookups_ofExcept, TopicTable.lookups_classify]
  exact hasked

theorem lookups_entriesFrom {values : List Value}
    (h : (entriesFrom topics node hash position values).outcome = .ok records) :
    ∃ logs, values.mapM EventLog.ofValue = .ok logs ∧
      (entriesFrom topics node hash position values).lookups =
        logs.flatMap (EventLog.orderLookups topics) := by
  induction values generalizing position records with
  | nil => exact ⟨[], rfl, rfl⟩
  | cons v rest ih =>
      rw [entriesFrom, Run.outcome_bind] at h
      obtain ⟨own, hown, hrest⟩ := Outcome.bind_eq_ok_iff.mp h
      obtain ⟨others, hothers, -⟩ := Outcome.map_eq_ok_iff.mp hrest
      obtain ⟨log, hlog, hasked⟩ := lookups_entry hown
      obtain ⟨logs, hlogs, hmore⟩ := ih hothers
      refine ⟨log :: logs, by simp [List.mapM_cons, hlog, hlogs], ?_⟩
      rw [entriesFrom, Run.lookups_bind_of_ok hown, hasked, Run.lookups_map, hmore,
        List.flatMap_cons]

/-- A receipt asks for the orders of its logs. -/
theorem lookups_receipt (h : (receipt topics node value hash).outcome = .ok records) :
    ∃ logs, value.readLogs = .ok logs ∧
      (receipt topics node value hash).lookups = logs.flatMap (EventLog.orderLookups topics) := by
  rw [receipt, Run.outcome_bind, Run.outcome_ofExcept] at h
  obtain ⟨entries, hentries, hrest⟩ := Outcome.bind_eq_ok_iff.mp h
  rw [receipt, Run.lookups_bind_of_ok hentries, Run.lookups_ofExcept, List.nil_append,
    Value.readLogs, hentries, Outcome.ok_bind]
  cases entries with
  | nil => exact ⟨[], rfl, rfl⟩
  | cons first rest => exact lookups_entriesFrom hrest

/-- A visit asks for the receipt of its entry, and for the orders of the receipt. -/
theorem lookups_visit {trace : Option Trace}
    (h : (visit topics node number position value).outcome = .ok trace) :
    (visit topics node number position value).lookups = node.entryLookups topics value := by
  rw [visit, Run.outcome_bind, Run.outcome_ofExcept] at h
  obtain ⟨hash, hhash, hvisit⟩ := Outcome.bind_eq_ok_iff.mp h
  rw [Run.outcome_bind, Run.outcome_attempt, Outcome.ok_bind] at hvisit
  rw [visit, Run.lookups_bind_of_ok hhash, Run.lookups_ofExcept, List.nil_append,
    Run.lookups_bind_of_ok (Run.outcome_attempt _), Run.lookups_attempt, Node.lookups_ask,
    Node.entryLookups_of_entryHash hhash, List.singleton_append, List.cons_inj_right]
  cases hask : (node.ask (.receipt hash)).outcome with
  | ok found =>
      rw [Node.fetched_of_ask hask]
      rw [hask] at hvisit
      cases found with
      | none => rfl
      | some found =>
          obtain ⟨records, hrecords, -⟩ :=
            Outcome.bind_eq_ok_iff.mp ((Run.outcome_bind _ _).symm.trans hvisit)
          obtain ⟨logs, hlogs, hasked⟩ := lookups_receipt hrecords
          rw [Option.toList_some, List.flatMap_singleton, Value.orderLookups_of_readLogs hlogs,
            ← hasked]
          exact Run.lookups_bind_of_silent fun _ => rfl
  | error e =>
      rw [(Node.fetched_of_ask_error hask).1]
      dsimp only
      split
      · rfl
      · rfl

theorem lookups_blockEntries (node : Node) (number : Int) :
    (blockEntries node number).lookups = [.block number] := by
  rw [blockEntries, Run.lookups_bind_of_silent, Run.lookups_attempt, Node.lookups_ask]
  intro result
  split
  · rfl
  · rfl
  · split
    · rfl
    · rfl

theorem lookups_scanEntries {entries : List Value}
    (h : (scanEntries topics node number position entries).stop = none) :
    (scanEntries topics node number position entries).lookups =
      entries.flatMap (node.entryLookups topics) := by
  induction entries generalizing position with
  | nil => rfl
  | cons v rest ih =>
      obtain ⟨trace, hvisit, hrest, hscan⟩ := scanEntries_cons_of_stop_eq_none h
      rw [hscan, Scan.lookups, List.filterMap_append, List.flatMap_cons,
        ← lookups_visit hvisit, ← ih hrest]
      rfl

/-- A scan that is not ended asks for its blocks one after another, each of them followed by what
its entries ask for. -/
theorem lookups_scanBlocks {count : Nat}
    (h : (scanBlocks topics node number count).stop = none) :
    (scanBlocks topics node number count).lookups =
      (blocksFrom number count).flatMap (node.blockLookups topics) := by
  induction count generalizing number with
  | zero => rfl
  | succ count ih =>
      obtain ⟨entries, hblock, hentries, hothers, hscan⟩ := scanBlocks_succ_of_stop_eq_none h
      have hown := lookups_blockEntries node number
      have hasked := lookups_scanEntries hentries
      have hmore := ih hothers
      simp only [Run.lookups, Scan.lookups] at hown hasked hmore
      rw [hscan, Scan.lookups, blocksFrom, List.flatMap_cons, Node.blockLookups,
        ← (blockEntries_of_ok hblock).1]
      simp only [List.filterMap_append, hown, hasked, hmore]
      rfl

/-- What is asked for is decided by what is narrated, and the answers have no part in it. A receipt
asks for the orders of its trades in the order of its logs. A scan asks for the blocks of its range
in ascending order, each of them followed by the receipts of its entries after the first one, and
each receipt by its orders. A log asks for the two orders of a trade, or for nothing. -/
theorem lookups_decided_by_inputs (topics : TopicTable) (node : Node) :
    (∀ value hash records, (receipt topics node value hash).outcome = .ok records →
      ∃ logs, value.readLogs = .ok logs ∧
        (receipt topics node value hash).lookups =
          logs.flatMap (EventLog.orderLookups topics)) ∧
    (∀ first last traces, (Narration.range topics node first last).outcome = .ok traces →
      ∃ range : BlockRange, BlockRange.ofValues first last = .ok range ∧
        (Narration.range topics node first last).lookups =
          range.blocks.flatMap (node.blockLookups topics)) ∧
    ∀ log : EventLog,
      (∀ buyHash sellHash, log.TradesOrders topics buyHash sellHash →
        log.orderLookups topics = [.transaction buyHash, .transaction sellHash]) ∧
      ((¬ ∃ buyHash sellHash, log.TradesOrders topics buyHash sellHash) →
        log.orderLookups topics = []) := by
  refine ⟨fun value hash records => lookups_receipt, ?_, fun log => ⟨?_, ?_⟩⟩
  · intro first last traces h
    obtain ⟨range, hrange, hstop, -, hevents⟩ := scanRange_of_range h
    refine ⟨range, hrange, ?_⟩
    rw [Run.lookups, hevents]
    exact lookups_scanBlocks hstop
  · rintro buyHash sellHash htrades
    obtain ⟨t, ht, rfl, rfl⟩ := EventLog.tradesOrders_iff.mp htrades
    exact EventLog.orderLookups_of_isTrade ht
  · intro hno
    apply EventLog.orderLookups_of_no_trade
    intro t ht
    exact hno ⟨_, _, EventLog.tradesOrders_iff.mpr ⟨t, ht, rfl, rfl⟩⟩

end Narration

/-- Two trades of the same orders, and a log without data between them. -/
def repeatedEntries : List Value :=
  [plainEntry "0xaa" tradeLog.data, plainEntry "0xaa" [], plainEntry "0xaa" tradeLog.data]

/-- A node with one block and the receipt of one of its entries. It fails on everything else. -/
def failingNode : Node
  | .block 1 => .found (.mapping [("transactions", .list [.bytes [0], .bytes [1], .bytes [2]])])
  | .receipt (some hash) =>
    if hash = "0x01" then .found (receiptOf repeatedEntries) else .failed ⟨.timeout, "late"⟩
  | _ => .failed ⟨.connection, "refused"⟩

/-- The orders of the trades are asked for twice although the node fails on them each time. -/
theorem lookups_decided_by_repeated_trades :
    let trades : List Lookup := [.transaction "A", .transaction "B"]
    tradeLog.TradesOrders tradeTable "A" "B" ∧ tradeLog.orderLookups tradeTable = trades ∧
      { tradeLog with data := [] }.orderLookups tradeTable = [] ∧
      (∃ records,
        (Narration.receipt tradeTable failingNode (receiptOf repeatedEntries) none).outcome =
          .ok records) ∧
      (Narration.receipt tradeTable failingNode (receiptOf repeatedEntries) none).lookups =
        trades ++ trades ∧
      (∃ traces,
        (Narration.range tradeTable failingNode (.int 1) (.int 2)).outcome = .ok traces) ∧
      (Narration.range tradeTable failingNode (.int 1) (.int 2)).lookups =
        [.block 1, .receipt (some "0x01")] ++ trades ++ trades ++
          [.receipt (some "0x02"), .block 2] := by
  intro trades
  obtain ⟨hreceipt, hrange, hlog⟩ :=
    Narration.lookups_decided_by_inputs tradeTable failingNode
  have htrades : tradeLog.TradesOrders tradeTable "A" "B" := by
    have hhashes : (Payload.readTrade tradeLog.data).toOption.map
        (fun t => (t.buyHash, t.sellHash)) = some (("A" : Text), ("B" : Text)) := by
      decide +kernel
    obtain ⟨t, hread, ht⟩ := Outcome.exists_ok_of_view hhashes
    obtain ⟨hbuy, hsell⟩ := Prod.mk.inj ht
    exact EventLog.tradesOrders_iff.mpr
      ⟨t, ⟨⟨by decide, by decide⟩, by decide +kernel, hread⟩, hbuy, hsell⟩
  have hlength : (Narration.receipt tradeTable failingNode (receiptOf repeatedEntries)
      none).outcome.toOption.map List.length = some 10 := by decide +kernel
  obtain ⟨records, hrecords, -⟩ := Outcome.exists_ok_of_view hlength
  have hplaces : (Narration.range tradeTable failingNode (.int 1) (.int 2)).outcome.toOption.map
      (List.map Trace.place) = some [⟨1, 1⟩] := by decide +kernel
  obtain ⟨traces, htraces, -⟩ := Outcome.exists_ok_of_view hplaces
  obtain ⟨logs, hlogs, hasked⟩ := hreceipt _ _ _ hrecords
  obtain ⟨range, hvalues, hscanned⟩ := hrange _ _ _ htraces
  obtain rfl := Except.ok.inj hvalues
  refine ⟨htrades, (hlog tradeLog).1 _ _ htrades, (hlog _).2 ?_, ⟨records, hrecords⟩, ?_,
    ⟨traces, htraces⟩, ?_⟩
  · rintro ⟨_, _, ⟨-, hdata⟩, -⟩
    exact hdata rfl
  · rw [hasked, ← Value.orderLookups_of_readLogs hlogs]
    decide +kernel
  · rw [hscanned]
    decide +kernel

end OrderNarration
