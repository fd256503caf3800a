import OrderNarration.Proofs.AskedLookups
import OrderNarration.Proofs.OrderResolutions
import OrderNarration.Proofs.StatedSides

/-!
# The independence of the two orders of a trade

The record of an order says what the node answers for this order, and nothing else that the
node answers has a part in it. The record of the price is made before the node is asked. So
a node that fails on one order of a trade, or lies about it, cannot change what is told of
the other order or of the price.

## Implementation notes

The two orders may be the same one. Then the node answers alike for both or for none, and
the statements are about the same answer.
-/

namespace OrderNarration

/-- Two nodes answer a lookup alike: with the same value, with none, or with the same failure. -/
def Node.AnswersAlike (node node' : Node) (lookup : Lookup) : Prop :=
  (node.ask lookup).outcome = (node'.ask lookup).outcome

/-- Two logs, each named by its caller, have the same payload and the same tags: they store the
same data and name the same transaction and the same position. -/
structure EventLog.SharesTags (log other : EventLog) (given given' : Value) : Prop where
  data : other.data = log.data
  hash : other.hash = log.hash
  position : other.position given' = log.position given

section Alike

variable {node node' : Node} {hash : Text}

theorem Node.AnswersAlike.of_eq {lookup : Lookup} (h : node lookup = node' lookup) :
    node.AnswersAlike node' lookup := by
  rw [AnswersAlike, Node.ask, Node.ask, h]

theorem Resolution.resolve_outcome_of_alike (alike : node.AnswersAlike node' (.transaction hash)) :
    (resolve node hash).outcome = (resolve node' hash).outcome := by
  have hfind : (find node hash).outcome = (find node' hash).outcome := by
    rw [find, find, Run.outcome_bind, Run.outcome_bind, alike]
  rw [resolve_outcome, resolve_outcome, hfind]

/-- The record of an order is decided by what the node answers for this order. -/
theorem Narration.leg_outcome_of_alike (record : RecordKind → Text → Entries Value → Record)
    (l : Leg) (alike : node.AnswersAlike node' (.transaction hash)) :
    (leg node record l hash).outcome = (leg node' record l hash).outcome := by
  rw [leg, leg, Run.outcome_bind, Run.outcome_bind, Resolution.resolve_outcome_of_alike alike]

end Alike

namespace Narration

variable {topics : TopicTable} {node node' : Node} {log : EventLog} {given : Value}
  {orders : Leg → Text} {records records' : List Record}

/-- The record of a price is made of the payload and the tags of its log. -/
theorem matchedPrice_of_sharesTags {other : EventLog} {given' : Value}
    (shares : log.SharesTags other given given') (kind : EventKind) (t : Trade) :
    matchedPrice other kind (other.position given') t =
      matchedPrice log kind (log.position given) t := by
  rw [matchedPrice, matchedPrice, shares.position, EventLog.record, EventLog.record, shares.hash]

/-- The narration of a trade has the records of its two orders, each made on its own, and of its
price. -/
theorem log_of_tradesOrders
    (trades : log.TradesOrders topics (orders .buy) (orders .sell))
    (h : (Narration.log topics node log given).outcome = .ok records) :
    ∃ (t : Trade) (legs : Leg → Record), Payload.readTrade log.data = .ok t ∧
      (∀ l, (leg node (log.record .trades (log.position given)) l (orders l)).outcome =
        .ok (legs l)) ∧
      records = [legs .buy, legs .sell, matchedPrice log .trades (log.position given) t] := by
  obtain ⟨t, htrade, hbuy, hsell⟩ := EventLog.tradesOrders_iff.mp trades
  have horder : t.order = orders := by
    ext l
    cases l with
    | buy => rw [Trade.order, hbuy]
    | sell => rw [Trade.order, hsell]
  rw [log_of_trade (shown_of_log h) htrade] at h
  obtain ⟨legs, hlegs, hrecords⟩ := trade_eq_ok_iff.mp h
  exact ⟨t, legs, htrade.2.2, horder ▸ hlegs, hrecords⟩

/-- On any two nodes a trade has the same record of its price, and the same record of an order for
which the nodes answer alike. The price has this record in every narration of a trade with this
payload and these tags. -/
theorem legs_do_not_interfere
    (trades : log.TradesOrders topics (orders .buy) (orders .sell))
    (h : (Narration.log topics node log given).outcome = .ok records)
    (h' : (Narration.log topics node' log given).outcome = .ok records') :
    ∃ (legs legs' : Leg → Record) (matched : Record),
      records = [legs .buy, legs .sell, matched] ∧
      records' = [legs' .buy, legs' .sell, matched] ∧
      (∀ l, (legs l).IsLeg log .trades (log.position given) l (orders l)) ∧
      (∀ l, node.AnswersAlike node' (.transaction (orders l)) → legs l = legs' l) ∧
      matched.kind = .matchedPrice ∧
      ∀ topics' node'' other given' others, log.SharesTags other given given' →
        other.TradesOrders topics' (orders .buy) (orders .sell) →
        (Narration.log topics' node'' other given').outcome = .ok others →
        ∃ legs'' : Leg → Record, others = [legs'' .buy, legs'' .sell, matched] := by
  obtain ⟨t, legs, hread, hlegs, rfl⟩ := log_of_tradesOrders trades h
  obtain ⟨t', legs', hread', hlegs', rfl⟩ := log_of_tradesOrders trades h'
  obtain rfl : t = t' := Except.ok.inj (hread.symm.trans hread')
  refine ⟨legs, legs', _, rfl, rfl, fun l => isLeg_of_leg (hlegs l), fun l alike => ?_, rfl, ?_⟩
  · have hsame := leg_outcome_of_alike (log.record .trades (log.position given)) l alike
    exact Except.ok.inj ((hlegs l).symm.trans (hsame.trans (hlegs' l)))
  · intro topics' node'' other given' others shares trades' hother
    obtain ⟨u, legs'', hu, -, rfl⟩ := log_of_tradesOrders trades' hother
    rw [shares.data] at hu
    obtain rfl : t = u := Except.ok.inj (hread.symm.trans hu)
    exact ⟨legs'', by rw [matchedPrice_of_sharesTags shares]⟩

end Narration

/-- A node that answers too late, whatever it is asked. -/
def lateNode : Node := fun _ => .failed ⟨.timeout, "late"⟩

/-- The order `A` is found on one node and not on the other one. The record of the order `B`, for
which both fail alike, and that of the price are the same. -/
theorem legs_do_not_interfere_on_late_node :
    ∃ records records',
      (Narration.log tradeTable textOrderNode tradeLog (.int 0)).outcome = .ok records ∧
      (Narration.log tradeTable lateNode tradeLog (.int 0)).outcome = .ok records' ∧
      records.map Record.kind = [.tradeLeg, .error, .matchedPrice] ∧
      records'.map Record.kind = [.error, .error, .matchedPrice] ∧
      records.drop 1 = records'.drop 1 := by
  have hfound : (Narration.log tradeTable textOrderNode tradeLog (.int 0)).outcome.toOption.map
      (List.map Record.kind) = some [.tradeLeg, .error, .matchedPrice] := by decide +kernel
  have hlate : (Narration.log tradeTable lateNode tradeLog (.int 0)).outcome.toOption.map
      (List.map Record.kind) = some [.error, .error, .matchedPrice] := by decide +kernel
  obtain ⟨records, hok, hkinds⟩ := exists_ok_of_kinds hfound
  obtain ⟨records', hok', hkinds'⟩ := exists_ok_of_kinds hlate
  have trades : tradeLog.TradesOrders tradeTable (storedTrade.order .buy)
      (storedTrade.order .sell) :=
    EventLog.tradesOrders_iff.mpr ⟨storedTrade, tradeLog_isTrade, rfl, rfl⟩
  obtain ⟨legs, legs', matched, rfl, rfl, -, hsame, -⟩ :=
    Narration.legs_do_not_interfere trades hok hok'
  have alike : textOrderNode.AnswersAlike lateNode (.transaction (storedTrade.order .sell)) :=
    .of_eq rfl
  refine ⟨_, _, hok, hok', hkinds, hkinds', ?_⟩
  rw [List.drop_one, List.drop_one, List.tail_cons, List.tail_cons, hsame .sell alike]

end OrderNarration
