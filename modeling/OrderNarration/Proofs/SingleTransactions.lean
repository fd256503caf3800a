import OrderNarration.Proofs.ExitCodes

/-!
# Single transactions and scans

A transaction can be narrated by itself or as an entry of a block that a scan comes to.
The scan reads the hash off the entry and passes over a receipt that it cannot have; by
itself, the transaction is given by its hash and the lack of a receipt is a fault. On one
node the two agree wherever the scan has a result: they narrate the same records, or the
one has no trace where the other has no receipt.
-/

namespace OrderNarration

namespace Narration

variable {topics : TopicTable} {node : Node} {n number : Int} {position : Nat} {value : Value}

/-- In a scan of entries that is not ended every entry was visited. -/
theorem visit_of_scanEntries {entries : List Value} {i : Nat}
    (h : (scanEntries topics node number position entries).stop = none)
    (hget : entries[i]? = some value) :
    ∃ trace, (visit topics node number (position + i) value).outcome = .ok trace := by
  induction entries generalizing position i with
  | nil => simp at hget
  | cons v rest ih =>
      obtain ⟨trace, hvisit, hrest, -⟩ := scanEntries_cons_of_stop_eq_none h
      cases i with
      | zero =>
          obtain rfl := Option.some.inj hget
          exact ⟨trace, hvisit⟩
      | succ i =>
          rw [← Nat.add_assoc, Nat.add_right_comm]
          exact ih hrest hget

/-- In a scan of blocks that is not ended every entry after the first one of its block was
visited. -/
theorem visit_of_scanBlocks {count : Nat}
    (h : (scanBlocks topics node number count).stop = none) (hn : n ∈ blocksFrom number count)
    (hpos : 0 < position) (hget : (node.entriesOf n)[position]? = some value) :
    ∃ trace, (visit topics node n position value).outcome = .ok trace := by
  induction count generalizing number with
  | zero => simp [blocksFrom] at hn
  | succ count ih =>
      obtain ⟨entries, hblock, hentries, hothers, -⟩ := scanBlocks_succ_of_stop_eq_none h
      rcases List.mem_cons.mp hn with rfl | hn
      · rw [(blockEntries_of_ok hblock).1] at hentries
        have hdropped : ((node.entriesOf n).drop 1)[position - 1]? = some value := by
          rwa [List.getElem?_drop, Nat.add_sub_cancel' hpos]
        have hvisit := visit_of_scanEntries hentries hdropped
        rwa [Nat.add_sub_cancel' hpos] at hvisit
      · exact ih hothers hn

section Entry

variable {hash : Text} {trace : Option Trace}

/-- A visit with a trace narrates what the transaction narrates by itself. -/
theorem transaction_of_trace {t : Trace} (hstated : entryHash value = .ok (some hash))
    (hhash : HashText.IsHash hash)
    (h : (visit topics node n position value).outcome = .ok (some t)) :
    t.place = ⟨n, position⟩ ∧ t.hash = some hash ∧
      (transaction topics node (.text hash)).outcome = .ok t.records := by
  obtain ⟨f, hat, htrace, -⟩ := visit_of_ok topics n position h
  obtain rfl := Finding.trace?_eq_some_iff.mp htrace
  cases hat with
  | trace stated fetched narrated =>
      obtain rfl := Except.ok.inj (hstated.symm.trans stated)
      exact ⟨rfl, rfl, (transaction_of_fetched hhash fetched).trans narrated⟩

/-- A visit without a trace could not have the receipt, and by itself the transaction ends with
the lack of it or with the node's own failure. -/
theorem transaction_of_no_trace (hstated : entryHash value = .ok (some hash))
    (hhash : HashText.IsHash hash)
    (h : (visit topics node n position value).outcome = .ok none) :
    (transaction topics node (.text hash)).outcome = .error (.notFound .receipt (.text hash)) ∨
      ∃ failure, node (.receipt (some hash)) = .failed failure ∧
        failure.kind.isPassing = true ∧
        (transaction topics node (.text hash)).outcome = .error (.lookup failure) := by
  obtain ⟨f, hat, hnone, -⟩ := visit_of_ok topics n position h
  cases hat with
  | trace stated fetched narrated => simp at hnone
  | noReceipt stated fetched =>
      obtain rfl := Except.ok.inj (hstated.symm.trans stated)
      rw [transaction_outcome topics node hhash]
      cases hrefusal : node.refusal? (.receipt (some hash)) with
      | none =>
          left
          rw [Node.ask_of_no_refusal hrefusal, fetched, Outcome.ok_bind]
      | some failure =>
          right
          have hask := Node.ask_of_refusal hrefusal
          obtain ⟨-, other, hreply, hother⟩ := Node.fetched_of_ask_error hask
          obtain rfl := Fault.lookup.inj hother
          rw [(visit_of_refusal topics n position hstated hrefusal).1] at h
          refine ⟨failure, hreply, ?_, by rw [hask, Outcome.error_bind]⟩
          by_contra hnot
          simp [hnot] at h

end Entry

section Scan

variable {range : BlockRange} (h : (scanRange topics node range).stop = none)
  (hn : n ∈ Finset.Icc range.first range.last) (hpos : 0 < position)
  (hget : (node.entriesOf n)[position]? = some value)
include h hn hpos hget

/-- A scan that is not ended visited the entry, and its one trace in this place is that of the
visit. -/
theorem exists_visit_of_scanRange :
    ∃ trace, (visit topics node n position value).outcome = .ok trace ∧
      ∀ t, t ∈ (scanRange topics node range).traces ∧ t.place = ⟨n, position⟩ ↔
        trace = some t := by
  obtain ⟨trace, hvisit⟩ := visit_of_scanBlocks h (BlockRange.mem_blocks.mpr hn) hpos hget
  obtain ⟨findings, haccounts⟩ := scanBlocks_accounts h
  obtain ⟨f, hat, rfl, -⟩ := visit_of_ok topics n position hvisit
  refine ⟨f.trace?, hvisit, fun t => ?_⟩
  rw [scanRange, haccounts.traces, mem_traces_iff haccounts.each, Finding.trace?_eq_some_iff]
  constructor
  · rintro ⟨⟨-, -, -, value', found, hget', stated, fetched, narrated⟩, hplace⟩
    obtain ⟨rfl, rfl⟩ := Place.mk.inj hplace
    obtain rfl := Option.some.inj (hget.symm.trans hget')
    exact hat.unique (.trace stated fetched narrated)
  · rintro rfl
    cases hat with
    | trace stated fetched narrated =>
        exact ⟨⟨hn, Node.hasBlock_of_entry hget, hpos, value, _, hget, stated, fetched, narrated⟩,
          rfl⟩

end Scan

/-- A scan that has a result and a transaction by itself agree about every entry of the range whose
hash is that of a transaction: the scan has a trace of the entry exactly if the transaction has
records, and they are the same. Without a trace the transaction ends with the lack of its receipt
or with the node's own failure to give it. -/
theorem scan_agrees_with_transaction {first last : Value} {traces : List Trace}
    {range : BlockRange} {hash : Text}
    (h : (Narration.range topics node first last).outcome = .ok traces)
    (hrange : BlockRange.ofValues first last = .ok range)
    (hn : n ∈ Finset.Icc range.first range.last) (hpos : 0 < position)
    (hget : (node.entriesOf n)[position]? = some value)
    (hstated : entryHash value = .ok (some hash)) (hhash : HashText.IsHash hash) :
    ((∃ t ∈ traces, t.place = ⟨n, position⟩) ↔
      ∃ records, (transaction topics node (.text hash)).outcome = .ok records) ∧
    (∀ t ∈ traces, t.place = ⟨n, position⟩ → t.hash = some hash ∧
      (transaction topics node (.text hash)).outcome = .ok t.records) ∧
    ((¬ ∃ t ∈ traces, t.place = ⟨n, position⟩) →
      (transaction topics node (.text hash)).outcome = .error (.notFound .receipt (.text hash)) ∨
      ∃ failure, node (.receipt (some hash)) = .failed failure ∧
        failure.kind.isPassing = true ∧
        (transaction topics node (.text hash)).outcome = .error (.lookup failure)) := by
  obtain ⟨range', hrange', hstop, rfl, -⟩ := scanRange_of_range h
  obtain rfl := Except.ok.inj (hrange.symm.trans hrange')
  obtain ⟨trace, hvisit, htraces⟩ := exists_visit_of_scanRange hstop hn hpos hget
  cases trace with
  | some t =>
      obtain ⟨hplace, hown, hrecords⟩ := transaction_of_trace hstated hhash hvisit
      have hmem := ((htraces t).mpr rfl).1
      refine ⟨iff_of_true ⟨t, hmem, hplace⟩ ⟨t.records, hrecords⟩, ?_, ?_⟩
      · intro u hu huplace
        obtain rfl := Option.some.inj ((htraces u).mp ⟨hu, huplace⟩)
        exact ⟨hown, hrecords⟩
      · intro hnone
        exact absurd ⟨t, hmem, hplace⟩ hnone
  | none =>
      have hfault := transaction_of_no_trace hstated hhash hvisit
      have hnone : ¬ ∃ t ∈ (scanRange topics node range).traces, t.place = ⟨n, position⟩ := by
        rintro ⟨t, ht, hplace⟩
        simpa using (htraces t).mp ⟨ht, hplace⟩
      refine ⟨iff_of_false hnone ?_, fun t ht hplace => absurd ⟨t, ht, hplace⟩ hnone,
        fun _ => hfault⟩
      rintro ⟨records, hrecords⟩
      rcases hfault with hfault | ⟨failure, -, -, hfault⟩
      · simp [hrecords] at hfault
      · simp [hrecords] at hfault

end Narration

/-- The hash of 32 equal bytes. -/
def hashOfByte (b : UInt8) : Text := Hex.marked (List.replicate 32 b)

/-- A node with one block of three entries. It has the receipt of one of them and fails on that of
another one. -/
def timeoutNode : Node
  | .block 1 => .found (.mapping [("transactions",
      .list [.bytes [], .bytes (List.replicate 32 1), .bytes (List.replicate 32 2)])])
  | .receipt (some hash) =>
    if hash = hashOfByte 1 then .found (receiptOf mixedEntries) else .failed ⟨.timeout, "late"⟩
  | _ => .absent

theorem scan_agrees_with_transaction_of_timeoutNode :
    ∃ traces,
      (Narration.range tradeTable timeoutNode (.int 1) (.int 1)).outcome = .ok traces ∧
      traces.map Trace.place = [⟨1, 1⟩] ∧
      HashText.IsHash (hashOfByte 1) ∧ HashText.IsHash (hashOfByte 2) ∧
      (∀ t ∈ traces, t.place = ⟨1, 1⟩ →
        (Narration.transaction tradeTable timeoutNode (.text (hashOfByte 1))).outcome =
          .ok t.records) ∧
      ¬ ∃ records,
        (Narration.transaction tradeTable timeoutNode (.text (hashOfByte 2))).outcome =
          .ok records := by
  have hplaces : (Narration.range tradeTable timeoutNode (.int 1) (.int 1)).outcome.toOption.map
      (List.map Trace.place) = some [⟨1, 1⟩] := by decide +kernel
  have hfirst : HashText.IsHash (hashOfByte 1) :=
    HashText.isTransactionHash_iff.mp (by decide +kernel)
  have hsecond : HashText.IsHash (hashOfByte 2) :=
    HashText.isTransactionHash_iff.mp (by decide +kernel)
  have hone : (1 : Int) ∈ Finset.Icc 1 1 := by decide
  have hgetFirst : (timeoutNode.entriesOf 1)[1]? = some (.bytes (List.replicate 32 1)) := rfl
  have hgetSecond : (timeoutNode.entriesOf 1)[2]? = some (.bytes (List.replicate 32 2)) := rfl
  obtain ⟨traces, htraces, hplaces⟩ := Outcome.exists_ok_of_view hplaces
  obtain ⟨-, hsame, -⟩ := Narration.scan_agrees_with_transaction htraces rfl hone (by decide)
    hgetFirst rfl hfirst
  obtain ⟨hiff, -, -⟩ := Narration.scan_agrees_with_transaction htraces rfl hone (by decide)
    hgetSecond rfl hsecond
  refine ⟨traces, htraces, hplaces, hfirst, hsecond, fun t ht hplace => (hsame t ht hplace).2,
    fun hrecords => ?_⟩
  obtain ⟨t, ht, hplace⟩ := hiff.mpr hrecords
  have hmem := List.mem_map_of_mem (f := Trace.place) ht
  rw [hplaces, hplace] at hmem
  simp at hmem

end OrderNarration
