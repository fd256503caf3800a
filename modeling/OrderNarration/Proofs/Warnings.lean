import OrderNarration.Proofs.AskedLookups

/-!
# Warnings and records of errors

What could not be narrated is told twice, in a record and in a diagnostic of the level of
a warning or above. The two are made in different places: an order warns where it is
resolved and gets its record where its trade is narrated. They are as many all the same,
and what a scan passes over is the only thing that has a diagnostic and no record.

## Implementation notes

The warnings of a run are counted on from a number that stands before it. So the count
after one part of a run is the count before the next part, and the parts need no sums.
-/

namespace OrderNarration

/-- The diagnostic has the level of a warning or above. -/
def Diagnostic.isWarning (d : Diagnostic) : Bool := decide (Logging.Level.warning ≤ d.level)

/-- The event is a diagnostic of the level of a warning or above. -/
def Event.isWarning : Event → Bool
  | asked _ => false
  | noted d => d.isWarning

/-- The number of warnings among events. -/
def warnings (events : List Event) : Nat := events.countP Event.isWarning

@[simp] theorem warnings_append (events others : List Event) :
    warnings (events ++ others) = warnings events + warnings others := by
  simp [warnings]

namespace Record

/-- The number of records that tell of something that could not be narrated. -/
def errors (records : List Record) : Nat := records.countP Record.isError

@[simp] theorem errors_nil : errors [] = 0 := rfl

@[simp] theorem errors_append (records others : List Record) :
    errors (records ++ others) = errors records + errors others := by
  simp [errors]

theorem errors_eq_length_reports (records : List Record) :
    errors records = (reports records).length := by
  rw [errors, reports, List.length_map, List.countP_eq_length_filter]

end Record

namespace Run

variable {α β : Type} {before : Nat} {r : Run α} {f : α → Run β}

/-- Counted on from the number before the run, its warnings make the number that its result
tells. A run without a result makes no claim. -/
def Warns (before : Nat) (r : Run α) (after : α → Nat) : Prop :=
  ∀ a, r.outcome = .ok a → before + warnings r.events = after a

theorem warns_pure {a : α} {after : α → Nat} (h : before = after a) :
    Warns before (pure a) after := by
  intro b hb
  obtain rfl := Except.ok.inj hb
  exact h

theorem warns_fail (e : Fault) {after : α → Nat} : Warns before (fail e) after := by
  intro a ha
  simp at ha

theorem warns_ofExcept (x : Except Fault α) : Warns before (ofExcept x) fun _ => before :=
  fun _ _ => rfl

/-- A run without a warning changes no count. -/
theorem warns_of_keeps (h : r.Keeps fun e => e.isWarning = false) :
    Warns before r fun _ => before := by
  intro a _
  have hnone : warnings r.events = 0 :=
    List.countP_eq_zero.mpr fun e he => by simp [h e he]
  rw [hnone, Nat.add_zero]

theorem warns_bind {middle : α → Nat} {after : β → Nat} (h : Warns before r middle)
    (hf : ∀ a, r.outcome = .ok a → Warns (middle a) (f a) after) :
    Warns before (r >>= f) after := by
  intro b hb
  rw [outcome_bind] at hb
  obtain ⟨a, ha, hb⟩ := Outcome.bind_eq_ok_iff.mp hb
  rw [events_bind_of_ok ha, warnings_append, ← Nat.add_assoc, h a ha]
  exact hf a ha b hb

theorem warns_map {g : α → β} {after : β → Nat} (h : Warns before r fun a => after (g a)) :
    Warns before (g <$> r) after := by
  intro b hb
  obtain ⟨a, ha, rfl⟩ := Outcome.map_eq_ok_iff.mp hb
  exact h a ha

section Note

variable {source : Source} {level : Logging.Level} {message : Text} {next : Unit → Run β}
  {after : β → Nat}

theorem warns_of_quiet_note (hlevel : level < Logging.Level.warning)
    (h : Warns before (next ()) after) :
    Warns before (note source level message >>= next) after := by
  refine warns_bind (warns_of_keeps (keeps_note ?_)) fun _ _ => h
  exact decide_eq_false (not_le.mpr hlevel)

theorem warns_of_loud_note (hlevel : Logging.Level.warning ≤ level)
    (h : Warns (before + 1) (next ()) after) :
    Warns before (note source level message >>= next) after := by
  have hloud : Event.isWarning (.noted ⟨source, level, message⟩) = true := decide_eq_true hlevel
  have hnote : Warns before (note source level message) fun _ => before + 1 := by
    intro _ _
    rw [events_note, warnings, List.countP_singleton, if_pos hloud]
  exact warns_bind hnote fun _ _ => h

end Note

end Run

open Run

theorem Node.ask_keeps_quiet (node : Node) (lookup : Lookup) :
    (node.ask lookup).Keeps fun e => e.isWarning = false := by
  refine (node.ask_events lookup).imp ?_
  rintro e (rfl | rfl)
  · rfl
  · rfl

theorem TopicTable.classify_keeps_quiet (topics : TopicTable) (topic : Value) :
    (topics.classify topic).Keeps fun e => e.isWarning = false := by
  rw [classify]
  split
  · exact keeps_pure _
  · exact keeps_pure _
  · exact keeps_bind (keeps_note rfl) fun _ => keeps_pure _

theorem Resolution.find_keeps_quiet (node : Node) (hash : Text) :
    (find node hash).Keeps fun e => e.isWarning = false := by
  refine keeps_bind (node.ask_keeps_quiet _) fun found => ?_
  cases found with
  | none => exact keeps_fail _
  | some transaction => exact keeps_ofExcept _

/-- A resolution warns exactly if the order is not resolved. -/
theorem Resolution.resolve_warns (node : Node) (hash : Text) (before : Nat) :
    Warns before (resolve node hash) fun r => before + if r.isSuccess then 0 else 1 := by
  apply warns_of_quiet_note (by decide)
  refine warns_bind (warns_of_keeps (keeps_attempt (find_keeps_quiet node hash))) fun x _ => ?_
  cases x with
  | ok intent => exact warns_of_quiet_note (by decide) (warns_pure rfl)
  | error e =>
      dsimp only
      split
      · exact warns_of_loud_note (by decide) (warns_pure rfl)
      · exact warns_of_loud_note (by decide) (warns_pure rfl)
      · split
        · exact warns_of_loud_note (by decide) (warns_pure rfl)
        · exact warns_fail _

namespace Narration

variable (topics : TopicTable) (node : Node) (log : EventLog) (kind : EventKind)
  (position : Value) (before : Nat)

/-- The warning of an order that is not resolved goes with the record of its leg. -/
theorem leg_warns (l : Leg) (hash : Text) :
    Warns before (leg node (log.record kind position) l hash) fun r =>
      before + Record.errors [r] := by
  refine warns_bind (Resolution.resolve_warns node hash before) fun resolution _ => ?_
  obtain ⟨resolved, outcome⟩ := resolution
  cases outcome with
  | ok intent => exact warns_bind (warns_ofExcept _) fun _ _ => warns_pure rfl
  | error wording => exact warns_pure rfl

theorem trade_warns (t : Trade) :
    Warns before (trade node (log.record kind position) t) fun records =>
      before + Record.errors records := by
  refine warns_bind (leg_warns node log kind position before .buy t.buyHash) fun buy _ => ?_
  refine warns_bind (leg_warns node log kind position _ .sell t.sellHash) fun sell _ => ?_
  apply warns_pure
  rw [Nat.add_assoc, ← Record.errors_append]
  rfl

theorem payload_warns (p : Payload) :
    Warns before (payload node (log.record kind position) p) fun records =>
      before + Record.errors records := by
  have hquiet (recordKind : RecordKind) (heading : Text) (ids : List Text)
      (h : recordKind ≠ .error) (h' : recordKind ≠ .unknownTopic) :
      before = before +
        Record.errors (hashes (log.record kind position) recordKind heading ids) := by
    rw [Record.errors_eq_length_reports, reports_hashes h h', List.length_nil, Nat.add_zero]
  cases p with
  | trade t => exact warns_of_quiet_note (by decide) (trade_warns node log kind position before t)
  | triggered ids => exact warns_pure (hquiet _ _ ids (by simp) (by simp))
  | canceled ids => exact warns_pure (hquiet _ _ ids (by simp) (by simp))
  | empty => exact warns_pure rfl

/-- A log has as many warnings as records of errors. -/
theorem log_warns (given : Value) :
    Warns before (Narration.log topics node log given) fun records =>
      before + Record.errors records := by
  refine warns_bind (warns_of_keeps (topics.classify_keeps_quiet _)) fun classification _ => ?_
  refine warns_bind (warns_ofExcept _) fun place _ => ?_
  apply warns_of_quiet_note (by decide)
  split
  · exact warns_of_loud_note (by decide) (warns_pure rfl)
  · split
    · exact warns_pure rfl
    · split
      · exact warns_of_loud_note (by decide) (warns_pure rfl)
      · split
        · exact payload_warns node log _ _ before _
        · exact warns_of_loud_note (by decide) (warns_pure rfl)

theorem entry_warns (hash : Option Text) (place : Nat) (value : Value) :
    Warns before (entry topics node hash place value) fun records =>
      before + Record.errors records := by
  refine warns_bind (warns_ofExcept _) fun log _ => ?_
  refine warns_bind (warns_of_keeps (topics.classify_keeps_quiet _)) fun classification _ => ?_
  refine warns_bind (log_warns topics node _ before _) fun records _ => warns_pure ?_
  rw [Record.errors, Record.errors, List.countP_cons_of_neg (by simp [Record.isError])]

theorem entriesFrom_warns (hash : Option Text) (place : Nat) (values : List Value) :
    Warns before (entriesFrom topics node hash place values) fun records =>
      before + Record.errors records := by
  induction values generalizing place before with
  | nil => exact warns_pure rfl
  | cons v rest ih =>
      refine warns_bind (entry_warns topics node before hash place v) fun records _ => ?_
      apply warns_map
      simp only [Record.errors_append, ← Nat.add_assoc]
      exact ih _ (place + 1)

/-- A receipt has as many warnings as records of errors. -/
theorem receipt_warns (value : Value) (hash : Option Text) :
    Warns before (receipt topics node value hash) fun records =>
      before + Record.errors records := by
  refine warns_bind (warns_ofExcept _) fun entries _ => ?_
  cases entries with
  | nil => exact warns_pure rfl
  | cons first rest => exact entriesFrom_warns topics node before hash 0 (first :: rest)

/-- A visit has as many warnings as its trace has records of errors, and one if there is no
trace. -/
theorem visit_warns (number : Int) (place : Nat) (value : Value) :
    Warns before (visit topics node number place value) fun trace =>
      before + trace.elim 1 fun t => Record.errors t.records := by
  refine warns_bind (warns_ofExcept _) fun hash _ => ?_
  refine warns_bind (warns_of_keeps (keeps_attempt (node.ask_keeps_quiet _))) fun x _ => ?_
  split
  · exact warns_bind (receipt_warns topics node before _ hash) fun records _ => warns_pure rfl
  · exact warns_of_loud_note (by decide) (warns_pure rfl)
  · split
    · exact warns_of_loud_note (by decide) (warns_pure rfl)
    · exact warns_fail _

theorem blockEntries_warns (number : Int) :
    Warns before (blockEntries node number) fun _ =>
      before + if node.hasBlock number then 0 else 1 := by
  refine warns_bind (warns_of_keeps (keeps_attempt (node.ask_keeps_quiet _))) fun x hx => ?_
  have hask : (node.ask (.block number)).outcome = x := Except.ok.inj hx
  rw [Node.hasBlock]
  cases x with
  | ok found =>
      rw [Node.fetched_of_ask hask]
      cases found with
      | none => exact warns_of_loud_note (by decide) (warns_pure rfl)
      | some block => exact warns_ofExcept _
  | error e =>
      rw [(Node.fetched_of_ask_error hask).1]
      dsimp only
      split
      · exact warns_of_loud_note (by decide) (warns_pure rfl)
      · exact warns_fail _

variable {topics node}

/-- The warnings of a visit are those of its trace's errors, and the walker's own complaint. -/
theorem visit_warnings {number : Int} {place : Nat} {value : Value} {trace : Option Trace}
    (h : (visit topics node number place value).outcome = .ok trace) :
    warnings (visit topics node number place value).events =
      Record.errors (trace.toList.flatMap Trace.records) +
        (complaints (visit topics node number place value).events).length := by
  have hwarns := visit_warns topics node 0 number place value trace h
  obtain ⟨f, -, rfl, hcomplaints⟩ := visit_of_ok topics number place h
  rw [Nat.zero_add] at hwarns
  rw [hwarns, hcomplaints]
  cases f with
  | trace t => simp
  | miss m => rfl

theorem blockEntries_warnings {number : Int} {entries : List Value}
    (h : (blockEntries node number).outcome = .ok entries) :
    warnings (blockEntries node number).events =
      (complaints (blockEntries node number).events).length := by
  have hwarns := blockEntries_warns node 0 number entries h
  rw [Nat.zero_add, Nat.zero_add] at hwarns
  rw [hwarns, (blockEntries_of_ok h).2]
  cases node.hasBlock number with
  | true => rfl
  | false => rfl

theorem scanEntries_warnings {number : Int} {place : Nat} {entries : List Value}
    (h : (scanEntries topics node number place entries).stop = none) :
    warnings (scanEntries topics node number place entries).events =
      Record.errors ((scanEntries topics node number place entries).traces.flatMap
        Trace.records) +
        (complaints (scanEntries topics node number place entries).events).length := by
  induction entries generalizing place with
  | nil => rfl
  | cons v rest ih =>
      obtain ⟨trace, hvisit, hrest, hscan⟩ := scanEntries_cons_of_stop_eq_none h
      have hfirst := visit_warnings hvisit
      have hothers := ih hrest
      rw [hscan]
      simp only [warnings_append, complaints_append, List.length_append,
        List.flatMap_append, Record.errors_append]
      omega

/-- The warnings of a scan are those of its traces' errors, and the walker's own complaints. -/
theorem scanBlocks_warnings {number : Int} {count : Nat}
    (h : (scanBlocks topics node number count).stop = none) :
    warnings (scanBlocks topics node number count).events =
      Record.errors ((scanBlocks topics node number count).traces.flatMap Trace.records) +
        (complaints (scanBlocks topics node number count).events).length := by
  induction count generalizing number with
  | zero => rfl
  | succ count ih =>
      obtain ⟨entries, hblock, hentries, hothers, hscan⟩ := scanBlocks_succ_of_stop_eq_none h
      have hown := blockEntries_warnings hblock
      have hfirst := scanEntries_warnings hentries
      have hmore := ih hothers
      rw [hscan]
      simp only [warnings_append, complaints_append, List.length_append, List.flatMap_append,
        Record.errors_append]
      omega

/-- Records and diagnostics agree: a log and a receipt have as many warnings as records of errors,
and a range has one more for each of its misses, which are the blocks that the node does not give
and the entries, after the first ones, whose receipts it does not give. -/
theorem warnings_match_errors (topics : TopicTable) (node : Node) :
    (∀ log given records, (Narration.log topics node log given).outcome = .ok records →
      warnings (Narration.log topics node log given).events = Record.errors records) ∧
    (∀ value hash records, (receipt topics node value hash).outcome = .ok records →
      warnings (receipt topics node value hash).events = Record.errors records) ∧
    ∀ first last traces, (Narration.range topics node first last).outcome = .ok traces →
      ∃ range : BlockRange, BlockRange.ofValues first last = .ok range ∧
        ∃ misses : List Miss,
          (∀ m, m ∈ misses ↔
            m.place.block ∈ Finset.Icc range.first range.last ∧ m.IsOf node) ∧
          misses.Pairwise (fun m n => m.place.Before n.place) ∧
          warnings (Narration.range topics node first last).events =
            Record.errors (traces.flatMap Trace.records) + misses.length := by
  refine ⟨?_, ?_, ?_⟩
  · intro log given records h
    simpa using log_warns topics node log 0 given records h
  · intro value hash records h
    simpa using receipt_warns topics node 0 value hash records h
  · intro first last traces h
    obtain ⟨range, hrange, hstop, rfl, hevents⟩ := scanRange_of_range h
    obtain ⟨findings, haccounts⟩ := scanBlocks_accounts hstop
    have hfindings := Finding.pairwise_of_forall₂ haccounts.each
      (node.spots_pairwise range.first range.count)
    refine ⟨range, hrange, findings.filterMap Finding.miss?,
      fun m => mem_misses_iff haccounts.each,
      Finding.pairwise_filterMap (fun _ _ => Finding.place_of_miss?) hfindings, ?_⟩
    rw [hevents, scanRange, scanBlocks_warnings hstop, haccounts.complaints, List.length_map]

end Narration

/-- Each of two trades has two orders that cannot be fetched, and their receipt is the only one of
its range: two warnings for the trade alone, four for the receipt, and two more for the range. -/
theorem warnings_match_errors_of_failingNode :
    (∃ records, (Narration.log tradeTable failingNode tradeLog (.int 0)).outcome = .ok records ∧
      warnings (Narration.log tradeTable failingNode tradeLog (.int 0)).events =
        Record.errors records ∧ Record.errors records = 2) ∧
    (∃ records,
      (Narration.receipt tradeTable failingNode (receiptOf repeatedEntries) none).outcome =
        .ok records ∧
      warnings
          (Narration.receipt tradeTable failingNode (receiptOf repeatedEntries) none).events =
        Record.errors records ∧ Record.errors records = 4) ∧
    ∃ (traces : List Trace) (misses : List Miss),
      (Narration.range tradeTable failingNode (.int 1) (.int 2)).outcome = .ok traces ∧
      warnings (Narration.range tradeTable failingNode (.int 1) (.int 2)).events =
        Record.errors (traces.flatMap Trace.records) + misses.length ∧
      Record.errors (traces.flatMap Trace.records) = 4 ∧ misses.length = 2 := by
  obtain ⟨hlog, hreceipt, hrange⟩ := Narration.warnings_match_errors tradeTable failingNode
  have htrade : (Narration.log tradeTable failingNode tradeLog
      (.int 0)).outcome.toOption.map Record.errors = some 2 := by decide +kernel
  have hlogs : (Narration.receipt tradeTable failingNode (receiptOf repeatedEntries)
      none).outcome.toOption.map Record.errors = some 4 := by decide +kernel
  have hblocks : (Narration.range tradeTable failingNode (.int 1) (.int 2)).outcome.toOption.map
      (fun traces => Record.errors (traces.flatMap Trace.records)) = some 4 := by decide +kernel
  have hsix : warnings (Narration.range tradeTable failingNode (.int 1) (.int 2)).events = 6 := by
    decide +kernel
  obtain ⟨records, hrecords, htwo⟩ := Outcome.exists_ok_of_view htrade
  obtain ⟨others, hothers, hfour⟩ := Outcome.exists_ok_of_view hlogs
  obtain ⟨traces, htraces, herrors⟩ := Outcome.exists_ok_of_view hblocks
  obtain ⟨range, -, misses, -, -, hwarnings⟩ := hrange _ _ _ htraces
  exact ⟨⟨records, hrecords, hlog _ _ _ hrecords, htwo⟩,
    ⟨others, hothers, hreceipt _ _ _ hothers, hfour⟩,
    traces, misses, htraces, hwarnings, herrors, by omega⟩

end OrderNarration
