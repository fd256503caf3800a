import Mathlib
import OrderNarration.Proofs.LogContainment
import OrderNarration.Proofs.ScanAccount
import OrderNarration.Proofs.ScanCourse

/-!
# What ends a scan

On a node under contract a scan passes over every block and every receipt that it
cannot have, and every problem of a log or an order becomes a record. Two inputs are
left out, both read after all faults have been caught: log data that is a text and
not hexadecimal, and an order whose side is an infinity. A scan that comes to neither
of them visits every block and has a trace for every receipt it was given.

Two limits of the machine end a scan as well, and the contract keeps away from both: a
reader that recurs has no room for an order's text that is nested too deep, and a message
has no numeral for the number of a block that is too long.
-/

namespace OrderNarration

/-- The faults that end a scan on a node under contract. -/
def Fault.endsScan : Fault → Bool
  | hexText _ => true
  | noInteger .infiniteFloat => true
  | _ => false

/-- A result is there unless the condition holds, and then a fault that ends a scan is there. -/
structure EndsOnlyIf {α : Type} (bad : Prop) (x : Except Fault α) : Prop where
  result : ¬ bad → ∃ a, x = .ok a
  fault : bad → ∃ e, x = .error e ∧ e.endsScan = true

namespace EndsOnlyIf

variable {α β : Type} {bad bad' : Prop} {x : Except Fault α}

theorem of_ok {a : α} (hbad : ¬ bad) (h : x = .ok a) : EndsOnlyIf bad x :=
  ⟨fun _ => ⟨a, h⟩, fun hyes => absurd hyes hbad⟩

theorem of_error {e : Fault} (hbad : bad) (h : x = .error e) (he : e.endsScan = true) :
    EndsOnlyIf bad x :=
  ⟨fun hno => absurd hbad hno, fun _ => ⟨e, h, he⟩⟩

theorem not_of_ok {a : α} (h : EndsOnlyIf bad x) (hok : x = .ok a) : ¬ bad := by
  intro hbad
  obtain ⟨e, herror, -⟩ := h.fault hbad
  simp [hok] at herror

theorem endsScan_of_error {e : Fault} (h : EndsOnlyIf bad x) (herror : x = .error e) :
    e.endsScan = true := by
  by_cases hbad : bad
  · obtain ⟨e', he', hends⟩ := h.fault hbad
    obtain rfl := Except.error.inj (herror.symm.trans he')
    exact hends
  · obtain ⟨a, hok⟩ := h.result hbad
    simp [hok] at herror

theorem congr (h : EndsOnlyIf bad x) (hiff : bad ↔ bad') : EndsOnlyIf bad' x :=
  ⟨fun hno => h.result (hiff.not.mpr hno), fun hyes => h.fault (hiff.mpr hyes)⟩

theorem map (f : α → β) (h : EndsOnlyIf bad x) : EndsOnlyIf bad (f <$> x) := by
  constructor
  · intro hno
    obtain ⟨a, rfl⟩ := h.result hno
    exact ⟨f a, rfl⟩
  · intro hyes
    obtain ⟨e, rfl, he⟩ := h.fault hyes
    exact ⟨e, rfl, he⟩

/-- A sequence of two parts ends only where one of them does. -/
theorem bind {f : α → Except Fault β} (h : EndsOnlyIf bad x)
    (hf : ∀ a, x = .ok a → EndsOnlyIf bad' (f a)) : EndsOnlyIf (bad ∨ bad') (x >>= f) := by
  by_cases hbad : bad
  · obtain ⟨e, rfl, he⟩ := h.fault hbad
    exact of_error (Or.inl hbad) rfl he
  · obtain ⟨a, rfl⟩ := h.result hbad
    exact (hf a rfl).congr ⟨Or.inr, fun hor => hor.resolve_left hbad⟩

end EndsOnlyIf

namespace Value

/-- The data of a log is a text that is not hexadecimal. -/
def hasUnreadableData (entry : Value) : Bool :=
  match entry.field "data" with
  | .ok (.text t) =>
    match Hex.readText t with
    | .ok _ => false
    | .error _ => true
  | _ => false

/-- The logs of a receipt. -/
def logs (receipt : Value) : List Value :=
  match receipt.field "logs" >>= itemsOrNone with
  | .ok items => items
  | .error _ => []

/-- The entry of a receipt is a log whose narration ends a scan. -/
def EndsScan (topics : TopicTable) (node : Node) (entry : Value) : Prop :=
  entry.hasUnreadableData = true ∨
    ∃ log, EventLog.ofValue entry = .ok log ∧ log.StatesInfiniteSide topics node

end Value

/-- The logs of a receipt under contract are those that it lists, and have the shape of logs. -/
theorem Value.logs_of_isReceipt {found : Value} (shaped : found.isReceipt = true) :
    (found.field "logs" >>= itemsOrNone) = .ok found.logs ∧
      ∀ l ∈ found.logs, l.isLogEntry = true := by
  obtain ⟨value, hfield, hlist⟩ := fieldHas_iff.mp shaped
  obtain ⟨items, hitems, hall⟩ := itemsOrNone_of_isListOf hlist
  have hlogs : (found.field "logs" >>= itemsOrNone) = .ok items := by
    rw [hfield, Outcome.ok_bind, hitems]
  have hown : found.logs = items := by rw [logs, hlogs]
  exact ⟨hown.symm ▸ hlogs, hown.symm ▸ hall⟩

/-- A log under contract is read, or its data is no hexadecimal text and this is its fault. -/
theorem EventLog.ofValue_of_isLogEntry {entry : Value} (shaped : entry.isLogEntry = true) :
    ((∃ log, EventLog.ofValue entry = .ok log) ∧ entry.hasUnreadableData = false) ∨
      ((∃ cause, EventLog.ofValue entry = .error (.hexText cause)) ∧
        entry.hasUnreadableData = true) := by
  simp only [Value.isLogEntry, Bool.and_eq_true, Value.fieldHas_iff] at shaped
  obtain ⟨⟨⟨topics, htopics, hlist⟩, data, hdata, hbytes⟩, hash, hhash, hisData⟩ := shaped
  obtain ⟨items, hitems, hall⟩ := Value.itemsOrNone_of_isListOf hlist
  obtain ⟨hashes, hhashes⟩ :=
    Outcome.mapM_eq_ok fun v hv => Value.hashText_of_isData (hall v hv)
  obtain ⟨own, hown⟩ := Value.hashText_of_isData hisData
  obtain ⟨index, hindex⟩ := Value.field_of_field htopics "logIndex"
  rcases Value.byteString_of_isData hbytes with ⟨bytes, hread⟩ | ⟨t, cause, rfl, htext, hread⟩
  · have hreadable : entry.hasUnreadableData = false := by
      cases data with
      | text t =>
          cases htext : Hex.readText t with
          | ok b => simp [Value.hasUnreadableData, hdata, htext]
          | error cause => simp [Value.byteString, htext] at hread
      | _ => simp [Value.hasUnreadableData, hdata]
    have hlog : EventLog.ofValue entry =
        .ok ⟨hashes.map fun h => (h.map Value.text).getD .null, bytes, own, index⟩ := by
      simp only [EventLog.ofValue, htopics, hitems, hhashes, hhash, hdata, hread, hown, hindex,
        Outcome.mapError_ok, Outcome.ok_bind]
      rfl
    exact Or.inl ⟨⟨_, hlog⟩, hreadable⟩
  · have hunreadable : entry.hasUnreadableData = true := by
      simp [Value.hasUnreadableData, hdata, htext]
    have hfault : EventLog.ofValue entry = .error (.hexText cause) := by
      simp only [EventLog.ofValue, htopics, hitems, hhashes, hhash, hdata, hread,
        Outcome.mapError_ok, Outcome.ok_bind, Outcome.error_bind]
    exact Or.inr ⟨⟨cause, hfault⟩, hunreadable⟩

/-- A log under contract is read unless its data is no hexadecimal text. -/
theorem EventLog.ofValue_endsOnlyIf {entry : Value} (shaped : entry.isLogEntry = true) :
    EndsOnlyIf (entry.hasUnreadableData = true) (EventLog.ofValue entry) := by
  rcases ofValue_of_isLogEntry shaped with ⟨⟨log, hlog⟩, hreadable⟩ | ⟨⟨cause, hfault⟩, hbad⟩
  · exact .of_ok (by simp [hreadable]) hlog
  · exact .of_error hbad hfault rfl

namespace Narration

variable (topics : TopicTable) {node : Node}

/-- A log ends its narration only if it states an infinite side. -/
theorem log_endsOnlyIf (log : EventLog) (orders : node.AnswersOrders) (position : Nat) :
    EndsOnlyIf (log.StatesInfiniteSide topics node)
      (Narration.log topics node log (.int position)).outcome := by
  have shown : (log.position (.int position)).display?.isSome := rfl
  by_cases hside : log.StatesInfiniteSide topics node
  · exact .of_error hside (log_of_infinite_side shown orders hside) rfl
  · obtain ⟨records, hrecords, -⟩ := log_of_finite_sides shown orders hside
    exact .of_ok hside hrecords

theorem entry_endsOnlyIf {entry : Value} (orders : node.AnswersOrders)
    (shaped : entry.isLogEntry = true) (hash : Option Text) (position : Nat) :
    EndsOnlyIf (entry.EndsScan topics node)
      (Narration.entry topics node hash position entry).outcome := by
  unfold Narration.entry Value.EndsScan
  simp only [Run.outcome_bind, Run.outcome_ofExcept, TopicTable.classify_outcome, Outcome.ok_bind]
  refine (EventLog.ofValue_endsOnlyIf shaped).bind fun log hlog => ?_
  have hiff : log.StatesInfiniteSide topics node ↔
      ∃ log, EventLog.ofValue entry = .ok log ∧ log.StatesInfiniteSide topics node := by
    constructor
    · exact fun hside => ⟨log, hlog, hside⟩
    · rintro ⟨other, hother, hside⟩
      obtain rfl := Except.ok.inj (hlog.symm.trans hother)
      exact hside
  -- the hash that the receipt was asked for says nothing about the sides of the orders
  have hsame : ({ log with hash := log.hash.or hash } : EventLog).StatesInfiniteSide topics node ↔
      log.StatesInfiniteSide topics node := Iff.rfl
  have hnarrated := log_endsOnlyIf topics { log with hash := log.hash.or hash } orders position
  exact (hnarrated.map _).congr (hsame.trans hiff)

/-- The narration of entries ends only at one that ends a scan. -/
theorem entriesFrom_endsOnlyIf {entries : List Value} (orders : node.AnswersOrders)
    (shaped : ∀ l ∈ entries, l.isLogEntry = true) (hash : Option Text) (position : Nat) :
    EndsOnlyIf (∃ l ∈ entries, l.EndsScan topics node)
      (entriesFrom topics node hash position entries).outcome := by
  induction entries generalizing position with
  | nil => exact .of_ok (by simp) rfl
  | cons l rest ih =>
      rw [entriesFrom, Run.outcome_bind]
      have hl := entry_endsOnlyIf topics orders (shaped l List.mem_cons_self) hash position
      have hrest := ih (fun l' hl' => shaped l' (List.mem_cons_of_mem _ hl')) (position + 1)
      exact (hl.bind fun records _ => hrest.map _).congr (by simp)

/-- The narration of a receipt under contract ends only at a log that ends a scan. -/
theorem receipt_endsOnlyIf {found : Value} (orders : node.AnswersOrders)
    (shaped : found.isReceipt = true) (hash : Option Text) :
    EndsOnlyIf (∃ l ∈ found.logs, l.EndsScan topics node)
      (receipt topics node found hash).outcome := by
  obtain ⟨hlogs, hall⟩ := Value.logs_of_isReceipt shaped
  rw [receipt, Run.outcome_bind, Run.outcome_ofExcept, hlogs]
  have hentries := entriesFrom_endsOnlyIf topics orders hall hash 0
  generalize found.logs = items at hentries ⊢
  cases items with
  | nil => exact .of_ok (by simp) rfl
  | cons l rest => exact hentries

end Narration

namespace Node

variable {node : Node}

/-- The log is one of the receipt that the node gives for a block's entry. -/
def LogOf (node : Node) (value log : Value) : Prop :=
  ∃ hash found, Narration.entryHash value = .ok hash ∧
    node.fetched (.receipt hash) = some found ∧ log ∈ found.logs

/-- Under contract the entries of a block have the shape of entries. -/
theorem entriesOf_shaped (answers : node.Answers) {number : Int} {value : Value}
    (h : value ∈ node.entriesOf number) : value.isBlockEntry = true := by
  rw [entriesOf] at h
  cases hfetched : node.fetched (.block number) with
  | none => simp [hfetched] at h
  | some block =>
      obtain ⟨listed, hfield, hlist⟩ :=
        Value.fieldHas_iff.mp ((answers.blocks number).shaped block hfetched)
      obtain ⟨items, hitems, hall⟩ := Value.itemsOrNone_of_isListOf hlist
      simp only [hfetched, hfield, Outcome.ok_bind, hitems] at h
      exact hall value h

end Node

namespace Narration

variable (topics : TopicTable) {node : Node}

theorem entryHash_of_isBlockEntry {value : Value} (h : value.isBlockEntry = true) :
    ∃ hash, entryHash value = .ok hash := by
  cases value with
  | text t => exact ⟨_, rfl⟩
  | bytes b => exact ⟨_, rfl⟩
  | mapping entries =>
      cases hkey : (Value.mapping entries).key "hash" with
      | error e => simp [Value.isBlockEntry, hkey] at h
      | ok stated =>
          have hdata : stated.isData = true := by simpa [Value.isBlockEntry, hkey] using h
          obtain ⟨hash, hhash⟩ := Value.hashText_of_isData hdata
          exact ⟨hash, by simp [entryHash, hkey, hhash]⟩
  | _ => simp [Value.isBlockEntry, Value.key] at h

/-- A visit under contract ends only at a log that ends a scan. -/
theorem visit_endsOnlyIf (answers : node.Answers) {value : Value}
    (shaped : value.isBlockEntry = true) (block : Int) (position : Nat) :
    EndsOnlyIf (∃ l, node.LogOf value l ∧ l.EndsScan topics node)
      (visit topics node block position value).outcome := by
  obtain ⟨hash, hhash⟩ := entryHash_of_isBlockEntry shaped
  cases hfetched : node.fetched (.receipt hash) with
  | some found =>
      have hreceipt := receipt_endsOnlyIf topics answers.orders
        ((answers.receipts hash).shaped found hfetched) hash
      have hiff : (∃ l ∈ found.logs, l.EndsScan topics node) ↔
          ∃ l, node.LogOf value l ∧ l.EndsScan topics node := by
        constructor
        · rintro ⟨l, hl, hends⟩
          exact ⟨l, ⟨hash, found, hhash, hfetched, hl⟩, hends⟩
        · rintro ⟨l, ⟨hash', found', hhash', hfetched', hl⟩, hends⟩
          obtain rfl := Except.ok.inj (hhash.symm.trans hhash')
          obtain rfl := Option.some.inj (hfetched.symm.trans hfetched')
          exact ⟨l, hl, hends⟩
      rw [(visit_of_receipt topics block position hhash hfetched).1]
      exact (hreceipt.map _).congr hiff
  | none =>
      have hnone : ¬ ∃ l, node.LogOf value l ∧ l.EndsScan topics node := by
        rintro ⟨l, ⟨hash', found', hhash', hfetched', -⟩, -⟩
        obtain rfl := Except.ok.inj (hhash.symm.trans hhash')
        simp [hfetched] at hfetched'
      cases hrefusal : node.refusal? (.receipt hash) with
      | none =>
          exact .of_ok hnone (visit_of_no_receipt topics block position hhash hrefusal hfetched).1
      | some failure =>
          have hpassing := (answers.receipts hash).passing_of_refusal hrefusal
          have houtcome := (visit_of_refusal topics block position hhash hrefusal).1
          rw [if_pos hpassing] at houtcome
          exact .of_ok hnone houtcome

/-- Under contract every block is visited with the entries that the node gives for it. -/
theorem blockEntries_of_answers (answers : node.Answers) (number : Int) :
    (blockEntries node number).outcome = .ok (node.entriesOf number) := by
  cases hfetched : node.fetched (.block number) with
  | some block =>
      obtain ⟨listed, hfield, hlist⟩ :=
        Value.fieldHas_iff.mp ((answers.blocks number).shaped block hfetched)
      obtain ⟨items, hitems, -⟩ := Value.itemsOrNone_of_isListOf hlist
      rw [(blockEntries_of_block hfetched).1]
      simp [Node.entriesOf, hfetched, hfield, hitems]
  | none =>
      have hempty : node.entriesOf number = [] := by simp [Node.entriesOf, hfetched]
      rw [hempty]
      cases hrefusal : node.refusal? (.block number) with
      | none => exact (blockEntries_of_no_block hrefusal hfetched).1
      | some failure =>
          have hpassing := (answers.blocks number).passing_of_refusal hrefusal
          rw [(blockEntries_of_refusal hrefusal).1, if_pos hpassing]

end Narration

namespace Narration

variable (topics : TopicTable) {node : Node}

theorem scanEntries_endsOnlyIf (answers : node.Answers) {entries : List Value}
    (shaped : ∀ v ∈ entries, v.isBlockEntry = true) (block : Int) (position : Nat) :
    EndsOnlyIf (∃ v ∈ entries, ∃ l, node.LogOf v l ∧ l.EndsScan topics node)
      (scanEntries topics node block position entries).toRun.outcome := by
  induction entries generalizing position with
  | nil => exact .of_ok (by simp) rfl
  | cons v rest ih =>
      have hv := visit_endsOnlyIf topics answers (shaped v List.mem_cons_self) block position
      have hrest := ih (fun w hw => shaped w (List.mem_cons_of_mem _ hw)) (position + 1)
      rw [scanEntries, Scan.toRun_after]
      simp only [Scan.toRun_withTrace]
      exact (hv.bind fun trace _ => hrest.map _).congr (by simp)

/-- A scan of blocks under contract ends only at a log that ends a scan. -/
theorem scanBlocks_endsOnlyIf (answers : node.Answers) (number : Int) (count : Nat) :
    EndsOnlyIf
      (∃ n ∈ blocksFrom number count, ∃ v ∈ (node.entriesOf n).drop 1,
        ∃ l, node.LogOf v l ∧ l.EndsScan topics node)
      (scanBlocks topics node number count).toRun.outcome := by
  induction count generalizing number with
  | zero => exact .of_ok (by simp [blocksFrom]) rfl
  | succ count ih =>
      have hshaped : ∀ v ∈ (node.entriesOf number).drop 1, v.isBlockEntry = true :=
        fun v hv => Node.entriesOf_shaped answers (List.mem_of_mem_drop hv)
      have hentries := scanEntries_endsOnlyIf topics answers hshaped number 1
      rw [scanBlocks, Scan.toRun_after, blockEntries_of_answers answers, Outcome.ok_bind,
        Scan.toRun_append, blocksFrom]
      exact (hentries.bind fun traces _ => (ih (number + 1)).map _).congr (by simp)

end Narration

/-- The block that an event asks for. -/
def Event.block? : Event → Option Int
  | asked (.block number) => some number
  | _ => none

/-- The blocks that were asked for, in order. -/
def blocksAsked (events : List Event) : List Int := events.filterMap Event.block?

@[simp] theorem blocksAsked_append (events others : List Event) :
    blocksAsked (events ++ others) = blocksAsked events ++ blocksAsked others := by
  simp [blocksAsked]

theorem blocksAsked_of_keeps {α : Type} {r : Run α} (h : r.Keeps fun e => e.block? = none) :
    blocksAsked r.events = [] :=
  List.filterMap_eq_nil_iff.mpr h

namespace Narration

open Run

variable (topics : TopicTable) (node : Node)

/-- No block is asked for while an entry is visited. -/
theorem visit_asks_no_block (block : Int) (position : Nat) (value : Value) :
    (visit topics node block position value).Keeps fun e => e.block? = none := by
  rw [visit]
  refine keeps_bind (keeps_ofExcept _) fun hash => ?_
  have hask : (node.ask (.receipt hash)).Keeps fun e => e.block? = none := by
    refine (node.ask_events _).imp ?_
    rintro e (rfl | rfl)
    · rfl
    · rfl
  apply keeps_bind (keeps_attempt hask)
  intro result
  split
  next found =>
    have hreceipt := (receipt_staysWithinReceipt topics node found hash).imp fun e he => by
      show e.block? = none
      cases e with
      | asked lookup => cases lookup <;> simp [Event.isWithinReceipt, Event.block?] at he ⊢
      | noted d => rfl
    exact keeps_bind hreceipt fun _ => keeps_pure _
  · exact keeps_bind (keeps_note rfl) fun _ => keeps_pure _
  · split
    · exact keeps_bind (keeps_note rfl) fun _ => keeps_pure _
    · exact keeps_fail _

/-- No block is asked for while entries are visited. -/
theorem courseEntries_blocksAsked (nodes : Nat → Node) (block : Int) (taken position : Nat)
    (entries : List Value) :
    blocksAsked (courseEntries topics nodes block taken position entries).events = [] := by
  induction entries generalizing taken position with
  | nil => rfl
  | cons v rest ih =>
      have hvisit := blocksAsked_of_keeps
        (visit_asks_no_block topics (nodes taken) block position v)
      rw [courseEntries, Course.events_after, blocksAsked_append, hvisit, List.nil_append]
      cases (visit topics (nodes taken) block position v).outcome with
      | error e => rfl
      | ok trace =>
          cases trace with
          | none => exact ih taken (position + 1)
          | some t =>
              dsimp only
              rw [Course.events_withTrace]
              exact ih (taken + 1) (position + 1)

theorem scanEntries_blocksAsked (block : Int) (position : Nat) (entries : List Value) :
    blocksAsked (scanEntries topics node block position entries).events = [] := by
  rw [← scan_courseEntries topics node block 0 position entries]
  exact courseEntries_blocksAsked topics (fun _ => node) block 0 position entries

theorem blockEntries_blocksAsked (number : Int) :
    blocksAsked (blockEntries node number).events = [number] := by
  have hask : blocksAsked (node.ask (.block number)).events = [number] := by
    unfold Node.ask
    dsimp only
    split
    · rfl
    · rfl
    · rfl
    · split <;> rfl
  rw [blockEntries, events_bind, outcome_attempt, events_attempt, blocksAsked_append, hask]
  cases (node.ask (.block number)).outcome with
  | ok found => cases found <;> rfl
  | error e =>
      dsimp only
      split <;> rfl

/-- A scan that was not ended has asked for every block, in order. -/
theorem scanBlocks_blocksAsked {number : Int} {count : Nat}
    (h : (scanBlocks topics node number count).stop = none) :
    blocksAsked (scanBlocks topics node number count).events = blocksFrom number count := by
  induction count generalizing number with
  | zero => rfl
  | succ count ih =>
      obtain ⟨entries, -, -, hothers, hscan⟩ := scanBlocks_succ_of_stop_eq_none h
      rw [hscan, blocksAsked_append, blocksAsked_append, blockEntries_blocksAsked,
        scanEntries_blocksAsked, ih hothers, blocksFrom]
      rfl

end Narration

/-- The log is one that a scan of the range comes to: it is of a receipt that the node gives for
an entry of a block of the range, from the second entry on. -/
def Node.ScansLog (node : Node) (range : BlockRange) (log : Value) : Prop :=
  ∃ n ∈ Finset.Icc range.first range.last, ∃ v ∈ (node.entriesOf n).drop 1, node.LogOf v log

namespace Narration

variable {topics : TopicTable} {node : Node} {range : BlockRange}

theorem scanRange_endsOnlyIf (topics : TopicTable) (range : BlockRange) (answers : node.Answers) :
    EndsOnlyIf (∃ log, node.ScansLog range log ∧ log.EndsScan topics node)
      (scanRange topics node range).toRun.outcome := by
  refine (scanBlocks_endsOnlyIf topics answers range.first range.count).congr ?_
  constructor
  · rintro ⟨n, hn, v, hv, log, hlog, hends⟩
    exact ⟨log, ⟨n, BlockRange.mem_blocks.mp hn, v, hv, hlog⟩, hends⟩
  · rintro ⟨log, ⟨n, hn, v, hv, hlog⟩, hends⟩
    exact ⟨n, BlockRange.mem_blocks.mpr hn, v, hv, log, hlog, hends⟩

/-- A scan under contract that comes to no log that ends a scan has a trace for every receipt that
it was given. -/
theorem exists_trace_of_receipt (answers : node.Answers)
    (h : (scanRange topics node range).stop = none) {n : Int} {position : Nat}
    {value found : Value} {hash : Option Text} (hn : n ∈ Finset.Icc range.first range.last)
    (hpos : 0 < position) (hget : (node.entriesOf n)[position]? = some value)
    (hhash : entryHash value = .ok hash) (hfetched : node.fetched (.receipt hash) = some found) :
    ∃ t ∈ (scanRange topics node range).traces,
      t.block = n ∧ t.position = position ∧ t.hash = hash := by
  obtain ⟨findings, haccounts⟩ := scanBlocks_accounts h
  have hvalue : value ∈ (node.entriesOf n).drop 1 := by
    apply List.mem_of_getElem? (i := position - 1)
    rwa [List.getElem?_drop, Nat.add_sub_cancel' hpos]
  have hquiet : ¬ ∃ l ∈ found.logs, l.EndsScan topics node := by
    rintro ⟨l, hl, hends⟩
    obtain ⟨traces, hok⟩ := Scan.stop_eq_none_iff.mp h
    exact (scanRange_endsOnlyIf topics range answers).not_of_ok hok
      ⟨l, ⟨n, hn, value, hvalue, hash, found, hhash, hfetched, hl⟩, hends⟩
  obtain ⟨records, hrecords⟩ := (receipt_endsOnlyIf topics answers.orders
    ((answers.receipts hash).shaped found hfetched) hash).result hquiet
  refine ⟨⟨n, position, hash, records⟩, ?_, rfl, rfl, rfl⟩
  rw [scanRange, haccounts.traces]
  exact (mem_traces_iff haccounts.each).mpr ⟨hn, Node.hasBlock_of_entry hget, hpos, value, found,
    hget, hhash, hfetched, hrecords⟩

/-- What a scan relies on: answers of good shape and failures of single items, texts of orders
that every reader can follow, and numbers of blocks that a message can show. -/
structure ScanContract (node : Node) (range : BlockRange) : Prop where
  answers : node.Answers
  orders : node.NestsOrders
  numerals : range.last < 10 ^ Numeral.maxDigits

/-- A scan under contract survives everything but a log that ends it: text data that is not
hexadecimal, or an order with an infinite side behind a trade. A scan that survives asks for every
block of the range in order and has a trace for every receipt that it was given. -/
theorem scanRange_survives_iff (contract : ScanContract node range) :
    ((scanRange topics node range).stop = none ↔
      ∀ log, node.ScansLog range log → ¬ log.EndsScan topics node) ∧
    ((scanRange topics node range).stop = none →
      blocksAsked (scanRange topics node range).events = range.blocks ∧
      ∀ n ∈ Finset.Icc range.first range.last, ∀ position value hash found, 0 < position →
        (node.entriesOf n)[position]? = some value → entryHash value = .ok hash →
        node.fetched (.receipt hash) = some found →
        ∃ t ∈ (scanRange topics node range).traces,
          t.block = n ∧ t.position = position ∧ t.hash = hash) ∧
    ∀ e, (scanRange topics node range).stop = some e → e.endsScan = true := by
  have answers := contract.answers
  have hends := scanRange_endsOnlyIf topics range answers
  refine ⟨⟨?_, ?_⟩, ?_, ?_⟩
  · intro hstop log hlog hbad
    obtain ⟨traces, hok⟩ := Scan.stop_eq_none_iff.mp hstop
    exact hends.not_of_ok hok ⟨log, hlog, hbad⟩
  · intro hlogs
    exact Scan.stop_eq_none_iff.mpr
      (hends.result fun ⟨log, hlog, hbad⟩ => hlogs log hlog hbad)
  · intro hstop
    refine ⟨scanBlocks_blocksAsked topics node hstop, ?_⟩
    intro n hn position value hash found hpos hget hhash hfetched
    exact exists_trace_of_receipt answers hstop hn hpos hget hhash hfetched
  · intro e hstop
    exact hends.endsScan_of_error (Scan.stop_eq_some_iff.mp hstop)

end Narration

/-- A node that gives two entries for every block and one log with the data for every receipt. -/
def logNode (data : Value) : Node
  | .block _ => .found (.mapping [("transactions", .list [.bytes [0], .bytes [1]])])
  | .receipt _ =>
    .found (.mapping [("logs", .list [.mapping [("topics", .list []), ("data", data)]])])
  | _ => .absent

theorem logNode_answers {data : Value} (h : data.isData = true) : (logNode data).Answers where
  blocks number := by
    refine ⟨fun v hv => ?_, fun failure hfailure => ?_⟩
    · obtain rfl := Option.some.inj hv
      rfl
    · simp [logNode] at hfailure
  receipts hash := by
    refine ⟨fun v hv => ?_, fun failure hfailure => ?_⟩
    · obtain rfl := Option.some.inj hv
      change ([Value.mapping [("topics", .list []), ("data", data)]]).all Value.isLogEntry = true
      have hentry : (Value.mapping [("topics", .list []), ("data", data)]).isLogEntry =
          (true && data.isData && true) := rfl
      simp [hentry, h]
    · simp [logNode] at hfailure
  orders hash := by
    refine ⟨fun v hv => ?_, fun failure hfailure => ?_⟩
    · simp [Node.fetched, logNode] at hv
    · simp [logNode] at hfailure

/-- Without orders there is no text of an order. -/
theorem logNode_nestsOrders (data : Value) : (logNode data).NestsOrders := by
  intro hash transaction input bytes text hfetched
  simp [Node.fetched, logNode] at hfetched

/-- The blocks one and two. -/
def firstBlocks : BlockRange := ⟨1, 2, by decide, by decide⟩

theorem logNode_scanContract {data : Value} (h : data.isData = true) :
    Narration.ScanContract (logNode data) firstBlocks where
  answers := logNode_answers h
  orders := logNode_nestsOrders data
  numerals := by
    calc
      firstBlocks.last < 10 ^ 1 := by decide
      _ ≤ 10 ^ Numeral.maxDigits := pow_le_pow_right₀ (by decide) (by decide)

/-- Data without bytes ends nothing. -/
theorem scanRange_survives_of_no_bytes :
    Narration.ScanContract (logNode (.bytes [])) firstBlocks ∧
      (Narration.scanRange [] (logNode (.bytes [])) firstBlocks).stop = none ∧
      blocksAsked (Narration.scanRange [] (logNode (.bytes [])) firstBlocks).events = [1, 2] := by
  have hcontract : Narration.ScanContract (logNode (.bytes [])) firstBlocks :=
    logNode_scanContract rfl
  have hstop : (Narration.scanRange [] (logNode (.bytes [])) firstBlocks).stop = none := rfl
  exact ⟨hcontract, hstop, ((Narration.scanRange_survives_iff hcontract).2.1 hstop).1⟩

/-- A log whose data is the text `0xzz` ends the scan of its range. -/
theorem scanRange_ends_at_text :
    let node := logNode (.text "0xzz")
    Narration.ScanContract node firstBlocks ∧
      (Narration.scanRange [] node firstBlocks).stop ≠ none := by
  intro node
  refine ⟨logNode_scanContract rfl, ?_⟩
  have hstop : ((Narration.scanRange [] node firstBlocks).stop).isSome = true := by decide +kernel
  intro hnone
  simp [hnone] at hstop

end OrderNarration
