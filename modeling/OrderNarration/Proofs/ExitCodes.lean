import OrderNarration.Proofs.PrintedRuns
import OrderNarration.Proofs.ReceiptGroups
import OrderNarration.Proofs.ScanSurvival

/-!
# Exit codes

The exit code of the command for every list of arguments and every node under contract.
Good arguments have the code of success unless the command comes to a log that ends a
scan, which is data that is no hexadecimal text or an order with an infinite side behind a
trade, or has to print a lone surrogate. What becomes of such a log depends on how the
command came to it, since the command catches one of the two faults, and that only for a
single transaction. A line that is refused is caught nowhere.
-/

namespace OrderNarration

namespace Narration

variable {topics : TopicTable} {node : Node} {hash : Option Text} {l : Value} {e : Fault}

theorem entry_of_unreadable_data (topics : TopicTable) (node : Node) (hash : Option Text)
    (shaped : l.isLogEntry = true) (h : l.hasUnreadableData = true) :
    ∃ cause, ∀ position,
      (entry topics node hash position l).outcome = .error (.hexText cause) := by
  rcases EventLog.ofValue_of_isLogEntry shaped with ⟨-, hreadable⟩ | ⟨⟨cause, hfault⟩, -⟩
  · simp [hreadable] at h
  · refine ⟨cause, fun position => ?_⟩
    rw [entry, Run.outcome_bind, Run.outcome_ofExcept, hfault, Outcome.error_bind]

theorem entry_of_infinite_side {log : EventLog} (orders : node.AnswersOrders)
    (hlog : EventLog.ofValue l = .ok log) (h : log.StatesInfiniteSide topics node)
    (position : Nat) :
    (entry topics node hash position l).outcome = .error (.noInteger .infiniteFloat) := by
  have shown : ((log.within hash).position (.int position)).display?.isSome := rfl
  rw [entry]
  simp only [Run.outcome_bind, Run.outcome_ofExcept, hlog, TopicTable.classify_outcome,
    Outcome.ok_bind]
  have hown : (Narration.log topics node (log.within hash) (.int position)).outcome =
      .error (.noInteger .infiniteFloat) := log_of_infinite_side shown orders h
  exact congrArg (· >>= _) hown

/-- The fault of an entry is the fault of all entries if those before it have a result. -/
theorem entriesFrom_of_first_fault {before after : List Value} (orders : node.AnswersOrders)
    (shaped : ∀ b ∈ before, b.isLogEntry = true) (quiet : ∀ b ∈ before, ¬ b.EndsScan topics node)
    (h : ∀ position, (entry topics node hash position l).outcome = .error e) (position : Nat) :
    (entriesFrom topics node hash position (before ++ l :: after)).outcome = .error e := by
  induction before generalizing position with
  | nil => rw [List.nil_append, entriesFrom, Run.outcome_bind, h, Outcome.error_bind]
  | cons b before ih =>
      obtain ⟨hb, hshaped⟩ := List.forall_mem_cons.mp shaped
      obtain ⟨hquiet, hothers⟩ := List.forall_mem_cons.mp quiet
      obtain ⟨records, hok⟩ := (entry_endsOnlyIf topics orders hb hash position).result hquiet
      rw [List.cons_append, entriesFrom, Run.outcome_bind, hok, Outcome.ok_bind, Run.outcome_map,
        ih hshaped hothers, Outcome.map_error]

theorem receipt_eq_entriesFrom {found : Value} (shaped : found.isReceipt = true)
    (hsome : found.logs ≠ []) :
    receipt topics node found hash = entriesFrom topics node hash 0 found.logs := by
  rw [receipt, (Value.logs_of_isReceipt shaped).1]
  cases hlogs : found.logs with
  | nil => exact absurd hlogs hsome
  | cons first rest => rfl

theorem transaction_outcome (topics : TopicTable) (node : Node) {hash : Text}
    (hhash : HashText.IsHash hash) :
    (transaction topics node (.text hash)).outcome =
      (node.ask (.receipt (some hash))).outcome >>= fun found =>
        match found with
        | none => .error (.notFound .receipt (.text hash))
        | some found => (receipt topics node found (some hash)).outcome := by
  have hread : HashText.transactionHash (.text hash) = .ok hash := by
    rw [HashText.transactionHash, if_pos (HashText.isTransactionHash_iff.mpr hhash)]
  rw [transaction]
  simp only [Run.outcome_bind, Run.outcome_ofExcept, hread, Outcome.ok_bind]
  congr 1
  funext found
  cases found <;> rfl

theorem exists_receipt_of_transaction {hash : Text} {records : List Record}
    (hhash : HashText.IsHash hash)
    (h : (transaction topics node (.text hash)).outcome = .ok records) :
    ∃ found, node.fetched (.receipt (some hash)) = some found := by
  rw [transaction_outcome topics node hhash] at h
  obtain ⟨found, hask, hread⟩ := Outcome.bind_eq_ok_iff.mp h
  cases found with
  | none => simp at hread
  | some found => exact ⟨found, Node.fetched_of_ask hask⟩

theorem transaction_of_fetched {hash : Text} {found : Value} (hhash : HashText.IsHash hash)
    (h : node.fetched (.receipt (some hash)) = some found) :
    (transaction topics node (.text hash)).outcome =
      (receipt topics node found (some hash)).outcome := by
  rw [transaction_outcome topics node hhash, Node.ask_of_fetched h, Outcome.ok_bind]

/-- The lines that a receipt's entry has on the output: the one of its header, and those of what
its log narrates by itself. -/
def AreEntryLines (topics : TopicTable) (node : Node) (hash : Option Text) (position : Nat)
    (entry : Value) (lines : Text) : Prop :=
  ∃ log own, EventLog.ofValue entry = .ok log ∧
    (Narration.log topics node (log.within hash) (.int position)).outcome = .ok own ∧
    lines = "..log[" ++ Text.ofNat position ++ "] (topic: " ++
      (log.classified topics).kind.label ++ ")\n" ++ CommandLine.recordLines own

theorem areEntryLines_of_isGroup {position : Nat} {group : List Record}
    (h : IsGroup topics node hash position l group) :
    AreEntryLines topics node hash position l (CommandLine.recordLines group) := by
  obtain ⟨log, own, hlog, hown, rfl⟩ := entry_eq_ok_iff.mp h.entry_eq
  refine ⟨log, own, hlog, hown, ?_⟩
  have hmark : Text.ofString ".." ++ Text.ofString "log[" = Text.ofString "..log[" := rfl
  have hclose : Text.ofString ")" ++ Text.ofString "\n" = Text.ofString ")\n" := rfl
  rw [← hmark, ← hclose]
  simp [CommandLine.recordLines, Record.line, EventLog.header, EventLog.record]

theorem recordLines_flatten (groups : List (List Record)) :
    CommandLine.recordLines groups.flatten = (groups.map CommandLine.recordLines).flatten := by
  induction groups with
  | nil => rfl
  | cons group groups ih =>
      rw [List.flatten_cons, List.map_cons, List.flatten_cons, ← ih, CommandLine.recordLines,
        List.flatMap_append]
      rfl

end Narration

namespace Invocation

variable {inv : Invocation}

/-- The log is one that the command comes to. -/
def ComesTo (inv : Invocation) (log : Value) : Prop :=
  (∃ hash found, inv.AsksReceipt hash found ∧ log ∈ found.logs) ∨
    ∃ range, inv.AsksBlocks range ∧ inv.node.ScansLog range log

/-- What the command relies on: a node that is there, answers of good shape and failures of single
items, and texts of orders that every reader can follow. -/
structure NodeContract (inv : Invocation) : Prop where
  presence : inv.presence = none
  answers : inv.node.Answers
  orders : inv.node.NestsOrders

theorem NodeContract.connected (contract : inv.NodeContract) :
    (CommandLine.connect inv).outcome = .ok () := by
  rw [CommandLine.connect, contract.presence]
  rfl

/-- The command comes to no log that ends a scan. -/
def IsQuiet (inv : Invocation) : Prop :=
  ∀ log, inv.ComesTo log → ¬ log.EndsScan inv.topics inv.node

theorem AsksReceipt.isQuiet_iff {hash : Text} {found : Value} (h : inv.AsksReceipt hash found) :
    inv.IsQuiet ↔ ¬ ∃ l ∈ found.logs, l.EndsScan inv.topics inv.node := by
  constructor
  · rintro hquiet ⟨l, hl, hends⟩
    exact hquiet l (Or.inl ⟨hash, found, h, hl⟩) hends
  · rintro hnone l (⟨hash', found', h', hl⟩ | ⟨range, hrange, -⟩) hends
    · obtain ⟨rfl, rfl⟩ := h.unique h'
      exact hnone ⟨l, hl, hends⟩
    · exact h.not_asksBlocks range hrange

theorem AsksBlocks.isQuiet_iff {range : BlockRange} (h : inv.AsksBlocks range) :
    inv.IsQuiet ↔ ¬ ∃ l, inv.node.ScansLog range l ∧ l.EndsScan inv.topics inv.node := by
  constructor
  · rintro hquiet ⟨l, hl, hends⟩
    exact hquiet l (Or.inr ⟨range, h, hl⟩) hends
  · rintro hnone l (⟨hash, found, h', -⟩ | ⟨range', h', hl⟩) hends
    · exact h'.not_asksBlocks range h
    · obtain rfl := h.unique h'
      exact hnone ⟨l, hl, hends⟩

end Invocation

namespace CommandLine

variable {inv : Invocation} {hash : Text} {found : Value} {range : BlockRange} {e : Fault}
  {records : List Record}

/-- Bad arguments have the code of failure, and nothing is written or asked for them. -/
theorem run_refuses_bad_arguments
    (hhash : ∀ hash, inv.arguments = [hash] → ¬ HashText.IsHash hash)
    (hblocks : ∀ range, ¬ inv.AsksBlocks range) :
    (run inv).ending = .ok failure ∧ (run inv).output = [] ∧ (run inv).events = [] := by
  cases hrequest : Request.ofArguments inv.arguments with
  | none => simp [run, runWith, hrequest]
  | some result =>
      cases result with
      | error e => simp [run, runWith, hrequest, complain]
      | ok request =>
          cases request with
          | transaction hash =>
              obtain ⟨hargs, h⟩ := Request.ofArguments_eq_transaction_iff.mp hrequest
              exact absurd h (hhash hash hargs)
          | blocks range =>
              exact absurd (Request.ofArguments_eq_blocks_iff.mp hrequest) (hblocks range)

theorem run_of_bad_arguments (hhash : ∀ hash, inv.arguments = [hash] → ¬ HashText.IsHash hash)
    (hblocks : ∀ range, ¬ inv.AsksBlocks range) : (run inv).ending = .ok failure :=
  (run_refuses_bad_arguments hhash hblocks).1

theorem run_of_transaction (connected : (connect inv).outcome = .ok ())
    (hargs : inv.arguments = [hash]) (hhash : HashText.IsHash hash) :
    ∃ routing lines, (run inv).ending = (runTransaction inv routing hash).ending ∧
      (run inv).output = (runTransaction inv routing hash).output ∧
      (run inv).errors = lines ++ (runTransaction inv routing hash).errors := by
  obtain ⟨routing, lines, hending, houtput, herrors, -⟩ := runWith_of_connected (serve inv)
    (Request.ofArguments_eq_transaction_iff.mpr ⟨hargs, hhash⟩) connected
  exact ⟨routing, lines, hending, houtput, herrors⟩

theorem run_of_blocks (connected : (connect inv).outcome = .ok ()) (asks : inv.AsksBlocks range) :
    ∃ routing, (run inv).ending = (runBlocks inv routing range).ending := by
  obtain ⟨routing, lines, hending, -⟩ := runWith_of_connected (serve inv)
    (Request.ofArguments_eq_blocks_iff.mpr asks) connected
  exact ⟨routing, hending⟩

section Transaction

variable (connected : (connect inv).outcome = .ok ()) (hargs : inv.arguments = [hash])
  (hhash : HashText.IsHash hash)
include connected hargs hhash

theorem run_of_records
    (h : (Narration.transaction inv.topics inv.node (.text hash)).outcome = .ok records) :
    (run inv).ending = .ok success ∧ (run inv).output = recordLines records := by
  obtain ⟨routing, lines, hending, houtput, -⟩ := run_of_transaction connected hargs hhash
  rw [hending, houtput]
  simp [runTransaction, h, after]

theorem run_of_no_receipt {key : Value}
    (h : (Narration.transaction inv.topics inv.node (.text hash)).outcome =
      .error (.notFound .receipt key)) : (run inv).ending = .ok failure := by
  obtain ⟨routing, lines, hending, -⟩ := run_of_transaction connected hargs hhash
  rw [hending]
  simp [runTransaction, h, after, complain]

/-- A fault that concerns only one item is complained of, whatever it is of. -/
theorem run_of_passing
    (h : (Narration.transaction inv.topics inv.node (.text hash)).outcome = .error e)
    (hpassing : e.isPassing = true) :
    (run inv).ending = .ok failure ∧ ∃ lines, (run inv).errors =
      lines ++ complaint ("Failed to fetch receipt for tx " ++ hash ++ ": " ++ e.message) := by
  obtain ⟨routing, lines, hending, -, herrors⟩ := run_of_transaction connected hargs hhash
  rw [hending, herrors, runTransaction, h, after]
  cases e with
  | notFound wanted key => simp [Fault.isPassing] at hpassing
  | _ => simp [hpassing, complain, ← List.append_assoc]

theorem run_of_infinite_side
    (h : (Narration.transaction inv.topics inv.node (.text hash)).outcome =
      .error (.noInteger .infiniteFloat)) :
    (run inv).ending = .error (.noInteger .infiniteFloat) := by
  obtain ⟨routing, lines, hending, -⟩ := run_of_transaction connected hargs hhash
  rw [hending]
  simp [runTransaction, h, after, stopWith, isInterrupt, Fault.isPassing]

end Transaction

section Answers

variable (answers : inv.node.Answers)
include answers

theorem transaction_of_first_fault (asks : inv.AsksReceipt hash found) {before after : List Value}
    {l : Value} (hlogs : found.logs = before ++ l :: after)
    (hquiet : ∀ b ∈ before, ¬ b.EndsScan inv.topics inv.node)
    (h : ∀ position,
      (Narration.entry inv.topics inv.node (some hash) position l).outcome = .error e) :
    (Narration.transaction inv.topics inv.node (.text hash)).outcome = .error e := by
  have shaped := (answers.receipts (some hash)).shaped found asks.fetched
  have hall := (Value.logs_of_isReceipt shaped).2
  rw [Narration.transaction_of_fetched asks.isHash asks.fetched,
    Narration.receipt_eq_entriesFrom shaped (by simp [hlogs]), hlogs]
  refine Narration.entriesFrom_of_first_fault answers.orders (fun b hb => ?_) hquiet h 0
  exact hall b (by simp [hlogs, hb])

variable (connected : (connect inv).outcome = .ok ())
include connected

theorem run_of_quiet_receipt (asks : inv.AsksReceipt hash found) (quiet : inv.IsQuiet) :
    ∃ records, (Narration.receipt inv.topics inv.node found (some hash)).outcome = .ok records ∧
      (run inv).ending = .ok success ∧ (run inv).output = recordLines records := by
  have shaped := (answers.receipts (some hash)).shaped found asks.fetched
  obtain ⟨records, hok⟩ := (Narration.receipt_endsOnlyIf inv.topics answers.orders shaped
    (some hash)).result (asks.isQuiet_iff.mp quiet)
  have hrecords := (Narration.transaction_of_fetched asks.isHash asks.fetched).trans hok
  exact ⟨records, hok, run_of_records connected asks.arguments asks.isHash hrecords⟩

theorem run_of_quiet_blocks (asks : inv.AsksBlocks range)
    (quiet : inv.IsQuiet) : (run inv).ending = .ok success := by
  have hstop := Scan.stop_eq_none_iff.mpr ((Narration.scanRange_endsOnlyIf inv.topics range
    answers).result (asks.isQuiet_iff.mp quiet))
  obtain ⟨routing, hending⟩ := run_of_blocks connected asks
  rw [hending]
  simp [runBlocks, hstop, after]

/-- A range is not caught: the fault of a log that ends its scan ends the command. -/
theorem run_of_ended_blocks (asks : inv.AsksBlocks range) (loud : ¬ inv.IsQuiet) :
    ∃ e, (run inv).ending = .error e ∧ e.endsScan = true := by
  have hends := Narration.scanRange_endsOnlyIf inv.topics range answers
  obtain ⟨e, herror, he⟩ := hends.fault (not_not.mp (asks.isQuiet_iff.not.mp loud))
  have hstop := Scan.stop_eq_some_iff.mpr herror
  obtain ⟨routing, hending⟩ := run_of_blocks connected asks
  refine ⟨e, ?_, he⟩
  rw [hending]
  cases e <;> simp [runBlocks, hstop, after, stopWith, isInterrupt, Fault.endsScan] at he ⊢

/-- A log that ends a scan spoils the exit code of its transaction, whatever its fault. -/
theorem run_of_loud_receipt (asks : inv.AsksReceipt hash found)
    (loud : ¬ inv.IsQuiet) : (run inv).ending ≠ .ok success := by
  have shaped := (answers.receipts (some hash)).shaped found asks.fetched
  have hends := Narration.receipt_endsOnlyIf inv.topics answers.orders shaped (some hash)
  obtain ⟨e, herror, he⟩ := hends.fault (not_not.mp (asks.isQuiet_iff.not.mp loud))
  have houtcome := (Narration.transaction_of_fetched asks.isHash asks.fetched).trans herror
  cases e with
  | hexText cause =>
      obtain ⟨hending, -⟩ := run_of_passing connected asks.arguments asks.isHash houtcome rfl
      simp [hending, success, failure]
  | noInteger cause =>
      cases cause with
      | infiniteFloat =>
          simp [run_of_infinite_side connected asks.arguments asks.isHash houtcome]
      | _ => simp [Fault.endsScan] at he
  | _ => simp [Fault.endsScan] at he

theorem run_of_missing_receipt (hargs : inv.arguments = [hash])
    (hhash : HashText.IsHash hash) (hmissing : inv.node.fetched (.receipt (some hash)) = none) :
    (run inv).ending = .ok failure := by
  have houtcome := Narration.transaction_outcome inv.topics inv.node hhash
  cases hrefusal : inv.node.refusal? (.receipt (some hash)) with
  | none =>
      rw [Node.ask_of_no_refusal hrefusal, hmissing, Outcome.ok_bind] at houtcome
      exact run_of_no_receipt connected hargs hhash houtcome
  | some refusal =>
      rw [Node.ask_of_refusal hrefusal, Outcome.error_bind] at houtcome
      have hpassing := (answers.receipts (some hash)).passing_of_refusal hrefusal
      exact (run_of_passing connected hargs hhash houtcome hpassing).1

theorem run_of_refused_request (refused : ¬ inv.AsksWell) :
    (run inv).ending = .ok failure := by
  have hblocks : ∀ range, ¬ inv.AsksBlocks range := fun range h => refused (Or.inr ⟨range, h⟩)
  by_cases hasked : ∃ hash, inv.arguments = [hash] ∧ HashText.IsHash hash
  · obtain ⟨hash, hargs, hhash⟩ := hasked
    cases hfetched : inv.node.fetched (.receipt (some hash)) with
    | none => exact run_of_missing_receipt answers connected hargs hhash hfetched
    | some found => exact absurd (Or.inl ⟨hash, found, hargs, hhash, hfetched⟩) refused
  · exact run_of_bad_arguments (fun hash hargs hhash => hasked ⟨hash, hargs, hhash⟩) hblocks

theorem run_eq_success_iff :
    (run inv).ending = .ok success ↔ inv.AsksWell ∧ inv.IsQuiet := by
  constructor
  · intro hending
    have hasked : inv.AsksWell := by
      by_contra refused
      simp [run_of_refused_request answers connected refused, success, failure] at hending
    refine ⟨hasked, ?_⟩
    by_contra loud
    rcases hasked with ⟨hash, found, asks⟩ | ⟨range, asks⟩
    · exact run_of_loud_receipt answers connected asks loud hending
    · obtain ⟨e, herror, -⟩ := run_of_ended_blocks answers connected asks loud
      simp [hending] at herror
  · rintro ⟨⟨hash, found, asks⟩ | ⟨range, asks⟩, quiet⟩
    · obtain ⟨records, -, hending, -⟩ := run_of_quiet_receipt answers connected asks quiet
      exact hending
    · exact run_of_quiet_blocks answers connected asks quiet

/-- The output for a transaction with logs is the lines of its logs one after another. -/
theorem output_of_success (asks : inv.AsksReceipt hash found)
    (hending : (run inv).ending = .ok success) (hsome : found.logs ≠ []) :
    ∃ sections : List Text, (run inv).output = sections.flatten ∧
      sections.length = found.logs.length ∧
      ∀ i entry lines, found.logs[i]? = some entry → sections[i]? = some lines →
        Narration.AreEntryLines inv.topics inv.node (some hash) i entry lines := by
  have quiet := ((run_eq_success_iff answers connected).mp hending).2
  have shaped := (answers.receipts (some hash)).shaped found asks.fetched
  obtain ⟨records, hok, -, houtput⟩ := run_of_quiet_receipt answers connected asks quiet
  obtain ⟨groups, hgroups, rfl⟩ :=
    (Narration.receipt_eq_ok_iff (Value.logs_of_isReceipt shaped).1 hsome).mp hok
  refine ⟨groups.map recordLines, houtput.trans (Narration.recordLines_flatten groups), ?_, ?_⟩
  · rw [List.length_map, hgroups.count]
  · intro i entry lines hentry hlines
    rw [List.getElem?_map, Option.map_eq_some_iff] at hlines
    obtain ⟨group, hgroup, rfl⟩ := hlines
    have hown := hgroups.each i entry group hentry hgroup
    rw [Nat.zero_add] at hown
    exact Narration.areEntryLines_of_isGroup hown

end Answers

end CommandLine

/-- How a command ends that has a node under contract and prints to an output of UTF-8, and what it
has written by then. -/
structure Completion.EndsAsAsked (inv : Invocation) (c : Completion) : Prop where
  success : c.ending = .ok CommandLine.success ↔ inv.AsksWell ∧ inv.IsQuiet ∧ inv.IsPrintable
  refusal : ¬ inv.AsksWell → c.ending = .ok CommandLine.failure
  /-- With the code of success every log of a receipt has its header line and then its own lines. -/
  headers : ∀ hash found, inv.AsksReceipt hash found → c.ending = .ok CommandLine.success →
    found.logs ≠ [] →
    ∃ sections : List Text, c.output = sections.flatten ∧ sections.length = found.logs.length ∧
      ∀ i entry lines, found.logs[i]? = some entry → sections[i]? = some lines →
        Narration.AreEntryLines inv.topics inv.node (some hash) i entry lines
  /-- The first log that ends a scan decides: its data passes for a receipt that cannot be had. -/
  unreadable : ∀ hash found before l after, inv.AsksReceipt hash found →
    found.logs = before ++ l :: after → (∀ b ∈ before, ¬ b.EndsScan inv.topics inv.node) →
    l.hasUnreadableData = true →
    c.ending = .ok CommandLine.failure ∧ ∃ cause lines, c.errors = lines ++
      CommandLine.complaint ("Failed to fetch receipt for tx " ++ hash ++ ": " ++
        (Fault.hexText cause).message)
  /-- The first log that ends a scan decides: the fault of an infinite side is not caught. -/
  infinite : ∀ hash found before l after log, inv.AsksReceipt hash found →
    found.logs = before ++ l :: after → (∀ b ∈ before, ¬ b.EndsScan inv.topics inv.node) →
    EventLog.ofValue l = .ok log → log.StatesInfiniteSide inv.topics inv.node →
    c.ending = .error (.noInteger .infiniteFloat)
  /-- In a range no fault of a log is caught. -/
  stopped : ∀ range, inv.AsksBlocks range → inv.IsPrintable → ¬ inv.IsQuiet →
    ∃ e, c.ending = .error e ∧ e.endsScan = true
  /-- The first record with a lone surrogate ends the printing of a transaction. -/
  refusedRecord : ∀ hash before r after, inv.arguments = [hash] →
    (Narration.transaction inv.topics inv.node (.text hash)).outcome = .ok (before ++ r :: after) →
    (∀ b ∈ before, ¬ b.message.HasSurrogate) → r.message.HasSurrogate →
    ∃ wording, c.ending = .error (.notEncodable wording) ∧
      c.output = CommandLine.recordLines before
  /-- The first line with a lone surrogate ends the printing of a range, and the scan with it. -/
  refusedTrace : ∀ range before t after, inv.AsksBlocks range →
    (Narration.scanRange inv.topics inv.node range).traces = before ++ t :: after →
    (∀ b ∈ before, ¬ b.HasSurrogate) → t.HasSurrogate →
    ∃ part line rest wording, CommandLine.traceLines t = part ++ line :: rest ∧
      (∀ s ∈ part, ¬ s.HasSurrogate) ∧ line.HasSurrogate ∧
      c.ending = .error (.notEncodable wording) ∧
      c.output = CommandLine.scanTitle range ++ before.flatMap CommandLine.traceSection ++
        part.flatMap (fun s => s ++ ("\n" : Text))

namespace CommandLine

variable {inv : Invocation}

/-- A request that is refused prints nothing that could be refused in turn. -/
theorem isPrintable_of_refused (refused : ¬ inv.AsksWell) : inv.IsPrintable where
  transaction := by
    intro hash records hargs hok
    have hhash := Narration.isHash_of_transaction hok
    obtain ⟨found, hfetched⟩ := Narration.exists_receipt_of_transaction hhash hok
    exact absurd (Or.inl ⟨hash, found, hargs, hhash, hfetched⟩) refused
  blocks := fun range asks => absurd (Or.inr ⟨range, asks⟩) refused

section Contract

variable (contract : inv.NodeContract)
include contract

theorem runPrinting_eq_success_iff :
    (runPrinting inv).ending = .ok success ↔ inv.AsksWell ∧ inv.IsQuiet ∧ inv.IsPrintable := by
  by_cases printable : inv.IsPrintable
  · rw [runPrinting_of_printable printable,
      run_eq_success_iff contract.answers contract.connected]
    simp only [printable, and_true]
  · obtain ⟨wording, hending⟩ := runPrinting_of_unprintable
      contract.connected printable
    simp [hending, printable]

theorem runPrinting_of_refused (refused : ¬ inv.AsksWell) :
    (runPrinting inv).ending = .ok failure := by
  rw [runPrinting_of_printable (isPrintable_of_refused refused)]
  exact run_of_refused_request contract.answers contract.connected refused

end Contract

/-- A command that has a node under contract has the code of success if its arguments are good, no
log ends a scan and no lone surrogate is to be printed, and the code of failure if the arguments are
not good. A log that ends a scan takes the code of success from good arguments: text data that is
not hexadecimal passes for a receipt that cannot be had, and everything else leaves the command
without an exit code. So does a lone surrogate. -/
theorem run_endsAsAsked (contract : inv.NodeContract) : (runPrinting inv).EndsAsAsked inv where
  success := runPrinting_eq_success_iff contract
  refusal := runPrinting_of_refused contract
  headers := by
    intro hash found asks hending hsome
    obtain ⟨-, -, printable⟩ := (runPrinting_eq_success_iff contract).mp hending
    rw [runPrinting_of_printable printable] at hending ⊢
    exact output_of_success contract.answers contract.connected asks hending hsome
  unreadable := by
    intro hash found before l after asks hlogs hquiet hbad
    have hall := (Value.logs_of_isReceipt
      ((contract.answers.receipts (some hash)).shaped found asks.fetched)).2
    obtain ⟨cause, hentry⟩ := Narration.entry_of_unreadable_data inv.topics inv.node
      (some hash) (hall l (by simp [hlogs])) hbad
    have houtcome := transaction_of_first_fault contract.answers asks hlogs hquiet hentry
    rw [runPrinting_of_printable
      (Invocation.isPrintable_of_refused_transaction asks.arguments houtcome)]
    obtain ⟨hending, lines, herrors⟩ :=
      run_of_passing contract.connected asks.arguments asks.isHash houtcome rfl
    exact ⟨hending, cause, lines, herrors⟩
  infinite := by
    intro hash found before l after log asks hlogs hquiet hlog hside
    have houtcome := transaction_of_first_fault contract.answers asks hlogs hquiet
      (Narration.entry_of_infinite_side contract.answers.orders hlog hside)
    rw [runPrinting_of_printable
      (Invocation.isPrintable_of_refused_transaction asks.arguments houtcome)]
    exact run_of_infinite_side contract.connected asks.arguments asks.isHash houtcome
  stopped := by
    intro range asks printable loud
    rw [runPrinting_of_printable printable]
    exact run_of_ended_blocks contract.answers contract.connected asks loud
  refusedRecord := by
    intro hash before r after hargs hok hbefore hr
    exact runPrinting_of_refused_record contract.connected hargs hok hbefore hr
  refusedTrace := by
    intro range before t after asks htraces hbefore ht
    exact runPrinting_of_refused_trace contract.connected asks htraces
      hbefore ht

end CommandLine

/-- The hash of nothing but zeros. -/
def zeroHash : Text := Text.ofChars ('0' :: 'x' :: List.replicate 64 '0')

/-- The command with its node at hand. -/
def callOn (node : Node) (arguments : List Text) : Invocation where
  arguments
  environment := {}
  debug := false
  terminal := false
  presence := none
  topics := []
  node

theorem zeroHash_isHash : HashText.IsHash zeroHash := by
  refine ⟨List.replicate 64 '0', List.length_replicate, fun c hc => ?_, rfl⟩
  obtain rfl := List.eq_of_mem_replicate hc
  exact Or.inl ⟨by decide, by decide⟩

theorem callOn_asksReceipt (data : Value) :
    (callOn (logNode data) [zeroHash]).AsksReceipt zeroHash
      (.mapping [("logs", .list [.mapping [("topics", .list []), ("data", data)]])]) :=
  ⟨rfl, zeroHash_isHash, rfl⟩

theorem callOn_nodeContract (arguments : List Text) {data : Value} (h : data.isData = true) :
    (callOn (logNode data) arguments).NodeContract where
  presence := rfl
  answers := logNode_answers h
  orders := logNode_nestsOrders data

theorem callOn_asksBlocks (node : Node) : (callOn node ["1", "2"]).AsksBlocks firstBlocks := by
  refine ⟨"1", "2", rfl, ?_, ?_⟩
  · decide +kernel
  · decide +kernel

/-- A log without data ends nothing, so the command narrates it and has the code of success. -/
theorem run_endsAsAsked_of_no_bytes :
    let inv := callOn (logNode (.bytes [])) [zeroHash]
    inv.NodeContract ∧
      (CommandLine.runPrinting inv).ending = .ok CommandLine.success ∧
      inv.AsksWell ∧ inv.IsQuiet ∧ inv.IsPrintable ∧
      ∃ sections : List Text, (CommandLine.runPrinting inv).output = sections.flatten ∧
        sections.length = 1 := by
  intro inv
  have hcontract : inv.NodeContract := callOn_nodeContract _ rfl
  have hrun : (CommandLine.runPrinting inv).EndsAsAsked inv :=
    CommandLine.run_endsAsAsked hcontract
  have hasks := callOn_asksReceipt (.bytes [])
  have hending : (CommandLine.runPrinting inv).ending = .ok CommandLine.success := rfl
  obtain ⟨hwell, hquiet, hprintable⟩ := hrun.success.mp hending
  obtain ⟨sections, houtput, hlength, -⟩ := hrun.headers _ _ hasks hending (List.cons_ne_nil _ _)
  exact ⟨hcontract, hending, hwell, hquiet, hprintable, sections, houtput, hlength⟩

/-- A node that gives the log of `tradeLog` for every receipt, and the input for every order. -/
def tradeNode (input : List UInt8) : Node
  | .receipt _ =>
    .found (.mapping [("logs", .list
      [.mapping [("topics", .list tradeLog.topics), ("data", .bytes tradeLog.data)]])])
  | .transaction _ => .found (.mapping [("input", .bytes input)])
  | .block _ => .absent

theorem tradeNode_answers (input : List UInt8) : (tradeNode input).Answers where
  blocks number := by
    refine ⟨fun v hv => ?_, fun failure hfailure => ?_⟩
    · simp [Node.fetched, tradeNode] at hv
    · simp [tradeNode] at hfailure
  receipts hash := by
    refine ⟨fun v hv => ?_, fun failure hfailure => ?_⟩
    · obtain rfl := Option.some.inj hv
      rfl
    · simp [tradeNode] at hfailure
  orders hash := by
    refine ⟨fun v hv => ?_, fun failure hfailure => ?_⟩
    · obtain rfl := Option.some.inj hv
      rfl
    · simp [tradeNode] at hfailure

/-- One input that is not nested too deep is one for all orders. -/
theorem tradeNode_nestsOrders {input : List UInt8} {chars : List Char}
    (hchars : Utf8.decode (input.drop 1) = .ok chars)
    (h : Json.nesting chars ≤ Json.safeNesting) : (tradeNode input).NestsOrders := by
  intro hash transaction own bytes text hfetched hinput hbytes htext
  obtain rfl := Option.some.inj hfetched
  obtain rfl : own = .bytes input := by
    have hown := Resolution.transactionInput_eq_ok_iff.mpr hinput
    exact (Except.ok.inj hown).symm
  obtain rfl : input = bytes := Except.ok.inj hbytes
  obtain rfl := Except.ok.inj (hchars.symm.trans htext)
  exact h

/-- The context of an order whose price is a text of one lone surrogate. -/
def surrogateContext : List Char := "\x7b\"price\":\"\\ud800\",\"side\":0\x7d".toList

/-- The command for the transaction of a trade of such orders. -/
def callOnSurrogate : Invocation :=
  { callOn (tradeNode (0x21 :: Utf8.encode surrogateContext)) [zeroHash] with topics := tradeTable }

theorem callOnSurrogate_nodeContract : callOnSurrogate.NodeContract where
  presence := rfl
  answers := tradeNode_answers _
  orders :=
    have hread : Utf8.decode (Utf8.encode surrogateContext) = .ok surrogateContext :=
      Utf8.decode_eq_ok_iff.mpr rfl
    tradeNode_nestsOrders hread (by decide)

/-- A log whose data is the text `0xzz` makes the command fail for the hash of its transaction, and
leaves it without an exit code for a range of blocks. A lone surrogate as the price of an order
leaves it without an exit code as well. -/
theorem good_arguments_without_success :
    let node := logNode (.text "0xzz")
    ((callOn node [zeroHash]).NodeContract ∧ (callOn node [zeroHash]).AsksWell ∧
        (CommandLine.runPrinting (callOn node [zeroHash])).ending = .ok CommandLine.failure) ∧
      ((callOn node ["1", "2"]).NodeContract ∧ (callOn node ["1", "2"]).AsksWell ∧
        ∀ code, (CommandLine.runPrinting (callOn node ["1", "2"])).ending ≠ .ok code) ∧
      callOnSurrogate.NodeContract ∧ callOnSurrogate.AsksWell ∧
        ∀ code, (CommandLine.runPrinting callOnSurrogate).ending ≠ .ok code := by
  intro node
  have hreceipt : (CommandLine.runPrinting (callOn node [zeroHash])).ending.toOption =
      some CommandLine.failure := by decide +kernel
  have hblocks : (CommandLine.runPrinting (callOn node ["1", "2"])).ending.toOption = none := by
    decide +kernel
  have hsurrogate : (CommandLine.runPrinting callOnSurrogate).ending.toOption = none := by
    decide +kernel
  refine ⟨⟨callOn_nodeContract _ rfl, Or.inl ⟨_, _, callOn_asksReceipt _⟩, ?_⟩,
    ⟨callOn_nodeContract _ rfl, Or.inr ⟨_, callOn_asksBlocks node⟩, fun code hcode => ?_⟩,
    callOnSurrogate_nodeContract, Or.inl ⟨_, _, rfl, zeroHash_isHash, rfl⟩, fun code hcode => ?_⟩
  · cases hending : (CommandLine.runPrinting (callOn node [zeroHash])).ending with
    | ok code => simpa [hending, Except.toOption] using hreceipt
    | error e => simp [hending, Except.toOption] at hreceipt
  · simp [hcode, Except.toOption] at hblocks
  · simp [hcode, Except.toOption] at hsurrogate

end OrderNarration
