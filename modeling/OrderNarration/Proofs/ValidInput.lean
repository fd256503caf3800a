import OrderNarration.Proofs.IntegerNumerals
import OrderNarration.Proofs.Interrupts
import OrderNarration.Proofs.StepByStep
import OrderNarration.Proofs.ValueTexts

/-!
# Valid input

Nothing is looked up for input that is no transaction hash and no range of blocks. For a
hash the first lookup is that of its receipt, and a scan asks for the blocks of the range
that was asked for, from the first to the last one. The same checks are made for the
arguments of the command and for values of any kind that are given to the operations.
-/

namespace OrderNarration

/-- The block that a lookup asks for. -/
def Lookup.block? : Lookup → Option Int
  | block number => some number
  | _ => none

theorem blocksAsked_eq_filterMap (events : List Event) :
    blocksAsked events = (events.filterMap Event.lookup?).filterMap Lookup.block? := by
  rw [blocksAsked, List.filterMap_filterMap]
  congr 1
  funext e
  cases e with
  | asked lookup => cases lookup <;> rfl
  | noted d => rfl

theorem HashText.transactionHash_eq_showing {v : Value}
    (h : ∀ hash, v = .text hash → ¬ IsHash hash) :
    transactionHash v = .error (.showing [v] (.invalidHash v)) := by
  cases v with
  | text t =>
      have hno : ¬ isTransactionHash t = true := fun hyes =>
        h t rfl (isTransactionHash_iff.mp hyes)
      rw [transactionHash, if_neg hno]
      rfl
  | _ => rfl

namespace Narration

variable {topics : TopicTable} {node : Node} {hash : Text} {first last : Value}
  {range : BlockRange}

/-- A scan asks for the blocks of its range in their order, from the first one on. -/
theorem scanRange_blocksAsked (topics : TopicTable) (node : Node) (range : BlockRange) :
    blocksAsked (scanRange topics node range).events <+: range.blocks ∧
      ((scanRange topics node range).stop = none →
        blocksAsked (scanRange topics node range).events = range.blocks) := by
  constructor
  · have hcourse := courseBlocks_blocksAsked topics (fun _ => node) 0 range.first range.count
    rwa [← scan_courseOn]
  · exact scanBlocks_blocksAsked topics node

theorem transaction_asks_receipt (isHash : HashText.IsHash hash) :
    (transaction topics node (.text hash)).lookups.head? = some (.receipt (some hash)) := by
  have hread : HashText.transactionHash (.text hash) = .ok hash :=
    if_pos (HashText.isTransactionHash_iff.mpr isHash)
  rw [transaction, hread, Run.lookups_bind_of_ok (Run.outcome_ofExcept _), Run.lookups_ofExcept,
    List.nil_append, Run.lookups_bind, Node.lookups_ask]
  rfl

theorem range_eq_toRun (topics : TopicTable) (node : Node)
    (h : BlockRange.ofValues first last = .ok range) :
    (Narration.range topics node first last).events = (scanRange topics node range).events ∧
      ∀ traces, (Narration.range topics node first last).outcome = .ok traces →
        (scanRange topics node range).stop = none := by
  rw [Narration.range, h, Run.events_bind_of_ok (Run.outcome_ofExcept _), Run.outcome_bind]
  cases hstop : (scanRange topics node range).stop with
  | none => simp [Scan.toRun, hstop]
  | some e => simp [Scan.toRun, hstop]

end Narration

namespace Cursor

variable {topics : TopicTable} {node : Node} {first last : Value} {range : BlockRange}

theorem events_next (topics : TopicTable) (node : Node) (cursor : Cursor) :
    (next topics node cursor).1.events = (advance topics node cursor).events := by
  rw [next]
  split
  · rfl
  · rfl
  · rfl

theorem next_of_refused {e : Fault} (h : BlockRange.ofValues first last = .error e) :
    (next topics node (start first last)).1 = ⟨.error e, []⟩ := by
  rw [next, advance, h]
  rfl

/-- The first step of a scan asks for the first block, and then for further blocks of the range in
their order. -/
theorem next_start_blocksAsked (h : BlockRange.ofValues first last = .ok range) :
    (blocksAsked (next topics node (start first last)).1.events).head? = some range.first ∧
      blocksAsked (next topics node (start first last)).1.events <+: range.blocks := by
  constructor
  · have hcount : range.count = (range.count - 1) + 1 := by
      have hordered := range.ordered
      simp only [BlockRange.count]
      omega
    rw [events_next, advance, h, Run.events_bind_of_ok (Run.outcome_ofExcept _),
      Run.events_ofExcept, List.nil_append, hcount, nextFromBlock, Run.events_bind,
      blocksAsked_append, Narration.blockEntries_blocksAsked]
    rfl
  · have htaken := takes_isTakenBy topics (fun _ => node) 0 (start first last)
    rw [course_start] at htaken
    have hbegins := (htaken.events_isPrefix 1).filterMap Event.block?
    rw [takes_succ, takes_zero, List.flatMap_singleton, Narration.courseRange, h,
      Course.events_after] at hbegins
    exact hbegins.trans
      (Narration.courseBlocks_blocksAsked topics (fun _ => node) 0 range.first range.count)

end Cursor

/-- What the operations make of values of any kind that are given as a hash and as the bounds of a
range. -/
structure Narration.ChecksInput (topics : TopicTable) (node : Node) : Prop where
  /-- For a hash the receipt is looked up first. -/
  transaction : ∀ hash, HashText.IsHash hash →
    (transaction topics node (.text hash)).lookups.head? = some (.receipt (some hash))
  noTransaction : ∀ v, (∀ hash, v = .text hash → ¬ HashText.IsHash hash) →
    (Narration.transaction topics node v).Refuses [v] (.invalidHash v)
  /-- A scan between bounds asks for the blocks between them, and for all of them if it is not
  ended. -/
  range : ∀ (range : BlockRange) first last,
    BlockRange.number? first = some range.first → BlockRange.number? last = some range.last →
    blocksAsked (Narration.range topics node first last).events <+: range.blocks ∧
      ∀ traces, (Narration.range topics node first last).outcome = .ok traces →
        blocksAsked (Narration.range topics node first last).events = range.blocks
  noRange : ∀ first last, ¬ BlockRange.AreBounds first last →
    (Narration.range topics node first last).Refuses [first, last] (.invalidRange first last)
  /-- The first step of a scan between bounds begins with the first block. -/
  firstTrace : ∀ (range : BlockRange) first last,
    BlockRange.number? first = some range.first → BlockRange.number? last = some range.last →
    (blocksAsked (Cursor.next topics node (.start first last)).1.events).head? =
        some range.first ∧
      blocksAsked (Cursor.next topics node (.start first last)).1.events <+: range.blocks
  noFirstTrace : ∀ first last, ¬ BlockRange.AreBounds first last →
    (Cursor.next topics node (.start first last)).1.Refuses [first, last]
      (.invalidRange first last)

theorem Narration.checksInput (topics : TopicTable) (node : Node) : ChecksInput topics node := by
  constructor
  case transaction => exact fun hash isHash => transaction_asks_receipt isHash
  case noTransaction =>
    intro v hv
    apply Run.refuses_of_showing
    rw [Narration.transaction, HashText.transactionHash_eq_showing hv]
    rfl
  case range =>
    intro range first last hfirst hlast
    have hvalues := BlockRange.ofValues_eq_ok_iff.mpr ⟨hfirst, hlast⟩
    obtain ⟨hevents, hstop⟩ := range_eq_toRun topics node hvalues
    obtain ⟨hbegins, hwhole⟩ := scanRange_blocksAsked topics node range
    rw [hevents]
    exact ⟨hbegins, fun traces htraces => hwhole (hstop traces htraces)⟩
  case noRange =>
    intro first last h
    apply Run.refuses_of_showing
    rw [Narration.range, BlockRange.ofValues_eq_showing h]
    rfl
  case firstTrace =>
    intro range first last hfirst hlast
    exact Cursor.next_start_blocksAsked (BlockRange.ofValues_eq_ok_iff.mpr ⟨hfirst, hlast⟩)
  case noFirstTrace =>
    intro first last h
    exact Run.refuses_of_showing (Cursor.next_of_refused (BlockRange.ofValues_eq_showing h))

/-- What a command looks up for its arguments. -/
structure Completion.HeedsArguments (inv : Invocation) (c : Completion) : Prop where
  /-- For arguments that ask for nothing the command fails, and it looks nothing up. -/
  refused : (∀ hash, inv.arguments = [hash] → ¬ HashText.IsHash hash) →
    (∀ range, ¬ inv.AsksBlocks range) →
    c.ending = .ok CommandLine.failure ∧ c.output = [] ∧ c.lookups = []
  /-- For a node that is not there the command fails or ends with the fault, and it looks nothing
  up. -/
  unconnected : ∀ e, (CommandLine.connect inv).outcome = .error e →
    (c.ending = .ok CommandLine.failure ∨ c.ending = .error e) ∧ c.output = [] ∧ c.lookups = []
  /-- For a hash the receipt is looked up first. -/
  transaction : ∀ hash, inv.arguments = [hash] → HashText.IsHash hash →
    (CommandLine.connect inv).outcome = .ok () → c.lookups.head? = some (.receipt (some hash))
  /-- For a range no blocks but those of the range are asked for, and all of them in a command that
  succeeds. -/
  blocks : ∀ range, inv.AsksBlocks range →
    c.lookups.filterMap Lookup.block? <+: range.blocks ∧
      (c.ending = .ok CommandLine.success → c.lookups.filterMap Lookup.block? = range.blocks)
  /-- Two numerals ask for the range between their numbers. -/
  numerals : ∀ range : BlockRange, range.last < 10 ^ Numeral.maxDigits →
    inv.arguments = [Text.ofInt range.first, Text.ofInt range.last] → inv.AsksBlocks range

namespace CommandLine

variable {inv : Invocation}

theorem asksBlocks_of_numerals {range : BlockRange} (limited : range.last < 10 ^ Numeral.maxDigits)
    (hargs : inv.arguments = [Text.ofInt range.first, Text.ofInt range.last]) :
    inv.AsksBlocks range := by
  have hpositive := range.positive
  have hordered := range.ordered
  refine ⟨_, _, hargs, Numeral.read?_ofInt ?_, Numeral.read?_ofInt ?_⟩
  · zify
    rw [abs_of_pos hpositive]
    exact lt_of_le_of_lt hordered limited
  · zify
    rw [abs_of_pos (lt_of_lt_of_le hpositive hordered)]
    exact limited

/-- A command for a range asks for the blocks of the range, and for all of them if it succeeds. -/
theorem run_blocksAsked {range : BlockRange} (asks : inv.AsksBlocks range) :
    (run inv).lookups.filterMap Lookup.block? <+: range.blocks ∧
      ((run inv).ending = .ok success →
        (run inv).lookups.filterMap Lookup.block? = range.blocks) := by
  cases hconnect : (connect inv).outcome with
  | error e =>
      obtain ⟨hending, -, hlookups⟩ := run_of_unconnected hconnect
      rw [hlookups]
      refine ⟨List.nil_prefix, fun hsuccess => ?_⟩
      rw [hsuccess] at hending
      simp [success, failure] at hending
  | ok _ =>
      obtain ⟨routing, hending, -, hlookups⟩ :=
        run_of_connected inv (Request.ofArguments_eq_blocks_iff.mpr asks) hconnect
      obtain ⟨hbegins, hwhole⟩ := Narration.scanRange_blocksAsked inv.topics inv.node range
      rw [hlookups, serve, lookups_runBlocks, ← blocksAsked_eq_filterMap]
      refine ⟨hbegins, fun hsuccess => hwhole ?_⟩
      rw [hending, serve, runBlocks] at hsuccess
      cases hstop : (Narration.scanRange inv.topics inv.node range).stop with
      | none => rfl
      | some e =>
          rw [hstop] at hsuccess
          simp only [after, stopWith] at hsuccess
          split at hsuccess
          · simp [success, interrupted] at hsuccess
          · simp at hsuccess

theorem run_heedsArguments (inv : Invocation) : (run inv).HeedsArguments inv := by
  constructor
  case refused =>
    intro hhash hblocks
    obtain ⟨hending, houtput, hevents⟩ := run_refuses_bad_arguments hhash hblocks
    exact ⟨hending, houtput, by rw [Completion.lookups, hevents, List.filterMap_nil]⟩
  case unconnected => exact fun e h => run_of_unconnected h
  case transaction =>
    intro hash hargs isHash hconnect
    obtain ⟨routing, -, -, hlookups⟩ := run_of_connected inv
      (Request.ofArguments_eq_transaction_iff.mpr ⟨hargs, isHash⟩) hconnect
    rw [hlookups, serve, lookups_runTransaction]
    exact Narration.transaction_asks_receipt isHash
  case blocks => exact fun range asks => run_blocksAsked asks
  case numerals => exact fun range limited hargs => asksBlocks_of_numerals limited hargs

/-- Input is checked before anything is looked up, by the command and by each operation, and what is
looked up is what was asked for. -/
theorem input_checked_before_lookups (inv : Invocation) (topics : TopicTable) (node : Node) :
    (run inv).HeedsArguments inv ∧ Narration.ChecksInput topics node :=
  ⟨run_heedsArguments inv, Narration.checksInput topics node⟩

end CommandLine

/-- A command for two blocks asks for both of them. Bytes are refused as a hash by their name, and
so is a range that ends before it begins. -/
theorem input_checked_of_two_blocks :
    let inv := callOn (logNode (.bytes [])) ["1", "2"]
    (CommandLine.run inv).ending = .ok CommandLine.success ∧ inv.AsksBlocks firstBlocks ∧
      (CommandLine.run inv).lookups.filterMap Lookup.block? = [1, 2] ∧
      (Narration.transaction [] inv.node (.bytes [0])).outcome =
        .error (.invalidHash (.bytes [0])) ∧
      (Narration.range [] inv.node (.int 2) (.int 1)).outcome =
        .error (.invalidRange (.int 2) (.int 1)) := by
  intro inv
  obtain ⟨hcommand, hoperations⟩ := CommandLine.input_checked_before_lookups inv [] inv.node
  have hnumerals : inv.AsksBlocks firstBlocks :=
    hcommand.numerals firstBlocks (by decide +kernel) rfl
  have hsuccess : (CommandLine.run inv).ending = .ok CommandLine.success :=
    Outcome.eq_ok_of_toOption (by decide +kernel)
  have hbytes : ∀ v ∈ [Value.bytes [0]], v.HasText := by
    simpa using Value.HasText.mk rfl (.bytes [0])
  have hints : ∀ v ∈ [Value.int 2, Value.int 1], v.HasText := by
    simp only [List.forall_mem_cons, List.not_mem_nil, false_implies, implies_true, and_true]
    exact ⟨⟨rfl, .int (by decide +kernel)⟩, ⟨rfl, .int (by decide +kernel)⟩⟩
  have hbounds : ¬ BlockRange.AreBounds (.int 2) (.int 1) := by
    rintro ⟨a, b, ha, hb, -, hle⟩
    obtain rfl := Option.some.inj ha
    obtain rfl := Option.some.inj hb
    exact absurd hle (by decide)
  exact ⟨hsuccess, hnumerals, (hcommand.blocks _ hnumerals).2 hsuccess,
    (hoperations.noTransaction (.bytes [0]) nofun).named hbytes,
    (hoperations.noRange _ _ hbounds).named hints⟩

/-- A value without a text is refused as a hash and as a bound, but not with the fault of an invalid
hash or of an invalid range. -/
theorem unprintable_input_refused_unnamed :
    let v := Value.unprintable "R"
    (∀ hash, v = .text hash → ¬ HashText.IsHash hash) ∧
      ¬ BlockRange.AreBounds v (.int 1) ∧
      (∀ given, (Narration.transaction [] (orderNode []) v).outcome ≠
        .error (.invalidHash given)) ∧
      (∀ first last, (Narration.range [] (orderNode []) v (.int 1)).outcome ≠
        .error (.invalidRange first last)) ∧
      ∀ first last, (Cursor.next [] (orderNode []) (.start v (.int 1))).1.outcome ≠
        .error (.invalidRange first last) := by
  intro v
  refine ⟨nofun, ?_, ?_, ?_, ?_⟩
  · rintro ⟨a, b, ha, -⟩
    cases ha
  · intro given h
    cases h
  · intro first last h
    cases h
  · intro first last h
    cases h

end OrderNarration
