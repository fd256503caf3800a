import OrderNarration.Proofs.CutRuns
import OrderNarration.Proofs.ExitCodes
import OrderNarration.Proofs.StepByStep

/-!
# Interrupts

An interrupt can come in any lookup: of a block, of a receipt, or of an order behind a log.
No handler on the way takes it for a fault of the item that was being fetched, so it ends
the command with an exit code of its own. What the command has written by then is the title
and the sections of the traces that were complete before the lookup; with another answer
to this lookup the command writes the same and goes on from there. This is so for an output
that takes every text, and for one of UTF-8 if no line was refused before the lookup.
-/

namespace OrderNarration

theorem CommandLine.not_isPassing_of_isInterrupt {e : Fault} (h : isInterrupt e = true) :
    e.isPassing = false := by
  obtain ⟨failure, rfl, hkind⟩ := isInterrupt_iff.mp h
  simp [Fault.isPassing, FailureKind.isPassing, hkind]

section Steps

variable {node node' : Node} {lookup : Lookup} (interrupts : node.Interrupts lookup)
  (agree : Node.AgreeBut lookup node node')
include interrupts agree

namespace Resolution

theorem find_cutAt (hash : Text) : Run.CutAt lookup (find node hash) (find node' hash) := by
  refine (Node.ask_cutAt interrupts agree _).bind fun found => ?_
  cases found with
  | none => exact Run.cutAt_fail _
  | some transaction => exact Run.cutAt_ofExcept _

/-- The interrupt of an order's lookup is none of the faults that a resolution reports. -/
theorem resolve_cutAt (hash : Text) :
    Run.CutAt lookup (resolve node hash) (resolve node' hash) := by
  have hreport : ∀ (level : Logging.Level) (message : Text) (resolution : Resolution),
      Run.CutAt lookup (Run.note .orders level message >>= fun _ => pure resolution)
        (Run.note .orders level message >>= fun _ => pure resolution) :=
    fun _ _ _ => (Run.cutAt_note _ _ _).bind fun _ => Run.cutAt_pure _
  refine (Run.cutAt_note _ _ _).bind fun _ => ?_
  refine (find_cutAt interrupts agree hash).attempt ?_ ?_
  · intro result
    cases result with
    | ok intent => exact hreport _ _ _
    | error e =>
        dsimp only
        split
        · exact hreport _ _ _
        · exact hreport _ _ _
        · split
          · exact hreport _ _ _
          · exact Run.cutAt_fail e
  · intro e he
    have hpassing := CommandLine.not_isPassing_of_isInterrupt he
    obtain ⟨failure, rfl, -⟩ := CommandLine.isInterrupt_iff.mp he
    simp [hpassing]

end Resolution

namespace Narration

theorem leg_cutAt (record : RecordKind → Text → Entries Value → Record) (l : Leg) (hash : Text) :
    Run.CutAt lookup (leg node record l hash) (leg node' record l hash) := by
  refine (Resolution.resolve_cutAt interrupts agree hash).bind fun resolution => ?_
  split
  · exact (Run.cutAt_ofExcept _).bind fun _ => Run.cutAt_pure _
  · exact Run.cutAt_pure _

theorem payload_cutAt (record : RecordKind → Text → Entries Value → Record) (p : Payload) :
    Run.CutAt lookup (payload node record p) (payload node' record p) := by
  cases p with
  | trade t =>
      refine (Run.cutAt_note _ _ _).bind fun _ => ?_
      refine (leg_cutAt interrupts agree record .buy t.buyHash).bind fun _ => ?_
      exact (leg_cutAt interrupts agree record .sell t.sellHash).bind fun _ => Run.cutAt_pure _
  | triggered ids => exact Run.cutAt_pure _
  | canceled ids => exact Run.cutAt_pure _
  | empty => exact Run.cutAt_pure _

variable (topics : TopicTable)

omit interrupts agree in
theorem classify_cutAt (topic : Value) :
    Run.CutAt lookup (topics.classify topic) (topics.classify topic) := by
  rw [TopicTable.classify]
  split
  · exact Run.cutAt_pure _
  · exact Run.cutAt_pure _
  · exact (Run.cutAt_note _ _ _).bind fun _ => Run.cutAt_pure _

theorem log_cutAt (log : EventLog) (given : Value) :
    Run.CutAt lookup (Narration.log topics node log given)
      (Narration.log topics node' log given) := by
  have hreport : ∀ (message : Text) (records : List Record),
      Run.CutAt lookup (Run.note .logs .error message >>= fun _ => pure records)
        (Run.note .logs .error message >>= fun _ => pure records) :=
    fun _ _ => (Run.cutAt_note _ _ _).bind fun _ => Run.cutAt_pure _
  refine (classify_cutAt topics _).bind fun classification => ?_
  refine (Run.cutAt_ofExcept _).bind fun place => ?_
  refine (Run.cutAt_note _ _ _).bind fun _ => ?_
  split
  · exact hreport _ _
  · split
    · exact Run.cutAt_pure _
    · split
      · exact hreport _ _
      · split
        · exact payload_cutAt interrupts agree _ _
        · exact hreport _ _

theorem entriesFrom_cutAt (hash : Option Text) (position : Nat) (values : List Value) :
    Run.CutAt lookup (entriesFrom topics node hash position values)
      (entriesFrom topics node' hash position values) := by
  induction values generalizing position with
  | nil => exact Run.cutAt_pure _
  | cons v rest ih =>
      have hentry : Run.CutAt lookup (entry topics node hash position v)
          (entry topics node' hash position v) := by
        refine (Run.cutAt_ofExcept _).bind fun log => ?_
        refine (classify_cutAt topics _).bind fun _ => ?_
        exact (log_cutAt interrupts agree topics _ _).bind fun _ => Run.cutAt_pure _
      exact hentry.bind fun records => (ih (position + 1)).map _

theorem receipt_cutAt (value : Value) (hash : Option Text) :
    Run.CutAt lookup (receipt topics node value hash) (receipt topics node' value hash) := by
  refine (Run.cutAt_ofExcept _).bind fun logs => ?_
  cases logs with
  | nil => exact Run.cutAt_pure _
  | cons v rest => exact entriesFrom_cutAt interrupts agree topics hash 0 (v :: rest)

theorem transaction_cutAt (hash : Value) :
    Run.CutAt lookup (transaction topics node hash) (transaction topics node' hash) := by
  refine (Run.cutAt_ofExcept _).bind fun hash => ?_
  refine (Node.ask_cutAt interrupts agree _).bind fun found => ?_
  cases found with
  | none => exact Run.cutAt_fail _
  | some value => exact receipt_cutAt interrupts agree topics value (some hash)

/-- The interrupt of a block's lookup does not pass for a block that cannot be had. -/
theorem blockEntries_cutAt (number : Int) :
    Run.CutAt lookup (blockEntries node number) (blockEntries node' number) := by
  refine (Node.ask_cutAt interrupts agree _).attempt (fun answer => ?_) fun e he => ?_
  · split
    · exact Run.cutAt_ofExcept _
    · exact (Run.cutAt_note _ _ _).bind fun _ => Run.cutAt_pure _
    · split
      · exact (Run.cutAt_note _ _ _).bind fun _ => Run.cutAt_pure _
      · exact Run.cutAt_fail _
  · simp [CommandLine.not_isPassing_of_isInterrupt he]

/-- The interrupt of a receipt's lookup does not pass for a receipt that cannot be had. -/
theorem visit_cutAt (block : Int) (position : Nat) (value : Value) :
    Run.CutAt lookup (visit topics node block position value)
      (visit topics node' block position value) := by
  refine (Run.cutAt_ofExcept _).bind fun hash => ?_
  refine (Node.ask_cutAt interrupts agree _).attempt (fun answer => ?_) fun e he => ?_
  · split
    · exact (receipt_cutAt interrupts agree topics _ hash).bind fun _ => Run.cutAt_pure _
    · exact (Run.cutAt_note _ _ _).bind fun _ => Run.cutAt_pure _
    · split
      · exact (Run.cutAt_note _ _ _).bind fun _ => Run.cutAt_pure _
      · exact Run.cutAt_fail _
  · simp [CommandLine.not_isPassing_of_isInterrupt he]

theorem courseEntries_cutAt (block : Int) (taken position : Nat) (entries : List Value) :
    Course.CutAt lookup (courseEntries topics (fun _ => node) block taken position entries)
      (courseEntries topics (fun _ => node') block taken position entries) := by
  induction entries generalizing taken position with
  | nil => exact Course.cutAt_done
  | cons v rest ih =>
      have hvisit := visit_cutAt interrupts agree topics block position v
      refine Course.cutAt_after hvisit fun trace => ?_
      cases trace with
      | none => exact ih taken (position + 1)
      | some t => exact (ih (taken + 1) (position + 1)).withTrace (some t)

/-- The course over blocks is cut by the interrupt, wherever in it the lookup is made. -/
theorem courseBlocks_cutAt (taken : Nat) (number : Int) (count : Nat) :
    Course.CutAt lookup (courseBlocks topics (fun _ => node) taken number count)
      (courseBlocks topics (fun _ => node') taken number count) := by
  induction count generalizing taken number with
  | zero => exact Course.cutAt_done
  | succ count ih =>
      refine Course.cutAt_after (blockEntries_cutAt interrupts agree number) fun entries => ?_
      exact (courseEntries_cutAt interrupts agree topics number taken 1 _).append
        fun n => ih (taken + n) (number + 1)

end Narration

end Steps

/-- The records of the trace are the whole narration of the receipt that the node gives for its
hash. -/
def Trace.IsWhole (topics : TopicTable) (node : Node) (t : Trace) : Prop :=
  ∃ found, node.fetched (.receipt t.hash) = some found ∧
    (Narration.receipt topics node found t.hash).outcome = .ok t.records

namespace Narration

variable {topics : TopicTable} {node : Node} {t : Trace}

theorem isWhole_of_visit {block : Int} {position : Nat} {value : Value}
    (h : (visit topics node block position value).outcome = .ok (some t)) :
    t.IsWhole topics node := by
  obtain ⟨-, -, hat⟩ := Cursor.isAt_of_visit h
  cases hat with
  | trace _ fetched narrated => exact ⟨_, fetched, narrated⟩

theorem isWhole_of_scanEntries {block : Int} {position : Nat} {entries : List Value}
    (h : t ∈ (scanEntries topics node block position entries).traces) :
    t.IsWhole topics node := by
  induction entries generalizing position with
  | nil => simp [scanEntries, Scan.done] at h
  | cons v rest ih =>
      rw [scanEntries] at h
      cases hvisit : (visit topics node block position v).outcome with
      | error e => simp [Scan.after_of_error hvisit] at h
      | ok trace =>
          rw [Scan.after_of_ok hvisit] at h
          rcases List.mem_append.mp h with hown | hrest
          · obtain rfl := Option.mem_toList.mp hown
            exact isWhole_of_visit hvisit
          · exact ih hrest

/-- A scan has only whole traces, also if it was ended. -/
theorem isWhole_of_scanBlocks {number : Int} {count : Nat}
    (h : t ∈ (scanBlocks topics node number count).traces) : t.IsWhole topics node := by
  induction count generalizing number with
  | zero => simp [scanBlocks, Scan.done] at h
  | succ count ih =>
      rw [scanBlocks] at h
      cases hblock : (blockEntries node number).outcome with
      | error e => simp [Scan.after_of_error hblock] at h
      | ok entries =>
          rw [Scan.after_of_ok hblock] at h
          cases hstop : (scanEntries topics node number 1 (entries.drop 1)).stop with
          | some e =>
              simp only [Scan.append, hstop] at h
              exact isWhole_of_scanEntries h
          | none =>
              rw [Scan.append_of_stop_eq_none hstop] at h
              rcases List.mem_append.mp h with hown | hrest
              · exact isWhole_of_scanEntries hown
              · exact ih hrest

end Narration

/-- The lookups that a command made. -/
def Completion.lookups (c : Completion) : List Lookup := c.events.filterMap Event.lookup?

theorem mem_lookups_iff {events : List Event} {lookup : Lookup} :
    lookup ∈ events.filterMap Event.lookup? ↔ .asked lookup ∈ events := by
  rw [List.mem_filterMap]
  constructor
  · rintro ⟨e, he, hlookup⟩
    cases e with
    | asked other =>
        obtain rfl := Option.some.inj hlookup
        exact he
    | noted d => simp [Event.lookup?] at hlookup
  · intro h
    exact ⟨_, h, rfl⟩

theorem Client.lookups_connect (client : Client) (presence : Presence) :
    (client.connect presence).lookups = [] := by
  cases presence with
  | failed failure =>
      rw [Client.connect]
      refine Run.lookups_bind_of_silent fun _ => ?_
      split
      · rfl
      · rfl
  | answer v =>
      rw [Client.connect]
      refine Run.lookups_bind_of_silent fun _ => ?_
      split
      · rfl
      · rfl

namespace CommandLine

variable {inv : Invocation} {lookup : Lookup} {request : Request}

/-- To make sure that the node is there nothing is looked up. -/
theorem lookups_connect (inv : Invocation) : (connect inv).lookups = [] := by
  rw [connect]
  cases inv.presence with
  | none => rfl
  | some presence => exact Client.lookups_connect _ presence

/-- With a request and a node that is there, the command serves the request. -/
theorem run_of_connected (inv : Invocation)
    (hrequest : Request.ofArguments inv.arguments = some (.ok request))
    (hconnect : (connect inv).outcome = .ok ()) :
    ∃ routing, (run inv).ending = (serve inv routing request).ending ∧
      (run inv).output = (serve inv routing request).output ∧
      (run inv).lookups = (serve inv routing request).lookups := by
  have hquiet : (connect inv).events.filterMap Event.lookup? = [] := lookups_connect inv
  obtain ⟨routing, lines, hending, houtput, -, hevents⟩ :=
    runWith_of_connected (serve inv) hrequest hconnect
  refine ⟨routing, hending, houtput, ?_⟩
  rw [run, Completion.lookups, hevents, List.filterMap_append, hquiet, List.nil_append]
  rfl

/-- Nothing is looked up without a request and a node that is there. -/
theorem request_of_asked (h : lookup ∈ (run inv).lookups) :
    (∃ request, Request.ofArguments inv.arguments = some (.ok request)) ∧
      (connect inv).outcome = .ok () := by
  have hquiet : (connect inv).events.filterMap Event.lookup? = [] := lookups_connect inv
  cases hrequest : Request.ofArguments inv.arguments with
  | none => simp [run, runWith, hrequest, Completion.lookups] at h
  | some result =>
      cases result with
      | error e => simp [run, runWith, hrequest, Completion.lookups, complain] at h
      | ok request =>
          refine ⟨⟨request, rfl⟩, ?_⟩
          cases hconnect : (connect inv).outcome with
          | ok _ => rfl
          | error e =>
              simp only [run, runWith, hrequest, carryOut, hconnect, after, Completion.lookups,
                List.filterMap_append, hquiet, List.nil_append] at h
              split at h <;> simp [complain] at h

/-- Without a node there is no output and nothing is looked up. -/
theorem run_of_unconnected {e : Fault} (h : (connect inv).outcome = .error e) :
    ((run inv).ending = .ok failure ∨ (run inv).ending = .error e) ∧ (run inv).output = [] ∧
      (run inv).lookups = [] := by
  have hasked : (run inv).lookups = [] := by
    apply List.eq_nil_iff_forall_not_mem.mpr
    intro lookup hlookup
    exact absurd (request_of_asked hlookup).2 (by simp [h])
  refine and_assoc.mp ⟨?_, hasked⟩
  cases hrequest : Request.ofArguments inv.arguments with
  | none => simp [run, runWith, hrequest]
  | some result =>
      cases result with
      | error cause => simp [run, runWith, hrequest, complain]
      | ok request =>
          simp only [run, runWith, hrequest, carryOut, h, after]
          split
          · exact ⟨.inl rfl, rfl⟩
          · exact ⟨.inr rfl, rfl⟩

end CommandLine

namespace Narration

section Cut

variable {topics : TopicTable} {node node' : Node} {range : BlockRange} {lookup : Lookup}

theorem stop_of_endsAt (h : (courseOn topics node range).EndsAt lookup) :
    ∃ e, (scanRange topics node range).stop = some e ∧ CommandLine.isInterrupt e = true := by
  rw [← scan_courseOn]
  exact h.interrupted

variable (interrupts : node.Interrupts lookup)
include interrupts

theorem courseOn_begins (agree : Node.AgreeBut lookup node node') :
    (courseOn topics node range).moments <+: (courseOn topics node' range).moments :=
  (courseBlocks_cutAt interrupts agree topics 0 range.first range.count).begins

theorem traces_scanRange_begin (agree : Node.AgreeBut lookup node node') :
    (scanRange topics node range).traces <+: (scanRange topics node' range).traces := by
  rw [← traces_courseOn, ← traces_courseOn]
  exact (courseOn_begins interrupts agree).filterMap _

/-- An interrupted lookup that a course comes to is its end. -/
theorem courseOn_endsAt (asked : .asked lookup ∈ (scanRange topics node range).events) :
    (courseOn topics node range).EndsAt lookup := by
  have hcut := courseBlocks_cutAt interrupts (fun _ _ => rfl : Node.AgreeBut lookup node node)
    topics 0 range.first range.count
  refine hcut.endsAt ?_
  rw [← scan_courseOn] at asked
  obtain ⟨m, hm, hevent⟩ := List.mem_filterMap.mp asked
  cases m with
  | event e =>
      obtain rfl := Option.some.inj hevent
      exact hm
  | trace t => simp [Moment.event?] at hevent

end Cut

end Narration

/-- The section of a trace as it is written: a title line, a line for each record behind its indent,
and a line of 38 dashes. -/
def Trace.IsWrittenAs (t : Trace) (written : Text) : Prop :=
  written = ("Analyzing block " : Text) ++ Text.ofInt t.block ++ " tx[" ++
    Text.ofNat t.position ++ "]: " ++ t.hash.getD "None" ++ "\n" ++
    (t.records.flatMap fun r => r.indent ++ r.message ++ ("\n" : Text)) ++
    List.replicate 38 (CodePoint.scalar '-') ++ "\n"

/-- What a command for a range leaves that was interrupted in a lookup: the exit code of an
interrupt, a line with the bounds, and the sections of whole traces. They are the traces that are
complete before the lookup is made for the first time, whatever the answer to it is, and the output
goes on from there if there is another answer. -/
structure CommandLine.IsCutAt (command : Invocation → Completion) (inv : Invocation)
    (range : BlockRange) (lookup : Lookup) : Prop where
  ending : (command inv).ending = .ok interrupted
  output : ∃ traces sections,
    (command inv).output = ("Analyzing logs from block " : Text) ++ Text.ofInt range.first ++
      " to block " ++ Text.ofInt range.last ++ "\n" ++ sections.flatten ∧
    List.Forall₂ Trace.IsWrittenAs traces sections ∧
    (∀ t ∈ traces, t.IsWhole inv.topics inv.node) ∧
    ∀ node', Node.AgreeBut lookup inv.node node' →
      (∃ before rest, .event (.asked lookup) ∉ before ∧
        (Narration.courseOn inv.topics node' range).moments =
          before ++ .event (.asked lookup) :: rest ∧
        traces = before.filterMap Moment.trace?) ∧
      traces <+: (Narration.scanRange inv.topics node' range).traces ∧
      (command inv).output <+: (command { inv with node := node' }).output

namespace CommandLine

variable {inv : Invocation} {lookup : Lookup} {range : BlockRange} {hash : Text}

theorem output_runBlocks (inv : Invocation) (routing : Logging.Routing) (range : BlockRange) :
    (runBlocks inv routing range).output =
      scanTitle range ++
        (Narration.scanRange inv.topics inv.node range).traces.flatMap traceSection := by
  rw [runBlocks]
  cases (Narration.scanRange inv.topics inv.node range).stop with
  | none => rfl
  | some e =>
      simp only [after, stopWith]
      split
      · rfl
      · rfl

theorem output_run_of_blocks (asks : inv.AsksBlocks range)
    (hconnect : (connect inv).outcome = .ok ()) :
    (run inv).output = scanTitle range ++
      (Narration.scanRange inv.topics inv.node range).traces.flatMap traceSection := by
  obtain ⟨routing, lines, -, houtput, -⟩ :=
    runWith_of_connected (serve inv) (Request.ofArguments_eq_blocks_iff.mpr asks) hconnect
  exact houtput.trans (output_runBlocks inv routing range)

theorem output_runPrinting_of_blocks (asks : inv.AsksBlocks range)
    (hconnect : (connect inv).outcome = .ok ()) :
    (runPrinting inv).output = scanTitle range ++
      (Printing.moments (Narration.courseOn inv.topics inv.node range).moments).output := by
  obtain ⟨routing, lines, -, houtput, -⟩ :=
    runWith_of_connected (servePrinting inv) (Request.ofArguments_eq_blocks_iff.mpr asks) hconnect
  exact houtput.trans (output_printBlocks inv routing range)

theorem forall₂_traceSection (traces : List Trace) :
    List.Forall₂ Trace.IsWrittenAs traces (traces.map traceSection) := by
  induction traces with
  | nil => exact .nil
  | cons t rest ih => exact .cons (traceSection_eq t) ih

theorem lookups_runBlocks (inv : Invocation) (routing : Logging.Routing) (range : BlockRange) :
    (runBlocks inv routing range).lookups =
      (Narration.scanRange inv.topics inv.node range).events.filterMap Event.lookup? := by
  rw [runBlocks]
  cases (Narration.scanRange inv.topics inv.node range).stop with
  | none => simp [after, Completion.lookups]
  | some e =>
      simp only [after, stopWith, Completion.lookups]
      split
      · simp
      · simp

theorem lookups_runTransaction (inv : Invocation) (routing : Logging.Routing) (hash : Text) :
    (runTransaction inv routing hash).lookups =
      (Narration.transaction inv.topics inv.node (.text hash)).lookups := by
  rw [runTransaction]
  cases (Narration.transaction inv.topics inv.node (.text hash)).outcome with
  | ok records => simp [after, Completion.lookups, Run.lookups]
  | error e =>
      simp only [after, complain, stopWith, Completion.lookups, Run.lookups]
      repeat' split
      all_goals simp

section Interrupted

variable (interrupts : inv.node.Interrupts lookup) (asked : lookup ∈ (run inv).lookups)
include interrupts asked

/-- An interrupted command for a range has written whole sections only. -/
theorem run_isCutAt (asks : inv.AsksBlocks range) : IsCutAt run inv range lookup := by
  have hrequest := Request.ofArguments_eq_blocks_iff.mpr asks
  have hconnect := (request_of_asked asked).2
  have houtput := output_run_of_blocks asks hconnect
  obtain ⟨routing, hending, -, hlookups⟩ := run_of_connected inv hrequest hconnect
  rw [hlookups, serve, lookups_runBlocks] at asked
  have hends := Narration.courseOn_endsAt interrupts (mem_lookups_iff.mp asked)
  constructor
  case ending =>
    obtain ⟨e, hstop, hinterrupt⟩ := Narration.stop_of_endsAt hends
    rw [hending, serve, runBlocks, hstop]
    simp [after, stopWith, hinterrupt]
  case output =>
    have hsections := forall₂_traceSection (Narration.scanRange inv.topics inv.node range).traces
    rw [List.flatMap_def] at houtput
    refine ⟨_, _, houtput, hsections, fun t ht => Narration.isWhole_of_scanBlocks ht,
      fun node' agree => ?_⟩
    have htraces : (Narration.scanRange inv.topics inv.node range).traces <+:
        (Narration.scanRange inv.topics node' range).traces :=
      Narration.traces_scanRange_begin interrupts agree
    refine ⟨?_, htraces, ?_⟩
    · rw [← Narration.traces_courseOn]
      exact hends.exists_split (Narration.courseOn_begins interrupts agree)
    · have asks' : { inv with node := node' }.AsksBlocks range := asks
      rw [houtput, output_run_of_blocks asks' hconnect, ← List.flatMap_def]
      exact (List.prefix_append_right_inj _).mpr (htraces.flatMap traceSection)

/-- An output of UTF-8 that has taken all lines up to the interrupt has the same. -/
theorem runPrinting_isCutAt (asks : inv.AsksBlocks range) {code : Nat}
    (returned : (runPrinting inv).ending = .ok code) : IsCutAt runPrinting inv range lookup := by
  have hconnect := (request_of_asked asked).2
  have printable := isPrintable_of_returned hconnect returned
  have hsame := runPrinting_of_printable printable
  obtain ⟨hending, traces, sections, houtput, hsections, hwhole, hagree⟩ :=
    run_isCutAt interrupts asked asks
  rw [← hsame] at hending houtput
  refine ⟨hending, traces, sections, houtput, hsections, hwhole, fun node' agree => ?_⟩
  obtain ⟨hsplit, htraces, -⟩ := hagree node' agree
  refine ⟨hsplit, htraces, ?_⟩
  have asks' : { inv with node := node' }.AsksBlocks range := asks
  have hclean := printable.blocks range asks
  rw [← Narration.traces_courseOn] at hclean
  have hbegins : (Narration.courseOn inv.topics inv.node range).moments <+:
      (Narration.courseOn inv.topics node' range).moments :=
    Narration.courseOn_begins interrupts agree
  obtain ⟨rest, hrest⟩ := hbegins
  rw [output_runPrinting_of_blocks asks hconnect, output_runPrinting_of_blocks asks' hconnect,
    ← hrest, Printing.moments_append hclean, Printing.moments_of_no_surrogate hclean,
    ← List.append_assoc]
  exact List.prefix_append _ _

/-- An interrupted command for a transaction has written nothing. -/
theorem run_of_interrupted_transaction (hargs : inv.arguments = [hash]) :
    (run inv).ending = .ok interrupted ∧ (run inv).output = [] ∧ runPrinting inv = run inv := by
  obtain ⟨⟨request, hrequest⟩, hconnect⟩ := request_of_asked asked
  obtain rfl : request = .transaction hash := by
    cases request with
    | transaction given =>
        obtain ⟨hgiven, -⟩ := Request.ofArguments_eq_transaction_iff.mp hrequest
        obtain rfl : hash = given := by simpa [hargs] using hgiven
        rfl
    | blocks range =>
        obtain ⟨first, last, hboth, -⟩ := Request.ofArguments_eq_blocks_iff.mp hrequest
        simp [hargs] at hboth
  obtain ⟨routing, hending, houtput, hlookups⟩ := run_of_connected inv hrequest hconnect
  rw [hlookups, serve, lookups_runTransaction] at asked
  have hcut := Narration.transaction_cutAt interrupts
    (fun _ _ => rfl : Node.AgreeBut lookup inv.node inv.node) inv.topics (.text hash)
  obtain ⟨e, herror, hinterrupt⟩ := (hcut.endsAt (mem_lookups_iff.mp asked)).interrupted
  have hpassing := not_isPassing_of_isInterrupt hinterrupt
  have hprintable := Invocation.isPrintable_of_refused_transaction hargs herror
  refine and_assoc.mp ⟨?_, runPrinting_of_printable hprintable⟩
  rw [hending, houtput, serve, runTransaction, herror]
  obtain ⟨failure, rfl, hkind⟩ := isInterrupt_iff.mp hinterrupt
  simp [after, stopWith, hpassing, hinterrupt]

/-- An interrupted lookup ends the command with the exit code of an interrupt. For a range the
output is the title and the sections of whole traces, namely of those that come before the lookup,
and the output with any other answer to this lookup begins with it. An output of UTF-8 has the same
if the command returns. For a transaction there is no output. -/
theorem interrupt_leaves_whole_sections :
    (∀ range, inv.AsksBlocks range → IsCutAt run inv range lookup ∧
      ∀ code, (runPrinting inv).ending = .ok code → IsCutAt runPrinting inv range lookup) ∧
    ∀ hash, inv.arguments = [hash] →
      (run inv).ending = .ok interrupted ∧ (run inv).output = [] ∧ runPrinting inv = run inv :=
  ⟨fun _ asks => ⟨run_isCutAt interrupts asked asks,
      fun _ returned => runPrinting_isCutAt interrupts asked asks returned⟩,
    fun _ hargs => run_of_interrupted_transaction interrupts asked hargs⟩

end Interrupted

end CommandLine

/-- A node with one block, on which only the receipt of the first transaction can be had. The
lookup of any other receipt is interrupted. -/
def interruptedNode : Node
  | .block 1 => .found (.mapping [("transactions", .list [.bytes [0], .bytes [1], .bytes [2]])])
  | .receipt hash =>
    if hash = some "0x01" then .found (receiptOf [plainEntry "0xaa" []])
    else .failed ⟨.interrupt, "interrupted"⟩
  | _ => .absent

/-- The second receipt of a block is interrupted, and the section of the first one is written. -/
theorem interrupt_leaves_first_section :
    let inv := callOn interruptedNode ["1", "2"]
    let lookup := Lookup.receipt (some "0x02")
    inv.node.Interrupts lookup ∧ lookup ∈ (CommandLine.run inv).lookups ∧
      (Narration.scanRange inv.topics inv.node firstBlocks).traces.map Trace.place = [⟨1, 1⟩] ∧
      CommandLine.IsCutAt CommandLine.run inv firstBlocks lookup ∧
      CommandLine.IsCutAt CommandLine.runPrinting inv firstBlocks lookup ∧
      (CommandLine.run (callOn interruptedNode [zeroHash])).ending = .ok CommandLine.interrupted ∧
      (CommandLine.run (callOn interruptedNode [zeroHash])).output = [] := by
  intro inv lookup
  have hinterrupts : inv.node.Interrupts lookup := ⟨⟨.interrupt, "interrupted"⟩, rfl, rfl⟩
  have hasked : lookup ∈ (CommandLine.run inv).lookups := by decide +kernel
  obtain ⟨hrange, -⟩ := CommandLine.interrupt_leaves_whole_sections hinterrupts hasked
  obtain ⟨hcut, hprinting⟩ := hrange _ (callOn_asksBlocks _)
  have hreturned : (CommandLine.runPrinting inv).ending = .ok CommandLine.interrupted :=
    Outcome.eq_ok_of_toOption (by decide +kernel)
  have hasked' : .receipt (some zeroHash) ∈
      (CommandLine.run (callOn interruptedNode [zeroHash])).lookups := by decide +kernel
  obtain ⟨-, htransaction⟩ := CommandLine.interrupt_leaves_whole_sections
    ⟨⟨.interrupt, "interrupted"⟩, rfl, rfl⟩ hasked'
  obtain ⟨hending, houtput, -⟩ := htransaction _ rfl
  exact ⟨hinterrupts, hasked, by decide +kernel, hcut, hprinting _ hreturned, hending, houtput⟩

end OrderNarration
