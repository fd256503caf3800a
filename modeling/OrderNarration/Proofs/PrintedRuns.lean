import OrderNarration.Proofs.PrintedLines
import OrderNarration.Proofs.Requests

/-!
# Runs that print

With an output of UTF-8 the command does what it does with an output that takes every
text, unless it has to print a lone surrogate. Then it ends with the fault of the first
line that is refused, and everything before this line is printed.
-/

namespace OrderNarration

namespace Invocation

variable {inv : Invocation} {hash : Text} {range : BlockRange}

/-- There is no lone surrogate in what the command has to print, be it for a transaction or for a
range of blocks. -/
structure IsPrintable (inv : Invocation) : Prop where
  transaction : ∀ hash records, inv.arguments = [hash] →
    (Narration.transaction inv.topics inv.node (.text hash)).outcome = .ok records →
    ∀ r ∈ records, ¬ r.message.HasSurrogate
  blocks : ∀ range, inv.AsksBlocks range →
    ∀ t ∈ (Narration.scanRange inv.topics inv.node range).traces, ¬ t.HasSurrogate

theorem isPrintable_of_refused_transaction {e : Fault} (hargs : inv.arguments = [hash])
    (h : (Narration.transaction inv.topics inv.node (.text hash)).outcome = .error e) :
    inv.IsPrintable where
  transaction := by
    intro hash' records hargs' hok
    obtain rfl : hash = hash' := by simpa [hargs] using hargs'
    simp [h] at hok
  blocks := by
    rintro range ⟨first, last, hboth, -⟩
    simp [hargs] at hboth

end Invocation

theorem Narration.isHash_of_transaction {topics : TopicTable} {node : Node} {hash : Text}
    {records : List Record} (h : (transaction topics node (.text hash)).outcome = .ok records) :
    HashText.IsHash hash := by
  rw [transaction, Run.outcome_bind, Run.outcome_ofExcept] at h
  obtain ⟨own, hown, -⟩ := Outcome.bind_eq_ok_iff.mp h
  rw [HashText.transactionHash] at hown
  split at hown
  next hhash => exact HashText.isTransactionHash_iff.mp hhash
  next => simp at hown

namespace CommandLine

variable {inv : Invocation} {routing : Logging.Routing} {hash : Text} {range : BlockRange}
  {request : Request}

section Services

variable (service service' : Logging.Routing → Request → Completion)

/-- Services that agree on what is asked for make the same run. -/
theorem runWith_congr (h : ∀ routing request,
    Request.ofArguments inv.arguments = some (.ok request) →
      service routing request = service' routing request) :
    runWith service inv = runWith service' inv := by
  rw [runWith, runWith]
  cases hrequest : Request.ofArguments inv.arguments with
  | none => rfl
  | some result =>
      cases result with
      | error e => rfl
      | ok request => simp only [carryOut, h _ request hrequest]

/-- A request with a node that is there ends as it is served, with the output of the service. What
is told before stands in front of what the service tells. -/
theorem runWith_of_connected (hrequest : Request.ofArguments inv.arguments = some (.ok request))
    (connected : (connect inv).outcome = .ok ()) :
    ∃ routing lines, (runWith service inv).ending = (service routing request).ending ∧
      (runWith service inv).output = (service routing request).output ∧
      (runWith service inv).errors = lines ++ (service routing request).errors ∧
      (runWith service inv).events =
        (connect inv).events ++ (service routing request).events := by
  let routing := (Logging.Routing.initial inv.terminal).setUp Logging.Level.info inv.debug
  refine ⟨routing, routing.setUpConsole inv.debug ++ consoleLines routing (connect inv).events, ?_⟩
  simp [runWith, hrequest, carryOut, connected, after, routing]

end Services

section Transaction

variable {before after : List Record} {r : Record}

theorem not_hasSurrogate_lines {records : List Record}
    (h : ∀ r ∈ records, ¬ r.message.HasSurrogate) :
    ∀ line ∈ records.map Record.line, ¬ line.HasSurrogate := by
  intro line hline
  obtain ⟨r, hr, rfl⟩ := List.mem_map.mp hline
  exact Record.hasSurrogate_line_iff.not.mpr (h r hr)

theorem printTransaction_of_no_surrogate
    (h : ∀ records, (Narration.transaction inv.topics inv.node (.text hash)).outcome = .ok records →
      ∀ r ∈ records, ¬ r.message.HasSurrogate) :
    printTransaction inv routing hash = runTransaction inv routing hash := by
  cases houtcome : (Narration.transaction inv.topics inv.node (.text hash)).outcome with
  | error e => simp only [printTransaction, houtcome]
  | ok records =>
      have hlines := not_hasSurrogate_lines (h records houtcome)
      simp only [printTransaction, runTransaction, houtcome, Printing.lines_of_no_surrogate hlines,
        Printing.finish, recordLines, List.flatMap_map]

/-- The records before the first one with a lone surrogate are printed. -/
theorem printTransaction_of_first_surrogate (routing : Logging.Routing)
    (h : (Narration.transaction inv.topics inv.node (.text hash)).outcome =
      .ok (before ++ r :: after))
    (hbefore : ∀ b ∈ before, ¬ b.message.HasSurrogate) (hr : r.message.HasSurrogate) :
    ∃ wording, (printTransaction inv routing hash).ending = .error (.notEncodable wording) ∧
      (printTransaction inv routing hash).output = recordLines before := by
  obtain ⟨wording, hprinted⟩ := Printing.lines_of_first_surrogate
    (not_hasSurrogate_lines hbefore) (Record.hasSurrogate_line_iff.mpr hr) (after.map Record.line)
  refine ⟨wording, ?_⟩
  simp only [printTransaction, h, List.map_append, List.map_cons, hprinted, Printing.finish,
    CommandLine.after, recordLines, List.flatMap_map, and_self]

end Transaction

section Blocks

theorem printBlocks_of_no_surrogate
    (h : ∀ t ∈ (Narration.scanRange inv.topics inv.node range).traces, ¬ t.HasSurrogate) :
    printBlocks inv routing range = runBlocks inv routing range := by
  rw [← Narration.scan_courseOn] at h
  rw [printBlocks, runBlocks, Printing.line_of_no_surrogate (not_hasSurrogate_scanHeading range),
    Printing.andThen_of_printed rfl, Printing.moments_of_no_surrogate h,
    ← Narration.scan_courseOn]
  rfl

theorem output_printBlocks (inv : Invocation) (routing : Logging.Routing) (range : BlockRange) :
    (printBlocks inv routing range).output = scanTitle range ++
      (Printing.moments (Narration.courseOn inv.topics inv.node range).moments).output := by
  rw [printBlocks, Printing.line_of_no_surrogate (not_hasSurrogate_scanHeading range),
    Printing.andThen_of_printed rfl]
  simp only [CommandLine.after, Printing.finish, scanTitle]
  cases (Printing.moments (Narration.courseOn inv.topics inv.node range).moments).refusal with
  | some e => rfl
  | none =>
      cases (Narration.courseOn inv.topics inv.node range).stop with
      | none => rfl
      | some e =>
          simp only [stopWith]
          split
          · rfl
          · rfl

/-- The traces before the first one with a lone surrogate are printed, and this one up to the first
line with a lone surrogate. -/
theorem printBlocks_of_first_surrogate (routing : Logging.Routing) {before after : List Trace}
    {t : Trace}
    (h : (Narration.scanRange inv.topics inv.node range).traces = before ++ t :: after)
    (hbefore : ∀ b ∈ before, ¬ b.HasSurrogate) (ht : t.HasSurrogate) :
    ∃ part line rest wording, traceLines t = part ++ line :: rest ∧
      (∀ s ∈ part, ¬ s.HasSurrogate) ∧ line.HasSurrogate ∧
      (printBlocks inv routing range).ending = .error (.notEncodable wording) ∧
      (printBlocks inv routing range).output = scanTitle range ++
        before.flatMap traceSection ++ part.flatMap (fun s => s ++ ("\n" : Text)) := by
  rw [← Narration.scan_courseOn] at h
  obtain ⟨part, line, rest, wording, hlines, hpart, hline, houtput, hrefusal⟩ :=
    Printing.moments_of_first_surrogate h hbefore ht
  refine ⟨part, line, rest, wording, hlines, hpart, hline, ?_⟩
  rw [printBlocks, Printing.line_of_no_surrogate (not_hasSurrogate_scanHeading range),
    Printing.andThen_of_printed rfl]
  simp only [Printing.finish, hrefusal, CommandLine.after, houtput, scanTitle, List.append_assoc,
    and_self]

end Blocks

/-- Without lone surrogates it does not matter whether the output takes them. -/
theorem runPrinting_of_printable (printable : inv.IsPrintable) : runPrinting inv = run inv := by
  refine runWith_congr _ _ fun routing request hrequest => ?_
  cases request with
  | transaction hash =>
      obtain ⟨hargs, -⟩ := Request.ofArguments_eq_transaction_iff.mp hrequest
      exact printTransaction_of_no_surrogate fun records => printable.transaction hash records hargs
  | blocks range =>
      exact printBlocks_of_no_surrogate
        (printable.blocks range (Request.ofArguments_eq_blocks_iff.mp hrequest))

section Refused

variable (connected : (connect inv).outcome = .ok ())
include connected

theorem runPrinting_of_refused_record {before after : List Record} {r : Record}
    (hargs : inv.arguments = [hash])
    (h : (Narration.transaction inv.topics inv.node (.text hash)).outcome =
      .ok (before ++ r :: after))
    (hbefore : ∀ b ∈ before, ¬ b.message.HasSurrogate) (hr : r.message.HasSurrogate) :
    ∃ wording, (runPrinting inv).ending = .error (.notEncodable wording) ∧
      (runPrinting inv).output = recordLines before := by
  have hrequest := Request.ofArguments_eq_transaction_iff.mpr
    ⟨hargs, Narration.isHash_of_transaction h⟩
  obtain ⟨routing, lines, hending, houtput, -⟩ :=
    runWith_of_connected (servePrinting inv) hrequest connected
  rw [runPrinting, hending, houtput]
  exact printTransaction_of_first_surrogate routing h hbefore hr

theorem runPrinting_of_refused_trace {before after : List Trace} {t : Trace}
    (asks : inv.AsksBlocks range)
    (h : (Narration.scanRange inv.topics inv.node range).traces = before ++ t :: after)
    (hbefore : ∀ b ∈ before, ¬ b.HasSurrogate) (ht : t.HasSurrogate) :
    ∃ part line rest wording, traceLines t = part ++ line :: rest ∧
      (∀ s ∈ part, ¬ s.HasSurrogate) ∧ line.HasSurrogate ∧
      (runPrinting inv).ending = .error (.notEncodable wording) ∧
      (runPrinting inv).output = scanTitle range ++
        before.flatMap traceSection ++ part.flatMap (fun s => s ++ ("\n" : Text)) := by
  have hrequest := Request.ofArguments_eq_blocks_iff.mpr asks
  obtain ⟨routing, lines, hending, houtput, -⟩ :=
    runWith_of_connected (servePrinting inv) hrequest connected
  rw [runPrinting, hending, houtput]
  exact printBlocks_of_first_surrogate routing h hbefore ht

/-- Whatever the command has to print a lone surrogate for, it ends with the fault of this. -/
theorem runPrinting_of_unprintable (h : ¬ inv.IsPrintable) :
    ∃ wording, (runPrinting inv).ending = .error (.notEncodable wording) := by
  by_contra hnone
  refine h ⟨fun hash records hargs hok r hr hbad => ?_, fun range asks t ht hbad => ?_⟩
  · have hexists : ∃ r ∈ records, r.message.HasSurrogate := ⟨r, hr, hbad⟩
    obtain ⟨before, r, after, rfl, hbefore, hr⟩ := exists_first hexists
    obtain ⟨wording, hending, -⟩ :=
      runPrinting_of_refused_record connected hargs hok hbefore hr
    exact hnone ⟨wording, hending⟩
  · have hexists : ∃ t ∈ (Narration.scanRange inv.topics inv.node range).traces,
        t.HasSurrogate := ⟨t, ht, hbad⟩
    obtain ⟨before, t, after, htraces, hbefore, ht⟩ := exists_first hexists
    obtain ⟨-, -, -, wording, -, -, -, hending, -⟩ :=
      runPrinting_of_refused_trace connected asks htraces hbefore ht
    exact hnone ⟨wording, hending⟩

/-- A command that has a node and returns had nothing to print that was refused. -/
theorem isPrintable_of_returned {code : Nat} (h : (runPrinting inv).ending = .ok code) :
    inv.IsPrintable := by
  by_contra hnot
  obtain ⟨wording, hending⟩ := runPrinting_of_unprintable connected hnot
  simp [h] at hending

end Refused

end CommandLine

end OrderNarration
