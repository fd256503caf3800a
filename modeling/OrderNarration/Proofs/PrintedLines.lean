import OrderNarration.Printing
import OrderNarration.Proofs.ScanCourse
import OrderNarration.Proofs.StrictUtf8

/-!
# Printed lines

What is printed of a record is its indent and its message, and what is printed of a trace
is a title, its records and a rule. An output of UTF-8 takes a line exactly if there is no
lone surrogate in it, and of the words of a line only messages and hashes may have one. Up
to the first line that it refuses, it gets what an output gets that takes every text.
-/

namespace OrderNarration

namespace Record

/-- The indent of a record. -/
def indent (r : Record) : Text := if r.kind = .noLogs ∨ r.kind = .logHeader then ".." else "...."

theorem line_eq (r : Record) : r.line = r.indent ++ r.message := by
  rw [line, indent]
  split
  · rfl
  · rfl

/-- Only the message brings a lone surrogate into the line of a record. -/
theorem hasSurrogate_line_iff {r : Record} : r.line.HasSurrogate ↔ r.message.HasSurrogate := by
  have hindent : ¬ r.indent.HasSurrogate := by
    rw [indent]
    split
    · exact Text.not_hasSurrogate_ofString _
    · exact Text.not_hasSurrogate_ofString _
  rw [line_eq, Text.hasSurrogate_append, or_iff_right hindent]

end Record

/-- There is a lone surrogate in what a trace shows of the node's own texts: its hash, or the
message of a record. -/
def Trace.HasSurrogate (t : Trace) : Prop :=
  (∃ hash, t.hash = some hash ∧ hash.HasSurrogate) ∨ ∃ r ∈ t.records, r.message.HasSurrogate

namespace CommandLine

theorem recordLines_eq (records : List Record) :
    recordLines records = (records.flatMap fun r => r.indent ++ r.message ++ ("\n" : Text)) := by
  rw [recordLines]
  apply List.flatMap_congr
  intro r _
  rw [Record.line_eq]

/-- The section of a trace is a title line, a line for each record behind its indent, and a line of
38 dashes. -/
theorem traceSection_eq (t : Trace) :
    traceSection t = ("Analyzing block " : Text) ++ Text.ofInt t.block ++ " tx[" ++
      Text.ofNat t.position ++ "]: " ++ t.hash.getD "None" ++ "\n" ++
      (t.records.flatMap fun r => r.indent ++ r.message ++ ("\n" : Text)) ++
      List.replicate 38 (CodePoint.scalar '-') ++ "\n" := by
  rw [← recordLines_eq, recordLines, traceSection, traceLines, List.flatMap_cons,
    List.flatMap_append, List.flatMap_singleton, List.flatMap_map, traceTitle, rule]
  simp only [List.append_assoc]

theorem not_hasSurrogate_scanHeading (range : BlockRange) :
    ¬ (scanHeading range).HasSurrogate := by
  simp only [scanHeading, Text.hasSurrogate_append, not_or]
  exact ⟨⟨⟨Text.not_hasSurrogate_ofString _, Text.not_hasSurrogate_ofInt _⟩,
    Text.not_hasSurrogate_ofString _⟩, Text.not_hasSurrogate_ofInt _⟩

/-- There is a lone surrogate in a line of a trace exactly if there is one in its hash or in a
message. -/
theorem hasSurrogate_traceLines_iff {t : Trace} :
    (∃ line ∈ traceLines t, line.HasSurrogate) ↔ t.HasSurrogate := by
  have htitle : (traceTitle t).HasSurrogate ↔ ∃ hash, t.hash = some hash ∧ hash.HasSurrogate := by
    have hmissing : ¬ (Text.ofString "None").HasSurrogate := Text.not_hasSurrogate_ofString _
    simp only [traceTitle, Text.hasSurrogate_append, Text.not_hasSurrogate_ofString,
      Text.not_hasSurrogate_ofInt, Text.not_hasSurrogate_ofNat, false_or]
    cases t.hash with
    | none => simpa using hmissing
    | some hash => simp
  have hrule : ¬ rule.HasSurrogate := Text.not_hasSurrogate_ofChars (List.replicate 38 '-')
  simp [traceLines, Trace.HasSurrogate, htitle, hrule, Record.hasSurrogate_line_iff]

end CommandLine

/-- A list with an element of some kind has a first one. -/
theorem exists_first {α : Type} {p : α → Prop} {l : List α} (h : ∃ a ∈ l, p a) :
    ∃ before a after, l = before ++ a :: after ∧ (∀ b ∈ before, ¬ p b) ∧ p a := by
  classical
  obtain ⟨a, ha⟩ := Option.isSome_iff_exists.mp
    (List.find?_isSome.mpr (by simpa using h) : (l.find? fun a => decide (p a)).isSome)
  obtain ⟨hp, before, after, rfl, hbefore⟩ := List.find?_eq_some_iff_append.mp ha
  exact ⟨before, a, after, rfl, by simpa using hbefore, by simpa using hp⟩

namespace Printing

variable {t : Text} {lines others : List Text} {moments : List Moment}

theorem andThen_of_printed {p : Printing} (h : p.refusal = none) (next : Unit → Printing) :
    p.andThen next = ⟨p.output ++ (next ()).output, p.events ++ (next ()).events,
      (next ()).refusal⟩ := by
  rw [andThen, h]

theorem andThen_of_refused {p : Printing} {e : Fault} (h : p.refusal = some e)
    (next : Unit → Printing) : p.andThen next = p := by
  rw [andThen, h]

theorem line_of_no_surrogate (h : ¬ t.HasSurrogate) : line t = ⟨t ++ "\n", [], none⟩ := by
  obtain ⟨bytes, hbytes⟩ := Utf8.exists_encodeText_iff.mpr h
  rw [line, hbytes]

theorem line_of_surrogate (h : t.HasSurrogate) :
    ∃ wording, line t = ⟨[], [], some (.notEncodable wording)⟩ := by
  obtain ⟨wording, hwording⟩ := Utf8.exists_encodeText_error h
  exact ⟨wording, by rw [line, hwording]⟩

/-- Lines without lone surrogates are printed, and printing goes on behind them. -/
theorem lines_append (h : ∀ t ∈ lines, ¬ t.HasSurrogate) (others : List Text) :
    Printing.lines (lines ++ others) =
      ⟨(lines.flatMap fun t => t ++ ("\n" : Text)) ++ (Printing.lines others).output,
        (Printing.lines others).events, (Printing.lines others).refusal⟩ := by
  induction lines with
  | nil => rfl
  | cons t rest ih =>
      obtain ⟨ht, hrest⟩ := List.forall_mem_cons.mp h
      rw [List.cons_append, Printing.lines, line_of_no_surrogate ht, andThen_of_printed rfl,
        ih hrest, List.flatMap_cons]
      simp only [List.append_assoc, List.nil_append]

theorem lines_of_no_surrogate (h : ∀ t ∈ lines, ¬ t.HasSurrogate) :
    Printing.lines lines = ⟨lines.flatMap fun t => t ++ ("\n" : Text), [], none⟩ := by
  have happend := lines_append h []
  rw [List.append_nil] at happend
  rw [happend, Printing.lines, List.append_nil]

/-- The first line with a lone surrogate is refused, and the lines before it are printed. -/
theorem lines_of_first_surrogate (h : ∀ t ∈ lines, ¬ t.HasSurrogate) (ht : t.HasSurrogate)
    (others : List Text) : ∃ wording, Printing.lines (lines ++ t :: others) =
      ⟨lines.flatMap fun t => t ++ ("\n" : Text), [], some (.notEncodable wording)⟩ := by
  obtain ⟨wording, hline⟩ := line_of_surrogate ht
  refine ⟨wording, ?_⟩
  rw [lines_append h, Printing.lines, hline, andThen_of_refused rfl, List.append_nil]

/-- Traces without lone surrogates are printed, and printing goes on behind them. -/
theorem moments_append (h : ∀ t ∈ moments.filterMap Moment.trace?, ¬ t.HasSurrogate)
    (others : List Moment) :
    Printing.moments (moments ++ others) =
      ⟨(moments.filterMap Moment.trace?).flatMap CommandLine.traceSection ++
          (Printing.moments others).output,
        moments.filterMap Moment.event? ++ (Printing.moments others).events,
        (Printing.moments others).refusal⟩ := by
  induction moments with
  | nil => rfl
  | cons m rest ih =>
      cases m with
      | event e =>
          rw [List.cons_append, Printing.moments, andThen_of_printed rfl, ih h]
          rfl
      | trace t =>
          obtain ⟨ht, hrest⟩ := List.forall_mem_cons.mp h
          have hlines : ∀ line ∈ CommandLine.traceLines t, ¬ line.HasSurrogate := by
            intro line hline hbad
            exact ht (CommandLine.hasSurrogate_traceLines_iff.mp ⟨line, hline, hbad⟩)
          rw [List.cons_append, Printing.moments, lines_of_no_surrogate hlines,
            andThen_of_printed rfl, ih hrest, ← List.append_assoc]
          rfl

theorem moments_of_no_surrogate (h : ∀ t ∈ moments.filterMap Moment.trace?, ¬ t.HasSurrogate) :
    Printing.moments moments =
      ⟨(moments.filterMap Moment.trace?).flatMap CommandLine.traceSection,
        moments.filterMap Moment.event?, none⟩ := by
  have happend := moments_append h []
  rw [List.append_nil] at happend
  rw [happend, Printing.moments, List.append_nil, List.append_nil]

/-- Moments with a trace are those before it, which have the traces before it, and then others. -/
theorem exists_split_of_traces {before after : List Trace} {t : Trace}
    (h : moments.filterMap Moment.trace? = before ++ t :: after) :
    ∃ earlier later, moments = earlier ++ .trace t :: later ∧
      earlier.filterMap Moment.trace? = before := by
  obtain ⟨whole, rest, rfl, rfl, hrest⟩ := List.filterMap_eq_append_iff.mp h
  obtain ⟨silent, m, later, rfl, hsilent, hm, -⟩ := List.filterMap_eq_cons_iff.mp hrest
  obtain rfl : m = .trace t := by
    cases m with
    | event e => simp [Moment.trace?] at hm
    | trace t' => exact congrArg _ (Option.some.inj hm)
  refine ⟨whole ++ silent, later, by rw [List.append_assoc], ?_⟩
  rw [List.filterMap_append, List.filterMap_eq_nil_iff.mpr hsilent, List.append_nil]

/-- The first trace with a lone surrogate is printed up to the first line with one. -/
theorem moments_of_first_surrogate {before after : List Trace} {t : Trace}
    (hsplit : moments.filterMap Moment.trace? = before ++ t :: after)
    (h : ∀ b ∈ before, ¬ b.HasSurrogate) (ht : t.HasSurrogate) :
    ∃ part line rest wording, CommandLine.traceLines t = part ++ line :: rest ∧
      (∀ s ∈ part, ¬ s.HasSurrogate) ∧ line.HasSurrogate ∧
      (Printing.moments moments).output = before.flatMap CommandLine.traceSection ++
        part.flatMap (fun s => s ++ ("\n" : Text)) ∧
      (Printing.moments moments).refusal = some (.notEncodable wording) := by
  obtain ⟨earlier, later, rfl, rfl⟩ := exists_split_of_traces hsplit
  obtain ⟨part, line, rest, hlines, hpart, hline⟩ :=
    exists_first (CommandLine.hasSurrogate_traceLines_iff.mpr ht)
  obtain ⟨wording, hprinted⟩ := lines_of_first_surrogate hpart hline rest
  refine ⟨part, line, rest, wording, hlines, hpart, hline, ?_⟩
  rw [moments_append h, Printing.moments, hlines, hprinted, andThen_of_refused rfl]
  exact ⟨rfl, rfl⟩

end Printing

end OrderNarration
