import OrderNarration.Narration.Course
import OrderNarration.Proofs.ScanFindings

/-!
# Scans and their courses

A course is made of the same steps as a scan, so on a node that does not change it tells
of the scan: it has its traces, its events and its fault.
-/

namespace OrderNarration

namespace Course

/-- The events of moments up to the end of a trace, counted from one. -/
def eventsBefore : Nat → List Moment → List Event
  | 0, _ => []
  | _ + 1, [] => []
  | k + 1, .event e :: rest => e :: eventsBefore (k + 1) rest
  | k + 1, .trace _ :: rest => eventsBefore k rest

/-- The events of a course up to the end of its trace with a number, counted from one. -/
def eventsUpTo (k : Nat) (c : Course) : List Event := eventsBefore k c.moments

/-- How a course ends. -/
def ending (c : Course) : Except Fault (Option Trace) :=
  match c.stop with
  | none => .ok none
  | some e => .error e

/-- The course as a scan, which does not tell what stands between its traces. -/
def scan (c : Course) : Scan := ⟨c.traces, c.stop, c.events⟩

section Laws

variable {α β : Type} {c : Course}

theorem after_of_ok {r : Run α} {a : α} (h : r.outcome = .ok a) (next : α → Course) :
    after r next = ⟨r.events.map .event ++ (next a).moments, (next a).stop⟩ := by
  rw [after, h]

theorem after_of_error {r : Run α} {e : Fault} (h : r.outcome = .error e) (next : α → Course) :
    after r next = ⟨r.events.map .event, some e⟩ := by
  rw [after, h]

theorem after_bind (r : Run α) (f : α → Run β) (next : β → Course) :
    after (r >>= f) next = after r fun a => after (f a) next := by
  cases h : r.outcome with
  | error e =>
      rw [after_of_error h, after_of_error (by rw [Run.outcome_bind, h]; rfl), Run.events_bind, h,
        List.append_nil]
  | ok a =>
      have hbind : (r >>= f).outcome = (f a).outcome := by rw [Run.outcome_bind, h, Outcome.ok_bind]
      rw [after_of_ok h]
      cases hf : (f a).outcome with
      | error e =>
          rw [after_of_error (hbind.trans hf), after_of_error hf, Run.events_bind, h,
            List.map_append]
      | ok b =>
          rw [after_of_ok (hbind.trans hf), after_of_ok hf, Run.events_bind, h, List.map_append,
            List.append_assoc]

theorem filterMap_trace?_event (events : List Event) :
    (events.map Moment.event).filterMap Moment.trace? = [] := by
  apply List.filterMap_eq_nil_iff.mpr
  intro m hm
  obtain ⟨e, -, rfl⟩ := List.mem_map.mp hm
  rfl

theorem filterMap_event?_event (events : List Event) :
    (events.map Moment.event).filterMap Moment.event? = events := by
  rw [List.filterMap_map]
  exact List.filterMap_some

theorem events_after (r : Run α) (next : α → Course) :
    (after r next).events =
      r.events ++ (match r.outcome with
        | .ok a => (next a).events
        | .error _ => []) := by
  cases h : r.outcome with
  | ok a => rw [after_of_ok h, events, List.filterMap_append, filterMap_event?_event]; rfl
  | error e => rw [after_of_error h, events, filterMap_event?_event, List.append_nil]

@[simp] theorem traces_withTrace (trace : Option Trace) :
    (c.withTrace trace).traces = trace.toList ++ c.traces := by
  cases trace with
  | none => rfl
  | some t => rfl

@[simp] theorem events_withTrace (trace : Option Trace) :
    (c.withTrace trace).events = c.events := by
  cases trace with
  | none => rfl
  | some t => rfl

theorem append_of_stop_eq_none (h : c.stop = none) (next : Nat → Course) :
    c.append next = ⟨c.moments ++ (next c.traces.length).moments, (next c.traces.length).stop⟩ := by
  rw [append, h]

theorem append_of_stop_eq_some {e : Fault} (h : c.stop = some e) (next : Nat → Course) :
    c.append next = c := by
  rw [append, h]

theorem events_append (next : Nat → Course) :
    (c.append next).events =
      c.events ++ (match c.stop with
        | none => (next c.traces.length).events
        | some _ => []) := by
  cases h : c.stop with
  | none => rw [append_of_stop_eq_none h, events, List.filterMap_append]; rfl
  | some e => rw [append_of_stop_eq_some h, List.append_nil]

/-- The events of a run do not count as traces for what comes later. -/
theorem after_append (r : Run α) (first : α → Course) (next : Nat → Course) :
    (after r first).append next = after r fun a => (first a).append next := by
  cases h : r.outcome with
  | error e => rw [after_of_error h, after_of_error h, append]
  | ok a =>
      rw [after_of_ok h, after_of_ok h]
      cases hstop : (first a).stop with
      | some e =>
          rw [append_of_stop_eq_some hstop, hstop]
          rfl
      | none =>
          have htraces : Course.traces ⟨r.events.map .event ++ (first a).moments, none⟩ =
              (first a).traces := by
            rw [traces, List.filterMap_append, filterMap_trace?_event]
            rfl
          rw [append_of_stop_eq_none hstop, append_of_stop_eq_none rfl, htraces,
            List.append_assoc]

theorem withTrace_append (t : Trace) (next : Nat → Course) :
    (c.withTrace (some t)).append next = (c.append fun n => next (n + 1)).withTrace (some t) := by
  have hsame : (c.withTrace (some t)).stop = c.stop := rfl
  cases hstop : c.stop with
  | some e => rw [append_of_stop_eq_some hstop, append_of_stop_eq_some (hsame.trans hstop)]
  | none =>
      rw [append_of_stop_eq_none hstop, append_of_stop_eq_none (hsame.trans hstop)]
      rfl

end Laws

section Scan

variable {α : Type}

theorem scan_after (r : Run α) (next : α → Course) :
    (after r next).scan = .after r fun a => (next a).scan := by
  cases h : r.outcome with
  | error e =>
      rw [after_of_error h, Scan.after_of_error h, scan, traces, events, filterMap_trace?_event,
        filterMap_event?_event]
  | ok a =>
      rw [after_of_ok h, Scan.after_of_ok h, scan, traces, events, List.filterMap_append,
        List.filterMap_append, filterMap_trace?_event, filterMap_event?_event]
      rfl

theorem scan_withTrace (trace : Option Trace) (c : Course) :
    (c.withTrace trace).scan = c.scan.withTrace trace := by
  rw [scan, traces_withTrace, events_withTrace]
  rfl

theorem scan_append (c : Course) (next : Nat → Course) :
    (c.append next).scan = c.scan.append fun _ => (next c.traces.length).scan := by
  cases hstop : c.stop with
  | some e => rw [append_of_stop_eq_some hstop, Scan.append, scan, hstop]
  | none =>
      rw [append_of_stop_eq_none hstop, Scan.append_of_stop_eq_none hstop, scan, traces, events,
        List.filterMap_append, List.filterMap_append]
      rfl

end Scan

end Course

namespace Narration

variable (topics : TopicTable) (node : Node)

theorem scan_courseEntries (block : Int) (taken position : Nat) (entries : List Value) :
    (courseEntries topics (fun _ => node) block taken position entries).scan =
      scanEntries topics node block position entries := by
  induction entries generalizing taken position with
  | nil => rfl
  | cons v rest ih =>
      rw [courseEntries, scanEntries, Course.scan_after]
      congr 1
      funext trace
      cases trace with
      | none => exact ih taken (position + 1)
      | some t =>
          rw [← ih (taken + 1) (position + 1)]
          exact Course.scan_withTrace (some t) _

theorem scan_courseBlocks (taken : Nat) (number : Int) (count : Nat) :
    (courseBlocks topics (fun _ => node) taken number count).scan =
      scanBlocks topics node number count := by
  induction count generalizing taken number with
  | zero => rfl
  | succ count ih =>
      rw [courseBlocks, scanBlocks, Course.scan_after]
      congr 1
      funext entries
      rw [Course.scan_append, ih, scan_courseEntries]

theorem scan_courseOn (range : BlockRange) :
    (courseOn topics node range).scan = scanRange topics node range :=
  scan_courseBlocks topics node 0 range.first range.count

theorem traces_courseOn (range : BlockRange) :
    (courseOn topics node range).traces = (scanRange topics node range).traces :=
  congrArg Scan.traces (scan_courseOn topics node range)

/-- On a node that does not change, the course over a range has the traces, the fault and the
events of the eager scan. -/
theorem scan_courseRange (first last : Value) :
    (courseRange topics (fun _ => node) first last).scan =
      .after (Run.ofExcept (BlockRange.ofValues first last)) (scanRange topics node) := by
  rw [courseRange, Course.scan_after]
  congr 1
  funext range
  exact scan_courseBlocks topics node 0 range.first range.count

/-- On a node that does not change, the course over a range is the eager scan, which loses its
traces if a fault ends it. -/
theorem toRun_scan_courseRange (first last : Value) :
    (courseRange topics (fun _ => node) first last).scan.toRun =
      Narration.range topics node first last := by
  rw [scan_courseRange, Narration.range]
  cases BlockRange.ofValues first last with
  | error e => rfl
  | ok range => rfl

end Narration

end OrderNarration
