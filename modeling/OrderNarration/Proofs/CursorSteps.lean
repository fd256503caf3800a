import OrderNarration.Narration.Cursor
import OrderNarration.Proofs.ScanCourse

/-!
# Taking traces one by one

A cursor stands between two traces of a course, and a step goes along the course to the
end of its next trace and no further. So the traces and the events of the steps are those
of the course, and on a node that does not change they are those of the eager scan.

## Implementation notes

The node may be another one at every step. The course asks the same nodes in nested loops
over blocks and entries.
-/

namespace OrderNarration

namespace Cursor

open Narration

variable (topics : TopicTable) (nodes : Nat → Node)

/-- The course that is left to a cursor after a number of traces. -/
def course (taken : Nat) : Cursor → Course
  | start first last =>
    .after (Run.ofExcept (BlockRange.ofValues first last)) fun range =>
      courseBlocks topics nodes taken range.first range.count
  | inside block position entries blocksLeft =>
    (courseEntries topics nodes block taken position entries).append fun n =>
      courseBlocks topics nodes (taken + n) (block + 1) blocksLeft
  | finished => .done

/-- The course after a step. -/
def courseAfter (taken : Nat) : Option (Trace × Cursor) → Course
  | none => .done
  | some (t, cursor) => (cursor.course topics nodes (taken + 1)).withTrace (some t)

theorem course_start (first last : Value) :
    (start first last).course topics nodes 0 = courseRange topics nodes first last := rfl

/-- The course over entries goes first to the next trace among them. -/
theorem courseEntries_eq (block : Int) (taken position : Nat) (entries : List Value) :
    courseEntries topics nodes block taken position entries =
      .after (nextInBlock topics (nodes taken) block position entries) fun
        | none => .done
        | some (t, position, rest) =>
          (courseEntries topics nodes block (taken + 1) position rest).withTrace (some t) := by
  induction entries generalizing position with
  | nil => rfl
  | cons v rest ih =>
      rw [courseEntries, nextInBlock, Course.after_bind]
      congr 1
      funext trace
      cases trace with
      | none => exact ih (position + 1)
      | some t => rfl

/-- Entries and the blocks after them: the course goes first to the next trace among the entries,
and on to the blocks if there is none. -/
theorem courseEntries_append_eq (block : Int) (taken position : Nat) (entries : List Value)
    (blocksLeft : Nat) :
    (courseEntries topics nodes block taken position entries).append
        (fun n => courseBlocks topics nodes (taken + n) (block + 1) blocksLeft) =
      .after (nextInBlock topics (nodes taken) block position entries) fun
        | none => courseBlocks topics nodes taken (block + 1) blocksLeft
        | some (t, position, rest) =>
          ((inside block position rest blocksLeft).course topics nodes (taken + 1)).withTrace
            (some t) := by
  rw [courseEntries_eq, Course.after_append]
  congr 1
  funext step
  cases step with
  | none => rfl
  | some step =>
      obtain ⟨t, position, rest⟩ := step
      dsimp only
      rw [Course.withTrace_append, course]
      congr 2
      funext n
      rw [Nat.add_right_comm, Nat.add_assoc]

theorem courseBlocks_eq (taken : Nat) (number : Int) (count : Nat) :
    courseBlocks topics nodes taken number count =
      .after (nextFromBlock topics (nodes taken) number count)
        (courseAfter topics nodes taken) := by
  induction count generalizing number with
  | zero => rfl
  | succ count ih =>
      rw [courseBlocks, nextFromBlock, Course.after_bind]
      congr 1
      funext entries
      rw [courseEntries_append_eq, Course.after_bind]
      congr 1
      funext step
      cases step with
      | none => exact ih (number + 1)
      | some step => rfl

/-- A step goes along the course that is left to the cursor. -/
theorem course_eq_after_advance (taken : Nat) (cursor : Cursor) :
    cursor.course topics nodes taken =
      .after (advance topics (nodes taken) cursor) (courseAfter topics nodes taken) := by
  cases cursor with
  | start first last =>
      rw [advance, Course.after_bind, course]
      congr 1
      funext range
      exact courseBlocks_eq topics nodes taken range.first range.count
  | inside block position entries blocksLeft =>
      rw [advance, Course.after_bind, course, courseEntries_append_eq]
      congr 1
      funext step
      cases step with
      | none => exact courseBlocks_eq topics nodes taken (block + 1) blocksLeft
      | some step => rfl
  | finished => rfl

/-- What a step answers is what comes next in the course, and the rest of the course is left to
the cursor after it. -/
theorem course_eq_after_next (taken : Nat) (cursor : Cursor) :
    cursor.course topics nodes taken =
      .after (next topics (nodes taken) cursor).1 fun trace =>
        ((next topics (nodes taken) cursor).2.course topics nodes (taken + 1)).withTrace trace := by
  rw [course_eq_after_advance, next]
  cases houtcome : (advance topics (nodes taken) cursor).outcome with
  | error e => rw [Course.after_of_error houtcome, Course.after_of_error rfl]
  | ok step =>
      rw [Course.after_of_ok houtcome]
      cases step with
      | none => rfl
      | some step => rfl

/-- Take traces a number of times, each time on the node of that step. -/
def takes : Nat → Nat → Cursor → List (Run (Option Trace))
  | _, 0, _ => []
  | step, count + 1, cursor =>
    (next topics (nodes step) cursor).1 ::
      takes (step + 1) count (next topics (nodes step) cursor).2

theorem takes_zero (step : Nat) (cursor : Cursor) : takes topics nodes step 0 cursor = [] := rfl

theorem takes_succ (step : Nat) (cursor : Cursor) (count : Nat) :
    takes topics nodes step (count + 1) cursor =
      (next topics (nodes step) cursor).1 ::
        takes topics nodes (step + 1) count (next topics (nodes step) cursor).2 := rfl

/-- A cursor at its end answers that it is done, and asks nothing. -/
theorem takes_finished (step count : Nat) :
    takes topics nodes step count finished = List.replicate count ⟨.ok none, []⟩ := by
  induction count generalizing step with
  | zero => rfl
  | succ count ih =>
      rw [List.replicate_succ, ← ih (step + 1)]
      rfl

end Cursor

/-- The answers of a number of steps go along a course: as many traces as it has, with its events up
to the end of the last of them; then its end with the events that are left; then nothing more. -/
structure Course.IsTakenBy (c : Course) (answers : Nat → List (Run (Option Trace))) : Prop where
  traces : ∀ k ≤ c.traces.length,
    (answers k).map Run.outcome = (c.traces.take k).map fun t => .ok (some t)
  events : ∀ k ≤ c.traces.length, (answers k).flatMap Run.events = c.eventsUpTo k
  ending : ∃ events, c.events = c.eventsUpTo c.traces.length ++ events ∧
    answers (c.traces.length + 1) = answers c.traces.length ++ [⟨c.ending, events⟩]
  done : ∀ n, answers (c.traces.length + 1 + n) =
    answers (c.traces.length + 1) ++ List.replicate n ⟨.ok none, []⟩

namespace Course

theorem eventsBefore_isPrefix_events (k : Nat) (moments : List Moment) :
    eventsBefore k moments <+: moments.filterMap Moment.event? := by
  induction moments generalizing k with
  | nil =>
      cases k with
      | zero => exact List.nil_prefix
      | succ k => exact List.nil_prefix
  | cons m rest ih =>
      cases k with
      | zero =>
          rw [eventsBefore]
          exact List.nil_prefix
      | succ k =>
          cases m with
          | event e => exact List.prefix_cons_inj e |>.mpr (ih (k + 1))
          | trace t => exact ih k

/-- Steps leave no other events than those of their course. -/
theorem IsTakenBy.events_isPrefix {c : Course} {answers : Nat → List (Run (Option Trace))}
    (h : c.IsTakenBy answers) (n : Nat) : (answers n).flatMap Run.events <+: c.events := by
  rcases Nat.lt_or_ge c.traces.length n with hn | hn
  · obtain ⟨m, rfl⟩ := Nat.exists_eq_add_of_lt hn
    obtain ⟨events, hall, hanswers⟩ := h.ending
    have hsilent : (List.replicate m (⟨.ok none, []⟩ : Run (Option Trace))).flatMap Run.events =
        [] := by
      rw [List.flatMap_eq_nil_iff]
      intro r hr
      rw [List.eq_of_mem_replicate hr]
    have hevents : (answers (c.traces.length + m + 1)).flatMap Run.events = c.events := by
      rw [Nat.add_right_comm, h.done m, hanswers, List.flatMap_append, List.flatMap_append,
        h.events _ (Nat.le_refl _), hsilent, hall, List.append_nil, List.flatMap_singleton]
    exact hevents ▸ List.prefix_rfl
  · rw [h.events n hn]
    exact eventsBefore_isPrefix_events n c.moments

theorem eventsBefore_append_events (k : Nat) (events : List Event) (rest : List Moment) :
    eventsBefore (k + 1) (events.map .event ++ rest) = events ++ eventsBefore (k + 1) rest := by
  induction events with
  | nil => rfl
  | cons e others ih =>
      rw [List.map_cons, List.cons_append, eventsBefore, ih]
      rfl

theorem eventsUpTo_zero (c : Course) : c.eventsUpTo 0 = [] := by
  rw [eventsUpTo, eventsBefore]

variable {r : Run (Option Trace)} {rest : Course} {answers : Nat → List (Run (Option Trace))}

section Last

variable (h : ∀ t, r.outcome ≠ .ok (some t))
include h

/-- An answer that is no trace is the end of its course. -/
theorem isTakenBy_of_last (hzero : answers 0 = [])
    (hsucc : ∀ n, answers (n + 1) = r :: List.replicate n ⟨.ok none, []⟩) :
    (after r done.withTrace).IsTakenBy answers := by
  have hcourse : ∃ stop, after r done.withTrace = ⟨r.events.map .event, stop⟩ ∧
      r.outcome = Course.ending ⟨r.events.map .event, stop⟩ := by
    cases houtcome : r.outcome with
    | error e => exact ⟨some e, after_of_error houtcome _, rfl⟩
    | ok trace =>
        cases trace with
        | none => exact ⟨none, by simp [after_of_ok houtcome, done, withTrace], rfl⟩
        | some t => exact absurd houtcome (h t)
  obtain ⟨stop, hcourse, hending⟩ := hcourse
  rw [hcourse]
  have htraces : Course.traces ⟨r.events.map .event, stop⟩ = [] := filterMap_trace?_event r.events
  constructor
  case traces =>
    intro k hk
    rw [htraces, List.length_nil, Nat.le_zero] at hk
    rw [hk, hzero, htraces]
    rfl
  case events =>
    intro k hk
    rw [htraces, List.length_nil, Nat.le_zero] at hk
    rw [hk, hzero, eventsUpTo_zero]
    rfl
  case ending =>
    refine ⟨r.events, ?_, ?_⟩
    · rw [htraces, List.length_nil, eventsUpTo_zero]
      exact filterMap_event?_event r.events
    · rw [htraces, List.length_nil, hsucc, hzero, ← hending]
      rfl
  case done =>
    intro n
    rw [htraces, List.length_nil, Nat.add_right_comm, hsucc, hsucc, Nat.zero_add]
    rfl

end Last

section First

variable {t : Trace} (h : r.outcome = .ok (some t))
include h

theorem after_trace :
    after r rest.withTrace = ⟨r.events.map .event ++ .trace t :: rest.moments, rest.stop⟩ := by
  rw [after_of_ok h]
  rfl

theorem traces_after_trace : (after r rest.withTrace).traces = t :: rest.traces := by
  rw [after_trace h, traces, List.filterMap_append, filterMap_trace?_event]
  rfl

/-- An answer that is a trace is the first one of its course. -/
theorem isTakenBy_of_trace {others : Nat → List (Run (Option Trace))} (hzero : answers 0 = [])
    (hsucc : ∀ n, answers (n + 1) = r :: others n) (hrest : rest.IsTakenBy others) :
    (after r rest.withTrace).IsTakenBy answers := by
  have htraces : (after r rest.withTrace).traces = t :: rest.traces := traces_after_trace h
  have hevents : (after r rest.withTrace).events = r.events ++ rest.events := by
    rw [after_trace h, Course.events, List.filterMap_append, filterMap_event?_event]
    rfl
  have hupTo (k : Nat) :
      (after r rest.withTrace).eventsUpTo (k + 1) = r.events ++ rest.eventsUpTo k := by
    rw [after_trace h, eventsUpTo, eventsBefore_append_events]
    rfl
  have hending : (after r rest.withTrace).ending = rest.ending := by
    rw [after_trace h]
    rfl
  constructor
  case traces =>
    intro k hk
    cases k with
    | zero => simp [hzero]
    | succ k =>
        rw [htraces, List.length_cons, Nat.succ_le_succ_iff] at hk
        rw [hsucc, htraces, List.map_cons, h, hrest.traces k hk, List.take_succ_cons, List.map_cons]
  case events =>
    intro k hk
    cases k with
    | zero =>
        rw [hzero, eventsUpTo_zero]
        rfl
    | succ k =>
        rw [htraces, List.length_cons, Nat.succ_le_succ_iff] at hk
        rw [hsucc, hupTo, List.flatMap_cons, hrest.events k hk]
  case ending =>
    obtain ⟨events, hlast, hanswers⟩ := hrest.ending
    refine ⟨events, ?_, ?_⟩
    · rw [htraces, List.length_cons, hupTo, hevents, hlast, List.append_assoc]
    · rw [htraces, List.length_cons, hsucc, hsucc, hanswers, hending, List.cons_append]
  case done =>
    intro n
    rw [htraces, List.length_cons, hsucc, Nat.add_right_comm, hsucc, hrest.done n,
      List.cons_append]

end First

end Course

namespace Cursor

open Narration

variable (topics : TopicTable) (nodes : Nat → Node)

/-- After an answer that is no trace the cursor is at its end. -/
theorem next_finished {node : Node} {cursor : Cursor}
    (h : ∀ t, (next topics node cursor).1.outcome ≠ .ok (some t)) :
    (next topics node cursor).2 = finished := by
  rw [next] at h ⊢
  cases houtcome : (advance topics node cursor).outcome with
  | error e => rfl
  | ok step =>
      cases step with
      | none => rfl
      | some step =>
          rw [houtcome] at h
          exact absurd rfl (h step.1)

/-- The steps of a cursor go along the course that is left to it. -/
theorem takes_isTakenBy (step : Nat) (cursor : Cursor) :
    (cursor.course topics nodes step).IsTakenBy fun n => takes topics nodes step n cursor := by
  -- the induction is on the number of traces that are left
  induction hcount : (cursor.course topics nodes step).traces.length using Nat.strongRecOn
    generalizing step cursor with
  | ind count ih =>
      rw [course_eq_after_next] at hcount ⊢
      by_cases hlast : ∃ t, (next topics (nodes step) cursor).1.outcome = .ok (some t)
      · obtain ⟨t, htrace⟩ := hlast
        have hfewer : ((next topics (nodes step) cursor).2.course topics nodes
            (step + 1)).traces.length < count := by
          rw [← hcount, Course.traces_after_trace htrace, List.length_cons]
          exact Nat.lt_succ_self _
        apply Course.isTakenBy_of_trace htrace (takes_zero topics nodes step cursor)
          (takes_succ topics nodes step cursor)
        exact ih _ hfewer (step + 1) _ rfl
      · rw [not_exists] at hlast
        rw [next_finished topics hlast]
        apply Course.isTakenBy_of_last hlast (takes_zero topics nodes step cursor)
        intro n
        rw [takes_succ, next_finished topics hlast, takes_finished]

end Cursor

end OrderNarration
