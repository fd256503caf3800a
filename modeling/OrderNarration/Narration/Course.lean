import OrderNarration.Narration.Scan

/-!
# The course of a scan

A scan tells its traces and its events apart. Its course keeps both in one order: a trace
stands right after the events that led to it. The node of a course may be another one
after every trace; every lookup is answered by the node of its moment, and the entries of
a block are those of the moment in which the block was asked for.
-/

namespace OrderNarration

/-- What happens in a scan: an event, or a trace that is complete. -/
inductive Moment where
  | event (e : Event)
  | trace (t : Trace)

namespace Moment

/-- The event of a moment that is one. -/
def event? : Moment → Option Event
  | event e => some e
  | trace _ => none

/-- The trace of a moment that is one. -/
def trace? : Moment → Option Trace
  | event _ => none
  | trace t => some t

end Moment

/-- The moments of a scan in their order, and the fault that ended it early. -/
structure Course where
  moments : List Moment
  stop : Option Fault

namespace Course

/-- The traces of a course. -/
def traces (c : Course) : List Trace := c.moments.filterMap Moment.trace?

/-- The events of a course. -/
def events (c : Course) : List Event := c.moments.filterMap Moment.event?

/-- The course of nothing. -/
def done : Course := ⟨[], none⟩

/-- Put a trace in front. -/
def withTrace (trace : Option Trace) (c : Course) : Course :=
  { c with moments := trace.toList.map .trace ++ c.moments }

/-- Go on after a run, which ends the course if it ends with a fault. -/
def after (r : Run α) (next : α → Course) : Course :=
  match r.outcome with
  | .ok a => ⟨r.events.map .event ++ (next a).moments, (next a).stop⟩
  | .error e => ⟨r.events.map .event, some e⟩

/-- Go on with another course, which is told the number of traces so far, unless the first one
was ended. -/
def append (c : Course) (next : Nat → Course) : Course :=
  match c.stop with
  | some _ => c
  | none => ⟨c.moments ++ (next c.traces.length).moments, (next c.traces.length).stop⟩

end Course

namespace Narration

section Changing

variable (topics : TopicTable) (nodes : Nat → Node)

/-- The course over the entries of a block from a position on. The node is the one after as many
traces as there were. -/
def courseEntries (block : Int) : Nat → Nat → List Value → Course
  | _, _, [] => .done
  | taken, position, v :: rest =>
    .after (visit topics (nodes taken) block position v) fun
      | none => courseEntries block taken (position + 1) rest
      | some t => (courseEntries block (taken + 1) (position + 1) rest).withTrace (some t)

/-- The course over a number of blocks from one on. A block is asked for when the course comes to
it, and its entries are kept. -/
def courseBlocks : Nat → Int → Nat → Course
  | _, _, 0 => .done
  | taken, number, count + 1 =>
    .after (blockEntries (nodes taken) number) fun entries =>
      (courseEntries topics nodes number taken 1 (entries.drop 1)).append fun n =>
        courseBlocks (taken + n) (number + 1) count

/-- The course over the range between two values. -/
def courseRange (first last : Value) : Course :=
  .after (Run.ofExcept (BlockRange.ofValues first last)) fun range =>
    courseBlocks topics nodes 0 range.first range.count

end Changing

/-- The course over a range on a node that does not change. -/
def courseOn (topics : TopicTable) (node : Node) (range : BlockRange) : Course :=
  courseBlocks topics (fun _ => node) 0 range.first range.count

end Narration

end OrderNarration
