import OrderNarration.CommandLine
import OrderNarration.Proofs.ScanCourse

/-!
# Runs that are cut short

An interrupt is a fault that no step catches: the run that makes the lookup ends with it.
So a run on a node that is interrupted at one lookup is told apart in one way only from the
same run on a node that answers there. Either the lookup is never made and the two runs
are equal, or the first run ends right with this lookup and the second one begins with
everything that happened in the first. The same holds of the course of a scan, which stands
for its traces as well.
-/

namespace OrderNarration

namespace Node

/-- The node is interrupted when it is asked for the lookup. -/
def Interrupts (node : Node) (lookup : Lookup) : Prop :=
  ∃ failure, node lookup = .failed failure ∧ failure.kind = .interrupt

/-- The second node gives the answers of the first one to all lookups but one. -/
def AgreeBut (lookup : Lookup) (node node' : Node) : Prop :=
  ∀ other, other ≠ lookup → node' other = node other

end Node

theorem CommandLine.isInterrupt_iff {e : Fault} :
    isInterrupt e = true ↔ ∃ failure, e = .lookup failure ∧ failure.kind = .interrupt := by
  cases e with
  | lookup failure => simp [isInterrupt]
  | _ => simp [isInterrupt]

namespace Run

variable {α β : Type} {lookup : Lookup} {r r' : Run α}

theorem bind_of_ok {a : α} (h : r.outcome = .ok a) (f : α → Run β) :
    r >>= f = ⟨(f a).outcome, r.events ++ (f a).events⟩ := by
  change r.andThen f = _
  rw [andThen, h]

theorem bind_of_error {e : Fault} (h : r.outcome = .error e) (f : α → Run β) :
    r >>= f = ⟨.error e, r.events⟩ := by
  change r.andThen f = _
  rw [andThen, h]

theorem events_prefix_bind (r : Run α) (f : α → Run β) : r.events <+: (r >>= f).events := by
  rw [events_bind]
  exact List.prefix_append _ _

/-- The run ends with an interrupt, in the moment in which it makes the lookup for the first
time. -/
structure EndsAt (lookup : Lookup) (r : Run α) : Prop where
  interrupted : ∃ e, r.outcome = .error e ∧ CommandLine.isInterrupt e = true
  last : ∃ before, r.events = before ++ [.asked lookup] ∧ .asked lookup ∉ before

/-- Two runs that are the same and do not make the lookup, or the first one ends with it and the
second one begins with the events of the first. -/
inductive CutAt (lookup : Lookup) : Run α → Run α → Prop
  | same {r : Run α} (h : .asked lookup ∉ r.events) : CutAt lookup r r
  | cut {r r' : Run α} (h : r.EndsAt lookup) (begins : r.events <+: r'.events) :
      CutAt lookup r r'

theorem CutAt.endsAt (h : CutAt lookup r r') (asked : .asked lookup ∈ r.events) :
    r.EndsAt lookup := by
  cases h with
  | same h => exact absurd asked h
  | cut h _ => exact h

/-- What happened before without the lookup changes nothing. -/
theorem CutAt.prepend {events : List Event} (hnot : .asked lookup ∉ events)
    (h : CutAt lookup r r') :
    CutAt lookup ⟨r.outcome, events ++ r.events⟩ ⟨r'.outcome, events ++ r'.events⟩ := by
  cases h with
  | same h => exact .same (by simp [hnot, h])
  | cut h begins =>
      obtain ⟨hinterrupted, before, hevents, hfirst⟩ := h
      refine .cut ⟨hinterrupted, events ++ before, ?_, by simp [hnot, hfirst]⟩ ?_
      · rw [hevents, List.append_assoc]
      · exact (List.prefix_append_right_inj events).mpr begins

theorem CutAt.bind {f f' : α → Run β} (h : CutAt lookup r r')
    (hf : ∀ a, CutAt lookup (f a) (f' a)) : CutAt lookup (r >>= f) (r' >>= f') := by
  cases h with
  | cut h begins =>
      obtain ⟨⟨e, he, hinterrupt⟩, hlast⟩ := h
      rw [bind_of_error he]
      exact .cut ⟨⟨e, rfl, hinterrupt⟩, hlast⟩ (begins.trans (events_prefix_bind r' f'))
  | same hnot =>
      cases houtcome : r.outcome with
      | error e =>
          rw [bind_of_error houtcome, bind_of_error houtcome]
          exact .same hnot
      | ok a =>
          rw [bind_of_ok houtcome, bind_of_ok houtcome]
          exact (hf a).prepend hnot

theorem CutAt.map (f : α → β) (h : CutAt lookup r r') : CutAt lookup (f <$> r) (f <$> r') := by
  cases h with
  | same h => exact .same h
  | cut h begins =>
      obtain ⟨⟨e, he, hinterrupt⟩, hlast⟩ := h
      exact .cut ⟨⟨e, by rw [outcome_map, he]; rfl, hinterrupt⟩, hlast⟩ begins

/-- A step that goes on after faults does not go on after an interrupt. -/
theorem CutAt.attempt {f f' : Except Fault α → Run β} (h : CutAt lookup r r')
    (hf : ∀ x, CutAt lookup (f x) (f' x))
    (hpass : ∀ e, CommandLine.isInterrupt e = true → f (.error e) = .fail e) :
    CutAt lookup (r.attempt >>= f) (r'.attempt >>= f') := by
  cases h with
  | same h => exact CutAt.bind (.same h) hf
  | cut h begins =>
      obtain ⟨⟨e, he, hinterrupt⟩, hlast⟩ := h
      have hattempt : r.attempt >>= f = ⟨.error e, r.events⟩ := by
        rw [bind_of_ok (outcome_attempt r), he, hpass e hinterrupt, outcome_fail, events_fail,
          events_attempt, List.append_nil]
      rw [hattempt]
      exact .cut ⟨⟨e, rfl, hinterrupt⟩, hlast⟩ (begins.trans (events_prefix_bind r'.attempt f'))

theorem cutAt_pure (a : α) : CutAt lookup (pure a : Run α) (pure a) := .same (by simp)

theorem cutAt_fail (e : Fault) : CutAt lookup (fail e : Run α) (fail e) := .same (by simp)

theorem cutAt_ofExcept (x : Except Fault α) : CutAt lookup (ofExcept x) (ofExcept x) :=
  .same (by simp)

theorem cutAt_note (source : Source) (level : Logging.Level) (message : Text) :
    CutAt lookup (note source level message) (note source level message) := .same (by simp)

end Run

/-- Of two nodes that differ in one lookup, one of which is interrupted at it, this lookup cuts the
run of asking and no other one does. -/
theorem Node.ask_cutAt {node node' : Node} {lookup : Lookup} (interrupts : node.Interrupts lookup)
    (agree : AgreeBut lookup node node') (other : Lookup) :
    Run.CutAt lookup (node.ask other) (node'.ask other) := by
  by_cases hother : other = lookup
  · obtain rfl := hother
    obtain ⟨failure, hreply, hkind⟩ := interrupts
    have hask : node.ask other = ⟨.error (.lookup failure), [.asked other]⟩ := by
      have habsence : failure.kind ≠ other.absence := by
        rw [hkind]
        cases other <;> simp [Lookup.absence]
      simp only [ask, hreply, if_neg habsence]
    have hbegins : [Event.asked other] <+: (node'.ask other).events := by
      rw [ask]
      cases node' other with
      | absent => exact ⟨_, rfl⟩
      | found v => cases v <;> exact ⟨[], rfl⟩
      | failed failure =>
          dsimp only
          split
          · exact ⟨_, rfl⟩
          · exact ⟨[], rfl⟩
    rw [hask]
    exact .cut ⟨⟨_, rfl, CommandLine.isInterrupt_iff.mpr ⟨failure, rfl, hkind⟩⟩, [], rfl, by simp⟩
      hbegins
  · have hsame : node'.ask other = node.ask other := by rw [ask, ask, agree other hother]
    rw [hsame]
    refine .same fun hasked => ?_
    rcases node.ask_events other _ hasked with h | h
    · exact hother (Event.asked.inj h).symm
    · cases h

namespace Course

variable {α : Type} {lookup : Lookup} {c c' : Course}

/-- The course ends with an interrupt, in the moment in which it makes the lookup for the first
time. -/
structure EndsAt (lookup : Lookup) (c : Course) : Prop where
  interrupted : ∃ e, c.stop = some e ∧ CommandLine.isInterrupt e = true
  last : ∃ before, c.moments = before ++ [.event (.asked lookup)] ∧
    .event (.asked lookup) ∉ before

/-- Two courses that are the same and do not make the lookup, or the first one ends with it and the
second one begins with the moments of the first. -/
inductive CutAt (lookup : Lookup) : Course → Course → Prop
  | same {c : Course} (h : .event (.asked lookup) ∉ c.moments) : CutAt lookup c c
  | cut {c c' : Course} (h : c.EndsAt lookup) (begins : c.moments <+: c'.moments) :
      CutAt lookup c c'

theorem CutAt.endsAt (h : CutAt lookup c c') (asked : .event (.asked lookup) ∈ c.moments) :
    c.EndsAt lookup := by
  cases h with
  | same h => exact absurd asked h
  | cut h _ => exact h

theorem CutAt.begins (h : CutAt lookup c c') : c.moments <+: c'.moments := by
  cases h with
  | same _ => exact List.prefix_rfl
  | cut _ begins => exact begins

/-- A course that begins with all of another one that ends at a lookup goes on after it, and it has
the traces of the other one before. -/
theorem EndsAt.exists_split (h : c.EndsAt lookup) (begins : c.moments <+: c'.moments) :
    ∃ before rest, .event (.asked lookup) ∉ before ∧
      c'.moments = before ++ .event (.asked lookup) :: rest ∧
      c.traces = before.filterMap Moment.trace? := by
  obtain ⟨before, hmoments, hfirst⟩ := h.last
  obtain ⟨rest, hrest⟩ := begins
  refine ⟨before, rest, hfirst, ?_, ?_⟩
  · rw [← hrest, hmoments, List.append_assoc]
    rfl
  · rw [traces, hmoments, List.filterMap_append]
    exact List.append_nil _

theorem cutAt_done : CutAt lookup done done := .same (by simp [done])

/-- What happened before without the lookup changes nothing. -/
theorem CutAt.prepend {moments : List Moment} (hnot : .event (.asked lookup) ∉ moments)
    (h : CutAt lookup c c') :
    CutAt lookup ⟨moments ++ c.moments, c.stop⟩ ⟨moments ++ c'.moments, c'.stop⟩ := by
  cases h with
  | same h => exact .same (by simp [hnot, h])
  | cut h begins =>
      obtain ⟨hinterrupted, before, hmoments, hfirst⟩ := h
      refine .cut ⟨hinterrupted, moments ++ before, ?_, by simp [hnot, hfirst]⟩ ?_
      · rw [hmoments, List.append_assoc]
      · exact (List.prefix_append_right_inj moments).mpr begins

theorem CutAt.withTrace (trace : Option Trace) (h : CutAt lookup c c') :
    CutAt lookup (c.withTrace trace) (c'.withTrace trace) :=
  h.prepend (by simp)

theorem moments_prefix_after {r : Run α} (next : α → Course) :
    r.events.map .event <+: (after r next).moments := by
  cases h : r.outcome with
  | ok a => simp [after_of_ok h]
  | error e => simp [after_of_error h]

/-- A course is cut in its first run or after it. -/
theorem cutAt_after {r r' : Run α} {next next' : α → Course} (h : Run.CutAt lookup r r')
    (hnext : ∀ a, CutAt lookup (next a) (next' a)) :
    CutAt lookup (after r next) (after r' next') := by
  cases h with
  | cut h begins =>
      obtain ⟨⟨e, he, hinterrupt⟩, before, hevents, hfirst⟩ := h
      rw [after_of_error he]
      refine .cut ⟨⟨e, rfl, hinterrupt⟩, before.map .event, by simp [hevents], ?_⟩ ?_
      · simpa using hfirst
      · exact (begins.map _).trans (moments_prefix_after next')
  | same hnot =>
      cases houtcome : r.outcome with
      | error e =>
          rw [after_of_error houtcome, after_of_error houtcome]
          exact .same (by simpa using hnot)
      | ok a =>
          rw [after_of_ok houtcome, after_of_ok houtcome]
          exact (hnext a).prepend (by simpa using hnot)

/-- A course is cut in its first part or after it. -/
theorem CutAt.append {next next' : Nat → Course} (h : CutAt lookup c c')
    (hnext : ∀ n, CutAt lookup (next n) (next' n)) :
    CutAt lookup (c.append next) (c'.append next') := by
  cases h with
  | cut h begins =>
      obtain ⟨e, he, -⟩ := h.interrupted
      rw [append_of_stop_eq_some he]
      refine .cut h (begins.trans ?_)
      cases hstop : c'.stop with
      | none => simp [append_of_stop_eq_none hstop]
      | some e => simp [append_of_stop_eq_some hstop]
  | same hnot =>
      cases hstop : c.stop with
      | some e =>
          rw [append_of_stop_eq_some hstop, append_of_stop_eq_some hstop]
          exact .same hnot
      | none =>
          rw [append_of_stop_eq_none hstop, append_of_stop_eq_none hstop]
          exact (hnext c.traces.length).prepend hnot

end Course

end OrderNarration
