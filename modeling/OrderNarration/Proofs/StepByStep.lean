import OrderNarration.Proofs.CursorSteps
import OrderNarration.Proofs.ScanSurvival
import OrderNarration.Proofs.ShownValues

/-!
# Scanning step by step on a changing node

Between two steps of a scan the node may change. What was taken before the change stays
as it is, and every lookup after it is answered by the node as it is then. Only the
entries of the block in which the scan stands are kept: they are those that the block had
when it was asked for, and no block is asked for twice.
-/

namespace OrderNarration

namespace Cursor

open Narration

variable (topics : TopicTable) (nodes : Nat → Node)

/-- The answers up to a step do not depend on what the node is after it. -/
theorem take_takes_congr {nodes nodes' : Nat → Node} {k step : Nat}
    (h : ∀ i < k, nodes (step + i) = nodes' (step + i)) (n : Nat) (cursor : Cursor) :
    (takes topics nodes step n cursor).take k = (takes topics nodes' step n cursor).take k := by
  induction n generalizing k step cursor with
  | zero => rw [takes_zero, takes_zero]
  | succ n ih =>
      cases k with
      | zero => rw [List.take_zero, List.take_zero]
      | succ k =>
          have hnode : nodes step = nodes' step := h 0 (Nat.succ_pos k)
          have hrest : ∀ i < k, nodes (step + 1 + i) = nodes' (step + 1 + i) := by
            intro i hi
            rw [Nat.add_right_comm]
            exact h (i + 1) (Nat.succ_lt_succ hi)
          rw [takes_succ, takes_succ, List.take_succ_cons, List.take_succ_cons, hnode, ih hrest]

section Origin

/-- A cursor inside a block keeps its place in the entries of the block. -/
def Keeps (block : Int) (entries : List Value) : Cursor → Prop
  | inside number position left _ => number = block ∧ left = entries.drop position
  | _ => True

variable {topics} {node : Node} {cursor : Cursor} {block : Int} {position : Nat} {t : Trace}

theorem isAt_of_visit {value : Value}
    (h : (visit topics node block position value).outcome = .ok (some t)) :
    t.block = block ∧ t.position = position ∧
      Finding.IsAt topics node (.entry block position value) (.trace t) := by
  obtain ⟨f, hat, htrace, -⟩ := visit_of_ok topics block position h
  rw [Finding.trace?_eq_some_iff] at htrace
  subst htrace
  cases hat with
  | trace hstated hfetched hnarrated => exact ⟨rfl, rfl, .trace hstated hfetched hnarrated⟩

/-- The next trace in a block is that of one of the entries that are left. -/
theorem nextInBlock_origin {kept rest : List Value} {after : Nat}
    (h : (nextInBlock topics node block position (kept.drop position)).outcome =
      .ok (some (t, after, rest))) :
    ∃ value, kept[t.position]? = some value ∧ t.block = block ∧
      Finding.IsAt topics node (.entry t.block t.position value) (.trace t) ∧
      after = t.position + 1 ∧ rest = kept.drop (t.position + 1) := by
  induction hleft : kept.drop position generalizing position with
  | nil => simp [hleft, nextInBlock] at h
  | cons v others ih =>
      have hothers : kept.drop (position + 1) = others := by
        rw [← List.drop_drop, hleft]
        rfl
      rw [hleft, nextInBlock, Run.outcome_bind] at h
      obtain ⟨trace, hvisit, h⟩ := Outcome.bind_eq_ok_iff.mp h
      cases trace with
      | none => exact ih (by rw [hothers]; exact h) hothers
      | some found =>
          simp only [Run.outcome_pure, Except.ok.injEq, Option.some.injEq, Prod.mk.injEq] at h
          obtain ⟨rfl, rfl, rfl⟩ := h
          obtain ⟨hblock, hposition, hat⟩ := isAt_of_visit hvisit
          have hvalue : kept[position]? = some v := by
            rw [← Nat.add_zero position, ← List.getElem?_drop, hleft]
            rfl
          rw [hblock, hposition]
          exact ⟨v, hvalue, rfl, hat, rfl, hothers.symm⟩

/-- The next trace from a block on is that of an entry of a block that is asked for on the way, and
the entries after it are kept. -/
theorem nextFromBlock_origin {number : Int} {count : Nat}
    (h : (nextFromBlock topics node number count).outcome = .ok (some (t, cursor))) :
    ∃ value, (node.entriesOf t.block)[t.position]? = some value ∧
      Finding.IsAt topics node (.entry t.block t.position value) (.trace t) ∧
      cursor.Keeps t.block (node.entriesOf t.block) ∧
      t.block ∈ blocksAsked (nextFromBlock topics node number count).events := by
  induction count generalizing number with
  | zero => simp [nextFromBlock] at h
  | succ count ih =>
      rw [nextFromBlock, Run.outcome_bind] at h
      obtain ⟨entries, hentries, h⟩ := Outcome.bind_eq_ok_iff.mp h
      rw [Run.outcome_bind] at h
      obtain ⟨step, hstep, h⟩ := Outcome.bind_eq_ok_iff.mp h
      rw [nextFromBlock, Run.events_bind_of_ok hentries, Run.events_bind_of_ok hstep,
        blocksAsked_append, blockEntries_blocksAsked, blocksAsked_append]
      cases step with
      | none =>
          obtain ⟨value, hvalue, hat, hkeeps, hasked⟩ := ih h
          exact ⟨value, hvalue, hat, hkeeps,
            List.mem_append_right _ (List.mem_append_right _ hasked)⟩
      | some step =>
          obtain ⟨found, position, rest⟩ := step
          simp only [Run.outcome_pure, Except.ok.injEq, Option.some.injEq, Prod.mk.injEq] at h
          obtain ⟨rfl, rfl⟩ := h
          obtain ⟨value, hvalue, hblock, hat, rfl, rfl⟩ := nextInBlock_origin hstep
          obtain ⟨rfl, -⟩ := blockEntries_of_ok hentries
          rw [← hblock] at hvalue ⊢
          exact ⟨value, hvalue, hat, ⟨rfl, rfl⟩, List.mem_append_left _ List.mem_cons_self⟩

/-- The next trace is that of an entry of the block in which the cursor is, or of a block that is
asked for in this step. The entries of its block are kept. -/
theorem advance_origin {entries : List Value} {after : Cursor} (hkeeps : cursor.Keeps block entries)
    (h : (advance topics node cursor).outcome = .ok (some (t, after))) :
    ∃ kept value, kept[t.position]? = some value ∧
      Finding.IsAt topics node (.entry t.block t.position value) (.trace t) ∧
      after.Keeps t.block kept ∧
      (t.block = block ∧ kept = entries ∨
        t.block ∈ blocksAsked (advance topics node cursor).events ∧
          kept = node.entriesOf t.block) := by
  cases cursor with
  | start first last =>
      rw [advance, Run.outcome_bind] at h
      obtain ⟨range, hrange, h⟩ := Outcome.bind_eq_ok_iff.mp h
      obtain ⟨value, hvalue, hat, hafter, hasked⟩ := nextFromBlock_origin h
      rw [advance, Run.events_bind_of_ok hrange]
      exact ⟨_, value, hvalue, hat, hafter, .inr ⟨hasked, rfl⟩⟩
  | inside number position left blocksLeft =>
      obtain ⟨rfl, rfl⟩ := hkeeps
      rw [advance, Run.outcome_bind] at h
      obtain ⟨step, hstep, h⟩ := Outcome.bind_eq_ok_iff.mp h
      cases step with
      | none =>
          obtain ⟨value, hvalue, hat, hafter, hasked⟩ := nextFromBlock_origin h
          rw [advance, Run.events_bind_of_ok hstep, blocksAsked_append]
          exact ⟨_, value, hvalue, hat, hafter, .inr ⟨List.mem_append_right _ hasked, rfl⟩⟩
      | some step =>
          obtain ⟨found, position, rest⟩ := step
          simp only [Run.outcome_pure, Except.ok.injEq, Option.some.injEq, Prod.mk.injEq] at h
          obtain ⟨rfl, rfl⟩ := h
          obtain ⟨value, hvalue, hblock, hat, rfl, rfl⟩ := nextInBlock_origin hstep
          exact ⟨entries, value, hvalue, hat, ⟨hblock.symm, rfl⟩, .inl ⟨hblock, rfl⟩⟩
  | finished => simp [advance] at h

theorem advance_of_next (h : (next topics node cursor).1.outcome = .ok (some t)) :
    (advance topics node cursor).outcome = .ok (some (t, (next topics node cursor).2)) ∧
      (next topics node cursor).1.events = (advance topics node cursor).events := by
  rw [next] at h ⊢
  cases houtcome : (advance topics node cursor).outcome with
  | error e => simp [houtcome] at h
  | ok step =>
      cases step with
      | none => simp [houtcome] at h
      | some step =>
          simp only [houtcome, Except.ok.injEq, Option.some.injEq] at h
          obtain rfl := h
          exact ⟨rfl, rfl⟩

/-- Every trace that is taken is that of an entry of the block in which the cursor was at first, or
of a block that was asked for in this step or before it. The entries are those that the block had
on the node of that step, and the trace is the one that the node of its own step gives. -/
theorem takes_origin {entries : List Value} {step n k : Nat} (hkeeps : cursor.Keeps block entries)
    {r : Run (Option Trace)} (hr : (takes topics nodes step n cursor)[k]? = some r)
    (ht : r.outcome = .ok (some t)) :
    ∃ kept value, kept[t.position]? = some value ∧
      Finding.IsAt topics (nodes (step + k)) (.entry t.block t.position value) (.trace t) ∧
      (t.block = block ∧ kept = entries ∨
        ∃ j ≤ k, ∃ asking, (takes topics nodes step n cursor)[j]? = some asking ∧
          t.block ∈ blocksAsked asking.events ∧ kept = (nodes (step + j)).entriesOf t.block) := by
  induction k generalizing step n cursor block entries with
  | zero =>
      cases n with
      | zero => simp [takes_zero] at hr
      | succ n =>
          rw [takes_succ] at hr ⊢
          obtain rfl := Option.some.inj hr
          obtain ⟨hadvance, hevents⟩ := advance_of_next ht
          obtain ⟨kept, value, hvalue, hat, -, horigin⟩ := advance_origin hkeeps hadvance
          refine ⟨kept, value, hvalue, hat, horigin.imp_right ?_⟩
          rintro ⟨hasked, hkept⟩
          exact ⟨0, le_rfl, _, rfl, hevents ▸ hasked, hkept⟩
  | succ k ih =>
      cases n with
      | zero => simp [takes_zero] at hr
      | succ n =>
          rw [takes_succ, List.getElem?_cons_succ] at hr
          by_cases hfirst : ∃ u, (next topics (nodes step) cursor).1.outcome = .ok (some u)
          · obtain ⟨u, hu⟩ := hfirst
            obtain ⟨hadvance, hevents⟩ := advance_of_next hu
            obtain ⟨kept, _, -, -, hafter, horigin⟩ := advance_origin hkeeps hadvance
            obtain ⟨kept', value, hvalue, hat, horigin'⟩ := ih hafter hr
            rw [Nat.add_right_comm, Nat.add_assoc] at hat
            refine ⟨kept', value, hvalue, hat, ?_⟩
            rcases horigin' with ⟨hblock, rfl⟩ | ⟨j, hj, asking, hasking, hasked, hkept⟩
            · -- the block was asked for in the first step, or the cursor was in it before
              rcases horigin with ⟨hbefore, hkept⟩ | ⟨hasked, hkept⟩
              · exact .inl ⟨hblock.trans hbefore, hkept⟩
              · refine .inr ⟨0, Nat.zero_le _, _, rfl, ?_, ?_⟩
                · rw [hblock, hevents]
                  exact hasked
                · rw [hblock]
                  exact hkept
            · rw [Nat.add_right_comm, Nat.add_assoc] at hkept
              exact .inr ⟨j + 1, Nat.succ_le_succ hj, asking, hasking, hasked, hkept⟩
          · rw [next_finished topics (not_exists.mp hfirst), takes_finished] at hr
            obtain rfl := List.eq_of_mem_replicate (List.mem_of_getElem? hr)
            simp at ht

end Origin

end Cursor

namespace Narration

section Asked

variable (topics : TopicTable) (nodes : Nat → Node)

/-- Blocks are asked for in ascending order, and each of them once at most. -/
theorem courseBlocks_blocksAsked (taken : Nat) (number : Int) (count : Nat) :
    blocksAsked (courseBlocks topics nodes taken number count).events <+:
      blocksFrom number count := by
  induction count generalizing taken number with
  | zero => exact List.nil_prefix
  | succ count ih =>
      rw [courseBlocks, Course.events_after, blocksAsked_append, blockEntries_blocksAsked,
        blocksFrom, List.singleton_append, List.prefix_cons_inj]
      cases (blockEntries (nodes taken) number).outcome with
      | error e => exact List.nil_prefix
      | ok entries =>
          dsimp only
          rw [Course.events_append, blocksAsked_append, courseEntries_blocksAsked,
            List.nil_append]
          split
          · exact ih _ (number + 1)
          · exact List.nil_prefix

theorem courseRange_blocksAsked (first last : Value) :
    (blocksAsked (courseRange topics nodes first last).events).Pairwise (· < ·) := by
  rw [courseRange, Course.events_after, Run.events_ofExcept, List.nil_append, Run.outcome_ofExcept]
  cases BlockRange.ofValues first last with
  | error e => exact List.Pairwise.nil
  | ok range =>
      have hinitial := courseBlocks_blocksAsked topics nodes 0 range.first range.count
      exact (blocksFrom_ascending range.first range.count).sublist hinitial.sublist

end Asked

end Narration

/-- Bounds of a range: whole numbers above zero in ascending order. -/
def BlockRange.AreBounds (first last : Value) : Prop :=
  ∃ a b, number? first = some a ∧ number? last = some b ∧ 0 < a ∧ a ≤ b

/-- Values that are no bounds are refused with a fault that shows them. -/
theorem BlockRange.ofValues_eq_showing {first last : Value} (h : ¬ AreBounds first last) :
    ofValues first last = .error (.showing [first, last] (.invalidRange first last)) := by
  have displays {v : Value} {n : Int} (hv : number? v = some n) : v.display?.isSome := by
    cases v with
    | bool b => rfl
    | int n => rfl
    | _ => simp [number?] at hv
  rw [ofValues]
  split
  next a b ha hb =>
    have hnone : ofNumbers? a b = none := by
      rw [ofNumbers?, dif_neg]
      rintro ⟨hpos, hle⟩
      exact h ⟨a, b, ha, hb, hpos, hle⟩
    simp [hnone, Fault.showing, displays ha, displays hb]
  · rfl

namespace Cursor

/-- The answers of the first steps of a scan between two values, each step on its own node. -/
def answers (topics : TopicTable) (nodes : Nat → Node) (first last : Value) (n : Nat) :
    List (Run (Option Trace)) :=
  takes topics nodes 0 n (start first last)

/-- Scanning step by step agrees with scanning at once. -/
structure AgreesWithScan (topics : TopicTable) (first last : Value) : Prop where
  /-- On a node that does not change, the course is the eager scan. -/
  eager : ∀ node,
    (Narration.courseRange topics (fun _ => node) first last).scan.toRun =
      Narration.range topics node first last ∧
    ∀ range, BlockRange.ofValues first last = .ok range →
      (Narration.courseRange topics (fun _ => node) first last).scan =
        Narration.scanRange topics node range
  /-- The steps go along the course, each on the node of its moment. -/
  steps : ∀ nodes, (Narration.courseRange topics nodes first last).IsTakenBy
    (answers topics nodes first last)
  /-- Without bounds of a range the first step is refused, and nothing is asked for. The fault names
  the bounds if they have texts, and it is the lack of a text if one of them has none. -/
  invalid : ¬ BlockRange.AreBounds first last → ∀ nodes,
    ∃ r, answers topics nodes first last 1 = [r] ∧
      r.Refuses [first, last] (.invalidRange first last)
  /-- After an end nothing more comes and nothing is asked for, whatever the node is then. -/
  ended : ∀ node node' cursor, (∀ t, (next topics node cursor).1.outcome ≠ .ok (some t)) →
    next topics node' (next topics node cursor).2 = (⟨.ok none, []⟩, finished)
  /-- What the node is later makes no difference to earlier answers. -/
  settled : ∀ nodes nodes' k n, (∀ i < k, nodes i = nodes' i) →
    (answers topics nodes first last n).take k = (answers topics nodes' first last n).take k
  /-- A trace is of an entry that its block had in the step that asked for the block, and it is what
  the node of its own step gives for this entry. -/
  origin : ∀ nodes n k r t, (answers topics nodes first last n)[k]? = some r →
    r.outcome = .ok (some t) →
    ∃ j ≤ k, ∃ asking value, (answers topics nodes first last n)[j]? = some asking ∧
      t.block ∈ blocksAsked asking.events ∧
      ((nodes j).entriesOf t.block)[t.position]? = some value ∧
      Finding.IsAt topics (nodes k) (.entry t.block t.position value) (.trace t)
  /-- No block is asked for twice. -/
  once : ∀ nodes n,
    (blocksAsked ((answers topics nodes first last n).flatMap Run.events)).Pairwise (· < ·)

/-- A scan that is taken step by step is the eager scan, as far as it was taken. -/
theorem scan_step_by_step (topics : TopicTable) (first last : Value) :
    AgreesWithScan topics first last := by
  have hsteps : ∀ nodes, (Narration.courseRange topics nodes first last).IsTakenBy
      (answers topics nodes first last) := by
    intro nodes
    rw [← course_start]
    exact takes_isTakenBy topics nodes 0 (start first last)
  constructor
  case eager =>
    intro node
    refine ⟨Narration.toRun_scan_courseRange topics node first last, ?_⟩
    intro range hrange
    rw [Narration.scan_courseRange, hrange]
    rfl
  case steps => exact hsteps
  case invalid =>
    intro hbounds nodes
    refine ⟨_, takes_succ .., Run.refuses_of_showing ?_⟩
    rw [next, advance, BlockRange.ofValues_eq_showing hbounds]
    rfl
  case ended =>
    intro node node' cursor h
    rw [next_finished topics h]
    rfl
  case settled =>
    intro nodes nodes' k n h
    apply take_takes_congr
    intro i hi
    rw [Nat.zero_add]
    exact h i hi
  case origin =>
    intro nodes n k r t hr ht
    -- a scan that was not begun keeps no entries
    have hkeeps : (start first last).Keeps 0 [] := trivial
    obtain ⟨kept, value, hvalue, hat, horigin⟩ := takes_origin nodes hkeeps hr ht
    rw [Nat.zero_add] at hat
    rcases horigin with ⟨-, rfl⟩ | ⟨j, hj, asking, hasking, hasked, rfl⟩
    · simp at hvalue
    · rw [Nat.zero_add] at hvalue
      exact ⟨j, hj, asking, value, hasking, hasked, hvalue, hat⟩
  case once =>
    intro nodes n
    have hinitial := (hsteps nodes).events_isPrefix n
    exact (Narration.courseRange_blocksAsked topics nodes first last).sublist
      (hinitial.sublist.filterMap Event.block?)

end Cursor

/-- A node that lists two transactions in block 1 after the first one and has the receipt of one. -/
def earlierNode : Node
  | .block 1 => .found (.mapping [("transactions", .list [.bytes [0], .bytes [1], .bytes [2]])])
  | .receipt (some hash) =>
    if hash = "0x01" then .found (.mapping [("logs", .list [])]) else .absent
  | _ => .absent

/-- A node that lists one transaction in block 2 after the first one and has all receipts. -/
def laterNode : Node
  | .block 2 => .found (.mapping [("transactions", .list [.bytes [0], .bytes [3]])])
  | .receipt _ => .found (.mapping [("logs", .list [])])
  | _ => .absent

/-- The earlier node at the first step and the later one after it. -/
def changingNode (step : Nat) : Node := if step = 0 then earlierNode else laterNode

/-- The node changes after the first trace of block 1. The second trace is of an entry that only the
earlier node lists, with the receipt that only the later node has; the third one is of a block that
only the later node has. -/
theorem scan_step_by_step_on_changing_node :
    ((Cursor.answers [] changingNode (.int 1) (.int 2) 4).map fun r =>
      r.outcome.toOption.map (Option.map Trace.place)) =
        [some (some ⟨1, 1⟩), some (some ⟨1, 2⟩), some (some ⟨2, 1⟩), some none] ∧
      ∃ t value, t.place = ⟨1, 2⟩ ∧ (earlierNode.entriesOf 1)[2]? = some value ∧
        Finding.IsAt [] laterNode (.entry 1 2 value) (.trace t) := by
  have hplaces :
      ((Cursor.answers [] changingNode (.int 1) (.int 2) 4).map fun r =>
        r.outcome.toOption.map (Option.map Trace.place)) =
          [some (some ⟨1, 1⟩), some (some ⟨1, 2⟩), some (some ⟨2, 1⟩), some none] := by
    decide +kernel
  refine ⟨hplaces, ?_⟩
  have hsecond := congrArg (fun places => places[1]?) hplaces
  simp only [List.getElem?_map] at hsecond
  cases hr : (Cursor.answers [] changingNode (.int 1) (.int 2) 4)[1]? with
  | none => simp [hr] at hsecond
  | some r =>
      rw [hr] at hsecond
      obtain ⟨t, houtcome, hplace⟩ : ∃ t, r.outcome = .ok (some t) ∧ t.place = ⟨1, 2⟩ := by
        cases houtcome : r.outcome with
        | error e => simp [houtcome, Except.toOption] at hsecond
        | ok trace =>
            cases trace with
            | none => simp [houtcome, Except.toOption] at hsecond
            | some t => exact ⟨t, rfl, by simpa [houtcome, Except.toOption] using hsecond⟩
      obtain ⟨j, hj, -, value, -, -, hvalue, hat⟩ :=
        (Cursor.scan_step_by_step [] (.int 1) (.int 2)).origin changingNode 4 1 r t hr houtcome
      obtain ⟨block, position, hash, records⟩ := t
      obtain ⟨rfl, rfl⟩ := Place.mk.inj hplace
      refine ⟨_, value, hplace, ?_, hat⟩
      -- the later node lists nothing in block 1
      have hlater : ((changingNode 1).entriesOf 1)[2]? = none := rfl
      cases j with
      | zero => exact hvalue
      | succ j =>
          obtain rfl : j = 0 := by omega
          rw [hlater] at hvalue
          cases hvalue

/-- A value without a text is no bound, and the first step of a scan between it and 1 is refused
before anything is asked for, but not with the fault of an invalid range. -/
theorem first_step_refused_unnamed :
    let v := Value.unprintable "R"
    ¬ BlockRange.AreBounds v (.int 1) ∧
      Cursor.answers [] changingNode v (.int 1) 1 = [⟨.error .unprintable, []⟩] ∧
      ∀ first last, Cursor.answers [] changingNode v (.int 1) 1 ≠
        [⟨.error (.invalidRange first last), []⟩] := by
  intro v
  have hanswers : Cursor.answers [] changingNode v (.int 1) 1 = [⟨.error .unprintable, []⟩] := rfl
  refine ⟨?_, hanswers, fun first last h => ?_⟩
  · rintro ⟨a, b, ha, -⟩
    cases ha
  · rw [hanswers] at h
    cases h

end OrderNarration
