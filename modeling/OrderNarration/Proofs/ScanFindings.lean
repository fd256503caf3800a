import Mathlib.Data.List.Forall2
import OrderNarration.Narration.Scan
import OrderNarration.Proofs.Answers
import OrderNarration.Proofs.ReceiptEvents

/-!
# What a scan finds

A scan comes to one spot after another: to the entries of a block after the first
one, or to a block that the node does not give. At every spot it finds a trace or
notes a miss, and it does nothing else there. A scan that is not ended by a fault
has one finding for each spot, in their order.
-/

namespace OrderNarration

/-- A place in the chain. The place of a whole block is before that of its entries. -/
structure Place where
  block : Int
  position : Nat
  deriving DecidableEq

/-- The order of places: by block, then by position. -/
def Place.Before (p q : Place) : Prop :=
  p.block < q.block ∨ p.block = q.block ∧ p.position < q.position

/-- The place of a trace. -/
def Trace.place (t : Trace) : Place := ⟨t.block, t.position⟩

/-- A number of blocks from one on, in ascending order. -/
def blocksFrom : Int → Nat → List Int
  | _, 0 => []
  | number, count + 1 => number :: blocksFrom (number + 1) count

theorem mem_blocksFrom {number m : Int} {count : Nat} :
    m ∈ blocksFrom number count ↔ number ≤ m ∧ m < number + count := by
  induction count generalizing number with
  | zero => simp [blocksFrom]
  | succ count ih =>
      rw [blocksFrom, List.mem_cons, ih]
      omega

theorem blocksFrom_ascending (number : Int) (count : Nat) :
    (blocksFrom number count).Pairwise (· < ·) := by
  induction count generalizing number with
  | zero => exact List.Pairwise.nil
  | succ count ih =>
      refine List.pairwise_cons.mpr ⟨?_, ih (number + 1)⟩
      intro m hm
      have hle := (mem_blocksFrom.mp hm).1
      omega

namespace Node

/-- The node gives the block. -/
def hasBlock (node : Node) (number : Int) : Bool := (node.fetched (.block number)).isSome

/-- The entries of a block, none if the node does not give it. -/
def entriesOf (node : Node) (number : Int) : List Value :=
  match node.fetched (.block number) with
  | none => []
  | some block =>
    match block.field "transactions" >>= Value.itemsOrNone with
    | .ok entries => entries
    | .error _ => []

end Node

namespace Scan

variable {α : Type} {r : Run α} {next : α → Scan}

theorem after_of_ok {a : α} (h : r.outcome = .ok a) :
    after r next = ⟨(next a).traces, (next a).stop, r.events ++ (next a).events⟩ := by
  simp only [after, h]

theorem after_of_error {e : Fault} (h : r.outcome = .error e) :
    after r next = ⟨[], some e, r.events⟩ := by
  simp only [after, h]

theorem after_stop_eq_none :
    (after r next).stop = none ↔ ∃ a, r.outcome = .ok a ∧ (next a).stop = none := by
  cases houtcome : r.outcome with
  | ok a => simp [after_of_ok houtcome]
  | error e => simp [after_of_error houtcome]

theorem append_of_stop_eq_none {s : Scan} {rest : Unit → Scan} (h : s.stop = none) :
    s.append rest =
      ⟨s.traces ++ (rest ()).traces, (rest ()).stop, s.events ++ (rest ()).events⟩ := by
  simp only [append, h]

theorem append_stop_eq_none {s : Scan} {rest : Unit → Scan} :
    (s.append rest).stop = none ↔ s.stop = none ∧ (rest ()).stop = none := by
  cases hstop : s.stop with
  | none => simp [append_of_stop_eq_none hstop]
  | some e => simp [append, hstop]

theorem stop_eq_none_iff {s : Scan} :
    s.stop = none ↔ ∃ traces, s.toRun.outcome = .ok traces := by
  rw [toRun]
  cases s.stop <;> simp

theorem stop_eq_some_iff {s : Scan} {e : Fault} :
    s.stop = some e ↔ s.toRun.outcome = .error e := by
  rw [toRun]
  cases s.stop <;> simp

theorem toRun_after {α : Type} (r : Run α) (next : α → Scan) :
    (after r next).toRun.outcome = r.outcome >>= fun a => (next a).toRun.outcome := by
  cases h : r.outcome with
  | error e => simp [after_of_error h, toRun]
  | ok a =>
      simp only [after_of_ok h, toRun, Outcome.ok_bind]
      cases (next a).stop <;> rfl

theorem toRun_append (s : Scan) (next : Unit → Scan) :
    (s.append next).toRun.outcome =
      s.toRun.outcome >>= fun traces => (traces ++ ·) <$> (next ()).toRun.outcome := by
  cases h : s.stop with
  | some e => simp [append, toRun, h]
  | none =>
      simp only [append_of_stop_eq_none h, toRun, h, Outcome.ok_bind]
      cases (next ()).stop <;> rfl

theorem toRun_withTrace (trace : Option Trace) (s : Scan) :
    (s.withTrace trace).toRun.outcome = (trace.toList ++ ·) <$> s.toRun.outcome := by
  simp only [withTrace, toRun]
  cases s.stop <;> rfl

end Scan

/-- Where a scan looks for a trace: at a block that is not given, or at an entry of a block. -/
inductive Spot where
  | block (number : Int)
  | entry (number : Int) (position : Nat) (value : Value)

/-- The place of a spot. -/
def Spot.place : Spot → Place
  | block number => ⟨number, 0⟩
  | entry number position _ => ⟨number, position⟩

/-- The spots of a block: all its entries but the first one, or the block itself. -/
def Node.spotsOf (node : Node) (number : Int) : List Spot :=
  if node.hasBlock number then
    (((node.entriesOf number).drop 1).zipIdx 1).map fun e => .entry number e.2 e.1
  else [.block number]

/-- What a scan passes over. -/
inductive Miss where
  | block (number : Int)
  | receipt (block : Int) (position : Nat) (hash : Option Text)

namespace Miss

/-- The place of a miss. -/
def place : Miss → Place
  | block number => ⟨number, 0⟩
  | receipt number position _ => ⟨number, position⟩

/-- What the walker notes about a miss: the block's number or the transaction's hash, and the
failure if the node did not just lack an answer. -/
def message (node : Node) : Miss → Text
  | block number =>
    match node.refusal? (.block number) with
    | none => "No block found for block: " ++ Text.ofInt number
    | some failure => "Failed to fetch block " ++ Text.ofInt number ++ ": " ++ failure.message
  | receipt _ _ hash =>
    match node.refusal? (.receipt hash) with
    | none => "No receipt found for tx: " ++ hash.getD "None"
    | some failure =>
      "Failed to fetch receipt for tx " ++ hash.getD "None" ++ ": " ++ failure.message

end Miss

/-- What a scan finds at a spot. -/
inductive Finding where
  | trace (trace : Trace)
  | miss (miss : Miss)

namespace Finding

/-- The place of a finding. -/
def place : Finding → Place
  | trace t => t.place
  | miss m => m.place

def trace? : Finding → Option Trace
  | trace t => some t
  | miss _ => none

def miss? : Finding → Option Miss
  | trace _ => none
  | miss m => some m

@[simp] theorem trace?_trace (t : Trace) : (trace t).trace? = some t := rfl

@[simp] theorem trace?_miss (m : Miss) : (miss m).trace? = none := rfl

@[simp] theorem miss?_trace (t : Trace) : (trace t).miss? = none := rfl

@[simp] theorem miss?_miss (m : Miss) : (miss m).miss? = some m := rfl

/-- The finding is the one of the spot. -/
inductive IsAt (topics : TopicTable) (node : Node) : Spot → Finding → Prop
  | noBlock {number : Int} (fetched : node.fetched (.block number) = none) :
      IsAt topics node (.block number) (.miss (.block number))
  | noReceipt {number : Int} {position : Nat} {value : Value} {hash : Option Text}
      (stated : Narration.entryHash value = .ok hash)
      (fetched : node.fetched (.receipt hash) = none) :
      IsAt topics node (.entry number position value) (.miss (.receipt number position hash))
  | trace {number : Int} {position : Nat} {value found : Value} {hash : Option Text}
      {records : List Record} (stated : Narration.entryHash value = .ok hash)
      (fetched : node.fetched (.receipt hash) = some found)
      (narrated : (Narration.receipt topics node found hash).outcome = .ok records) :
      IsAt topics node (.entry number position value) (.trace ⟨number, position, hash, records⟩)

end Finding

/-- What the walker complains of in an event. -/
def Event.complaint? : Event → Option Text
  | noted ⟨.walker, .error, message⟩ => some message
  | _ => none

/-- What the walker complains of, in order. -/
def complaints (events : List Event) : List Text := events.filterMap Event.complaint?

@[simp] theorem complaints_nil : complaints [] = [] := rfl

@[simp] theorem complaints_complaint (message : Text) :
    complaints [.noted ⟨.walker, .error, message⟩] = [message] := rfl

@[simp] theorem complaints_append (events others : List Event) :
    complaints (events ++ others) = complaints events ++ complaints others := by
  simp [complaints]

theorem complaints_of_staysWithinReceipt {α : Type} {r : Run α}
    (h : Narration.StaysWithinReceipt r) : complaints r.events = [] := by
  apply List.filterMap_eq_nil_iff.mpr
  intro e he
  have hwithin := h e he
  cases e with
  | asked lookup => rfl
  | noted d =>
      obtain ⟨source, level, message⟩ := d
      cases source with
      | walker => simp [Event.isWithinReceipt] at hwithin
      | _ => rfl

@[simp] theorem complaints_ask (node : Node) (lookup : Lookup) :
    complaints (node.ask lookup).events = [] := by
  apply List.filterMap_eq_nil_iff.mpr
  intro e he
  rcases node.ask_events lookup e he with rfl | rfl
  · rfl
  · rfl

namespace Narration

section Visit

variable (topics : TopicTable) {node : Node} (block : Int) (position : Nat) {value : Value}
  {hash : Option Text}

theorem visit_of_refusal {failure : Failure} (hhash : entryHash value = .ok hash)
    (h : node.refusal? (.receipt hash) = some failure) :
    (visit topics node block position value).outcome =
        (if failure.kind.isPassing then .ok none else .error (.lookup failure)) ∧
      complaints (visit topics node block position value).events =
        if failure.kind.isPassing then [(Miss.receipt block position hash).message node]
        else [] := by
  have hask := Node.ask_of_refusal h
  rw [visit]
  constructor
  · simp [hhash, hask, Fault.isPassing]
  · by_cases hpassing : failure.kind.isPassing = true
    · simp [Run.events_bind, hhash, hask, Fault.isPassing, hpassing, Miss.message, h,
        Fault.message]
    · simp [Run.events_bind, hhash, hask, Fault.isPassing, hpassing]

theorem visit_of_no_receipt (hhash : entryHash value = .ok hash)
    (h : node.refusal? (.receipt hash) = none) (hfetched : node.fetched (.receipt hash) = none) :
    (visit topics node block position value).outcome = .ok none ∧
      complaints (visit topics node block position value).events =
        [(Miss.receipt block position hash).message node] := by
  have hask := Node.ask_of_no_refusal h
  rw [visit]
  constructor
  · simp [hhash, hask, hfetched]
  · simp [Run.events_bind, hhash, hask, hfetched, Miss.message, h]

theorem visit_of_receipt {found : Value} (hhash : entryHash value = .ok hash)
    (h : node.fetched (.receipt hash) = some found) :
    (visit topics node block position value).outcome =
        (fun records => some ⟨block, position, hash, records⟩) <$>
          (receipt topics node found hash).outcome ∧
      complaints (visit topics node block position value).events = [] := by
  have hask := Node.ask_of_fetched h
  have hquiet := complaints_of_staysWithinReceipt
    (receipt_staysWithinReceipt topics node found hash)
  rw [visit]
  constructor
  · simp only [Run.outcome_bind, Run.outcome_ofExcept, Run.outcome_attempt, hhash, hask,
      Outcome.ok_bind, Run.outcome_pure]
    cases (receipt topics node found hash).outcome with
    | error e => rfl
    | ok records => rfl
  · simp only [Run.events_bind, Run.outcome_ofExcept, Run.events_ofExcept, Run.outcome_attempt,
      Run.events_attempt, hhash, hask, complaints_append, complaints_ask, hquiet]
    cases (receipt topics node found hash).outcome with
    | error e => rfl
    | ok records => rfl

/-- A visit that has a result finds the one finding of its spot. -/
theorem visit_of_ok {trace : Option Trace}
    (h : (visit topics node block position value).outcome = .ok trace) :
    ∃ f, Finding.IsAt topics node (.entry block position value) f ∧ f.trace? = trace ∧
      complaints (visit topics node block position value).events =
        f.miss?.toList.map (Miss.message node) := by
  have hentry := h
  rw [visit, Run.outcome_bind] at hentry
  obtain ⟨hash, hhash, -⟩ := Outcome.bind_eq_ok_iff.mp hentry
  cases hfetched : node.fetched (.receipt hash) with
  | some found =>
      obtain ⟨houtcome, hcomplaints⟩ := visit_of_receipt topics block position hhash hfetched
      rw [houtcome] at h
      cases hreceipt : (receipt topics node found hash).outcome with
      | error e => simp [hreceipt] at h
      | ok records =>
          rw [hreceipt] at h
          obtain rfl := Except.ok.inj h
          exact ⟨.trace ⟨block, position, hash, records⟩,
            .trace hhash hfetched hreceipt, rfl, hcomplaints⟩
  | none =>
      refine ⟨.miss (.receipt block position hash), .noReceipt hhash hfetched, ?_⟩
      cases hrefusal : node.refusal? (.receipt hash) with
      | none =>
          obtain ⟨houtcome, hcomplaints⟩ :=
            visit_of_no_receipt topics block position hhash hrefusal hfetched
          exact ⟨Except.ok.inj (houtcome.symm.trans h), hcomplaints⟩
      | some failure =>
          obtain ⟨houtcome, hcomplaints⟩ := visit_of_refusal topics block position hhash hrefusal
          rw [houtcome] at h
          split at h
          next hpassing =>
            rw [if_pos hpassing] at hcomplaints
            exact ⟨Except.ok.inj h, hcomplaints⟩
          · simp at h

end Visit

section Block

variable {node : Node} {number : Int}

theorem blockEntries_of_refusal {failure : Failure}
    (h : node.refusal? (.block number) = some failure) :
    (blockEntries node number).outcome =
        (if failure.kind.isPassing then .ok [] else .error (.lookup failure)) ∧
      complaints (blockEntries node number).events =
        if failure.kind.isPassing then [(Miss.block number).message node] else [] := by
  have hask := Node.ask_of_refusal h
  rw [blockEntries]
  constructor
  · simp [hask, Fault.isPassing]
  · by_cases hpassing : failure.kind.isPassing = true
    · simp [Run.events_bind, hask, Fault.isPassing, hpassing, Miss.message, h, Fault.message]
    · simp [Run.events_bind, hask, Fault.isPassing, hpassing]

theorem blockEntries_of_no_block (h : node.refusal? (.block number) = none)
    (hfetched : node.fetched (.block number) = none) :
    (blockEntries node number).outcome = .ok [] ∧
      complaints (blockEntries node number).events = [(Miss.block number).message node] := by
  have hask := Node.ask_of_no_refusal h
  rw [blockEntries]
  constructor
  · simp [hask, hfetched]
  · simp [Run.events_bind, hask, hfetched, Miss.message, h]

theorem blockEntries_of_block {block : Value} (h : node.fetched (.block number) = some block) :
    (blockEntries node number).outcome =
        (block.field "transactions" >>= Value.itemsOrNone).mapError .shape ∧
      complaints (blockEntries node number).events = [] := by
  have hask := Node.ask_of_fetched h
  rw [blockEntries]
  constructor
  · simp [hask]
  · simp [Run.events_bind, hask]

/-- The entries of a block that was visited are those that the node gives, and a block that the
node does not give is complained of. -/
theorem blockEntries_of_ok {entries : List Value}
    (h : (blockEntries node number).outcome = .ok entries) :
    entries = node.entriesOf number ∧
      complaints (blockEntries node number).events =
        if node.hasBlock number then [] else [(Miss.block number).message node] := by
  unfold Node.entriesOf Node.hasBlock
  cases hfetched : node.fetched (.block number) with
  | some block =>
      obtain ⟨houtcome, hcomplaints⟩ := blockEntries_of_block hfetched
      rw [houtcome, Outcome.mapError_eq_ok_iff] at h
      exact ⟨by simp only [h], hcomplaints⟩
  | none =>
      cases hrefusal : node.refusal? (.block number) with
      | none =>
          obtain ⟨houtcome, hcomplaints⟩ := blockEntries_of_no_block hrefusal hfetched
          exact ⟨(Except.ok.inj (houtcome.symm.trans h)).symm, hcomplaints⟩
      | some failure =>
          obtain ⟨houtcome, hcomplaints⟩ := blockEntries_of_refusal hrefusal
          rw [houtcome] at h
          split at h
          next hpassing =>
            rw [if_pos hpassing] at hcomplaints
            exact ⟨(Except.ok.inj h).symm, hcomplaints⟩
          · simp at h

end Block

section Unended

variable {topics : TopicTable} {node : Node} {number : Int} {position : Nat}

/-- A scan of entries that is not ended visits the first one and goes on with the others. -/
theorem scanEntries_cons_of_stop_eq_none {v : Value} {rest : List Value}
    (h : (scanEntries topics node number position (v :: rest)).stop = none) :
    ∃ trace, (visit topics node number position v).outcome = .ok trace ∧
      (scanEntries topics node number (position + 1) rest).stop = none ∧
      scanEntries topics node number position (v :: rest) =
        ⟨trace.toList ++ (scanEntries topics node number (position + 1) rest).traces, none,
          (visit topics node number position v).events ++
            (scanEntries topics node number (position + 1) rest).events⟩ := by
  rw [scanEntries] at h ⊢
  obtain ⟨trace, hvisit, hrest⟩ := Scan.after_stop_eq_none.mp h
  refine ⟨trace, hvisit, hrest, ?_⟩
  rw [Scan.after_of_ok hvisit, hrest]
  rfl

/-- A scan of blocks that is not ended visits the entries of the first one and goes on with the
others. -/
theorem scanBlocks_succ_of_stop_eq_none {count : Nat}
    (h : (scanBlocks topics node number (count + 1)).stop = none) :
    ∃ entries, (blockEntries node number).outcome = .ok entries ∧
      (scanEntries topics node number 1 (entries.drop 1)).stop = none ∧
      (scanBlocks topics node (number + 1) count).stop = none ∧
      scanBlocks topics node number (count + 1) =
        ⟨(scanEntries topics node number 1 (entries.drop 1)).traces ++
            (scanBlocks topics node (number + 1) count).traces, none,
          (blockEntries node number).events ++
            ((scanEntries topics node number 1 (entries.drop 1)).events ++
              (scanBlocks topics node (number + 1) count).events)⟩ := by
  rw [scanBlocks] at h ⊢
  obtain ⟨entries, hblock, hrest⟩ := Scan.after_stop_eq_none.mp h
  obtain ⟨hentries, hothers⟩ := Scan.append_stop_eq_none.mp hrest
  refine ⟨entries, hblock, hentries, hothers, ?_⟩
  rw [Scan.after_of_ok hblock, Scan.append_of_stop_eq_none hentries, hothers]

end Unended

/-- The findings account for a scan at the spots: there is one finding for each spot, in their
order, its traces are those of the scan, and its misses are what the scan complains of. -/
structure Accounts (topics : TopicTable) (node : Node) (s : Scan) (spots : List Spot)
    (findings : List Finding) : Prop where
  each : List.Forall₂ (Finding.IsAt topics node) spots findings
  traces : s.traces = findings.filterMap Finding.trace?
  complaints : complaints s.events = (findings.filterMap Finding.miss?).map (Miss.message node)

variable {topics : TopicTable} {node : Node}

theorem Accounts.append {s rest : Scan} {spots others : List Spot} {findings more : List Finding}
    (h : Accounts topics node s spots findings) (hrest : Accounts topics node rest others more) :
    Accounts topics node ⟨s.traces ++ rest.traces, rest.stop, s.events ++ rest.events⟩
      (spots ++ others) (findings ++ more) where
  each := List.rel_append h.each hrest.each
  traces := by simp [h.traces, hrest.traces]
  complaints := by simp [h.complaints, hrest.complaints]

theorem scanEntries_accounts {block : Int} {position : Nat} {entries : List Value}
    (h : (scanEntries topics node block position entries).stop = none) :
    ∃ findings, Accounts topics node (scanEntries topics node block position entries)
      ((entries.zipIdx position).map fun e => .entry block e.2 e.1) findings := by
  induction entries generalizing position with
  | nil => exact ⟨[], .nil, rfl, rfl⟩
  | cons v rest ih =>
      obtain ⟨trace, hvisit, hrest, hscan⟩ := scanEntries_cons_of_stop_eq_none h
      obtain ⟨f, hat, htrace, hcomplaints⟩ := visit_of_ok topics block position hvisit
      obtain ⟨findings, haccounts⟩ := ih hrest
      have hone : Accounts topics node ⟨trace.toList, none,
          (visit topics node block position v).events⟩ [.entry block position v] [f] := by
        refine ⟨.cons hat .nil, ?_, ?_⟩
        · rw [← htrace]
          cases f <;> rfl
        · rw [hcomplaints]
          cases f <;> rfl
      rw [hscan, ← hrest]
      exact ⟨f :: findings, hone.append haccounts⟩

theorem block_accounts {number : Int} {entries : List Value}
    (h : (blockEntries node number).outcome = .ok entries)
    (hentries : (scanEntries topics node number 1 (entries.drop 1)).stop = none) :
    ∃ findings, Accounts topics node
      ⟨(scanEntries topics node number 1 (entries.drop 1)).traces, none,
        (blockEntries node number).events ++
          (scanEntries topics node number 1 (entries.drop 1)).events⟩
      (node.spotsOf number) findings := by
  obtain ⟨rfl, hcomplaints⟩ := blockEntries_of_ok h
  rw [Node.spotsOf]
  cases hgiven : node.hasBlock number with
  | true =>
      obtain ⟨findings, haccounts⟩ := scanEntries_accounts hentries
      refine ⟨findings, by simpa using haccounts.each, haccounts.traces, ?_⟩
      rw [complaints_append, hcomplaints, hgiven, haccounts.complaints]
      rfl
  | false =>
      -- a block that is not given has no entries, and the block itself is the one spot
      have hfetched : node.fetched (.block number) = none := by
        simpa [Node.hasBlock] using hgiven
      have hnone : node.entriesOf number = [] := by simp [Node.entriesOf, hfetched]
      refine ⟨[.miss (.block number)], ?_, ?_, ?_⟩
      · exact .cons (.noBlock hfetched) .nil
      · simp [hnone, scanEntries, Scan.done, Finding.trace?]
      · simp [hnone, scanEntries, Scan.done, Finding.miss?, hcomplaints, hgiven]

/-- A scan that was not ended accounts for all spots of its blocks. -/
theorem scanBlocks_accounts {number : Int} {count : Nat}
    (h : (scanBlocks topics node number count).stop = none) :
    ∃ findings, Accounts topics node (scanBlocks topics node number count)
      ((blocksFrom number count).flatMap node.spotsOf) findings := by
  induction count generalizing number with
  | zero => exact ⟨[], .nil, rfl, rfl⟩
  | succ count ih =>
      obtain ⟨entries, hblock, hentries, hothers, hscan⟩ := scanBlocks_succ_of_stop_eq_none h
      obtain ⟨findings, haccounts⟩ := block_accounts hblock hentries
      obtain ⟨others, hothersAccounts⟩ := ih hothers
      rw [hscan, ← hothers, ← List.append_assoc, blocksFrom, List.flatMap_cons]
      exact ⟨findings ++ others, haccounts.append hothersAccounts⟩

end Narration

end OrderNarration
