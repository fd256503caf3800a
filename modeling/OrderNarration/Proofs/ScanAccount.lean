import Mathlib
import OrderNarration.Proofs.ScanFindings

/-!
# The account of a scan

The findings of a scan are in the order of their spots, and each spot has only one.
So the traces of a scan that was not ended are those of the range, each of them once
and in ascending order, and everything else that a trace could have been expected of
is complained of once.
-/

namespace OrderNarration

namespace Node

variable {node : Node} {number n : Int}

theorem entriesOf_of_not_hasBlock (h : node.hasBlock number = false) :
    node.entriesOf number = [] := by
  have hfetched : node.fetched (.block number) = none := by simpa [hasBlock] using h
  simp [entriesOf, hfetched]

/-- The spots of a given block are its entries from the second one on. -/
theorem entry_mem_spotsOf {position : Nat} {value : Value} :
    Spot.entry n position value ∈ node.spotsOf number ↔
      n = number ∧ 0 < position ∧ (node.entriesOf number)[position]? = some value := by
  rw [spotsOf]
  cases hgiven : node.hasBlock number with
  | false => simp [entriesOf_of_not_hasBlock hgiven]
  | true =>
      rw [if_pos rfl, List.mem_map]
      constructor
      · rintro ⟨⟨v, i⟩, hmem, heq⟩
        obtain ⟨rfl, rfl, rfl⟩ := Spot.entry.inj heq
        obtain ⟨hle, hget⟩ := List.mk_mem_zipIdx_iff_le_and_getElem?_sub.mp hmem
        rw [List.getElem?_drop, Nat.add_sub_cancel' hle] at hget
        exact ⟨rfl, hle, hget⟩
      · rintro ⟨rfl, hpos, hget⟩
        refine ⟨(value, position), List.mk_mem_zipIdx_iff_le_and_getElem?_sub.mpr ⟨hpos, ?_⟩, rfl⟩
        rwa [List.getElem?_drop, Nat.add_sub_cancel' hpos]

theorem block_mem_spotsOf :
    Spot.block n ∈ node.spotsOf number ↔ n = number ∧ node.fetched (.block number) = none := by
  have hnone : node.fetched (.block number) = none ↔ node.hasBlock number = false := by
    simp [hasBlock]
  rw [spotsOf]
  cases hgiven : node.hasBlock number with
  | true => simp [hnone, hgiven]
  | false => simp [hnone, hgiven]

theorem block_of_mem_spotsOf {s : Spot} (h : s ∈ node.spotsOf number) :
    s.place.block = number := by
  cases s with
  | block n => exact (block_mem_spotsOf.mp h).1
  | entry n position value => exact (entry_mem_spotsOf.mp h).1

theorem spotsOf_pairwise (node : Node) (number : Int) :
    (node.spotsOf number).Pairwise fun s t => s.place.Before t.place := by
  rw [spotsOf]
  split
  · rw [List.pairwise_map]
    have hpositions :
        (((node.entriesOf number).drop 1).zipIdx 1).Pairwise fun e f => e.2 < f.2 := by
      rw [← List.pairwise_map (f := Prod.snd) (R := (· < ·)), List.zipIdx_map_snd]
      exact List.pairwise_lt_range'
    exact hpositions.imp fun hlt => Or.inr ⟨rfl, hlt⟩
  · exact List.pairwise_singleton _ _

/-- The spots of a range of blocks are in ascending order. -/
theorem spots_pairwise (node : Node) (number : Int) (count : Nat) :
    ((blocksFrom number count).flatMap node.spotsOf).Pairwise
      fun s t => s.place.Before t.place := by
  rw [List.pairwise_flatMap]
  refine ⟨fun n _ => node.spotsOf_pairwise n, (blocksFrom_ascending number count).imp ?_⟩
  intro m n hlt s hs t ht
  rw [← block_of_mem_spotsOf hs, ← block_of_mem_spotsOf ht] at hlt
  exact Or.inl hlt

end Node

namespace Finding

variable {topics : TopicTable} {node : Node}

theorem IsAt.place_eq {s : Spot} {f : Finding} (h : IsAt topics node s f) : f.place = s.place := by
  cases h with
  | noBlock fetched => rfl
  | noReceipt stated fetched => rfl
  | trace stated fetched narrated => rfl

/-- A spot has only one finding. -/
theorem IsAt.unique {s : Spot} {f g : Finding} (h : IsAt topics node s f)
    (hg : IsAt topics node s g) : f = g := by
  cases h with
  | noBlock fetched =>
      cases hg
      rfl
  | noReceipt stated fetched =>
      cases hg with
      | noReceipt stated' fetched' =>
          obtain rfl := Except.ok.inj (stated.symm.trans stated')
          rfl
      | trace stated' fetched' narrated' =>
          obtain rfl := Except.ok.inj (stated.symm.trans stated')
          simp [fetched] at fetched'
  | trace stated fetched narrated =>
      cases hg with
      | noReceipt stated' fetched' =>
          obtain rfl := Except.ok.inj (stated.symm.trans stated')
          simp [fetched] at fetched'
      | trace stated' fetched' narrated' =>
          obtain rfl := Except.ok.inj (stated.symm.trans stated')
          obtain rfl := Option.some.inj (fetched.symm.trans fetched')
          obtain rfl := Except.ok.inj (narrated.symm.trans narrated')
          rfl

end Finding

/-- The trace is the one of an entry of a given block, from the second entry on. -/
def Trace.IsOf (topics : TopicTable) (node : Node) (t : Trace) : Prop :=
  node.hasBlock t.block ∧ 0 < t.position ∧ ∃ value found,
    (node.entriesOf t.block)[t.position]? = some value ∧
    Narration.entryHash value = .ok t.hash ∧ node.fetched (.receipt t.hash) = some found ∧
    (Narration.receipt topics node found t.hash).outcome = .ok t.records

/-- The node does not give the block, or it gives the block and not the receipt of an entry, from
the second entry on. -/
def Miss.IsOf (node : Node) : Miss → Prop
  | block number => node.hasBlock number = false
  | receipt number position hash =>
    node.hasBlock number ∧ 0 < position ∧ ∃ value,
      (node.entriesOf number)[position]? = some value ∧
      Narration.entryHash value = .ok hash ∧ node.fetched (.receipt hash) = none

theorem Node.hasBlock_of_entry {node : Node} {number : Int} {position : Nat} {value : Value}
    (h : (node.entriesOf number)[position]? = some value) : node.hasBlock number = true := by
  by_contra hnot
  rw [Node.entriesOf_of_not_hasBlock (Bool.eq_false_iff.mpr hnot)] at h
  simp at h

namespace Finding

variable {topics : TopicTable} {node : Node}

/-- A trace is found in a block exactly if it is one of its traces. -/
theorem exists_isAt_trace_iff {number : Int} {t : Trace} :
    (∃ s ∈ node.spotsOf number, IsAt topics node s (.trace t)) ↔
      t.block = number ∧ t.IsOf topics node := by
  constructor
  · rintro ⟨s, hs, hat⟩
    cases hat with
    | trace stated fetched narrated =>
        obtain ⟨rfl, hpos, hget⟩ := Node.entry_mem_spotsOf.mp hs
        exact ⟨rfl, Node.hasBlock_of_entry hget, hpos, _, _, hget, stated, fetched, narrated⟩
  · rintro ⟨rfl, -, hpos, value, found, hget, stated, fetched, narrated⟩
    exact ⟨.entry t.block t.position value, Node.entry_mem_spotsOf.mpr ⟨rfl, hpos, hget⟩,
      .trace stated fetched narrated⟩

theorem exists_isAt_miss_iff {number : Int} {m : Miss} :
    (∃ s ∈ node.spotsOf number, IsAt topics node s (.miss m)) ↔
      m.place.block = number ∧ m.IsOf node := by
  have hnone (n : Int) : node.fetched (.block n) = none ↔ node.hasBlock n = false := by
    simp [Node.hasBlock]
  constructor
  · rintro ⟨s, hs, hat⟩
    cases hat with
    | noBlock fetched =>
        obtain ⟨rfl, hfetched⟩ := Node.block_mem_spotsOf.mp hs
        exact ⟨rfl, (hnone _).mp hfetched⟩
    | noReceipt stated fetched =>
        obtain ⟨rfl, hpos, hget⟩ := Node.entry_mem_spotsOf.mp hs
        exact ⟨rfl, Node.hasBlock_of_entry hget, hpos, _, hget, stated, fetched⟩
  · rintro ⟨rfl, hmiss⟩
    cases m with
    | block n =>
        have hfetched := (hnone n).mpr hmiss
        exact ⟨.block n, Node.block_mem_spotsOf.mpr ⟨rfl, hfetched⟩, .noBlock hfetched⟩
    | receipt n position hash =>
        obtain ⟨-, hpos, value, hget, stated, fetched⟩ := hmiss
        exact ⟨.entry n position value, Node.entry_mem_spotsOf.mpr ⟨rfl, hpos, hget⟩,
          .noReceipt stated fetched⟩

end Finding

/-- The miss is that of a whole block. -/
def Miss.isBlock : Miss → Bool
  | block _ => true
  | receipt _ _ _ => false

@[simp] theorem Miss.isBlock_block (number : Int) : (block number).isBlock = true := rfl

@[simp] theorem Miss.isBlock_receipt (number : Int) (position : Nat) (hash : Option Text) :
    (receipt number position hash).isBlock = false := rfl

/-- The spot is an entry of a block. -/
def Spot.isEntry : Spot → Bool
  | block _ => false
  | entry _ _ _ => true

@[simp] theorem Spot.isEntry_block (number : Int) : (block number).isEntry = false := rfl

@[simp] theorem Spot.isEntry_entry (number : Int) (position : Nat) (value : Value) :
    (entry number position value).isEntry = true := rfl

namespace Finding

variable {topics : TopicTable} {node : Node} {spots : List Spot} {findings : List Finding}

/-- The findings at spots are all that can be found there. -/
theorem mem_iff_of_forall₂ (h : List.Forall₂ (IsAt topics node) spots findings) {f : Finding} :
    f ∈ findings ↔ ∃ s ∈ spots, IsAt topics node s f := by
  induction h with
  | nil => simp
  | @cons s g spots findings hat hrest ih =>
      rw [List.mem_cons, ih]
      constructor
      · rintro (rfl | ⟨t, ht, htf⟩)
        · exact ⟨s, List.mem_cons_self, hat⟩
        · exact ⟨t, List.mem_cons_of_mem _ ht, htf⟩
      · rintro ⟨t, ht, htf⟩
        rcases List.mem_cons.mp ht with rfl | hrest
        · exact Or.inl (htf.unique hat)
        · exact Or.inr ⟨t, hrest, htf⟩

theorem map_place_of_forall₂ (h : List.Forall₂ (IsAt topics node) spots findings) :
    findings.map place = spots.map Spot.place := by
  induction h with
  | nil => rfl
  | cons hat _ ih => rw [List.map_cons, List.map_cons, hat.place_eq, ih]

theorem pairwise_of_forall₂ (h : List.Forall₂ (IsAt topics node) spots findings)
    (hspots : spots.Pairwise fun s t => s.place.Before t.place) :
    findings.Pairwise fun f g => f.place.Before g.place := by
  rw [← List.pairwise_map (f := place) (R := Place.Before), map_place_of_forall₂ h,
    List.pairwise_map]
  exact hspots

@[simp] theorem trace?_eq_some_iff {f : Finding} {t : Trace} :
    f.trace? = some t ↔ f = .trace t := by
  cases f <;> simp [trace?]

@[simp] theorem miss?_eq_some_iff {f : Finding} {m : Miss} : f.miss? = some m ↔ f = .miss m := by
  cases f <;> simp [miss?]

theorem place_of_trace? {f : Finding} {t : Trace} (h : f.trace? = some t) :
    f.place = t.place := by
  obtain rfl := trace?_eq_some_iff.mp h
  rfl

theorem place_of_miss? {f : Finding} {m : Miss} (h : f.miss? = some m) : f.place = m.place := by
  obtain rfl := miss?_eq_some_iff.mp h
  rfl

/-- A view of the findings that keeps their places keeps their order. -/
theorem pairwise_filterMap {α : Type} {view : Finding → Option α} {placeOf : α → Place}
    (hview : ∀ f a, view f = some a → f.place = placeOf a)
    (h : findings.Pairwise fun f g => f.place.Before g.place) :
    (findings.filterMap view).Pairwise fun a b => (placeOf a).Before (placeOf b) := by
  rw [List.pairwise_filterMap]
  refine h.imp ?_
  intro f g hfg a ha b hb
  rwa [← hview f a ha, ← hview g b hb]

/-- Entries give traces and missing receipts, and nothing else gives them. -/
theorem count_of_forall₂ (h : List.Forall₂ (IsAt topics node) spots findings) :
    (findings.filterMap trace?).length +
        (findings.filterMap miss?).countP (fun m => !m.isBlock) = spots.countP Spot.isEntry ∧
      (findings.filterMap miss?).countP Miss.isBlock = spots.countP fun s => !s.isEntry := by
  induction h with
  | nil => exact ⟨rfl, rfl⟩
  | cons hat _ ih =>
      obtain ⟨hentries, hblocks⟩ := ih
      cases hat with
      | noBlock fetched =>
          simp [List.filterMap_cons, List.countP_cons, hentries, hblocks]
      | noReceipt stated fetched =>
          simp only [List.filterMap_cons, trace?_miss, miss?_miss, List.countP_cons,
            Miss.isBlock_receipt, Spot.isEntry_entry, Bool.not_true, Bool.not_false, if_true,
            Bool.false_eq_true, if_false]
          omega
      | trace stated fetched narrated =>
          simp only [List.filterMap_cons, trace?_trace, miss?_trace, List.countP_cons,
            List.length_cons, Spot.isEntry_entry, Bool.not_true, if_true, Bool.false_eq_true,
            if_false]
          omega

end Finding

namespace Node

theorem countP_isEntry_spotsOf (node : Node) (number : Int) :
    (node.spotsOf number).countP Spot.isEntry = (node.entriesOf number).length - 1 := by
  rw [spotsOf]
  cases hgiven : node.hasBlock number with
  | false => simp [entriesOf_of_not_hasBlock hgiven]
  | true =>
      have hall : ∀ s ∈ (((node.entriesOf number).drop 1).zipIdx 1).map
          (fun e => Spot.entry number e.2 e.1), s.isEntry = true := by
        intro s hs
        obtain ⟨e, -, rfl⟩ := List.mem_map.mp hs
        rfl
      rw [if_pos rfl, List.countP_eq_length.mpr hall, List.length_map, List.length_zipIdx,
        List.length_drop]

theorem countP_not_isEntry_spotsOf (node : Node) (number : Int) :
    (node.spotsOf number).countP (fun s => !s.isEntry) =
      if node.hasBlock number then 0 else 1 := by
  rw [spotsOf]
  cases hgiven : node.hasBlock number with
  | false => simp
  | true => simp [List.countP_eq_zero]

end Node

namespace BlockRange

theorem first_add_count (range : BlockRange) : range.first + range.count = range.last + 1 := by
  have hordered := range.ordered
  rw [count]
  omega

/-- The blocks of a range in their order. -/
def blocks (range : BlockRange) : List Int := blocksFrom range.first range.count

theorem mem_blocks {range : BlockRange} {n : Int} :
    n ∈ range.blocks ↔ n ∈ Finset.Icc range.first range.last := by
  have hcount := range.first_add_count
  rw [blocks, mem_blocksFrom, Finset.mem_Icc]
  omega

/-- A sum over the blocks in their order is a sum over the numbers of the range. -/
theorem sum_blocks (range : BlockRange) (g : Int → Nat) :
    (range.blocks.map g).sum = ∑ n ∈ Finset.Icc range.first range.last, g n := by
  have hnodup : range.blocks.Nodup := (blocksFrom_ascending _ _).imp fun hlt => ne_of_lt hlt
  have hblocks : range.blocks.toFinset = Finset.Icc range.first range.last := by
    ext n
    rw [List.mem_toFinset, mem_blocks]
  rw [← hblocks, List.sum_toFinset g hnodup]

theorem ofValues_of_ok {first last : Int} {range : BlockRange}
    (h : ofValues (.int first) (.int last) = .ok range) :
    range.first = first ∧ range.last = last := by
  simp only [ofValues, number?, ofNumbers?] at h
  by_cases hvalid : 0 < first ∧ first ≤ last
  · simp only [hvalid, and_self, dite_true] at h
    obtain rfl := Except.ok.inj h
    exact ⟨rfl, rfl⟩
  · simp [hvalid] at h

end BlockRange

namespace Narration

variable {topics : TopicTable} {node : Node}

/-- A run over a range that has traces is a scan that was not ended. -/
theorem scanRange_of_range {first last : Value} {traces : List Trace}
    (h : (Narration.range topics node first last).outcome = .ok traces) :
    ∃ range : BlockRange, BlockRange.ofValues first last = .ok range ∧
      (scanRange topics node range).stop = none ∧
      traces = (scanRange topics node range).traces ∧
      (Narration.range topics node first last).events = (scanRange topics node range).events := by
  rw [Narration.range] at h ⊢
  rw [Run.outcome_bind, Run.outcome_ofExcept] at h
  obtain ⟨range, hrange, hscan⟩ := Outcome.bind_eq_ok_iff.mp h
  rw [Run.events_bind, Run.outcome_ofExcept, Run.events_ofExcept, hrange]
  rw [Scan.toRun] at hscan
  cases hstop : (scanRange topics node range).stop with
  | some e => simp [hstop] at hscan
  | none =>
      simp only [hstop] at hscan
      exact ⟨range, rfl, hstop, (Except.ok.inj hscan).symm, by simp [Scan.toRun, hstop]⟩

/-- Between two numbers the blocks are those from the first to the last. -/
theorem range_of_ok {first last : Int} {traces : List Trace}
    (h : (Narration.range topics node (.int first) (.int last)).outcome = .ok traces) :
    ∃ range : BlockRange, range.first = first ∧ range.last = last ∧
      (scanRange topics node range).stop = none ∧
      traces = (scanRange topics node range).traces ∧
      (Narration.range topics node (.int first) (.int last)).events =
        (scanRange topics node range).events := by
  obtain ⟨range, hrange, hscan⟩ := scanRange_of_range h
  obtain ⟨hfirst, hlast⟩ := BlockRange.ofValues_of_ok hrange
  exact ⟨range, hfirst, hlast, hscan⟩

section Findings

variable {range : BlockRange} {findings : List Finding}
  (h : List.Forall₂ (Finding.IsAt topics node) (range.blocks.flatMap node.spotsOf) findings)
include h

theorem mem_findings_iff {f : Finding} :
    f ∈ findings ↔ ∃ n ∈ Finset.Icc range.first range.last,
      ∃ s ∈ node.spotsOf n, Finding.IsAt topics node s f := by
  rw [Finding.mem_iff_of_forall₂ h]
  constructor
  · rintro ⟨s, hs, hat⟩
    obtain ⟨n, hn, hs⟩ := List.mem_flatMap.mp hs
    exact ⟨n, BlockRange.mem_blocks.mp hn, s, hs, hat⟩
  · rintro ⟨n, hn, s, hs, hat⟩
    exact ⟨s, List.mem_flatMap.mpr ⟨n, BlockRange.mem_blocks.mpr hn, hs⟩, hat⟩

theorem mem_traces_iff {t : Trace} :
    t ∈ findings.filterMap Finding.trace? ↔
      t.block ∈ Finset.Icc range.first range.last ∧ t.IsOf topics node := by
  simp only [List.mem_filterMap, Finding.trace?_eq_some_iff, exists_eq_right, mem_findings_iff h,
    Finding.exists_isAt_trace_iff]
  constructor
  · rintro ⟨n, hn, rfl, ht⟩
    exact ⟨hn, ht⟩
  · rintro ⟨hn, ht⟩
    exact ⟨t.block, hn, rfl, ht⟩

theorem mem_misses_iff {m : Miss} :
    m ∈ findings.filterMap Finding.miss? ↔
      m.place.block ∈ Finset.Icc range.first range.last ∧ m.IsOf node := by
  simp only [List.mem_filterMap, Finding.miss?_eq_some_iff, exists_eq_right, mem_findings_iff h,
    Finding.exists_isAt_miss_iff]
  constructor
  · rintro ⟨n, hn, rfl, hm⟩
    exact ⟨hn, hm⟩
  · rintro ⟨hn, hm⟩
    exact ⟨m.place.block, hn, rfl, hm⟩

/-- Traces and missing receipts are as many as there are entries after the first ones. -/
theorem length_traces_add_receipts :
    (findings.filterMap Finding.trace?).length +
        (findings.filterMap Finding.miss?).countP (fun m => !m.isBlock) =
      ∑ n ∈ (Finset.Icc range.first range.last).filter (fun n => node.hasBlock n),
        ((node.entriesOf n).length - 1) := by
  have hgiven : ∀ n ∈ Finset.Icc range.first range.last,
      (node.entriesOf n).length - 1 ≠ 0 → node.hasBlock n = true := by
    intro n _ hne
    by_contra hnot
    rw [Node.entriesOf_of_not_hasBlock (Bool.eq_false_iff.mpr hnot)] at hne
    exact hne rfl
  rw [(Finding.count_of_forall₂ h).1, List.countP_flatMap, Finset.sum_filter_of_ne hgiven,
    ← range.sum_blocks]
  congr 1
  apply List.map_congr_left
  intro n _
  exact node.countP_isEntry_spotsOf n

/-- Given blocks and missing blocks are as many as the range has blocks. -/
theorem card_given_add_blocks :
    (((Finset.Icc range.first range.last).filter (fun n => node.hasBlock n)).card : Int) +
        (findings.filterMap Finding.miss?).countP Miss.isBlock =
      range.last - range.first + 1 := by
  have hmissing : (findings.filterMap Finding.miss?).countP Miss.isBlock =
      ∑ n ∈ Finset.Icc range.first range.last, if node.hasBlock n then 0 else 1 := by
    rw [(Finding.count_of_forall₂ h).2, List.countP_flatMap, ← range.sum_blocks]
    congr 1
    apply List.map_congr_left
    intro n _
    exact node.countP_not_isEntry_spotsOf n
  have hcard : ((Finset.Icc range.first range.last).filter (fun n => node.hasBlock n)).card +
      (findings.filterMap Finding.miss?).countP Miss.isBlock =
        (Finset.Icc range.first range.last).card := by
    rw [hmissing, Finset.card_filter, ← Finset.sum_add_distrib, Finset.card_eq_sum_ones]
    apply Finset.sum_congr rfl
    intro n _
    cases node.hasBlock n <;> rfl
  have hordered := range.ordered
  rw [Int.card_Icc] at hcard
  omega

end Findings

/-- The account of a scan: its traces are the traces of the range, each of them once and in
ascending order, and what the walker complains of are the misses of the range, each of them once
and in ascending order. Traces and missing receipts together are the entries of the given blocks
without their first ones; given and missing blocks together are the blocks of the range. -/
theorem range_accounts {first last : Int} {traces : List Trace}
    (h : (Narration.range topics node (.int first) (.int last)).outcome = .ok traces) :
    (∀ t, t ∈ traces ↔ t.block ∈ Finset.Icc first last ∧ t.IsOf topics node) ∧
    traces.Pairwise (fun t u => t.place.Before u.place) ∧
    ∃ misses : List Miss,
      complaints (Narration.range topics node (.int first) (.int last)).events =
        misses.map (Miss.message node) ∧
      (∀ m, m ∈ misses ↔ m.place.block ∈ Finset.Icc first last ∧ m.IsOf node) ∧
      misses.Pairwise (fun m n => m.place.Before n.place) ∧
      traces.length + misses.countP (fun m => !m.isBlock) =
        ∑ n ∈ (Finset.Icc first last).filter (fun n => node.hasBlock n),
          ((node.entriesOf n).length - 1) ∧
      ((Finset.Icc first last).filter (fun n => node.hasBlock n)).card +
        misses.countP Miss.isBlock = last - first + 1 := by
  obtain ⟨range, rfl, rfl, hstop, rfl, hevents⟩ := range_of_ok h
  obtain ⟨findings, haccounts⟩ := scanBlocks_accounts hstop
  have hspots := node.spots_pairwise range.first range.count
  have hfindings := Finding.pairwise_of_forall₂ haccounts.each hspots
  rw [hevents, scanRange]
  rw [haccounts.traces]
  refine ⟨fun t => mem_traces_iff haccounts.each, ?_, findings.filterMap Finding.miss?,
    haccounts.complaints, fun m => mem_misses_iff haccounts.each, ?_,
    length_traces_add_receipts haccounts.each, card_given_add_blocks haccounts.each⟩
  · exact Finding.pairwise_filterMap (fun _ _ => Finding.place_of_trace?) hfindings
  · exact Finding.pairwise_filterMap (fun _ _ => Finding.place_of_miss?) hfindings

end Narration

/-- A node with one block of three entries and the receipt of one of them. -/
def blockNode : Node
  | .block 1 => .found (.mapping [("transactions", .list [.bytes [0], .bytes [1], .bytes [2]])])
  | .receipt (some hash) =>
    if hash = "0x01" then .found (.mapping [("logs", .list [])]) else .absent
  | _ => .absent

/-- The trace of that entry. -/
def blockTrace : Trace :=
  ⟨1, 1, some "0x01", [{ kind := .noLogs, message := "No logs found", hash := some "0x01" }]⟩

/-- One trace, one missing receipt and one missing block. -/
theorem range_accounts_of_blockNode :
    (Narration.range [] blockNode (.int 1) (.int 2)).outcome = .ok [blockTrace] ∧
      ∃ misses : List Miss,
        complaints (Narration.range [] blockNode (.int 1) (.int 2)).events =
          misses.map (Miss.message blockNode) ∧
        misses.countP (fun m => !m.isBlock) = 1 ∧ misses.countP Miss.isBlock = 1 := by
  have hrange : (Narration.range [] blockNode (.int 1) (.int 2)).outcome = .ok [blockTrace] := rfl
  have hgiven : (Finset.Icc 1 2).filter (fun n => blockNode.hasBlock n) = {1} := by decide +kernel
  obtain ⟨-, -, misses, hcomplaints, -, -, hentries, hblocks⟩ := Narration.range_accounts hrange
  rw [hgiven] at hentries hblocks
  have hsum : ∑ n ∈ ({1} : Finset Int), ((blockNode.entriesOf n).length - 1) = 2 := by
    decide +kernel
  rw [hsum, List.length_singleton] at hentries
  rw [Finset.card_singleton] at hblocks
  exact ⟨hrange, misses, hcomplaints, by omega, by omega⟩

end OrderNarration
