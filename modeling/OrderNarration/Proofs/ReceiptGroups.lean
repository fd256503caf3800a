import OrderNarration.Narration.Receipt
import OrderNarration.Proofs.LogShapes

/-!
# The groups of a receipt's narration

A receipt narrates its logs one after another: for each of them a header and then what
the log narrates by itself. Every record of a group names the position, the topic and
the transaction of its log, so a group depends on its log and on nothing before or
after it.
-/

namespace OrderNarration

/-- The log as part of a receipt that was asked for by a hash. -/
def EventLog.within (log : EventLog) (hash : Option Text) : EventLog :=
  { log with hash := log.hash.or hash }

/-- The header of a log of a kind at a position of a receipt. -/
def EventLog.header (log : EventLog) (kind : EventKind) (position : Nat) : Record :=
  log.record kind (.int position) .logHeader
    ("log[" ++ Text.ofNat position ++ "] (topic: " ++ kind.label ++ ")") []

namespace Narration

variable {topics : TopicTable} {node : Node} {hash : Option Text} {position : Nat}
  {value : Value} {values : List Value} {records : List Record} {groups : List (List Record)}

/-- The records of the entry of a receipt at a position: a header, and what its log narrates by
itself. All of them name the position, the topic and the transaction of the log, which is the one
that was asked for if the entry states none. -/
structure IsGroup (topics : TopicTable) (node : Node) (hash : Option Text) (position : Nat)
    (value : Value) (group : List Record) : Prop where
  narrated : ∃ log header own, EventLog.ofValue value = .ok log ∧ group = header :: own ∧
    header.kind = .logHeader ∧
    header.message =
      "log[" ++ Text.ofNat position ++ "] (topic: " ++ (log.classified topics).kind.label ++ ")" ∧
    header.data = [] ∧
    (Narration.log topics node (log.within hash) (.int position)).outcome = .ok own ∧
    ∀ r ∈ group, r.topic = some (log.classified topics).kind.label
  index : ∀ r ∈ group, r.index = .int position
  hash : ∃ stated own, value.field "transactionHash" = .ok stated ∧
    HashText.ofValue stated = .ok own ∧ ∀ r ∈ group, r.hash = own.or hash

theorem entry_eq_ok_iff :
    (entry topics node hash position value).outcome = .ok records ↔
      ∃ log own, EventLog.ofValue value = .ok log ∧
        (Narration.log topics node (log.within hash) (.int position)).outcome = .ok own ∧
        records = (log.within hash).header (log.classified topics).kind position :: own := by
  rw [entry]
  simp only [Run.outcome_bind, Run.outcome_ofExcept, TopicTable.classify_outcome, Outcome.ok_bind,
    Outcome.bind_eq_ok_iff, Run.outcome_pure, Except.ok.injEq]
  constructor
  · rintro ⟨log, hlog, own, hown, rfl⟩
    exact ⟨log, own, hlog, hown, rfl⟩
  · rintro ⟨log, own, hlog, hown, rfl⟩
    exact ⟨log, hlog, own, hown, rfl⟩

theorem ofValue_hash {log : EventLog} (h : EventLog.ofValue value = .ok log) :
    ∃ stated, value.field "transactionHash" = .ok stated ∧
      HashText.ofValue stated = .ok log.hash := by
  rw [EventLog.ofValue] at h
  simp only [Outcome.bind_eq_ok_iff, Outcome.mapError_eq_ok_iff] at h
  obtain ⟨_, -, _, -, _, -, stated, hstated, _, -, _, -, own, hown, _, -, hlog⟩ := h
  obtain rfl := Except.ok.inj hlog
  exact ⟨stated, hstated, hown⟩

/-- What an entry narrates is its group. -/
theorem isGroup_of_entry (h : (entry topics node hash position value).outcome = .ok records) :
    IsGroup topics node hash position value records := by
  obtain ⟨log, own, hlog, hown, rfl⟩ := entry_eq_ok_iff.mp h
  have habout : ∀ r ∈ (log.within hash).header (log.classified topics).kind position :: own,
      r.IsAbout (log.within hash) (log.classified topics).kind (.int position) := by
    intro r hr
    rcases List.mem_cons.mp hr with rfl | hr
    · exact EventLog.record_isAbout _ _ _ _ _ _
    · exact log_isAbout hown r hr
  obtain ⟨stated, hstated, hhash⟩ := ofValue_hash hlog
  constructor
  case narrated =>
    exact ⟨log, _, own, hlog, rfl, rfl, rfl, rfl, hown, fun r hr => (habout r hr).topic⟩
  case index => exact fun r hr => (habout r hr).index
  case hash => exact ⟨stated, log.hash, hstated, hhash, fun r hr => (habout r hr).hash⟩

/-- The group of an entry is what it narrates: nothing in it is left open. -/
theorem IsGroup.entry_eq (h : IsGroup topics node hash position value records) :
    (entry topics node hash position value).outcome = .ok records := by
  obtain ⟨log, header, own, hlog, rfl, hkind, hmessage, hdata, hown, htopic⟩ := h.narrated
  obtain ⟨stated, stating, hstated, hhash, hhashes⟩ := h.hash
  obtain ⟨stated', hstated', hhash'⟩ := ofValue_hash hlog
  obtain rfl := Except.ok.inj (hstated.symm.trans hstated')
  obtain rfl := Except.ok.inj (hhash.symm.trans hhash')
  have hheader : header = (log.within hash).header (log.classified topics).kind position := by
    have hindex := h.index header List.mem_cons_self
    have hlabel := htopic header List.mem_cons_self
    have hasked := hhashes header List.mem_cons_self
    cases header
    simp_all [EventLog.header, EventLog.record, EventLog.within]
  exact entry_eq_ok_iff.mpr ⟨log, own, hlog, hown, by rw [hheader]⟩

/-- The groups of a receipt's entries from a position on, one for each entry in their order. -/
structure AreGroups (topics : TopicTable) (node : Node) (hash : Option Text) (position : Nat)
    (values : List Value) (groups : List (List Record)) : Prop where
  count : groups.length = values.length
  each : ∀ i value group, values[i]? = some value → groups[i]? = some group →
    IsGroup topics node hash (position + i) value group

theorem areGroups_cons_iff {group : List Record} :
    AreGroups topics node hash position (value :: values) (group :: groups) ↔
      IsGroup topics node hash position value group ∧
        AreGroups topics node hash (position + 1) values groups := by
  constructor
  · intro h
    refine ⟨h.each 0 value group rfl rfl, Nat.succ.inj h.count, ?_⟩
    intro i value' group' hvalue hgroup
    rw [Nat.add_right_comm, Nat.add_assoc]
    exact h.each (i + 1) value' group' hvalue hgroup
  · rintro ⟨hfirst, hrest⟩
    refine ⟨congrArg Nat.succ hrest.count, ?_⟩
    intro i value' group' hvalue hgroup
    cases i with
    | zero =>
        obtain rfl := Option.some.inj hvalue
        obtain rfl := Option.some.inj hgroup
        exact hfirst
    | succ i =>
        rw [← Nat.add_assoc, Nat.add_right_comm]
        exact hrest.each i value' group' hvalue hgroup

/-- Entries together narrate their groups one after another. -/
theorem entriesFrom_eq_ok_iff :
    (entriesFrom topics node hash position values).outcome = .ok records ↔
      ∃ groups, AreGroups topics node hash position values groups ∧ records = groups.flatten := by
  induction values generalizing position records with
  | nil =>
      constructor
      · intro h
        obtain rfl := Except.ok.inj h
        exact ⟨[], ⟨rfl, by simp⟩, rfl⟩
      · rintro ⟨groups, hgroups, rfl⟩
        rw [List.length_eq_zero_iff.mp hgroups.count]
        rfl
  | cons value rest ih =>
      rw [entriesFrom, Run.outcome_bind, Outcome.bind_eq_ok_iff]
      simp only [Run.outcome_map, Outcome.map_eq_ok_iff]
      constructor
      · rintro ⟨group, hgroup, others, hothers, rfl⟩
        obtain ⟨groups, hgroups, rfl⟩ := ih.mp hothers
        exact ⟨group :: groups, areGroups_cons_iff.mpr ⟨isGroup_of_entry hgroup, hgroups⟩, rfl⟩
      · rintro ⟨groups, hgroups, rfl⟩
        cases groups with
        | nil => cases hgroups.count
        | cons group groups =>
            obtain ⟨hfirst, hrest⟩ := areGroups_cons_iff.mp hgroups
            exact ⟨group, hfirst.entry_eq, groups.flatten, ih.mpr ⟨groups, hrest, rfl⟩, rfl⟩

theorem receipt_eq_ok_iff (hlogs : (value.field "logs" >>= Value.itemsOrNone) = .ok values)
    (hsome : values ≠ []) :
    (receipt topics node value hash).outcome = .ok records ↔
      ∃ groups, AreGroups topics node hash 0 values groups ∧ records = groups.flatten := by
  rw [receipt, hlogs, ← entriesFrom_eq_ok_iff]
  cases values with
  | nil => exact absurd rfl hsome
  | cons first rest => exact Iff.rfl

namespace AreGroups

variable (h : AreGroups topics node hash position values groups)
include h

theorem isGroup {i : Nat} {group : List Record} (hgroup : groups[i]? = some group) :
    ∃ value, values[i]? = some value ∧ IsGroup topics node hash (position + i) value group := by
  obtain ⟨hi, -⟩ := List.getElem?_eq_some_iff.mp hgroup
  have hvalue := List.getElem?_eq_getElem (h.count ▸ hi)
  exact ⟨_, hvalue, h.each i _ group hvalue hgroup⟩

/-- The positions do not go down along the groups. -/
theorem index_ascending :
    groups.flatten.Pairwise fun r s =>
      ∃ i j : Nat, r.index = .int i ∧ s.index = .int j ∧ i ≤ j := by
  rw [List.pairwise_flatten]
  constructor
  · intro group hgroup
    obtain ⟨i, hi⟩ := List.getElem?_of_mem hgroup
    obtain ⟨value, -, hvalue⟩ := h.isGroup hi
    apply List.pairwise_of_forall_mem_list
    intro r hr s hs
    exact ⟨position + i, position + i, hvalue.index r hr, hvalue.index s hs, le_rfl⟩
  · rw [List.pairwise_iff_getElem]
    intro i j hi hj hij r hr s hs
    obtain ⟨_, -, hfirst⟩ := h.isGroup (List.getElem?_eq_getElem hi)
    obtain ⟨_, -, hsecond⟩ := h.isGroup (List.getElem?_eq_getElem hj)
    exact ⟨position + i, position + j, hfirst.index r hr, hsecond.index s hs, by omega⟩

/-- Entries that are the same in two receipts have the same group. -/
theorem unique {values' : List Value} {groups' : List (List Record)}
    (h' : AreGroups topics node hash position values' groups') {i : Nat}
    (hsame : values[i]? = values'[i]?) : groups[i]? = groups'[i]? := by
  cases hgroup : groups[i]? with
  | none =>
      rw [List.getElem?_eq_none_iff, h.count, ← List.getElem?_eq_none_iff, hsame,
        List.getElem?_eq_none_iff, ← h'.count, ← List.getElem?_eq_none_iff] at hgroup
      exact hgroup.symm
  | some group =>
      obtain ⟨value, hvalue, hown⟩ := h.isGroup hgroup
      obtain ⟨hi, -⟩ := List.getElem?_eq_some_iff.mp (hsame.symm.trans hvalue)
      have hgroup' := List.getElem?_eq_getElem (h'.count.symm ▸ hi)
      have hother := h'.each i value _ (hsame.symm.trans hvalue) hgroup'
      rw [hgroup', Except.ok.inj (hown.entry_eq.symm.trans hother.entry_eq)]

/-- If one entry is another one, only the group of this entry is another one. -/
theorem eq_set {groups' : List (List Record)} {i : Nat} {changed : Value}
    (hi : i < values.length)
    (h' : AreGroups topics node hash position (values.set i changed) groups') :
    ∃ own, IsGroup topics node hash (position + i) changed own ∧ groups' = groups.set i own := by
  have hi' : i < groups'.length := by
    rw [h'.count, List.length_set]
    exact hi
  obtain ⟨value, hvalue, hown⟩ := h'.isGroup (List.getElem?_eq_getElem hi')
  rw [List.getElem?_set_self hi] at hvalue
  obtain rfl := Option.some.inj hvalue
  refine ⟨groups'[i], hown, ?_⟩
  apply List.ext_getElem?
  intro j
  by_cases hij : i = j
  · subst hij
    rw [List.getElem?_set_self (h.count ▸ hi), List.getElem?_eq_getElem hi']
  · rw [List.getElem?_set_ne hij]
    exact h'.unique h (List.getElem?_set_ne hij)

end AreGroups

/-- The narration of a receipt with logs is the narrations of its logs one after another, each in
a group of its own, and it has a result if all of its logs have one. The positions do not go down,
and another log in one place changes the group of this log only. -/
theorem receipt_splits_into_groups
    (hlogs : (value.field "logs" >>= Value.itemsOrNone) = .ok values) (hsome : values ≠ []) :
    (∀ records, (receipt topics node value hash).outcome = .ok records ↔
      ∃ groups, AreGroups topics node hash 0 values groups ∧ records = groups.flatten) ∧
    ∀ groups, AreGroups topics node hash 0 values groups →
      (groups.flatten.Pairwise fun r s =>
        ∃ i j : Nat, r.index = .int i ∧ s.index = .int j ∧ i ≤ j) ∧
      ∀ i changed value' records', i < values.length →
        (value'.field "logs" >>= Value.itemsOrNone) = .ok (values.set i changed) →
        (receipt topics node value' hash).outcome = .ok records' →
        ∃ own, IsGroup topics node hash i changed own ∧ records' = (groups.set i own).flatten := by
  refine ⟨fun _ => receipt_eq_ok_iff hlogs hsome, ?_⟩
  intro groups hgroups
  refine ⟨hgroups.index_ascending, ?_⟩
  intro i changed value' records' hi hlogs' h'
  have hsome' : values.set i changed ≠ [] := by
    rw [List.ne_nil_iff_length_pos, List.length_set]
    omega
  obtain ⟨groups', hgroups', rfl⟩ := (receipt_eq_ok_iff hlogs' hsome').mp h'
  obtain ⟨own, hown, rfl⟩ := hgroups.eq_set hi hgroups'
  rw [Nat.zero_add] at hown
  exact ⟨own, hown, rfl⟩

end Narration

/-- The entry of a receipt with one topic and data. -/
def plainEntry (topic : Text) (data : List UInt8) : Value :=
  .mapping [("topics", .list [.text topic]), ("data", .bytes data), ("logIndex", .int 7)]

/-- A receipt with a trade of two orders, a log without data and a log of an unknown topic. -/
def mixedEntries : List Value :=
  [plainEntry "0xaa" tradeLog.data, plainEntry "0xaa" [], plainEntry "0xbb" [0xC0]]

/-- A receipt with the entries. -/
def receiptOf (entries : List Value) : Value := .mapping [("logs", .list entries)]

theorem receipt_splits_into_groups_of_mixed_logs :
    ∃ (records : List Record) (groups : List (List Record)),
      (Narration.receipt tradeTable (orderNode []) (receiptOf mixedEntries) (some "0x11")).outcome =
        .ok records ∧
      records.map Record.kind = [.logHeader, .error, .error, .matchedPrice, .logHeader, .skipped,
        .logHeader, .unknownTopic] ∧
      records = groups.flatten ∧
      Narration.AreGroups tradeTable (orderNode []) (some "0x11") 0 mixedEntries groups := by
  have hkinds :
      (Narration.receipt tradeTable (orderNode []) (receiptOf mixedEntries)
        (some "0x11")).outcome.toOption.map (List.map Record.kind) =
      some [.logHeader, .error, .error, .matchedPrice, .logHeader, .skipped, .logHeader,
        .unknownTopic] := by decide +kernel
  have hlogs : ((receiptOf mixedEntries).field "logs" >>= Value.itemsOrNone) =
      .ok mixedEntries := rfl
  obtain ⟨records, hok, hkinds⟩ := exists_ok_of_kinds hkinds
  obtain ⟨groups, hgroups, hrecords⟩ :=
    ((Narration.receipt_splits_into_groups hlogs (by simp [mixedEntries])).1 records).mp hok
  exact ⟨records, groups, hok, hkinds, hrecords, hgroups⟩

end OrderNarration
