import OrderNarration.Narration.Receipt
import OrderNarration.Proofs.Runs

/-!
# Events within a receipt

While a receipt is narrated the node is asked for orders and for nothing else, and
what is noted comes from the parts below the walker. So what a scan notes on its
own behalf, and which blocks and receipts it asks for, is settled by the scan alone.
-/

namespace OrderNarration

namespace Run

variable {α β : Type} {P : Event → Prop} {r : Run α}

/-- All events of a run have a property. -/
def Keeps (P : Event → Prop) (r : Run α) : Prop := ∀ e ∈ r.events, P e

theorem Keeps.imp {Q : Event → Prop} (h : Keeps P r) (hPQ : ∀ e, P e → Q e) : Keeps Q r :=
  fun e he => hPQ e (h e he)

theorem keeps_pure (a : α) : Keeps P (pure a : Run α) := by
  intro e he
  simp at he

theorem keeps_ofExcept (x : Except Fault α) : Keeps P (ofExcept x) := by
  intro e he
  simp at he

theorem keeps_fail (e : Fault) : Keeps P (fail e : Run α) := by
  intro e he
  simp at he

theorem keeps_note {source : Source} {level : Logging.Level} {message : Text}
    (h : P (.noted ⟨source, level, message⟩)) : Keeps P (note source level message) := by
  intro e he
  obtain rfl := List.mem_singleton.mp he
  exact h

theorem keeps_attempt (h : Keeps P r) : Keeps P r.attempt := h

theorem keeps_map (f : α → β) (h : Keeps P r) : Keeps P (f <$> r) := h

theorem keeps_bind {f : α → Run β} (h : Keeps P r) (hf : ∀ a, Keeps P (f a)) :
    Keeps P (r >>= f) := by
  intro e he
  rw [events_bind] at he
  rcases List.mem_append.mp he with hfirst | hrest
  · exact h e hfirst
  · cases houtcome : r.outcome with
    | ok a =>
        rw [houtcome] at hrest
        exact hf a e hrest
    | error fault => simp [houtcome] at hrest

end Run

/-- A lookup leaves the question, and a note if there is no answer. -/
theorem Node.ask_events (node : Node) (lookup : Lookup) :
    (node.ask lookup).Keeps fun e =>
      e = .asked lookup ∨ e = .noted ⟨.nodeClient, .debug, lookup.absenceNote⟩ := by
  intro e he
  unfold ask at he
  dsimp only at he
  split at he
  · simpa using he
  · exact Or.inl (List.mem_singleton.mp he)
  · exact Or.inl (List.mem_singleton.mp he)
  · split at he
    · simpa using he
    · exact Or.inl (List.mem_singleton.mp he)

/-- The events that the narration of a receipt can leave. -/
def Event.isWithinReceipt : Event → Bool
  | asked (.transaction _) => true
  | asked _ => false
  | noted d => d.source ≠ .walker

namespace Narration

open Run

/-- The run leaves only events that the narration of a receipt can leave. -/
abbrev StaysWithinReceipt {α : Type} (r : Run α) : Prop := r.Keeps fun e => e.isWithinReceipt

variable (topics : TopicTable) (node : Node)

theorem find_staysWithinReceipt (hash : Text) : StaysWithinReceipt (Resolution.find node hash) := by
  apply keeps_bind
  · intro e he
    rcases node.ask_events _ e he with rfl | rfl
    · rfl
    · rfl
  · intro found
    cases found with
    | none => exact keeps_fail _
    | some transaction => exact keeps_ofExcept _

theorem resolve_staysWithinReceipt (hash : Text) :
    StaysWithinReceipt (Resolution.resolve node hash) := by
  rw [Resolution.resolve]
  refine keeps_bind (keeps_note rfl) fun _ => ?_
  apply keeps_bind (keeps_attempt (find_staysWithinReceipt node hash))
  intro result
  cases result with
  | ok intent => exact keeps_bind (keeps_note rfl) fun _ => keeps_pure _
  | error e =>
      dsimp only
      split
      · exact keeps_bind (keeps_note rfl) fun _ => keeps_pure _
      · exact keeps_bind (keeps_note rfl) fun _ => keeps_pure _
      · split
        · exact keeps_bind (keeps_note rfl) fun _ => keeps_pure _
        · exact keeps_fail _

theorem leg_staysWithinReceipt (record : RecordKind → Text → Entries Value → Record) (l : Leg)
    (hash : Text) : StaysWithinReceipt (leg node record l hash) := by
  rw [leg]
  apply keeps_bind (resolve_staysWithinReceipt node hash)
  intro resolution
  split
  · exact keeps_bind (keeps_ofExcept _) fun _ => keeps_pure _
  · exact keeps_pure _

theorem payload_staysWithinReceipt (record : RecordKind → Text → Entries Value → Record)
    (p : Payload) : StaysWithinReceipt (payload node record p) := by
  cases p with
  | trade t =>
      refine keeps_bind (keeps_note rfl) fun _ => ?_
      apply keeps_bind (leg_staysWithinReceipt node record .buy t.buyHash)
      intro _
      exact keeps_bind (leg_staysWithinReceipt node record .sell t.sellHash) fun _ => keeps_pure _
  | triggered ids => exact keeps_pure _
  | canceled ids => exact keeps_pure _
  | empty => exact keeps_pure _

theorem classify_staysWithinReceipt (topic : Value) :
    StaysWithinReceipt (topics.classify topic) := by
  rw [TopicTable.classify]
  split
  · exact keeps_pure _
  · exact keeps_pure _
  · exact keeps_bind (keeps_note rfl) fun _ => keeps_pure _

theorem log_staysWithinReceipt (log : EventLog) (given : Value) :
    StaysWithinReceipt (Narration.log topics node log given) := by
  rw [Narration.log]
  apply keeps_bind (classify_staysWithinReceipt topics log.mainTopic)
  intro classification
  refine keeps_bind (keeps_ofExcept _) fun place => ?_
  refine keeps_bind (keeps_note rfl) fun _ => ?_
  split
  · exact keeps_bind (keeps_note rfl) fun _ => keeps_pure _
  · split
    · exact keeps_pure _
    · split
      · exact keeps_bind (keeps_note rfl) fun _ => keeps_pure _
      · split
        · exact payload_staysWithinReceipt node _ _
        · exact keeps_bind (keeps_note rfl) fun _ => keeps_pure _

theorem entry_staysWithinReceipt (hash : Option Text) (position : Nat) (value : Value) :
    StaysWithinReceipt (entry topics node hash position value) := by
  rw [entry]
  refine keeps_bind (keeps_ofExcept _) fun log => ?_
  apply keeps_bind (classify_staysWithinReceipt topics _)
  intro _
  exact keeps_bind (log_staysWithinReceipt topics node _ _) fun _ => keeps_pure _

theorem entriesFrom_staysWithinReceipt (hash : Option Text) (position : Nat)
    (values : List Value) :
    StaysWithinReceipt (entriesFrom topics node hash position values) := by
  induction values generalizing position with
  | nil => exact keeps_pure _
  | cons v rest ih =>
      apply keeps_bind (entry_staysWithinReceipt topics node hash position v)
      intro _
      exact keeps_map _ (ih (position + 1))

/-- The narration of a receipt asks only for orders, and none of its notes is the walker's. -/
theorem receipt_staysWithinReceipt (value : Value) (hash : Option Text) :
    StaysWithinReceipt (receipt topics node value hash) := by
  rw [receipt]
  refine keeps_bind (keeps_ofExcept _) fun logs => ?_
  cases logs with
  | nil => exact keeps_pure _
  | cons v rest => exact entriesFrom_staysWithinReceipt topics node hash 0 (v :: rest)

end Narration

end OrderNarration
