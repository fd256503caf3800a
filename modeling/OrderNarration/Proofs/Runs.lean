import Mathlib.Data.List.Forall2
import OrderNarration.Node

/-!
# Laws of runs

How the outcome and the events of a composed run follow from those of its parts.
An outcome composes like any result that may be a fault; the events of the second
part follow those of the first one unless the first one ends with a fault.
-/

namespace OrderNarration

namespace Outcome

variable {ε ε' : Type w} {α β : Type u}

@[simp] theorem pure_eq_ok (a : α) : (pure a : Except ε α) = .ok a := rfl

@[simp] theorem ok_bind (a : α) (f : α → Except ε β) :
    (Except.ok a >>= f) = f a := rfl

@[simp] theorem error_bind (e : ε) (f : α → Except ε β) :
    ((Except.error e : Except ε α) >>= f) = .error e := rfl

theorem bind_eq_ok_iff {x : Except ε α} {f : α → Except ε β} {b : β} :
    (x >>= f) = .ok b ↔ ∃ a, x = .ok a ∧ f a = .ok b := by
  cases x with
  | error e => simp
  | ok a => simp

theorem bind_eq_error_iff {x : Except ε α} {f : α → Except ε β} {e : ε} :
    (x >>= f) = .error e ↔ x = .error e ∨ ∃ a, x = .ok a ∧ f a = .error e := by
  cases x with
  | error d => simp
  | ok a => simp

@[simp] theorem mapError_ok (f : ε → ε') (a : α) :
    (Except.ok a : Except ε α).mapError f = .ok a := rfl

@[simp] theorem mapError_error (f : ε → ε') (e : ε) :
    (Except.error e : Except ε α).mapError f = .error (f e) := rfl

theorem mapError_eq_ok_iff {f : ε → ε'} {x : Except ε α} {a : α} :
    x.mapError f = .ok a ↔ x = .ok a := by
  cases x with
  | error e => simp
  | ok b => simp

theorem mapError_eq_error_iff {f : ε → ε'} {x : Except ε α} {e : ε'} :
    x.mapError f = .error e ↔ ∃ d, x = .error d ∧ f d = e := by
  cases x with
  | error d => simp
  | ok b => simp

@[simp] theorem map_ok (f : α → β) (a : α) :
    (f <$> (Except.ok a : Except ε α)) = .ok (f a) := rfl

@[simp] theorem map_error (f : α → β) (e : ε) :
    (f <$> (Except.error e : Except ε α)) = .error e := rfl

theorem map_eq_ok_iff {f : α → β} {x : Except ε α} {b : β} :
    f <$> x = .ok b ↔ ∃ a, x = .ok a ∧ f a = b := by
  cases x with
  | error e => simp
  | ok a => simp

theorem exists_map_eq_ok_iff {f : α → β} {x : Except ε α} :
    (∃ b, f <$> x = .ok b) ↔ ∃ a, x = .ok a := by
  cases x with
  | error e => simp
  | ok a => simp

/-- A result can be told from what is seen of it. -/
theorem exists_ok_of_view {x : Except ε α} {view : α → β} {b : β}
    (h : x.toOption.map view = some b) : ∃ a, x = .ok a ∧ view a = b := by
  cases x with
  | ok a => exact ⟨a, rfl, Option.some.inj h⟩
  | error e => cases h

theorem eq_ok_of_toOption {x : Except ε α} {a : α} (h : x.toOption = some a) : x = .ok a := by
  cases x with
  | ok other => exact congrArg _ (Option.some.inj h)
  | error e => cases h

/-- Items that each have a result have one together. -/
theorem mapM_eq_ok {f : α → Except ε β} {items : List α}
    (h : ∀ a ∈ items, ∃ b, f a = .ok b) : ∃ results, items.mapM f = .ok results := by
  induction items with
  | nil => exact ⟨[], rfl⟩
  | cons a rest ih =>
      obtain ⟨b, hb⟩ := h a List.mem_cons_self
      obtain ⟨results, hresults⟩ := ih fun c hc => h c (List.mem_cons_of_mem _ hc)
      exact ⟨b :: results, by simp [List.mapM_cons, hb, hresults]⟩

/-- Items that fail together do so with the fault of one of them. -/
theorem exists_of_mapM_eq_error {f : α → Except ε β} {items : List α} {e : ε}
    (h : items.mapM f = .error e) : ∃ a ∈ items, f a = .error e := by
  induction items with
  | nil => cases h
  | cons a rest ih =>
      rw [List.mapM_cons] at h
      rcases bind_eq_error_iff.mp h with ha | ⟨b, -, h⟩
      · exact ⟨a, List.mem_cons_self, ha⟩
      · rcases bind_eq_error_iff.mp h with hrest | ⟨others, -, hok⟩
        · obtain ⟨c, hc, hfault⟩ := ih hrest
          exact ⟨c, List.mem_cons_of_mem _ hc, hfault⟩
        · cases hok

/-- Results together are the results of the items, one by one. -/
theorem mapM_eq_ok_iff {f : α → Except ε β} {items : List α} {results : List β} :
    items.mapM f = .ok results ↔ List.Forall₂ (fun a b => f a = .ok b) items results := by
  induction items generalizing results with
  | nil => simp [eq_comm]
  | cons a rest ih =>
      simp only [List.mapM_cons, bind_eq_ok_iff, ih, pure_eq_ok, Except.ok.injEq]
      constructor
      · rintro ⟨b, hb, others, hothers, rfl⟩
        exact .cons hb hothers
      · intro h
        cases h with
        | cons hb hothers => exact ⟨_, hb, _, hothers, rfl⟩

end Outcome

namespace Run

variable {α β : Type u}

@[simp] theorem outcome_pure (a : α) : (pure a : Run α).outcome = .ok a := rfl

@[simp] theorem events_pure (a : α) : (pure a : Run α).events = [] := rfl

@[simp] theorem outcome_bind (r : Run α) (f : α → Run β) :
    (r >>= f).outcome = r.outcome >>= fun a => (f a).outcome := by
  change (r.andThen f).outcome = _
  rw [andThen]
  cases r.outcome <;> rfl

/-- The second part of a run leaves events only if the first part has a result. -/
theorem events_bind (r : Run α) (f : α → Run β) :
    (r >>= f).events =
      r.events ++ (match r.outcome with
        | .ok a => (f a).events
        | .error _ => []) := by
  change (r.andThen f).events = _
  rw [andThen]
  cases r.outcome <;> simp

theorem events_bind_of_ok {r : Run α} {a : α} (h : r.outcome = .ok a) (f : α → Run β) :
    (r >>= f).events = r.events ++ (f a).events := by
  rw [events_bind, h]

@[simp] theorem outcome_map (f : α → β) (r : Run α) :
    (f <$> r).outcome = f <$> r.outcome := rfl

@[simp] theorem events_map (f : α → β) (r : Run α) : (f <$> r).events = r.events := rfl

@[simp] theorem outcome_ite (c : Prop) [Decidable c] (r s : Run α) :
    (if c then r else s).outcome = if c then r.outcome else s.outcome := by
  split <;> rfl

@[simp] theorem events_ite (c : Prop) [Decidable c] (r s : Run α) :
    (if c then r else s).events = if c then r.events else s.events := by
  split <;> rfl

@[simp] theorem outcome_fail (e : Fault) : (fail e : Run α).outcome = .error e := rfl

@[simp] theorem events_fail (e : Fault) : (fail e : Run α).events = [] := rfl

@[simp] theorem outcome_ofExcept (x : Except Fault α) : (ofExcept x).outcome = x := rfl

@[simp] theorem events_ofExcept (x : Except Fault α) : (ofExcept x).events = [] := rfl

@[simp] theorem outcome_attempt (r : Run α) : r.attempt.outcome = .ok r.outcome := rfl

@[simp] theorem events_attempt (r : Run α) : r.attempt.events = r.events := rfl

@[simp] theorem outcome_note (source : Source) (level : Logging.Level) (message : Text) :
    (note source level message).outcome = .ok () := rfl

@[simp] theorem events_note (source : Source) (level : Logging.Level) (message : Text) :
    (note source level message).events = [.noted ⟨source, level, message⟩] := rfl

section Lookups

@[simp] theorem lookups_pure (a : α) : (pure a : Run α).lookups = [] := rfl

@[simp] theorem lookups_ofExcept (x : Except Fault α) : (ofExcept x).lookups = [] := rfl

@[simp] theorem lookups_map (f : α → β) (r : Run α) : (f <$> r).lookups = r.lookups := rfl

@[simp] theorem lookups_attempt (r : Run α) : r.attempt.lookups = r.lookups := rfl

@[simp] theorem lookups_note (source : Source) (level : Logging.Level) (message : Text) :
    (note source level message).lookups = [] := rfl

/-- The lookups of the second part of a run come after those of the first. -/
theorem lookups_bind (r : Run α) (f : α → Run β) :
    (r >>= f).lookups =
      r.lookups ++ (match r.outcome with
        | .ok a => (f a).lookups
        | .error _ => []) := by
  rw [lookups, events_bind, List.filterMap_append]
  cases r.outcome with
  | ok a => rfl
  | error e => rfl

theorem lookups_bind_of_ok {r : Run α} {a : α} (h : r.outcome = .ok a) (f : α → Run β) :
    (r >>= f).lookups = r.lookups ++ (f a).lookups := by
  rw [lookups_bind, h]

/-- A run whose second part asks nothing asks what its first part asks. -/
theorem lookups_bind_of_silent {r : Run α} {f : α → Run β} (h : ∀ a, (f a).lookups = []) :
    (r >>= f).lookups = r.lookups := by
  rw [lookups_bind]
  cases r.outcome with
  | ok a => simp [h a]
  | error e => simp

end Lookups

end Run

end OrderNarration
