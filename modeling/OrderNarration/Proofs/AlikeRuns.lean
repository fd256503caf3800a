import OrderNarration.Narration.Scan
import OrderNarration.Proofs.Runs

/-!
# Runs side by side

Two runs are alike if they leave the same events and end in the same fault or with related
results. Runs that are composed of alike parts are alike, and they are equal if related
results are taken on in the same way.
-/

namespace OrderNarration

namespace Outcome

/-- The same fault, or two related results. -/
inductive Alike {ε : Type w} {α β : Type u} (R : α → β → Prop) :
    Except ε α → Except ε β → Prop
  | ok {a : α} {b : β} (h : R a b) : Alike R (.ok a) (.ok b)
  | error (e : ε) : Alike R (.error e) (.error e)

variable {ε ε' : Type w} {α β γ δ : Type u} {R : α → β → Prop} {S : γ → δ → Prop}
  {x : Except ε α} {y : Except ε β}

theorem Alike.refl {R : α → α → Prop} (h : ∀ a, R a a) (x : Except ε α) : Alike R x x := by
  cases x with
  | ok a => exact .ok (h a)
  | error e => exact .error e

theorem Alike.mapError (f : ε → ε') (h : Alike R x y) :
    Alike R (x.mapError f) (y.mapError f) := by
  cases h with
  | ok h => exact .ok h
  | error e => exact .error (f e)

theorem Alike.bind {f : α → Except ε γ} {g : β → Except ε δ} (h : Alike R x y)
    (hf : ∀ a b, R a b → Alike S (f a) (g b)) : Alike S (x >>= f) (y >>= g) := by
  cases h with
  | ok h => exact hf _ _ h
  | error e => exact .error e

theorem Alike.eq {x y : Except ε γ} (h : Alike Eq x y) : x = y := by
  cases h with
  | ok h => rw [h]
  | error e => rfl

theorem Alike.bind_eq {f : α → Except ε γ} {g : β → Except ε γ} (h : Alike R x y)
    (hf : ∀ a b, R a b → f a = g b) : x >>= f = y >>= g := by
  apply Alike.eq
  refine h.bind fun a b hab => ?_
  rw [hf a b hab]
  exact .refl (fun _ => rfl) _

/-- Items with the same results one by one have the same results together. -/
theorem mapM_congr {f : α → Except ε γ} {g : β → Except ε γ} {items : List α} {others : List β}
    (h : List.Forall₂ (fun a b => f a = g b) items others) : items.mapM f = others.mapM g := by
  induction h with
  | nil => rfl
  | cons hfirst _ ih => rw [List.mapM_cons, List.mapM_cons, hfirst, ih]

end Outcome

namespace Run

variable {α β γ δ : Type u} {R : α → β → Prop} {S : γ → δ → Prop} {r : Run α} {r' : Run β}

/-- The runs leave the same events, and end in the same fault or with related results. -/
structure Alike (R : α → β → Prop) (r : Run α) (r' : Run β) : Prop where
  outcome : Outcome.Alike R r.outcome r'.outcome
  events : r.events = r'.events

theorem alike_fail (e : Fault) : Alike R (fail e) (fail e) := ⟨.error e, rfl⟩

theorem alike_ofExcept {x : Except Fault α} {y : Except Fault β} (h : Outcome.Alike R x y) :
    Alike R (ofExcept x) (ofExcept y) := ⟨h, rfl⟩

theorem Alike.attempt (h : Alike R r r') :
    Alike (Outcome.Alike R) r.attempt r'.attempt := ⟨.ok h.outcome, h.events⟩

theorem Alike.bind {f : α → Run γ} {g : β → Run δ} (h : Alike R r r')
    (hf : ∀ a b, R a b → Alike S (f a) (g b)) : Alike S (r >>= f) (r' >>= g) := by
  obtain ⟨outcome, events⟩ := r
  obtain ⟨outcome', events'⟩ := r'
  obtain ⟨houtcome, rfl⟩ := h
  cases houtcome with
  | ok h => exact ⟨(hf _ _ h).outcome, congrArg (events ++ ·) (hf _ _ h).events⟩
  | error e => exact ⟨.error e, rfl⟩

theorem Alike.eq {r r' : Run γ} (h : Alike Eq r r') : r = r' := by
  obtain ⟨outcome, events⟩ := r
  obtain ⟨outcome', events'⟩ := r'
  obtain ⟨houtcome, rfl⟩ := h
  have hsame : outcome = outcome' := houtcome.eq
  rw [hsame]

theorem Alike.bind_eq {f : α → Run γ} {g : β → Run γ} (h : Alike R r r')
    (hf : ∀ a b, R a b → f a = g b) : r >>= f = r' >>= g := by
  apply Alike.eq
  refine h.bind fun a b hab => ?_
  rw [hf a b hab]
  exact ⟨.refl (fun _ => rfl) _, rfl⟩

end Run

/-- A scan goes on in the same way after alike runs. -/
theorem Scan.after_congr {α β : Type} {R : α → β → Prop} {r : Run α} {r' : Run β}
    {next : α → Scan} {next' : β → Scan} (h : r.Alike R r')
    (hnext : ∀ a b, R a b → next a = next' b) : Scan.after r next = Scan.after r' next' := by
  obtain ⟨outcome, events⟩ := r
  obtain ⟨outcome', events'⟩ := r'
  obtain ⟨houtcome, rfl⟩ := h
  cases houtcome with
  | ok h => simp only [Scan.after, hnext _ _ h]
  | error e => rfl

end OrderNarration
