import OrderNarration.Proofs.Runs
import OrderNarration.Json.Reader

/-!
# Values that JSON can spell

The reader of JSON texts gives no byte strings, no decimal numbers and nothing
that has no text. This holds at every depth of the value it gives.
-/

namespace OrderNarration

/-- The values that a JSON text can spell. -/
inductive Value.IsJson : Value → Prop
  | null : IsJson .null
  | bool (b : Bool) : IsJson (.bool b)
  | int (n : Int) : IsJson (.int n)
  | float (x : Binary64) : IsJson (.float x)
  | text (t : Text) : IsJson (.text t)
  | list {items : List Value} (all : ∀ v ∈ items, IsJson v) : IsJson (.list items)
  | mapping {entries : Entries Value} (all : ∀ e ∈ entries, IsJson e.2) :
      IsJson (.mapping entries)

namespace Entries

variable {α : Type u}

theorem mem_put {key : Text} {value : α} {entries : Entries α} {e : Text × α}
    (h : e ∈ put key value entries) : e = (key, value) ∨ e ∈ entries := by
  induction entries with
  | nil => simpa [put] using h
  | cons first rest ih =>
      simp only [put] at h
      split at h
      · rcases List.mem_cons.mp h with rfl | hrest
        · exact Or.inl rfl
        · exact Or.inr (List.mem_cons_of_mem _ hrest)
      · rcases List.mem_cons.mp h with rfl | hrest
        · exact Or.inr List.mem_cons_self
        · exact (ih hrest).imp_right (List.mem_cons_of_mem _)

private theorem mem_foldl_put {e : Text × α} (pairs : List (Text × α)) (start : Entries α)
    (h : e ∈ pairs.foldl (fun entries p => put p.1 p.2 entries) start) :
    e ∈ start ∨ e ∈ pairs := by
  induction pairs generalizing start with
  | nil => exact Or.inl h
  | cons p rest ih =>
      rcases ih (put p.1 p.2 start) h with hput | hrest
      · rcases mem_put hput with rfl | hstart
        · exact Or.inr List.mem_cons_self
        · exact Or.inl hstart
      · exact Or.inr (List.mem_cons_of_mem _ hrest)

/-- Every entry comes from a pair that was given. -/
theorem mem_ofPairs {pairs : List (Text × α)} {e : Text × α} (h : e ∈ ofPairs pairs) :
    e ∈ pairs := by
  simpa using mem_foldl_put pairs [] h

theorem mem_of_get? {key : Text} {value : α} {entries : Entries α}
    (h : get? key entries = some value) : (key, value) ∈ entries := by
  induction entries with
  | nil => simp [get?] at h
  | cons first rest ih =>
      simp only [get?] at h
      split at h
      next hkey =>
        obtain rfl := Option.some.inj h
        simp [← hkey]
      next => exact List.mem_cons_of_mem _ (ih h)

end Entries

namespace Json

theorem readMagnitude_isJson {negative : Bool} {unread body rest : List Char} {v : Value}
    (h : readMagnitude negative unread body = .ok (v, rest)) : v.IsJson := by
  rw [readMagnitude] at h
  split at h
  · simp at h
  · dsimp only at h
    split at h
    · simp only [Except.ok.injEq, Prod.mk.injEq] at h
      exact h.1 ▸ .float _
    · split at h
      · simp only [Except.ok.injEq, Prod.mk.injEq] at h
        exact h.1 ▸ .float _
      · split at h
        · simp only [Except.ok.injEq, Prod.mk.injEq] at h
          exact h.1 ▸ .int _
        · simp at h

theorem names_isJson {entry : String × Value} (h : entry ∈ names) : entry.2.IsJson := by
  simp only [names, List.mem_cons, List.not_mem_nil, or_false] at h
  rcases h with rfl | rfl | rfl | rfl | rfl | rfl
  · exact .null
  · exact .bool _
  · exact .bool _
  all_goals exact .float _

theorem readAtom_isJson {cs rest : List Char} {v : Value} (h : readAtom cs = .ok (v, rest)) :
    v.IsJson := by
  unfold readAtom at h
  split at h
  next name found hfind =>
    simp only [Except.ok.injEq, Prod.mk.injEq] at h
    exact h.1 ▸ names_isJson (List.mem_of_find?_eq_some hfind)
  next => exact readMagnitude_isJson h

/-- The three nested readers give JSON values with every amount of fuel. -/
theorem readNested_isJson (fuel : Nat) :
    (∀ {cs v rest}, readValue fuel cs = .ok (v, rest) → v.IsJson) ∧
    (∀ {cs vs rest}, readItems fuel cs = .ok (vs, rest) → ∀ v ∈ vs, v.IsJson) ∧
    (∀ {cs entries rest}, readMembers fuel cs = .ok (entries, rest) →
      ∀ e ∈ entries, e.2.IsJson) := by
  induction fuel with
  | zero =>
      refine ⟨fun h => ?_, fun h => ?_, fun h => ?_⟩
      · simp [readValue] at h
      · simp [readItems] at h
      · simp [readMembers] at h
  | succ fuel ih =>
      obtain ⟨ihValue, ihItems, ihMembers⟩ := ih
      refine ⟨fun {cs v rest} h => ?_, fun {cs vs rest} h => ?_, fun {cs entries rest} h => ?_⟩
      · simp only [readValue] at h
        split at h
        · obtain ⟨read, -, hv⟩ := Outcome.bind_eq_ok_iff.mp h
          obtain ⟨rfl, rfl⟩ := Prod.mk.inj (Except.ok.inj hv)
          exact .text _
        · split at h
          · obtain ⟨rfl, rfl⟩ := Prod.mk.inj (Except.ok.inj h)
            exact .list (by simp)
          · obtain ⟨read, hread, hv⟩ := Outcome.bind_eq_ok_iff.mp h
            obtain ⟨rfl, rfl⟩ := Prod.mk.inj (Except.ok.inj hv)
            exact .list (ihItems hread)
        · split at h
          · obtain ⟨rfl, rfl⟩ := Prod.mk.inj (Except.ok.inj h)
            exact .mapping (by simp)
          · obtain ⟨read, hread, hv⟩ := Outcome.bind_eq_ok_iff.mp h
            obtain ⟨rfl, rfl⟩ := Prod.mk.inj (Except.ok.inj hv)
            exact .mapping fun e he => ihMembers hread e (Entries.mem_ofPairs he)
        · exact readAtom_isJson h
      · simp only [readItems] at h
        obtain ⟨first, hfirst, h⟩ := Outcome.bind_eq_ok_iff.mp h
        split at h
        · obtain ⟨rfl, rfl⟩ := Prod.mk.inj (Except.ok.inj h)
          simpa using ihValue hfirst
        · obtain ⟨others, hothers, hvs⟩ := Outcome.bind_eq_ok_iff.mp h
          obtain ⟨rfl, rfl⟩ := Prod.mk.inj (Except.ok.inj hvs)
          simpa using ⟨ihValue hfirst, ihItems hothers⟩
        · simp at h
      · simp only [readMembers] at h
        split at h
        · obtain ⟨name, -, h⟩ := Outcome.bind_eq_ok_iff.mp h
          split at h
          · obtain ⟨first, hfirst, h⟩ := Outcome.bind_eq_ok_iff.mp h
            split at h
            · obtain ⟨rfl, rfl⟩ := Prod.mk.inj (Except.ok.inj h)
              simpa using ihValue hfirst
            · obtain ⟨others, hothers, hentries⟩ := Outcome.bind_eq_ok_iff.mp h
              obtain ⟨rfl, rfl⟩ := Prod.mk.inj (Except.ok.inj hentries)
              exact List.forall_mem_cons.mpr ⟨ihValue hfirst, ihMembers hothers⟩
            · simp at h
          · simp at h
        · simp at h

/-- Every value that is read from a JSON text is a JSON value. -/
theorem read_isJson {cs : List Char} {v : Value} (h : read cs = .ok v) : v.IsJson := by
  unfold read at h
  split at h
  · simp at h
  · split at h
    next hall =>
      rw [readAll] at hall
      obtain ⟨⟨first, rest⟩, hfirst, hrest⟩ := Outcome.bind_eq_ok_iff.mp hall
      dsimp only at hrest
      split at hrest
      · obtain rfl := Except.ok.inj h
        obtain rfl := Except.ok.inj hrest
        exact (readNested_isJson _).1 hfirst
      · simp at hrest
    next => simp at h
    next => simp at h

end Json

end OrderNarration
