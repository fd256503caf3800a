import OrderNarration.Text.Basic

/-!
# Entries in the order of their keys

A finite map from texts that keeps its keys in the order in which they were
first given. Giving a key again replaces its value and keeps its place.
-/

namespace OrderNarration

/-- Keys with their values. -/
abbrev Entries (α : Type u) := List (Text × α)

namespace Entries

variable {α : Type u}

/-- Give a key a value: in its place if the key is there, else at the end. -/
def put (key : Text) (value : α) : Entries α → Entries α
  | [] => [(key, value)]
  | (k, v) :: rest => if k = key then (key, value) :: rest else (k, v) :: put key value rest

/-- The value of a key. -/
def get? (key : Text) : Entries α → Option α
  | [] => none
  | (k, v) :: rest => if k = key then some v else get? key rest

/-- Take away a key with its value. -/
def erase (key : Text) (entries : Entries α) : Entries α := entries.filter (·.1 != key)

/-- Give the keys their values one after another. -/
def ofPairs (pairs : List (Text × α)) : Entries α :=
  pairs.foldl (fun entries e => put e.1 e.2 entries) []

theorem get?_put (key other : Text) (value : α) (entries : Entries α) :
    get? other (put key value entries) =
      if other = key then some value else get? other entries := by
  induction entries with
  | nil => by_cases h : key = other <;> simp [put, get?, h, eq_comm]
  | cons e rest ih =>
    obtain ⟨k, v⟩ := e
    by_cases hk : k = key
    · subst hk
      by_cases h : k = other
      · subst h; simp [put, get?]
      · have h' : other ≠ k := fun e => h e.symm
        simp [put, get?, h, h']
    · by_cases h : k = other
      · subst h; simp [put, get?, hk]
      · simp [put, get?, hk, h, ih]

end Entries

end OrderNarration
