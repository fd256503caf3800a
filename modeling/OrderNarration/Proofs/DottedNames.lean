import Mathlib.Algebra.Ring.Parity
import OrderNarration.Logging.Routing

/-!
# Dotted names

The loggers above a name are found by reading the name backwards. As long as no logger has a
name with a dot at its end, they are the loggers with the names that the name is below, in
whatever order the loggers were made.

## Implementation notes

Where no two dots of a name are next to each other, every dot separates. Of several dots in a
row only every second one does, counted from the last, so what stands before an even number
of dots is not above the name.
-/

namespace OrderNarration.Logging

/-- The separator of names. -/
def dot : CodePoint := .scalar '.'

/-- The name is below the other one: it continues the other one with an odd number of dots. -/
def IsBelow (above name : Text) : Prop :=
  above <+: name ∧ Odd ((name.drop above.length).takeWhile (· = dot)).length

instance : DecidableRel IsBelow := fun above name =>
  inferInstanceAs (Decidable (above <+: name ∧ Odd _))

/-- The name is the other one or below it. -/
def IsUnder (above name : Text) : Prop := name = above ∨ IsBelow above name

instance : DecidableRel IsUnder := fun above name =>
  inferInstanceAs (Decidable (name = above ∨ IsBelow above name))

variable {above name rest : Text} {c d : CodePoint}

theorem isBelow_append_iff :
    IsBelow above (above ++ rest) ↔ Odd (rest.takeWhile (· = dot)).length := by
  rw [IsBelow, List.drop_left]
  exact and_iff_right (List.prefix_append above rest)

/-- A name begins with the names above it. -/
theorem IsUnder.begins (h : IsUnder above name) : above <+: name := by
  rcases h with rfl | h
  · exact List.prefix_rfl
  · exact h.1

theorem not_isBelow_self : ¬ IsBelow name name := by
  intro h
  rw [← List.append_nil name, IsBelow, List.append_nil, List.drop_length] at h
  exact absurd h.2 (by decide)

/-- Below a name are the names that continue it with a dot, unless there are two dots in a row. -/
theorem isBelow_iff_of_single (single : ∀ before after, name ≠ before ++ dot :: dot :: after) :
    IsBelow above name ↔ above ++ [dot] <+: name := by
  constructor
  · rintro ⟨⟨rest, rfl⟩, hodd⟩
    rw [List.drop_left] at hodd
    cases rest with
    | nil => exact absurd hodd (by decide)
    | cons c rest =>
        by_cases hc : c = dot
        · exact hc ▸ ⟨rest, by simp⟩
        · rw [List.takeWhile_cons_of_neg (by simpa using hc)] at hodd
          exact absurd hodd (by decide)
  · rintro ⟨rest, rfl⟩
    rw [List.append_assoc, isBelow_append_iff, List.singleton_append,
      List.takeWhile_cons_of_pos (by simp)]
    cases rest with
    | nil => decide
    | cons c rest =>
        have hc : c ≠ dot := by
          rintro rfl
          exact single above rest (by simp)
        rw [List.takeWhile_cons_of_neg (by simpa using hc)]
        decide

example : IsBelow "order_decoder" "order_decoder.services.base" := by decide +kernel
example : ¬ IsBelow "order_decoder" "order_decoder..base" := by decide +kernel

section Concat

theorem takeWhile_concat_of_ne (hc : c ≠ dot) :
    (rest ++ [c]).takeWhile (· = dot) = rest.takeWhile (· = dot) := by
  induction rest with
  | nil => simp [hc]
  | cons d rest ih =>
      by_cases hd : d = dot
      · simp [hd, ih]
      · simp [hd]

/-- A code point that is no dot changes nothing at the end of a name. -/
theorem isBelow_concat_of_ne (hc : c ≠ dot) : IsBelow above (name ++ [c]) ↔ IsBelow above name := by
  by_cases h : above <+: name
  · obtain ⟨rest, rfl⟩ := h
    rw [List.append_assoc, isBelow_append_iff, isBelow_append_iff, takeWhile_concat_of_ne hc]
  · refine iff_of_false (fun hbelow => ?_) (fun hbelow => h hbelow.1)
    obtain rfl := (List.prefix_concat_iff.mp hbelow.1).resolve_right h
    exact not_isBelow_self hbelow

/-- A single dot at the end of a name puts it below the name without the dot, and changes nothing
else. -/
theorem isBelow_concat_dot (hd : d ≠ dot) :
    IsBelow above (name ++ [d] ++ [dot]) ↔ above = name ++ [d] ∨ IsBelow above (name ++ [d]) := by
  by_cases h : above <+: name ++ [d]
  · rcases List.prefix_concat_iff.mp h with rfl | h
    · rw [isBelow_append_iff]
      exact iff_of_true (by decide) (.inl rfl)
    · obtain ⟨rest, rfl⟩ := h
      have hdots : (rest ++ ([d] ++ [dot])).takeWhile (· = dot) = rest.takeWhile (· = dot) := by
        induction rest with
        | nil => simp [hd]
        | cons c rest ih => by_cases hc : c = dot <;> simp_all
      have hother : above ≠ above ++ rest ++ [d] := by
        intro heq
        simpa using congrArg List.length heq
      rw [or_iff_right hother, isBelow_concat_of_ne hd, isBelow_append_iff, List.append_assoc,
        List.append_assoc, isBelow_append_iff, hdots]
  · refine iff_of_false (fun hbelow => ?_) ?_
    · obtain rfl := (List.prefix_concat_iff.mp hbelow.1).resolve_right h
      exact not_isBelow_self hbelow
    · rintro (rfl | hbelow)
      · exact h List.prefix_rfl
      · exact h hbelow.1

/-- Two dots at the end of a name change nothing for names that do not end with a dot. -/
theorem isBelow_concat_dots (hend : above.getLast? ≠ some dot) :
    IsBelow above (name ++ [dot] ++ [dot]) ↔ IsBelow above name := by
  by_cases h : above <+: name
  · obtain ⟨rest, rfl⟩ := h
    rw [List.append_assoc, List.append_assoc, isBelow_append_iff, isBelow_append_iff]
    have hdots : Odd ((rest ++ ([dot] ++ [dot])).takeWhile (· = dot)).length ↔
        Odd (rest.takeWhile (· = dot)).length := by
      induction rest with
      | nil => decide
      | cons c rest ih => by_cases hc : c = dot <;> simp_all [Nat.odd_add_one]
    exact hdots
  · refine iff_of_false (fun hbelow => ?_) (fun hbelow => h hbelow.1)
    rcases List.prefix_concat_iff.mp hbelow.1 with rfl | hshort
    · exact not_isBelow_self hbelow
    · obtain rfl := (List.prefix_concat_iff.mp hshort).resolve_right h
      exact hend (by simp)

end Concat

namespace Routing

variable {r : Routing}

/-- No logger has a name with a dot at its end. -/
def Undotted (r : Routing) : Prop := ∀ name, r.knows name = true → name.getLast? ≠ some dot

/-- What is above a name begins the name. -/
theorem prefix_of_mem_aboveFrom {reversed : Text} (h : above ∈ r.aboveFrom reversed) :
    above <+: reversed.reverse := by
  fun_induction aboveFrom r reversed with
  | case1 d rest _ hknown ih =>
      rw [List.reverse_cons]
      rcases List.mem_cons.mp h with rfl | h
      · exact List.prefix_append _ _
      · exact (ih h).trans (List.prefix_append _ _)
  | case2 d rest _ hunknown ih =>
      rw [List.reverse_cons, List.reverse_cons, List.append_assoc]
      exact (ih h).trans (List.prefix_append _ _)
  | case3 c d rest hc ih =>
      rw [List.reverse_cons]
      exact (ih h).trans (List.prefix_append _ _)
  | case4 => cases h

/-- The loggers above a name are those that it is below. -/
theorem mem_aboveFrom_iff (undotted : r.Undotted) (known : r.knows above = true)
    (nonempty : above ≠ []) {reversed : Text} :
    above ∈ r.aboveFrom reversed ↔ IsBelow above reversed.reverse := by
  have hend := undotted above known
  -- by the steps of the scan, each of which takes one or two code points off the end of the name
  fun_induction aboveFrom r reversed with
  | case1 d rest stem hknown ih =>
      have hd : d ≠ dot := by
        rintro rfl
        exact undotted _ hknown (by simp [stem])
      have hstem : stem = rest.reverse ++ [d] := List.reverse_cons
      rw [List.mem_cons, List.reverse_cons, List.reverse_cons]
      refine Iff.trans ?_ (isBelow_concat_dot hd).symm
      rw [← hstem]
      exact or_congr_right ih
  | case2 d rest stem hunknown ih =>
      refine Iff.trans ih ?_
      rw [List.reverse_cons, List.reverse_cons]
      by_cases hd : d = dot
      · rw [hd]
        exact (isBelow_concat_dots hend).symm
      · have hstem : stem = rest.reverse ++ [d] := List.reverse_cons
        have hother : above ≠ rest.reverse ++ [d] := fun heq =>
          hunknown (hstem.trans heq.symm ▸ known)
        refine Iff.trans ?_ (isBelow_concat_dot hd).symm
        rw [or_iff_right hother, isBelow_concat_of_ne hd]
  | case3 c d rest hc ih =>
      refine Iff.trans ih ?_
      rw [List.reverse_cons (a := c), isBelow_concat_of_ne hc]
  | case4 reversed hshort =>
      refine iff_of_false List.not_mem_nil ?_
      match reversed, hshort with
      | [], _ => exact fun h => nonempty (List.prefix_nil.mp h.1)
      | [c], _ =>
          intro h
          have hsingle : above <+: [] ++ [c] := h.1
          rcases List.prefix_concat_iff.mp hsingle with heq | hnil
          · exact not_isBelow_self (heq ▸ h)
          · exact nonempty (List.prefix_nil.mp hnil)
      | c :: d :: rest, hshort => exact absurd rfl (hshort c d rest)

theorem mem_path_iff (undotted : r.Undotted) (known : r.knows above = true)
    (nonempty : above ≠ []) : above ∈ r.path name ↔ IsUnder above name := by
  rw [path, List.mem_cons, mem_aboveFrom_iff undotted known nonempty, List.reverse_reverse, eq_comm,
    IsUnder]

theorem prefix_of_mem_path (h : above ∈ r.path name) : above <+: name := by
  rcases List.mem_cons.mp h with rfl | h
  · exact List.prefix_rfl
  · exact name.reverse_reverse ▸ prefix_of_mem_aboveFrom h

end Routing

end OrderNarration.Logging
