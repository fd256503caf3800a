import OrderNarration.Proofs.Spellings

/-!
# Lowercase texts

Lowercase is final: what the lowercase form of a text is made of stays as it is when the
form is taken again. It is no blank where the text had none, so blanks that were cut off do
not come back.

## Implementation notes

That no run of the case table meets the image of another one is checked run by run, and
member by member only where the bounds of the two leave it open.
-/

namespace OrderNarration

namespace CaseRun

/-- The numbers of a run. -/
def members (r : CaseRun) : List Nat :=
  (List.range ((r.last - r.first) / r.step + 1)).map fun k => r.first + r.step * k

/-- Where a run moves a number. -/
def image (r : CaseRun) (n : Nat) : Nat := (n + r.shift).toNat

/-- The bounds of a run leave it open whether the image of the first run meets it. -/
def mayMeet (r s : CaseRun) : Bool :=
  Nat.ble s.first (r.image r.last) && Nat.ble (r.image r.first) s.last

theorem mem_members {r : CaseRun} {n : Nat} (h : r.contains n = true) : n ∈ r.members := by
  simp only [contains, Bool.and_eq_true, decide_eq_true_eq, beq_iff_eq] at h
  obtain ⟨⟨hfirst, hlast⟩, hstep⟩ := h
  refine List.mem_map.mpr ⟨(n - r.first) / r.step, List.mem_range.mpr ?_, ?_⟩
  · exact Nat.lt_succ_of_le (Nat.div_le_div_right (Nat.sub_le_sub_right hlast _))
  · rw [Nat.mul_div_cancel' (Nat.dvd_of_mod_eq_zero hstep), Nat.add_sub_cancel' hfirst]

theorem mayMeet_of_contains_image {r s : CaseRun} {n : Nat} (h : r.contains n = true)
    (hs : s.contains (r.image n) = true) : r.mayMeet s = true := by
  simp only [contains, Bool.and_eq_true, decide_eq_true_eq] at h hs
  simp only [mayMeet, Bool.and_eq_true, Nat.ble_eq]
  simp only [image] at hs ⊢
  omega

/-- No run meets the image of a run of the table. -/
theorem contains_image_eq_false {r s : CaseRun} {n : Nat} (hr : r ∈ lowercase)
    (hs : s ∈ lowercase) (h : r.contains n = true) : s.contains (r.image n) = false := by
  have hchecked : (lowercase.all fun r => (lowercase.filter r.mayMeet).all fun s =>
      r.members.all fun n => !s.contains (r.image n)) = true := by decide +kernel
  by_contra hmeets
  rw [Bool.not_eq_false] at hmeets
  have hmay : s ∈ lowercase.filter r.mayMeet :=
    List.mem_filter.mpr ⟨hs, mayMeet_of_contains_image h hmeets⟩
  have hno := List.all_eq_true.mp
    (List.all_eq_true.mp (List.all_eq_true.mp hchecked r hr) s hmay) n (mem_members h)
  simp [hmeets] at hno

/-- The number is that of a character that is not blank and not the capital I with a dot. -/
def isPlain (n : Nat) : Bool :=
  (Char.ofNat n).toNat == n && n != 0x130 && !(CodePoint.scalar (Char.ofNat n)).isBlank

theorem isPlain_image {r : CaseRun} {n : Nat} (hr : r ∈ lowercase) (h : r.contains n = true) :
    isPlain (r.image n) = true := by
  have hchecked : (lowercase.all fun r => r.members.all fun n => isPlain (r.image n)) = true := by
    decide +kernel
  exact List.all_eq_true.mp (List.all_eq_true.mp hchecked r hr) n (mem_members h)

end CaseRun

namespace CodePoint

/-- A number stays as it is, or it moves to one that stays as it is. -/
theorem lowerNumber_cases (n : Nat) :
    lowerNumber n = n ∨
      lowerNumber (lowerNumber n) = lowerNumber n ∧ CaseRun.isPlain (lowerNumber n) = true := by
  cases hfind : CaseRun.lowercase.find? (·.contains n) with
  | none => exact .inl (by simp [lowerNumber, hfind])
  | some r =>
      have hr := List.mem_of_find?_eq_some hfind
      have hn : r.contains n = true := List.find?_some (p := fun r => CaseRun.contains r n) hfind
      have himage : lowerNumber n = r.image n := by simp [lowerNumber, hfind, CaseRun.image]
      have hfinal : CaseRun.lowercase.find? (·.contains (r.image n)) = none := by
        rw [List.find?_eq_none]
        intro s hs
        rw [CaseRun.contains_image_eq_false hr hs hn]
        exact Bool.false_ne_true
      right
      rw [himage]
      exact ⟨by simp [lowerNumber, hfinal], CaseRun.isPlain_image hr hn⟩

/-- The code point is its own lowercase form between any neighbours. -/
structure IsLowercase (c : CodePoint) : Prop where
  lower : c.lower = c
  notDotted : c ≠ .scalar 'İ'

theorem IsLowercase.ne_sigma {c : CodePoint} (h : c.IsLowercase) : c ≠ .scalar 'Σ' := by
  rintro rfl
  have hmoves : (scalar 'Σ').lower ≠ scalar 'Σ' := by decide +kernel
  exact hmoves h.lower

/-- The simple lowercase form is final, but for a capital I with a dot, which has none. It is
blank only if the code point is. -/
theorem lower_isLowercase {c : CodePoint} (hdotted : c ≠ .scalar 'İ') :
    c.lower.IsLowercase ∧ (c.isBlank = false → c.lower.isBlank = false) := by
  cases c with
  | surrogate k => exact ⟨⟨rfl, hdotted⟩, id⟩
  | scalar c =>
      rcases lowerNumber_cases c.toNat with hsame | ⟨hfinal, hplain⟩
      · have hlower : lower (.scalar c) = .scalar c := by rw [lower, hsame, Char.ofNat_toNat]
        rw [hlower]
        exact ⟨⟨hlower, hdotted⟩, id⟩
      · simp only [CaseRun.isPlain, Bool.and_eq_true, beq_iff_eq, bne_iff_ne, ne_eq,
          Bool.not_eq_true'] at hplain
        obtain ⟨⟨hnumber, hne⟩, hblank⟩ := hplain
        refine ⟨⟨?_, ?_⟩, fun _ => hblank⟩
        · rw [lower, lower, hnumber, hfinal]
        · intro heq
          rw [lower, scalar.injEq] at heq
          rw [← hnumber, heq] at hne
          exact hne rfl

end CodePoint

namespace Text

/-- What one code point becomes between its neighbours: never nothing, all of it lowercase, and
blank only if the code point is. -/
theorem lowerBetween_spec (before : Text) (c : CodePoint) (after : Text) :
    lowerBetween before c after ≠ [] ∧
      ∀ d ∈ lowerBetween before c after,
        d.IsLowercase ∧ (c.isBlank = false → d.isBlank = false) := by
  rw [lowerBetween]
  split
  · refine ⟨List.cons_ne_nil _ _, List.forall_mem_singleton.mpr ?_⟩
    split
    · exact ⟨⟨by decide +kernel, by decide⟩, fun _ => rfl⟩
    · exact ⟨⟨by decide +kernel, by decide⟩, fun _ => rfl⟩
  · split
    · refine ⟨List.cons_ne_nil _ _, List.forall_mem_cons.mpr ⟨?_, List.forall_mem_singleton.mpr ?_⟩⟩
      · exact ⟨⟨by decide +kernel, by decide⟩, fun _ => rfl⟩
      · exact ⟨⟨by decide +kernel, by decide⟩, fun _ => rfl⟩
    next hdotted =>
      exact ⟨List.cons_ne_nil _ _,
        List.forall_mem_singleton.mpr (CodePoint.lower_isLowercase hdotted)⟩

theorem lowerBetween_of_isLowercase {c : CodePoint} (h : c.IsLowercase) (before after : Text) :
    lowerBetween before c after = [c] := by
  rw [lowerBetween, if_neg h.ne_sigma, if_neg h.notDotted, h.lower]

/-- A text is its own lowercase form if all of its code points are. -/
theorem lowercase_of_isLowercase {t : Text} (h : ∀ c ∈ t, c.IsLowercase) : t.lowercase = t := by
  have hafter (before : Text) : lowercaseAfter before t = t := by
    induction t generalizing before with
    | nil => rfl
    | cons c rest ih =>
        obtain ⟨hc, hrest⟩ := List.forall_mem_cons.mp h
        rw [lowercaseAfter, lowerBetween_of_isLowercase hc, ih hrest, List.singleton_append]
  exact hafter []

theorem isLowercase_of_mem_lowercase {t : Text} : ∀ d ∈ t.lowercase, d.IsLowercase := by
  have hafter (before : Text) : ∀ d ∈ lowercaseAfter before t, d.IsLowercase := by
    induction t generalizing before with
    | nil => exact List.forall_mem_nil _
    | cons c rest ih =>
        rw [lowercaseAfter]
        exact List.forall_mem_append.mpr
          ⟨fun d hd => ((lowerBetween_spec before c rest).2 d hd).1, ih _⟩
  exact hafter []

/-- There is no blank at the ends of the text. -/
structure IsStripped (t : Text) : Prop where
  first : ∀ c ∈ t.head?, c.isBlank = false
  last : ∀ c ∈ t.getLast?, c.isBlank = false

/-- A text is what is left of it between the blanks that are cut from it. -/
theorem exists_blanks_strip (t : Text) :
    ∃ before after, (∀ c ∈ before, c.isBlank = true) ∧ (∀ c ∈ after, c.isBlank = true) ∧
      t.strip.IsStripped ∧ t = before ++ t.strip ++ after := by
  let front := t.dropWhile CodePoint.isBlank
  let blanks := front.reverse.takeWhile CodePoint.isBlank
  have hsplit : front = t.strip ++ blanks.reverse := by
    rw [strip, trim, ← List.reverse_append, List.takeWhile_append_dropWhile, List.reverse_reverse]
  have hblanks (l : Text) : ∀ c ∈ l.takeWhile CodePoint.isBlank, c.isBlank = true :=
    List.all_eq_true.mp List.all_takeWhile
  refine ⟨t.takeWhile CodePoint.isBlank, blanks.reverse, hblanks t,
    fun c hc => hblanks _ c (List.mem_reverse.mp hc), ⟨?_, ?_⟩, ?_⟩
  · intro c hc
    have hfront : c ∈ front.head? := by
      rw [hsplit, List.head?_append, hc]
      rfl
    have hcut := List.head?_dropWhile_not CodePoint.isBlank t
    rwa [show (t.dropWhile CodePoint.isBlank).head? = some c from hfront] at hcut
  · intro c hc
    rw [strip, trim, List.getLast?_reverse] at hc
    have hcut := List.head?_dropWhile_not CodePoint.isBlank front.reverse
    rwa [show (front.reverse.dropWhile CodePoint.isBlank).head? = some c from hc] at hcut
  · rw [List.append_assoc, ← hsplit, List.takeWhile_append_dropWhile]

theorem lowercaseAfter_ne_nil {before t : Text} (h : t ≠ []) : lowercaseAfter before t ≠ [] := by
  cases t with
  | nil => exact absurd rfl h
  | cons c rest => exact List.append_ne_nil_of_left_ne_nil (lowerBetween_spec before c rest).1 _

/-- The last code point comes from the last one, whatever stood before. -/
theorem isBlank_getLast?_lowercaseAfter {before t : Text}
    (h : ∀ c ∈ t.getLast?, c.isBlank = false) :
    ∀ d ∈ (lowercaseAfter before t).getLast?, d.isBlank = false := by
  induction t generalizing before with
  | nil => simp [lowercaseAfter]
  | cons c rest ih =>
      intro d hd
      rw [lowercaseAfter] at hd
      cases rest with
      | nil =>
          obtain ⟨-, hspec⟩ := lowerBetween_spec before c []
          rw [lowercaseAfter, List.append_nil] at hd
          exact (hspec d (List.mem_of_getLast? hd)).2 (h c rfl)
      | cons next rest =>
          have hne : lowercaseAfter (c :: before) (next :: rest) ≠ [] :=
            lowercaseAfter_ne_nil (List.cons_ne_nil _ _)
          rw [List.getLast?_append_of_ne_nil _ hne] at hd
          exact ih (by simpa using h) d hd

/-- The lowercase form of a text without blanks at its ends has none there either. -/
theorem IsStripped.lowercase {t : Text} (stripped : t.IsStripped) : t.lowercase.IsStripped := by
  refine ⟨fun d hd => ?_, isBlank_getLast?_lowercaseAfter stripped.last⟩
  cases t with
  | nil => simp [Text.lowercase, lowercaseAfter] at hd
  | cons c rest =>
      obtain ⟨hne, hspec⟩ := lowerBetween_spec [] c rest
      rw [Text.lowercase, lowercaseAfter, List.head?_append_of_ne_nil _ hne] at hd
      exact (hspec d (List.mem_of_mem_head? hd)).2 (stripped.first c rfl)

end Text

end OrderNarration
