import OrderNarration.Proofs.EtherTexts
import OrderNarration.Text.Quoted

/-!
# Lines of a text

An output is written line by line, each line with a line break at its end. What is written as
one line falls into several if there are line breaks in it.
-/

namespace OrderNarration

namespace Text

/-- The line break. -/
def lineBreak : CodePoint := .scalar '\n'

/-- The parts of a text between its line breaks. -/
def parts (t : Text) : List Text := t.splitOnP (· == lineBreak)

/-- The lines of an output, each of which has a line break at its end. -/
def lines (output : Text) : List Text := output.parts.dropLast

/-- There is no line break in the text. -/
def IsOneLine (t : Text) : Prop := lineBreak ∉ t

instance (t : Text) : Decidable t.IsOneLine := inferInstanceAs (Decidable (lineBreak ∉ t))

section Parts

variable {α : Type u} {s t : Text}

theorem parts_append_lineBreak (s t : Text) :
    (s ++ lineBreak :: t).parts = s.parts ++ t.parts :=
  List.splitOnP_append_cons s t (by simp)

theorem parts_ne_nil (t : Text) : t.parts ≠ [] := List.splitOnP_ne_nil _ t

theorem parts_of_isOneLine (h : t.IsOneLine) : t.parts = [t] := by
  apply List.splitOnP_eq_singleton
  intro c hc
  have hne : c ≠ lineBreak := fun heq => h (heq ▸ hc)
  simpa using hne

theorem parts_cons (c : CodePoint) (t : Text) :
    parts (c :: t) = if c = lineBreak then [] :: t.parts else t.parts.modifyHead (c :: ·) := by
  rw [parts, List.splitOnP_cons_eq_if_modifyHead]
  simp only [beq_iff_eq]
  rfl

/-- What stands in front without a line break belongs to the first part. -/
theorem parts_append (h : s.IsOneLine) (t : Text) :
    (s ++ t).parts = t.parts.modifyHead (s ++ ·) := by
  induction s with
  | nil =>
      rw [List.nil_append]
      exact (congrFun List.modifyHead_id t.parts).symm
  | cons c s ih =>
      obtain ⟨hc, hs⟩ := not_or.mp (List.mem_cons.not.mp h)
      rw [List.cons_append, parts_cons, if_neg (Ne.symm hc), ih hs, List.modifyHead_modifyHead]
      rfl

theorem length_parts (t : Text) : t.parts.length = t.count lineBreak + 1 := by
  induction t with
  | nil => rfl
  | cons c t ih =>
      rw [parts_cons, List.count_cons]
      by_cases h : c = lineBreak
      · simp [h, ih]
      · simp [h, ih]

/-- The lines of an output are the parts of what was written line by line. -/
theorem lines_flatMap (items : List α) (f : α → Text) :
    lines (items.flatMap fun a => f a ++ [lineBreak]) = items.flatMap fun a => (f a).parts := by
  have hparts : parts (items.flatMap fun a => f a ++ [lineBreak]) =
      (items.flatMap fun a => (f a).parts) ++ [[]] := by
    induction items with
    | nil => rfl
    | cons a rest ih =>
        rw [List.flatMap_cons, List.append_assoc, List.singleton_append, parts_append_lineBreak,
          ih, List.flatMap_cons, List.append_assoc]
  rw [lines, hparts, List.dropLast_concat]

end Parts

section OneLine

@[simp] theorem isOneLine_append {s t : Text} :
    (s ++ t).IsOneLine ↔ s.IsOneLine ∧ t.IsOneLine := by
  simp [IsOneLine]

theorem isOneLine_ofChars {cs : List Char} (h : ∀ c ∈ cs, c.isDigit = true) :
    (ofChars cs).IsOneLine := by
  intro hmem
  obtain ⟨c, hc, heq⟩ := List.mem_map.mp hmem
  obtain rfl := CodePoint.scalar.inj heq
  exact absurd (h _ hc) (by decide)

@[simp] theorem isOneLine_ofNat (n : Nat) : (ofNat n).IsOneLine :=
  isOneLine_ofChars (Ether.isDigit_of_mem_toDigits n)

@[simp] theorem isOneLine_ofInt (n : Int) : (ofInt n).IsOneLine := by
  cases n with
  | ofNat n => exact isOneLine_ofNat n
  | negSucc n => exact isOneLine_append.mpr ⟨by decide, isOneLine_ofNat (n + 1)⟩

/-- The two hexadecimal digits of a byte. -/
theorem isOneLine_ofHex (b : UInt8) : (ofHex 2 b.toNat).IsOneLine := by
  have hbytes : ∀ k : Fin 256, (ofHex 2 k).IsOneLine := by decide +kernel
  exact hbytes ⟨b.toNat, b.toNat_lt⟩

end OneLine

end Text

end OrderNarration
