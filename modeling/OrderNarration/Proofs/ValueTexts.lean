import OrderNarration.Proofs.EtherTexts
import OrderNarration.Proofs.JsonTexts
import OrderNarration.Proofs.ShownValues

/-!
# Texts of JSON values

JSON has no word for a value without a text, and its texts are read within the limit that
numerals have. So everything that a JSON text spells can be shown.
-/

namespace OrderNarration

namespace Value

theorem IsJson.display (json : IsJson v) : v.display?.isSome := by
  cases json with
  | _ => rfl

end Value

@[simp] theorem Numeral.natAbs_signed (negative : Bool) (magnitude : Nat) :
    (signed negative magnitude).natAbs = magnitude := by
  cases negative with
  | false => rfl
  | true => simp [signed]

namespace Json

theorem IsWhole.isDigit {ds : List Char} (whole : IsWhole ds) : ∀ c ∈ ds, c.isDigit = true := by
  rcases whole with rfl | ⟨d, rest, -, -, all⟩
  · simp
  · exact all

theorem SpellsAtom.digitsLimited {cs : List Char} {v : Value} (h : SpellsAtom cs v) :
    v.DigitsLimited := by
  cases h with
  | name known =>
      simp only [names, List.mem_cons, List.not_mem_nil, or_false, Prod.mk.injEq] at known
      rcases known with ⟨-, rfl⟩ | ⟨-, rfl⟩ | ⟨-, rfl⟩ | ⟨-, rfl⟩ | ⟨-, rfl⟩ | ⟨-, rfl⟩
      · exact .null
      · exact .bool _
      · exact .bool _
      all_goals exact .float _
  | @integer negative digits whole limited =>
      apply Value.DigitsLimited.int
      calc (Numeral.signed negative (Nat.ofDigitChars 10 digits 0)).natAbs
          = Nat.ofDigitChars 10 digits 0 := Numeral.natAbs_signed _ _
        _ < 10 ^ digits.length := Ether.ofDigitChars_lt whole.isDigit
        _ ≤ 10 ^ Numeral.maxDigits := Nat.pow_le_pow_right (by decide) limited
  | number => exact .float _

mutual

/-- The integers of every value that a text spells are within the limit of numerals. -/
theorem Spells.digitsLimited : ∀ {cs : List Char} {v : Value}, Spells cs v → v.DigitsLimited
  | _, _, .atom h => h.digitsLimited
  | _, _, .text _ => .text _
  | _, _, .noItems _ => .list (by simp)
  | _, _, .items _ h => .list h.digitsLimited
  | _, _, .noMembers _ => .mapping (by simp)
  | _, _, .members _ h collect =>
      .mapping fun e he => h.digitsLimited e (Entries.mem_ofPairs (collect.eq_ofPairs ▸ he))

theorem SpellsItems.digitsLimited : ∀ {cs : List Char} {vs : List Value},
    SpellsItems cs vs → ∀ v ∈ vs, v.DigitsLimited
  | _, _, .last h _ => List.forall_mem_singleton.mpr h.digitsLimited
  | _, _, .more h _ _ rest => List.forall_mem_cons.mpr ⟨h.digitsLimited, rest.digitsLimited⟩

theorem SpellsMember.digitsLimited : ∀ {cs : List Char} {pair : Text × Value},
    SpellsMember cs pair → pair.2.DigitsLimited
  | _, _, .member _ _ _ h => h.digitsLimited

theorem SpellsMembers.digitsLimited : ∀ {cs : List Char} {pairs : List (Text × Value)},
    SpellsMembers cs pairs → ∀ e ∈ pairs, e.2.DigitsLimited
  | _, _, .last h _ => List.forall_mem_singleton.mpr h.digitsLimited
  | _, _, .more h _ _ rest => List.forall_mem_cons.mpr ⟨h.digitsLimited, rest.digitsLimited⟩

end

/-- Every value of an object that was read from a text has a text of its own. -/
theorem hasText_of_read {cs : List Char} {entries : Entries Value}
    (h : read cs = .ok (.mapping entries)) : ∀ e ∈ entries, e.2.HasText := by
  intro e he
  obtain ⟨before, body, after, -, -, -, spelled⟩ := read_eq_ok_iff.mp h
  cases read_isJson h with
  | mapping json =>
      cases spelled.digitsLimited with
      | mapping limited => exact ⟨(json e he).display, limited e he⟩

end Json

end OrderNarration
