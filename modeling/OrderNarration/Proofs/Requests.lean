import OrderNarration.CommandLine
import OrderNarration.Proofs.Answers

/-!
# What the arguments ask for

One argument asks for a transaction if it is the marker and 64 hexadecimal digits, and two
arguments ask for a range if they are numerals of its bounds. Nothing else is a request,
and no arguments ask for both.
-/

namespace OrderNarration

namespace HashText

/-- A hexadecimal digit in either case. -/
def IsHexDigit (c : Char) : Prop :=
  ('0' ≤ c ∧ c ≤ '9') ∨ ('a' ≤ c ∧ c ≤ 'f') ∨ ('A' ≤ c ∧ c ≤ 'F')

/-- The marker and 64 hexadecimal digits. -/
def IsHash (t : Text) : Prop :=
  ∃ digits : List Char, digits.length = 64 ∧ (∀ c ∈ digits, IsHexDigit c) ∧
    t = Text.ofChars ('0' :: 'x' :: digits)

theorem isSome_value?_iff {c : Char} : (Hex.value? c).isSome = true ↔ IsHexDigit c := by
  unfold Hex.value? IsHexDigit
  split
  next h => simp [h]
  next h =>
    split
    next h' => simp [h']
    next h' =>
      split
      next h'' => simp [h'']
      next h'' => simp [h, h', h'']

theorem all_digits_iff {t : Text} :
    (t.all fun c => (c.char?.bind Hex.value?).isSome) = true ↔
      ∃ digits : List Char, (∀ c ∈ digits, IsHexDigit c) ∧ t = Text.ofChars digits := by
  induction t with
  | nil => exact ⟨fun _ => ⟨[], by simp, rfl⟩, fun _ => rfl⟩
  | cons point t ih =>
      rw [List.all_cons, Bool.and_eq_true, ih]
      constructor
      · rintro ⟨hpoint, digits, hdigits, rfl⟩
        cases point with
        | surrogate k => simp [CodePoint.char?] at hpoint
        | scalar c =>
            have hc : IsHexDigit c := isSome_value?_iff.mp (by simpa [CodePoint.char?] using hpoint)
            exact ⟨c :: digits, List.forall_mem_cons.mpr ⟨hc, hdigits⟩, rfl⟩
      · rintro ⟨digits, hdigits, heq⟩
        cases digits with
        | nil => simp [Text.ofChars] at heq
        | cons c digits =>
            obtain ⟨rfl, rfl⟩ := List.cons.inj heq
            obtain ⟨hc, hrest⟩ := List.forall_mem_cons.mp hdigits
            exact ⟨by simpa [CodePoint.char?] using isSome_value?_iff.mpr hc, digits, hrest, rfl⟩

theorem isTransactionHash_iff {t : Text} : isTransactionHash t = true ↔ IsHash t := by
  unfold isTransactionHash
  split
  next digits =>
    rw [Bool.and_eq_true, beq_iff_eq, all_digits_iff]
    constructor
    · rintro ⟨hlength, chars, hchars, rfl⟩
      exact ⟨chars, by simpa [Text.ofChars] using hlength, hchars, rfl⟩
    · rintro ⟨chars, hlength, hchars, heq⟩
      obtain rfl : digits = Text.ofChars chars := by simpa [Text.ofChars] using heq
      exact ⟨by simpa [Text.ofChars] using hlength, chars, hchars, rfl⟩
  next hother =>
    refine iff_of_false (by simp) ?_
    rintro ⟨chars, -, -, rfl⟩
    exact hother _ rfl

end HashText

namespace Invocation

variable {inv : Invocation}

/-- The arguments are one transaction hash, and the node has a receipt for it. -/
structure AsksReceipt (inv : Invocation) (hash : Text) (found : Value) : Prop where
  arguments : inv.arguments = [hash]
  isHash : HashText.IsHash hash
  fetched : inv.node.fetched (.receipt (some hash)) = some found

/-- The arguments are the numerals of the first and the last block of the range. -/
def AsksBlocks (inv : Invocation) (range : BlockRange) : Prop :=
  ∃ first last, inv.arguments = [first, last] ∧ Numeral.read? first = some range.first ∧
    Numeral.read? last = some range.last

/-- The arguments are the hash of a transaction with a receipt, or a range of blocks. -/
def AsksWell (inv : Invocation) : Prop :=
  (∃ hash found, inv.AsksReceipt hash found) ∨ ∃ range, inv.AsksBlocks range

theorem AsksReceipt.unique {hash hash' : Text} {found found' : Value}
    (h : inv.AsksReceipt hash found) (h' : inv.AsksReceipt hash' found') :
    hash = hash' ∧ found = found' := by
  obtain rfl : hash = hash' := by simpa [h.arguments] using h'.arguments
  exact ⟨rfl, Option.some.inj (h.fetched.symm.trans h'.fetched)⟩

theorem AsksBlocks.unique {range range' : BlockRange} (h : inv.AsksBlocks range)
    (h' : inv.AsksBlocks range') : range = range' := by
  obtain ⟨first, last, hargs, hfirst, hlast⟩ := h
  obtain ⟨first', last', hargs', hfirst', hlast'⟩ := h'
  obtain ⟨rfl, rfl⟩ : first = first' ∧ last = last' := by simpa [hargs] using hargs'
  cases range
  cases range'
  simp_all

theorem AsksReceipt.not_asksBlocks {hash : Text} {found : Value} (h : inv.AsksReceipt hash found)
    (range : BlockRange) : ¬ inv.AsksBlocks range := by
  rintro ⟨first, last, hargs, -⟩
  simp [h.arguments] at hargs

end Invocation

/-- The range between two values is that of the numbers that the values are. -/
theorem BlockRange.ofValues_eq_ok_iff {first last : Value} {range : BlockRange} :
    ofValues first last = .ok range ↔
      number? first = some range.first ∧ number? last = some range.last := by
  rw [ofValues]
  cases hfirst : number? first with
  | none => simp
  | some a =>
      cases hlast : number? last with
      | none => simp
      | some b =>
          simp only [ofNumbers?, Option.some.injEq]
          split
          next found heq =>
            split at heq
            next hordered =>
              obtain rfl := Option.some.inj heq
              cases range
              simp
            next => simp at heq
          next heq =>
            split at heq
            next => simp at heq
            next hbad =>
              refine iff_of_false (by simp) ?_
              rintro ⟨rfl, rfl⟩
              exact hbad ⟨range.positive, range.ordered⟩

namespace Request

variable {inv : Invocation} {first last hash : Text} {range : BlockRange}

theorem number?_blockNumber (t : Text) :
    BlockRange.number? (blockNumber t) = Numeral.read? t := by
  rw [blockNumber]
  cases Numeral.read? t with
  | none => rfl
  | some n => rfl

theorem ofValues_blockNumber_iff :
    BlockRange.ofValues (blockNumber first) (blockNumber last) = .ok range ↔
      Numeral.read? first = some range.first ∧ Numeral.read? last = some range.last := by
  rw [BlockRange.ofValues_eq_ok_iff, number?_blockNumber, number?_blockNumber]

theorem ofArguments_eq_transaction_iff :
    ofArguments inv.arguments = some (.ok (.transaction hash)) ↔
      inv.arguments = [hash] ∧ HashText.IsHash hash := by
  rw [← HashText.isTransactionHash_iff]
  unfold ofArguments
  split
  next given hargs =>
    have hsingle : [given] = [hash] ↔ given = hash := by simp
    rw [hargs, hsingle, HashText.transactionHash]
    split
    next hgiven =>
      constructor
      · intro h
        obtain rfl : given = hash := by simpa using h
        exact ⟨rfl, hgiven⟩
      · rintro ⟨rfl, -⟩
        rfl
    next hgiven =>
      refine iff_of_false (by simp) ?_
      rintro ⟨rfl, h⟩
      exact hgiven h
  next first last hargs =>
    cases BlockRange.ofValues (blockNumber first) (blockNumber last) <;> simp [hargs]
  next hone htwo =>
    refine iff_of_false (by simp) ?_
    rintro ⟨hargs, -⟩
    exact hone hash hargs

theorem ofArguments_eq_blocks_iff :
    ofArguments inv.arguments = some (.ok (.blocks range)) ↔ inv.AsksBlocks range := by
  unfold ofArguments Invocation.AsksBlocks
  split
  next given hargs =>
    cases HashText.transactionHash (.text given) <;> simp [hargs]
  next first last hargs =>
    cases hrange : BlockRange.ofValues (blockNumber first) (blockNumber last) with
    | error e =>
      simp [hargs, ← ofValues_blockNumber_iff, hrange]
    | ok range =>
      simp [hargs, ← ofValues_blockNumber_iff, hrange]
  next hone htwo =>
    refine iff_of_false (by simp) ?_
    rintro ⟨first, last, hargs, -⟩
    exact htwo first last hargs

end Request

end OrderNarration
