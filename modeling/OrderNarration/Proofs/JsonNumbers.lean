import Mathlib.Data.List.TakeWhile
import OrderNarration.Proofs.JsonGrammar

/-!
# Reading names and numbers

The reader of numbers takes as many characters as a number can have. What spells a number
is therefore read as this number where the next characters do not continue it, and what is
read spells what it is read as. An integer of too many digits is the one token that the
reader refuses although it belongs to the grammar of numbers.
-/

namespace OrderNarration.Json

/-- The characters continue the number that comes before them. -/
inductive Continues : List Char → Prop
  | digit {d : Char} {rest : List Char} (isDigit : d.isDigit = true) : Continues (d :: rest)
  | fraction {d : Char} {rest : List Char} (isDigit : d.isDigit = true) :
      Continues ('.' :: d :: rest)
  | exponent {letter d : Char} {sign rest : List Char} {negative : Bool}
      (isLetter : letter = 'e' ∨ letter = 'E') (signed : SpellsSign sign negative)
      (isDigit : d.isDigit = true) : Continues (letter :: (sign ++ d :: rest))

section Digits

variable {ds cs rest fraction : List Char} {d : Char} {negative : Bool}

/-- No digit comes first. -/
def NoDigit (cs : List Char) : Prop := ∀ c ∈ cs.head?, c.isDigit = false

theorem takeWhile_digits (all : ∀ c ∈ ds, c.isDigit = true) (stop : NoDigit rest) :
    (ds ++ rest).takeWhile Char.isDigit = ds := by
  rw [List.takeWhile_append_of_pos all]
  cases rest with
  | nil => simp
  | cons c rest => simp [stop c (by simp)]

theorem dropWhile_digits (all : ∀ c ∈ ds, c.isDigit = true) (stop : NoDigit rest) :
    (ds ++ rest).dropWhile Char.isDigit = rest := by
  rw [List.dropWhile_append_of_pos all]
  cases rest with
  | nil => simp
  | cons c rest => simp [stop c (by simp)]

theorem isDigit_of_mem_takeWhile {c : Char} (h : c ∈ cs.takeWhile Char.isDigit) :
    c.isDigit = true := List.mem_takeWhile_imp h

theorem noDigit_dropWhile (cs : List Char) : NoDigit (cs.dropWhile Char.isDigit) := by
  intro c hc
  have hne : cs.dropWhile Char.isDigit ≠ [] := by
    rintro heq
    simp [heq] at hc
  have hhead := List.head_dropWhile_not Char.isDigit hne
  rw [List.head?_eq_some_head hne] at hc
  obtain rfl := Option.mem_some_iff.mp hc
  simpa using hhead

theorem NoDigit.of_not_continues (stop : ¬ Continues rest) : NoDigit rest := by
  cases rest with
  | nil => simp [NoDigit]
  | cons c rest =>
      intro c' hc'
      obtain rfl : c = c' := by simpa using hc'
      exact Bool.eq_false_iff.mpr fun hdigit => stop (.digit hdigit)

theorem IsWhole.exists_cons (whole : IsWhole ds) : ∃ d rest, ds = d :: rest ∧ d.isDigit = true := by
  rcases whole with rfl | ⟨d, rest, rfl, -, all⟩
  · exact ⟨'0', [], rfl, rfl⟩
  · exact ⟨d, rest, rfl, all d (by simp)⟩

theorem wholeDigits?_of_isWhole (whole : IsWhole ds) (stop : NoDigit rest) :
    wholeDigits? (ds ++ rest) = some (ds, rest) := by
  rcases whole with rfl | ⟨d, ds', rfl, hzero, all⟩
  · simp [wholeDigits?]
  · have hd := all d (by simp)
    have hds' : ∀ c ∈ ds', c.isDigit = true := fun c hc => all c (List.mem_cons_of_mem _ hc)
    simp [wholeDigits?, hzero, hd, takeWhile_digits hds' stop, dropWhile_digits hds' stop]

theorem isWhole_of_wholeDigits? (h : wholeDigits? cs = some (ds, rest)) :
    cs = ds ++ rest ∧ IsWhole ds := by
  cases cs with
  | nil => simp [wholeDigits?] at h
  | cons c cs =>
      simp only [wholeDigits?] at h
      split at h
      next hzero =>
        obtain ⟨rfl, rfl⟩ := Prod.mk.inj (Option.some.inj h)
        exact ⟨by simp [hzero], .inl rfl⟩
      next hzero =>
        split at h
        next hdigit =>
          obtain ⟨rfl, rfl⟩ := Prod.mk.inj (Option.some.inj h)
          refine ⟨by simp, .inr ⟨c, _, rfl, hzero, List.forall_mem_cons.mpr ⟨hdigit, ?_⟩⟩⟩
          exact fun _ => isDigit_of_mem_takeWhile
        · simp at h

/-- Digits that are not zero alone are all the digits that there are. -/
theorem noDigit_of_wholeDigits? (h : wholeDigits? cs = some (ds, rest)) (hlong : 1 < ds.length) :
    NoDigit rest := by
  cases cs with
  | nil => simp [wholeDigits?] at h
  | cons c cs =>
      simp only [wholeDigits?] at h
      split at h
      · obtain ⟨rfl, rfl⟩ := Prod.mk.inj (Option.some.inj h)
        simp at hlong
      · split at h
        · obtain ⟨rfl, rfl⟩ := Prod.mk.inj (Option.some.inj h)
          exact noDigit_dropWhile cs
        · simp at h

end Digits

section Fractions

variable {ds cs rest fraction : List Char}

theorem fractionDigits_of_digits (some : ds ≠ []) (all : ∀ c ∈ ds, c.isDigit = true)
    (stop : NoDigit rest) : fractionDigits ('.' :: (ds ++ rest)) = (ds, rest) := by
  obtain ⟨d, ds', rfl⟩ := List.exists_cons_of_ne_nil some
  simp only [fractionDigits, takeWhile_digits all stop, dropWhile_digits all stop]

/-- Where no point with a digit comes first there is no fraction. -/
theorem fractionDigits_eq_nil (h : ∀ d more, cs = '.' :: d :: more → d.isDigit = false) :
    fractionDigits cs = ([], cs) := by
  unfold fractionDigits
  split
  next rest =>
    cases rest with
    | nil => rfl
    | cons d more => simp [h d more rfl]
  next => rfl

theorem fractionDigits_of_not_continues (stop : ¬ Continues rest) :
    fractionDigits rest = ([], rest) := by
  refine fractionDigits_eq_nil ?_
  rintro d more rfl
  exact Bool.eq_false_iff.mpr fun hdigit => stop (.fraction hdigit)

theorem spellsFraction_of_fractionDigits (h : fractionDigits cs = (ds, rest)) :
    ∃ fraction, cs = fraction ++ rest ∧ SpellsFraction fraction ds ∧
      (fraction = [] ↔ ds = []) := by
  unfold fractionDigits at h
  split at h
  next cs =>
    split at h
    next hnone =>
      obtain ⟨rfl, rfl⟩ := Prod.mk.inj h
      exact ⟨[], rfl, .absent, Iff.rfl⟩
    next digits hdigits =>
      obtain ⟨rfl, rfl⟩ := Prod.mk.inj h
      refine ⟨_, ?_, .digits hdigits fun _ => isDigit_of_mem_takeWhile, by simpa using hdigits⟩
      simp
  next =>
    obtain ⟨rfl, rfl⟩ := Prod.mk.inj h
    exact ⟨[], rfl, .absent, Iff.rfl⟩

/-- Where a fraction is not read, none comes next. -/
theorem not_digit_of_fractionDigits (h : fractionDigits cs = ([], rest)) :
    ∀ d more, cs = '.' :: d :: more → d.isDigit = false := by
  rintro d more rfl
  refine Bool.eq_false_iff.mpr fun hdigit => ?_
  simp [fractionDigits, hdigit] at h

end Fractions

section Exponents

variable {ds cs rest sign exponent : List Char} {negative : Bool} {power : Int}

theorem splitSign_of_spellsSign (signed : SpellsSign sign negative) {d : Char}
    (hd : d.isDigit = true) (cs : List Char) :
    DecimalNumeral.splitSign (sign ++ d :: cs) = (negative, d :: cs) := by
  cases signed with
  | absent =>
      unfold DecimalNumeral.splitSign
      split
      next heq => simp_all
      next heq => simp_all
      next => rfl
  | plus => rfl
  | minus => rfl

theorem exists_sign (cs : List Char) :
    ∃ sign, cs = sign ++ (DecimalNumeral.splitSign cs).2 ∧
      SpellsSign sign (DecimalNumeral.splitSign cs).1 := by
  unfold DecimalNumeral.splitSign
  split
  · exact ⟨['+'], rfl, .plus⟩
  · exact ⟨['-'], rfl, .minus⟩
  · exact ⟨[], rfl, .absent⟩

theorem exponent?_of_power {letter : Char} (isLetter : letter = 'e' ∨ letter = 'E')
    (signed : SpellsSign sign negative) (some : ds ≠ []) (all : ∀ c ∈ ds, c.isDigit = true)
    (stop : NoDigit rest) :
    exponent? (letter :: (sign ++ (ds ++ rest))) =
      .some (Numeral.signed negative (Nat.ofDigitChars 10 ds 0), rest) := by
  obtain ⟨d, ds', rfl⟩ := List.exists_cons_of_ne_nil some
  have hsplit := splitSign_of_spellsSign signed (all d (by simp)) (ds' ++ rest)
  rw [List.cons_append]
  simp only [exponent?, hsplit]
  rw [← List.cons_append, takeWhile_digits all stop, dropWhile_digits all stop]
  simp [isLetter]

/-- Where no letter with a digit comes first there is no exponent. -/
theorem exponent?_eq_none (h : ∀ letter sign d more negative,
    cs = letter :: (sign ++ d :: more) → (letter = 'e' ∨ letter = 'E') →
      SpellsSign sign negative → d.isDigit = false) : exponent? cs = none := by
  cases cs with
  | nil => rfl
  | cons letter cs =>
      simp only [exponent?]
      obtain ⟨sign, hsign, signed⟩ := exists_sign cs
      split
      next => rfl
      next hsome =>
        split
        next isLetter =>
          obtain ⟨d, more, hbody⟩ : ∃ d more, (DecimalNumeral.splitSign cs).2 = d :: more := by
            refine List.exists_cons_of_ne_nil ?_
            rintro hnil
            simp [hnil] at hsome
          have hd := h letter sign d more _ (by rw [← hbody, ← hsign]) isLetter signed
          simp [hbody, hd] at hsome
        next => rfl

theorem exponent?_of_not_continues (stop : ¬ Continues rest) : exponent? rest = none := by
  refine exponent?_eq_none ?_
  rintro letter sign d more negative rfl isLetter signed
  exact Bool.eq_false_iff.mpr fun hdigit => stop (.exponent isLetter signed hdigit)

theorem spellsExponent_of_exponent? (h : exponent? cs = some (power, rest)) :
    ∃ exponent, cs = exponent ++ rest ∧ exponent ≠ [] ∧ SpellsExponent exponent power := by
  cases cs with
  | nil => simp [exponent?] at h
  | cons letter cs =>
      simp only [exponent?] at h
      obtain ⟨sign, hsign, signed⟩ := exists_sign cs
      split at h
      · simp at h
      next hsome =>
        split at h
        next isLetter =>
          obtain ⟨rfl, rfl⟩ := Prod.mk.inj (Option.some.inj h)
          refine ⟨_, ?_, List.cons_ne_nil _ _,
            .power isLetter signed hsome fun _ => isDigit_of_mem_takeWhile⟩
          simp [← hsign]
        · simp at h

/-- Where no exponent is read, none comes next. -/
theorem not_digit_of_exponent? (h : exponent? cs = none) {letter d : Char} {more : List Char}
    (heq : cs = letter :: (sign ++ d :: more)) (isLetter : letter = 'e' ∨ letter = 'E')
    (signed : SpellsSign sign negative) : d.isDigit = false := by
  subst heq
  refine Bool.eq_false_iff.mpr fun hdigit => ?_
  have hsome : (d :: more).takeWhile Char.isDigit ≠ [] := by simp [hdigit]
  have hread := exponent?_of_power isLetter signed hsome
    (fun _ => isDigit_of_mem_takeWhile) (noDigit_dropWhile (d :: more))
  rw [List.takeWhile_append_dropWhile, h] at hread
  simp at hread

end Exponents

section Magnitudes

variable {ds fds cs fraction exponent rest unread : List Char} {negative : Bool} {power : Int}
  {v : Value} {n : Nat}

theorem SpellsExponent.noDigit (spelled : SpellsExponent exponent power) (stop : NoDigit rest) :
    NoDigit (exponent ++ rest) := by
  cases spelled with
  | absent => exact stop
  | power isLetter signed some all => rcases isLetter with rfl | rfl <;> simp [NoDigit]

theorem SpellsFraction.noDigit (spelled : SpellsFraction fraction fds) (stop : NoDigit rest) :
    NoDigit (fraction ++ rest) := by
  cases spelled with
  | absent => exact stop
  | digits some all => simp [NoDigit]

/-- An exponent and what does not continue it have no point with a digit in front. -/
theorem SpellsExponent.fractionDigits (spelled : SpellsExponent exponent power)
    (stop : ¬ Continues rest) : fractionDigits (exponent ++ rest) = ([], exponent ++ rest) := by
  cases spelled with
  | absent => exact fractionDigits_of_not_continues stop
  | power isLetter signed some all =>
      refine fractionDigits_eq_nil fun d more heq => ?_
      have hletter := (List.cons.inj heq).1
      subst hletter
      simp at isLetter

theorem SpellsFraction.fractionDigits (spelled : SpellsFraction fraction fds)
    (hasExponent : SpellsExponent exponent power) (stop : ¬ Continues rest) :
    fractionDigits (fraction ++ (exponent ++ rest)) = (fds, exponent ++ rest) := by
  cases spelled with
  | absent => exact hasExponent.fractionDigits stop
  | digits some all =>
      exact fractionDigits_of_digits some all (hasExponent.noDigit (.of_not_continues stop))

theorem readMagnitude_integer (whole : IsWhole ds) (stop : ¬ Continues rest) :
    readMagnitude negative unread (ds ++ rest) =
      if ds.length ≤ Numeral.maxDigits then
        .ok (.int (Numeral.signed negative (Nat.ofDigitChars 10 ds 0)), rest)
      else .error (.tooManyDigits ds.length) := by
  simp [readMagnitude, wholeDigits?_of_isWhole whole (.of_not_continues stop),
    fractionDigits_of_not_continues stop, exponent?_of_not_continues stop]

theorem readMagnitude_number (whole : IsWhole ds) (hasFraction : SpellsFraction fraction fds)
    (hasExponent : SpellsExponent exponent power) (more : fraction ≠ [] ∨ exponent ≠ [])
    (stop : ¬ Continues rest) :
    readMagnitude negative unread (ds ++ (fraction ++ (exponent ++ rest))) =
      .ok (.float (DecimalNumeral.toBinary64 ⟨ds, fds, power⟩ negative), rest) := by
  have hnoDigit := hasFraction.noDigit (hasExponent.noDigit (.of_not_continues stop))
  have hfraction := hasFraction.fractionDigits hasExponent stop
  simp only [readMagnitude, wholeDigits?_of_isWhole whole hnoDigit, hfraction]
  cases hasExponent with
  | absent =>
      cases hasFraction with
      | absent => simp at more
      | digits some all => simp [exponent?_of_not_continues stop, some]
  | power isLetter signed some all =>
      simp [exponent?_of_power isLetter signed some all (.of_not_continues stop)]

/-- What is read after the sign spells, with the sign, a number. -/
theorem readMagnitude_sound (h : readMagnitude negative unread cs = .ok (v, rest)) :
    ∃ body, cs = body ++ rest ∧ SpellsAtom (minus negative ++ body) v := by
  rw [readMagnitude] at h
  split at h
  · simp at h
  next whole more hwhole =>
    obtain ⟨rfl, isWhole⟩ := isWhole_of_wholeDigits? hwhole
    obtain ⟨⟨fds, tail⟩, hread⟩ : ∃ read, fractionDigits more = read := ⟨_, rfl⟩
    obtain ⟨fraction, rfl, hasFraction, hnil⟩ := spellsFraction_of_fractionDigits hread
    simp only [hread] at h
    split at h
    next power rest' hexponent =>
      obtain ⟨rfl, rfl⟩ := Prod.mk.inj (Except.ok.inj h)
      obtain ⟨exponent, rfl, hne, hasExponent⟩ := spellsExponent_of_exponent? hexponent
      exact ⟨whole ++ (fraction ++ exponent), by simp,
        .number isWhole hasFraction hasExponent (.inr hne)⟩
    next hnone =>
      split at h
      next hsome =>
        obtain ⟨rfl, rfl⟩ := Prod.mk.inj (Except.ok.inj h)
        exact ⟨whole ++ (fraction ++ []), by simp,
          .number isWhole hasFraction .absent (.inl (hnil.not.mpr hsome))⟩
      next hempty =>
        split at h
        next limited =>
          obtain ⟨rfl, rfl⟩ := Prod.mk.inj (Except.ok.inj h)
          obtain rfl := hnil.mpr (not_not.mp hempty)
          exact ⟨whole, by simp, .integer isWhole limited⟩
        · simp at h

theorem readMagnitude_tooManyDigits
    (h : readMagnitude negative unread cs = .error (.tooManyDigits n)) :
    ∃ ds rest, cs = ds ++ rest ∧ IsWhole ds ∧ ds.length = n ∧ Numeral.maxDigits < n ∧
      ¬ Continues rest := by
  rw [readMagnitude] at h
  split at h
  · simp at h
  next whole more hwhole =>
    obtain ⟨rfl, isWhole⟩ := isWhole_of_wholeDigits? hwhole
    obtain ⟨⟨fds, tail⟩, hread⟩ : ∃ read, fractionDigits more = read := ⟨_, rfl⟩
    obtain ⟨fraction, rfl, hasFraction, hnil⟩ := spellsFraction_of_fractionDigits hread
    simp only [hread] at h
    split at h
    · simp at h
    next hnone =>
      split at h
      · simp at h
      next hempty =>
        split at h
        · simp at h
        next hlong =>
          obtain rfl := Stop.tooManyDigits.inj (Except.error.inj h)
          obtain rfl := not_not.mp hempty
          obtain rfl := hnil.mpr rfl
          refine ⟨whole, tail, rfl, isWhole, rfl, Nat.not_le.mp hlong, ?_⟩
          have hmax : 1 < Numeral.maxDigits := by decide
          have hnoDigit : NoDigit tail := noDigit_of_wholeDigits? hwhole (by omega)
          rintro (hdigit | hdigit | ⟨isLetter, signed, hdigit⟩)
          · simp [hnoDigit _ rfl] at hdigit
          · simp [not_digit_of_fractionDigits hread _ _ rfl] at hdigit
          · simp [not_digit_of_exponent? hnone rfl isLetter signed] at hdigit

end Magnitudes

section Atoms

variable {cs body rest : List Char} {negative : Bool} {d : Char} {v : Value} {n : Nat}

/-- No name starts like a number. -/
theorem names_find?_eq_none (hd : d.isDigit = true) (negative : Bool) (cs : List Char) :
    (names.find? fun entry => entry.1.toList.isPrefixOf (minus negative ++ d :: cs)) = none := by
  have hne : ∀ c : Char, c.isDigit = false → ¬ c = d := by
    rintro c hc rfl
    simp [hc] at hd
  cases negative <;>
    simp [names, minus, List.isPrefixOf, hne 'n' rfl, hne 't' rfl, hne 'f' rfl,
      hne 'N' rfl, hne 'I' rfl, hne '-' rfl]

/-- Without a name there is a number after at most one sign. -/
theorem readAtom_eq_readMagnitude
    (h : (names.find? fun entry => entry.1.toList.isPrefixOf cs) = none) :
    ∃ negative body, cs = minus negative ++ body ∧ (negative = false → body.head? ≠ some '-') ∧
      readAtom cs = readMagnitude negative cs body := by
  by_cases hminus : cs.head? = some '-'
  · obtain ⟨body, rfl⟩ := List.head?_eq_some_iff.mp hminus
    refine ⟨true, body, rfl, nofun, ?_⟩
    unfold readAtom
    rw [h]
    rfl
  · refine ⟨false, cs, rfl, fun _ => hminus, ?_⟩
    unfold readAtom
    rw [h]
    dsimp only
    split
    · simp at hminus
    · rfl

theorem readAtom_digit (hd : d.isDigit = true) (negative : Bool) (cs : List Char) :
    readAtom (minus negative ++ d :: cs) =
      readMagnitude negative (minus negative ++ d :: cs) (d :: cs) := by
  have hminus : d ≠ '-' := by
    rintro rfl
    simp at hd
  obtain ⟨negative', body, heq, hbody, hread⟩ :=
    readAtom_eq_readMagnitude (names_find?_eq_none hd negative cs)
  rw [hread]
  cases negative <;> cases negative'
  · obtain rfl : d :: cs = body := heq
    rfl
  · simp [minus, hminus] at heq
  · obtain rfl : '-' :: d :: cs = body := heq
    simp at hbody
  · obtain rfl : d :: cs = body := List.append_cancel_left heq
    rfl

/-- What spells a name or a number is read as what it spells, unless the number goes on. -/
theorem readAtom_of_spellsAtom (spelled : SpellsAtom cs v) (stop : ¬ Continues rest) :
    readAtom (cs ++ rest) = .ok (v, rest) := by
  cases spelled with
  | name known =>
      simp only [names, List.mem_cons, List.not_mem_nil, or_false, Prod.mk.injEq] at known
      rcases known with ⟨rfl, rfl⟩ | ⟨rfl, rfl⟩ | ⟨rfl, rfl⟩ | ⟨rfl, rfl⟩ | ⟨rfl, rfl⟩ |
        ⟨rfl, rfl⟩ <;>
        rfl
  | @integer negative digits whole limited =>
      obtain ⟨d, ds, rfl, hd⟩ := whole.exists_cons
      rw [List.append_assoc, List.cons_append, readAtom_digit hd, ← List.cons_append,
        readMagnitude_integer whole stop, if_pos limited]
  | @number negative digits fraction fds exponent power whole hasFraction hasExponent more =>
      obtain ⟨d, ds, rfl, hd⟩ := whole.exists_cons
      simp only [List.append_assoc]
      rw [List.cons_append, readAtom_digit hd, ← List.cons_append,
        readMagnitude_number whole hasFraction hasExponent more stop]

/-- A name comes first, or what comes first is read as a number. -/
theorem readAtom_cases (cs : List Char) :
    (∃ name v rest, (name, v) ∈ names ∧ cs = name.toList ++ rest ∧ readAtom cs = .ok (v, rest)) ∨
      ∃ negative body, cs = minus negative ++ body ∧
        readAtom cs = readMagnitude negative cs body := by
  cases hfind : names.find? fun entry => entry.1.toList.isPrefixOf cs with
  | some entry =>
    left
    have hprefix : entry.1.toList.isPrefixOf cs = true := by simpa using List.find?_some hfind
    obtain ⟨rest, rfl⟩ := List.isPrefixOf_iff_prefix.mp hprefix
    refine ⟨entry.1, entry.2, rest, List.mem_of_find?_eq_some hfind, rfl, ?_⟩
    unfold readAtom
    rw [hfind]
    simp
  | none =>
    obtain ⟨negative, body, heq, -, hread⟩ := readAtom_eq_readMagnitude hfind
    exact .inr ⟨negative, body, heq, hread⟩

theorem spellsAtom_of_readAtom (h : readAtom cs = .ok (v, rest)) :
    ∃ body, cs = body ++ rest ∧ SpellsAtom body v := by
  rcases readAtom_cases cs with ⟨name, v', rest', known, rfl, hread⟩ | ⟨negative, body, rfl, hread⟩
  · rw [hread] at h
    obtain ⟨rfl, rfl⟩ := Prod.mk.inj (Except.ok.inj h)
    exact ⟨_, rfl, .name known⟩
  · rw [hread] at h
    obtain ⟨digits, rfl, spelled⟩ := readMagnitude_sound h
    exact ⟨_, (List.append_assoc _ _ _).symm, spelled⟩

/-- An integer is refused for its length exactly where it has more digits than the limit and
nothing continues it. -/
theorem readAtom_eq_tooManyDigits_iff :
    readAtom cs = .error (.tooManyDigits n) ↔
      ∃ negative digits rest, cs = minus negative ++ (digits ++ rest) ∧ IsWhole digits ∧
        digits.length = n ∧ Numeral.maxDigits < n ∧ ¬ Continues rest := by
  constructor
  · intro h
    rcases readAtom_cases cs with ⟨name, v, rest, -, -, hread⟩ | ⟨negative, body, rfl, hread⟩
    · simp [hread] at h
    · rw [hread] at h
      obtain ⟨digits, rest, rfl, whole, rfl, hlong, stop⟩ := readMagnitude_tooManyDigits h
      exact ⟨negative, digits, rest, rfl, whole, rfl, hlong, stop⟩
  · rintro ⟨negative, digits, rest, rfl, whole, rfl, hlong, stop⟩
    obtain ⟨d, ds, rfl, hd⟩ := whole.exists_cons
    rw [List.cons_append, readAtom_digit hd, ← List.cons_append,
      readMagnitude_integer whole stop, if_neg (Nat.not_le.mpr hlong)]

end Atoms

end OrderNarration.Json
