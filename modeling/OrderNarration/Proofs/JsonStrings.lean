import OrderNarration.Proofs.JsonGrammar
import OrderNarration.Proofs.StrictUtf8

/-!
# Reading strings

The reader of strings takes what spells a text, up to the quote after it, and nothing
else. The one choice in it is that of a high surrogate: it joins with the escape of a low
one that comes next, and else it stands alone.
-/

namespace OrderNarration.Json

section Units

variable {a b c d : Char} {digits : List Char} {n : Nat}

theorem exists_values_iff :
    unit? a b c d = some n ↔
      ∃ va, Hex.value? a = some va ∧ ∃ vb, Hex.value? b = some vb ∧
        ∃ vc, Hex.value? c = some vc ∧ ∃ vd, Hex.value? d = some vd ∧
          (va * 16 + vb) * 256 + vc * 16 + vd = n := by
  simp [unit?, Option.bind_eq_some_iff]

theorem unit?_eq_some_iff : unit? a b c d = some n ↔ SpellsUnit [a, b, c, d] n := by
  rw [exists_values_iff]
  constructor
  · rintro ⟨va, ha, vb, hb, vc, hc, vd, hd, rfl⟩
    refine ⟨rfl, [va, vb, vc, vd], .cons ha (.cons hb (.cons hc (.cons hd .nil))), ?_⟩
    simp [Nat.ofDigits]
    omega
  · rintro ⟨-, values, hvalues, rfl⟩
    obtain _ | ⟨ha, _ | ⟨hb, _ | ⟨hc, _ | ⟨hd, ⟨⟩⟩⟩⟩⟩ := hvalues
    refine ⟨_, ha, _, hb, _, hc, _, hd, ?_⟩
    simp [Nat.ofDigits]
    omega

theorem SpellsUnit.exists_chars (h : SpellsUnit digits n) :
    ∃ a b c d, digits = [a, b, c, d] ∧ unit? a b c d = some n := by
  obtain ⟨a, b, c, d, rfl⟩ := List.length_eq_four.mp h.1
  exact ⟨a, b, c, d, rfl, unit?_eq_some_iff.mpr h⟩

theorem SpellsUnit.unique {m : Nat} (h : SpellsUnit digits n) (h' : SpellsUnit digits m) :
    n = m := by
  obtain ⟨a, b, c, d, rfl, hn⟩ := h.exists_chars
  exact Option.some.inj (hn.symm.trans (unit?_eq_some_iff.mpr h'))

theorem value?_lt {v : Nat} (h : Hex.value? c = some v) : v < 16 := by
  unfold Hex.value? at h
  simp only [Char.le_def, UInt32.le_iff_toNat_le] at h
  have hval : c.toNat = c.val.toNat := rfl
  split at h
  next hc => simp at hc h; omega
  next =>
    split at h
    next hc => simp at hc h; omega
    next =>
      split at h
      next hc => simp at hc h; omega
      next => simp at h

theorem SpellsUnit.lt (h : SpellsUnit digits n) : n < 0x10000 := by
  obtain ⟨a, b, c, d, rfl, hunit⟩ := h.exists_chars
  obtain ⟨va, ha, vb, hb, vc, hc, vd, hd, rfl⟩ := exists_values_iff.mp hunit
  have hlta := value?_lt ha
  have hltb := value?_lt hb
  have hltc := value?_lt hc
  have hltd := value?_lt hd
  omega

/-- The code point of a unit has the number of the unit. -/
theorem number_ofUnit (h : n < 0x10000) : (CodePoint.ofUnit n).number = n := by
  unfold CodePoint.ofUnit
  split
  next hsurrogate =>
    simp only [CodePoint.number]
    omega
  next hscalar =>
    have hvalid : n.isValidChar := by unfold Nat.isValidChar; omega
    exact Utf8.toNat_ofNat_of_isValidChar hvalid

theorem ofUnit_number (point : CodePoint) : CodePoint.ofUnit point.number = point := by
  cases point with
  | scalar c =>
      have hvalid : c.toNat < 0xD800 ∨ 0xDFFF < c.toNat ∧ c.toNat < 0x110000 := c.valid
      have hscalar : ¬ (0xD800 ≤ c.toNat ∧ c.toNat < 0xE000) := by omega
      rw [CodePoint.ofUnit, CodePoint.number, dif_neg hscalar, Char.ofNat_toNat]
  | surrogate k =>
      have hsurrogate : 0xD800 ≤ 0xD800 + k.val ∧ 0xD800 + k.val < 0xE000 := by omega
      rw [CodePoint.ofUnit, CodePoint.number, dif_pos hsurrogate]
      simp

theorem toNat_joinPair {high low : Nat} (hhigh : isHigh high = true) (hlow : isLow low = true) :
    (joinPair high low).toNat = 0x10000 + (high - 0xD800) * 0x400 + (low - 0xDC00) := by
  simp only [isHigh, isLow, Bool.and_eq_true, decide_eq_true_eq] at hhigh hlow
  have hvalid : (0x10000 + (high - 0xD800) * 0x400 + (low - 0xDC00)).isValidChar := by
    unfold Nat.isValidChar
    omega
  exact Utf8.toNat_ofNat_of_isValidChar hvalid

theorem joinPair_eq {high low : Nat} {ch : Char}
    (h : ch.toNat = 0x10000 + (high - 0xD800) * 0x400 + (low - 0xDC00)) :
    joinPair high low = ch := by
  rw [joinPair, ← h, Char.ofNat_toNat]

end Units

section Escapes

variable {a b c d : Char} {u : Nat} {cs rest tail unread : List Char} {point : CodePoint} {t : Text}

/-- A unit stands alone unless it is a high surrogate and the escape of a low one comes next. -/
theorem readUnit_alone (hu : unit? a b c d = some u) (hne : tail ≠ [])
    (halone : isHigh u = true → ∀ e f g h after more,
      tail = '\\' :: 'u' :: e :: f :: g :: h :: after :: more →
      ∃ v, unit? e f g h = some v ∧ isLow v = false) :
    readUnit unread (a :: b :: c :: d :: tail) = .ok (CodePoint.ofUnit u, tail) := by
  obtain ⟨next, rest, rfl⟩ := List.exists_cons_of_ne_nil hne
  simp only [readUnit, hu]
  split
  next hhigh =>
    split
    next e f g h after more heq =>
      obtain ⟨v, hv, hlow⟩ := halone hhigh e f g h after more heq
      simp [hv, hlow]
    next => rfl
  next => rfl

theorem readUnit_pair {e f g h after : Char} {v : Nat} (hu : unit? a b c d = some u)
    (hhigh : isHigh u = true) (hv : unit? e f g h = some v) (hlow : isLow v = true) :
    readUnit unread (a :: b :: c :: d :: '\\' :: 'u' :: e :: f :: g :: h :: after :: rest) =
      .ok (.scalar (joinPair u v), after :: rest) := by
  simp [readUnit, hu, hhigh, hv, hlow]

/-- What a numeric escape is read as: a unit that stands alone, or a surrogate pair. -/
theorem readUnit_cases (h : readUnit unread cs = .ok (point, rest)) :
    (∃ digits unit, cs = digits ++ rest ∧ SpellsUnit digits unit ∧
      point = CodePoint.ofUnit unit ∧
      (isHigh unit = true → ∀ digits' low more, rest = '\\' :: 'u' :: (digits' ++ more) →
        more ≠ [] → SpellsUnit digits' low → isLow low = false)) ∨
    (∃ digits high digits' low, cs = digits ++ '\\' :: 'u' :: (digits' ++ rest) ∧
      SpellsUnit digits high ∧ isHigh high = true ∧ SpellsUnit digits' low ∧ isLow low = true ∧
      point = .scalar (joinPair high low)) := by
  unfold readUnit at h
  split at h
  next a b c d next more =>
    split at h
    · simp at h
    next u hu =>
      have hunit := unit?_eq_some_iff.mp hu
      dsimp only at h
      split at h
      next hhigh =>
        split at h
        next e f g h' after more' heq =>
          split at h
          · simp at h
          next v hv =>
            have hunit' := unit?_eq_some_iff.mp hv
            split at h
            next hlow =>
              obtain ⟨rfl, rfl⟩ := Prod.mk.inj (Except.ok.inj h)
              right
              exact ⟨_, u, _, v, by rw [heq]; rfl, hunit, hhigh, hunit', hlow, rfl⟩
            next hlow =>
              obtain ⟨rfl, rfl⟩ := Prod.mk.inj (Except.ok.inj h)
              left
              refine ⟨_, u, rfl, hunit, rfl, fun _ digits' low rest' hrest hne hspells => ?_⟩
              obtain ⟨e', f', g', h'', rfl, -⟩ := hspells.exists_chars
              have hdigits : [e, f, g, h'] = [e', f', g', h''] := by
                rw [heq] at hrest
                simp_all
              rw [← hdigits] at hspells
              rw [← hunit'.unique hspells]
              simpa using hlow
        next hother =>
          obtain ⟨rfl, rfl⟩ := Prod.mk.inj (Except.ok.inj h)
          left
          refine ⟨_, u, rfl, hunit, rfl, fun _ digits' low rest' hrest hne hspells => ?_⟩
          obtain ⟨e, f, g, h', rfl, -⟩ := hspells.exists_chars
          obtain ⟨after, more', rfl⟩ := List.exists_cons_of_ne_nil hne
          exact absurd hrest (hother e f g h' after more')
      next hhigh =>
        obtain ⟨rfl, rfl⟩ := Prod.mk.inj (Except.ok.inj h)
        exact .inl ⟨_, u, rfl, hunit, rfl, fun hyes => absurd hyes hhigh⟩
  · simp at h

/-- After a backslash and a `u` a spelled text goes on with the digits of a unit. -/
theorem SpellsText.unit_of_escape {e f g h : Char} {more : List Char} (spelled : SpellsText cs t)
    (heq : cs ++ '"' :: rest = '\\' :: 'u' :: e :: f :: g :: h :: more) :
    ∃ v, unit? e f g h = some v ∧ (isLow v = true → StartsWithLow cs) := by
  cases spelled with
  | nil => simp at heq
  | raw noQuote noBackslash => exact absurd (List.cons.inj heq).1 noBackslash
  | short escape =>
      have hletter := (List.cons.inj (List.cons.inj heq).2).1
      simp [hletter, shortEscape?] at escape
  | @unit digits cs point t spells alone rest' =>
      obtain ⟨a, b, c, d, rfl, hunit⟩ := spells.exists_chars
      have hdigits : [a, b, c, d] = [e, f, g, h] := by simp_all
      simp only [List.cons.injEq, and_true] at hdigits
      obtain ⟨rfl, rfl, rfl, rfl⟩ := hdigits
      exact ⟨_, hunit, fun hlow => ⟨_, _, cs, rfl, spells, hlow⟩⟩
  | @pair digits digits' cs high low _ t first isFirst second isSecond number rest' =>
      obtain ⟨a, b, c, d, rfl, hunit⟩ := first.exists_chars
      have hdigits : [a, b, c, d] = [e, f, g, h] := by simp_all
      simp only [List.cons.injEq, and_true] at hdigits
      obtain ⟨rfl, rfl, rfl, rfl⟩ := hdigits
      exact ⟨_, hunit, fun hlow => ⟨_, _, _, rfl, first, hlow⟩⟩

/-- An escape that is read spells its code point, in front of what spells the rest. -/
theorem spellsText_of_readEscape {opening body : List Char}
    (h : readEscape opening unread cs = .ok (point, body ++ '"' :: rest))
    (spelled : SpellsText body t) :
    ∃ body', '\\' :: cs = body' ++ '"' :: rest ∧ SpellsText body' (point :: t) := by
  cases cs with
  | nil => simp [readEscape] at h
  | cons letter cs =>
      by_cases hu : letter = 'u'
      · subst hu
        simp only [readEscape, if_true] at h
        rcases readUnit_cases h with ⟨digits, unit, rfl, spells, rfl, halone⟩ |
          ⟨digits, high, digits', low, rfl, first, isFirst, second, isSecond, rfl⟩
        · refine ⟨'\\' :: 'u' :: (digits ++ body), by simp, .unit ?_ ?_ spelled⟩
          · rwa [number_ofUnit spells.lt]
          · rw [number_ofUnit spells.lt]
            rintro hhigh ⟨digits', low, more, rfl, hspells, hlow⟩
            have hnotLow :=
              halone hhigh digits' low (more ++ '"' :: rest) (by simp) (by simp) hspells
            simp [hlow] at hnotLow
        · exact ⟨'\\' :: 'u' :: (digits ++ '\\' :: 'u' :: (digits' ++ body)), by simp,
            .pair first isFirst second isSecond (toNat_joinPair isFirst isSecond) spelled⟩
      · simp only [readEscape, hu, if_false] at h
        split at h
        next c hshort =>
          obtain ⟨rfl, rfl⟩ := Prod.mk.inj (Except.ok.inj h)
          exact ⟨'\\' :: letter :: body, rfl, .short hshort spelled⟩
        · simp at h

end Escapes

section Strings

variable {cs rest opening : List Char} {t : Text} {fuel : Nat}

/-- Characters that need no escape spell themselves. -/
theorem spellsText_ofChars (h : ∀ c ∈ cs, c ≠ '"' ∧ c ≠ '\\' ∧ 0x20 ≤ c.toNat) :
    SpellsText cs (Text.ofChars cs) := by
  induction cs with
  | nil => exact .nil
  | cons c cs ih =>
      obtain ⟨⟨hquote, hbackslash, hcontrol⟩, hrest⟩ := List.forall_mem_cons.mp h
      exact .raw hquote hbackslash hcontrol (ih hrest)

/-- An escape that is read comes before what the rest of the string is read as. -/
theorem readString_escape (opening : List Char) (fuel : Nat) (cs : List Char) :
    readString opening (fuel + 1) ('\\' :: cs) =
      readEscape opening ('\\' :: cs) cs >>= fun read =>
        readString opening fuel read.2 >>= fun next => .ok (read.1 :: next.1, next.2) := by
  simp [readString]

/-- What spells a text is read as the text, up to the quote after it. -/
theorem readString_of_spellsText (spelled : SpellsText cs t) (opening rest : List Char)
    (enough : cs.length < fuel) :
    readString opening fuel (cs ++ '"' :: rest) = .ok (t, rest) := by
  induction spelled generalizing fuel with
  | nil =>
      obtain _ | fuel := fuel
      · simp at enough
      · simp [readString]
  | @raw c cs t noQuote noBackslash noControl spells ih =>
      obtain _ | fuel := fuel
      · simp at enough
      · have hnext := @ih fuel (Nat.lt_of_succ_lt_succ enough)
        simp [readString, noQuote, noBackslash, Nat.not_lt.mpr noControl, hnext]
  | @short letter c cs t escape spells ih =>
      obtain _ | fuel := fuel
      · simp at enough
      · have hnext := @ih fuel (by simp at enough; omega)
        have hu : letter ≠ 'u' := by
          rintro rfl
          simp [shortEscape?] at escape
        rw [List.cons_append, readString_escape]
        simp [readEscape, hu, escape, hnext]
  | @unit digits cs point t spells alone spells' ih =>
      obtain _ | fuel := fuel
      · simp at enough
      · have hnext := @ih fuel (by simp at enough; omega)
        obtain ⟨a, b, c, d, rfl, hunit⟩ := spells.exists_chars
        have hread : ∀ unread, readUnit unread (a :: b :: c :: d :: (cs ++ '"' :: rest)) =
            .ok (point, cs ++ '"' :: rest) := by
          intro unread
          rw [readUnit_alone hunit (by simp), ofUnit_number]
          intro hhigh e f g h after more heq
          obtain ⟨v, hv, hlow⟩ := spells'.unit_of_escape heq
          exact ⟨v, hv, Bool.eq_false_iff.mpr fun hyes => alone hhigh (hlow hyes)⟩
        rw [List.cons_append, readString_escape]
        simp [readEscape, hread, hnext]
  | @pair digits digits' cs high low c t first isFirst second isSecond number spells ih =>
      obtain _ | fuel := fuel
      · simp at enough
      · have hnext := @ih fuel (by simp at enough; omega)
        obtain ⟨a, b, c', d, rfl, hunit⟩ := first.exists_chars
        obtain ⟨e, f, g, h, rfl, hunit'⟩ := second.exists_chars
        obtain ⟨after, more, htail⟩ := List.exists_cons_of_ne_nil
          (show cs ++ '"' :: rest ≠ [] by simp)
        have hread : ∀ unread, readUnit unread
            (a :: b :: c' :: d :: '\\' :: 'u' :: e :: f :: g :: h :: after :: more) =
              .ok (.scalar (joinPair high low), after :: more) :=
          fun _ => readUnit_pair hunit isFirst hunit' isSecond
        rw [List.cons_append, readString_escape]
        rw [htail] at hnext
        simp [readEscape, htail, hread, joinPair_eq number, hnext]

/-- A string that is read spells the text that it is read as. -/
theorem spellsText_of_readString (h : readString opening fuel cs = .ok (t, rest)) :
    ∃ body, cs = body ++ '"' :: rest ∧ SpellsText body t := by
  induction fuel generalizing cs t with
  | zero => simp [readString] at h
  | succ fuel ih =>
      cases cs with
      | nil => simp [readString] at h
      | cons c cs =>
          by_cases hquote : c = '"'
          · subst hquote
            obtain ⟨rfl, rfl⟩ : [] = t ∧ cs = rest := by simpa [readString] using h
            exact ⟨[], rfl, .nil⟩
          by_cases hbackslash : c = '\\'
          · subst hbackslash
            rw [readString_escape] at h
            obtain ⟨⟨point, cs'⟩, hread, h⟩ := Outcome.bind_eq_ok_iff.mp h
            obtain ⟨⟨t', rest'⟩, hnext, h⟩ := Outcome.bind_eq_ok_iff.mp h
            obtain ⟨rfl, rfl⟩ := Prod.mk.inj (Except.ok.inj h)
            obtain ⟨body, rfl, spells⟩ := ih hnext
            exact spellsText_of_readEscape hread spells
          · simp only [readString, hquote, hbackslash, if_false] at h
            split at h
            · simp at h
            next hcontrol =>
              obtain ⟨⟨t', rest'⟩, hnext, h⟩ := Outcome.bind_eq_ok_iff.mp h
              obtain ⟨rfl, rfl⟩ := Prod.mk.inj (Except.ok.inj h)
              obtain ⟨body, rfl, spells⟩ := ih hnext
              exact ⟨c :: body, rfl, .raw hquote hbackslash (Nat.not_lt.mp hcontrol) spells⟩

end Strings

end OrderNarration.Json
