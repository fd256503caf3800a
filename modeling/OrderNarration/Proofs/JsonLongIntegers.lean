import OrderNarration.Proofs.JsonTexts

/-!
# Integers of too many digits

The grammar of JSON sets no limit to the digits of an integer, the reader does. It stops
at the first integer beyond the limit, which is no flaw of the text and is told apart from
all flaws. This module says which texts come to such an integer: those that are well formed
up to it, whatever comes after it.
-/

namespace OrderNarration.Json

mutual

/-- From the first character of a value on: the value is an integer of so many digits, beyond the
limit, or it is an array or an object that comes to one. -/
inductive Reaches (n : Nat) : List Char → Prop
  | integer {negative : Bool} {digits rest : List Char} (whole : IsWhole digits)
      (count : digits.length = n) (long : Numeral.maxDigits < n) (stop : ¬ Continues rest) :
      Reaches n (minus negative ++ (digits ++ rest))
  | items {blanks cs : List Char} (blank : Blanks blanks) (items : ItemsReach n cs) :
      Reaches n ('[' :: (blanks ++ cs))
  | members {blanks cs : List Char} (blank : Blanks blanks) (members : MembersReach n cs) :
      Reaches n ('\x7b' :: (blanks ++ cs))

/-- From the first character of an item on: this item or a later one comes to the integer. -/
inductive ItemsReach (n : Nat) : List Char → Prop
  | here {cs : List Char} (item : Reaches n cs) : ItemsReach n cs
  | later {cs blanks blanks' others : List Char} {v : Value} (item : Spells cs v)
      (blank : Blanks blanks) (blank' : Blanks blanks') (rest : ItemsReach n others) :
      ItemsReach n (cs ++ (blanks ++ ',' :: (blanks' ++ others)))

/-- From the first character of a key on: the value of this key or of a later one comes to the
integer. -/
inductive MembersReach (n : Nat) : List Char → Prop
  | here {key before after cs : List Char} {k : Text} (name : SpellsString key k)
      (blank : Blanks before) (blank' : Blanks after) (value : Reaches n cs) :
      MembersReach n (key ++ (before ++ ':' :: (after ++ cs)))
  | later {cs blanks blanks' others : List Char} {pair : Text × Value}
      (member : SpellsMember cs pair) (blank : Blanks blanks) (blank' : Blanks blanks')
      (rest : MembersReach n others) :
      MembersReach n (cs ++ (blanks ++ ',' :: (blanks' ++ others)))

end

/-- The text is well formed up to an integer of so many digits, which are beyond the limit. -/
def ComesToLongInteger (n : Nat) (cs : List Char) : Prop :=
  ∃ blanks body, cs = blanks ++ body ∧ Blanks blanks ∧ Reaches n body

section Openings

variable {cs blanks : List Char} {n : Nat}

theorem Reaches.exists_cons (reaches : Reaches n cs) : ∃ c cs', cs = c :: cs' ∧ Opens c := by
  cases reaches with
  | @integer negative digits rest whole =>
      obtain ⟨d, ds, rfl, hd⟩ := whole.exists_cons
      cases negative with
      | true => exact ⟨'-', _, rfl, .inr (.inl (by decide))⟩
      | false => exact ⟨d, _, rfl, .inr (.inr hd)⟩
  | items | members => exact ⟨_, _, rfl, .inl (by decide)⟩

theorem ItemsReach.exists_cons (reaches : ItemsReach n cs) :
    ∃ c cs', cs = c :: cs' ∧ Opens c := by
  cases reaches with
  | here item => exact item.exists_cons
  | later item =>
      obtain ⟨c, cs', rfl, opens⟩ := item.exists_cons
      exact ⟨c, _, rfl, opens⟩

theorem MembersReach.exists_cons (reaches : MembersReach n cs) : ∃ cs', cs = '"' :: cs' := by
  cases reaches with
  | here name =>
      obtain ⟨body, rfl, -⟩ := name
      exact ⟨_, rfl⟩
  | later member =>
      obtain ⟨cs', rfl⟩ := member.exists_cons
      exact ⟨_, rfl⟩

theorem Reaches.skip (reaches : Reaches n cs) (blank : Blanks blanks) :
    skip (blanks ++ cs) = cs := by
  obtain ⟨c, cs', rfl, opens⟩ := reaches.exists_cons
  exact skip_append blank opens.not_blank

theorem ItemsReach.skip (reaches : ItemsReach n cs) (blank : Blanks blanks) :
    skip (blanks ++ cs) = cs := by
  obtain ⟨c, cs', rfl, opens⟩ := reaches.exists_cons
  exact skip_append blank opens.not_blank

theorem MembersReach.skip (reaches : MembersReach n cs) (blank : Blanks blanks) :
    skip (blanks ++ cs) = cs := by
  obtain ⟨cs', rfl⟩ := reaches.exists_cons
  exact skip_append blank rfl

end Openings

section Strings

variable {cs unread opening : List Char} {fuel n : Nat}

theorem readUnit_ne_tooManyDigits : readUnit unread cs ≠ .error (.tooManyDigits n) := by
  unfold readUnit
  split
  · split
    · simp
    · dsimp only
      split
      · split
        · split <;> simp
        · simp
      · simp
  · simp

theorem readEscape_ne_tooManyDigits :
    readEscape opening unread cs ≠ .error (.tooManyDigits n) := by
  unfold readEscape
  split
  · simp
  · split
    · exact readUnit_ne_tooManyDigits
    · split <;> simp

/-- A string has no integers. -/
theorem readString_ne_tooManyDigits : readString opening fuel cs ≠ .error (.tooManyDigits n) := by
  induction fuel generalizing cs with
  | zero => simp [readString]
  | succ fuel ih =>
      cases cs with
      | nil => simp [readString]
      | cons c cs =>
          simp only [readString]
          split
          · simp
          · split
            · intro h
              rcases Outcome.bind_eq_error_iff.mp h with hescape | ⟨⟨point, rest⟩, -, h⟩
              · exact readEscape_ne_tooManyDigits hescape
              · rcases Outcome.bind_eq_error_iff.mp h with hrest | ⟨next, -, h⟩
                · exact ih hrest
                · simp at h
            · split
              · simp
              · intro h
                rcases Outcome.bind_eq_error_iff.mp h with hrest | ⟨next, -, h⟩
                · exact ih hrest
                · simp at h

end Strings

section Stops

variable {cs rest : List Char} {n fuel : Nat}

/-- With this fuel the nested readers stop at the integers that half as many characters come to. -/
structure StopsAtLong (n fuel : Nat) : Prop where
  value : ∀ {cs}, Reaches n cs → 2 * cs.length ≤ fuel →
    readValue fuel cs = .error (.tooManyDigits n)
  items : ∀ {cs}, ItemsReach n cs → 2 * cs.length + 1 ≤ fuel →
    readItems fuel cs = .error (.tooManyDigits n)
  members : ∀ {cs}, MembersReach n cs → 2 * cs.length + 1 ≤ fuel →
    readMembers fuel cs = .error (.tooManyDigits n)

theorem StopsAtLong.value_succ (stops : StopsAtLong n fuel) (reaches : Reaches n cs)
    (enough : 2 * cs.length ≤ fuel + 1) : readValue (fuel + 1) cs = .error (.tooManyDigits n) := by
  cases reaches with
  | @integer negative digits rest whole count long stop =>
      have hread := readAtom_eq_tooManyDigits_iff.mpr
        ⟨negative, digits, rest, rfl, whole, count, long, stop⟩
      obtain ⟨d, ds, rfl, hd⟩ := whole.exists_cons
      rcases negative with _ | _
      · exact (readValue_atom fuel (OpensAtom.not_mem (.inr hd))).trans hread
      · exact (readValue_atom fuel (by decide)).trans hread
  | @items blanks cs blank items =>
      have hopen : (Json.skip (blanks ++ cs)).head? ≠ some ']' := by
        obtain ⟨c, cs', rfl, opens⟩ := items.exists_cons
        rw [items.skip blank]
        simpa using opens.ne (by decide) (by decide) rfl
      rw [readValue_items fuel hopen, items.skip blank,
        stops.items items (by simp at enough; omega)]
      rfl
  | @members blanks cs blank members =>
      have hopen : (Json.skip (blanks ++ cs)).head? ≠ some '\x7d' := by
        obtain ⟨cs', rfl⟩ := members.exists_cons
        rw [members.skip blank]
        simp
      rw [readValue_members fuel hopen, members.skip blank,
        stops.members members (by simp at enough; omega)]
      rfl

theorem StopsAtLong.items_succ (stops : StopsAtLong n fuel) (reaches : ItemsReach n cs)
    (enough : 2 * cs.length + 1 ≤ fuel + 1) :
    readItems (fuel + 1) cs = .error (.tooManyDigits n) := by
  cases reaches with
  | here item =>
      simp [readItems, stops.value item (by omega)]
  | @later cs blanks blanks' others v item blank blank' tail =>
      have hfirst := (readsSpelled fuel).value item (by simp at enough; omega)
        (not_continues_delimiter ',' (blanks' ++ others) blank (by decide))
      have hread := readItems_more hfirst (skip_append blank rfl)
      rw [hread, tail.skip blank', stops.items tail (by simp at enough; omega)]
      rfl

theorem StopsAtLong.members_succ (stops : StopsAtLong n fuel) (reaches : MembersReach n cs)
    (enough : 2 * cs.length + 1 ≤ fuel + 1) :
    readMembers (fuel + 1) cs = .error (.tooManyDigits n) := by
  cases reaches with
  | @here key before after cs k name blank₁ blank₂ value =>
      obtain ⟨body, heq, hkey⟩ := readString_of_spellsString fuel
        (before ++ ':' :: (after ++ cs)) name (by simp at enough; omega)
      have hcolon : Json.skip (before ++ ':' :: (after ++ cs)) = ':' :: (after ++ cs) :=
        skip_append blank₁ rfl
      have hvalue := stops.value value (by simp at enough; omega)
      rw [heq]
      simp [readMembers, hkey, hcolon, value.skip blank₂, hvalue]
  | @later cs blanks blanks' others pair member blank blank' tail =>
      obtain @⟨key, before, after, cs, k, v, name, blank₁, blank₂, value⟩ := member
      obtain ⟨body, heq, hkey⟩ := readString_of_spellsString fuel
        (before ++ ':' :: (after ++ (cs ++ (blanks ++ ',' :: (blanks' ++ others)))))
        name (by simp at enough; omega)
      have hvalue := (readsSpelled fuel).value value (by simp at enough; omega)
        (not_continues_delimiter ',' (blanks' ++ others) blank (by decide))
      rw [← value.skip blank₂] at hvalue
      have hread := readMembers_more (hkey _) (skip_append blank₁ rfl) hvalue
        (skip_append blank rfl)
      rw [← heq, tail.skip blank', stops.members tail (by simp at enough; omega)] at hread
      simpa using hread

theorem stopsAtLong (n fuel : Nat) : StopsAtLong n fuel := by
  induction fuel with
  | zero =>
      refine ⟨fun reaches enough => ?_, fun _ enough => ?_, fun _ enough => ?_⟩
      · obtain ⟨c, cs', rfl, -⟩ := reaches.exists_cons
        simp at enough
      · simp at enough
      · simp at enough
  | succ fuel stops => exact ⟨stops.value_succ, stops.items_succ, stops.members_succ⟩

/-- Where the nested readers stop with this fuel for the digits of an integer, the text comes to
this integer. -/
structure StopReaches (n fuel : Nat) : Prop where
  value : ∀ {cs}, readValue fuel cs = .error (.tooManyDigits n) → Reaches n cs
  items : ∀ {cs}, readItems fuel cs = .error (.tooManyDigits n) → ItemsReach n cs
  members : ∀ {cs}, readMembers fuel cs = .error (.tooManyDigits n) → MembersReach n cs

theorem StopReaches.value_succ (ih : StopReaches n fuel)
    (h : readValue (fuel + 1) cs = .error (.tooManyDigits n)) : Reaches n cs := by
  simp only [readValue] at h
  split at h
  · rcases Outcome.bind_eq_error_iff.mp h with hstring | ⟨read, -, hv⟩
    · exact absurd hstring readString_ne_tooManyDigits
    · simp at hv
  next rest =>
    split at h
    · simp at h
    · rcases Outcome.bind_eq_error_iff.mp h with hitems | ⟨read, -, hv⟩
      · obtain ⟨blanks, blank, heq⟩ := exists_blanks rest
        exact heq ▸ .items blank (ih.items hitems)
      · simp at hv
  next rest =>
    split at h
    · simp at h
    · rcases Outcome.bind_eq_error_iff.mp h with hmembers | ⟨read, -, hv⟩
      · obtain ⟨blanks, blank, heq⟩ := exists_blanks rest
        exact heq ▸ .members blank (ih.members hmembers)
      · simp at hv
  · obtain ⟨negative, digits, rest, rfl, whole, count, long, stop⟩ :=
      readAtom_eq_tooManyDigits_iff.mp h
    exact .integer whole count long stop

theorem StopReaches.items_succ (ih : StopReaches n fuel)
    (h : readItems (fuel + 1) cs = .error (.tooManyDigits n)) : ItemsReach n cs := by
  simp only [readItems] at h
  rcases Outcome.bind_eq_error_iff.mp h with hfirst | ⟨⟨v, tail⟩, hfirst, hrest⟩
  · exact .here (ih.value hfirst)
  · dsimp only at hrest
    obtain ⟨body, rfl, item⟩ := (takesSpelled fuel).value hfirst
    split at hrest
    · simp at hrest
    next others hskip =>
      rcases Outcome.bind_eq_error_iff.mp hrest with hitems | ⟨read, -, hvs⟩
      · obtain ⟨blanks, blank, rfl⟩ := exists_blanks_of_skip hskip
        obtain ⟨blanks', blank', heq⟩ := exists_blanks others
        rw [heq]
        exact .later item blank blank' (ih.items hitems)
      · simp at hvs
    · simp at hrest

theorem StopReaches.members_succ (ih : StopReaches n fuel)
    (h : readMembers (fuel + 1) cs = .error (.tooManyDigits n)) : MembersReach n cs := by
  simp only [readMembers] at h
  split at h
  · rcases Outcome.bind_eq_error_iff.mp h with hstring | ⟨⟨k, tail⟩, hkey, hrest⟩
    · exact absurd hstring readString_ne_tooManyDigits
    · obtain ⟨key, heq, name⟩ := spellsString_of_readString hkey
      rw [heq]
      dsimp only at hrest
      split at hrest
      next value hcolon =>
        obtain ⟨before, blank₁, rfl⟩ := exists_blanks_of_skip hcolon
        rcases Outcome.bind_eq_error_iff.mp hrest with hvalue | ⟨⟨v, tail'⟩, hvalue, hmore⟩
        · obtain ⟨after, blank₂, hafter⟩ := exists_blanks value
          rw [hafter]
          exact .here name blank₁ blank₂ (ih.value hvalue)
        · obtain ⟨body, hbody, spells⟩ := (takesSpelled fuel).value hvalue
          obtain ⟨after, blank₂, rfl⟩ := exists_blanks_of_skip hbody
          dsimp only at hmore
          split at hmore
          · simp at hmore
          next others hskip =>
            rcases Outcome.bind_eq_error_iff.mp hmore with hmembers | ⟨read, -, hpairs⟩
            · obtain ⟨blanks, blank, rfl⟩ := exists_blanks_of_skip hskip
              obtain ⟨blanks', blank', hothers⟩ := exists_blanks others
              rw [hothers]
              have later := MembersReach.later (.member name blank₁ blank₂ spells) blank
                blank' (ih.members hmembers)
              simpa using later
            · simp at hpairs
          · simp at hmore
      · simp at hrest
  · simp at h

theorem stopReaches (n fuel : Nat) : StopReaches n fuel := by
  induction fuel with
  | zero =>
      refine ⟨fun h => ?_, fun h => ?_, fun h => ?_⟩
      · simp [readValue] at h
      · simp [readItems] at h
      · simp [readMembers] at h
  | succ fuel ih => exact ⟨ih.value_succ, ih.items_succ, ih.members_succ⟩

end Stops

section Whole

variable {cs : List Char} {n : Nat}

theorem readAll_eq_tooManyDigits_iff :
    readAll cs = .error (.tooManyDigits n) ↔ ComesToLongInteger n cs := by
  constructor
  · intro h
    rw [readAll] at h
    rcases Outcome.bind_eq_error_iff.mp h with hread | ⟨⟨v, rest⟩, -, hrest⟩
    · obtain ⟨blanks, blank, heq⟩ := exists_blanks cs
      exact ⟨blanks, _, heq, blank, (stopReaches n _).value hread⟩
    · dsimp only at hrest
      split at hrest <;> simp at hrest
  · rintro ⟨blanks, body, rfl, blank, reaches⟩
    have hread := (stopsAtLong n (2 * (blanks ++ body).length + 2)).value reaches
      (by simp; omega)
    rw [readAll, reaches.skip blank, hread]
    rfl

theorem ComesToLongInteger.head?_ne (h : ComesToLongInteger n cs) :
    cs.head? ≠ some '\uFEFF' := by
  obtain ⟨blanks, body, rfl, blank, reaches⟩ := h
  exact head?_ne_mark blank reaches.exists_cons

/-- Reading stops for the digits of an integer exactly where the text comes to one with too many. -/
theorem read_eq_tooManyDigits_iff :
    read cs = .error (.tooManyDigits n) ↔ ComesToLongInteger n cs := by
  rw [← readAll_eq_tooManyDigits_iff]
  unfold read
  split
  next rest =>
    have hnot : ¬ readAll ('\uFEFF' :: rest) = .error (.tooManyDigits n) := fun h =>
      (readAll_eq_tooManyDigits_iff.mp h).head?_ne rfl
    simpa using hnot
  next => split <;> simp_all

end Whole

end OrderNarration.Json
