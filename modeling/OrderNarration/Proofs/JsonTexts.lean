import OrderNarration.Proofs.JsonNumbers
import OrderNarration.Proofs.JsonStrings

/-!
# Reading JSON texts

The reader gives a value exactly for the JSON texts of the value. One direction follows
the derivation of the text and bounds the fuel by two for a character, the other one
follows the fuel. The blanks between tokens are skipped by the reader before it looks at
a token, and they belong to what the token stands in.
-/

namespace OrderNarration.Json

section BlankRuns

variable {blanks cs rest : List Char} {c : Char}

theorem skip_append (blank : Blanks blanks) (h : isBlank c = false) :
    skip (blanks ++ c :: cs) = c :: cs := by
  rw [skip, List.dropWhile_append_of_pos blank, List.dropWhile_cons_of_neg (by simp [h])]

theorem skip_blanks (blank : Blanks blanks) : skip blanks = [] :=
  List.dropWhile_eq_nil_iff.mpr blank

/-- What is skipped is blank. -/
theorem exists_blanks (cs : List Char) : ∃ blanks, Blanks blanks ∧ cs = blanks ++ skip cs :=
  ⟨cs.takeWhile isBlank, fun _ => List.mem_takeWhile_imp, List.takeWhile_append_dropWhile.symm⟩

theorem exists_blanks_of_skip (h : skip cs = rest) :
    ∃ blanks, Blanks blanks ∧ cs = blanks ++ rest := h ▸ exists_blanks cs

/-- Only a digit, a point or the letter of an exponent can continue a number. -/
theorem not_continues_cons (digit : c.isDigit = false) (point : c ≠ '.')
    (letter : ¬ (c = 'e' ∨ c = 'E')) : ¬ Continues (c :: rest) := by
  intro h
  cases h with
  | digit isDigit => simp [digit] at isDigit
  | fraction => exact point rfl
  | exponent isLetter => exact letter isLetter

theorem not_continues_nil : ¬ Continues [] := nofun

/-- Blanks do not continue a number. -/
theorem not_continues_blanks (blank : Blanks blanks) (stop : ¬ Continues rest) :
    ¬ Continues (blanks ++ rest) := by
  cases blanks with
  | nil => exact stop
  | cons c blanks =>
      have hc : isBlank c = true := blank c (by simp)
      simp only [isBlank, Bool.or_eq_true, decide_eq_true_eq] at hc
      rcases hc with ((rfl | rfl) | rfl) | rfl <;>
        exact not_continues_cons (by decide) (by decide) (by decide)

end BlankRuns

section Openings

variable {cs rest : List Char} {v : Value} {t : Text} {vs : List Value} {pair : Text × Value}
  {pairs : List (Text × Value)}

/-- The characters that a name or a number starts with. -/
def OpensAtom (c : Char) : Prop := c ∈ ['-', 'n', 't', 'f', 'N', 'I'] ∨ c.isDigit = true

/-- The characters that a value starts with. -/
def Opens (c : Char) : Prop := c ∈ ['"', '[', '\x7b'] ∨ OpensAtom c

theorem OpensAtom.ne {c other : Char} (opens : OpensAtom c)
    (h : other ∉ ['-', 'n', 't', 'f', 'N', 'I']) (hdigit : other.isDigit = false) : c ≠ other := by
  rintro rfl
  rcases opens with hmem | hyes
  · exact h hmem
  · simp [hdigit] at hyes

theorem Opens.ne {c other : Char} (opens : Opens c) (h : other ∉ ['"', '[', '\x7b'])
    (h' : other ∉ ['-', 'n', 't', 'f', 'N', 'I']) (hdigit : other.isDigit = false) : c ≠ other := by
  rcases opens with hmem | hatom
  · rintro rfl
    exact h hmem
  · exact hatom.ne h' hdigit

theorem Opens.not_blank {c : Char} (opens : Opens c) : isBlank c = false := by
  simp only [isBlank, Bool.or_eq_false_iff, decide_eq_false_iff_not]
  refine ⟨⟨⟨?_, ?_⟩, ?_⟩, ?_⟩ <;> exact opens.ne (by decide) (by decide) (by decide)

theorem OpensAtom.not_mem {c : Char} (opens : OpensAtom c) : c ∉ ['"', '[', '\x7b'] := by
  simp only [List.mem_cons, List.not_mem_nil, or_false, not_or]
  refine ⟨?_, ?_, ?_⟩ <;> exact opens.ne (by decide) (by decide)

/-- No byte order mark comes first where only blanks stand before a value. -/
theorem head?_ne_mark {blanks body : List Char} (blank : Blanks blanks)
    (opening : ∃ c cs', body = c :: cs' ∧ Opens c) : (blanks ++ body).head? ≠ some '\uFEFF' := by
  cases blanks with
  | nil =>
      obtain ⟨c, cs', rfl, opens⟩ := opening
      have hne : c ≠ '\uFEFF' := opens.ne (by decide) (by decide) rfl
      simpa using hne
  | cons c blanks =>
      rintro heq
      obtain rfl : c = '\uFEFF' := by simpa using heq
      exact absurd (blank '\uFEFF' (by simp)) (by decide)

theorem SpellsAtom.exists_cons (spelled : SpellsAtom cs v) :
    ∃ c cs', cs = c :: cs' ∧ OpensAtom c := by
  have minus_whole : ∀ {negative digits} (more : List Char), IsWhole digits →
      ∃ c cs', minus negative ++ (digits ++ more) = c :: cs' ∧ OpensAtom c := by
    intro negative digits more whole
    obtain ⟨d, ds, rfl, hd⟩ := whole.exists_cons
    cases negative with
    | true => exact ⟨'-', _, rfl, .inl (by decide)⟩
    | false => exact ⟨d, _, rfl, .inr hd⟩
  cases spelled with
  | name known =>
      simp only [names, List.mem_cons, List.not_mem_nil, or_false, Prod.mk.injEq] at known
      rcases known with ⟨rfl, -⟩ | ⟨rfl, -⟩ | ⟨rfl, -⟩ | ⟨rfl, -⟩ | ⟨rfl, -⟩ | ⟨rfl, -⟩ <;>
        exact ⟨_, _, rfl, .inl (by decide)⟩
  | integer whole => simpa using minus_whole [] whole
  | number whole => exact minus_whole _ whole

theorem Spells.exists_cons (spelled : Spells cs v) : ∃ c cs', cs = c :: cs' ∧ Opens c := by
  cases spelled with
  | atom atom =>
      obtain ⟨c, cs', rfl, opens⟩ := atom.exists_cons
      exact ⟨c, cs', rfl, .inr opens⟩
  | text string =>
      obtain ⟨body, rfl, -⟩ := string
      exact ⟨_, _, rfl, .inl (by decide)⟩
  | noItems | items | noMembers | members => exact ⟨_, _, rfl, .inl (by decide)⟩

theorem SpellsItems.exists_cons (spelled : SpellsItems cs vs) :
    ∃ c cs', cs = c :: cs' ∧ Opens c := by
  cases spelled with
  | last item | more item =>
      obtain ⟨c, cs', rfl, opens⟩ := item.exists_cons
      exact ⟨c, _, rfl, opens⟩

theorem SpellsMember.exists_cons (spelled : SpellsMember cs pair) : ∃ cs', cs = '"' :: cs' := by
  obtain @⟨key, before, after, cs, k, v, ⟨body, rfl, -⟩, -, -, -⟩ := spelled
  exact ⟨_, rfl⟩

theorem SpellsMembers.exists_cons (spelled : SpellsMembers cs pairs) : ∃ cs', cs = '"' :: cs' := by
  cases spelled with
  | last member | more member =>
      obtain ⟨cs', rfl⟩ := member.exists_cons
      exact ⟨_, rfl⟩

/-- Blanks before a value are skipped, and the value's own characters are not. -/
theorem Spells.skip {blanks : List Char} (spelled : Spells cs v) (blank : Blanks blanks)
    (rest : List Char) : skip (blanks ++ (cs ++ rest)) = cs ++ rest := by
  obtain ⟨c, cs', rfl, opens⟩ := spelled.exists_cons
  exact skip_append blank opens.not_blank

theorem SpellsItems.skip {blanks : List Char} (spelled : SpellsItems cs vs) (blank : Blanks blanks)
    (rest : List Char) : skip (blanks ++ (cs ++ rest)) = cs ++ rest := by
  obtain ⟨c, cs', rfl, opens⟩ := spelled.exists_cons
  exact skip_append blank opens.not_blank

theorem SpellsMembers.skip {blanks : List Char} (spelled : SpellsMembers cs pairs)
    (blank : Blanks blanks) (rest : List Char) : skip (blanks ++ (cs ++ rest)) = cs ++ rest := by
  obtain ⟨cs', rfl⟩ := spelled.exists_cons
  exact skip_append blank rfl

end Openings

section Steps

variable {c : Char} {cs rest : List Char} {fuel : Nat} {v : Value} {k : Text}

theorem readValue_string (fuel : Nat) (cs : List Char) :
    readValue (fuel + 1) ('"' :: cs) =
      readString ('"' :: cs) fuel cs >>= fun read => .ok (.text read.1, read.2) := by
  rw [readValue]
  rfl

theorem readValue_noItems (fuel : Nat) (h : skip cs = ']' :: rest) :
    readValue (fuel + 1) ('[' :: cs) = .ok (.list [], rest) := by
  simp only [readValue, h]

theorem readValue_items (fuel : Nat) (h : (skip cs).head? ≠ some ']') :
    readValue (fuel + 1) ('[' :: cs) =
      readItems fuel (skip cs) >>= fun read => .ok (.list read.1, read.2) := by
  simp only [readValue]
  split
  next heq => simp [heq] at h
  next => rfl

theorem readValue_noMembers (fuel : Nat) (h : skip cs = '\x7d' :: rest) :
    readValue (fuel + 1) ('\x7b' :: cs) = .ok (.mapping [], rest) := by
  simp only [readValue, h]

theorem readValue_members (fuel : Nat) (h : (skip cs).head? ≠ some '\x7d') :
    readValue (fuel + 1) ('\x7b' :: cs) =
      readMembers fuel (skip cs) >>= fun read =>
        .ok (.mapping (Entries.ofPairs read.1), read.2) := by
  simp only [readValue]
  split
  next heq => simp [heq] at h
  next => rfl

theorem readValue_atom (fuel : Nat) (h : c ∉ ['"', '[', '\x7b']) :
    readValue (fuel + 1) (c :: cs) = readAtom (c :: cs) := by
  simp only [List.mem_cons, List.not_mem_nil, or_false, not_or] at h
  simp [readValue, h]

/-- After an item comes the end of the array or a comma with another item. -/
theorem readItems_last (h : readValue fuel cs = .ok (v, rest)) {rest' : List Char}
    (close : skip rest = ']' :: rest') : readItems (fuel + 1) cs = .ok ([v], rest') := by
  simp [readItems, h, close]

theorem readItems_more (h : readValue fuel cs = .ok (v, rest)) {others : List Char}
    (comma : skip rest = ',' :: others) :
    readItems (fuel + 1) cs =
      readItems fuel (skip others) >>= fun read => .ok (v :: read.1, read.2) := by
  simp [readItems, h, comma]

/-- After a member comes the end of the object or a comma with another member. -/
theorem readMembers_last {value rest' rest'' : List Char}
    (key : readString ('"' :: cs) fuel cs = .ok (k, rest)) (colon : skip rest = ':' :: value)
    (h : readValue fuel (skip value) = .ok (v, rest')) (close : skip rest' = '\x7d' :: rest'') :
    readMembers (fuel + 1) ('"' :: cs) = .ok ([(k, v)], rest'') := by
  simp [readMembers, key, colon, h, close]

theorem readMembers_more {value rest' others : List Char}
    (key : readString ('"' :: cs) fuel cs = .ok (k, rest)) (colon : skip rest = ':' :: value)
    (h : readValue fuel (skip value) = .ok (v, rest')) (comma : skip rest' = ',' :: others) :
    readMembers (fuel + 1) ('"' :: cs) =
      readMembers fuel (skip others) >>= fun read => .ok ((k, v) :: read.1, read.2) := by
  simp [readMembers, key, colon, h, comma]

end Steps

section Completeness

/-- A string is read up to its closing quote. -/
theorem readString_of_spellsString {cs : List Char} {t : Text} (fuel : Nat) (rest : List Char)
    (spelled : SpellsString cs t) (enough : cs.length ≤ fuel + 1) :
    ∃ body, cs ++ rest = '"' :: body ∧
      ∀ opening, readString opening fuel body = .ok (t, rest) := by
  obtain ⟨body, rfl, spells⟩ := spelled
  refine ⟨body ++ '"' :: rest, by simp, fun opening => ?_⟩
  refine readString_of_spellsText spells opening rest ?_
  simp at enough
  omega

/-- The end of an array or of an object and a comma do not continue a number. -/
theorem not_continues_delimiter {blanks : List Char} (c : Char) (rest : List Char)
    (blank : Blanks blanks) (h : c ∈ [']', '\x7d', ',']) : ¬ Continues (blanks ++ c :: rest) := by
  refine not_continues_blanks blank ?_
  simp only [List.mem_cons, List.not_mem_nil, or_false] at h
  rcases h with rfl | rfl | rfl <;> exact not_continues_cons (by decide) (by decide) (by decide)

/-- With this fuel the nested readers read everything that is spelled in half as many characters.
A value is read unless its last number goes on, items and members are read up to the end of the
array or of the object. -/
structure ReadsSpelled (fuel : Nat) : Prop where
  value : ∀ {cs v rest}, Spells cs v → 2 * cs.length ≤ fuel → ¬ Continues rest →
    readValue fuel (cs ++ rest) = .ok (v, rest)
  items : ∀ {cs vs rest}, SpellsItems cs vs → 2 * cs.length + 1 ≤ fuel →
    readItems fuel (cs ++ ']' :: rest) = .ok (vs, rest)
  members : ∀ {cs pairs rest}, SpellsMembers cs pairs → 2 * cs.length + 1 ≤ fuel →
    readMembers fuel (cs ++ '\x7d' :: rest) = .ok (pairs, rest)

variable {cs rest : List Char} {fuel : Nat} {v : Value} {vs : List Value}
  {pairs : List (Text × Value)}

theorem ReadsSpelled.value_succ (reads : ReadsSpelled fuel) (spelled : Spells cs v)
    (enough : 2 * cs.length ≤ fuel + 1) (stop : ¬ Continues rest) :
    readValue (fuel + 1) (cs ++ rest) = .ok (v, rest) := by
  cases spelled with
  | atom atom =>
      obtain ⟨c, cs', rfl, opens⟩ := atom.exists_cons
      rw [List.cons_append, readValue_atom fuel opens.not_mem, ← List.cons_append]
      exact readAtom_of_spellsAtom atom stop
  | text string =>
      obtain ⟨body, heq, hread⟩ := readString_of_spellsString fuel rest string
        (by omega)
      rw [heq, readValue_string, hread]
      rfl
  | @noItems blanks blank =>
      have hskip : skip (blanks ++ ']' :: rest) = ']' :: rest := skip_append blank rfl
      simpa using readValue_noItems fuel hskip
  | @items blanks body vs blank items =>
      have hskip := items.skip blank (']' :: rest)
      have hopen : (skip (blanks ++ (body ++ ']' :: rest))).head? ≠ some ']' := by
        obtain ⟨c, cs', rfl, opens⟩ := items.exists_cons
        rw [hskip]
        simpa using opens.ne (by decide) (by decide) rfl
      have hread := readValue_items fuel hopen
      rw [hskip, reads.items items (by simp at enough; omega)] at hread
      simpa using hread
  | @noMembers blanks blank =>
      have hskip : skip (blanks ++ '\x7d' :: rest) = '\x7d' :: rest := skip_append blank rfl
      simpa using readValue_noMembers fuel hskip
  | @members blanks body pairs entries blank members collect =>
      have hskip := members.skip blank ('\x7d' :: rest)
      have hopen : (skip (blanks ++ (body ++ '\x7d' :: rest))).head? ≠ some '\x7d' := by
        obtain ⟨cs', rfl⟩ := members.exists_cons
        rw [hskip]
        simp
      have hread := readValue_members fuel hopen
      rw [hskip, reads.members members (by simp at enough; omega)] at hread
      simpa [collect.eq_ofPairs] using hread

theorem ReadsSpelled.items_succ (reads : ReadsSpelled fuel) (spelled : SpellsItems cs vs)
    (enough : 2 * cs.length + 1 ≤ fuel + 1) :
    readItems (fuel + 1) (cs ++ ']' :: rest) = .ok (vs, rest) := by
  cases spelled with
  | @last cs blanks v item blank =>
      have hfirst := reads.value item (by simp at enough; omega)
        (not_continues_delimiter ']' rest blank (by decide))
      have hskip : skip (blanks ++ ']' :: rest) = ']' :: rest := skip_append blank rfl
      simpa using readItems_last hfirst hskip
  | @more cs blanks blanks' others v vs item blank blank' tail =>
      have hfirst := reads.value item (by simp at enough; omega)
        (not_continues_delimiter ',' (blanks' ++ (others ++ ']' :: rest)) blank
          (by decide))
      have hread := readItems_more hfirst (skip_append blank rfl)
      rw [tail.skip blank', reads.items tail (by simp at enough; omega)] at hread
      simpa using hread

theorem ReadsSpelled.members_succ (reads : ReadsSpelled fuel) (spelled : SpellsMembers cs pairs)
    (enough : 2 * cs.length + 1 ≤ fuel + 1) :
    readMembers (fuel + 1) (cs ++ '\x7d' :: rest) = .ok (pairs, rest) := by
  cases spelled with
  | @last cs blanks pair member blank =>
      obtain @⟨key, before, after, cs, k, v, name, blank₁, blank₂, value⟩ := member
      obtain ⟨body, heq, hkey⟩ := readString_of_spellsString fuel
        (before ++ ':' :: (after ++ (cs ++ (blanks ++ '\x7d' :: rest)))) name
        (by simp at enough; omega)
      have hvalue := reads.value value (by simp at enough; omega)
        (not_continues_delimiter '\x7d' rest blank (by decide))
      rw [← value.skip blank₂] at hvalue
      have hread := readMembers_last (hkey _) (skip_append blank₁ rfl) hvalue
        (skip_append blank rfl)
      rw [← heq] at hread
      simpa using hread
  | @more cs blanks blanks' others pair pairs member blank blank' tail =>
      obtain @⟨key, before, after, cs, k, v, name, blank₁, blank₂, value⟩ := member
      obtain ⟨body, heq, hkey⟩ := readString_of_spellsString fuel
        (before ++ ':' ::
          (after ++ (cs ++ (blanks ++ ',' :: (blanks' ++ (others ++ '\x7d' :: rest))))))
        name (by simp at enough; omega)
      have hvalue := reads.value value (by simp at enough; omega)
        (not_continues_delimiter ',' (blanks' ++ (others ++ '\x7d' :: rest)) blank
          (by decide))
      rw [← value.skip blank₂] at hvalue
      have hread := readMembers_more (hkey _) (skip_append blank₁ rfl) hvalue
        (skip_append blank rfl)
      rw [← heq, tail.skip blank', reads.members tail (by simp at enough; omega)] at hread
      simpa using hread

theorem readsSpelled (fuel : Nat) : ReadsSpelled fuel := by
  induction fuel with
  | zero =>
      refine ⟨fun spelled enough => ?_, fun _ enough => ?_, fun _ enough => ?_⟩
      · obtain ⟨c, cs', rfl, -⟩ := spelled.exists_cons
        simp at enough
      · simp at enough
      · simp at enough
  | succ fuel reads => exact ⟨reads.value_succ, reads.items_succ, reads.members_succ⟩

end Completeness

section Soundness

variable {cs rest : List Char} {v : Value} {t : Text} {vs : List Value}
  {pairs : List (Text × Value)} {fuel : Nat}

theorem spellsString_of_readString {opening : List Char}
    (h : readString opening fuel cs = .ok (t, rest)) :
    ∃ key, '"' :: cs = key ++ rest ∧ SpellsString key t := by
  obtain ⟨body, rfl, spells⟩ := spellsText_of_readString h
  exact ⟨_, by simp, body, rfl, spells⟩

/-- With this fuel what the nested readers take spells what they give. -/
structure TakesSpelled (fuel : Nat) : Prop where
  value : ∀ {cs v rest}, readValue fuel cs = .ok (v, rest) →
    ∃ body, cs = body ++ rest ∧ Spells body v
  items : ∀ {cs vs rest}, readItems fuel cs = .ok (vs, rest) →
    ∃ body, cs = body ++ ']' :: rest ∧ SpellsItems body vs
  members : ∀ {cs pairs rest}, readMembers fuel cs = .ok (pairs, rest) →
    ∃ body, cs = body ++ '\x7d' :: rest ∧ SpellsMembers body pairs

theorem TakesSpelled.value_succ (ih : TakesSpelled fuel)
    (h : readValue (fuel + 1) cs = .ok (v, rest)) : ∃ body, cs = body ++ rest ∧ Spells body v := by
  simp only [readValue] at h
  split at h
  · obtain ⟨⟨t, rest⟩, hread, hv⟩ := Outcome.bind_eq_ok_iff.mp h
    obtain ⟨rfl, rfl⟩ := Prod.mk.inj (Except.ok.inj hv)
    obtain ⟨key, heq, string⟩ := spellsString_of_readString hread
    exact ⟨key, heq, .text string⟩
  · split at h
    next hskip =>
      obtain ⟨rfl, rfl⟩ := Prod.mk.inj (Except.ok.inj h)
      obtain ⟨blanks, blank, rfl⟩ := exists_blanks_of_skip hskip
      exact ⟨_, by simp, .noItems blank⟩
    · obtain ⟨⟨vs, rest⟩, hread, hv⟩ := Outcome.bind_eq_ok_iff.mp h
      obtain ⟨rfl, rfl⟩ := Prod.mk.inj (Except.ok.inj hv)
      obtain ⟨body, hbody, items⟩ := ih.items hread
      obtain ⟨blanks, blank, rfl⟩ := exists_blanks_of_skip hbody
      exact ⟨_, by simp, .items blank items⟩
  · split at h
    next hskip =>
      obtain ⟨rfl, rfl⟩ := Prod.mk.inj (Except.ok.inj h)
      obtain ⟨blanks, blank, rfl⟩ := exists_blanks_of_skip hskip
      exact ⟨_, by simp, .noMembers blank⟩
    · obtain ⟨⟨pairs, rest⟩, hread, hv⟩ := Outcome.bind_eq_ok_iff.mp h
      obtain ⟨rfl, rfl⟩ := Prod.mk.inj (Except.ok.inj hv)
      obtain ⟨body, hbody, members⟩ := ih.members hread
      obtain ⟨blanks, blank, rfl⟩ := exists_blanks_of_skip hbody
      exact ⟨_, by simp, .members blank members (Entries.ofPairs_collects pairs)⟩
  · obtain ⟨body, rfl, atom⟩ := spellsAtom_of_readAtom h
    exact ⟨body, rfl, .atom atom⟩

theorem TakesSpelled.items_succ (ih : TakesSpelled fuel)
    (h : readItems (fuel + 1) cs = .ok (vs, rest)) :
    ∃ body, cs = body ++ ']' :: rest ∧ SpellsItems body vs := by
  simp only [readItems] at h
  obtain ⟨⟨v, tail⟩, hfirst, hrest⟩ := Outcome.bind_eq_ok_iff.mp h
  dsimp only at hrest
  obtain ⟨body, rfl, item⟩ := ih.value hfirst
  split at hrest
  next hskip =>
    obtain ⟨rfl, rfl⟩ := Prod.mk.inj (Except.ok.inj hrest)
    obtain ⟨blanks, blank, rfl⟩ := exists_blanks_of_skip hskip
    exact ⟨_, by simp, .last item blank⟩
  next hskip =>
    obtain ⟨⟨vs, rest⟩, hread, hvs⟩ := Outcome.bind_eq_ok_iff.mp hrest
    obtain ⟨rfl, rfl⟩ := Prod.mk.inj (Except.ok.inj hvs)
    obtain ⟨others, hothers, items⟩ := ih.items hread
    obtain ⟨blanks, blank, rfl⟩ := exists_blanks_of_skip hskip
    obtain ⟨blanks', blank', rfl⟩ := exists_blanks_of_skip hothers
    exact ⟨_, by simp, .more item blank blank' items⟩
  · simp at hrest

theorem TakesSpelled.members_succ (ih : TakesSpelled fuel)
    (h : readMembers (fuel + 1) cs = .ok (pairs, rest)) :
    ∃ body, cs = body ++ '\x7d' :: rest ∧ SpellsMembers body pairs := by
  simp only [readMembers] at h
  split at h
  · obtain ⟨⟨k, tail⟩, hkey, h⟩ := Outcome.bind_eq_ok_iff.mp h
    obtain ⟨key, heq, name⟩ := spellsString_of_readString hkey
    rw [heq]
    split at h
    next hcolon =>
      obtain ⟨⟨v, tail'⟩, hvalue, h⟩ := Outcome.bind_eq_ok_iff.mp h
      obtain ⟨body, hbody, value⟩ := ih.value hvalue
      obtain ⟨before, blank₁, rfl⟩ := exists_blanks_of_skip hcolon
      obtain ⟨after, blank₂, rfl⟩ := exists_blanks_of_skip hbody
      have member := SpellsMember.member name blank₁ blank₂ value
      split at h
      next hskip =>
        obtain ⟨rfl, rfl⟩ := Prod.mk.inj (Except.ok.inj h)
        obtain ⟨blanks, blank, rfl⟩ := exists_blanks_of_skip hskip
        exact ⟨_, by simp, .last member blank⟩
      next hskip =>
        obtain ⟨⟨pairs, rest⟩, hread, hpairs⟩ := Outcome.bind_eq_ok_iff.mp h
        obtain ⟨rfl, rfl⟩ := Prod.mk.inj (Except.ok.inj hpairs)
        obtain ⟨others, hothers, members⟩ := ih.members hread
        obtain ⟨blanks, blank, rfl⟩ := exists_blanks_of_skip hskip
        obtain ⟨blanks', blank', rfl⟩ := exists_blanks_of_skip hothers
        exact ⟨_, by simp, .more member blank blank' members⟩
      · simp at h
    · simp at h
  · simp at h

theorem takesSpelled (fuel : Nat) : TakesSpelled fuel := by
  induction fuel with
  | zero =>
      refine ⟨fun h => ?_, fun h => ?_, fun h => ?_⟩
      · simp [readValue] at h
      · simp [readItems] at h
      · simp [readMembers] at h
  | succ fuel ih => exact ⟨ih.value_succ, ih.items_succ, ih.members_succ⟩

end Soundness

section Whole

variable {cs : List Char} {v : Value}

theorem readAll_eq_ok_iff : readAll cs = .ok v ↔ IsTextOf cs v := by
  constructor
  · intro h
    rw [readAll] at h
    obtain ⟨⟨v', rest⟩, hread, h⟩ := Outcome.bind_eq_ok_iff.mp h
    dsimp only at h
    split at h
    next hskip =>
      obtain rfl := Except.ok.inj h
      obtain ⟨body, hbody, spells⟩ := (takesSpelled _).value hread
      obtain ⟨before, blank, rfl⟩ := exists_blanks_of_skip hbody
      obtain ⟨after, blank', rfl⟩ := exists_blanks_of_skip hskip
      exact ⟨before, body, after, by simp, blank, by simpa using blank', spells⟩
    · simp at h
  · rintro ⟨before, body, after, rfl, blank, blank', spells⟩
    have hstop : ¬ Continues after := by simpa using not_continues_blanks blank' not_continues_nil
    have hread := (readsSpelled (2 * (before ++ (body ++ after)).length + 2)).value spells
      (by simp; omega) hstop
    rw [readAll, spells.skip blank, hread, Outcome.ok_bind]
    simp only [skip_blanks blank']
    rfl

theorem IsTextOf.head?_ne (h : IsTextOf cs v) : cs.head? ≠ some '\uFEFF' := by
  obtain ⟨before, body, after, rfl, blank, -, spells⟩ := h
  obtain ⟨c, cs', rfl, opens⟩ := spells.exists_cons
  exact head?_ne_mark blank ⟨c, _, rfl, opens⟩

/-- Reading gives a value exactly for the JSON texts of the value. -/
theorem read_eq_ok_iff : read cs = .ok v ↔ IsTextOf cs v := by
  rw [← readAll_eq_ok_iff]
  unfold read
  split
  next rest =>
    have hnot : ¬ readAll ('\uFEFF' :: rest) = .ok v := fun h =>
      (readAll_eq_ok_iff.mp h).head?_ne rfl
    simpa using hnot
  next => split <;> simp_all

end Whole

end OrderNarration.Json
