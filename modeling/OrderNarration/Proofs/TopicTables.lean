import OrderNarration.EventLog
import OrderNarration.Proofs.JsonGrammar
import OrderNarration.Proofs.LogContainment
import OrderNarration.Proofs.LowercaseTexts

/-!
# Topic tables and classification

A table of topics is read in two directions: from the hash of a topic to its kind, and from
a kind to its first hash. The two undo each other for every table whose hashes are in their
normal form. The normal form is final, so a topic that was brought to it when its log was
read is classified as the topic that the log stated.
-/

namespace OrderNarration

namespace Hex

theorem toLower_of_value? {c : Char} {n : Nat} (h : value? c = some n) :
    c.toLower = digit n ∧ n < 16 := by
  have hascii : ∀ k : Fin 128, ∀ n ∈ value? (Char.ofNat k),
      (Char.ofNat k).toLower = digit n ∧ n < 16 := by decide +kernel
  exact of_forall_ascii (p := fun c => ∀ n ∈ value? c, c.toLower = digit n ∧ n < 16) hascii
    (toNat_lt_of_value? h) n h

/-- Digits that are read as bytes are the digits of these bytes in either case. -/
theorem map_toLower_of_decode {digits : List Char} {bytes : List UInt8}
    (h : decode digits = .ok bytes) : digits.map Char.toLower = encode bytes := by
  fun_induction decode digits generalizing bytes with
  | case1 =>
      obtain rfl := Except.ok.inj h
      rfl
  | case2 => cases h
  | case3 high low rest m n hhigh hlow ih =>
      obtain ⟨others, hothers, hbytes⟩ := Outcome.bind_eq_ok_iff.mp h
      obtain rfl := Except.ok.inj hbytes
      obtain ⟨hupper, hm⟩ := toLower_of_value? hhigh
      obtain ⟨hlower, hn⟩ := toLower_of_value? hlow
      have hbyte : (UInt8.ofNat (16 * m + n)).toNat = 16 * m + n :=
        UInt8.toNat_ofNat_of_lt (by change 16 * m + n < 256; omega)
      have hdiv : (16 * m + n) / 16 = m := by omega
      have hmod : (16 * m + n) % 16 = n := by omega
      rw [List.map_cons, List.map_cons, hupper, hlower, ih hothers, encode, encode,
        List.flatMap_cons, hbyte, hdiv, hmod]
      rfl
  | case4 => cases h
  | case5 => cases h

theorem eq_ofChars_of_foreignRun {t : Text} {position : Nat} (h : foreignRun position t = none) :
    t = Text.ofChars (t.filterMap CodePoint.char?) := by
  induction t generalizing position with
  | nil => rfl
  | cons c rest ih =>
      rw [foreignRun] at h
      split at h
      next hsmall =>
        cases c with
        | scalar c => exact congrArg _ (ih h)
        | surrogate k =>
            simp only [CodePoint.number] at hsmall
            omega
      next => cases h

theorem exists_marker_unmarked (t : Text) :
    ∃ marker, IsMarker marker ∧ t = Text.ofChars marker ++ unmarked t := by
  rw [unmarked]
  split
  next hmarked =>
    unfold isMarked at hmarked
    split at hmarked
    next x rest =>
      rw [Bool.or_eq_true, beq_iff_eq, beq_iff_eq] at hmarked
      rcases hmarked with rfl | rfl
      · exact ⟨['0', 'x'], .inr (.inl rfl), rfl⟩
      · exact ⟨['0', 'X'], .inr (.inr rfl), rfl⟩
    next => cases hmarked
  next => exact ⟨[], .inl rfl, rfl⟩

/-- A text is read as the bytes that it spells, and as no others. -/
theorem readText_eq_ok_iff {t : Text} {bytes : List UInt8} :
    readText t = .ok bytes ↔ Spells bytes t := by
  refine ⟨fun h => ?_, readText_of_spells⟩
  rw [readText] at h
  split at h
  next => cases h
  next hascii =>
    obtain ⟨marker, hmarker, ht⟩ := exists_marker_unmarked t
    refine ⟨marker, (unmarked t).filterMap CodePoint.char?, hmarker, map_toLower_of_decode h, ?_⟩
    rw [Text.ofChars_append, ← eq_ofChars_of_foreignRun hascii]
    exact ht

end Hex

namespace HashText

/-- The text is the normal form of a hash: lowercase, with the marker in front and without blanks
at its ends. -/
structure IsNormal (t : Text) : Prop where
  marked : Hex.isMarked t = true
  lowercase : ∀ c ∈ t, c.IsLowercase
  stripped : t.IsStripped

variable {t hash : Text}

/-- The text stands for the hash: with blanks around it or without, in letters whose lowercase
form is that of the hash, and with the marker or, unless what is left looks marked, without it. -/
def IsVariant (hash t : Text) : Prop :=
  ∃ before core after, (∀ c ∈ before, CodePoint.isBlank c = true) ∧
    (∀ c ∈ after, CodePoint.isBlank c = true) ∧ core.IsStripped ∧ t = before ++ core ++ after ∧
    (core.lowercase = hash ∨
      Hex.isMarked core.lowercase = false ∧ "0x" ++ core.lowercase = hash)

theorem ofText_of_isNormal (normal : IsNormal t) : ofText t = t := by
  have hstrip : t.strip = t := by
    have hcut : Text.strip ([] ++ t ++ []) = t := Text.trim_append_of_ends (by simp)
      normal.stripped.first normal.stripped.last (by simp)
    rwa [List.nil_append, List.append_nil] at hcut
  rw [ofText, hstrip, Text.lowercase_of_isLowercase normal.lowercase, if_pos normal.marked]

/-- The normal form of every text is normal. -/
theorem ofText_isNormal (t : Text) : IsNormal (ofText t) := by
  obtain ⟨_, _, -, -, stripped, -⟩ := Text.exists_blanks_strip t
  have hends := stripped.lowercase
  have hletters := Text.isLowercase_of_mem_lowercase (t := t.strip)
  rw [ofText]
  split
  next hmarked => exact ⟨hmarked, hletters, hends⟩
  next =>
    refine ⟨rfl, List.forall_mem_append.mpr ⟨?_, hletters⟩, ?_, ?_⟩
    · exact List.forall_mem_cons.mpr ⟨⟨by decide +kernel, by decide⟩,
        List.forall_mem_singleton.mpr ⟨by decide +kernel, by decide⟩⟩
    · intro c hc
      obtain rfl := Option.some.inj hc
      rfl
    · intro c hc
      rw [List.getLast?_append] at hc
      cases hlast : t.strip.lowercase.getLast? with
      | none =>
          rw [hlast] at hc
          obtain rfl := Option.some.inj hc
          rfl
      | some d =>
          rw [hlast] at hc
          obtain rfl := Option.some.inj hc
          exact hends.last d hlast

/-- Bringing a text to the normal form again changes nothing. -/
theorem ofText_ofText (t : Text) : ofText (ofText t) = ofText t :=
  ofText_of_isNormal (ofText_isNormal t)

/-- The texts with the normal form of a hash are its variants. -/
theorem ofText_eq_iff (normal : ofText hash = hash) : ofText t = hash ↔ IsVariant hash t := by
  constructor
  · rintro rfl
    obtain ⟨before, after, hbefore, hafter, stripped, ht⟩ := Text.exists_blanks_strip t
    refine ⟨before, t.strip, after, hbefore, hafter, stripped, ht, ?_⟩
    rw [ofText]
    split
    next => exact .inl rfl
    next hunmarked => exact .inr ⟨Bool.eq_false_iff.mpr hunmarked, rfl⟩
  · rintro ⟨before, core, after, hbefore, hafter, stripped, rfl, hcore⟩
    rw [ofText, Text.strip,
      Text.trim_append_of_ends hbefore stripped.first stripped.last hafter]
    rcases hcore with hsame | ⟨hunmarked, hsame⟩
    · have hmarked := (ofText_isNormal hash).marked
      rw [normal] at hmarked
      rw [hsame, if_pos hmarked]
    · rw [if_neg (Bool.eq_false_iff.mp hunmarked), hsame]

theorem ofValue_text (t : Text) : ofValue (.text t) = .ok (some (ofText t)) := rfl

/-- A text that spells bytes is a spelling of them without blanks. -/
theorem spells_of_spells {bytes : List UInt8} (h : Hex.Spells bytes t) : Spells bytes t :=
  ⟨[], t, [], by simp, by simp, h, by simp⟩

theorem ofText_marked (bytes : List UInt8) : ofText (Hex.marked bytes) = Hex.marked bytes := by
  have hdigits := Hex.map_toLower_of_decode (Hex.decode_encode bytes)
  exact ofText_of_spells (spells_of_spells ⟨['0', 'x'], _, .inr (.inl rfl), hdigits, rfl⟩)

/-- A value that has a normal form has that of a text, unless it is null. -/
theorem exists_ofText_of_ofValue {v : Value} {hash : Text} (h : ofValue v = .ok (some hash)) :
    ∃ t, hash = ofText t := by
  cases v with
  | null => cases h
  | bytes b =>
      obtain rfl := Option.some.inj (Except.ok.inj h)
      exact ⟨_, (ofText_marked b).symm⟩
  | _ =>
      change some <$> (ofText <$> Value.shown _) = .ok (some hash) at h
      obtain ⟨found, hfound, hsome⟩ := Outcome.map_eq_ok_iff.mp h
      obtain ⟨t, -, ht⟩ := Outcome.map_eq_ok_iff.mp hfound
      exact ⟨t, (Option.some.inj hsome).symm.trans ht.symm⟩

/-- The normal form of a value, as a value. -/
def value (hash : Option Text) : Value := (hash.map Value.text).getD .null

/-- The normal form of a value is its own normal form. -/
theorem ofValue_value {v : Value} {hash : Option Text} (h : ofValue v = .ok hash) :
    ofValue (value hash) = .ok hash := by
  cases hash with
  | none => rfl
  | some hash =>
      obtain ⟨t, rfl⟩ := exists_ofText_of_ofValue h
      exact (ofValue_text _).trans (by rw [ofText_ofText])

end HashText

/-- The topics of a log are the normal forms of those that its entry states, in their order. -/
theorem EventLog.ofValue_topics {entry : Value} {log : EventLog} (h : ofValue entry = .ok log) :
    ∃ topics items hashes, entry.field "topics" = .ok topics ∧ topics.itemsOrNone = .ok items ∧
      List.Forall₂ (fun item hash => HashText.ofValue item = .ok hash) items hashes ∧
      log.topics = hashes.map HashText.value := by
  rw [ofValue] at h
  simp only [Outcome.bind_eq_ok_iff, Outcome.mapError_eq_ok_iff] at h
  obtain ⟨topics, htopics, items, hitems, hashes, hhashes, _, -, _, -, _, -, _, -, _, -, hlog⟩ := h
  obtain rfl := Except.ok.inj hlog
  exact ⟨topics, items, hashes, htopics, hitems, Outcome.mapM_eq_ok_iff.mp hhashes, rfl⟩

theorem Entries.get?_of_mem {α : Type u} {entries : Entries α} {key : Text} {value : α}
    (distinct : (entries.map Prod.fst).Nodup) (h : (key, value) ∈ entries) :
    get? key entries = some value := by
  induction entries with
  | nil => cases h
  | cons e rest ih =>
      obtain ⟨hfresh, hrest⟩ := List.nodup_cons.mp distinct
      rcases List.mem_cons.mp h with rfl | h
      · exact if_pos rfl
      · have hother : e.1 ≠ key := by
          rintro rfl
          exact hfresh (List.mem_map.mpr ⟨_, h, rfl⟩)
        exact (if_neg hother).trans (ih hrest h)

namespace TopicTable

variable {table : TopicTable} {kind : EventKind} {topic : Text} {v : Value}

/-- The topic of a kind stands in the table with this kind. -/
theorem mem_of_topicFor? (h : table.topicFor? kind = some topic) : (topic, kind) ∈ table := by
  obtain ⟨e, hfind, rfl⟩ := Option.map_eq_some_iff.mp h
  have hkind : e.2 = kind := by simpa using List.find?_some hfind
  exact hkind ▸ List.mem_of_find?_eq_some hfind

/-- What has the normal form of a kind's topic is classified as of this kind. -/
theorem classify_of_topicFor? (distinct : (table.map Prod.fst).Nodup)
    (h : table.topicFor? kind = some topic) (hv : HashText.ofValue v = .ok (some topic)) :
    (table.classify v).outcome = .ok ⟨kind, some topic⟩ := by
  rw [classify_outcome, classification, hv]
  simp [Entries.get?_of_mem distinct (mem_of_topicFor? h)]

/-- Only a kind that has a topic is found by classifying. -/
theorem exists_topicFor?_of_classify {c : Classification} (known : c.kind ≠ .unknown)
    (h : (table.classify v).outcome = .ok c) : ∃ topic, table.topicFor? c.kind = some topic := by
  rw [classify_outcome] at h
  obtain rfl := Except.ok.inj h
  have hmem : ∃ topic, (topic, (table.classification v).kind) ∈ table := by
    rw [classification] at known ⊢
    split at known
    · exact absurd rfl known
    next topic _ =>
      cases hget : Entries.get? topic table with
      | none => simp [hget] at known
      | some kind => exact ⟨topic, Entries.mem_of_get? hget⟩
    · exact absurd rfl known
  obtain ⟨topic, htopic⟩ := hmem
  have hfound : (table.find? fun e => e.2 = (table.classification v).kind).isSome = true :=
    List.find?_isSome.mpr ⟨_, htopic, by simp⟩
  obtain ⟨e, he⟩ := Option.isSome_iff_exists.mp hfound
  exact ⟨e.1, by rw [topicFor?, he]; rfl⟩

/-- A value and its normal form are classified alike, and without a diagnostic. -/
theorem classify_value {hash : Option Text} (h : HashText.ofValue v = .ok hash) :
    table.classify (HashText.value hash) = table.classify v := by
  rw [classify, classify, h, HashText.ofValue_value h]
  cases hash with
  | none => rfl
  | some hash => rfl

/-- The kind of a log is that of the first topic that its entry states. -/
theorem classify_mainTopic {entry : Value} {log : EventLog}
    (h : EventLog.ofValue entry = .ok log) :
    ∃ topics items, entry.field "topics" = .ok topics ∧ topics.itemsOrNone = .ok items ∧
      table.classify log.mainTopic = table.classify (items.head?.getD .null) := by
  obtain ⟨topics, items, hashes, htopics, hitems, heach, hlog⟩ := EventLog.ofValue_topics h
  refine ⟨topics, items, htopics, hitems, ?_⟩
  rw [EventLog.mainTopic, hlog]
  cases heach with
  | nil => rfl
  | cons hfirst hrest => exact classify_value hfirst

/-- A table whose hashes are distinct and in their normal form is inverted by classification. The
topic of a kind is classified as of this kind, and so is every variant of its text, and, if the
text spells bytes, the bytes and every spelling of them; no other text has the kind with this topic.
A kind without a topic is that of no value. A value is classified as its normal form is, so the log
of an entry is of the kind of the first topic that the entry states. -/
theorem classify_inverts_topicFor (distinct : (table.map Prod.fst).Nodup)
    (normal : ∀ e ∈ table, HashText.ofValue (.text e.1) = .ok (some e.1)) :
    (∀ kind topic, table.topicFor? kind = some topic →
      (∀ t, (table.classify (.text t)).outcome = .ok ⟨kind, some topic⟩ ↔
        HashText.IsVariant topic t) ∧
      (table.classify (.text topic)).outcome = .ok ⟨kind, some topic⟩ ∧
      ∀ bytes, Hex.readText topic = .ok bytes → ∀ v, v.Gives HashText.Spells bytes →
        (table.classify v).outcome = .ok ⟨kind, some topic⟩) ∧
    (∀ kind, kind ≠ .unknown → table.topicFor? kind = none →
      ∀ v c, (table.classify v).outcome = .ok c → c.kind ≠ kind) ∧
    (∀ v hash, HashText.ofValue v = .ok hash →
      table.classify (HashText.value hash) = table.classify v) ∧
    ∀ entry log, EventLog.ofValue entry = .ok log →
      ∃ topics items, entry.field "topics" = .ok topics ∧ topics.itemsOrNone = .ok items ∧
        table.classify log.mainTopic = table.classify (items.head?.getD .null) := by
  refine ⟨?_, ?_, fun _ _ => classify_value, fun _ _ => classify_mainTopic⟩
  · intro kind topic htopic
    have hown : HashText.ofText topic = topic :=
      Option.some.inj (Except.ok.inj (normal _ (mem_of_topicFor? htopic)))
    refine ⟨fun t => ?_, classify_of_topicFor? distinct htopic (congrArg _ (congrArg _ hown)), ?_⟩
    · rw [← HashText.ofText_eq_iff hown]
      constructor
      · intro h
        rw [classify_outcome, classification, HashText.ofValue_text] at h
        exact Option.some.inj (congrArg Classification.topic (Except.ok.inj h))
      · intro ht
        exact classify_of_topicFor? distinct htopic (congrArg _ (congrArg _ ht))
    · intro bytes hbytes v hv
      have hmarked : Hex.marked bytes = topic := by
        rw [← hown]
        have hspells := HashText.spells_of_spells (Hex.readText_eq_ok_iff.mp hbytes)
        exact (HashText.ofText_of_spells hspells).symm
      exact classify_of_topicFor? distinct htopic (hmarked ▸ Value.hashText_of_gives hv)
  · rintro kind known hnone v c hclassify rfl
    obtain ⟨topic, htopic⟩ := exists_topicFor?_of_classify known hclassify
    rw [hnone] at htopic
    cases htopic

end TopicTable

/-- A table with two topics of one kind and a hash that is no hexadecimal text. -/
def severalTopics : TopicTable :=
  [("0xab", .trades), ("0xßi\u0307", .cancel), ("0xcd", .trades)]

/-- The first topic of a kind is found in capital letters between blanks and as bytes, and a hash
that is no hexadecimal text in capital letters whose lowercase form is longer. -/
theorem classify_inverts_topicFor_of_severalTopics :
    (severalTopics.map Prod.fst).Nodup ∧
      (∀ e ∈ severalTopics, HashText.ofValue (.text e.1) = .ok (some e.1)) ∧
      severalTopics.topicFor? .trades = some "0xab" ∧
      (severalTopics.classify (.text "\u2003AB\n")).outcome = .ok ⟨.trades, some "0xab"⟩ ∧
      (severalTopics.classify (.bytes [0xAB])).outcome = .ok ⟨.trades, some "0xab"⟩ ∧
      (severalTopics.classify (.text "0Xßİ")).outcome = .ok ⟨.cancel, some "0xßi\u0307"⟩ := by
  have distinct : (severalTopics.map Prod.fst).Nodup := by decide +kernel
  have normal : ∀ e ∈ severalTopics, HashText.ofValue (.text e.1) = .ok (some e.1) := by
    have hkeys : ∀ e ∈ severalTopics, HashText.ofText e.1 = e.1 := by decide +kernel
    exact fun e he => congrArg (fun t => Except.ok (some t)) (hkeys e he)
  have htrades : severalTopics.topicFor? .trades = some "0xab" := by decide +kernel
  have hcancel : severalTopics.topicFor? .cancel = some "0xßi\u0307" := by decide +kernel
  have hinverse := TopicTable.classify_inverts_topicFor distinct normal
  obtain ⟨hvariants, -, hbytes⟩ := hinverse.1 _ _ htrades
  obtain ⟨hlonger, -, -⟩ := hinverse.1 _ _ hcancel
  refine ⟨distinct, normal, htrades, (hvariants _).mpr ?_, ?_, (hlonger _).mpr ?_⟩
  · refine ⟨"\u2003", "AB", "\n", by decide +kernel, by decide +kernel, ⟨?_, ?_⟩, rfl, ?_⟩
    · decide +kernel
    · decide +kernel
    · exact .inr (by decide +kernel)
  · exact hbytes [0xAB] (by decide +kernel) _ .bytes
  · refine ⟨[], "0Xßİ", [], by simp, by simp, ⟨?_, ?_⟩, rfl, ?_⟩
    · decide +kernel
    · decide +kernel
    · exact .inl (by decide +kernel)

/-- A table with a hash that starts with the marker twice, and one with a letter whose capital form
has two letters. -/
def awkwardTopics : TopicTable := [("0x0xab", .trades), ("0xß", .cancel)]

/-- A hash that starts with the marker twice is not found by its text without the first marker,
and one with a sharp s is not found by its text in capital letters. -/
theorem classify_unknown_of_awkwardTopics :
    (awkwardTopics.map Prod.fst).Nodup ∧
      (∀ e ∈ awkwardTopics, HashText.ofText e.1 = e.1) ∧
      awkwardTopics.topicFor? .trades = some ("0x" ++ "0xab") ∧
      (awkwardTopics.classify (.text "0xab")).outcome = .ok ⟨.unknown, some "0xab"⟩ ∧
      awkwardTopics.topicFor? .cancel = some "0xß" ∧
      (awkwardTopics.classify (.text "0XSS")).outcome = .ok ⟨.unknown, some "0xss"⟩ := by
  refine ⟨by decide +kernel, by decide +kernel, by decide +kernel, ?_, by decide +kernel, ?_⟩
  · exact (TopicTable.classify_outcome _ _).trans (congrArg Except.ok (by decide +kernel))
  · exact (TopicTable.classify_outcome _ _).trans (congrArg Except.ok (by decide +kernel))

end OrderNarration
