import OrderNarration.Proofs.LogShapes
import OrderNarration.Proofs.TextLines

/-!
# Line breaks in messages

A message shows texts that others have chosen: hashes, prices, topics and the wordings of
failures. Only these can bring a line break into it. The words of the narration itself have
none, and what is said of data that cannot be read shows nothing of the data but numbers.
-/

namespace OrderNarration

theorem Rlp.Error.message_isOneLine (e : Rlp.Error) : e.message.IsOneLine := by
  cases e with
  | superfluous count =>
      refine Text.isOneLine_append.mpr ⟨Text.isOneLine_append.mpr ⟨by decide, ?_⟩, by decide⟩
      exact Text.isOneLine_ofInt count
  | _ => decide

theorem Utf8Error.message_isOneLine (e : Utf8Error) : e.message.IsOneLine := by
  have hreason : (reason e.flaw).IsOneLine := by
    cases e.flaw with
    | _ => decide
  rw [message]
  split
  · simp only [Text.isOneLine_append, Text.isOneLine_ofNat, Text.isOneLine_ofHex, hreason]
    decide
  · simp only [Text.isOneLine_append, Text.isOneLine_ofNat, hreason]
    decide

theorem EventKind.label_isOneLine (kind : EventKind) : kind.label.IsOneLine := by
  cases kind with
  | _ => decide

namespace Payload

variable {data : List UInt8} {item : Rlp.Item} {cause : PayloadError}

theorem elements_error_isOneLine (h : elements data = .error cause) :
    cause.message.IsOneLine := by
  rw [elements] at h
  split at h
  next e _ =>
    obtain rfl := Except.error.inj h
    exact Text.isOneLine_append.mpr ⟨by decide, e.message_isOneLine⟩
  · obtain rfl := Except.error.inj h
    decide
  · cases h

theorem textOfItem_error_isOneLine (h : textOfItem item = .error cause) :
    cause.message.IsOneLine := by
  cases item with
  | bytes bytes =>
      rw [textOfItem, textOfBytes] at h
      split at h
      · cases h
      next e _ =>
        obtain rfl := Except.error.inj h
        exact Text.isOneLine_append.mpr ⟨by decide, e.message_isOneLine⟩
  | list items =>
      obtain rfl := Except.error.inj h
      decide

theorem priceBytes_error_isOneLine (h : priceBytes item = .error cause) :
    cause.message.IsOneLine := by
  cases item with
  | list items =>
      obtain rfl := Except.error.inj h
      decide
  | bytes bytes =>
      rw [priceBytes] at h
      split at h
      · obtain rfl := Except.error.inj h
        simp only [PayloadError.message, Text.isOneLine_append, Text.isOneLine_ofNat]
        decide
      · cases h

theorem readTrade_error_isOneLine (h : readTrade data = .error cause) :
    cause.message.IsOneLine := by
  rw [readTrade] at h
  rcases Outcome.bind_eq_error_iff.mp h with helements | ⟨fields, -, h⟩
  · exact elements_error_isOneLine helements
  · split at h
    · rcases Outcome.bind_eq_error_iff.mp h with hbuy | ⟨_, -, h⟩
      · exact textOfItem_error_isOneLine hbuy
      · rcases Outcome.bind_eq_error_iff.mp h with hsell | ⟨_, -, h⟩
        · exact textOfItem_error_isOneLine hsell
        · rcases Outcome.bind_eq_error_iff.mp h with hprice | ⟨_, -, hok⟩
          · exact priceBytes_error_isOneLine hprice
          · cases hok
    · obtain rfl := Except.error.inj h
      simp only [PayloadError.message, Text.isOneLine_append, Text.isOneLine_ofNat]
      decide

theorem readHashes_error_isOneLine (h : readHashes data = .error cause) :
    cause.message.IsOneLine := by
  rcases Outcome.bind_eq_error_iff.mp h with helements | ⟨items, -, h⟩
  · exact elements_error_isOneLine helements
  · obtain ⟨item, -, hitem⟩ := Outcome.exists_of_mapM_eq_error h
    exact textOfItem_error_isOneLine hitem

/-- What is said of malformed data shows nothing of the data but numbers. -/
theorem read_error_isOneLine {kind : EventKind} (h : read kind data = .error cause) :
    cause.message.IsOneLine := by
  cases kind with
  | trades =>
      cases hread : readTrade data with
      | ok t => simp [read, hread] at h
      | error e =>
          obtain rfl : e = cause := by simpa [read, hread] using h
          exact readTrade_error_isOneLine hread
  | triggeredIds =>
      cases hread : readHashes data with
      | ok ids => simp [read, hread] at h
      | error e =>
          obtain rfl : e = cause := by simpa [read, hread] using h
          exact readHashes_error_isOneLine hread
  | canceledIds =>
      cases hread : readHashes data with
      | ok ids => simp [read, hread] at h
      | error e =>
          obtain rfl : e = cause := by simpa [read, hread] using h
          exact readHashes_error_isOneLine hread
  | _ => cases h

end Payload

namespace Record

/-- There is no line break in what the record names: in the values of its data, as they are shown,
and in the hash of its transaction. -/
structure NamesOneLine (r : Record) : Prop where
  data : ∀ e ∈ r.data, e.2.display.IsOneLine
  hash : ∀ hash ∈ r.hash, hash.IsOneLine

instance (r : Record) : Decidable r.NamesOneLine :=
  decidable_of_iff ((∀ e ∈ r.data, e.2.display.IsOneLine) ∧ ∀ hash ∈ r.hash, hash.IsOneLine)
    ⟨fun h => ⟨h.1, h.2⟩, fun h => ⟨h.data, h.hash⟩⟩

/-- What a log narrates by itself: no header, no remark that there are no logs, and a message that
has a line break only if there is one in what it names. -/
structure IsOwn (r : Record) : Prop where
  noHeader : r.kind ≠ .logHeader
  noRemark : r.kind ≠ .noLogs
  message : r.NamesOneLine → r.message.IsOneLine

end Record

namespace Narration

variable {topics : TopicTable} {node : Node} {log : EventLog} {kind : EventKind}
  {place given : Value} {records : List Record}

section Messages

variable {recordKind : RecordKind} {message : Text} {data : Entries Value}

theorem isOwn_record (noHeader : recordKind ≠ .logHeader) (noRemark : recordKind ≠ .noLogs)
    (oneLine : (log.record kind place recordKind message data).NamesOneLine → message.IsOneLine) :
    (log.record kind place recordKind message data).IsOwn :=
  ⟨noHeader, noRemark, oneLine⟩

theorem display_optionalText (t : Option Text) :
    (optionalText t).display = t.getD "None" := by
  cases t with
  | none => rfl
  | some t => rfl

/-- What the data of a record names has no line break if there is none in what the record names. -/
theorem isOneLine_of_named
    (names : (log.record kind place recordKind message data).NamesOneLine) (key : Text)
    {v : Value} (h : (key, v) ∈ data) : v.display.IsOneLine :=
  names.data (key, v) h

theorem isOneLine_shownHash
    (names : (log.record kind place recordKind message data).NamesOneLine) :
    log.shownHash.IsOneLine := by
  rw [EventLog.shownHash]
  cases hhash : log.hash with
  | none => decide
  | some t => exact names.hash t hhash

end Messages

theorem isOneLine_describeOrder {intent : OrderIntent} {side orderHash : Text}
    (hprice : intent.context.price.display.IsOneLine) (hside : side.IsOneLine)
    (hlabel : ∀ label, intent.label? = some label → label.IsOneLine)
    (hhash : orderHash.IsOneLine) : (describeOrder intent side orderHash).IsOneLine := by
  rw [describeOrder]
  cases hl : intent.label? with
  | none =>
      simp only [Text.isOneLine_append, hprice, hside, hhash]
      decide
  | some label =>
      simp only [Text.isOneLine_append, hprice, hside, hhash, hlabel label hl]
      decide

/-- An order of a trade is told in the words of its price, its label and its hash, or in those of
its hash and of what went wrong. -/
theorem isOwn_of_leg {l : Leg} {orderHash : Text} {r : Record}
    (h : (leg node (log.record kind place) l orderHash).outcome = .ok r) : r.IsOwn := by
  rcases leg_cases h with ⟨intent, side, rfl⟩ | ⟨wording, rfl⟩
  · refine isOwn_record (by decide) (by decide) fun names => ?_
    have hhash : orderHash.IsOneLine :=
      isOneLine_of_named (v := .text orderHash) names "order_tx_hash" (by simp)
    have hprice : intent.context.price.display.IsOneLine :=
      isOneLine_of_named names "price" (by simp)
    have hside : side.IsOneLine := isOneLine_of_named (v := .text side) names "side" (by simp)
    have hlabel : (optionalText intent.label?).display.IsOneLine :=
      isOneLine_of_named names "order_label" (by simp)
    refine isOneLine_describeOrder hprice hside ?_ hhash
    intro label hl
    rwa [hl] at hlabel
  · refine isOwn_record (by decide) (by decide) fun names => ?_
    have hhash : orderHash.IsOneLine :=
      isOneLine_of_named (v := .text orderHash) names "order_tx_hash" (by simp)
    have hwording : wording.IsOneLine :=
      isOneLine_of_named (v := .text wording) names "error" (by simp)
    have hword : l.word.IsOneLine := by
      cases l with
      | _ => decide
    show Text.IsOneLine
      ("failed to resolve " ++ l.word ++ " order " ++ orderHash ++ ": " ++ wording)
    simp only [Text.isOneLine_append, hword, hhash, hwording]
    decide

theorem isOwn_matchedPrice (t : Trade) : (matchedPrice log kind place t).IsOwn := by
  refine isOwn_record (by decide) (by decide) fun names => ?_
  have hprice : t.priceEther.IsOneLine :=
    isOneLine_of_named (v := .text t.priceEther) names "price_eth" (by simp)
  exact Text.isOneLine_append.mpr ⟨by decide, hprice⟩

theorem isOwn_of_hashes {list : EventKind} {recordKind : RecordKind}
    (hlist : list.hashRecord? = some recordKind) (ids : List Text) :
    ∀ r ∈ hashes (log.record kind place) recordKind list.label ids, r.IsOwn := by
  intro r hr
  obtain ⟨i, hi, rfl⟩ := List.mem_mapIdx.mp hr
  have hnoHeader : recordKind ≠ .logHeader ∧ recordKind ≠ .noLogs := by
    cases list <;> cases hlist <;> decide
  refine isOwn_record hnoHeader.1 hnoHeader.2 fun names => ?_
  have hhash : ids[i].IsOneLine :=
    isOneLine_of_named (v := .text ids[i]) names "order_tx_hash" (by simp)
  show Text.IsOneLine (list.label ++ "[" ++ Text.ofNat i ++ "]: " ++ ids[i])
  simp only [Text.isOneLine_append, list.label_isOneLine, Text.isOneLine_ofNat, hhash]
  decide

/-- What is wrong with a log is told in fixed words and numbers, but for the topic and the hash of
an unknown event. -/
theorem isOwn_of_narrates (h : log.Narrates topics place records) : ∀ r ∈ records, r.IsOwn := by
  intro r hr
  cases h with
  | manyTopics =>
      obtain rfl := List.mem_singleton.mp hr
      refine isOwn_record (by decide) (by decide) fun _ => ?_
      show Text.IsOneLine
        ("Multiple topics found in a log (" ++ Text.ofInt log.topics.length ++ ")")
      simp only [Text.isOneLine_append, Text.isOneLine_ofInt]
      decide
  | noData =>
      obtain rfl := List.mem_singleton.mp hr
      refine isOwn_record (by decide) (by decide) fun _ => ?_
      decide
  | unknownTopic hkind =>
      obtain rfl := List.mem_singleton.mp hr
      refine isOwn_record (by decide) (by decide) fun names => ?_
      have htopic := isOneLine_of_named names "topic_hash" (List.mem_singleton_self _)
      rw [display_optionalText] at htopic
      simp only [LogProblem.message, Text.isOneLine_append, htopic,
        isOneLine_shownHash names]
      decide
  | malformed hread =>
      obtain rfl := List.mem_singleton.mp hr
      refine isOwn_record (by decide) (by decide) fun _ => ?_
      simp only [LogProblem.message, Text.isOneLine_append,
        EventKind.label_isOneLine, Payload.read_error_isOneLine hread]
      decide
  | hashes hkind ids => exact isOwn_of_hashes hkind ids r hr
  | silent => exact absurd hr List.not_mem_nil

/-- All that a log narrates by itself is its own. -/
theorem isOwn_of_log (h : (Narration.log topics node log given).outcome = .ok records) :
    ∀ r ∈ records, r.IsOwn := by
  have shown := shown_of_log h
  by_cases htrade : ∃ t, log.IsTrade topics t
  · obtain ⟨t, htrade⟩ := htrade
    rw [log_of_trade shown htrade] at h
    obtain ⟨legs, hlegs, rfl⟩ := trade_eq_ok_iff.mp h
    simp only [List.forall_mem_cons, List.not_mem_nil, false_implies, implies_true, and_true]
    exact ⟨isOwn_of_leg (hlegs .buy), isOwn_of_leg (hlegs .sell), isOwn_matchedPrice t⟩
  · obtain ⟨all, hnarrates, hall⟩ := log_of_no_trade shown (not_exists.mp htrade)
    obtain rfl := Except.ok.inj (h.symm.trans (hall node))
    exact isOwn_of_narrates hnarrates

end Narration

end OrderNarration
