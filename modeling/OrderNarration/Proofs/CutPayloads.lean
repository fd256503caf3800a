import OrderNarration.Proofs.LogShapes

/-!
# Payloads that are cut short or padded

The prefix of an encoding announces how long it is. So no encoding begins another one, and
data that was cut short or padded on its way is never taken for other data: it does not
give fewer elements or other ones, it gives none. A log with such data tells of it in one
record.
-/

namespace OrderNarration

namespace Rlp

variable {x y : Item} {rest rest' extra : List UInt8}

/-- Encodings are told apart whatever follows them. -/
theorem encode_append_inj (hx : x.payload.length < 256 ^ 8) (hy : y.payload.length < 256 ^ 8)
    (h : x.encode ++ rest = y.encode ++ rest') : x = y ∧ rest = rest' := by
  have hreadx := readItem_encode x (2 * x.encode.length + 2 * y.encode.length) rest (by omega) hx
  have hready := readItem_encode y (2 * x.encode.length + 2 * y.encode.length) rest' (by omega) hy
  rw [h, hready] at hreadx
  obtain ⟨rfl, -⟩ := Prod.mk.inj (Except.ok.inj hreadx)
  exact ⟨rfl, List.append_cancel_left h⟩

/-- No encoding begins another one. -/
theorem eq_of_cut_encode (hx : x.payload.length < 256 ^ 8) (hy : y.payload.length < 256 ^ 8)
    (h : x.encode <+: y.encode) : x = y := by
  obtain ⟨rest, hrest⟩ := h
  rw [← List.append_nil y.encode] at hrest
  exact (encode_append_inj hx hy hrest).1

/-- What follows an encoding is superfluous, to the byte. -/
theorem read_encode_append (hx : x.payload.length < 256 ^ 8) (hextra : extra ≠ []) :
    read (x.encode ++ extra) = .error (.superfluous extra.length) := by
  have hlength := List.length_pos_of_ne_nil hextra
  have hitem := readItem_encode x (2 * (x.encode ++ extra).length + 2) extra
    (by rw [List.length_append]; omega) hx
  rw [read, hitem, Outcome.ok_bind]
  simp [hextra]

end Rlp

namespace Payload

open Rlp

variable {data whole extra : List UInt8} {items others : List Item}

theorem encode_of_elements (h : elements data = .ok items) :
    (Item.list items).payload.length < 256 ^ 8 ∧ (Item.list items).encode = data := by
  obtain ⟨hshort, rfl⟩ := elements_eq_ok_iff.mp h
  refine ⟨?_, rfl⟩
  rw [Item.payload]
  norm_num at hshort ⊢
  exact hshort

/-- Of two data with elements none begins the other. -/
theorem eq_of_cut_elements (h : elements data = .ok items) (h' : elements whole = .ok others)
    (cut : data <+: whole) : data = whole := by
  obtain ⟨hitems, rfl⟩ := encode_of_elements h
  obtain ⟨hothers, rfl⟩ := encode_of_elements h'
  rw [eq_of_cut_encode hitems hothers cut]

/-- The bytes that stand behind data with elements are superfluous. -/
theorem elements_of_padded (h : elements whole = .ok items) (hextra : extra ≠ []) :
    elements (whole ++ extra) = .error (.notCanonical (.superfluous extra.length)) := by
  obtain ⟨hitems, rfl⟩ := encode_of_elements h
  rw [elements, read_encode_append hitems hextra]

/-- Data from which a payload was read has elements, if the event has a payload at all. -/
theorem exists_elements_of_read {kind : EventKind} {p : Payload} (h : read kind data = .ok p)
    (hkind : kind = .trades ∨ kind = .triggeredIds ∨ kind = .canceledIds) :
    ∃ items, elements data = .ok items := by
  rcases hkind with rfl | rfl | rfl
  all_goals
    obtain ⟨_, hread, -⟩ := Outcome.map_eq_ok_iff.mp h
    obtain ⟨items, hitems, -⟩ := Outcome.bind_eq_ok_iff.mp hread
    exact ⟨items, hitems⟩

end Payload

/-- On every node the narration of the log is the same record of an error, unless the position has
no text, and nothing is looked up. A log of at most one topic has a malformed payload. -/
def EventLog.TellsOneError (topics : TopicTable) (log : EventLog) (given : Value) : Prop :=
  ∃ r : Record, r.kind = .error ∧
    r.IsAbout log (log.classified topics).kind (log.position given) ∧
    (log.topics.length ≤ 1 → r.data = ([("error", .text "MalformedPayload")] : Entries Value)) ∧
    ∀ node,
      (Narration.log topics node log given).outcome =
        (log.position given).shown.map (fun _ => [r]) ∧
      (Narration.log topics node log given).lookups = []

namespace Narration

open Payload

variable {topics : TopicTable} {log : EventLog} {given : Value}

/-- A position without a text ends the narration of its log. -/
theorem log_of_no_shown {node : Node} (h : (log.position given).display? = none) :
    (Narration.log topics node log given).outcome = .error .unprintable := by
  rw [Narration.log, Run.outcome_bind, TopicTable.classify_outcome, Outcome.ok_bind,
    Run.outcome_bind, Run.outcome_ofExcept, Value.shown, h]
  rfl

/-- The outcome of a log that narrates one record wherever its position has a text. -/
theorem outcome_log_eq_shown {node : Node} {r : Record}
    (h : (log.position given).display?.isSome →
      (Narration.log topics node log given).outcome = .ok [r]) :
    (Narration.log topics node log given).outcome =
      (log.position given).shown.map (fun _ => [r]) := by
  cases hdisplay : (log.position given).display? with
  | none =>
      rw [log_of_no_shown hdisplay, Value.shown, hdisplay]
      rfl
  | some t =>
      rw [h (by simp [hdisplay]), Value.shown, hdisplay]
      rfl

theorem log_of_unreadable {cause : PayloadError} (hdata : log.data ≠ [])
    (hkind : (log.classified topics).kind ≠ .unknown)
    (hread : Payload.read (log.classified topics).kind log.data = .error cause) :
    log.TellsOneError topics given := by
  have hsilent : ∀ node, (Narration.log topics node log given).lookups = [] := by
    refine fun node => lookups_log_of_no_trade fun t ht => ?_
    obtain ⟨-, htrades, ht⟩ := ht
    rw [htrades, Payload.read, ht] at hread
    cases hread
  by_cases hfew : log.topics.length ≤ 1
  · exact ⟨_, rfl, log.record_isAbout _ _ _ _ _, fun _ => rfl, fun node =>
      ⟨outcome_log_eq_shown fun shown => log_of_malformed shown hfew hdata hkind hread,
        hsilent node⟩⟩
  · exact ⟨_, rfl, log.record_isAbout _ _ _ _ _, fun h => absurd h hfew, fun node =>
      ⟨outcome_log_eq_shown fun shown => log_of_many_topics shown (Nat.not_le.mp hfew),
        hsilent node⟩⟩

section Damaged

variable {data whole : List UInt8} {items : List Rlp.Item} (accepted : elements whole = .ok items)
  (differs : data ≠ whole) (related : data <+: whole ∨ whole <+: data)
include accepted differs related

/-- Data that was cut short or padded has no elements, and bytes behind the data are counted as
superfluous. If anything is left of it, a log with such data narrates one error, whatever the node
is. -/
theorem log_of_cut_or_padded_data :
    (∃ e, elements data = .error e ∧ (Fault.payload e).problemClass? = some .malformedPayload) ∧
    (∀ extra, data = whole ++ extra →
      elements data = .error (.notCanonical (.superfluous extra.length))) ∧
    ∀ (topics : TopicTable) (log : EventLog) (given : Value), log.data = data → data ≠ [] →
      (log.classified topics).kind = .trades ∨ (log.classified topics).kind = .triggeredIds ∨
        (log.classified topics).kind = .canceledIds →
      log.TellsOneError topics given := by
  have hnone : ∀ others, elements data ≠ .ok others := by
    intro others hothers
    rcases related with hcut | hpadded
    · exact differs (eq_of_cut_elements hothers accepted hcut)
    · exact differs (eq_of_cut_elements accepted hothers hpadded).symm
  refine ⟨?_, ?_, ?_⟩
  · cases hread : elements data with
    | error e => exact ⟨e, rfl, rfl⟩
    | ok others => exact absurd hread (hnone others)
  · rintro extra rfl
    refine elements_of_padded accepted ?_
    rintro rfl
    exact differs (List.append_nil whole)
  · rintro topics log given rfl hdata hkind
    have hunknown : (log.classified topics).kind ≠ .unknown := by
      rcases hkind with h | h | h <;> simp [h]
    cases hread : Payload.read (log.classified topics).kind log.data with
    | error cause => exact log_of_unreadable hdata hunknown hread
    | ok p =>
        obtain ⟨others, hothers⟩ := exists_elements_of_read hread hkind
        exact absurd hothers (hnone others)

end Damaged

/-- The data of a trade without its last byte and with a byte more. -/
theorem log_of_cut_or_padded_trade :
    let cut := tradeLog.data.dropLast
    let padded := tradeLog.data ++ [0x80]
    (∃ items, elements tradeLog.data = .ok items) ∧
      elements padded = .error (.notCanonical (.superfluous 1)) ∧
      { tradeLog with data := cut }.TellsOneError tradeTable (.int 0) := by
  intro cut padded
  have hlength : (elements tradeLog.data).toOption.map List.length = some 14 := by decide +kernel
  obtain ⟨items, hitems, -⟩ := Outcome.exists_ok_of_view hlength
  obtain ⟨-, -, hcut⟩ := log_of_cut_or_padded_data hitems (by decide : cut ≠ tradeLog.data)
    (Or.inl (List.dropLast_prefix _))
  obtain ⟨-, hpadded, -⟩ := log_of_cut_or_padded_data hitems (by decide : padded ≠ tradeLog.data)
    (Or.inr (List.prefix_append _ _))
  exact ⟨⟨items, hitems⟩, hpadded _ rfl,
    hcut tradeTable _ _ rfl (by decide) (Or.inl (by decide +kernel))⟩

end Narration

end OrderNarration
