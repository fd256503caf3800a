import OrderNarration.Proofs.AlikeRuns
import OrderNarration.Proofs.AskedLookups
import OrderNarration.Proofs.Spellings

/-!
# Narrations of respelled values

A node may give its byte strings and hashes in any spelling, the input of an order under
either of two names, and the entries of a block as objects or as bare hashes. None of this
can be told from a narration. On two nodes that differ in these respects only, all runs are
equal: in what they end with, in what they ask for, and in what they note on the way.

## Implementation notes

Values are compared field by field, through what is read from them. A field that is no part
of the comparison is never looked at, so it may differ as it likes.
-/

namespace OrderNarration

namespace Value

/-- Both values have fields, and what they state in the field is related. A value that has no
fields stands for itself only. -/
def FieldAlike (name : Text) (R : Value → Value → Prop) (v w : Value) : Prop :=
  Outcome.Alike R (v.field name) (w.field name)

/-- The items of both values are related one by one. A value that has no items stands for itself
only. -/
def ItemsAlike (R : Value → Value → Prop) (v w : Value) : Prop :=
  Outcome.Alike (List.Forall₂ R) v.itemsOrNone w.itemsOrNone

/-- Two logs but for the spelling of their topics, their data and their transaction. -/
structure RespellsLog (v w : Value) : Prop where
  topics : FieldAlike "topics" (ItemsAlike (Respells HashText.Spells)) v w
  data : FieldAlike "data" (Respells Hex.Spells) v w
  hash : FieldAlike "transactionHash" (Respells HashText.Spells) v w
  index : FieldAlike "logIndex" Eq v w

/-- Two receipts but for the spelling of their logs. -/
def RespellsReceipt (v w : Value) : Prop := FieldAlike "logs" (ItemsAlike RespellsLog) v w

/-- Two transactions but for the spelling of their input and the name it is given under. -/
inductive RespellsTransaction : Value → Value → Prop
  | same (v : Value) : RespellsTransaction v v
  | input {v w x y : Value} (hv : v.HasInput x) (hw : w.HasInput y)
      (h : Respells Hex.Spells x y) : RespellsTransaction v w

/-- The entry of a block states its hash: it is the bare hash, or an object that has it. -/
inductive StatesHash : Value → Value → Prop
  | bytes (b : List UInt8) : StatesHash (.bytes b) (.bytes b)
  | text (t : Text) : StatesHash (.text t) (.text t)
  | object {entries : Entries Value} {x : Value} (h : Entries.get? "hash" entries = some x) :
      StatesHash (.mapping entries) x

/-- Two entries of a block but for the spelling of their hash and what they state besides it. -/
inductive RespellsEntry : Value → Value → Prop
  | same (v : Value) : RespellsEntry v v
  | hash {v w x y : Value} (hv : v.StatesHash x) (hw : w.StatesHash y)
      (h : Respells HashText.Spells x y) : RespellsEntry v w

/-- Two blocks but for the spelling of their entries. -/
def RespellsBlock (v w : Value) : Prop :=
  FieldAlike "transactions" (ItemsAlike RespellsEntry) v w

variable {v w x : Value}

theorem FieldAlike.of_fields {name : Text} {R : Value → Value → Prop} {x y : Value}
    (hv : v.field name = .ok x) (hw : w.field name = .ok y) (h : R x y) :
    FieldAlike name R v w := by
  rw [FieldAlike, hv, hw]
  exact .ok h

theorem ItemsAlike.of_lists {R : Value → Value → Prop} {items others : List Value}
    (h : List.Forall₂ R items others) : ItemsAlike R (.list items) (.list others) := by
  cases h with
  | nil => exact .ok .nil
  | cons hfirst hrest => exact .ok (.cons hfirst hrest)

theorem FieldAlike.null_iff {name : Text} {R : Value → Value → Prop} (h : FieldAlike name R v w) :
    v = .null ↔ w = .null := by
  unfold FieldAlike at h
  constructor
  · rintro rfl
    cases w with
    | null => rfl
    | _ => simp only [field] at h; cases h
  · rintro rfl
    cases v with
    | null => rfl
    | _ => simp only [field] at h; cases h

theorem HasInput.ne_null (h : v.HasInput x) : v ≠ .null := by
  rintro rfl
  cases h with
  | input h => simp [field] at h
  | data h => simp [field] at h

theorem RespellsTransaction.null_iff (h : RespellsTransaction v w) : v = .null ↔ w = .null := by
  cases h with
  | same => exact Iff.rfl
  | input hv hw => exact iff_of_false hv.ne_null hw.ne_null

/-- The input of an order is read in the same way from all its spellings. -/
theorem RespellsTransaction.intent_eq (h : RespellsTransaction v w) :
    (Resolution.transactionInput v >>= OrderIntent.ofValue) =
      (Resolution.transactionInput w >>= OrderIntent.ofValue) := by
  cases h with
  | same => rfl
  | input hv hw h =>
      rw [Resolution.transactionInput_eq_ok_iff.mpr hv,
        Resolution.transactionInput_eq_ok_iff.mpr hw, Outcome.ok_bind, Outcome.ok_bind,
        OrderIntent.ofValue, OrderIntent.ofValue, h.byteString_eq]

theorem StatesHash.entryHash_eq (h : v.StatesHash x) :
    Narration.entryHash v = HashText.ofValue x := by
  cases h with
  | bytes b => rfl
  | text t => rfl
  | object h => simp [Narration.entryHash, key, h]

/-- The hash of an entry is the same in all its spellings. -/
theorem RespellsEntry.entryHash_eq (h : RespellsEntry v w) :
    Narration.entryHash v = Narration.entryHash w := by
  cases h with
  | same => rfl
  | hash hv hw h => rw [hv.entryHash_eq, hw.entryHash_eq, h.hashText_eq]

/-- A log is read in the same way from all its spellings. -/
theorem RespellsLog.ofValue_eq (h : RespellsLog v w) :
    EventLog.ofValue v = EventLog.ofValue w := by
  refine (h.topics.mapError _).bind_eq fun topics topics' htopics => ?_
  refine (htopics.mapError _).bind_eq fun items items' hitems => ?_
  have hhashes : items.mapM HashText.ofValue = items'.mapM HashText.ofValue :=
    Outcome.mapM_congr (hitems.imp fun _ _ => Respells.hashText_eq)
  rw [hhashes]
  congr 1
  funext hashes
  refine (h.hash.mapError _).bind_eq fun hash hash' hhash => ?_
  refine (h.data.mapError _).bind_eq fun data data' hdata => ?_
  rw [hdata.byteString_eq, hhash.hashText_eq]
  congr 1
  funext bytes
  congr 1
  funext own
  refine (h.index.mapError _).bind_eq fun index index' hindex => ?_
  rw [hindex]

end Value

/-- Two answers: the same lack of one, the same failure, or related values. -/
inductive Reply.Alike (R : Value → Value → Prop) : Reply → Reply → Prop
  | absent : Alike R .absent .absent
  | found {v w : Value} (h : R v w) : Alike R (.found v) (.found w)
  | failed (failure : Failure) : Alike R (.failed failure) (.failed failure)

namespace Node

/-- Two nodes give the same answers but for the spelling. -/
structure Respells (node node' : Node) : Prop where
  transactions : ∀ hash, Reply.Alike Value.RespellsTransaction (node (.transaction hash))
    (node' (.transaction hash))
  receipts : ∀ hash, Reply.Alike Value.RespellsReceipt (node (.receipt hash))
    (node' (.receipt hash))
  blocks : ∀ number, Reply.Alike Value.RespellsBlock (node (.block number))
    (node' (.block number))

variable {node node' : Node} {lookup : Lookup}

theorem ask_of_null (h : node lookup = .found .null) :
    node.ask lookup = ⟨.ok none, [.asked lookup]⟩ := by
  rw [ask, h]

theorem ask_of_value {v : Value} (h : node lookup = .found v) (hv : v ≠ .null) :
    node.ask lookup = ⟨.ok (some v), [.asked lookup]⟩ := by
  rw [ask, h]
  cases v with
  | null => exact absurd rfl hv
  | _ => rfl

/-- Asking two nodes gives alike runs if their answers are alike and null is alike to itself
only. -/
theorem ask_alike {R : Value → Value → Prop} (hnull : ∀ v w, R v w → (v = .null ↔ w = .null))
    (h : Reply.Alike R (node lookup) (node' lookup)) :
    (node.ask lookup).Alike (Option.Rel R) (node'.ask lookup) := by
  generalize hx : node lookup = x at h
  generalize hy : node' lookup = y at h
  cases h with
  | absent =>
      rw [ask, ask, hx, hy]
      exact ⟨.ok .none, rfl⟩
  | @found v w hvw =>
      by_cases hv : v = .null
      · obtain rfl := hv
        obtain rfl := (hnull _ _ hvw).mp rfl
        rw [ask_of_null hx, ask_of_null hy]
        exact ⟨.ok .none, rfl⟩
      · rw [ask_of_value hx hv, ask_of_value hy fun hw => hv ((hnull _ _ hvw).mpr hw)]
        exact ⟨.ok (.some hvw), rfl⟩
  | failed failure =>
      rw [ask, ask, hx, hy]
      dsimp only
      split
      · exact ⟨.ok .none, rfl⟩
      · exact ⟨.error _, rfl⟩

end Node

namespace Narration

variable {node node' : Node}

section Resolver

variable (h : Resolution.resolve node = Resolution.resolve node')
include h

/-- A log asks the node only to resolve orders. -/
theorem log_congr (topics : TopicTable) :
    Narration.log topics node = Narration.log topics node' := by
  have hleg : leg node = leg node' := by
    funext record l hash
    rw [leg, leg, h]
  have htrade : trade node = trade node' := by
    funext record t
    rw [trade, trade, hleg]
  have hpayload : payload node = payload node' := by
    funext record p
    cases p with
    | trade t => simp only [payload, htrade]
    | _ => rfl
  funext log given
  simp only [Narration.log, hpayload]

theorem entry_congr (topics : TopicTable) (hash : Option Text) (position : Nat) {v w : Value}
    (hvw : v.RespellsLog w) :
    entry topics node hash position v = entry topics node' hash position w := by
  rw [entry, entry, hvw.ofValue_eq, log_congr h topics]

theorem entriesFrom_congr (topics : TopicTable) (hash : Option Text) (position : Nat)
    {values values' : List Value} (hvalues : List.Forall₂ Value.RespellsLog values values') :
    entriesFrom topics node hash position values =
      entriesFrom topics node' hash position values' := by
  induction hvalues generalizing position with
  | nil => rfl
  | cons hvw _ ih =>
      rw [entriesFrom, entriesFrom, entry_congr h topics hash position hvw]
      simp only [ih]

/-- A receipt is narrated in the same way in all spellings. -/
theorem receipt_congr (topics : TopicTable) (hash : Option Text) {v w : Value}
    (hvw : v.RespellsReceipt w) :
    receipt topics node v hash = receipt topics node' w hash := by
  have hlogs : Outcome.Alike (List.Forall₂ Value.RespellsLog)
      (v.field "logs" >>= Value.itemsOrNone) (w.field "logs" >>= Value.itemsOrNone) :=
    Outcome.Alike.bind hvw fun _ _ hitems => hitems
  refine (Run.alike_ofExcept (hlogs.mapError _)).bind_eq fun values values' hvalues => ?_
  cases hvalues with
  | nil => rfl
  | cons hfirst hrest => exact entriesFrom_congr h topics hash 0 (.cons hfirst hrest)

end Resolver

variable (h : node.Respells node')
include h

theorem find_congr (hash : Text) : Resolution.find node hash = Resolution.find node' hash := by
  have hask := Node.ask_alike (fun _ _ => Value.RespellsTransaction.null_iff)
    (h.transactions hash)
  refine hask.bind_eq fun found found' hfound => ?_
  cases hfound with
  | none => rfl
  | some hvw => exact congrArg Run.ofExcept hvw.intent_eq

/-- Orders are resolved in the same way on both nodes. -/
theorem resolve_congr : Resolution.resolve node = Resolution.resolve node' := by
  funext hash
  rw [Resolution.resolve, Resolution.resolve, find_congr h hash]

theorem visit_congr (topics : TopicTable) (number : Int) (position : Nat) {v w : Value}
    (hvw : v.RespellsEntry w) :
    visit topics node number position v = visit topics node' number position w := by
  rw [visit, visit, hvw.entryHash_eq]
  congr 1
  funext hash
  have hask := Node.ask_alike (fun _ _ => Value.FieldAlike.null_iff) (h.receipts hash)
  refine hask.attempt.bind_eq fun x x' hx => ?_
  cases hx with
  | error e => rfl
  | ok hfound =>
      cases hfound with
      | none => rfl
      | some hfound =>
          dsimp only
          rw [receipt_congr (resolve_congr h) topics hash hfound]

/-- The entries of a block are given alike by both nodes. -/
theorem blockEntries_alike (number : Int) :
    (blockEntries node number).Alike (List.Forall₂ Value.RespellsEntry)
      (blockEntries node' number) := by
  have hask := Node.ask_alike (fun _ _ => Value.FieldAlike.null_iff) (h.blocks number)
  refine hask.attempt.bind fun x x' hx => ?_
  cases hx with
  | error e =>
      dsimp only
      split
      · exact ⟨.ok .nil, rfl⟩
      · exact Run.alike_fail e
  | ok hfound =>
      cases hfound with
      | none => exact ⟨.ok .nil, rfl⟩
      | some hblock =>
          have hentries := Outcome.Alike.bind hblock fun _ _ hitems => hitems
          exact Run.alike_ofExcept (hentries.mapError _)

theorem scanEntries_congr (topics : TopicTable) (number : Int) (position : Nat)
    {entries entries' : List Value} (hentries : List.Forall₂ Value.RespellsEntry entries entries') :
    scanEntries topics node number position entries =
      scanEntries topics node' number position entries' := by
  induction hentries generalizing position with
  | nil => rfl
  | cons hvw _ ih => simp only [scanEntries, visit_congr h topics number position hvw, ih]

theorem scanBlocks_congr (topics : TopicTable) (number : Int) (count : Nat) :
    scanBlocks topics node number count = scanBlocks topics node' number count := by
  induction count generalizing number with
  | zero => rfl
  | succ count ih =>
      refine Scan.after_congr (blockEntries_alike h number) fun entries entries' hentries => ?_
      rw [scanEntries_congr h topics number 1 (List.forall₂_drop 1 hentries)]
      simp only [ih]

/-- The narration does not depend on how a node spells its values. On two nodes that differ in
spelling only, a receipt, a log as it was read, the resolution of an order and the scan of a range
have equal runs: equal results or faults, the same lookups and the same diagnostics. -/
theorem narration_ignores_spelling (topics : TopicTable) :
    (∀ v w hash, v.RespellsReceipt w →
      receipt topics node v hash = receipt topics node' w hash) ∧
    (∀ v w, v.RespellsLog w → EventLog.ofValue v = EventLog.ofValue w) ∧
    (∀ log given, Narration.log topics node log given = Narration.log topics node' log given) ∧
    (∀ hash, Resolution.resolve node hash = Resolution.resolve node' hash) ∧
    ∀ first last, Narration.range topics node first last =
      Narration.range topics node' first last := by
  have hresolve := resolve_congr h
  refine ⟨?_, fun v w hvw => hvw.ofValue_eq, ?_, fun hash => congrFun hresolve hash, ?_⟩
  · intro v w hash hvw
    exact receipt_congr hresolve topics hash hvw
  · intro log given
    rw [log_congr hresolve topics]
  · intro first last
    simp only [Narration.range, scanRange, scanBlocks_congr h]

end Narration

/-- A trade log that gives everything in bytes. -/
def bytesEntry : Value :=
  .mapping [("topics", .list [.bytes [0xAA]]), ("data", .bytes tradeLog.data),
    ("transactionHash", .bytes [0xAB])]

/-- The same log in texts: with and without the marker, in both cases, and with blanks. -/
def textEntry : Value :=
  .mapping [("transactionHash", .text "aB\n"), ("topics", .list [.text " 0XAa"]),
    ("data", .text "CE8041428080808001808080808080")]

/-- A node that gives everything in bytes. -/
def bytesNode : Node
  | .block _ => .found (.mapping [("transactions",
      .list [.bytes [0], .mapping [("hash", .bytes [0xAB])]])])
  | .receipt _ => .found (receiptOf [bytesEntry])
  | .transaction _ => .found (.mapping [("input", .bytes [0x21, 0x7B, 0x7D])])

/-- The same node in texts, with the bare hash of an entry and the second name of an input. -/
def textNode : Node
  | .block _ => .found (.mapping [("transactions", .list [.text "0x00", .text "\tAB "])])
  | .receipt _ => .found (receiptOf [textEntry])
  | .transaction _ => .found (.mapping [("data", .text "0X217b7D")])

theorem bytesEntry_respells : bytesEntry.RespellsLog textEntry where
  topics := by
    have htopic : HashText.Spells [0xAA] " 0XAa" :=
      ⟨" ", "0XAa", [], by decide, by simp, ⟨['0', 'X'], ['A', 'a'], .inr (.inr rfl), by decide,
        rfl⟩, rfl⟩
    exact .of_fields rfl rfl (.of_lists (.cons (.spelled .bytes (.text htopic)) .nil))
  data := by
    have hdata : Hex.Spells tradeLog.data "CE8041428080808001808080808080" :=
      ⟨[], "CE8041428080808001808080808080".toList, .inl rfl, by decide +kernel, by
        decide +kernel⟩
    exact .of_fields rfl rfl (.spelled .bytes (.text hdata))
  hash := by
    have hhash : HashText.Spells [0xAB] "aB\n" :=
      ⟨[], "aB", "\n", by simp, by decide, ⟨[], ['a', 'B'], .inl rfl, by decide, rfl⟩, rfl⟩
    exact .of_fields rfl rfl (.spelled .bytes (.text hhash))
  index := .of_fields rfl rfl rfl

theorem receiptOf_respells {entries others : List Value}
    (h : List.Forall₂ Value.RespellsLog entries others) :
    (receiptOf entries).RespellsReceipt (receiptOf others) :=
  .of_fields rfl rfl (.of_lists h)

theorem bytesNode_respells : bytesNode.Respells textNode where
  transactions hash := by
    have hinput : Hex.Spells [0x21, 0x7B, 0x7D] "0X217b7D" :=
      ⟨['0', 'X'], ['2', '1', '7', 'b', '7', 'D'], .inr (.inr rfl), by decide, rfl⟩
    have hgiven : Value.bytes [0x21, 0x7B, 0x7D] ≠ .null := by simp
    exact .found (.input (.input rfl hgiven) (.data rfl rfl) (.spelled .bytes (.text hinput)))
  receipts hash := .found (receiptOf_respells (.cons bytesEntry_respells .nil))
  blocks number := by
    have hfirst : HashText.Spells [0] "0x00" :=
      ⟨[], "0x00", [], by simp, by simp, ⟨['0', 'x'], ['0', '0'], .inr (.inl rfl), by decide,
        rfl⟩, rfl⟩
    have hsecond : HashText.Spells [0xAB] "\tAB " :=
      ⟨"\t", "AB", " ", by decide, by decide, ⟨[], ['A', 'B'], .inl rfl, by decide, rfl⟩, rfl⟩
    exact .found (.of_fields rfl rfl (.of_lists (.cons
      (.hash (.bytes _) (.text _) (.spelled .bytes (.text hfirst)))
      (.cons (.hash (.object rfl) (.text _) (.spelled .bytes (.text hsecond))) .nil))))

/-- A block, its receipt, and the orders of its trade are narrated from bytes as from texts. -/
theorem narration_ignores_spelling_of_textNode :
    bytesNode.Respells textNode ∧ bytesEntry.RespellsLog textEntry ∧
      Narration.receipt tradeTable bytesNode (receiptOf [bytesEntry]) none =
        Narration.receipt tradeTable textNode (receiptOf [textEntry]) none ∧
      EventLog.ofValue bytesEntry = EventLog.ofValue textEntry ∧
      Narration.log tradeTable bytesNode tradeLog .null =
        Narration.log tradeTable textNode tradeLog .null ∧
      Resolution.resolve bytesNode "A" = Resolution.resolve textNode "A" ∧
      Narration.range tradeTable bytesNode (.int 1) (.int 1) =
        Narration.range tradeTable textNode (.int 1) (.int 1) ∧
      (Narration.range tradeTable textNode (.int 1) (.int 1)).lookups =
        [.block 1, .receipt (some "0xab"), .transaction "A", .transaction "B"] := by
  obtain ⟨hreceipt, hread, hlog, hresolve, hrange⟩ :=
    Narration.narration_ignores_spelling bytesNode_respells tradeTable
  have hasked : (Narration.range tradeTable textNode (.int 1) (.int 1)).lookups =
      [.block 1, .receipt (some "0xab"), .transaction "A", .transaction "B"] := by decide +kernel
  exact ⟨bytesNode_respells, bytesEntry_respells,
    hreceipt _ _ _ (receiptOf_respells (.cons bytesEntry_respells .nil)),
    hread _ _ bytesEntry_respells, hlog _ _, hresolve _, hrange _ _, hasked⟩

end OrderNarration
