import OrderNarration.HashText
import OrderNarration.Node
import OrderNarration.Proofs.Runs

/-!
# What nodes answer

The shapes of the values that a node gives for transactions, receipts and blocks,
as contracts of a node. The contents of byte strings and texts are left open, and
every field may be left out. The failures of a node under contract concern only
the item that was asked for.
-/

namespace OrderNarration

namespace Value

/-- A byte string or a hash as a node gives it: as bytes, as any text, or left out. -/
def isData : Value → Bool
  | .null | .text _ | .bytes _ => true
  | _ => false

/-- The value can be looked into, and the field has the shape. -/
def fieldHas (name : Text) (shape : Value → Bool) (v : Value) : Bool :=
  match v.field name with
  | .ok x => shape x
  | .error _ => false

/-- A list of values of the shape, or no list at all. -/
def isListOf (shape : Value → Bool) : Value → Bool
  | .null => true
  | .list items => items.all shape
  | _ => false

/-- The shape of a transaction. -/
def isTransaction (v : Value) : Bool := v.fieldHas "input" isData && v.fieldHas "data" isData

/-- The shape of a receipt's entry. -/
def isLogEntry (v : Value) : Bool :=
  v.fieldHas "topics" (isListOf isData) && v.fieldHas "data" isData &&
    v.fieldHas "transactionHash" isData

/-- The shape of a receipt. -/
def isReceipt (v : Value) : Bool := v.fieldHas "logs" (isListOf isLogEntry)

/-- The shape of a block's entry: a hash, or an object with a hash. -/
def isBlockEntry : Value → Bool
  | .text _ | .bytes _ => true
  | v =>
    match v.key "hash" with
    | .ok hash => hash.isData
    | .error _ => false

/-- The shape of a block. -/
def isBlock (v : Value) : Bool := v.fieldHas "transactions" (isListOf isBlockEntry)

theorem fieldHas_iff {name : Text} {shape : Value → Bool} {v : Value} :
    v.fieldHas name shape = true ↔ ∃ x, v.field name = .ok x ∧ shape x = true := by
  rw [fieldHas]
  cases v.field name with
  | error e => simp
  | ok x => simp

/-- A value with one field can be asked for every field. -/
theorem field_of_field {v x : Value} {name : Text} (h : v.field name = .ok x)
    (other : Text) : ∃ y, v.field other = .ok y := by
  cases v with
  | mapping entries => exact ⟨_, rfl⟩
  | _ => simp [field] at h

/-- The items of a list of some shape can be gone through, and they have the shape. -/
theorem itemsOrNone_of_isListOf {shape : Value → Bool} {v : Value} (h : v.isListOf shape = true) :
    ∃ items, v.itemsOrNone = .ok items ∧ ∀ x ∈ items, shape x = true := by
  cases v with
  | null => exact ⟨[], rfl, by simp⟩
  | list items =>
      cases items with
      | nil => exact ⟨[], rfl, by simp⟩
      | cons x rest => exact ⟨x :: rest, rfl, by simpa [isListOf] using h⟩
  | _ => simp [isListOf] at h

/-- A byte string of good shape is read, or its text is not hexadecimal. -/
theorem byteString_of_isData {v : Value} (h : v.isData = true) :
    (∃ bytes, v.byteString = .ok bytes) ∨
      ∃ t cause, v = .text t ∧ Hex.readText t = .error cause ∧
        v.byteString = .error (.hexText cause) := by
  cases v with
  | null => exact Or.inl ⟨[], rfl⟩
  | bytes b => exact Or.inl ⟨b, rfl⟩
  | text t =>
      cases ht : Hex.readText t with
      | ok b => exact Or.inl ⟨b, by simp [byteString, ht]⟩
      | error cause => exact Or.inr ⟨t, cause, rfl, ht, by simp [byteString, ht]⟩
  | _ => simp [isData] at h

/-- A hash of good shape has a normal form. -/
theorem hashText_of_isData {v : Value} (h : v.isData = true) :
    ∃ hash, HashText.ofValue v = .ok hash := by
  cases v with
  | null => exact ⟨none, rfl⟩
  | bytes b => exact ⟨some (Hex.marked b), rfl⟩
  | text t => exact ⟨some (HashText.ofText t), rfl⟩
  | _ => simp [isData] at h

end Value

namespace Node

/-- The value that a node has for a lookup, if it has one. -/
def fetched (node : Node) (lookup : Lookup) : Option Value :=
  match node lookup with
  | .found .null => none
  | .found v => some v
  | _ => none

/-- A lookup ends with a fault only if it failed otherwise than for lack of an answer. -/
theorem ask_outcome (node : Node) (lookup : Lookup) :
    (node.ask lookup).outcome =
      match node lookup with
      | .failed failure =>
        if failure.kind = lookup.absence then .ok none else .error (.lookup failure)
      | _ => .ok (node.fetched lookup) := by
  unfold ask fetched
  cases hreply : node lookup with
  | absent => rfl
  | found v => cases v <;> rfl
  | failed failure =>
      dsimp only
      split <;> rfl

theorem ask_of_fetched {node : Node} {lookup : Lookup} {v : Value}
    (h : node.fetched lookup = some v) : (node.ask lookup).outcome = .ok (some v) := by
  rw [ask_outcome, h]
  cases hreply : node lookup with
  | absent => simp [fetched, hreply] at h
  | found w => rfl
  | failed failure => simp [fetched, hreply] at h

theorem fetched_of_ask {node : Node} {lookup : Lookup} {found : Option Value}
    (h : (node.ask lookup).outcome = .ok found) : node.fetched lookup = found := by
  rw [ask_outcome] at h
  cases hreply : node lookup with
  | absent => simpa [hreply] using h
  | found v => simpa [hreply] using h
  | failed failure =>
      have hnone : node.fetched lookup = none := by simp [fetched, hreply]
      rw [hreply] at h
      dsimp only at h
      split at h
      · exact hnone.trans (Except.ok.inj h)
      · simp at h

theorem fetched_of_ask_error {node : Node} {lookup : Lookup} {e : Fault}
    (h : (node.ask lookup).outcome = .error e) :
    node.fetched lookup = none ∧
      ∃ failure, node lookup = .failed failure ∧ e = .lookup failure := by
  rw [ask_outcome] at h
  cases hreply : node lookup with
  | absent => simp [hreply] at h
  | found v => simp [hreply] at h
  | failed failure =>
      rw [hreply] at h
      dsimp only at h
      split at h
      · simp at h
      · exact ⟨by simp [fetched, hreply], failure, rfl, (Except.error.inj h).symm⟩

/-- The failure of a lookup that failed otherwise than for lack of an answer. -/
def refusal? (node : Node) (lookup : Lookup) : Option Failure :=
  match node lookup with
  | .failed failure => if failure.kind = lookup.absence then none else some failure
  | _ => none

theorem ask_of_refusal {node : Node} {lookup : Lookup} {failure : Failure}
    (h : node.refusal? lookup = some failure) :
    (node.ask lookup).outcome = .error (.lookup failure) := by
  rw [refusal?] at h
  rw [ask_outcome]
  cases hreply : node lookup with
  | failed other =>
      rw [hreply] at h
      by_cases hkind : other.kind = lookup.absence
      · simp [hkind] at h
      · obtain rfl : other = failure := by simpa [hkind] using h
        simp [hkind]
  | _ => simp [hreply] at h

theorem ask_of_no_refusal {node : Node} {lookup : Lookup} (h : node.refusal? lookup = none) :
    (node.ask lookup).outcome = .ok (node.fetched lookup) := by
  rw [refusal?] at h
  rw [ask_outcome]
  cases hreply : node lookup with
  | failed failure =>
      rw [hreply] at h
      have hkind : failure.kind = lookup.absence := by simpa using h
      simp [fetched, hreply, hkind]
  | _ => rfl

/-- What a node under contract gives for a lookup: no value or one of the shape, and no failure
that concerns more than the item. -/
structure Gives (node : Node) (lookup : Lookup) (shape : Value → Bool) : Prop where
  shaped : ∀ v, node.fetched lookup = some v → shape v = true
  passing : ∀ failure, node lookup = .failed failure → failure.kind.isPassing = true

theorem Gives.passing_of_ask {node : Node} {lookup : Lookup} {shape : Value → Bool} {e : Fault}
    (gives : node.Gives lookup shape) (h : (node.ask lookup).outcome = .error e) :
    e.isPassing = true := by
  obtain ⟨-, failure, hreply, rfl⟩ := fetched_of_ask_error h
  exact gives.passing failure hreply

theorem Gives.passing_of_refusal {node : Node} {lookup : Lookup} {shape : Value → Bool}
    {failure : Failure} (gives : node.Gives lookup shape)
    (h : node.refusal? lookup = some failure) : failure.kind.isPassing = true :=
  gives.passing_of_ask (ask_of_refusal h)

/-- The contract of a node that is asked for orders. -/
def AnswersOrders (node : Node) : Prop :=
  ∀ hash, node.Gives (.transaction hash) Value.isTransaction

/-- The contract of a node that is asked for blocks, receipts and orders. -/
structure Answers (node : Node) : Prop where
  blocks : ∀ number, node.Gives (.block number) Value.isBlock
  receipts : ∀ hash, node.Gives (.receipt hash) Value.isReceipt
  orders : node.AnswersOrders

end Node

end OrderNarration
