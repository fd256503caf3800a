import OrderNarration.Order.Resolution
import OrderNarration.Proofs.Answers
import OrderNarration.Proofs.JsonValues

/-!
# What can go wrong with an order

On a node under contract every fault of looking up and reading an order is caught
where the order is resolved. The side of an order that was read is a JSON value,
and the only JSON values whose integer cannot be asked for are the infinities.

The reader of contexts goes to any depth. A reader that has only so much room to recur is
the same reader up to a depth, so what is said of all readers is said under the condition
that the texts of the orders are not nested any deeper.
-/

namespace OrderNarration

namespace Fault

/-- The faults that are caught where an order is resolved. -/
def isContained : Fault → Bool
  | notFound .transaction _ | context _ => true
  | e => e.isPassing

/-- What a resolution says of a fault that it caught. -/
def containedWording (e : Fault) : Text :=
  match e with
  | notFound .transaction _ | context _ => e.message
  | _ => "fetch failed: " ++ e.message

theorem isContained_of_isPassing {e : Fault} (h : e.isPassing = true) : e.isContained = true := by
  cases e with
  | notFound wanted key => simp [isPassing] at h
  | context cause => rfl
  | _ => exact h

end Fault

namespace Json

/-- Where a text of JSON stands: outside of its strings, in a string, or behind a backslash. -/
inductive Stretch where
  | outside
  | inside
  | escaped

/-- The stretch behind a character. -/
def Stretch.after (c : Char) : Stretch → Stretch
  | .outside => if c = '"' then .inside else .outside
  | .inside => if c = '"' then .outside else if c = '\\' then .escaped else .inside
  | .escaped => .inside

/-- The number of open lists and objects behind a character. -/
def openAfter (c : Char) (count : Nat) : Stretch → Nat
  | .outside =>
    if c = '[' ∨ c = '\x7b' then count + 1 else if c = ']' ∨ c = '\x7d' then count - 1 else count
  | _ => count

/-- The greatest number of lists and objects that are open at once from some place on. -/
def nestingFrom (stretch : Stretch) (count : Nat) : List Char → Nat
  | [] => count
  | c :: rest => max count (nestingFrom (stretch.after c) (openAfter c count stretch) rest)

/-- How deep the lists and objects of a text are nested. -/
def nesting (text : List Char) : Nat := nestingFrom .outside 0 text

example : nesting "\x7b\"a[\\\"[\":[[],[1]]\x7d".toList = 3 := by decide

/-- The depth down to which every reader follows a text. -/
def safeNesting : Nat := 200

end Json

namespace Value

/-- The value is positive or negative infinity. -/
def isInfinite : Value → Bool
  | .float (.infinite _) => true
  | _ => false

/-- Only an infinity has no integer and no word for its side. -/
theorem wordOfSide_of_isJson {v : Value} (json : v.IsJson) :
    if v.isInfinite then Side.wordOfValue v = .error .infiniteFloat
    else ∃ word, Side.wordOfValue v = .ok word := by
  cases json with
  | float x =>
      cases x with
      | finite negative significand exponent => exact ⟨_, rfl⟩
      | infinite negative => rfl
      | notANumber => exact ⟨_, rfl⟩
  | _ => exact ⟨_, rfl⟩

end Value

/-- The entries that make a context have its price and its side. -/
theorem OrderContext.get?_of_ofEntries {entries : Entries Value} {context : OrderContext}
    (h : ofEntries entries = .ok context) :
    Entries.get? "price" entries = some context.price ∧
      Entries.get? "side" entries = some context.side := by
  simp only [ofEntries] at h
  split at h
  next hpresent =>
    obtain rfl := Except.ok.inj h
    have given (key : Text) (hkey : key ∈ requiredKeys) :
        Entries.get? key entries = some ((Entries.get? key entries).getD .null) := by
      have hsome := List.filter_eq_nil_iff.mp hpresent key hkey
      cases hget : Entries.get? key entries with
      | none => simp [hget] at hsome
      | some v => rfl
    exact ⟨given "price" (by decide), given "side" (by decide)⟩
  · simp at h

namespace OrderIntent

theorem readContext_fault {bytes : List UInt8} {e : Fault}
    (h : readContext bytes = .error e) : e.isContained = true := by
  rw [readContext] at h
  split at h
  · exact Except.error.inj h ▸ rfl
  · split at h
    · exact Except.error.inj h ▸ rfl
    · exact Except.error.inj h ▸ rfl
    · obtain ⟨cause, -, rfl⟩ := Outcome.mapError_eq_error_iff.mp h
      rfl
    · exact Except.error.inj h ▸ rfl

/-- The input of a transaction under contract is read, or the fault is caught with the order. -/
theorem ofValue_fault {input : Value} {e : Fault} (data : input.isData = true)
    (h : ofValue input = .error e) : e.isContained = true := by
  rcases Outcome.bind_eq_error_iff.mp h with hbytes | ⟨bytes, -, hread⟩
  · rcases Value.byteString_of_isData data with ⟨bytes, hok⟩ | ⟨t, cause, -, -, herror⟩
    · simp [hok] at hbytes
    · rw [herror] at hbytes
      exact Except.error.inj hbytes ▸ rfl
  · cases bytes with
    | nil => exact Except.error.inj hread ▸ rfl
    | cons tag rest =>
        rcases Outcome.bind_eq_error_iff.mp hread with hcontext | ⟨context, -, hok⟩
        · exact readContext_fault hcontext
        · simp at hok

/-- A context that was read is the context of the entries of a JSON object. -/
theorem exists_entries_of_readContext {bytes : List UInt8} {context : OrderContext}
    (h : readContext bytes = .ok context) :
    ∃ chars entries, Json.read chars = .ok (.mapping entries) ∧
      OrderContext.ofEntries entries = .ok context := by
  rw [readContext] at h
  split at h
  · simp at h
  next chars _ =>
    split at h
    · simp at h
    · simp at h
    next entries hread => exact ⟨chars, entries, hread, Outcome.mapError_eq_ok_iff.mp h⟩
    · simp at h

theorem exists_entries_of_ofValue {input : Value} {intent : OrderIntent}
    (h : ofValue input = .ok intent) :
    ∃ chars entries, Json.read chars = .ok (.mapping entries) ∧
      OrderContext.ofEntries entries = .ok intent.context := by
  obtain ⟨bytes, -, hread⟩ := Outcome.bind_eq_ok_iff.mp h
  cases bytes with
  | nil => simp [ofBytes] at hread
  | cons tag rest =>
      obtain ⟨context, hcontext, hintent⟩ := Outcome.bind_eq_ok_iff.mp hread
      obtain rfl := Except.ok.inj hintent
      exact exists_entries_of_readContext hcontext

end OrderIntent

/-- The transaction states its input, under the second name if the first one is absent. -/
inductive Value.HasInput (v : Value) : Value → Prop
  | input {x : Value} (h : v.field "input" = .ok x) (hx : x ≠ .null) : HasInput v x
  | data {x : Value} (h : v.field "input" = .ok .null) (hx : v.field "data" = .ok x) :
      HasInput v x

/-- The node has the transaction with the hash, and its input is read as the order. -/
def Node.HoldsOrder (node : Node) (hash : Text) (intent : OrderIntent) : Prop :=
  ∃ transaction input, node.fetched (.transaction hash) = some transaction ∧
    transaction.HasInput input ∧ OrderIntent.ofValue input = .ok intent

/-- The texts behind the tags of the node's orders are not nested too deep for any reader. -/
def Node.NestsOrders (node : Node) : Prop :=
  ∀ hash transaction input bytes text, node.fetched (.transaction hash) = some transaction →
    transaction.HasInput input → input.byteString = .ok bytes →
    Utf8.decode (bytes.drop 1) = .ok text → Json.nesting text ≤ Json.safeNesting

namespace Resolution

theorem transactionInput_eq_ok_iff {transaction input : Value} :
    transactionInput transaction = .ok input ↔ transaction.HasInput input := by
  rw [transactionInput]
  constructor
  · intro h
    obtain ⟨first, hfirst, h⟩ := Outcome.bind_eq_ok_iff.mp h
    have hinput := Outcome.mapError_eq_ok_iff.mp hfirst
    cases first with
    | null => exact .data hinput (Outcome.mapError_eq_ok_iff.mp h)
    | _ =>
        obtain rfl := Except.ok.inj h
        exact .input hinput (by simp)
  · intro h
    cases h with
    | input h hx =>
        rw [h]
        cases input with
        | null => exact absurd rfl hx
        | _ => rfl
    | data h hx =>
        rw [h, hx]
        rfl

/-- The input of a transaction of good shape is a byte string, a text or missing. -/
theorem transactionInput_of_isTransaction {transaction : Value}
    (shaped : transaction.isTransaction = true) :
    ∃ input, transactionInput transaction = .ok input ∧ input.isData = true := by
  rw [Value.isTransaction, Bool.and_eq_true] at shaped
  obtain ⟨input, hinput, hdata⟩ := Value.fieldHas_iff.mp shaped.1
  obtain ⟨other, hother, hotherData⟩ := Value.fieldHas_iff.mp shaped.2
  rw [transactionInput, hinput, hother]
  cases input with
  | null => exact ⟨other, rfl, hotherData⟩
  | _ => exact ⟨_, rfl, hdata⟩

/-- Looking an order up on a node under contract leaves only faults that are caught. -/
theorem find_fault {node : Node} {hash : Text} {e : Fault} (orders : node.AnswersOrders)
    (h : (find node hash).outcome = .error e) : e.isContained = true := by
  rw [find, Run.outcome_bind] at h
  rcases Outcome.bind_eq_error_iff.mp h with hask | ⟨found, hask, hread⟩
  · exact Fault.isContained_of_isPassing ((orders hash).passing_of_ask hask)
  · cases found with
    | none => exact Except.error.inj hread ▸ rfl
    | some transaction =>
        have shaped := (orders hash).shaped transaction (Node.fetched_of_ask hask)
        obtain ⟨input, hinput, hdata⟩ := transactionInput_of_isTransaction shaped
        dsimp only at hread
        rw [Run.outcome_ofExcept, hinput, Outcome.ok_bind] at hread
        exact OrderIntent.ofValue_fault hdata hread

/-- An order is found exactly if the node has it. -/
theorem find_eq_ok_iff {node : Node} {hash : Text} {intent : OrderIntent} :
    (find node hash).outcome = .ok intent ↔ node.HoldsOrder hash intent := by
  rw [find, Run.outcome_bind, Outcome.bind_eq_ok_iff]
  constructor
  · rintro ⟨found, hask, hread⟩
    cases found with
    | none => simp at hread
    | some transaction =>
        obtain ⟨input, hinput, hintent⟩ := Outcome.bind_eq_ok_iff.mp hread
        exact ⟨transaction, input, Node.fetched_of_ask hask,
          transactionInput_eq_ok_iff.mp hinput, hintent⟩
  · rintro ⟨transaction, input, hfetched, hinput, hintent⟩
    refine ⟨some transaction, Node.ask_of_fetched hfetched, ?_⟩
    exact Outcome.bind_eq_ok_iff.mpr ⟨input, transactionInput_eq_ok_iff.mpr hinput, hintent⟩

/-- The side of an order that was found is a JSON value. -/
theorem find_side_isJson {node : Node} {hash : Text} {intent : OrderIntent}
    (h : (find node hash).outcome = .ok intent) : intent.context.side.IsJson := by
  obtain ⟨_, _, -, -, hintent⟩ := find_eq_ok_iff.mp h
  obtain ⟨chars, entries, hread, hentries⟩ := OrderIntent.exists_entries_of_ofValue hintent
  cases Json.read_isJson hread with
  | mapping all => exact all _ (Entries.mem_of_get? (OrderContext.get?_of_ofEntries hentries).2)

/-- A resolution catches the contained faults and lets all others through. -/
theorem resolve_outcome (node : Node) (hash : Text) :
    (resolve node hash).outcome =
      match (find node hash).outcome with
      | .ok intent => .ok ⟨hash, .ok intent⟩
      | .error e =>
        if e.isContained then .ok ⟨hash, .error e.containedWording⟩ else .error e := by
  rw [resolve]
  simp only [Run.outcome_bind, Run.outcome_note, Run.outcome_attempt, Outcome.ok_bind]
  cases hfind : (find node hash).outcome with
  | ok intent => simp
  | error e =>
      cases e with
      | notFound wanted key =>
          cases wanted with
          | transaction => rfl
          | _ => rfl
      | context cause => rfl
      | _ => exact Run.outcome_ite _ _ _

end Resolution

end OrderNarration
