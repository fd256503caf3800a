import OrderNarration.Proofs.LogShapes
import OrderNarration.Proofs.ValueTexts

/-!
# What a resolution reports

On a node under contract every order hash has a resolution. It is made of one lookup and
tells either the order that the node has or why there is none. The order's price is shown
once more after everything else went well, and every price that was read can be shown.

## Implementation notes

What is shown on the way is part of the events of a run and cannot end it. That the price
has a text is therefore a statement of its own.
-/

namespace OrderNarration

namespace Resolution

/-- A resolution tells what the node has for the hash. -/
structure Reports (r : Resolution) (node : Node) (hash : Text) : Prop where
  asked : r.hash = hash
  intent : r.isSuccess = true ↔ r.intent?.isSome
  error : r.isSuccess = true ↔ r.error? = none
  success : r.isSuccess = true ↔ ∃ intent, node.HoldsOrder hash intent
  order : ∀ intent, r.intent? = some intent ↔ node.HoldsOrder hash intent
  price : ∀ intent, r.intent? = some intent → intent.context.price.HasText
  failure : ∀ e, (find node hash).outcome = .error e → r.error? = some e.containedWording

variable {node : Node} {hash : Text}

theorem isSuccess_iff_intent? (r : Resolution) : r.isSuccess = true ↔ r.intent?.isSome := by
  obtain ⟨hash, outcome⟩ := r
  cases outcome with
  | ok intent => exact iff_of_true rfl rfl
  | error wording => exact iff_of_false Bool.false_ne_true Bool.false_ne_true

theorem isSuccess_iff_error? (r : Resolution) : r.isSuccess = true ↔ r.error? = none := by
  obtain ⟨hash, outcome⟩ := r
  cases outcome with
  | ok intent => exact iff_of_true rfl rfl
  | error wording => exact iff_of_false Bool.false_ne_true (by simp [error?])

/-- On a node under contract resolving a hash ends with the order that was found, or with the
wording of the fault. -/
theorem resolve_outcome_of_answers (orders : node.AnswersOrders) (hash : Text) :
    (resolve node hash).outcome =
      .ok ⟨hash, (find node hash).outcome.mapError Fault.containedWording⟩ := by
  rw [resolve_outcome]
  cases hfind : (find node hash).outcome with
  | ok intent => rfl
  | error e => exact if_pos (find_fault orders hfind)

/-- The price of an order that a node has can be shown. -/
theorem price_hasText {intent : OrderIntent} (h : node.HoldsOrder hash intent) :
    intent.context.price.HasText := by
  obtain ⟨_, _, -, -, hintent⟩ := h
  obtain ⟨chars, entries, hread, hentries⟩ := OrderIntent.exists_entries_of_ofValue hintent
  have hprice := (OrderContext.get?_of_ofEntries hentries).1
  exact Json.hasText_of_read hread _ (Entries.mem_of_get? hprice)

/-- Whatever a node under contract answers, the resolution of a hash is made of one lookup, of the
hash as it is, and it reports an order or why there is none. -/
theorem resolve_reports (orders : node.AnswersOrders) (hash : Text) :
    (resolve node hash).lookups = [.transaction hash] ∧
      ∃ r, (resolve node hash).outcome = .ok r ∧ r.Reports node hash := by
  refine ⟨lookups_resolve node hash, _, resolve_outcome_of_answers orders hash, ?_⟩
  have horder (intent : OrderIntent) :
      Resolution.intent? ⟨hash, (find node hash).outcome.mapError Fault.containedWording⟩ =
        some intent ↔ node.HoldsOrder hash intent := by
    rw [← find_eq_ok_iff]
    cases (find node hash).outcome with
    | ok found => simp [intent?]
    | error e => simp [intent?]
  constructor
  case asked => rfl
  case intent => exact isSuccess_iff_intent? _
  case error => exact isSuccess_iff_error? _
  case success =>
    rw [isSuccess_iff_intent?, Option.isSome_iff_exists]
    exact exists_congr horder
  case order => exact horder
  case price => exact fun intent hintent => price_hasText ((horder intent).mp hintent)
  case failure =>
    intro e herror
    rw [herror, Outcome.mapError_error, error?]

end Resolution

/-- A node that has the order `A` as hexadecimal text under the second name, and that cannot be
reached for any other order. -/
def textOrderNode : Node
  | .transaction hash =>
    if hash = "A" then .found (.mapping [("data", .text (Hex.marked buyOrder))])
    else .failed ⟨.timeout, "late"⟩
  | _ => .absent

/-- The order that the node has is reported, and so is the failure for the other one. -/
theorem resolve_reports_of_textOrderNode :
    textOrderNode.AnswersOrders ∧
      (∃ r, (Resolution.resolve textOrderNode "A").outcome = .ok r ∧ r.Reports textOrderNode "A" ∧
        r.isSuccess = true) ∧
      ∃ r, (Resolution.resolve textOrderNode "B").outcome = .ok r ∧ r.Reports textOrderNode "B" ∧
        r.error? = some "fetch failed: late" := by
  have orders : textOrderNode.AnswersOrders := by
    intro hash
    by_cases hA : hash = "A"
    · subst hA
      refine ⟨fun v hv => ?_, fun failure hfailure => ?_⟩
      · obtain rfl := Option.some.inj hv
        rfl
      · cases hfailure
    · have hreply : textOrderNode (.transaction hash) = .failed ⟨.timeout, "late"⟩ := if_neg hA
      refine ⟨fun v hv => ?_, fun failure hfailure => ?_⟩
      · simp [Node.fetched, hreply] at hv
      · obtain rfl := Reply.failed.inj (hreply.symm.trans hfailure)
        rfl
  refine ⟨orders, ?_, ?_⟩
  · obtain ⟨-, r, hok, reports⟩ := Resolution.resolve_reports orders "A"
    have hsuccess : (Resolution.resolve textOrderNode "A").outcome.toOption.map
        Resolution.isSuccess = some true := by decide +kernel
    refine ⟨r, hok, reports, ?_⟩
    rw [hok] at hsuccess
    exact Option.some.inj hsuccess
  · obtain ⟨-, r, hok, reports⟩ := Resolution.resolve_reports orders "B"
    have herror : (Resolution.resolve textOrderNode "B").outcome.toOption.map
        Resolution.error? = some (some ("fetch failed: late" : Text)) := by decide +kernel
    refine ⟨r, hok, reports, ?_⟩
    rw [hok] at herror
    exact Option.some.inj herror

end OrderNarration
