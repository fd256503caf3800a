import OrderNarration.Proofs.JsonLongIntegers
import OrderNarration.Proofs.LogContainment

/-!
# Inputs of order transactions

An input is read from every rendering of its object, and the object's entries are divided
between the attributes of the context and the rest. An input that is not read has a
malformed context, with one exception: an integer beyond the limit of digits. That fault is
not told apart from a failed lookup, and it comes back as one.
-/

namespace OrderNarration

namespace OrderContext

/-- The attributes of a context under the keys that they have in an input. -/
def attributes (context : OrderContext) : Entries Value :=
  [("price", context.price), ("side", context.side), ("tpslLimit", context.tpslLimit),
    ("baseToken", context.baseToken), ("quoteToken", context.quoteToken),
    ("quantity", context.quantity), ("orderType", context.orderType)]

/-- The context says what the entries of an object say: every attribute has the value of its key,
or null if the key is absent, and all other entries are kept once each, in their order. -/
structure Reflects (context : OrderContext) (entries : Entries Value) : Prop where
  stated : ∀ p ∈ context.attributes, p.2 = (Entries.get? p.1 entries).getD .null
  order : context.extra.Sublist entries
  remaining : ∀ e, e ∈ context.extra ↔ e ∈ entries ∧ e.1 ∉ context.attributes.map Prod.fst
  distinct : (context.extra.map Prod.fst).Nodup

theorem keys_attributes (context : OrderContext) :
    context.attributes.map Prod.fst = knownKeys := rfl

theorem ofEntries_of_required {entries : Entries Value}
    (hprice : (Entries.get? "price" entries).isSome)
    (hside : (Entries.get? "side" entries).isSome) :
    ∃ context, ofEntries entries = .ok context := by
  simp [ofEntries, requiredKeys, Option.isNone_eq_false_iff.mpr hprice,
    Option.isNone_eq_false_iff.mpr hside]

/-- What is read from entries without a repeated key reflects them. -/
theorem ofEntries_reflects {entries : Entries Value} {context : OrderContext}
    (nodup : (entries.map Prod.fst).Nodup) (h : ofEntries entries = .ok context) :
    context.Reflects entries := by
  simp only [ofEntries] at h
  split at h
  · obtain rfl := Except.ok.inj h
    refine ⟨by simp [attributes], List.filter_sublist, fun e => ?_, ?_⟩
    · rw [keys_attributes, List.mem_filter]
      simp
    · exact nodup.sublist (List.filter_sublist.map _)
  · simp at h

end OrderContext

namespace OrderKind

theorem ofTag_eq_stopOrder_iff {n : Int} : ofTag n = .stopOrder ↔ n = 0x25 := by
  unfold ofTag
  grind

theorem ofTag_eq_new_iff {n : Int} : ofTag n = .new ↔ n = 0x21 := by
  unfold ofTag
  grind

end OrderKind

namespace OrderIntent

section Renderings

variable {tag : UInt8} {cs : List Char} {entries : Entries Value} {context : OrderContext}

theorem nodup_keys_of_isTextOf (text : Json.IsTextOf cs (.mapping entries)) :
    (entries.map Prod.fst).Nodup := by
  obtain ⟨before, body, after, rfl, -, -, spells⟩ := text
  cases spells with
  | noMembers => exact List.nodup_nil
  | @members blanks body pairs entries blank members collect =>
      rw [collect.eq_ofPairs]
      exact Entries.nodup_keys_ofPairs pairs
  | atom atom =>
      generalize hv : Value.mapping entries = v at atom
      cases atom with
      | name known =>
          simp only [Json.names, List.mem_cons, List.not_mem_nil, or_false, Prod.mk.injEq] at known
          simp [← hv] at known
      | integer | number => simp at hv

theorem ofValue_of_isTextOf (tag : UInt8) (text : Json.IsTextOf cs (.mapping entries))
    (hcontext : OrderContext.ofEntries entries = .ok context) :
    ofValue (.bytes (tag :: Utf8.encode cs)) = .ok ⟨tag, context⟩ := by
  have hdecode : Utf8.decode (Utf8.encode cs) = .ok cs := Utf8.decode_eq_ok_iff.mpr rfl
  have hread := Json.read_eq_ok_iff.mpr text
  simp [ofValue, Value.byteString, ofBytes, readContext, hdecode, hread, hcontext]

theorem kind_eq_stopOrder_iff (intent : OrderIntent) :
    intent.kind = .stopOrder ↔ intent.tag = 0x25 := by
  rw [kind, OrderKind.ofTag_eq_stopOrder_iff, ← UInt8.toNat_inj]
  exact Int.ofNat_inj

theorem kind_eq_new_iff (intent : OrderIntent) : intent.kind = .new ↔ intent.tag = 0x21 := by
  rw [kind, OrderKind.ofTag_eq_new_iff, ← UInt8.toNat_inj]
  exact Int.ofNat_inj

/-- The label is decided by the tag and, for a new order, by a limit that is not null. -/
theorem label?_iff (intent : OrderIntent) :
    (intent.label? = some "STOP_ORDER" ↔ intent.tag = 0x25) ∧
    (intent.label? = some "LIMIT_TPSL" ↔ intent.tag = 0x21 ∧ intent.context.tpslLimit ≠ .null) ∧
    (intent.label? = some "LIMIT" ↔ intent.tag = 0x21 ∧ intent.context.tpslLimit = .null) ∧
    (intent.label? = none ↔ intent.tag ≠ 0x21 ∧ intent.tag ≠ 0x25) := by
  have stop_tpsl : ("STOP_ORDER" : Text) ≠ "LIMIT_TPSL" := by decide
  have stop_limit : ("STOP_ORDER" : Text) ≠ "LIMIT" := by decide
  have tpsl_limit : ("LIMIT_TPSL" : Text) ≠ "LIMIT" := by decide
  simp only [ne_eq, ← kind_eq_stopOrder_iff, ← kind_eq_new_iff, label?]
  cases intent.kind with
  | new =>
      cases intent.context.tpslLimit <;> simp [stop_limit.symm, stop_tpsl.symm, tpsl_limit,
        tpsl_limit.symm]
  | stopOrder => simp [stop_tpsl, stop_limit]
  | _ => simp

/-- The words for an order that was read from an object, as conditions on its tag and on the entry
for the limit. -/
structure Labels (intent : OrderIntent) (entries : Entries Value) : Prop where
  stopOrder : intent.label? = some "STOP_ORDER" ↔ intent.tag = 0x25
  limitTpsl : intent.label? = some "LIMIT_TPSL" ↔
    intent.tag = 0x21 ∧ ∃ limit, Entries.get? "tpslLimit" entries = some limit ∧ limit ≠ .null
  limit : intent.label? = some "LIMIT" ↔
    intent.tag = 0x21 ∧ ∀ limit, Entries.get? "tpslLimit" entries = some limit → limit = .null
  none : intent.label? = none ↔ intent.tag ≠ 0x21 ∧ intent.tag ≠ 0x25

theorem labels_of_reflects {intent : OrderIntent} (reflects : intent.context.Reflects entries) :
    intent.Labels entries := by
  have hlimit : intent.context.tpslLimit = (Entries.get? "tpslLimit" entries).getD .null :=
    reflects.stated ("tpslLimit", _) (by simp [OrderContext.attributes])
  have hnull : intent.context.tpslLimit = .null ↔
      ∀ limit, Entries.get? "tpslLimit" entries = some limit → limit = .null := by
    rw [hlimit]
    cases Entries.get? "tpslLimit" entries <;> simp
  have hlimited : intent.context.tpslLimit ≠ .null ↔
      ∃ limit, Entries.get? "tpslLimit" entries = some limit ∧ limit ≠ .null := by
    rw [ne_eq, hnull]
    push Not
    rfl
  obtain ⟨hstop, htpsl, hplain, hnone⟩ := intent.label?_iff
  rw [hlimited] at htpsl
  rw [hnull] at hplain
  exact ⟨hstop, htpsl, hplain, hnone⟩

/-- An input is read from every rendering of an object with a price and a side, whatever its tag:
the tag and the object's entries come back, and they decide the label. -/
theorem every_rendering_read (tag : UInt8) (text : Json.IsTextOf cs (.mapping entries))
    (hprice : (Entries.get? "price" entries).isSome)
    (hside : (Entries.get? "side" entries).isSome) :
    ∃ intent, ofValue (.bytes (tag :: Utf8.encode cs)) = .ok intent ∧ intent.tag = tag ∧
      intent.context.Reflects entries ∧ intent.Labels entries := by
  obtain ⟨context, hcontext⟩ := OrderContext.ofEntries_of_required hprice hside
  have reflects := OrderContext.ofEntries_reflects (nodup_keys_of_isTextOf text) hcontext
  exact ⟨⟨tag, context⟩, ofValue_of_isTextOf tag text hcontext, rfl, reflects,
    labels_of_reflects reflects⟩

/-- An object with blanks between its tokens, escapes, a surrogate pair, a key given twice and keys
that are spelled like attributes. -/
def renderedOrder : List Char :=
  ("\x7b \"side\" : 7 ,\"\\u0070rice\":\"\\ud83d\\ude00\\n\",\t\"tpsl_limit\":" ++
    "[null,-12,\x7b\"a\":[ ]\x7d],\"extra\":true,\"tpslLimit\":\x7b\x7d, \"side\":0\x7d").toList

/-- The keys of the object that a text is read as, in order. -/
def keysRead (cs : List Char) : Option (List Text) :=
  match Json.read cs with
  | .ok (.mapping entries) => some (entries.map Prod.fst)
  | _ => none

theorem exists_entries_of_keysRead {keys : List Text} (h : keysRead cs = some keys) :
    ∃ entries, Json.read cs = .ok (.mapping entries) ∧ entries.map Prod.fst = keys := by
  unfold keysRead at h
  split at h
  next entries hread => exact ⟨entries, hread, Option.some.inj h⟩
  next => simp at h

theorem every_rendering_read_of_escapes :
    ∃ entries, Json.IsTextOf renderedOrder (.mapping entries) ∧
      entries.map Prod.fst = ["side", "price", "tpsl_limit", "extra", "tpslLimit"] ∧
      ∃ intent, ofValue (.bytes (0x21 :: Utf8.encode renderedOrder)) = .ok intent ∧
        intent.tag = 0x21 ∧ intent.context.Reflects entries ∧ intent.Labels entries := by
  have hkeys : keysRead renderedOrder =
      some (["side", "price", "tpsl_limit", "extra", "tpslLimit"] : List Text) := by
    decide +kernel
  obtain ⟨entries, hread, hkeys⟩ := exists_entries_of_keysRead hkeys
  have text := Json.read_eq_ok_iff.mp hread
  refine ⟨entries, text, hkeys, every_rendering_read 0x21 text ?_ ?_⟩
  all_goals
    rw [Option.isSome_iff_ne_none, ne_eq, Entries.get?_eq_none_iff, hkeys]
    decide

end Renderings

section Faults

variable {data : List UInt8} {n : Nat}

/-- The input is a tag and a text that comes to an integer of so many digits, beyond the limit. -/
def CarriesLongInteger (n : Nat) (data : List UInt8) : Prop :=
  ∃ tag cs, data = tag :: Utf8.encode cs ∧ Json.ComesToLongInteger n cs

theorem readContext_of_long {cs : List Char} (long : Json.ComesToLongInteger n cs) :
    readContext (Utf8.encode cs) = .error (.tooManyDigits n) := by
  have hdecode : Utf8.decode (Utf8.encode cs) = .ok cs := Utf8.decode_eq_ok_iff.mpr rfl
  have hread := Json.read_eq_tooManyDigits_iff.mpr long
  simp [readContext, hdecode, hread]

/-- A context is read, or it is malformed, or it has an integer beyond the limit. -/
theorem readContext_cases (bytes : List UInt8) :
    (∃ context, readContext bytes = .ok context) ∨
      (∃ cause, readContext bytes = .error (.context cause)) ∨
      ∃ n cs, bytes = Utf8.encode cs ∧ Json.ComesToLongInteger n cs := by
  cases hdecode : Utf8.decode bytes with
  | error cause => exact .inr (.inl ⟨.notUtf8 cause, by simp [readContext, hdecode]⟩)
  | ok cs =>
      cases hread : Json.read cs with
      | error e =>
          cases e with
          | flaw kind place =>
              exact .inr (.inl ⟨.notJson kind place, by simp [readContext, hdecode, hread]⟩)
          | tooManyDigits n =>
              exact .inr (.inr ⟨n, cs, Utf8.decode_eq_ok_iff.mp hdecode,
                Json.read_eq_tooManyDigits_iff.mp hread⟩)
      | ok v =>
          cases v with
          | mapping entries =>
              cases hof : OrderContext.ofEntries entries with
              | ok context => exact .inl ⟨context, by simp [readContext, hdecode, hread, hof]⟩
              | error cause =>
                  exact .inr (.inl ⟨cause, by simp [readContext, hdecode, hread, hof]⟩)
          | _ => exact .inr (.inl ⟨_, by simp [readContext, hdecode, hread]; rfl⟩)

theorem ofBytes_of_long (long : CarriesLongInteger n data) :
    ofBytes data = .error (.tooManyDigits n) := by
  obtain ⟨tag, cs, rfl, hlong⟩ := long
  simp [ofBytes, readContext_of_long hlong]

theorem ofBytes_cases (data : List UInt8) :
    (∃ intent, ofBytes data = .ok intent) ∨ (∃ cause, ofBytes data = .error (.context cause)) ∨
      ∃ n, CarriesLongInteger n data := by
  cases data with
  | nil => exact .inr (.inl ⟨.emptyInput, rfl⟩)
  | cons tag rest =>
      rcases readContext_cases rest with ⟨context, hok⟩ | ⟨cause, herror⟩ | ⟨n, cs, rfl, long⟩
      · exact .inl ⟨⟨tag, context⟩, by simp [ofBytes, hok]⟩
      · exact .inr (.inl ⟨cause, by simp [ofBytes, herror]⟩)
      · exact .inr (.inr ⟨n, tag, cs, rfl, long⟩)

end Faults

end OrderIntent

namespace Resolution

/-- The result says that the transaction could not be fetched. -/
def ReportsFetch (r : Resolution) : Prop :=
  ∃ wording, r.outcome = .error ("fetch failed: " ++ wording)

/-- What is said of a malformed context does not read like a failed fetch. -/
theorem message_ne_fetch_failed (cause : ContextError) (wording : Text) :
    cause.message ≠ "fetch failed: " ++ wording := by
  have hhead : cause.message.head? = some (.scalar 't') ∨
      cause.message.head? = some (.scalar 'o') := by
    cases cause with
    | emptyInput => exact .inl rfl
    | _ => exact .inr rfl
  have hf : (("fetch failed: " : Text) ++ wording).head? = some (.scalar 'f') := rfl
  intro heq
  rw [heq, hf] at hhead
  simp at hhead

variable {node : Node} {hash : Text} {transaction input : Value} {data : List UInt8}

theorem find_of_input (fetched : node.fetched (.transaction hash) = some transaction)
    (hinput : transactionInput transaction = .ok input) (hdata : input.byteString = .ok data) :
    (find node hash).outcome = OrderIntent.ofBytes data := by
  rw [find, Run.outcome_bind, Node.ask_of_fetched fetched, Outcome.ok_bind]
  simp [hinput, OrderIntent.ofValue, hdata]

/-- The faults of reading an input, with their exact condition. An input is read or its context is
malformed unless it has an integer beyond the limit of digits. That one fault belongs to the kind of
the node's own failures, so a transaction that was fetched and whose input gives bytes is reported
as not fetched exactly then. A text that is not hexadecimal gives no bytes, and it is reported as
not fetched as well. -/
theorem input_faults_iff (fetched : node.fetched (.transaction hash) = some transaction)
    (hinput : transactionInput transaction = .ok input) (hdata : input.byteString = .ok data) :
    (((∃ intent, OrderIntent.ofBytes data = .ok intent) ∨
        ∃ cause, OrderIntent.ofBytes data = .error (.context cause)) ↔
      ¬ ∃ n, OrderIntent.CarriesLongInteger n data) ∧
    (∀ n, OrderIntent.CarriesLongInteger n data →
      OrderIntent.ofBytes data = .error (.tooManyDigits n)) ∧
    ∃ r, (resolve node hash).outcome = .ok r ∧
      (r.ReportsFetch ↔ ∃ n, OrderIntent.CarriesLongInteger n data) := by
  have hresolve := resolve_outcome node hash
  rw [find_of_input fetched hinput hdata] at hresolve
  have hlong : ∀ n, OrderIntent.CarriesLongInteger n data →
      OrderIntent.ofBytes data = .error (.tooManyDigits n) := fun n => OrderIntent.ofBytes_of_long
  rcases OrderIntent.ofBytes_cases data with ⟨intent, hok⟩ | ⟨cause, herror⟩ | ⟨n, long⟩
  · have hnot : ¬ ∃ n, OrderIntent.CarriesLongInteger n data := by
      rintro ⟨n, long⟩
      simp [hlong n long] at hok
    rw [hok] at hresolve
    refine ⟨⟨fun _ => hnot, fun _ => .inl ⟨intent, hok⟩⟩, hlong, _, hresolve, ?_⟩
    simp [ReportsFetch, hnot]
  · have hnot : ¬ ∃ n, OrderIntent.CarriesLongInteger n data := by
      rintro ⟨n, long⟩
      simp [hlong n long] at herror
    rw [herror] at hresolve
    refine ⟨⟨fun _ => hnot, fun _ => .inr ⟨cause, herror⟩⟩, hlong, _, hresolve, ?_⟩
    refine iff_of_false ?_ hnot
    rintro ⟨wording, heq⟩
    exact message_ne_fetch_failed cause wording (Except.error.inj heq)
  · have hread := hlong n long
    rw [hread] at hresolve
    refine ⟨⟨?_, fun hnot => absurd ⟨n, long⟩ hnot⟩, hlong, _, hresolve, ?_⟩
    · rintro (⟨intent, hok⟩ | ⟨cause, herror⟩)
      · simp [hread] at hok
      · simp [hread] at herror
    · exact iff_of_true ⟨_, rfl⟩ ⟨n, long⟩

section OneOrder

variable (order : List UInt8) (name : Text)

theorem fetched_orderNode :
    (orderNode order).fetched (.transaction name) = some (.mapping [("input", .bytes order)]) := rfl

theorem transactionInput_orderNode :
    transactionInput (.mapping [("input", .bytes order)]) = .ok (.bytes order) := rfl

theorem find_orderNode : (find (orderNode order) name).outcome = OrderIntent.ofBytes order :=
  find_of_input (fetched_orderNode order name) (transactionInput_orderNode order) rfl

end OneOrder

/-- An input that is no UTF-8 has a malformed context, and it is not reported as a failed fetch. -/
theorem input_faults_iff_of_broken_text :
    let order : List UInt8 := [0x21, 0xFF]
    (orderNode order).fetched (.transaction "A") = some (.mapping [("input", .bytes order)]) ∧
      (∃ cause, OrderIntent.ofBytes order = .error (.context cause)) ∧
      ∃ r, (resolve (orderNode order) "A").outcome = .ok r ∧ ¬ r.ReportsFetch := by
  intro order
  have fetched := fetched_orderNode order "A"
  have hfault : OrderIntent.ofBytes order =
      .error (.context (.notUtf8 ⟨.invalidStart, [0xFF], 0⟩)) := rfl
  obtain ⟨hread, -, r, hr, hreports⟩ :=
    input_faults_iff fetched (transactionInput_orderNode order) rfl
  have hnot := hread.mp (.inr ⟨_, hfault⟩)
  exact ⟨fetched, ⟨_, hfault⟩, r, hr, hreports.not.mpr hnot⟩

/-- An object with a price of 4301 digits. -/
def longPrice : List Char :=
  '\x7b' :: ('"' :: ("price".toList ++ ['"']) ++
    ':' :: (List.replicate 4301 '1' ++ ',' :: "\"side\":0\x7d".toList))

theorem comesToLongInteger_longPrice : Json.ComesToLongInteger 4301 longPrice := by
  have name : Json.SpellsString ('"' :: ("price".toList ++ ['"'])) "price" :=
    ⟨"price".toList, rfl, Json.spellsText_ofChars (by simp)⟩
  have ones : ∀ c ∈ List.replicate 4301 '1', c.isDigit = true := fun c hc => by
    rw [List.eq_of_mem_replicate hc]
    rfl
  have whole : Json.IsWhole (List.replicate 4301 '1') :=
    .inr ⟨'1', List.replicate 4300 '1', rfl, by decide, ones⟩
  have stop : ¬ Json.Continues (',' :: "\"side\":0\x7d".toList) :=
    Json.not_continues_cons rfl (by decide) (by decide)
  have value : Json.Reaches 4301 (List.replicate 4301 '1' ++ ',' :: "\"side\":0\x7d".toList) :=
    @Json.Reaches.integer _ false _ _ whole List.length_replicate (by decide) stop
  have none : Json.Blanks [] := by simp [Json.Blanks]
  have members := Json.MembersReach.here name none none value
  exact ⟨[], longPrice, rfl, none, @Json.Reaches.members _ [] _ none members⟩

/-- An order at a price of 4301 digits has neither an intent nor a malformed context, and its
transaction, which was fetched, is reported as a failed fetch. -/
theorem long_price_reported_as_fetch :
    let order := 0x21 :: Utf8.encode longPrice
    (orderNode order).fetched (.transaction "A") = some (.mapping [("input", .bytes order)]) ∧
      ¬ (∃ intent, OrderIntent.ofBytes order = .ok intent) ∧
      ¬ (∃ cause, OrderIntent.ofBytes order = .error (.context cause)) ∧
      ∃ r, (resolve (orderNode order) "A").outcome = .ok r ∧ r.ReportsFetch := by
  intro order
  have fetched := fetched_orderNode order "A"
  have hfault : OrderIntent.ofBytes order = .error (.tooManyDigits 4301) :=
    OrderIntent.ofBytes_of_long ⟨0x21, longPrice, rfl, comesToLongInteger_longPrice⟩
  have hresolve := resolve_outcome (orderNode order) "A"
  rw [find_orderNode, hfault] at hresolve
  exact ⟨fetched, by simp [hfault], by simp [hfault], _, hresolve, _, rfl⟩

end Resolution

end OrderNarration
