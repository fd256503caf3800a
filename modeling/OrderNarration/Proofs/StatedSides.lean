import OrderNarration.Proofs.LogShapes
import OrderNarration.Proofs.OrderInputs

/-!
# The side that a trade shows for an order

The word for a side is found by way of an integer. A fraction is cut off on this way, so
that every number between minus one and one is shown as a buy and every number from one up
to two as a sale, and an infinity has no word at all. All other values are shown as what
they are.
-/

namespace OrderNarration

namespace Binary64

/-- The number that a finite binary number is. -/
def toRat (negative : Bool) (significand : Nat) (exponent : Int) : ℚ :=
  (if negative then -1 else 1) * ((significand : ℚ) * 2 ^ exponent)

theorem fraction_div (significand : Nat) (exponent : Int) :
    ((fraction significand exponent).1 : ℚ) / (fraction significand exponent).2 =
      significand * 2 ^ exponent := by
  have hpow : ((2 : ℚ) ^ exponent.toNat) / 2 ^ (-exponent).toNat = 2 ^ exponent := by
    rw [← zpow_natCast, ← zpow_natCast, ← zpow_sub₀ two_ne_zero]
    congr 1
    omega
  simp only [fraction, power, Nat.pow_eq]
  push_cast
  rw [mul_div_assoc, hpow]

/-- Cutting off the fractional part leaves the integer part of the absolute value, with the sign. -/
theorem truncate_eq (negative : Bool) (significand : Nat) (exponent : Int) :
    truncate negative significand exponent =
      (if negative then -1 else 1) * (⌊(significand : ℚ) * 2 ^ exponent⌋₊ : Int) := by
  have hfloor : (fraction significand exponent).1 / (fraction significand exponent).2 =
      ⌊(significand : ℚ) * 2 ^ exponent⌋₊ := by
    rw [← fraction_div, Nat.floor_div_eq_div]
  simp only [truncate, hfloor]
  cases negative <;> simp

section Bounds

variable {negative : Bool} {significand : Nat} {exponent : Int}

theorem truncate_eq_zero_iff :
    truncate negative significand exponent = 0 ↔
      -1 < toRat negative significand exponent ∧ toRat negative significand exponent < 1 := by
  have hnonneg : (0 : ℚ) ≤ (significand : ℚ) * 2 ^ exponent := by positivity
  rw [truncate_eq, toRat]
  have hfloor := Nat.floor_eq_zero (a := (significand : ℚ) * 2 ^ exponent)
  cases negative with
  | true =>
      simp only [if_true, neg_one_mul, neg_eq_zero, Int.natCast_eq_zero, hfloor]
      constructor
      · intro h
        constructor <;> linarith
      · rintro ⟨h, -⟩
        linarith
  | false =>
      simp only [Bool.false_eq_true, if_false, one_mul, Int.natCast_eq_zero, hfloor]
      constructor
      · intro h
        exact ⟨by linarith, h⟩
      · exact And.right

theorem truncate_eq_one_iff :
    truncate negative significand exponent = 1 ↔
      1 ≤ toRat negative significand exponent ∧ toRat negative significand exponent < 2 := by
  have hnonneg : (0 : ℚ) ≤ (significand : ℚ) * 2 ^ exponent := by positivity
  rw [truncate_eq, toRat]
  cases negative with
  | true =>
      simp only [if_true, neg_one_mul]
      constructor
      · intro h
        omega
      · rintro ⟨h, -⟩
        linarith
  | false =>
      simp only [Bool.false_eq_true, if_false, one_mul]
      have hfloor := Nat.floor_eq_iff (n := 1) hnonneg
      norm_num at hfloor
      rw [← hfloor]
      omega

end Bounds

end Binary64

namespace Value

/-- The number that a value denotes: booleans count as zero and one, a text denotes the integer that
it is a numeral of. What is not a number, infinities included, denotes none. -/
def number? : Value → Option ℚ
  | bool b => some (if b then 1 else 0)
  | int n => some n
  | float (.finite negative significand exponent) =>
    some (Binary64.toRat negative significand exponent)
  | text t => (Numeral.read? t).map (Int.cast : Int → ℚ)
  | _ => none

/-- The value denotes a fraction whose integer part is that of a side. -/
def DenotesFraction (v : Value) : Prop := ∃ q, v.number? = some q ∧ -1 < q ∧ q < 2 ∧ q ≠ 0 ∧ q ≠ 1

/-- The integer that is zero or one, as conditions on the number that the value denotes. -/
structure TruncatesTo (v : Value) (n? : Option Int) : Prop where
  zero : n? = some 0 ↔ ∃ q, v.number? = some q ∧ -1 < q ∧ q < 1
  one : n? = some 1 ↔ ∃ q, v.number? = some q ∧ 1 ≤ q ∧ q < 2

theorem truncatesTo_none {v : Value} (h : v.number? = none) : v.TruncatesTo none := by
  constructor <;> simp [h]

theorem truncatesTo_int {v : Value} {n : Int} (h : v.number? = some (n : ℚ)) :
    v.TruncatesTo (some n) := by
  constructor
  · have hcast : (-1 : ℚ) < n ∧ (n : ℚ) < 1 ↔ n = 0 := by
      rw [show (-1 : ℚ) = ((-1 : Int) : ℚ) by norm_num, show (1 : ℚ) = ((1 : Int) : ℚ) by norm_num,
        Int.cast_lt, Int.cast_lt]
      omega
    simp [h, hcast]
  · have hcast : (1 : ℚ) ≤ n ∧ (n : ℚ) < 2 ↔ n = 1 := by
      rw [show (1 : ℚ) = ((1 : Int) : ℚ) by norm_num, show (2 : ℚ) = ((2 : Int) : ℚ) by norm_num,
        Int.cast_le, Int.cast_lt]
      omega
    simp [h, hcast]

/-- Of the JSON values only an infinity fails to give an integer or none. -/
theorem IsJson.integer? {v : Value} (json : v.IsJson) (finite : v.isInfinite = false) :
    ∃ n?, v.integer? = .ok n? ∧ v.TruncatesTo n? := by
  cases json with
  | null => exact ⟨none, rfl, truncatesTo_none rfl⟩
  | bool b =>
      refine ⟨_, rfl, truncatesTo_int ?_⟩
      cases b <;> simp [number?]
  | int n => exact ⟨_, rfl, truncatesTo_int rfl⟩
  | float x =>
      cases x with
      | finite negative significand exponent =>
          refine ⟨_, rfl, ?_, ?_⟩
          · simp [number?, Binary64.truncate_eq_zero_iff]
          · simp [number?, Binary64.truncate_eq_one_iff]
      | infinite negative => simp [isInfinite] at finite
      | notANumber => exact ⟨none, rfl, truncatesTo_none rfl⟩
  | text t =>
      cases hread : Numeral.read? t with
      | none =>
          exact ⟨none, by simp [Value.integer?, hread], truncatesTo_none (by simp [number?, hread])⟩
      | some n =>
          exact ⟨some n, by simp [Value.integer?, hread],
            truncatesTo_int (by simp [number?, hread])⟩
  | list all => exact ⟨none, rfl, truncatesTo_none rfl⟩
  | mapping all => exact ⟨none, rfl, truncatesTo_none rfl⟩

end Value

namespace Side

/-- The word is that of the integer part of the number that the value denotes. -/
structure Truncates (word : Text) (v : Value) : Prop where
  buy : word = "BUY" ↔ ∃ q, v.number? = some q ∧ -1 < q ∧ q < 1
  sell : word = "SELL" ↔ ∃ q, v.number? = some q ∧ 1 ≤ q ∧ q < 2
  unknown : word = "UNKNOWN" ↔ ∀ q, v.number? = some q → q ≤ -1 ∨ 2 ≤ q

/-- The word is that of the number itself: a buy is zero, a sale is one, and everything else is
unknown. -/
structure States (word : Text) (v : Value) : Prop where
  buy : word = "BUY" ↔ v.number? = some 0
  sell : word = "SELL" ↔ v.number? = some 1
  unknown : word = "UNKNOWN" ↔ v.number? ≠ some 0 ∧ v.number? ≠ some 1

section Words

variable {n? : Option Int} {v : Value} {w : Text}

theorem word_inj (side? side?' : Option Side) : word side? = word side?' ↔ side? = side?' := by
  have hbuy : ("BUY" : Text) ≠ "SELL" := by decide
  have hsell : ("SELL" : Text) ≠ "UNKNOWN" := by decide
  have hunknown : ("UNKNOWN" : Text) ≠ "BUY" := by decide
  rcases side? with - | (_ | _) <;> rcases side?' with - | (_ | _) <;>
    simp [word, hbuy, hbuy.symm, hsell, hsell.symm, hunknown, hunknown.symm]

theorem bind_ofInteger?_eq (n? : Option Int) :
    n?.bind ofInteger? =
      if n? = some 0 then some buy else if n? = some 1 then some sell else none := by
  cases n? with
  | none => simp
  | some n => simp [ofInteger?]

/-- The word for an integer is decided by whether it is zero or one. -/
theorem word_of_integer (n? : Option Int) :
    (word (n?.bind ofInteger?) = "BUY" ↔ n? = some 0) ∧
    (word (n?.bind ofInteger?) = "SELL" ↔ n? = some 1) ∧
    (word (n?.bind ofInteger?) = "UNKNOWN" ↔ n? ≠ some 0 ∧ n? ≠ some 1) := by
  rw [bind_ofInteger?_eq]
  refine ⟨(word_inj _ (some buy)).trans ?_, (word_inj _ (some sell)).trans ?_,
    (word_inj _ none).trans ?_⟩
  all_goals grind

theorem truncates_of_truncatesTo (h : v.TruncatesTo n?) :
    Truncates (word (n?.bind ofInteger?)) v := by
  obtain ⟨hbuy, hsell, hunknown⟩ := word_of_integer n?
  refine ⟨hbuy.trans h.zero, hsell.trans h.one, ?_⟩
  rw [hunknown, ne_eq, ne_eq, h.zero, h.one]
  cases v.number? with
  | none => simp
  | some q =>
      simp only [Option.some.injEq, exists_eq_left', forall_eq', not_and_or, not_lt, not_le]
      constructor
      · rintro ⟨hlow | hlow, hhigh | hhigh⟩
        · exact .inl hlow
        · exact .inl hlow
        · linarith
        · exact .inr hhigh
      · rintro (hlow | hhigh)
        · exact ⟨.inl hlow, .inl (by linarith)⟩
        · exact ⟨.inr (by linarith), .inr hhigh⟩

/-- The word is right unless the value denotes a fraction whose integer part is that of a side. -/
theorem Truncates.states_iff (h : Truncates w v) : States w v ↔ ¬ v.DenotesFraction := by
  obtain ⟨hbuy, hsell, hunknown⟩ := h
  constructor
  · rintro ⟨hzero, hone, -⟩ ⟨q, hq, hlow, hhigh, hneZero, hneOne⟩
    by_cases hlt : q < 1
    · have hword := hzero.mp (hbuy.mpr ⟨q, hq, hlow, hlt⟩)
      exact hneZero (Option.some.inj (hq.symm.trans hword))
    · have hword := hone.mp (hsell.mpr ⟨q, hq, not_lt.mp hlt, hhigh⟩)
      exact hneOne (Option.some.inj (hq.symm.trans hword))
  · intro hwhole
    cases hq : v.number? with
    | none => constructor <;> simp_all
    | some q =>
        have hcases : q ≤ -1 ∨ q = 0 ∨ q = 1 ∨ 2 ≤ q := by
          by_contra hnot
          simp only [not_or, not_le] at hnot
          exact hwhole ⟨q, hq, hnot.1, hnot.2.2.2, hnot.2.1, hnot.2.2.1⟩
        have hzero : (-1 < q ∧ q < 1) ↔ q = 0 := by grind
        have hone : (1 ≤ q ∧ q < 2) ↔ q = 1 := by grind
        have hother : (q ≤ -1 ∨ 2 ≤ q) ↔ q ≠ 0 ∧ q ≠ 1 := by grind
        simp only [hq, Option.some.injEq, exists_eq_left', forall_eq', hzero, hone, hother]
          at hbuy hsell hunknown
        exact ⟨by simpa [hq] using hbuy, by simpa [hq] using hsell, by simpa [hq] using hunknown⟩

end Words

end Side

/-- The record shows a word for the side of an order, in its message and in its data. -/
structure Record.ShowsSide (r : Record) (intent : OrderIntent) (hash word : Text) : Prop where
  kind : r.kind = .tradeLeg
  message : r.message = Narration.describeOrder intent word hash
  data : Entries.get? "side" r.data = some (.text word)

namespace Narration

variable {topics : TopicTable} {node : Node} {log : EventLog} {kind : EventKind}
  {position given : Value} {t : Trade}

/-- An order that was read is shown with the word of its truncated side. -/
theorem leg_shows_side {l : Leg} {hash : Text} {intent : OrderIntent}
    (hfind : (Resolution.find node hash).outcome = .ok intent)
    (finite : intent.context.side.isInfinite = false) :
    ∃ r word, (leg node (log.record kind position) l hash).outcome = .ok r ∧
      r.ShowsSide intent hash word ∧ Side.Truncates word intent.context.side := by
  obtain ⟨n?, hinteger, htruncates⟩ := (Resolution.find_side_isJson hfind).integer? finite
  have hword : Side.wordOfValue intent.context.side =
      .ok (Side.word (n?.bind Side.ofInteger?)) := by
    simp [Side.wordOfValue, Side.ofValue, hinteger]
  refine ⟨resolvedLeg (log.record kind position) l hash intent _, _, ?_, ⟨rfl, rfl, rfl⟩,
    Side.truncates_of_truncatesTo htruncates⟩
  rw [leg]
  simp [Resolution.resolve_outcome, hfind, hword]

/-- Without an infinite side a trade has a record for each of its orders, and every order that was
read is shown with the word of its truncated side. -/
theorem log_shows_sides (shown : (log.position given).display?.isSome) (orders : node.AnswersOrders)
    (trade : log.IsTrade topics t) (finite : ∀ l, ¬ node.HasInfiniteSide (t.order l)) :
    ∃ legs : Leg → Record,
      (Narration.log topics node log given).outcome =
        .ok [legs .buy, legs .sell, matchedPrice log .trades (log.position given) t] ∧
      ∀ l intent, (Resolution.find node (t.order l)).outcome = .ok intent →
        ∃ word, (legs l).ShowsSide intent (t.order l) word ∧
          Side.Truncates word intent.context.side := by
  have hleg : ∀ l, ∃ r, (leg node (log.record .trades (log.position given)) l
      (t.order l)).outcome = .ok r := fun l => by
    obtain ⟨r, hr, -⟩ := leg_of_finite_side log .trades (log.position given) l orders (finite l)
    exact ⟨r, hr⟩
  choose legs hlegs using hleg
  refine ⟨legs, ?_, fun l intent hfind => ?_⟩
  · rw [log_of_trade shown trade]
    exact trade_eq_ok_iff.mpr ⟨legs, hlegs, rfl⟩
  · have hside : intent.context.side.isInfinite = false :=
      Bool.eq_false_iff.mpr fun hyes => finite l ⟨intent, hfind, hyes⟩
    obtain ⟨r, word, hr, hshows, htruncates⟩ := leg_shows_side hfind hside
    obtain rfl := Except.ok.inj ((hlegs l).symm.trans hr)
    exact ⟨word, hshows, htruncates⟩

/-- What a trade shows for the sides of its orders, with the exact condition for being right. An
infinite side leaves the trade without a narration. Otherwise every order that was read is shown
with the word of its truncated side, which is the word of the side itself unless the side is a
fraction between minus one and two. -/
theorem sides_shown_truncated (shown : (log.position given).display?.isSome)
    (orders : node.AnswersOrders) (trade : log.IsTrade topics t) :
    ((∃ l, node.HasInfiniteSide (t.order l)) →
      (Narration.log topics node log given).outcome = .error (.noInteger .infiniteFloat)) ∧
    ((∀ l, ¬ node.HasInfiniteSide (t.order l)) →
      ∃ legs : Leg → Record,
        (Narration.log topics node log given).outcome =
          .ok [legs .buy, legs .sell, matchedPrice log .trades (log.position given) t] ∧
        ∀ l intent, (Resolution.find node (t.order l)).outcome = .ok intent →
          ∃ word, (legs l).ShowsSide intent (t.order l) word ∧
            Side.Truncates word intent.context.side ∧
            (Side.States word intent.context.side ↔ ¬ intent.context.side.DenotesFraction)) := by
  constructor
  · rintro ⟨l, hside⟩
    obtain ⟨⟨hfew, -⟩, hkind, hread⟩ := trade
    refine log_of_infinite_side shown orders ⟨hfew, hkind, t, hread, ?_⟩
    cases l with
    | buy => exact .inl hside
    | sell => exact .inr hside
  · intro finite
    obtain ⟨legs, hlog, hlegs⟩ := log_shows_sides shown orders trade finite
    refine ⟨legs, hlog, fun l intent hfind => ?_⟩
    obtain ⟨word, hshows, htruncates⟩ := hlegs l intent hfind
    exact ⟨word, hshows, htruncates, htruncates.states_iff⟩

end Narration

/-- What the trade of the orders `A` and `B` says. -/
def storedTrade : Trade where
  buyHash := "A"
  sellHash := "B"
  priceHex := "0x01"
  priceEther := "0.000000000000000001"

theorem tradeLog_isTrade : tradeLog.IsTrade tradeTable storedTrade :=
  ⟨⟨by decide, by decide⟩, by decide +kernel, rfl⟩

/-- An order with the given text for its side. -/
def orderAtSide (side : String) : List UInt8 :=
  0x21 :: Utf8.encode ("\x7b\"price\":1,\"side\":" ++ side ++ "\x7d").toList

/-- The value is a text that is a numeral of the integer. -/
def Value.isNumeralOf (n : Int) : Value → Bool
  | text t => Numeral.read? t = some n
  | _ => false

theorem Value.number?_of_isNumeralOf {n : Int} {v : Value} (h : v.isNumeralOf n = true) :
    v.number? = some (n : ℚ) := by
  cases v with
  | text t => simp [number?, of_decide_eq_true h]
  | _ => simp [isNumeralOf] at h

/-- The value is the binary number. -/
def Value.isFloat (x : Binary64) : Value → Bool
  | float y => y = x
  | _ => false

theorem Value.eq_of_isFloat {x : Binary64} {v : Value} (h : v.isFloat x = true) : v = .float x := by
  cases v with
  | float y => rw [of_decide_eq_true h]
  | _ => simp [isFloat] at h

/-- The side of an input passes a test. -/
def sidePasses (test : Value → Bool) (order : List UInt8) : Bool :=
  match OrderIntent.ofBytes order with
  | .ok intent => test intent.context.side
  | .error _ => false

theorem exists_intent_of_sidePasses {test : Value → Bool} {order : List UInt8}
    (h : sidePasses test order = true) :
    ∃ intent, OrderIntent.ofBytes order = .ok intent ∧ test intent.context.side = true := by
  cases hread : OrderIntent.ofBytes order with
  | ok intent => exact ⟨intent, rfl, by simpa [sidePasses, hread] using h⟩
  | error e => simp [sidePasses, hread] at h

theorem not_infinite_of_sidePasses {order : List UInt8} (name : Text)
    (h : sidePasses (fun v => !v.isInfinite) order = true) :
    ¬ (orderNode order).HasInfiniteSide name := by
  rintro ⟨intent, hfind, hside⟩
  rw [Resolution.find_orderNode] at hfind
  obtain ⟨other, hother, hfinite⟩ := exists_intent_of_sidePasses h
  obtain rfl := Except.ok.inj (hfind.symm.trans hother)
  simp [hside] at hfinite

/-- A text with blanks and an underscore that is a numeral of one: both orders are shown as
sales. -/
theorem sides_shown_truncated_of_numeral :
    let node := orderNode (orderAtSide "\" +0_1 \"")
    (tradeLog.position (.int 0)).display?.isSome ∧ node.AnswersOrders ∧
      tradeLog.IsTrade tradeTable storedTrade ∧
      ∃ legs : Leg → Record,
        (Narration.log tradeTable node tradeLog (.int 0)).outcome =
          .ok [legs .buy, legs .sell,
            Narration.matchedPrice tradeLog .trades (.int 0) storedTrade] ∧
        ∀ l, ∃ intent, (legs l).ShowsSide intent (storedTrade.order l) "SELL" := by
  intro node
  have orders : node.AnswersOrders := orderNode_answersOrders _
  have finite : ∀ l, ¬ node.HasInfiniteSide (storedTrade.order l) := fun l =>
    not_infinite_of_sidePasses _ (by decide +kernel)
  have shown : (tradeLog.position (.int 0)).display?.isSome := rfl
  obtain ⟨legs, hlog, hlegs⟩ :=
    (Narration.sides_shown_truncated shown orders tradeLog_isTrade).2 finite
  refine ⟨rfl, orders, tradeLog_isTrade, legs, hlog, fun l => ?_⟩
  have hside : sidePasses (Value.isNumeralOf 1) (orderAtSide "\" +0_1 \"") = true := by
    decide +kernel
  obtain ⟨intent, hread, htext⟩ := exists_intent_of_sidePasses hside
  obtain ⟨word, hshows, htruncates, -⟩ :=
    hlegs l intent ((Resolution.find_orderNode _ _).trans hread)
  have hone : intent.context.side.number? = some 1 := by
    exact_mod_cast Value.number?_of_isNumeralOf htext
  obtain rfl := htruncates.sell.mpr ⟨1, hone, le_refl 1, by norm_num⟩
  exact ⟨intent, hshows⟩

/-- A side of one half is shown as a buy. -/
theorem half_side_shown_as_buy :
    let node := orderNode (orderAtSide "0.5")
    node.AnswersOrders ∧ tradeLog.IsTrade tradeTable storedTrade ∧
      ∃ intent records r, (Resolution.find node "A").outcome = .ok intent ∧
        intent.context.side.number? = some (1 / 2) ∧
        (Narration.log tradeTable node tradeLog (.int 0)).outcome = .ok records ∧ r ∈ records ∧
        r.ShowsSide intent "A" "BUY" := by
  intro node
  have orders : node.AnswersOrders := orderNode_answersOrders _
  have finite : ∀ l, ¬ node.HasInfiniteSide (storedTrade.order l) := fun l =>
    not_infinite_of_sidePasses _ (by decide +kernel)
  have shown : (tradeLog.position (.int 0)).display?.isSome := rfl
  obtain ⟨legs, hlog, hlegs⟩ := Narration.log_shows_sides shown orders tradeLog_isTrade finite
  have hside : sidePasses (Value.isFloat (.finite false (2 ^ 52) (-53))) (orderAtSide "0.5") =
      true := by decide +kernel
  obtain ⟨intent, hread, hfloat⟩ := exists_intent_of_sidePasses hside
  have hfind := (Resolution.find_orderNode (orderAtSide "0.5") "A").trans hread
  obtain ⟨word, hshows, htruncates⟩ := hlegs .buy intent hfind
  have hhalf : intent.context.side.number? = some (1 / 2) := by
    rw [Value.eq_of_isFloat hfloat, Value.number?, Binary64.toRat]
    norm_num
  obtain rfl := htruncates.buy.mpr ⟨1 / 2, hhalf, by norm_num, by norm_num⟩
  exact ⟨orders, tradeLog_isTrade, intent, _, legs .buy, hfind, hhalf, hlog, by simp, hshows⟩

end OrderNarration
