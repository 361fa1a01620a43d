import Daybreak.Execution.Alpaca

/-! A command, the payload it is sent as, and the answer of a broker. An answer that says of
the order what was sent is read as an order that the service finds to be the one it sent; any
other answer is refused, or is read as another order. -/

namespace Daybreak.Execution

open Numeric DecimalArithmetic Serial

variable {R : Runtime} {c : BrokerOrderCommand Decimal} {sent answer : Entries}
  {observedAt : Timestamp} {s : BrokerOrderSnapshot Decimal}

/-! ### Members of enumerations -/

theorem member_eq_some {α : Type} {members : List α} {value : α → String} {text : String} {m : α}
    (hMember : m ∈ members)
    (hValue : ∀ a ∈ members, ∀ b ∈ members, value a = value b → a = b) :
    member members value text = some m ↔ text = value m := by
  unfold member
  constructor
  · intro h
    have hText := List.find?_some h
    simpa [eq_comm] using hText
  · rintro rfl
    cases h : members.find? fun a => value a = value m with
    | none => exact absurd (decide_eq_true rfl) (List.find?_eq_none.mp h m hMember)
    | some a =>
      have hText : value a = value m := by simpa using List.find?_some h
      rw [hValue a (List.mem_of_find?_eq_some h) m hMember hText]

theorem member_orderSides {text : String} {side : OrderSide} :
    member orderSides OrderSide.value text = some side ↔ text = side.value :=
  member_eq_some (by cases side <;> decide) (by decide)

theorem member_orderTypes {text : String} {orderType : OrderType} :
    member orderTypes OrderType.value text = some orderType ↔ text = orderType.value :=
  member_eq_some (by cases orderType <;> decide) (by decide)

theorem member_brokerOrderStatuses {text : String} {status : BrokerOrderStatus} :
    member brokerOrderStatuses BrokerOrderStatus.value text = some status ↔ text = status.value :=
  member_eq_some (by cases status <;> decide) (by decide)

theorem OrderSide.value_injective {a b : OrderSide} (h : a.value = b.value) : a = b := by
  revert h
  cases a <;> cases b <;> decide

theorem OrderType.value_injective {a b : OrderType} (h : a.value = b.value) : a = b := by
  revert h
  cases a <;> cases b <;> decide

/-! ### What is sent -/

/-- The entries of the payload of a command. -/
structure Encodes (c : BrokerOrderCommand Decimal) (sent : Entries) : Prop where
  digits : Decimal.digits c.quantity ≤ 4300
  symbol : sent.lookup "symbol" = some (.str c.symbol)
  qty : sent.lookup "qty" = some (.str (toString c.quantity))
  side : sent.lookup "side" = some (.str c.side.value)
  orderType : sent.lookup "type" = some (.str c.orderType.value)
  timeInForce : sent.lookup "time_in_force" = some (.str c.timeInForce.value)
  clientOrderId : sent.lookup "client_order_id" = some (.str c.clientOrderId)
  limitPrice : sent.lookup "limit_price" = c.limitPrice.map fun p => .str (fixedText p)
  stopPrice : sent.lookup "stop_price" = c.stopPrice.map fun p => .str (fixedText p)
  orderClass : sent.lookup "order_class" =
    if c.orderClass = .bracket then some (.str "bracket") else none
  takeProfit : sent.lookup "take_profit" = if c.orderClass = .bracket then
    some (.dict (priceEntry "limit_price" c.takeProfitLimitPrice)) else none
  stopLoss : sent.lookup "stop_loss" = if c.orderClass = .bracket then
    some (.dict (priceEntry "stop_price" c.stopLossStopPrice)) else none
  avgPrice : sent.lookup "filled_avg_price" = none

theorem lookup_append_of_none {α : Type} {key : String} {as : List (String × α)}
    (h : as.lookup key = none) (bs : List (String × α)) :
    (as ++ bs).lookup key = bs.lookup key := by
  rw [List.lookup_append, h, Option.none_or]

theorem lookup_priceEntry (key : String) (price : Option Decimal) :
    (priceEntry key price).lookup key = price.map fun p => .str (fixedText p) := by
  cases price <;> simp [priceEntry]

theorem lookup_priceEntry_of_ne {key key' : String} (h : key ≠ key') (price : Option Decimal) :
    (priceEntry key' price).lookup key = none := by
  cases price with
  | none => rfl
  | some p => simp [priceEntry, List.lookup_cons, beq_false_of_ne h]

theorem commandPayload_encodes (h : commandPayload c = .ok sent) : Encodes c sent := by
  simp only [commandPayload, quantityText, Result.bind_eq_ok, ensure_eq_ok, Result.pure_eq_ok] at h
  obtain ⟨_, ⟨-, hDigits, rfl⟩, rfl⟩ := h
  have hPrices (key : String) (hLimit : key ≠ "limit_price") (hStop : key ≠ "stop_price")
      (rest : Entries) : (priceEntry "limit_price" c.limitPrice ++
        (priceEntry "stop_price" c.stopPrice ++ rest)).lookup key = rest.lookup key := by
    rw [lookup_append_of_none (lookup_priceEntry_of_ne hLimit _),
      lookup_append_of_none (lookup_priceEntry_of_ne hStop _)]
  constructor
  · exact hDigits
  · rfl
  · rfl
  · rfl
  · rfl
  · rfl
  · rfl
  · rw [lookup_append_of_none (by rfl), List.lookup_append, lookup_priceEntry,
      lookup_append_of_none (lookup_priceEntry_of_ne (by decide) _)]
    split_ifs <;> cases c.limitPrice <;> rfl
  · rw [lookup_append_of_none (by rfl), lookup_append_of_none (lookup_priceEntry_of_ne (by decide) _),
      List.lookup_append, lookup_priceEntry]
    split_ifs <;> cases c.stopPrice <;> rfl
  · rw [lookup_append_of_none (by rfl), hPrices "order_class" (by decide) (by decide)]
    split_ifs <;> rfl
  · rw [lookup_append_of_none (by rfl), hPrices "take_profit" (by decide) (by decide)]
    split_ifs <;> rfl
  · rw [lookup_append_of_none (by rfl), hPrices "stop_loss" (by decide) (by decide)]
    split_ifs <;> rfl
  · rw [lookup_append_of_none (by rfl), hPrices "filled_avg_price" (by decide) (by decide)]
    split_ifs <;> rfl

/-! ### The echo of an answer -/

/-- Two values that are read as one number. -/
def SameNumber (R : Runtime) (a b : Decoded) : Prop :=
  ∃ x y, R.number a = some x ∧ R.number b = some y ∧ x.toRat = y.toRat

/-- Two values that are there and have one text. -/
def SameText (R : Runtime) (a b : Option Decoded) : Prop :=
  ∃ x y, a = some x ∧ b = some y ∧ R.str x = R.str y

/-- A leg that sells the quantity that was sent, by an order of one of the types, at the price
that was sent. A leg without a side sells. -/
def EchoesLeg (R : Runtime) (types : List String) (key : String) (price quantity leg : Decoded) :
    Prop :=
  ∃ fields, leg = .dict fields ∧ R.str (fieldOr fields "side" (.str "sell")) = "sell" ∧
    R.str (fieldOr fields "type" (.str "limit")) ∈ types ∧ SameNumber R price (field fields key) ∧
    SameNumber R quantity (fieldOr fields "qty" (.str "0"))

/-- Two legs, of which the one takes the profit and the other stops the loss. -/
def EchoesLegs (R : Runtime) (profit loss quantity : Decoded) (legs : List Decoded) : Prop :=
  ∃ first second, legs = [first, second] ∧
    ((EchoesLeg R ["limit"] "limit_price" profit quantity first ∧
        EchoesLeg R ["stop", "stop_limit"] "stop_price" loss quantity second) ∨
      (EchoesLeg R ["stop", "stop_limit"] "stop_price" loss quantity first ∧
        EchoesLeg R ["limit"] "limit_price" profit quantity second))

/-- The answer says of the order what was sent. A time in force that is not there is `day`, an
order class that is not there is `simple`. -/
structure Echoes (R : Runtime) (sent answer : Entries) : Prop where
  texts : ∀ key ∈ ["client_order_id", "symbol", "side", "type"],
    SameText R (sent.lookup key) (answer.lookup key)
  timeInForce : R.str (fieldOr sent "time_in_force" (.str "day")) =
    R.str (fieldOr answer "time_in_force" (.str "day"))
  orderClass : R.str (fieldOr sent "order_class" (.str "simple")) =
    R.str (fieldOr answer "order_class" (.str "simple"))
  numbers : ∀ key ∈ ["qty", "limit_price", "stop_price"], ∀ v, sent.lookup key = some v →
    SameNumber R v (field answer key)
  legs : ∀ profit loss, sent.lookup "take_profit" = some (.dict profit) →
    sent.lookup "stop_loss" = some (.dict loss) →
    ∃ items, legItems (field answer "legs") = some items ∧
      EchoesLegs R (field profit "limit_price") (field loss "stop_price") (field sent "qty") items

/-- The prices of a command are decimals with exponents of the type. -/
def BrokerOrderCommand.Representable (c : BrokerOrderCommand Decimal) : Prop :=
  ∀ price ∈ [c.limitPrice, c.stopPrice, c.takeProfitLimitPrice, c.stopLossStopPrice],
    ∀ p ∈ price, Serial.Representable p

instance decidableCommandRepresentable (c : BrokerOrderCommand Decimal) :
    Decidable c.Representable := by
  unfold BrokerOrderCommand.Representable
  infer_instance

theorem coefficient_ne_zero {p : Decimal} (h : 0 < value p) : p.coefficient ≠ 0 := by
  intro hZero
  have hValue : value p = p.toRat := rfl
  rw [hValue, Decimal.toRat, hZero] at h
  simp [Decimal.signed] at h

/-- A price is sent as a text that is read as a number of its value. -/
theorem number_price {p : Decimal} (hRange : Serial.Representable p) (hPositive : 0 < value p) :
    ∃ d, R.number (.str (fixedText p)) = some d ∧ d.toRat = value p := by
  have hRead := readDecimal_fixedText (hRange.fixed (coefficient_ne_zero hPositive))
  refine ⟨_, ?_, toRat_fixed p⟩
  rw [Runtime.number, Runtime.str, hRead]
  rfl

/-- A quantity is sent as a text that is read as it. -/
theorem number_quantity {n : ℕ} (h : Decimal.digits n ≤ 4300) :
    ∃ d, R.number (.str (toString n)) = some d ∧ d.toRat = n := by
  have hRange : Serial.Representable ⟨false, n, 0⟩ := by
    constructor <;> simp only <;> omega
  refine ⟨⟨false, n, 0⟩, ?_, ?_⟩
  · rw [Runtime.number, Runtime.str, readDecimal_toString hRange]
    rfl
  · simp [Decimal.toRat, Decimal.signed]

theorem number_of_isBlank {v : Decoded} (h : isBlank v = true) : R.number v = none := by
  cases v with
  | none =>
    have hRead : readDecimal "None" = none := by decide
    rw [Runtime.number, Runtime.str, hRead]
    rfl
  | str s =>
    have hRead : readDecimal "" = none := by decide
    obtain rfl : s = "" := by simpa [isBlank] using h
    rw [Runtime.number, Runtime.str, hRead]
    rfl
  | _ => cases h

theorem sameNumber_iff {a v : Decoded} {w d : Decimal} (ha : R.number a = some w)
    (hd : R.number v = some d) : SameNumber R a v ↔ w.toRat = d.toRat := by
  constructor
  · rintro ⟨x, y, hx, hy, h⟩
    rw [ha] at hx
    rw [hd] at hy
    obtain rfl := Option.some.inj hx
    obtain rfl := Option.some.inj hy
    exact h
  · intro h
    exact ⟨w, d, ha, hd, h⟩

/-- A price has the value that was sent where both are read as one number. -/
theorem price_iff_sameNumber {a v : Decoded} {x : Option Decimal} {w : Decimal}
    (ha : R.number a = some w) (hx : R.price v = some x) :
    x.map value = some w.toRat ↔ SameNumber R a v := by
  unfold Runtime.price at hx
  split_ifs at hx with hBlank
  · obtain rfl := Option.some.inj hx
    simp [SameNumber, number_of_isBlank hBlank]
  · obtain ⟨d, hd, rfl⟩ := Option.map_eq_some_iff.mp hx
    rw [sameNumber_iff ha hd, Option.map_some, Option.some.injEq, eq_comm]
    rfl

/-! ### The comparison with the order that is read -/

/-- Of two kinds that no element is of both, a list of two has one each. -/
theorem pair_of_filters {α : Type} {p q : α → Bool} (hApart : ∀ a, p a = true → q a = false)
    (xs : List α) :
    (xs.length = 2 ∧ (xs.filter p).length = 1 ∧ (xs.filter q).length = 1) ↔
      ∃ a b, xs = [a, b] ∧ ((p a = true ∧ q b = true) ∨ (q a = true ∧ p b = true)) := by
  constructor
  · rintro ⟨hLength, hp, hq⟩
    obtain ⟨a, b, rfl⟩ := List.length_eq_two.mp hLength
    refine ⟨a, b, rfl, ?_⟩
    cases hpa : p a with
    | true =>
      have hqa := hApart a hpa
      cases hqb : q b with
      | true => exact .inl ⟨rfl, rfl⟩
      | false => simp [hqa, hqb] at hq
    | false =>
      cases hpb : p b with
      | false => simp [hpa, hpb] at hp
      | true =>
        have hqb := hApart b hpb
        cases hqa : q a with
        | true => exact .inr ⟨rfl, rfl⟩
        | false => simp [hqa, hqb] at hq
  · rintro ⟨a, b, rfl, ⟨hpa, hqb⟩ | ⟨hqa, hpb⟩⟩
    · have hqa := hApart a hpa
      have hpb : p b = false := by
        cases hpb : p b with
        | false => rfl
        | true => rw [hApart b hpb] at hqb; cases hqb
      simp [hpa, hqb, hqa, hpb]
    · have hqb := hApart b hpb
      have hpa : p a = false := by
        cases hpa : p a with
        | false => rfl
        | true => rw [hApart a hpa] at hqa; cases hqa
      simp [hpa, hqb, hqa, hpb]

/-- A leg that is read is one of the legs of the bracket where it echoes that leg. -/
theorem leg_iff_echoesLeg (types : List String) (key : String)
    (price : BrokerOrderLeg Decimal → Option Decimal) {item profit quantity : Decoded}
    {leg : BrokerOrderLeg Decimal} {expected : Option Decimal} {n : ℕ} {w q : Decimal} (hLeg : normalizeLeg R item = .ok leg)
    (hKey : ∀ fields, ReadsLeg R fields leg → R.price (field fields key) = some (price leg))
    (hPrice : R.number profit = some w) (hExpected : expected.map value = some w.toRat)
    (hQuantity : R.number quantity = some q) (hn : q.toRat = n) :
    (leg.side = "sell" ∧ leg.orderType ∈ types ∧ (price leg).map value = expected.map value ∧
      value leg.quantity = n) ↔ EchoesLeg R types key profit quantity item := by
  obtain ⟨fields, rfl, hReads⟩ := normalizeLeg_eq_ok.mp hLeg
  have hPrices := price_iff_sameNumber hPrice (hKey fields hReads)
  have hNumbers := sameNumber_iff hQuantity hReads.quantity
  rw [hExpected, hPrices, hReads.side, hReads.orderType, ← hn]
  constructor
  · rintro ⟨hSide, hType, hSame, hValue⟩
    exact ⟨fields, rfl, hSide, hType, hSame, hNumbers.mpr hValue.symm⟩
  · rintro ⟨fields', hFields, hSide, hType, hSame, hValue⟩
    obtain rfl := Decoded.dict.inj hFields
    exact ⟨hSide, hType, hSame, (hNumbers.mp hValue).symm⟩

theorem legs_iff_echoesLegs {items : List Decoded} {profit loss quantity : Decoded}
    {target stop : Option Decimal} {n : ℕ} {w u q : Decimal}
    (hLegs : List.Forall₂ (fun item leg => normalizeLeg R item = .ok leg) items s.legs)
    (hTarget : R.number profit = some w) (hProfit : target.map value = some w.toRat)
    (hStop : R.number loss = some u) (hLoss : stop.map value = some u.toRat)
    (hQuantity : R.number quantity = some q) (hn : q.toRat = n) :
    (s.legs.length = 2 ∧ (bracketLegs s ["limit"] (·.limitPrice) target n).length = 1 ∧
      (bracketLegs s ["stop", "stop_limit"] (·.stopPrice) stop n).length = 1) ↔
      EchoesLegs R profit loss quantity items := by
  have hApart : ∀ leg : BrokerOrderLeg Decimal,
      decide (leg.side = "sell" ∧ leg.orderType ∈ ["limit"] ∧
        leg.limitPrice.map value = target.map value ∧ value leg.quantity = n) = true →
      decide (leg.side = "sell" ∧ leg.orderType ∈ ["stop", "stop_limit"] ∧
        leg.stopPrice.map value = stop.map value ∧ value leg.quantity = n) = false := by
    intro leg hLeg
    obtain ⟨-, hType, -⟩ := of_decide_eq_true hLeg
    refine decide_eq_false fun h => ?_
    rw [List.mem_singleton.mp hType] at h
    exact absurd h.2.1 (by decide)
  unfold bracketLegs
  rw [pair_of_filters hApart]
  simp only [decide_eq_true_eq]
  have hIff {item : Decoded} {leg : BrokerOrderLeg Decimal} (h : normalizeLeg R item = .ok leg) :=
    And.intro
      (leg_iff_echoesLeg ["limit"] "limit_price" (·.limitPrice) h
        (fun _ hReads => hReads.limitPrice) hTarget hProfit hQuantity hn)
      (leg_iff_echoesLeg ["stop", "stop_limit"] "stop_price" (·.stopPrice) h
        (fun _ hReads => hReads.stopPrice) hStop hLoss hQuantity hn)
  constructor
  · rintro ⟨a, b, hList, h⟩
    rw [hList] at hLegs
    obtain ⟨x, xs, hx, hRest, rfl⟩ := List.forall₂_cons_right_iff.mp hLegs
    obtain ⟨y, ys, hy, hNil, rfl⟩ := List.forall₂_cons_right_iff.mp hRest
    obtain rfl := List.forall₂_nil_right_iff.mp hNil
    rw [(hIff hx).1, (hIff hx).2, (hIff hy).1, (hIff hy).2] at h
    exact ⟨x, y, rfl, h⟩
  · rintro ⟨x, y, rfl, h⟩
    obtain ⟨a, as, hx, hRest, hList⟩ := List.forall₂_cons_left_iff.mp hLegs
    obtain ⟨b, bs, hy, hNil, rfl⟩ := List.forall₂_cons_left_iff.mp hRest
    obtain rfl := List.forall₂_nil_left_iff.mp hNil
    rw [← (hIff hx).1, ← (hIff hx).2, ← (hIff hy).1, ← (hIff hy).2] at h
    exact ⟨a, b, hList, h⟩

theorem fieldOr_of_lookup {entries : Entries} {key : String} {v : Decoded}
    (h : entries.lookup key = some v) (default : Decoded) : fieldOr entries key default = v := by
  rw [fieldOr, h, Option.getD_some]

theorem sameText_iff {key t : String} {v : Decoded} (hSent : sent.lookup key = some (.str t))
    (hAnswer : answer.lookup key = some v) :
    SameText R (sent.lookup key) (answer.lookup key) ↔ t = R.str v := by
  rw [hSent, hAnswer]
  constructor
  · rintro ⟨x, y, hx, hy, h⟩
    obtain rfl := Option.some.inj hx
    obtain rfl := Option.some.inj hy
    exact h
  · intro h
    exact ⟨_, _, rfl, rfl, h⟩

theorem prices_positive (hPrices : c.Representable) {price : Option Decimal}
    (hPrice : price ∈ [c.limitPrice, c.stopPrice, c.takeProfitLimitPrice, c.stopLossStopPrice]) :
    ∀ p ∈ price, Serial.Representable p ∧ 0 < value p := fun p hp =>
  ⟨hPrices price hPrice p hp, (c.valid.1.2.2.2.2 price hPrice p hp).2⟩

/-- A price that was sent, if one was, is the one that is read. -/
theorem forall_price_iff_sameNumber {key : String} {price x : Option Decimal}
    (hSent : sent.lookup key = price.map fun p => .str (fixedText p))
    (hPrice : ∀ p ∈ price, Serial.Representable p ∧ 0 < value p)
    (hx : R.price (field answer key) = some x) :
    (∀ p ∈ price, x.map value = some (value p)) ↔
      ∀ v, sent.lookup key = some v → SameNumber R v (field answer key) := by
  rw [hSent]
  cases price with
  | none => simp
  | some p =>
    obtain ⟨hRange, hPositive⟩ := hPrice p rfl
    obtain ⟨d, hd, hValue⟩ := number_price (R := R) hRange hPositive
    simp only [Option.mem_some_iff, forall_eq', Option.map_some, Option.some.injEq]
    rw [← hValue]
    exact price_iff_sameNumber hd hx

/-- What a bracket sends of its legs. -/
theorem Encodes.bracket (hPrices : c.Representable) (h : Encodes c sent)
    (hBracket : c.orderClass = .bracket) : ∃ profit loss w u q,
    sent.lookup "take_profit" = some (.dict profit) ∧ sent.lookup "stop_loss" = some (.dict loss) ∧
    R.number (field profit "limit_price") = some w ∧
    c.takeProfitLimitPrice.map value = some w.toRat ∧
    R.number (field loss "stop_price") = some u ∧ c.stopLossStopPrice.map value = some u.toRat ∧
    R.number (field sent "qty") = some q ∧ q.toRat = c.quantity := by
  have hShape := c.valid.2
  simp only [CommandFields.Shape, hBracket] at hShape
  obtain ⟨-, -, limit, -, target, hTarget, stop, hStop, -⟩ := hShape
  obtain ⟨hTargetRange, hTargetPositive⟩ := prices_positive hPrices (by simp) target hTarget
  obtain ⟨hStopRange, hStopPositive⟩ := prices_positive hPrices (by simp) stop hStop
  obtain ⟨w, hw, hwValue⟩ := number_price (R := R) hTargetRange hTargetPositive
  obtain ⟨u, hu, huValue⟩ := number_price (R := R) hStopRange hStopPositive
  obtain ⟨q, hq, hqValue⟩ := number_quantity (R := R) h.digits
  have hProfit := h.takeProfit
  have hLoss := h.stopLoss
  rw [if_pos hBracket] at hProfit hLoss
  rw [Option.mem_def] at hTarget hStop
  refine ⟨_, _, w, u, q, hProfit, hLoss, ?_, ?_, ?_, ?_, ?_, hqValue⟩
  · rw [field, fieldOr, lookup_priceEntry, hTarget]
    exact hw
  · rw [hTarget, Option.map_some, hwValue]
  · rw [field, fieldOr, lookup_priceEntry, hStop]
    exact hu
  · rw [hStop, Option.map_some, huValue]
  · rw [field, fieldOr_of_lookup h.qty]
    exact hq

theorem matches_iff_echoes (hPrices : c.Representable) (hEncodes : Encodes c sent)
    (hReads : ReadsOrder R answer observedAt s.toSnapshotFields) :
    Matches c s ↔ Echoes R sent answer := by
  obtain ⟨clientId, hClient, hClientId⟩ := hReads.clientOrderId
  obtain ⟨symbol, hSymbol, hTicker⟩ := hReads.symbol
  obtain ⟨side, hSide, hSideValue⟩ := hReads.side
  obtain ⟨orderType, hType, hTypeValue⟩ := hReads.orderType
  obtain ⟨qty, hQty, hNumber⟩ := hReads.quantity
  rw [member_orderSides] at hSideValue
  rw [member_orderTypes] at hTypeValue
  obtain ⟨q, hq, hqValue⟩ := number_quantity (R := R) hEncodes.digits
  have hSides : c.side = s.side ↔ c.side.value = R.str side := by
    rw [hSideValue]
    exact ⟨congrArg _, OrderSide.value_injective⟩
  have hTypes : c.orderType = s.orderType ↔ c.orderType.value = R.str orderType := by
    rw [hTypeValue]
    exact ⟨congrArg _, OrderType.value_injective⟩
  have hTimes : R.str (fieldOr sent "time_in_force" (.str "day")) = c.timeInForce.value := by
    rw [fieldOr_of_lookup hEncodes.timeInForce]
    rfl
  have hClasses : R.str (fieldOr sent "order_class" (.str "simple")) = c.orderClass.value := by
    rw [fieldOr, hEncodes.orderClass]
    cases hClass : c.orderClass <;> simp [Runtime.str, OrderClass.value]
  have hQuantities : (c.quantity : ℚ) = value s.quantity ↔
      SameNumber R (.str (toString c.quantity)) (field answer "qty") := by
    rw [field, fieldOr_of_lookup hQty, sameNumber_iff hq hNumber, hqValue]
    rfl
  have hLimits := forall_price_iff_sameNumber hEncodes.limitPrice
    (prices_positive hPrices (by simp)) hReads.limitPrice
  have hStops := forall_price_iff_sameNumber hEncodes.stopPrice
    (prices_positive hPrices (by simp)) hReads.stopPrice
  obtain ⟨items, hItems, hLegs⟩ := normalizeLegs_eq_ok.mp hReads.legs
  have hBrackets : (c.orderClass = .bracket →
      s.legs.length = 2 ∧
      (bracketLegs s ["limit"] (·.limitPrice) c.takeProfitLimitPrice c.quantity).length = 1 ∧
      (bracketLegs s ["stop", "stop_limit"] (·.stopPrice) c.stopLossStopPrice
        c.quantity).length = 1) ↔
      ∀ profit loss, sent.lookup "take_profit" = some (.dict profit) →
        sent.lookup "stop_loss" = some (.dict loss) →
        ∃ items, legItems (field answer "legs") = some items ∧ EchoesLegs R
          (field profit "limit_price") (field loss "stop_price") (field sent "qty") items := by
    by_cases hBracket : c.orderClass = .bracket
    · obtain ⟨profit, loss, w, u, q, hProfit, hLoss, hw, hTarget, hu, hStop, hq, hqValue⟩ :=
        hEncodes.bracket (R := R) hPrices hBracket
      rw [forall_prop_of_true hBracket, hProfit, hLoss,
        legs_iff_echoesLegs hLegs hw hTarget hu hStop hq hqValue]
      simp only [Option.some.injEq, Decoded.dict.injEq, hItems, exists_eq_left']
      constructor
      · rintro h _ _ rfl rfl
        exact h
      · intro h
        exact h profit loss rfl rfl
    · have hNone := hEncodes.takeProfit
      rw [if_neg hBracket] at hNone
      simp [hBracket, hNone]
  rw [Matches, hBrackets, hLimits, hStops, hQuantities, hSides, hTypes, hClientId, hTicker,
    ← sameText_iff hEncodes.clientOrderId hClient, ← sameText_iff hEncodes.symbol hSymbol,
    ← sameText_iff hEncodes.side hSide, ← sameText_iff hEncodes.orderType hType, hReads.timeInForce,
    hReads.orderClass, ← hTimes, ← hClasses]
  constructor
  · rintro ⟨⟨hId, hTick, hS, hT, hTime, hClass, hQ, hL, hP⟩, hB⟩
    refine ⟨?_, hTime, hClass, ?_, hB⟩
    · simp only [List.forall_mem_cons, List.not_mem_nil, false_implies, implies_true, and_true]
      exact ⟨hId, hTick, hS, hT⟩
    · simp only [List.forall_mem_cons, List.not_mem_nil, false_implies, implies_true, and_true]
      refine ⟨?_, hL, hP⟩
      rw [hEncodes.qty]
      rintro v hv
      obtain rfl := Option.some.inj hv
      exact hQ
  · intro h
    exact ⟨⟨h.texts _ (by simp), h.texts _ (by simp), h.texts _ (by simp), h.texts _ (by simp),
      h.timeInForce, h.orderClass, h.numbers "qty" (by simp) _ hEncodes.qty,
      h.numbers "limit_price" (by simp), h.numbers "stop_price" (by simp)⟩, h.legs⟩

/-! ### The rest of an answer -/

/-- No price, or one within the bounds of its field. -/
def MoneyOrNone (R : Runtime) (v : Decoded) : Prop :=
  ∃ x, R.price v = some x ∧ ∀ p ∈ x, Risk.IsMoney (value p)

/-- No time, or the text of an instant. -/
def TimeOrNone (R : Runtime) (v : Decoded) : Prop :=
  v.truthy = true → ∃ t, R.fromisoformat (withOffset (R.str v)) = some t ∧
    InRange (t.wall - t.utcoffset.getD 0)

/-- A leg with an identifier, with numbers for its quantities and with prices that are none or
within bounds. -/
def PlausibleLeg (R : Runtime) (leg : Decoded) : Prop :=
  ∃ fields, leg = .dict fields ∧ (∃ id, fields.lookup "id" = some id) ∧
    (∀ key ∈ ["qty", "filled_qty"], ∃ d, R.number (fieldOr fields key (.str "0")) = some d) ∧
    ∀ key ∈ ["limit_price", "stop_price"], MoneyOrNone R (field fields key)

/-- What an answer says that was not sent: any identifier, one of the statuses of an order, a
fill of at most what was sent, prices where none was sent, times and legs. -/
structure Plausible (R : Runtime) (sent answer : Entries) : Prop where
  finite : (Decoded.dict answer).finite = true
  id : ∃ v, answer.lookup "id" = some v
  status : ∃ v status, answer.lookup "status" = some v ∧ R.str v = BrokerOrderStatus.value status
  fill : ∃ d, R.number (fieldOr answer "filled_qty" (.str "0")) = some d ∧ 0 ≤ d.toRat ∧
    ∀ q, R.number (field sent "qty") = some q → d.toRat ≤ q.toRat
  prices : ∀ key ∈ ["filled_avg_price", "limit_price", "stop_price"], sent.lookup key = none →
    MoneyOrNone R (field answer key)
  times : ∀ key ∈ ["updated_at", "submitted_at"], TimeOrNone R (field answer key)
  legs : ∃ items, legItems (field answer "legs") = some items ∧ ∀ item ∈ items, PlausibleLeg R item

theorem TimeOrNone.parse {v : Decoded} (h : TimeOrNone R v) (default : Timestamp) :
    ∃ t, parseTimestamp R v default = .ok t := by
  unfold parseTimestamp
  split_ifs with hTruthy
  · obtain ⟨t, hRead, hRange⟩ := h hTruthy
    refine ⟨t.wall - t.utcoffset.getD 0, ?_⟩
    simp only [hRead, WallTime.astimezone, Result.bind_eq_ok, orRaise_eq_ok, ensure_eq_ok,
      Result.pure_eq_ok, Option.some.injEq]
    exact ⟨t, rfl, (), hRange, rfl⟩
  · exact ⟨default, rfl⟩

theorem PlausibleLeg.normalize {leg : Decoded} (h : PlausibleLeg R leg) :
    ∃ read, normalizeLeg R leg = .ok read := by
  obtain ⟨fields, rfl, ⟨id, hId⟩, hNumbers, hPrices⟩ := h
  obtain ⟨quantity, hQuantity⟩ := hNumbers "qty" (by simp)
  obtain ⟨filled, hFilled⟩ := hNumbers "filled_qty" (by simp)
  obtain ⟨limit, hLimit, hLimitMoney⟩ := hPrices "limit_price" (by simp)
  obtain ⟨stop, hStop, hStopMoney⟩ := hPrices "stop_price" (by simp)
  refine ⟨⟨_, _, _, _, _, quantity, filled, limit, stop⟩, normalizeLeg_eq_ok.mpr ⟨fields, rfl,
    ⟨id, hId, rfl⟩, rfl, rfl, rfl, rfl, hQuantity, hFilled, hLimit, hStop, ?_⟩⟩
  simpa using ⟨hLimitMoney, hStopMoney⟩

theorem Plausible.legs_normalize (h : Plausible R sent answer) :
    ∃ legs, normalizeLegs R (field answer "legs") = .ok legs ∧
      ∀ leg ∈ legs, ∀ price ∈ [leg.limitPrice, leg.stopPrice], ∀ p ∈ price, Risk.IsMoney (value p) := by
  obtain ⟨items, hItems, hLegs⟩ := h.legs
  obtain ⟨legs, hMap⟩ := Effect.Fallible.exists_mapM_iff.mpr fun item hItem => (hLegs item hItem).normalize
  have hRead := normalizeLegs_eq_ok.mpr ⟨items, hItems, Effect.Fallible.mapM_eq_ok.mp hMap⟩
  exact ⟨legs, hRead, fun leg hLeg => money_of_normalizeLegs hRead hLeg⟩

/-- A price of the order that is read is within bounds, whether it was sent or not. -/
theorem exists_price {key : String} {price : Option Decimal}
    (hSent : sent.lookup key = price.map fun p => .str (fixedText p))
    (hPrice : ∀ p ∈ price, Serial.Representable p ∧ 0 < value p)
    (hMoney : ∀ p ∈ price, Risk.IsMoney (value p))
    (hEcho : ∀ v, sent.lookup key = some v → SameNumber R v (field answer key))
    (hRest : sent.lookup key = none → MoneyOrNone R (field answer key)) :
    MoneyOrNone R (field answer key) := by
  cases price with
  | none => exact hRest hSent
  | some p =>
    obtain ⟨hRange, hPositive⟩ := hPrice p rfl
    obtain ⟨d, hd, hValue⟩ := number_price (R := R) hRange hPositive
    obtain ⟨x, y, hx, hy, hSame⟩ := hEcho _ hSent
    obtain rfl : d = x := Option.some.inj (hd.symm.trans hx)
    have hBlank : isBlank (field answer key) = false := by
      cases hBlank : isBlank (field answer key) with
      | false => rfl
      | true => rw [number_of_isBlank hBlank] at hy; cases hy
    refine ⟨some y, ?_, ?_⟩
    · rw [Runtime.price, hBlank, hy]
      rfl
    · rintro _ ⟨⟩
      change Risk.IsMoney y.toRat
      rw [← hSame, hValue]
      exact hMoney p rfl

/-- An answer that echoes what was sent, whatever it says besides, is read as an order. -/
theorem Echoes.normalize (hPrices : c.Representable) (hEncodes : Encodes c sent)
    (hEchoes : Echoes R sent answer) (h : Plausible R sent answer) (observedAt : Timestamp) :
    ∃ s, normalizeOrder R answer observedAt = .ok s := by
  obtain ⟨_, clientId, hSentClient, hClient, hClientText⟩ :=
    hEchoes.texts "client_order_id" (by simp)
  obtain ⟨_, symbol, hSentSymbol, hSymbol, hSymbolText⟩ := hEchoes.texts "symbol" (by simp)
  obtain ⟨_, side, hSentSide, hSide, hSideText⟩ := hEchoes.texts "side" (by simp)
  obtain ⟨_, orderType, hSentType, hType, hTypeText⟩ := hEchoes.texts "type" (by simp)
  obtain rfl := Option.some.inj (hEncodes.symbol.symm.trans hSentSymbol)
  obtain rfl := Option.some.inj (hEncodes.side.symm.trans hSentSide)
  obtain rfl := Option.some.inj (hEncodes.orderType.symm.trans hSentType)
  obtain ⟨id, hId⟩ := h.id
  obtain ⟨status, member, hStatus, hMember⟩ := h.status
  obtain ⟨filled, hFilled, hFilledPositive, hFilledMost⟩ := h.fill
  obtain ⟨q, hq, hqValue⟩ := number_quantity (R := R) hEncodes.digits
  obtain ⟨x, quantity, hx, hQuantity, hSame⟩ := hEchoes.numbers "qty" (by simp) _ hEncodes.qty
  obtain rfl : q = x := Option.some.inj (hq.symm.trans hx)
  have hQty : answer.lookup "qty" = some (field answer "qty") := by
    cases hLookup : answer.lookup "qty" with
    | some v => rw [field, fieldOr_of_lookup hLookup]
    | none =>
      have hBlank : isBlank (field answer "qty") = true := by
        rw [field, fieldOr, hLookup]
        rfl
      rw [number_of_isBlank hBlank] at hQuantity
      cases hQuantity
  have hSentQty : R.number (field sent "qty") = some q := by
    rw [field, fieldOr_of_lookup hEncodes.qty]
    exact hq
  have hFilledQuantity : value filled ≤ value quantity := (hFilledMost q hSentQty).trans_eq hSame
  have hQuantityPositive : 0 < value quantity := by
    change 0 < quantity.toRat
    rw [← hSame, hqValue]
    exact_mod_cast c.valid.1.2.2.2.1
  obtain ⟨avg, hAvg, hAvgMoney⟩ : MoneyOrNone R (field answer "filled_avg_price") := by
    exact h.prices _ (by simp) hEncodes.avgPrice
  obtain ⟨limit, hLimit, hLimitMoney⟩ := exists_price hEncodes.limitPrice
    (prices_positive hPrices (by simp)) (fun p hp => (c.valid.1.2.2.2.2 _ (by simp) p hp).1)
    (hEchoes.numbers "limit_price" (by simp)) (h.prices "limit_price" (by simp))
  obtain ⟨stop, hStop, hStopMoney⟩ := exists_price hEncodes.stopPrice
    (prices_positive hPrices (by simp)) (fun p hp => (c.valid.1.2.2.2.2 _ (by simp) p hp).1)
    (hEchoes.numbers "stop_price" (by simp)) (h.prices "stop_price" (by simp))
  obtain ⟨updatedAt, hUpdated⟩ := (h.times "updated_at" (by simp)).parse observedAt
  obtain ⟨submittedAt, hSubmitted⟩ : ∃ t,
      optionalTimestamp R (field answer "submitted_at") observedAt = .ok t := by
    obtain ⟨t, ht⟩ := (h.times "submitted_at" (by simp)).parse observedAt
    unfold optionalTimestamp
    split_ifs
    · exact ⟨none, rfl⟩
    · exact ⟨some t, by rw [ht]; rfl⟩
  obtain ⟨legs, hLegs, hLegsMoney⟩ := h.legs_normalize
  have hValid : SnapshotFields.Valid ({
      snapshotId := snapshotId R (R.str id) updatedAt (R.sha256 (canonicalJsonText (.dict answer)))
      brokerOrderId := R.str id
      clientOrderId := R.str clientId
      symbol := R.str symbol
      side := c.side
      orderType := c.orderType
      timeInForce := R.str (fieldOr answer "time_in_force" (.str "day"))
      orderClass := R.str (fieldOr answer "order_class" (.str "simple"))
      status := member
      quantity := quantity
      filledQuantity := filled
      filledAvgPrice := avg
      limitPrice := limit
      stopPrice := stop
      submittedAt := submittedAt
      updatedAt := updatedAt
      legs := legs
      rawResponseHash := R.sha256 (canonicalJsonText (.dict answer))
      rawResponse := canonicalJsonText (.dict answer) } : SnapshotFields Decimal) := by
    refine ⟨⟨length_snapshotId .., ?_, hQuantityPositive, hFilledPositive, ?_, R.sha256_hex _⟩,
      hFilledQuantity⟩
    · simp only
      rw [← hSymbolText]
      exact c.valid.1.2.2.1
    · simp only [List.cons_append, List.nil_append, List.forall_mem_cons, List.mem_flatMap]
      refine ⟨hAvgMoney, hLimitMoney, hStopMoney, ?_⟩
      rintro price ⟨leg, hLeg, hPrice⟩
      exact hLegsMoney leg hLeg price hPrice
  refine ⟨⟨_, hValid⟩, normalizeOrder_eq_ok.mpr {
    finite := h.finite
    rawResponse := rfl
    rawResponseHash := rfl
    updatedAt := hUpdated
    legs := hLegs
    id := ⟨id, hId, rfl⟩
    snapshotId := rfl
    clientOrderId := ⟨clientId, hClient, rfl⟩
    symbol := ⟨symbol, hSymbol, rfl⟩
    side := ⟨side, hSide, member_orderSides.mpr hSideText.symm⟩
    orderType := ⟨orderType, hType, member_orderTypes.mpr hTypeText.symm⟩
    timeInForce := rfl
    orderClass := rfl
    status := ⟨status, hStatus, member_brokerOrderStatuses.mpr hMember⟩
    quantity := ⟨_, hQty, hQuantity⟩
    filledQuantity := hFilled
    filledAvgPrice := hAvg
    limitPrice := hLimit
    stopPrice := hStop
    submittedAt := hSubmitted }⟩

/-- The payload of a command is faithful. An answer that echoes it, with any identifier, any
status of an order, any fill of at most the quantity, and other prices and times that can be
read, is read as an order that the comparison accepts; an answer that does not echo it is
refused, or is read as an order that the comparison rejects. -/
theorem order_encoding_faithful (R : Runtime) (c : BrokerOrderCommand Decimal)
    (hPrices : c.Representable) (sent answer : Entries) (hSent : commandPayload c = .ok sent)
    (observedAt : Timestamp) :
    (Echoes R sent answer → Plausible R sent answer →
      ∃ s, normalizeOrder R answer observedAt = .ok s ∧ Matches c s) ∧
    (¬ Echoes R sent answer →
      ∀ s, normalizeOrder R answer observedAt = .ok s → ¬ Matches c s) := by
  have hEncodes := commandPayload_encodes hSent
  constructor
  · intro hEchoes hPlausible
    obtain ⟨s, hs⟩ := hEchoes.normalize hPrices hEncodes hPlausible observedAt
    have hReads := normalizeOrder_eq_ok.mp hs
    exact ⟨s, hs, (matches_iff_echoes hPrices hEncodes hReads).mpr hEchoes⟩
  · intro hEchoes s hs hMatches
    have hReads := normalizeOrder_eq_ok.mp hs
    exact hEchoes ((matches_iff_echoes hPrices hEncodes hReads).mp hMatches)

/-! ### A bracket and its answers -/

def bracketFields : CommandFields Decimal where
  commandId := "command-20260803"
  executionId := "execution-20260803"
  clientOrderId := "DB-20260803-ABCD"
  symbol := "ABCD"
  quantity := 10
  side := .buy
  orderType := .limit
  timeInForce := .day
  orderClass := .bracket
  limitPrice := some ⟨false, 1010, -2⟩
  stopPrice := none
  takeProfitLimitPrice := some ⟨false, 1200, -2⟩
  stopLossStopPrice := some ⟨false, 95, -1⟩
  parentClientOrderId := none
  commandHash := ""

def bracketCommand : BrokerOrderCommand Decimal := ⟨bracketFields, by decide +kernel⟩

def bracketPayload : Entries :=
  [("symbol", .str "ABCD"), ("qty", .str "10"), ("side", .str "buy"), ("type", .str "limit"),
    ("time_in_force", .str "day"), ("client_order_id", .str "DB-20260803-ABCD"),
    ("extended_hours", .bool false), ("limit_price", .str "10.10"), ("order_class", .str "bracket"),
    ("take_profit", .dict [("limit_price", .str "12.00")]),
    ("stop_loss", .dict [("stop_price", .str "9.5")])]

def takeProfitLeg : Entries :=
  [("id", .str "alpaca-1-tp"), ("side", .str "sell"), ("type", .str "limit"),
    ("status", .str "held"), ("qty", .str "10"), ("filled_qty", .str "0"),
    ("limit_price", .str "12")]

def stopLossLeg : Entries :=
  [("id", .str "alpaca-1-sl"), ("side", .str "sell"), ("type", .str "stop"),
    ("status", .str "held"), ("qty", .str "10"), ("filled_qty", .str "0"),
    ("stop_price", .str "9.500")]

/-- An answer that echoes the bracket, with a status, a time and a fill. -/
def bracketAnswer (status updatedAt filledQty : String) : Entries :=
  [("id", .str "alpaca-1"), ("client_order_id", .str "DB-20260803-ABCD"), ("symbol", .str "ABCD"),
    ("side", .str "buy"), ("type", .str "limit"), ("time_in_force", .str "day"),
    ("order_class", .str "bracket"), ("status", .str status), ("qty", .str "10"),
    ("filled_qty", .str filledQty), ("limit_price", .str "10.1"), ("stop_price", .none),
    ("submitted_at", .str "2026-08-03T13:30:01Z"), ("updated_at", .str updatedAt),
    ("legs", .list [.dict takeProfitLeg, .dict stopLossLeg])]

/-- What the library computes for the sample answer. -/
def sampleRuntime : Runtime where
  repr _ := "{}"
  isoformat _ := "2026-08-03T13:30:01+00:00"
  fromisoformat text :=
    if text = "2026-08-03T13:30:01+00:00" then
      some ⟨1785763801000000, some 0, by decide⟩
    else none
  sha256 _ := "53f0438aca3745c3e8e3947504cdc287d52f1903f206fa3687fd31ed8cd3929c"
  uuid5 _ := "439a976ea77a5b32a9b8ea407631fbed"
  sha256_hex _ := by decide +kernel
  length_uuid5 _ := by decide +kernel

theorem bracketPayload_sent : commandPayload bracketCommand = .ok bracketPayload := by
  have hDigits : Decimal.digits 10 = 2 := by decide
  have hLimit : fixedText ⟨false, 1010, -2⟩ = "10.10" := by decide
  have hTarget : fixedText ⟨false, 1200, -2⟩ = "12.00" := by decide
  have hStop : fixedText ⟨false, 95, -1⟩ = "9.5" := by decide
  have hQuantity : toString 10 = "10" := by decide
  simp [commandPayload, quantityText, bracketCommand, bracketFields, priceEntry, hLimit, hTarget,
    hStop, hDigits, hQuantity, ensure, OrderSide.value, OrderType.value, TimeInForce.value]
  rfl

theorem sample_numbers :
    sampleRuntime.number (.str "10") = some ⟨false, 10, 0⟩ ∧
    sampleRuntime.number (.str "10.10") = some ⟨false, 1010, -2⟩ ∧
    sampleRuntime.number (.str "10.1") = some ⟨false, 101, -1⟩ ∧
    sampleRuntime.number (.str "12.00") = some ⟨false, 1200, -2⟩ ∧
    sampleRuntime.number (.str "12") = some ⟨false, 12, 0⟩ ∧
    sampleRuntime.number (.str "9.5") = some ⟨false, 95, -1⟩ ∧
    sampleRuntime.number (.str "9.500") = some ⟨false, 9500, -3⟩ ∧
    sampleRuntime.number (.str "0") = some ⟨false, 0, 0⟩ ∧
    sampleRuntime.number (.str "-1") = some ⟨true, 1, 0⟩ := by
  decide

theorem bracketAnswer_echoes (status updatedAt filledQty : String) :
    Echoes sampleRuntime bracketPayload (bracketAnswer status updatedAt filledQty) := by
  obtain ⟨hTen, hSentLimit, hLimit, hSentTarget, hTarget, hSentStop, hStop, -, -⟩ := sample_numbers
  constructor
  · simp only [List.forall_mem_cons, List.not_mem_nil, false_implies, implies_true, and_true]
    exact ⟨⟨_, _, rfl, rfl, rfl⟩, ⟨_, _, rfl, rfl, rfl⟩, ⟨_, _, rfl, rfl, rfl⟩,
      ⟨_, _, rfl, rfl, rfl⟩⟩
  · rfl
  · rfl
  · simp only [List.forall_mem_cons, List.not_mem_nil, false_implies, implies_true, and_true]
    refine ⟨?_, ?_, ?_⟩
    · rintro _ ⟨⟩
      exact ⟨_, _, hTen, hTen, rfl⟩
    · rintro _ ⟨⟩
      exact ⟨_, _, hSentLimit, hLimit, by decide +kernel⟩
    · rintro _ ⟨⟩
  · rintro _ _ ⟨⟩ ⟨⟩
    refine ⟨_, rfl, _, _, rfl, .inl ⟨⟨_, rfl, rfl, by decide, ?_, ?_⟩, _, rfl, rfl, by decide, ?_, ?_⟩⟩
    · exact ⟨_, _, hSentTarget, hTarget, by decide +kernel⟩
    · exact ⟨_, _, hTen, hTen, rfl⟩
    · exact ⟨_, _, hSentStop, hStop, by decide +kernel⟩
    · exact ⟨_, _, hTen, hTen, rfl⟩

theorem sample_time {text : String} (h : text = "2026-08-03T13:30:01Z") :
    TimeOrNone sampleRuntime (.str text) := by
  subst h
  intro _
  exact ⟨⟨1785763801000000, some 0, by decide⟩, by decide, by decide⟩

theorem plausibleLeg_of {leg : Entries} (limit stop : Option Decimal)
    (hId : ∃ id, leg.lookup "id" = some id)
    (hQuantity : sampleRuntime.number (fieldOr leg "qty" (.str "0")) = some ⟨false, 10, 0⟩)
    (hFilled : sampleRuntime.number (fieldOr leg "filled_qty" (.str "0")) = some ⟨false, 0, 0⟩)
    (hLimit : sampleRuntime.price (field leg "limit_price") = some limit)
    (hStop : sampleRuntime.price (field leg "stop_price") = some stop)
    (hMoney : ∀ price ∈ [limit, stop], ∀ p ∈ price, Risk.IsMoney (value p)) :
    PlausibleLeg sampleRuntime (.dict leg) := by
  refine ⟨leg, rfl, hId, ?_, ?_⟩
  · simp only [List.forall_mem_cons, List.not_mem_nil, false_implies, implies_true, and_true]
    exact ⟨⟨_, hQuantity⟩, _, hFilled⟩
  · simp only [List.forall_mem_cons, List.not_mem_nil, false_implies, implies_true, and_true]
    exact ⟨⟨limit, hLimit, hMoney _ (by simp)⟩, stop, hStop, hMoney _ (by simp)⟩

theorem bracketAnswer_plausible :
    Plausible sampleRuntime bracketPayload (bracketAnswer "new" "2026-08-03T13:30:01Z" "0") where
  finite := by decide
  id := ⟨_, rfl⟩
  status := ⟨_, .new, rfl, rfl⟩
  fill := by
    obtain ⟨hTen, -, -, -, -, -, -, hZero, -⟩ := sample_numbers
    refine ⟨_, hZero, by decide +kernel, fun q hq => ?_⟩
    obtain rfl := Option.some.inj (hTen.symm.trans hq)
    decide +kernel
  prices := by
    simp only [List.forall_mem_cons, List.not_mem_nil, false_implies, implies_true, and_true]
    refine ⟨fun _ => ⟨none, rfl, by simp⟩, ?_, fun _ => ⟨none, rfl, by simp⟩⟩
    rintro ⟨⟩
  times := by
    simp only [List.forall_mem_cons, List.not_mem_nil, false_implies, implies_true, and_true]
    exact ⟨sample_time rfl, sample_time rfl⟩
  legs := by
    refine ⟨_, rfl, ?_⟩
    simp only [List.forall_mem_cons, List.not_mem_nil, false_implies, implies_true, and_true]
    constructor
    · exact plausibleLeg_of (some ⟨false, 12, 0⟩) none ⟨_, rfl⟩ (by decide)
        (by decide +kernel) (by decide +kernel) (by decide +kernel) (by decide +kernel)
    · exact plausibleLeg_of none (some ⟨false, 9500, -3⟩) ⟨_, rfl⟩
        (by decide) (by decide) (by decide) (by decide)
        (by decide +kernel)

theorem bracketAnswer_encoded : ∃ s,
    normalizeOrder sampleRuntime (bracketAnswer "new" "2026-08-03T13:30:01Z" "0") 0 = .ok s ∧
      Matches bracketCommand s :=
  (order_encoding_faithful sampleRuntime bracketCommand (by decide) bracketPayload _
    bracketPayload_sent 0).1 (bracketAnswer_echoes _ _ _) bracketAnswer_plausible

/-- The answers echo the bracket, but their status is none of an order, their time is no time,
or their fill is below zero: none of them is read. -/
theorem bracketAnswer_refused : commandPayload bracketCommand = .ok bracketPayload ∧
    ∀ answer ∈ [bracketAnswer "held" "2026-08-03T13:30:01Z" "0", bracketAnswer "new" "yesterday" "0",
        bracketAnswer "new" "2026-08-03T13:30:01Z" "-1"],
      Echoes sampleRuntime bracketPayload answer ∧
        ∀ s, normalizeOrder sampleRuntime answer 0 ≠ .ok s := by
  refine ⟨bracketPayload_sent, ?_⟩
  simp only [List.forall_mem_cons, List.not_mem_nil, false_implies, implies_true, and_true]
  refine ⟨⟨bracketAnswer_echoes _ _ _, fun s hs => ?_⟩, ⟨bracketAnswer_echoes _ _ _, fun s hs => ?_⟩,
    bracketAnswer_echoes _ _ _, fun s hs => ?_⟩
  · obtain ⟨_, hStatus, hMember⟩ := (normalizeOrder_eq_ok.mp hs).status
    obtain rfl := Option.some.inj hStatus
    cases hMember
  · have hUpdated := (normalizeOrder_eq_ok.mp hs).updatedAt
    have hRefused : parseTimestamp sampleRuntime (.str "yesterday") 0 =
      .error (.valueError "Invalid isoformat string") := by decide
    exact absurd (hRefused.symm.trans hUpdated) (by simp)
  · have hFilled := (normalizeOrder_eq_ok.mp hs).filledQuantity
    obtain ⟨-, -, -, -, -, -, -, -, hNegative⟩ := sample_numbers
    have hQuantity := Option.some.inj (hNegative.symm.trans hFilled)
    have hPositive := s.valid.1.2.2.2.1
    rw [← hQuantity] at hPositive
    exact absurd hPositive (by decide +kernel)

end Daybreak.Execution
