import Daybreak.Effect.FirstFault
import Daybreak.Execution.Encoding
import Daybreak.Execution.Reconciliation
import Daybreak.Numeric.Quantized

/-! The answers of the Alpaca adapter to its callers. Each answer is of one HTTP response, and
is to be a value or an error of the broker. The readings of a payload are caught where they fail
with a `KeyError`, a `TypeError` or a `ValueError`; a decimal that is refused and an instant
out of range fail with none of these. -/

namespace Daybreak.Execution

open Numeric DecimalArithmetic Serial Effect.Fallible

variable {R : Runtime} {payload : Entries} {v : Decoded} {observedAt : Timestamp}

/-! ### Responses -/

inductive Body where
  | empty
  | text
  | json (value : Decoded)

/-- A response: its status, and its body, which may be no JSON. -/
structure Response where
  statusCode : ℕ
  body : Body

/-- `response.is_error` -/
def Response.isError (r : Response) : Bool := 400 ≤ r.statusCode && r.statusCode ≤ 599

/-- `response.status_code == 204 or not response.content` -/
def Response.isEmpty (r : Response) : Bool :=
  r.statusCode == 204 || match r.body with
    | .empty => true
    | _ => false

/-- The errors of a status. -/
def checkStatus (r : Response) : Result Unit := do
  ensure (r.statusCode ≠ 404) .brokerNotFound
  ensure (r.isError = false)
    (.brokerTransportError (r.statusCode ∈ [408, 409, 425, 429] || 500 ≤ r.statusCode))

/-- `_request` -/
def request (r : Response) : Result (Option Entries) := do
  checkStatus r
  if r.isEmpty then return none
  match r.body with
  | .json (.dict payload) => return some payload
  | .json _ => .error (.brokerTransportError false)
  | _ => .error (.brokerTransportError true)

/-- The elements of a list of dictionaries. -/
def dictItems : List Decoded → Option (List Entries)
  | [] => some []
  | .dict payload :: items => (dictItems items).map (payload :: ·)
  | _ :: _ => none

/-- `_request_list` -/
def requestList (r : Response) : Result (List Entries) := do
  checkStatus r
  if r.isEmpty then return []
  match r.body with
  | .json (.list items) => orRaise (dictItems items) (.brokerTransportError false)
  | .json _ => .error (.brokerTransportError false)
  | _ => .error (.brokerTransportError true)

/-! ### The adapter -/

/-- What `except (KeyError, TypeError, ValueError)` catches, what the broker raises by itself,
and everything else. -/
inductive Fault where
  | caught
  | broker
  | escapes
  deriving DecidableEq, Repr

def fault : PyError → Fault
  | .valueError _ => .caught
  | .validationError _ => .caught
  | .other name => if name ∈ ["KeyError", "TypeError"] then .caught else .escapes
  | .brokerNotFound => .broker
  | .brokerTransportError _ => .broker
  | _ => .escapes

/-- What is caught is raised as a transient error of the broker. -/
def asTransient {α : Type} (x : Result α) : Result α :=
  match x with
  | .ok a => .ok a
  | .error e => .error (if fault e = .caught then .brokerTransportError true else e)

/-- The order of a response, which has to have one. -/
def orderAnswer (R : Runtime) (r : Response) (now : Timestamp) :
    Result (BrokerOrderSnapshot Decimal) := do
  let data ← request r
  let payload ← orRaise data .assertionError
  asTransient (normalizeOrder R payload now)

def getOrderByClientOrderId := orderAnswer

def getOrder := orderAnswer

def submitOrder (R : Runtime) (command : BrokerOrderCommand Decimal) (r : Response)
    (now : Timestamp) : Result (BrokerOrderSnapshot Decimal) := do
  let _ ← commandPayload command
  orderAnswer R r now

/-- `abs(value)` in the context, whose exponents are at most 999999 and at least -1000026. -/
def absolute : DecimalValue → Result DecimalValue
  | .finite d => do
    let rounded := Decimal.abs d
    if rounded.coefficient = 0 then return .finite ⟨false, 0, min (max d.exponent (-1000026)) 999999⟩
    if d.exponent + Decimal.digits d.coefficient - 1 < -999999 ∧ d.exponent < -1000026 then
      return .finite (Decimal.rescale .halfEven (-1000026) { d with sign := false })
    ensure (rounded.exponent + Decimal.digits rounded.coefficient - 1 ≤ 999999) (.other "Overflow")
    return .finite rounded
  | .infinity _ => .ok (.infinity false)
  | .nan false => .ok (.nan false)
  | .nan true => .error (.arithmeticError .invalidOperation)

/-- `BrokerPositionSnapshot(...)` -/
def validatePosition (symbol : String) (quantity : DecimalValue)
    (averageEntryPrice : Option DecimalValue) (observedAt : Timestamp) (rawResponseHash : String) :
    Result (BrokerPositionSnapshot Decimal) := do
  let invalid := PyError.validationError "BrokerPositionSnapshot"
  let quantity ← orRaise (finiteDecimal quantity) invalid
  let averageEntryPrice ← orRaise (finiteOptional averageEntryPrice) invalid
  ensure (isCanonicalTicker symbol = true ∧ 0 ≤ value quantity ∧
    (∀ p ∈ averageEntryPrice, Risk.IsMoney (value p)) ∧
    Risk.isSha256Hex rawResponseHash = true) invalid
  return { symbol, quantity, averageEntryPrice, observedAt, rawResponseHash }

def readPosition (R : Runtime) (symbol : String) (data : Entries) (now : Timestamp) :
    Result (BrokerPositionSnapshot Decimal) := do
  let quantity ← R.decimal (fieldOr data "qty" (.str "0")) >>= absolute
  let averageEntryPrice ← optionalDecimal R (field data "avg_entry_price")
  let rawResponseHash ← R.canonicalSha256 (.dict data)
  validatePosition symbol quantity averageEntryPrice now rawResponseHash

/-- No position is not an error; what is read of one is not caught. -/
def getPosition (R : Runtime) (symbol : String) (r : Response) (now : Timestamp) :
    Result (Option (BrokerPositionSnapshot Decimal)) :=
  match request r with
  | .error .brokerNotFound => .ok none
  | .error e => .error e
  | .ok data => do
    let data ← orRaise data .assertionError
    some <$> readPosition R symbol data now

def listOrders (R : Runtime) (r : Response) (now : Timestamp) :
    Result (List (BrokerOrderSnapshot Decimal)) := do
  let rows ← requestList r
  asTransient (rows.mapM fun row => normalizeOrder R row now)

/-! ### The faults of a payload -/

/-- A key that is not there. -/
def keyFault (payload : Entries) (key : String) : Option Fault :=
  if (payload.lookup key).isSome then none else some .caught

/-- A text that is no decimal. -/
def decimalFault (R : Runtime) (v : Decoded) : Option Fault :=
  if (readDecimal (R.str v)).isSome then none else some .escapes

def priceFault (R : Runtime) (v : Decoded) : Option Fault :=
  if isBlank v then none else decimalFault R v

/-- A text that is no time, or an instant out of range. -/
def timeFault (R : Runtime) (v : Decoded) : Option Fault :=
  if v.truthy then
    match R.fromisoformat (withOffset (R.str v)) with
    | none => some .caught
    | some t => if InRange (t.wall - t.utcoffset.getD 0) then none else some .escapes
  else none

/-- A key that is not there, or a text that is no member. -/
def memberFault {α : Type} (R : Runtime) (members : List α) (value : α → String)
    (payload : Entries) (key : String) : Option Fault :=
  if ((payload.lookup key).bind fun v => member members value (R.str v)).isSome then none
  else some .caught

/-- A double that is infinite or not a number. -/
def doubleFault (v : Decoded) : Option Fault := if v.finite then none else some .caught

/-- The value of an option decides a property of it. -/
def decidableSome {α : Type} (x : Option α) (p : α → Prop) [DecidablePred p] :
    Decidable (∃ a, x = some a ∧ p a) :=
  match x with
  | none => isFalse (by simp)
  | some a => decidable_of_iff (p a) (by simp)

instance decidableMoneyOrNone (R : Runtime) (v : Decoded) : Decidable (MoneyOrNone R v) :=
  decidableSome _ _

/-- The numbers of a leg are finite, and its prices within bounds. -/
def LegFits (R : Runtime) (leg : Entries) : Prop :=
  (∀ key ∈ ["qty", "filled_qty"], (R.number (fieldOr leg key (.str "0"))).isSome = true) ∧
    ∀ key ∈ ["limit_price", "stop_price"], MoneyOrNone R (field leg key)

instance decidableLegFits (R : Runtime) (leg : Entries) : Decidable (LegFits R leg) := by
  unfold LegFits
  infer_instance

def legFaults (R : Runtime) : Decoded → List (Option Fault)
  | .dict leg =>
    [keyFault leg "id", decimalFault R (fieldOr leg "qty" (.str "0")),
      decimalFault R (fieldOr leg "filled_qty" (.str "0")), priceFault R (field leg "limit_price"),
      priceFault R (field leg "stop_price"), if LegFits R leg then none else some .caught]
  | _ => [some .caught]

def legsFaults (R : Runtime) (v : Decoded) : List (Option Fault) :=
  match legItems v with
  | some items => items.flatMap (legFaults R)
  | none => [some .caught]

/-- A ticker, a positive quantity, a fill of at most it, and prices within bounds. -/
def OrderFits (R : Runtime) (payload : Entries) : Prop :=
  isCanonicalTicker (R.str (field payload "symbol")) = true ∧
    (∃ quantity, R.number (field payload "qty") = some quantity ∧ 0 < value quantity ∧
      ∃ filled, R.number (fieldOr payload "filled_qty" (.str "0")) = some filled ∧
        0 ≤ value filled ∧ value filled ≤ value quantity) ∧
    ∀ key ∈ ["filled_avg_price", "limit_price", "stop_price"], MoneyOrNone R (field payload key)

instance decidableOrderFits (R : Runtime) (payload : Entries) : Decidable (OrderFits R payload) := by
  unfold OrderFits
  have hFill (quantity : Decimal) := decidableSome
    (R.number (fieldOr payload "filled_qty" (.str "0")))
    fun filled => 0 ≤ value filled ∧ value filled ≤ value quantity
  have hQuantity := decidableSome (R.number (field payload "qty")) fun quantity =>
    0 < value quantity ∧ ∃ filled, R.number (fieldOr payload "filled_qty" (.str "0")) = some filled ∧
      0 ≤ value filled ∧ value filled ≤ value quantity
  infer_instance

/-- The faults of an order, in the order in which its fields are read. -/
def orderFaults (R : Runtime) (payload : Entries) : List (Option Fault) :=
  doubleFault (.dict payload) :: timeFault R (field payload "updated_at") ::
  (legsFaults R (field payload "legs") ++
  [keyFault payload "id", keyFault payload "client_order_id", keyFault payload "symbol",
    memberFault R orderSides OrderSide.value payload "side",
    memberFault R orderTypes OrderType.value payload "type",
    memberFault R brokerOrderStatuses BrokerOrderStatus.value payload "status",
    keyFault payload "qty", decimalFault R (field payload "qty"),
    decimalFault R (fieldOr payload "filled_qty" (.str "0")),
    priceFault R (field payload "filled_avg_price"), priceFault R (field payload "limit_price"),
    priceFault R (field payload "stop_price"), timeFault R (field payload "submitted_at"),
    if OrderFits R payload then none else some .caught])

/-- What is read of an order is a fault that no caller catches. -/
def Misread (R : Runtime) (payload : Entries) : Prop :=
  firstFault (orderFaults R payload) = some .escapes

/-- A quantity whose size is within the context, a price within bounds, and no number that is
not finite. -/
def PositionFits (R : Runtime) (symbol : String) (data : Entries) : Prop :=
  isCanonicalTicker symbol = true ∧
    (∃ d, R.number (fieldOr data "qty" (.str "0")) = some d ∧ ∃ x, absolute (.finite d) = .ok x) ∧
    MoneyOrNone R (field data "avg_entry_price") ∧ (Decoded.dict data).finite = true

/-! ### The readings have these faults -/

theorem faultOf_orRaise {α : Type} (x : Option α) (error : PyError) :
    faultOf fault (orRaise x error) = if x.isSome then none else some (fault error) := by
  cases x <;> rfl

theorem faultOf_required (key : String) :
    faultOf fault (required payload key) = keyFault payload key := faultOf_orRaise _ _

theorem faultOf_decimal : faultOf fault (R.decimal v) = decimalFault R v := faultOf_orRaise _ _

theorem faultOf_map {α γ : Type} {x : Result α} (f : α → γ) :
    faultOf fault (x.map f) = faultOf fault x := by
  cases x <;> rfl

theorem faultOf_optionalDecimal : faultOf fault (optionalDecimal R v) = priceFault R v := by
  unfold optionalDecimal priceFault
  split_ifs
  · rfl
  · rw [faultOf_map, faultOf_decimal]

theorem faultOf_canonicalSha256 : faultOf fault (R.canonicalSha256 v) = doubleFault v := by
  unfold Runtime.canonicalSha256 doubleFault
  cases v.finite <;> rfl

theorem faultOf_parseTimestamp (default : Timestamp) :
    faultOf fault (parseTimestamp R v default) = timeFault R v := by
  unfold parseTimestamp timeFault
  split_ifs with hTruthy
  · cases R.fromisoformat (withOffset (R.str v)) with
    | none => rfl
    | some t =>
      change faultOf fault t.astimezone = _
      simp only [WallTime.astimezone, ensure]
      split_ifs <;> rfl
  · rfl

theorem faultOf_optionalTimestamp (default : Timestamp) :
    faultOf fault (optionalTimestamp R v default) = timeFault R v := by
  unfold optionalTimestamp
  cases v with
  | none => rfl
  | _ => exact (faultOf_map some).trans (faultOf_parseTimestamp default)

theorem faultOf_requiredMember {α : Type} (members : List α) (value : α → String) (key : String) :
    faultOf fault (requiredMember R members value payload key) =
      memberFault R members value payload key := by
  unfold requiredMember memberFault required
  cases payload.lookup key with
  | none => rfl
  | some v => exact faultOf_orRaise _ _

/-! ### The fault of an order -/

/-- A computation that raises what is caught, where it does not return. -/
theorem faultOf_of_caught {α : Type} {x : Result α} {p : Prop} [Decidable p]
    (hRaises : RaisesOnly (fault · = .caught) x) (hReturns : (∃ a, x = .ok a) ↔ p) :
    faultOf fault x = firstFault [if p then none else some .caught] := by
  cases x with
  | ok a =>
    rw [if_pos (hReturns.mp ⟨a, rfl⟩)]
    rfl
  | error e =>
    have hp : ¬ p := fun hp => nomatch hReturns.mpr hp
    rw [if_neg hp, faultOf_error, raisesOnly_error.mp hRaises]
    rfl

theorem raisesOnly_orRaise {α : Type} {allowed : PyError → Prop} {error : PyError}
    (h : allowed error) (x : Option α) : RaisesOnly allowed (orRaise x error) := by
  intro e he
  rwa [orRaise_eq_error he]

theorem raisesOnly_ensure {p : Prop} [Decidable p] {allowed : PyError → Prop} {error : PyError}
    (h : allowed error) : RaisesOnly allowed (ensure p error) := by
  intro e he
  rwa [ensure_eq_error he]

theorem number_of_decimal {x : DecimalValue} (h : R.decimal v = .ok x) :
    R.number v = finiteDecimal x := by
  rw [Runtime.number, Runtime.decimal_eq_ok.mp h]
  rfl

theorem price_of_optionalDecimal {x : Option DecimalValue} (h : optionalDecimal R v = .ok x) :
    R.price v = finiteOptional x := by
  cases hPrice : finiteOptional x with
  | some p => exact Runtime.price_eq_some.mpr ⟨x, h, hPrice⟩
  | none =>
    cases hRead : R.price v with
    | none => rfl
    | some p =>
      obtain ⟨x', hx', hp⟩ := Runtime.price_eq_some.mp hRead
      rw [h] at hx'
      obtain rfl := Except.ok.inj hx'
      rw [hPrice] at hp
      cases hp

theorem raisesOnly_validateLeg (leg : BrokerOrderLeg DecimalValue) :
    RaisesOnly (fault · = .caught) (validateLeg leg) := by
  refine .bind (raisesOnly_orRaise (by rfl) _) fun quantity _ => ?_
  refine .bind (raisesOnly_orRaise (by rfl) _) fun filledQuantity _ => ?_
  refine .bind (raisesOnly_orRaise (by rfl) _) fun limitPrice _ => ?_
  refine .bind (raisesOnly_orRaise (by rfl) _) fun stopPrice _ => ?_
  exact .bind (raisesOnly_ensure (by rfl)) fun _ _ => raisesOnly_pure

theorem faultOf_normalizeLeg : faultOf fault (normalizeLeg R v) = firstFault (legFaults R v) := by
  cases v with
  | dict leg =>
    refine faultOf_bind (faultOf_required "id") fun id _ => ?_
    refine faultOf_bind faultOf_decimal fun quantity hQuantity => ?_
    refine faultOf_bind faultOf_decimal fun filled hFilled => ?_
    refine faultOf_bind faultOf_optionalDecimal fun limit hLimit => ?_
    refine faultOf_bind faultOf_optionalDecimal fun stop hStop => ?_
    refine faultOf_of_caught (raisesOnly_validateLeg _) ?_
    simp only [LegFits, MoneyOrNone, List.forall_mem_cons, List.not_mem_nil, false_imp_iff,
      implies_true, and_true, number_of_decimal hQuantity, number_of_decimal hFilled,
      price_of_optionalDecimal hLimit, price_of_optionalDecimal hStop, validateLeg_eq_ok]
    constructor
    · rintro ⟨read, hQuantity, hFilled, hLimit, hStop, ⟨hLimitMoney, hStopMoney⟩, -⟩
      rw [hQuantity, hFilled]
      exact ⟨⟨rfl, rfl⟩, ⟨_, hLimit, hLimitMoney⟩, _, hStop, hStopMoney⟩
    · rintro ⟨⟨hQuantity, hFilled⟩, ⟨limit, hLimit, hLimitMoney⟩, stop, hStop, hStopMoney⟩
      obtain ⟨quantity, hQuantity⟩ := Option.isSome_iff_exists.mp hQuantity
      obtain ⟨filled, hFilled⟩ := Option.isSome_iff_exists.mp hFilled
      exact ⟨⟨_, _, _, _, _, quantity, filled, limit, stop⟩, hQuantity, hFilled, hLimit, hStop,
        ⟨hLimitMoney, hStopMoney⟩, rfl, rfl, rfl, rfl, rfl⟩
  | _ => rfl

theorem faultOf_normalizeLegs : faultOf fault (normalizeLegs R v) = firstFault (legsFaults R v) := by
  unfold normalizeLegs legsFaults
  cases v with
  | list items =>
    cases items with
    | nil => rfl
    | cons item items => exact faultOf_mapM fun item => faultOf_normalizeLeg
  | _ =>
    simp only [legItems]
    split_ifs <;> rfl

theorem raisesOnly_constructSnapshot (quantity filledQuantity : DecimalValue)
    (filledAvgPrice limitPrice stopPrice : Option DecimalValue)
    (fields : Decimal → Decimal → Option Decimal → Option Decimal → Option Decimal →
      SnapshotFields Decimal) :
    RaisesOnly (fault · = .caught) (constructSnapshot quantity filledQuantity filledAvgPrice
      limitPrice stopPrice fields) := by
  refine .bind (raisesOnly_orRaise (by rfl) _) fun quantity _ => ?_
  refine .bind (raisesOnly_orRaise (by rfl) _) fun filledQuantity _ => ?_
  refine .bind (raisesOnly_orRaise (by rfl) _) fun filledAvgPrice _ => ?_
  refine .bind (raisesOnly_orRaise (by rfl) _) fun limitPrice _ => ?_
  refine .bind (raisesOnly_orRaise (by rfl) _) fun stopPrice _ => ?_
  unfold validateSnapshot
  split_ifs
  · exact raisesOnly_ok
  · exact raisesOnly_error.mpr rfl

theorem exists_constructSnapshot {quantity filledQuantity : DecimalValue}
    {filledAvgPrice limitPrice stopPrice : Option DecimalValue}
    {fields : Decimal → Decimal → Option Decimal → Option Decimal → Option Decimal →
      SnapshotFields Decimal} :
    (∃ s, constructSnapshot quantity filledQuantity filledAvgPrice limitPrice stopPrice fields
      = .ok s) ↔
      ∃ q f avg limit stop, finiteDecimal quantity = some q ∧ finiteDecimal filledQuantity = some f ∧
        finiteOptional filledAvgPrice = some avg ∧ finiteOptional limitPrice = some limit ∧
        finiteOptional stopPrice = some stop ∧ (fields q f avg limit stop).Valid := by
  simp only [constructSnapshot, Result.bind_eq_ok, orRaise_eq_ok, validateSnapshot_eq_ok]
  constructor
  · rintro ⟨s, q, hq, f, hf, avg, hAvg, limit, hLimit, stop, hStop, hs⟩
    exact ⟨q, f, avg, limit, stop, hq, hf, hAvg, hLimit, hStop, hs ▸ s.valid⟩
  · rintro ⟨q, f, avg, limit, stop, hq, hf, hAvg, hLimit, hStop, hValid⟩
    exact ⟨⟨_, hValid⟩, q, hq, f, hf, avg, hAvg, limit, hLimit, stop, hStop, rfl⟩

theorem field_of_required {key : String} (h : required payload key = .ok v) :
    field payload key = v := by
  rw [field, fieldOr_of_lookup (required_eq_ok.mp h)]

theorem faultOf_quantity : faultOf fault (required payload "qty" >>= R.decimal) =
    firstFault [keyFault payload "qty", decimalFault R (field payload "qty")] := by
  refine faultOf_bind (faultOf_required "qty") fun v hv => ?_
  rw [field_of_required hv, faultOf_decimal]
  cases decimalFault R v <;> rfl

/-- The readings of an order end with the first of its faults. -/
theorem faultOf_normalizeOrder :
    faultOf fault (normalizeOrder R payload observedAt) = firstFault (orderFaults R payload) := by
  unfold normalizeOrder orderFaults
  refine faultOf_bind faultOf_canonicalSha256 fun rawHash hHash => ?_
  refine faultOf_bind (faultOf_parseTimestamp observedAt) fun updatedAt _ => ?_
  refine faultOf_bind_append faultOf_normalizeLegs fun legs hLegs => ?_
  refine faultOf_bind (faultOf_required "id") fun id _ => ?_
  refine faultOf_bind (faultOf_required "client_order_id") fun clientOrderId _ => ?_
  refine faultOf_bind (faultOf_required "symbol") fun symbol hSymbol => ?_
  refine faultOf_bind (faultOf_requiredMember orderSides _ "side") fun side _ => ?_
  refine faultOf_bind (faultOf_requiredMember orderTypes _ "type") fun orderType _ => ?_
  refine faultOf_bind (faultOf_requiredMember brokerOrderStatuses _ "status") fun status _ => ?_
  refine faultOf_bind_append faultOf_quantity fun quantity hQuantity => ?_
  refine faultOf_bind faultOf_decimal fun filledQuantity hFilled => ?_
  refine faultOf_bind faultOf_optionalDecimal fun filledAvgPrice hAvg => ?_
  refine faultOf_bind faultOf_optionalDecimal fun limitPrice hLimit => ?_
  refine faultOf_bind faultOf_optionalDecimal fun stopPrice hStop => ?_
  refine faultOf_bind (faultOf_optionalTimestamp observedAt) fun submittedAt _ => ?_
  refine faultOf_of_caught (raisesOnly_constructSnapshot _ _ _ _ _ _) ?_
  obtain ⟨qty, hQty, hQuantity⟩ := Result.bind_eq_ok.mp hQuantity
  simp only [exists_constructSnapshot, OrderFits, MoneyOrNone, List.forall_mem_cons,
    List.not_mem_nil, false_imp_iff, implies_true, and_true, field_of_required hSymbol,
    field_of_required hQty, number_of_decimal hQuantity, number_of_decimal hFilled,
    price_of_optionalDecimal hAvg, price_of_optionalDecimal hLimit, price_of_optionalDecimal hStop]
  constructor
  · rintro ⟨q, f, avg, limit, stop, hq, hf, hAvg, hLimit, hStop, hValid⟩
    obtain ⟨⟨-, hTicker, hPositive, hNonneg, hMoney, -⟩, hFill⟩ := hValid
    exact ⟨hTicker, ⟨q, hq, hPositive, f, hf, hNonneg, hFill⟩, ⟨avg, hAvg, hMoney avg (by simp)⟩,
      ⟨limit, hLimit, hMoney limit (by simp)⟩, stop, hStop, hMoney stop (by simp)⟩
  · rintro ⟨hTicker, ⟨q, hq, hPositive, f, hf, hNonneg, hFill⟩, ⟨avg, hAvg, hAvgMoney⟩,
      ⟨limit, hLimit, hLimitMoney⟩, stop, hStop, hStopMoney⟩
    have hHex : Risk.isSha256Hex rawHash = true := by
      rw [(Runtime.canonicalSha256_eq_ok.mp hHash).2]
      exact R.sha256_hex _
    refine ⟨q, f, avg, limit, stop, hq, hf, hAvg, hLimit, hStop,
      ⟨length_snapshotId .., hTicker, hPositive, hNonneg, ?_, hHex⟩, hFill⟩
    simp only [List.cons_append, List.nil_append, List.forall_mem_cons, List.mem_flatMap]
    refine ⟨hAvgMoney, hLimitMoney, hStopMoney, ?_⟩
    rintro price ⟨leg, hLeg, hPrice⟩
    exact money_of_normalizeLegs hLegs hLeg price hPrice

/-! ### The answers -/

/-- The errors that the adapter is to raise. -/
def Documented (e : PyError) : Prop := e = .brokerNotFound ∨ ∃ t, e = .brokerTransportError t

/-- The statuses that say that an order was refused, and not that it may be sent again. -/
def MeansRefused (status : ℕ) : Prop :=
  400 ≤ status ∧ status < 500 ∧ status ∉ [408, 409, 425, 429]

theorem documented_iff {e : PyError} : Documented e ↔ fault e = .broker := by
  unfold Documented
  cases e with
  | other name =>
    simp only [fault]
    split_ifs <;> simp
  | _ => simp [fault]

theorem raisesOnly_asTransient {α : Type} {x : Result α} (h : faultOf fault x ≠ some .broker) :
    RaisesOnly Documented (asTransient x) ↔ faultOf fault x ≠ some .escapes := by
  cases x with
  | ok a => simp [asTransient]
  | error e =>
    rw [faultOf_error] at h
    simp only [asTransient, raisesOnly_error, documented_iff, faultOf_error, ne_eq]
    cases hFault : fault e with
    | caught => simp [fault]
    | broker => exact absurd (congrArg some hFault) h
    | escapes => simp [hFault]

theorem checkStatus_eq_ok {r : Response} {u : Unit} : checkStatus r = .ok u ↔ r.isError = false := by
  simp only [checkStatus, Result.bind_eq_ok, ensure_eq_ok]
  constructor
  · rintro ⟨-, -, hError⟩
    exact hError
  · intro hError
    refine ⟨(), ?_, hError⟩
    intro h
    rw [Response.isError, h] at hError
    cases hError

theorem checkStatus_documented (r : Response) : RaisesOnly Documented (checkStatus r) :=
  .bind (raisesOnly_ensure (.inl rfl)) fun _ _ => raisesOnly_ensure (.inr ⟨_, rfl⟩)

theorem request_documented (r : Response) : RaisesOnly Documented (request r) := by
  refine .bind (checkStatus_documented r) fun _ _ => ?_
  split_ifs
  · exact raisesOnly_pure
  · split
    · exact raisesOnly_pure
    · exact raisesOnly_error.mpr (.inr ⟨_, rfl⟩)
    · exact raisesOnly_error.mpr (.inr ⟨_, rfl⟩)

theorem request_eq_ok {r : Response} {data : Option Entries} : request r = .ok data ↔
    r.isError = false ∧ (r.isEmpty = true ∧ data = none ∨
      r.isEmpty = false ∧ ∃ payload, r.body = .json (.dict payload) ∧ data = some payload) := by
  simp only [request, Result.bind_eq_ok, checkStatus_eq_ok, exists_and_left, exists_const]
  refine and_congr_right fun _ => ?_
  cases hEmpty : r.isEmpty with
  | true => simp [pure, Except.pure, eq_comm]
  | false =>
    cases hBody : r.body with
    | json v => cases v <;> simp [pure, Except.pure, eq_comm]
    | _ => simp

/-- What is done with the data of a response is not reached where the response is an error. -/
theorem raisesOnly_request {α : Type} {r : Response} {f : Option Entries → Result α} :
    RaisesOnly Documented (request r >>= f) ↔ r.isError = true ∨
      if r.isEmpty then RaisesOnly Documented (f none)
      else ∀ payload, r.body = .json (.dict payload) → RaisesOnly Documented (f (some payload)) := by
  rw [raisesOnly_bind, and_iff_right (request_documented r)]
  simp only [request_eq_ok]
  cases r.isError with
  | true => simp
  | false =>
    cases r.isEmpty with
    | true => simp
    | false =>
      simp only [Bool.false_eq_true, false_and, false_or, true_and, if_false]
      constructor
      · intro h payload hBody
        exact h _ ⟨payload, hBody, rfl⟩
      · rintro h _ ⟨payload, hBody, rfl⟩
        exact h payload hBody

/-- Data that has to be there is asserted, which no answer of the broker stands for. -/
theorem raisesOnly_request_required {α : Type} {r : Response} {f : Entries → Result α} :
    RaisesOnly Documented (request r >>= fun data => orRaise data .assertionError >>= f) ↔
      r.isError = true ∨ r.isEmpty = false ∧
        ∀ payload, r.body = .json (.dict payload) → RaisesOnly Documented (f payload) := by
  rw [raisesOnly_request]
  refine or_congr_right ?_
  cases r.isEmpty with
  | true => simp [orRaise, bind, Except.bind, Documented]
  | false =>
    simp only [Bool.false_eq_true, if_false, true_and]
    rfl

/-- An order is answered for where the response is an error, or where it has a body whose order,
if it has one, is not misread. -/
def Answered (R : Runtime) (r : Response) : Prop :=
  r.isError = true ∨ r.isEmpty = false ∧
    ∀ payload, r.body = .json (.dict payload) → ¬ Misread R payload

theorem decimalFault_ne_broker : decimalFault R v ≠ some .broker := by
  unfold decimalFault
  split_ifs <;> decide

theorem priceFault_ne_broker : priceFault R v ≠ some .broker := by
  unfold priceFault
  split_ifs
  · decide
  · exact decimalFault_ne_broker

theorem keyFault_ne_broker (key : String) : keyFault payload key ≠ some .broker := by
  unfold keyFault
  split_ifs <;> decide

theorem memberFault_ne_broker {α : Type} (members : List α) (value : α → String) (key : String) :
    memberFault R members value payload key ≠ some .broker := by
  unfold memberFault
  split_ifs <;> decide

theorem timeFault_ne_broker : timeFault R v ≠ some .broker := by
  unfold timeFault
  split_ifs
  · split
    · decide
    · split_ifs <;> decide
  · decide

theorem legFaults_ne_broker : ∀ f ∈ legFaults R v, f ≠ some .broker := by
  cases v with
  | dict leg =>
    simp only [legFaults, List.forall_mem_cons]
    refine ⟨keyFault_ne_broker _, decimalFault_ne_broker, decimalFault_ne_broker,
      priceFault_ne_broker, priceFault_ne_broker, ?_, by simp⟩
    split_ifs <;> decide
  | _ => simp [legFaults]

theorem legsFaults_ne_broker : ∀ f ∈ legsFaults R v, f ≠ some .broker := by
  unfold legsFaults
  split
  · intro f hf
    obtain ⟨item, -, hf⟩ := List.mem_flatMap.mp hf
    exact legFaults_ne_broker f hf
  · simp

theorem orderFaults_ne_broker : ∀ f ∈ orderFaults R payload, f ≠ some .broker := by
  simp only [orderFaults, List.forall_mem_cons, List.forall_mem_append]
  refine ⟨?_, timeFault_ne_broker, legsFaults_ne_broker, keyFault_ne_broker _,
    keyFault_ne_broker _, keyFault_ne_broker _, memberFault_ne_broker _ _ _,
    memberFault_ne_broker _ _ _, memberFault_ne_broker _ _ _, keyFault_ne_broker _,
    decimalFault_ne_broker, decimalFault_ne_broker, priceFault_ne_broker, priceFault_ne_broker,
    priceFault_ne_broker, timeFault_ne_broker, ?_, by simp⟩
  · unfold doubleFault
    split_ifs <;> decide
  · split_ifs <;> decide

theorem faultOf_normalizeOrder_ne_broker :
    faultOf fault (normalizeOrder R payload observedAt) ≠ some .broker := by
  rw [faultOf_normalizeOrder]
  intro h
  exact orderFaults_ne_broker _ (mem_of_firstFault h) rfl

theorem orderAnswer_documented {r : Response} {now : Timestamp} :
    RaisesOnly Documented (orderAnswer R r now) ↔ Answered R r := by
  rw [orderAnswer, raisesOnly_request_required, Answered]
  refine or_congr_right (and_congr_right fun _ => forall₂_congr fun payload _ => ?_)
  exact (raisesOnly_asTransient faultOf_normalizeOrder_ne_broker).trans
    (by rw [faultOf_normalizeOrder, Misread])

/-! ### Orders that are submitted -/

/-- Only an order that is refused is answered with an error that is not transient. -/
def RefusedOnly {α : Type} (status : ℕ) (x : Result α) : Prop :=
  x = .error (.brokerTransportError false) → MeansRefused status

/-- A submission is answered for where its response is an error, or has a body: a text, or an
order that is not misread. -/
def SubmissionAnswered (R : Runtime) (r : Response) : Prop :=
  r.isError = true ∨ r.isEmpty = false ∧
    (r.body = .text ∨ ∃ payload, r.body = .json (.dict payload) ∧ ¬ Misread R payload)

theorem asTransient_ne_refused {α : Type} {x : Result α} (h : faultOf fault x ≠ some .broker) :
    asTransient x ≠ .error (.brokerTransportError false) := by
  cases x with
  | ok a => simp [asTransient]
  | error e =>
    intro hError
    simp only [asTransient, Except.error.injEq] at hError
    split_ifs at hError with hCaught
    · cases hError
    · subst hError
      exact h rfl

theorem checkStatus_refused {r : Response} (h : checkStatus r = .error (.brokerTransportError false)) :
    MeansRefused r.statusCode := by
  rcases Result.bind_eq_error.mp h with h | ⟨-, -, h⟩
  · cases ensure_eq_error h
  · have hTransient := PyError.brokerTransportError.inj (ensure_eq_error h)
    unfold ensure at h
    split_ifs at h with hError
    simp only [Response.isError, Bool.and_eq_false_iff, decide_eq_false_iff_not, not_or, not_not,
      Bool.false_eq, Bool.or_eq_false_iff] at hError hTransient
    exact ⟨hError.1, by omega, hTransient.1⟩

theorem orderAnswer_submitted {r : Response} {now : Timestamp} :
    RaisesOnly Documented (orderAnswer R r now) ∧ RefusedOnly r.statusCode (orderAnswer R r now) ↔
      SubmissionAnswered R r := by
  rw [orderAnswer_documented, Answered, SubmissionAnswered, RefusedOnly, orderAnswer]
  cases hError : r.isError with
  | true =>
    simp only [true_or, true_and, iff_true]
    intro h
    refine checkStatus_refused ?_
    rcases Result.bind_eq_error.mp h with h | ⟨data, hData, -⟩
    · rcases Result.bind_eq_error.mp h with h | ⟨u, hStatus, -⟩
      · exact h
      · rw [checkStatus_eq_ok.mp hStatus] at hError
        cases hError
    · rw [(request_eq_ok.mp hData).1] at hError
      cases hError
  | false =>
    have hStatus : checkStatus r = .ok () := checkStatus_eq_ok.mpr hError
    have hRefused : ¬ MeansRefused r.statusCode := by
      rintro ⟨hLeast, hMost, -⟩
      simp [Response.isError] at hError
      omega
    simp only [Bool.false_eq_true, false_or, and_assoc]
    refine and_congr_right fun hEmpty => ?_
    rw [request, hStatus, ok_bind, hEmpty]
    cases hBody : r.body with
    | empty => simp [Response.isEmpty, hBody] at hEmpty
    | text => simp [bind, Except.bind]
    | json v =>
      cases v with
      | dict payload =>
        have hNe : asTransient (normalizeOrder R payload now) ≠
            .error (.brokerTransportError false) :=
          asTransient_ne_refused faultOf_normalizeOrder_ne_broker
        simp only [Body.json.injEq, Decoded.dict.injEq, forall_eq', exists_eq_left', reduceCtorEq,
          false_or, and_iff_left_iff_imp]
        intro _ h
        exact absurd h hNe
      | _ => simp [bind, Except.bind, hRefused]

theorem commandPayload_returns {command : BrokerOrderCommand Decimal} :
    (∃ sent, commandPayload command = .ok sent) ↔ Decimal.digits command.quantity ≤ 4300 := by
  simp only [commandPayload, quantityText, Result.bind_eq_ok, ensure_eq_ok, Result.pure_eq_ok]
  constructor
  · rintro ⟨_, _, ⟨-, hDigits, -⟩, -⟩
    exact hDigits
  · intro hDigits
    exact ⟨_, _, ⟨(), hDigits, rfl⟩, rfl⟩

theorem submitOrder_contract {command : BrokerOrderCommand Decimal} {r : Response} {now : Timestamp} :
    RaisesOnly Documented (submitOrder R command r now) ∧
        RefusedOnly r.statusCode (submitOrder R command r now) ↔
      Decimal.digits command.quantity ≤ 4300 ∧ SubmissionAnswered R r := by
  rw [← commandPayload_returns]
  unfold submitOrder
  cases hPayload : commandPayload command with
  | ok sent => simpa [ok_bind] using orderAnswer_submitted
  | error e =>
    have hError : e = .valueError "Exceeds the limit (4300 digits) for integer string conversion" := by
      rcases Result.bind_eq_error.mp hPayload with h | ⟨_, -, h⟩
      · rcases Result.bind_eq_error.mp h with h | ⟨_, -, h⟩
        · exact ensure_eq_error h
        · cases h
      · cases h
    simp [bind, Except.bind, documented_iff, hError, fault]

/-! ### Positions and lists of orders -/

theorem sign_absolute {d : Decimal} {x : DecimalValue} (h : absolute (.finite d) = .ok x) :
    ∃ q, x = .finite q ∧ q.sign = false := by
  simp only [absolute] at h
  split_ifs at h with hZero hSmall
  · obtain rfl := Except.ok.inj h
    exact ⟨_, rfl, rfl⟩
  · obtain rfl := Except.ok.inj h
    exact ⟨_, rfl, by unfold Decimal.rescale; split_ifs <;> rfl⟩
  · obtain ⟨_, -, h⟩ := Result.bind_eq_ok.mp h
    obtain rfl := Except.ok.inj h
    exact ⟨_, rfl, Decimal.sign_fix _⟩

theorem absolute_finite {x : DecimalValue} {q : Decimal} (h : absolute x = .ok (.finite q)) :
    ∃ d, x = .finite d := by
  cases x with
  | finite d => exact ⟨d, rfl⟩
  | infinity sign => cases h
  | nan signaling => cases signaling <;> cases h

theorem finiteDecimal_eq_some {x : DecimalValue} {d : Decimal} :
    finiteDecimal x = some d ↔ x = .finite d := by
  cases x <;> simp [finiteDecimal]

theorem exists_readPosition {symbol : String} {data : Entries} {now : Timestamp} :
    (∃ p, readPosition R symbol data now = .ok p) ↔ PositionFits R symbol data := by
  simp only [readPosition, validatePosition, Result.bind_eq_ok, orRaise_eq_ok, ensure_eq_ok,
    Result.pure_eq_ok, Runtime.canonicalSha256_eq_ok]
  constructor
  · rintro ⟨p, x, ⟨y, hRead, hAbsolute⟩, avg, hAvg, hash, ⟨hFinite, -⟩, q, hq, price, hPrice, -,
      ⟨hTicker, -, hMoney, -⟩, -⟩
    obtain rfl := finiteDecimal_eq_some.mp hq
    obtain ⟨d, rfl⟩ := absolute_finite hAbsolute
    exact ⟨hTicker, ⟨d, number_of_decimal hRead, _, hAbsolute⟩,
      ⟨price, (price_of_optionalDecimal hAvg).trans hPrice, hMoney⟩, hFinite⟩
  · rintro ⟨hTicker, ⟨d, hNumber, x, hAbsolute⟩, ⟨price, hPrice, hMoney⟩, hFinite⟩
    obtain ⟨y, hRead, hy⟩ := Runtime.number_eq_some.mp hNumber
    obtain rfl := finiteDecimal_eq_some.mp hy
    obtain ⟨q, rfl, hSign⟩ := sign_absolute hAbsolute
    obtain ⟨avg, hAvg, hPrice⟩ := Runtime.price_eq_some.mp hPrice
    have hNonneg : 0 ≤ value q := Decimal.toRat_nonneg_iff.mpr (.inl hSign)
    exact ⟨_, _, ⟨_, hRead, hAbsolute⟩, avg, hAvg, _, ⟨hFinite, rfl⟩, q, rfl, price, hPrice, (),
      ⟨hTicker, hNonneg, hMoney, R.sha256_hex _⟩, rfl⟩

theorem raisesOnly_absolute (x : DecimalValue) : RaisesOnly (fault · ≠ .broker) (absolute x) := by
  cases x with
  | finite d =>
    simp only [absolute]
    split_ifs
    · exact raisesOnly_pure
    · exact raisesOnly_pure
    · exact .bind (raisesOnly_ensure (by decide)) fun _ _ => raisesOnly_pure
  | infinity sign => exact raisesOnly_ok
  | nan signaling =>
    cases signaling with
    | false => exact raisesOnly_ok
    | true => exact raisesOnly_error.mpr (by decide)

/-- Nothing that is raised in the reading of a position is an error of the broker. -/
theorem raisesOnly_readPosition {symbol : String} {data : Entries} {now : Timestamp} :
    RaisesOnly (fault · ≠ .broker) (readPosition R symbol data now) := by
  have hDecimal (v : Decoded) : RaisesOnly (fault · ≠ .broker) (R.decimal v) :=
    raisesOnly_orRaise (by decide) _
  have hOptional (v : Decoded) : RaisesOnly (fault · ≠ .broker) (optionalDecimal R v) := by
    rw [raisesOnly_iff_faultOf, faultOf_optionalDecimal]
    exact priceFault_ne_broker
  have hHash : RaisesOnly (fault · ≠ .broker) (R.canonicalSha256 (.dict data)) :=
    .bind (raisesOnly_ensure (by decide)) fun _ _ => raisesOnly_pure
  refine .bind (.bind (hDecimal _) fun x _ => raisesOnly_absolute x) fun quantity _ => ?_
  refine .bind (hOptional _) fun averageEntryPrice _ => ?_
  refine .bind hHash fun rawResponseHash _ => ?_
  refine .bind (raisesOnly_orRaise (by decide) _) fun quantity _ => ?_
  refine .bind (raisesOnly_orRaise (by decide) _) fun averageEntryPrice _ => ?_
  exact .bind (raisesOnly_ensure (by decide)) fun _ _ => raisesOnly_pure

theorem raisesOnly_iff_returns {α : Type} {x : Result α} (h : RaisesOnly (fault · ≠ .broker) x) :
    RaisesOnly Documented x ↔ ∃ a, x = .ok a := by
  cases x with
  | ok a => simp
  | error e => simpa [documented_iff] using h

/-- A position is answered for where the response is an error, or where it has a body whose
position, if it has one, is read. -/
def PositionAnswered (R : Runtime) (symbol : String) (r : Response) : Prop :=
  r.isError = true ∨ r.isEmpty = false ∧
    ∀ data, r.body = .json (.dict data) → PositionFits R symbol data

theorem getPosition_contract {symbol : String} {r : Response} {now : Timestamp} :
    RaisesOnly Documented (getPosition R symbol r now) ↔ PositionAnswered R symbol r := by
  have hBind : RaisesOnly Documented (getPosition R symbol r now) ↔
      RaisesOnly Documented (request r >>= fun data => do
        let data ← orRaise data .assertionError
        some <$> readPosition R symbol data now) := by
    unfold getPosition
    cases request r with
    | ok data => cases data <;> rfl
    | error e => cases e <;> simp [bind, Except.bind, Documented]
  rw [hBind, raisesOnly_request_required, PositionAnswered]
  refine or_congr_right (and_congr_right fun _ => forall₂_congr fun data _ => ?_)
  have hMap : RaisesOnly Documented (some <$> readPosition R symbol data now) ↔
      RaisesOnly Documented (readPosition R symbol data now) := by
    cases readPosition R symbol data now <;> simp [Functor.map, Except.map]
  have hReturns : RaisesOnly Documented (readPosition R symbol data now) ↔
      ∃ p, readPosition R symbol data now = .ok p :=
    raisesOnly_iff_returns raisesOnly_readPosition
  exact hMap.trans (hReturns.trans exists_readPosition)

/-- Orders are answered for where the response is an error or has no body, or where no order
of its list is misread before one that is refused. -/
def ListAnswered (R : Runtime) (r : Response) : Prop :=
  r.isError = true ∨ r.isEmpty = true ∨
    ∀ items rows, r.body = .json (.list items) → dictItems items = some rows →
      firstFault (rows.flatMap (orderFaults R)) ≠ some .escapes

theorem requestList_documented (r : Response) : RaisesOnly Documented (requestList r) := by
  refine .bind (checkStatus_documented r) fun _ _ => ?_
  split_ifs
  · exact raisesOnly_pure
  · split
    · exact raisesOnly_orRaise (.inr ⟨_, rfl⟩) _
    · exact raisesOnly_error.mpr (.inr ⟨_, rfl⟩)
    · exact raisesOnly_error.mpr (.inr ⟨_, rfl⟩)

theorem requestList_eq_ok {r : Response} {rows : List Entries} : requestList r = .ok rows ↔
    r.isError = false ∧ (r.isEmpty = true ∧ rows = [] ∨
      r.isEmpty = false ∧ ∃ items, r.body = .json (.list items) ∧ dictItems items = some rows) := by
  simp only [requestList, Result.bind_eq_ok, checkStatus_eq_ok, exists_and_left, exists_const]
  refine and_congr_right fun _ => ?_
  cases hEmpty : r.isEmpty with
  | true => simp [pure, Except.pure, eq_comm]
  | false =>
    cases hBody : r.body with
    | json v => cases v <;> simp
    | _ => simp

theorem faultOf_rows {rows : List Entries} {now : Timestamp} :
    faultOf fault (rows.mapM fun row => normalizeOrder R row now) =
      firstFault (rows.flatMap (orderFaults R)) :=
  faultOf_mapM fun _ => faultOf_normalizeOrder

theorem listOrders_contract {r : Response} {now : Timestamp} :
    RaisesOnly Documented (listOrders R r now) ↔ ListAnswered R r := by
  have hRows (rows : List Entries) :
      RaisesOnly Documented (asTransient (rows.mapM fun row => normalizeOrder R row now)) ↔
        firstFault (rows.flatMap (orderFaults R)) ≠ some .escapes := by
    have hFaults : faultOf fault (rows.mapM fun row => normalizeOrder R row now) =
        firstFault (rows.flatMap (orderFaults R)) := faultOf_rows
    rw [← hFaults]
    refine raisesOnly_asTransient ?_
    rw [hFaults]
    intro h
    obtain ⟨row, -, hFault⟩ := List.mem_flatMap.mp (mem_of_firstFault h)
    exact orderFaults_ne_broker _ hFault rfl
  rw [listOrders, raisesOnly_bind, and_iff_right (requestList_documented r), ListAnswered]
  simp only [requestList_eq_ok, hRows]
  cases r.isError with
  | true => simp
  | false =>
    cases r.isEmpty with
    | true => simp
    | false =>
      simp only [Bool.false_eq_true, false_and, false_or, true_and]
      constructor
      · intro h items rows hBody hItems
        exact h rows ⟨items, hBody, hItems⟩
      · rintro h rows ⟨items, hBody, hItems⟩
        exact h items rows hBody hItems

/-! ### The contract -/

/-- Each answer returns or raises an error of the broker, and a submission is refused for good
only on the statuses that say so, exactly where the response is an error, or has a body whose
payload is not misread. -/
theorem broker_answers_contract (R : Runtime) (command : BrokerOrderCommand Decimal)
    (symbol : String) (r : Response) (now : Timestamp) :
    (RaisesOnly Documented (getOrderByClientOrderId R r now) ↔ Answered R r) ∧
    (RaisesOnly Documented (getOrder R r now) ↔ Answered R r) ∧
    (RaisesOnly Documented (submitOrder R command r now) ∧
        RefusedOnly r.statusCode (submitOrder R command r now) ↔
      Decimal.digits command.quantity ≤ 4300 ∧ SubmissionAnswered R r) ∧
    (RaisesOnly Documented (getPosition R symbol r now) ↔ PositionAnswered R symbol r) ∧
    (RaisesOnly Documented (listOrders R r now) ↔ ListAnswered R r) :=
  ⟨orderAnswer_documented, orderAnswer_documented, submitOrder_contract, getPosition_contract,
    listOrders_contract⟩

/-- An order whose quantity is no decimal. -/
def misreadOrder : Entries :=
  [("id", .str "alpaca-1"), ("client_order_id", .str "DB-20260803-ABCD"), ("symbol", .str "ABCD"),
    ("side", .str "buy"), ("type", .str "limit"), ("status", .str "new"), ("qty", .str "ten")]

theorem misreadOrder_misread : Misread sampleRuntime misreadOrder := by
  unfold Misread
  decide

/-- The broker answers with an order whose quantity is no decimal, with a list where an order
was submitted, and with a position whose quantity is no decimal. -/
theorem misread_answers_escape :
    ¬ RaisesOnly Documented
      (getOrderByClientOrderId sampleRuntime ⟨200, .json (.dict misreadOrder)⟩ 0) ∧
    ¬ RefusedOnly 200 (submitOrder sampleRuntime bracketCommand ⟨200, .json (.list [])⟩ 0) ∧
    ¬ RaisesOnly Documented
      (getPosition sampleRuntime "ABCD" ⟨200, .json (.dict [("qty", .str "ten")])⟩ 0) := by
  refine ⟨?_, ?_, ?_⟩
  · rw [getOrderByClientOrderId, orderAnswer_documented]
    rintro (hError | ⟨-, h⟩)
    · cases hError
    · exact h misreadOrder rfl misreadOrder_misread
  · intro h
    have hRefused : MeansRefused 200 := h (by rw [submitOrder, bracketPayload_sent]; rfl)
    exact absurd hRefused.1 (by decide)
  · rw [getPosition_contract]
    rintro (hError | ⟨-, h⟩)
    · cases hError
    · obtain ⟨-, ⟨d, hNumber, -⟩, -⟩ := h _ rfl
      have hUnread : sampleRuntime.number (fieldOr [("qty", .str "ten")] "qty" (.str "0")) = none := by
        decide
      rw [hUnread] at hNumber
      cases hNumber

end Daybreak.Execution
