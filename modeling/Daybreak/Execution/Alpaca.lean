import Daybreak.Effect.Fallible
import Daybreak.Execution.OrderBuilder
import Daybreak.Serial.DecimalText
import Daybreak.Serial.JsonText

/-! The payloads of the Alpaca adapter: what a command is sent as, and how the order that the
broker answers with is read. A reading takes the fields in the order of the source and stops
at the first one that it refuses, with the exception that the source raises there. -/

namespace Daybreak.Execution

open Numeric DecimalArithmetic Serial

/-! ### The runtime -/

/-- The first and the last instant of a `datetime` in UTC. -/
def InRange (t : Timestamp) : Prop := -62135596800000000 ≤ t ∧ t ≤ 253402300799999999

instance decidableInRange (t : Timestamp) : Decidable (InRange t) := by
  unfold InRange
  infer_instance

/-- A `datetime`: its wall time, and its offset from UTC where it has one, in microseconds. -/
structure WallTime where
  wall : Timestamp
  utcoffset : Option ℤ
  inRange : InRange wall
  deriving DecidableEq

/-- `value.astimezone(UTC)`; a `datetime` without an offset is taken to be in UTC. -/
def WallTime.astimezone (t : WallTime) : Result Timestamp := do
  let utc := t.wall - t.utcoffset.getD 0
  ensure (InRange utc) (.other "OverflowError")
  return utc

/-- The functions of the language's library: the text of a list or a dictionary and of an
instant, the reading of a time, SHA-256 and version-5 UUIDs. -/
structure Runtime where
  repr : Decoded → String
  isoformat : Timestamp → String
  fromisoformat : String → Option WallTime
  sha256 : String → String
  uuid5 : String → String
  sha256_hex : ∀ text, Risk.isSha256Hex (sha256 text) = true
  length_uuid5 : ∀ name, (uuid5 name).length = 32

/-- `canonical_json_text` of a value without doubles that are not finite. -/
def canonicalJsonText (v : Decoded) : String := v.canonical.dumps

namespace Runtime

variable (R : Runtime)

/-- `str(value)` -/
def str : Decoded → String
  | .none => "None"
  | .bool true => "True"
  | .bool false => "False"
  | .int n => toString n
  | .float x => x.text
  | .str s => s
  | v => R.repr v

def canonicalSha256 (v : Decoded) : Result String := do
  ensure (v.finite = true) (.valueError "Out of range float values are not JSON compliant")
  return R.sha256 (canonicalJsonText v)

/-- `Decimal(str(value))` -/
def decimal (v : Decoded) : Result DecimalValue :=
  orRaise (readDecimal (R.str v)) (.arithmeticError .invalidOperation)

end Runtime

/-! ### Reading fields -/

/-- `value.replace("Z", "+00:00")` -/
def withOffset (text : String) : String :=
  String.ofList (text.toList.flatMap fun c => if c = 'Z' then "+00:00".toList else [c])

/-- `payload[key]` -/
def required (payload : Entries) (key : String) : Result Decoded :=
  orRaise (payload.lookup key) (.other "KeyError")

/-- `value is None or value == ""` -/
def isBlank : Decoded → Bool
  | .none => true
  | .str s => s = ""
  | _ => false

/-- `_decimal` -/
def optionalDecimal (R : Runtime) (v : Decoded) : Result (Option DecimalValue) :=
  if isBlank v then .ok none else (R.decimal v).map some

/-- `_parse_timestamp` -/
def parseTimestamp (R : Runtime) (v : Decoded) (default : Timestamp) : Result Timestamp :=
  if v.truthy then do
    let parsed ← orRaise (R.fromisoformat (withOffset (R.str v)))
      (.valueError "Invalid isoformat string")
    parsed.astimezone
  else .ok default

def OrderSide.value : OrderSide → String
  | .buy => "buy"
  | .sell => "sell"

def OrderType.value : OrderType → String
  | .limit => "limit"
  | .stop => "stop"

def BrokerOrderStatus.value : BrokerOrderStatus → String
  | .accepted => "accepted"
  | .acceptedForBidding => "accepted_for_bidding"
  | .pendingNew => "pending_new"
  | .new => "new"
  | .partiallyFilled => "partially_filled"
  | .filled => "filled"
  | .doneForDay => "done_for_day"
  | .canceled => "canceled"
  | .expired => "expired"
  | .replaced => "replaced"
  | .pendingCancel => "pending_cancel"
  | .pendingReplace => "pending_replace"
  | .stopped => "stopped"
  | .rejected => "rejected"
  | .suspended => "suspended"
  | .calculated => "calculated"

def orderSides : List OrderSide := [.buy, .sell]

def orderTypes : List OrderType := [.limit, .stop]

def brokerOrderStatuses : List BrokerOrderStatus :=
  [.accepted, .acceptedForBidding, .pendingNew, .new, .partiallyFilled, .filled, .doneForDay,
    .canceled, .expired, .replaced, .pendingCancel, .pendingReplace, .stopped, .rejected,
    .suspended, .calculated]

/-- The member of an enumeration that has a value. -/
def member {α : Type} (members : List α) (value : α → String) (text : String) : Option α :=
  members.find? fun m => value m = text

/-- `Enumeration(str(payload[key]))` -/
def requiredMember {α : Type} (R : Runtime) (members : List α) (value : α → String)
    (payload : Entries) (key : String) : Result α := do
  let v ← required payload key
  orRaise (member members value (R.str v)) (.valueError (key ++ " is not valid"))

/-! ### Orders -/

/-- A strict decimal field takes finite numbers only. -/
def finiteDecimal : DecimalValue → Option Decimal
  | .finite d => some d
  | _ => none

def finiteOptional : Option DecimalValue → Option (Option Decimal)
  | none => some none
  | some v => (finiteDecimal v).map some

/-- `BrokerOrderLeg(...)` -/
def validateLeg (leg : BrokerOrderLeg DecimalValue) : Result (BrokerOrderLeg Decimal) := do
  let invalid := PyError.validationError "BrokerOrderLeg"
  let quantity ← orRaise (finiteDecimal leg.quantity) invalid
  let filledQuantity ← orRaise (finiteDecimal leg.filledQuantity) invalid
  let limitPrice ← orRaise (finiteOptional leg.limitPrice) invalid
  let stopPrice ← orRaise (finiteOptional leg.stopPrice) invalid
  ensure (∀ price ∈ [limitPrice, stopPrice], ∀ p ∈ price, Risk.IsMoney (value p)) invalid
  return {
    brokerOrderId := leg.brokerOrderId
    clientOrderId := leg.clientOrderId
    side := leg.side
    orderType := leg.orderType
    status := leg.status
    quantity
    filledQuantity
    limitPrice
    stopPrice }

/-- An element of `legs`: what is no dictionary has no `leg["id"]`. -/
def normalizeLeg (R : Runtime) : Decoded → Result (BrokerOrderLeg Decimal)
  | .dict leg => do
    let id ← required leg "id"
    let quantity ← R.decimal (fieldOr leg "qty" (.str "0"))
    let filledQuantity ← R.decimal (fieldOr leg "filled_qty" (.str "0"))
    let limitPrice ← optionalDecimal R (field leg "limit_price")
    let stopPrice ← optionalDecimal R (field leg "stop_price")
    validateLeg {
      brokerOrderId := R.str id
      clientOrderId :=
        if (field leg "client_order_id").isNone then none else some (R.str (field leg "client_order_id"))
      side := R.str (fieldOr leg "side" (.str "sell"))
      orderType := R.str (fieldOr leg "type" (.str "limit"))
      status := R.str (fieldOr leg "status" (.str "new"))
      quantity
      filledQuantity
      limitPrice
      stopPrice }
  | _ => .error (.other "TypeError")

/-- `payload.get("legs") or []`; the elements of a text and of a dictionary are texts, and
what is neither has no elements. -/
def normalizeLegs (R : Runtime) (v : Decoded) : Result (List (BrokerOrderLeg Decimal)) :=
  if v.truthy then
    match v with
    | .list legs => legs.mapM (normalizeLeg R)
    | _ => .error (.other "TypeError")
  else .ok []

/-- `_snapshot_id` -/
def snapshotId (R : Runtime) (orderId : String) (updatedAt : Timestamp) (rawHash : String) :
    String :=
  R.uuid5 ("alpaca-order:" ++ orderId ++ ":" ++ R.isoformat updatedAt ++ ":" ++ rawHash)

def validateSnapshot (fields : SnapshotFields Decimal) : Result (BrokerOrderSnapshot Decimal) :=
  if h : fields.Valid then .ok ⟨fields, h⟩ else .error (.validationError "BrokerOrderSnapshot")

/-- `BrokerOrderSnapshot(...)`: its decimals have to be finite, and its fields valid. -/
def constructSnapshot (quantity filledQuantity : DecimalValue)
    (filledAvgPrice limitPrice stopPrice : Option DecimalValue)
    (fields : Decimal → Decimal → Option Decimal → Option Decimal → Option Decimal →
      SnapshotFields Decimal) : Result (BrokerOrderSnapshot Decimal) := do
  let invalid := PyError.validationError "BrokerOrderSnapshot"
  let quantity ← orRaise (finiteDecimal quantity) invalid
  let filledQuantity ← orRaise (finiteDecimal filledQuantity) invalid
  let filledAvgPrice ← orRaise (finiteOptional filledAvgPrice) invalid
  let limitPrice ← orRaise (finiteOptional limitPrice) invalid
  let stopPrice ← orRaise (finiteOptional stopPrice) invalid
  validateSnapshot (fields quantity filledQuantity filledAvgPrice limitPrice stopPrice)

/-- `None`, or `_parse_timestamp` of what is there. -/
def optionalTimestamp (R : Runtime) (v : Decoded) (default : Timestamp) :
    Result (Option Timestamp) :=
  if v.isNone then .ok none else (parseTimestamp R v default).map some

def normalizeOrder (R : Runtime) (payload : Entries) (observedAt : Timestamp) :
    Result (BrokerOrderSnapshot Decimal) := do
  let rawHash ← R.canonicalSha256 (.dict payload)
  let updatedAt ← parseTimestamp R (field payload "updated_at") observedAt
  let legs ← normalizeLegs R (field payload "legs")
  let id ← required payload "id"
  let clientOrderId ← required payload "client_order_id"
  let symbol ← required payload "symbol"
  let side ← requiredMember R orderSides OrderSide.value payload "side"
  let orderType ← requiredMember R orderTypes OrderType.value payload "type"
  let status ← requiredMember R brokerOrderStatuses BrokerOrderStatus.value payload "status"
  let quantity ← required payload "qty" >>= R.decimal
  let filledQuantity ← R.decimal (fieldOr payload "filled_qty" (.str "0"))
  let filledAvgPrice ← optionalDecimal R (field payload "filled_avg_price")
  let limitPrice ← optionalDecimal R (field payload "limit_price")
  let stopPrice ← optionalDecimal R (field payload "stop_price")
  let submittedAt ← optionalTimestamp R (field payload "submitted_at") observedAt
  constructSnapshot quantity filledQuantity filledAvgPrice limitPrice stopPrice
    fun quantity filledQuantity filledAvgPrice limitPrice stopPrice => {
      snapshotId := snapshotId R (R.str id) updatedAt rawHash
      brokerOrderId := R.str id
      clientOrderId := R.str clientOrderId
      symbol := R.str symbol
      side
      orderType
      timeInForce := R.str (fieldOr payload "time_in_force" (.str "day"))
      orderClass := R.str (fieldOr payload "order_class" (.str "simple"))
      status
      quantity
      filledQuantity
      filledAvgPrice
      limitPrice
      stopPrice
      submittedAt
      updatedAt
      legs
      rawResponseHash := rawHash
      rawResponse := canonicalJsonText (.dict payload) }

/-! ### Commands -/

/-- `str(command.quantity)`; an integer of more digits is not written. -/
def quantityText (n : ℕ) : Result String := do
  ensure (Decimal.digits n ≤ 4300)
    (.valueError "Exceeds the limit (4300 digits) for integer string conversion")
  return toString n

/-- `format(price, "f")` of a price that is there. -/
def priceEntry (key : String) : Option Decimal → Entries
  | none => []
  | some price => [(key, .str (fixedText price))]

def commandPayload (command : BrokerOrderCommand Decimal) : Result Entries := do
  let qty ← quantityText command.quantity
  return [("symbol", .str command.symbol), ("qty", .str qty), ("side", .str command.side.value),
      ("type", .str command.orderType.value), ("time_in_force", .str command.timeInForce.value),
      ("client_order_id", .str command.clientOrderId), ("extended_hours", .bool false)] ++
    (priceEntry "limit_price" command.limitPrice ++ (priceEntry "stop_price" command.stopPrice ++
      if command.orderClass = .bracket then
        [("order_class", .str "bracket"),
          ("take_profit", .dict (priceEntry "limit_price" command.takeProfitLimitPrice)),
          ("stop_loss", .dict (priceEntry "stop_price" command.stopLossStopPrice))]
      else []))

/-! ### What is read -/

namespace Runtime

variable {R : Runtime} {v : Decoded}

/-- The finite number that a value is read as. -/
def number (R : Runtime) (v : Decoded) : Option Decimal :=
  (readDecimal (R.str v)).bind finiteDecimal

/-- The price that a value is read as; there may be none. -/
def price (R : Runtime) (v : Decoded) : Option (Option Decimal) :=
  if isBlank v then some none else (R.number v).map some

theorem decimal_eq_ok {x : DecimalValue} : R.decimal v = .ok x ↔ readDecimal (R.str v) = some x :=
  orRaise_eq_ok

theorem number_eq_some {d : Decimal} :
    R.number v = some d ↔ ∃ x, R.decimal v = .ok x ∧ finiteDecimal x = some d := by
  simp only [number, Option.bind_eq_some_iff, decimal_eq_ok]

theorem price_eq_some {p : Option Decimal} :
    R.price v = some p ↔ ∃ x, optionalDecimal R v = .ok x ∧ finiteOptional x = some p := by
  unfold price optionalDecimal
  split_ifs with hBlank
  · constructor
    · intro h
      exact ⟨none, rfl, h⟩
    · rintro ⟨x, hx, h⟩
      obtain rfl := Except.ok.inj hx
      exact h
  · rw [Option.map_eq_some_iff]
    constructor
    · rintro ⟨d, hd, rfl⟩
      obtain ⟨x, hx, hFinite⟩ := number_eq_some.mp hd
      refine ⟨some x, by rw [hx]; rfl, ?_⟩
      rw [finiteOptional, hFinite]
      rfl
    · rintro ⟨x, hx, hFinite⟩
      cases hValue : R.decimal v with
      | error e =>
        rw [hValue] at hx
        cases hx
      | ok value =>
        rw [hValue] at hx
        obtain rfl := Except.ok.inj hx
        obtain ⟨d, hd, rfl⟩ := Option.map_eq_some_iff.mp hFinite
        exact ⟨d, number_eq_some.mpr ⟨value, hValue, hd⟩, rfl⟩

theorem canonicalSha256_eq_ok {hash : String} :
    R.canonicalSha256 v = .ok hash ↔ v.finite = true ∧ hash = R.sha256 (canonicalJsonText v) := by
  simp only [canonicalSha256, Result.bind_eq_ok, ensure_eq_ok, Result.pure_eq_ok]
  constructor
  · rintro ⟨-, hFinite, hHash⟩
    exact ⟨hFinite, hHash.symm⟩
  · rintro ⟨hFinite, hHash⟩
    exact ⟨(), hFinite, hHash.symm⟩

end Runtime

variable {R : Runtime}

theorem length_snapshotId (orderId : String) (updatedAt : Timestamp) (rawHash : String) :
    8 ≤ (snapshotId R orderId updatedAt rawHash).length ∧
      (snapshotId R orderId updatedAt rawHash).length ≤ 64 := by
  unfold snapshotId
  rw [R.length_uuid5]
  decide

theorem required_eq_ok {payload : Entries} {key : String} {v : Decoded} :
    required payload key = .ok v ↔ payload.lookup key = some v := orRaise_eq_ok

theorem requiredMember_eq_ok {α : Type} {members : List α} {value : α → String}
    {payload : Entries} {key : String} {m : α} :
    requiredMember R members value payload key = .ok m ↔
      ∃ v, payload.lookup key = some v ∧ member members value (R.str v) = some m := by
  simp only [requiredMember, Result.bind_eq_ok, required_eq_ok, orRaise_eq_ok]

/-- A leg as it is read from a dictionary. -/
structure ReadsLeg (R : Runtime) (leg : Entries) (read : BrokerOrderLeg Decimal) : Prop where
  id : ∃ v, leg.lookup "id" = some v ∧ read.brokerOrderId = R.str v
  clientOrderId : read.clientOrderId = if (field leg "client_order_id").isNone then none
    else some (R.str (field leg "client_order_id"))
  side : read.side = R.str (fieldOr leg "side" (.str "sell"))
  orderType : read.orderType = R.str (fieldOr leg "type" (.str "limit"))
  status : read.status = R.str (fieldOr leg "status" (.str "new"))
  quantity : R.number (fieldOr leg "qty" (.str "0")) = some read.quantity
  filledQuantity : R.number (fieldOr leg "filled_qty" (.str "0")) = some read.filledQuantity
  limitPrice : R.price (field leg "limit_price") = some read.limitPrice
  stopPrice : R.price (field leg "stop_price") = some read.stopPrice
  money : ∀ price ∈ [read.limitPrice, read.stopPrice], ∀ p ∈ price, Risk.IsMoney (value p)

theorem validateLeg_eq_ok {leg : BrokerOrderLeg DecimalValue} {read : BrokerOrderLeg Decimal} :
    validateLeg leg = .ok read ↔ finiteDecimal leg.quantity = some read.quantity ∧
      finiteDecimal leg.filledQuantity = some read.filledQuantity ∧
      finiteOptional leg.limitPrice = some read.limitPrice ∧
      finiteOptional leg.stopPrice = some read.stopPrice ∧
      (∀ price ∈ [read.limitPrice, read.stopPrice], ∀ p ∈ price, Risk.IsMoney (value p)) ∧
      read.brokerOrderId = leg.brokerOrderId ∧ read.clientOrderId = leg.clientOrderId ∧
      read.side = leg.side ∧ read.orderType = leg.orderType ∧ read.status = leg.status := by
  simp only [validateLeg, Result.bind_eq_ok, orRaise_eq_ok, ensure_eq_ok, Result.pure_eq_ok]
  constructor
  · rintro ⟨quantity, hQuantity, filled, hFilled, limit, hLimit, stop, hStop, -, hMoney, rfl⟩
    exact ⟨hQuantity, hFilled, hLimit, hStop, hMoney, rfl, rfl, rfl, rfl, rfl⟩
  · rintro ⟨hQuantity, hFilled, hLimit, hStop, hMoney, hId, hClient, hSide, hType, hStatus⟩
    refine ⟨_, hQuantity, _, hFilled, _, hLimit, _, hStop, (), hMoney, ?_⟩
    rw [← hId, ← hClient, ← hSide, ← hType, ← hStatus]

theorem normalizeLeg_eq_ok {v : Decoded} {read : BrokerOrderLeg Decimal} :
    normalizeLeg R v = .ok read ↔ ∃ leg, v = .dict leg ∧ ReadsLeg R leg read := by
  cases v with
  | dict leg =>
    simp only [normalizeLeg, Result.bind_eq_ok, required_eq_ok, validateLeg_eq_ok]
    constructor
    · rintro ⟨id, hId, quantity, hQuantity, filled, hFilled, limit, hLimit, stop, hStop,
        hQuantity', hFilled', hLimit', hStop', hMoney, hOrderId, hClient, hSide, hType, hStatus⟩
      exact ⟨leg, rfl, ⟨id, hId, hOrderId⟩, hClient, hSide, hType, hStatus,
        Runtime.number_eq_some.mpr ⟨quantity, hQuantity, hQuantity'⟩,
        Runtime.number_eq_some.mpr ⟨filled, hFilled, hFilled'⟩,
        Runtime.price_eq_some.mpr ⟨limit, hLimit, hLimit'⟩,
        Runtime.price_eq_some.mpr ⟨stop, hStop, hStop'⟩, hMoney⟩
    · rintro ⟨_, hLeg, h⟩
      obtain rfl := Decoded.dict.inj hLeg
      obtain ⟨id, hId, hOrderId⟩ := h.id
      obtain ⟨quantity, hQuantity, hQuantity'⟩ := Runtime.number_eq_some.mp h.quantity
      obtain ⟨filled, hFilled, hFilled'⟩ := Runtime.number_eq_some.mp h.filledQuantity
      obtain ⟨limit, hLimit, hLimit'⟩ := Runtime.price_eq_some.mp h.limitPrice
      obtain ⟨stop, hStop, hStop'⟩ := Runtime.price_eq_some.mp h.stopPrice
      exact ⟨id, hId, quantity, hQuantity, filled, hFilled, limit, hLimit, stop, hStop,
        hQuantity', hFilled', hLimit', hStop', h.money, hOrderId, h.clientOrderId, h.side,
        h.orderType, h.status⟩
  | _ => simp [normalizeLeg]

/-- The elements that are read as legs. -/
def legItems : Decoded → Option (List Decoded)
  | .list legs => some legs
  | v => if v.truthy then none else some []

theorem normalizeLegs_eq_ok {v : Decoded} {legs : List (BrokerOrderLeg Decimal)} :
    normalizeLegs R v = .ok legs ↔ ∃ items, legItems v = some items ∧
      List.Forall₂ (fun item leg => normalizeLeg R item = .ok leg) items legs := by
  unfold normalizeLegs
  cases v with
  | list items =>
    simp only [legItems, Option.some.injEq, exists_eq_left']
    cases items with
    | nil => simp [Decoded.truthy, eq_comm]
    | cons item items => exact Effect.Fallible.mapM_eq_ok
  | _ =>
    simp only [legItems]
    split_ifs <;> simp [eq_comm]

theorem money_of_normalizeLegs {v : Decoded} {legs : List (BrokerOrderLeg Decimal)}
    (h : normalizeLegs R v = .ok legs) {leg : BrokerOrderLeg Decimal} (hLeg : leg ∈ legs) :
    ∀ price ∈ [leg.limitPrice, leg.stopPrice], ∀ p ∈ price, Risk.IsMoney (value p) := by
  obtain ⟨items, -, hReads⟩ := normalizeLegs_eq_ok.mp h
  have hMap := Effect.Fallible.mapM_eq_ok.mpr hReads
  obtain ⟨item, -, hRead⟩ := Effect.Fallible.mapM_ok_mem hMap hLeg
  obtain ⟨fields, -, hLeg⟩ := normalizeLeg_eq_ok.mp hRead
  exact hLeg.money

/-- An order as it is read from a dictionary. -/
structure ReadsOrder (R : Runtime) (payload : Entries) (observedAt : Timestamp)
    (read : SnapshotFields Decimal) : Prop where
  finite : (Decoded.dict payload).finite = true
  rawResponse : read.rawResponse = canonicalJsonText (.dict payload)
  rawResponseHash : read.rawResponseHash = R.sha256 read.rawResponse
  updatedAt : parseTimestamp R (field payload "updated_at") observedAt = .ok read.updatedAt
  legs : normalizeLegs R (field payload "legs") = .ok read.legs
  id : ∃ v, payload.lookup "id" = some v ∧ read.brokerOrderId = R.str v
  snapshotId : read.snapshotId =
    Execution.snapshotId R read.brokerOrderId read.updatedAt read.rawResponseHash
  clientOrderId : ∃ v, payload.lookup "client_order_id" = some v ∧ read.clientOrderId = R.str v
  symbol : ∃ v, payload.lookup "symbol" = some v ∧ read.symbol = R.str v
  side : ∃ v, payload.lookup "side" = some v ∧
    member orderSides OrderSide.value (R.str v) = some read.side
  orderType : ∃ v, payload.lookup "type" = some v ∧
    member orderTypes OrderType.value (R.str v) = some read.orderType
  timeInForce : read.timeInForce = R.str (fieldOr payload "time_in_force" (.str "day"))
  orderClass : read.orderClass = R.str (fieldOr payload "order_class" (.str "simple"))
  status : ∃ v, payload.lookup "status" = some v ∧
    member brokerOrderStatuses BrokerOrderStatus.value (R.str v) = some read.status
  quantity : ∃ v, payload.lookup "qty" = some v ∧ R.number v = some read.quantity
  filledQuantity : R.number (fieldOr payload "filled_qty" (.str "0")) = some read.filledQuantity
  filledAvgPrice : R.price (field payload "filled_avg_price") = some read.filledAvgPrice
  limitPrice : R.price (field payload "limit_price") = some read.limitPrice
  stopPrice : R.price (field payload "stop_price") = some read.stopPrice
  submittedAt : optionalTimestamp R (field payload "submitted_at") observedAt = .ok read.submittedAt

theorem validateSnapshot_eq_ok {fields : SnapshotFields Decimal} {s : BrokerOrderSnapshot Decimal} :
    validateSnapshot fields = .ok s ↔ s.toSnapshotFields = fields := by
  unfold validateSnapshot
  split_ifs with h
  · rw [Except.ok.injEq]
    constructor
    · rintro rfl
      rfl
    · rintro rfl
      rfl
  · simp only [false_iff]
    rintro rfl
    exact h s.valid

theorem normalizeOrder_eq_ok {payload : Entries} {observedAt : Timestamp}
    {s : BrokerOrderSnapshot Decimal} :
    normalizeOrder R payload observedAt = .ok s ↔
      ReadsOrder R payload observedAt s.toSnapshotFields := by
  simp only [normalizeOrder, constructSnapshot, Result.bind_eq_ok, required_eq_ok, requiredMember_eq_ok, orRaise_eq_ok,
    validateSnapshot_eq_ok, Runtime.canonicalSha256_eq_ok]
  constructor
  · rintro ⟨hash, ⟨hFinite, hHash⟩, updatedAt, hUpdated, legs, hLegs, id, hId, client, hClient, symbol,
      hSymbol, side, hSide, orderType, hType, status, hStatus, quantity, ⟨qty, hQty, hQuantity⟩,
      filled, hFilled, avg, hAvg, limit, hLimit, stop, hStop, submitted, hSubmitted, quantity',
      hQuantity', filled', hFilled', avg', hAvg', limit', hLimit', stop', hStop', hs⟩
    rw [hs]
    exact {
      finite := hFinite
      rawResponse := rfl
      rawResponseHash := hHash
      updatedAt := hUpdated
      legs := hLegs
      id := ⟨id, hId, rfl⟩
      snapshotId := rfl
      clientOrderId := ⟨client, hClient, rfl⟩
      symbol := ⟨symbol, hSymbol, rfl⟩
      side := hSide
      orderType := hType
      timeInForce := rfl
      orderClass := rfl
      status := hStatus
      quantity := ⟨qty, hQty, Runtime.number_eq_some.mpr ⟨quantity, hQuantity, hQuantity'⟩⟩
      filledQuantity := Runtime.number_eq_some.mpr ⟨filled, hFilled, hFilled'⟩
      filledAvgPrice := Runtime.price_eq_some.mpr ⟨avg, hAvg, hAvg'⟩
      limitPrice := Runtime.price_eq_some.mpr ⟨limit, hLimit, hLimit'⟩
      stopPrice := Runtime.price_eq_some.mpr ⟨stop, hStop, hStop'⟩
      submittedAt := hSubmitted }
  · intro h
    obtain ⟨id, hId, hOrderId⟩ := h.id
    obtain ⟨client, hClient, hClientId⟩ := h.clientOrderId
    obtain ⟨symbol, hSymbol, hTicker⟩ := h.symbol
    obtain ⟨qty, hQty, hNumber⟩ := h.quantity
    obtain ⟨quantity, hQuantity, hQuantity'⟩ := Runtime.number_eq_some.mp hNumber
    obtain ⟨filled, hFilled, hFilled'⟩ := Runtime.number_eq_some.mp h.filledQuantity
    obtain ⟨avg, hAvg, hAvg'⟩ := Runtime.price_eq_some.mp h.filledAvgPrice
    obtain ⟨limit, hLimit, hLimit'⟩ := Runtime.price_eq_some.mp h.limitPrice
    obtain ⟨stop, hStop, hStop'⟩ := Runtime.price_eq_some.mp h.stopPrice
    refine ⟨_, ⟨h.finite, rfl⟩, _, h.updatedAt, _, h.legs, id, hId, client, hClient, symbol, hSymbol,
      _, h.side, _, h.orderType, _, h.status, quantity, ⟨qty, hQty, hQuantity⟩, filled, hFilled, avg,
      hAvg, limit, hLimit, stop, hStop, _, h.submittedAt, _, hQuantity', _, hFilled', _, hAvg', _,
      hLimit', _, hStop', ?_⟩
    rw [← h.rawResponse, ← h.rawResponseHash, ← hOrderId, ← hClientId, ← hTicker, ← h.snapshotId,
      ← h.timeInForce, ← h.orderClass]

end Daybreak.Execution
