import Daybreak.Orchestration.Flatten

/-! The broker operations of a session over Alpaca's HTTP interface. The interface is
any state machine: what happens at the market before an operation, what a request
for orders or for a position answers, and what a deletion does. What Daybreak owns
is reconstructed from the orders that carry the prefix of the day, their nested legs
and the orders that name them as parent. -/

namespace Daybreak.Orchestration

open Numeric DecimalArithmetic Effect

variable {β D : Type} [DecimalArithmetic D]

/-! ### Answers -/

/-- A field of a JSON object that is read as a text. -/
inductive JsonText where
  | absent
  | null
  | text (s : String)
  deriving DecidableEq, Repr

/-- `str(data.get(key, ""))` -/
def JsonText.str : JsonText → String
  | .absent => ""
  | .null => "None"
  | .text s => s

/-- `data.get(key)`, when it is true. -/
def JsonText.truthy : JsonText → Option String
  | .absent => none
  | .null => none
  | .text s => if s = "" then none else some s

/-- A field that is read as a number: nothing, a number, or a text that spells none. -/
inductive JsonNumber (D : Type) where
  | absent
  | number (x : D)
  | garbage

def invalidOperation : Exc := .other "InvalidOperation" "[<class 'decimal.ConversionSyntax'>]"

def JsonNumber.getD (default : D) : JsonNumber D → Except Exc D
  | .absent => .ok default
  | .number x => .ok x
  | .garbage => .error invalidOperation

structure OrderFields (D : Type) where
  id : JsonText
  clientOrderId : JsonText
  parentOrderId : JsonText
  symbol : JsonText
  side : JsonText
  filledQty : JsonNumber D

/-- An order with its legs; one that is not an object is none. -/
structure OrderJson (D : Type) extends OrderFields D where
  legs : List (Option (OrderFields D))

structure PositionJson (D : Type) where
  symbol : JsonText
  qty : JsonNumber D
  avgEntryPrice : JsonNumber D

inductive JsonTime where
  | absent
  | time (t : Timestamp)
  | garbage

structure CloseJson where
  id : JsonText
  clientOrderId : JsonText
  submittedAt : JsonTime

inductive OrderStatus where
  | all | open
  deriving DecidableEq, Repr

/-- The interface; an answer of none is not of the type that is expected. -/
structure AlpacaApi (β D : Type) where
  moves : β → β
  orders : β → OrderStatus → Timestamp → Except Exc (Option (List (Option (OrderJson D))))
  position : β → String → Except Exc (Option (PositionJson D))
  deleteOrder : String → β → Except Exc Unit × β
  deletePosition : String → D → β → Except Exc (Option CloseJson) × β
  wallClock : β → Timestamp

namespace AlpacaPaperOperations

/-! ### Orders -/

/-- `_prefix` -/
def orderPrefix (plan : SessionPlan) : String := "DB-" ++ plan.tradingDate.compact ++ "-"

/-- `text.startswith(start)` -/
def startsWith (text start : String) : Bool := start.toList.isPrefixOf text.toList

/-- `_orders` -/
def listOrders (api : AlpacaApi β D) (b : β) (status : OrderStatus) (after : Timestamp) :
    Except Exc (List (OrderJson D)) := do
  match ← api.orders b status after with
  | none => throw (.alpacaOperationsError "orders response was not an array" false none)
  | some items =>
    if items.all (·.isSome) then return items.reduceOption
    else throw (.alpacaOperationsError "order entry was not an object" false none)

/-- The legs of an order that are objects. -/
def OrderJson.objects (order : OrderJson D) : List (OrderFields D) := order.legs.reduceOption

def legIds (order : OrderJson D) : List String :=
  (OrderJson.objects order).filterMap (·.id.truthy)

/-- The orders that carry the prefix. -/
def prefixedIds (start : String) (orders : List (OrderJson D)) : List String :=
  orders.filterMap fun order =>
    if startsWith order.clientOrderId.str start then order.id.truthy else none

/-- Every order that is owned so far adds its legs. -/
def addLegs (owned : List String) (order : OrderJson D) : List String :=
  if order.id.str ∈ owned then owned ++ legIds order else owned

/-- An order whose parent is owned so far is added. -/
def addChild (owned : List String) (order : OrderJson D) : List String :=
  match order.id.truthy with
  | none => owned
  | some id => if order.parentOrderId.str ∈ owned then owned ++ [id] else owned

def ownedIds (start : String) (orders : List (OrderJson D)) : List String :=
  orders.foldl addChild (orders.foldl addLegs (prefixedIds start orders))

/-- The net quantities and the orders that were counted. -/
structure Netting (D : Type) where
  net : Dict String D
  seen : List String

/-- `apply_fill` -/
def applyFill (owned : List String) (parentSymbol : String) (netting : Netting D)
    (order : OrderFields D) : Except Exc (Netting D) :=
  let id := order.id.str
  if id = "" ∨ id ∈ netting.seen ∨ id ∉ owned then .ok netting
  else
    let seen := id :: netting.seen
    let symbol := order.symbol.truthy.getD parentSymbol
    if symbol = "" then .ok { netting with seen }
    else do
      let filled ← order.filledQty.getD (ofInt 0)
      let before := (netting.net.lookup symbol).getD (ofInt 0)
      return {
        net := netting.net.insert symbol
          (add before (if order.side.str = "buy" then filled else neg filled))
        seen }

/-- An order is counted, and then its legs. -/
def applyOrder (owned : List String) (netting : Netting D) (order : OrderJson D) :
    Except Exc (Netting D) := do
  let netting ← applyFill owned "" netting order.toOrderFields
  (OrderJson.objects order).foldlM (applyFill owned order.symbol.str) netting

/-- `ManagedPositionTarget` of a positive net quantity. -/
def netTarget (net : Dict String D) (symbol : String) :
    Except Exc (Option (ManagedPositionTarget D)) :=
  let quantity := (net.lookup symbol).getD (ofInt 0)
  if h : 0 < value quantity then
    if hCanonical : isCanonicalTicker symbol = true then
      .ok (some ⟨symbol, quantity, .brokerOrderReconstruction, hCanonical, h⟩)
    else .error (validationError "ManagedPositionTarget")
  else .ok none

/-- The targets of a list of orders. -/
def reconstruct (start : String) (orders : List (OrderJson D)) :
    Except Exc (List (ManagedPositionTarget D)) := do
  let netting ← orders.foldlM (applyOrder (ownedIds start orders)) ⟨∅, []⟩
  let targets ← (netting.net.keys.insertionSort (· ≤ ·)).mapM (netTarget netting.net)
  return targets.reduceOption

/-- `discover_daybreak_targets` -/
def discoverDaybreakTargets (api : AlpacaApi β D) (plan : SessionPlan) (b : β) :
    Except Exc (List (ManagedPositionTarget D)) := do
  let orders ← listOrders api b .all plan.recorderWarmupAt
  reconstruct (orderPrefix plan) orders

/-! ### Cancellation -/

/-- The ids that `cancel_daybreak_orders` collects: it takes the legs of the orders
that carry the prefix only. -/
def cancelableIds (start : String) (orders : List (OrderJson D)) : List String :=
  let owned := orders.flatMap fun order =>
    if startsWith order.clientOrderId.str start then order.id.truthy.toList ++ legIds order else []
  orders.foldl addChild owned

def isOwned (start : String) (owned : List String) (order : OrderJson D) : Bool :=
  order.id.str ∈ owned || startsWith order.clientOrderId.str start ||
    order.parentOrderId.str ∈ owned

/-- Delete the owned orders one by one, and count them. -/
def cancelOwned (api : AlpacaApi β D) (start : String) (owned : List String) :
    List (OrderJson D) → ℕ → β → Except Exc ℕ × β
  | [], count, b => (.ok count, b)
  | order :: orders, count, b =>
    if isOwned start owned order then
      if order.id.str = "" then
        (.error (.alpacaOperationsError "Daybreak order missing broker id" false none), b)
      else
        match api.deleteOrder order.id.str b with
        | (.ok (), b') => cancelOwned api start owned orders (count + 1) b'
        | (.error e, b') => (.error e, b')
    else cancelOwned api start owned orders count b

/-- `cancel_daybreak_orders` -/
def cancelDaybreakOrders (api : AlpacaApi β D) (plan : SessionPlan) (b : β) :
    Except Exc ℕ × β :=
  match listOrders api b .all plan.recorderWarmupAt with
  | .error e => (.error e, b)
  | .ok all =>
    match listOrders api b .open plan.recorderWarmupAt with
    | .error e => (.error e, b)
    | .ok orders =>
      cancelOwned api (orderPrefix plan) (cancelableIds (orderPrefix plan) all) orders 0 b

/-! ### Positions -/

/-- `SessionPosition` of what one request answered, capped by the target. -/
def readPosition (target : ManagedPositionTarget D) (raw : PositionJson D) :
    Except Exc (Option (SessionPosition D)) := do
  let qty ← raw.qty.getD (ofInt 0)
  let quantity := pyMin (abs qty) target.quantity
  if h : value quantity ≤ 0 then return none
  else
    if raw.symbol = .absent then throw (.other "KeyError" "'symbol'")
    let average ← match raw.avgEntryPrice with
      | .absent => pure none
      | .number x => pure (some x)
      | .garbage => throw invalidOperation
    if hValid : isCanonicalTicker raw.symbol.str = true ∧ ∀ price ∈ average, 0 < value price then
      return some ⟨raw.symbol.str, quantity, average, hValid.1, not_le.mp h, hValid.2⟩
    else throw (validationError "SessionPosition")

/-- The position of one target; there is none where Alpaca answers 404. -/
def listPosition (api : AlpacaApi β D) (b : β) (target : ManagedPositionTarget D) :
    Except Exc (Option (SessionPosition D)) :=
  match api.position b target.symbol with
  | .error (.alpacaOperationsError message transient status) =>
    if status = some 404 then .ok none
    else .error (.alpacaOperationsError message transient status)
  | .error e => .error e
  | .ok none => .error (.alpacaOperationsError "position response was not an object" false none)
  | .ok (some raw) => readPosition target raw

/-- `list_positions` -/
def listPositions (api : AlpacaApi β D) (targets : List (ManagedPositionTarget D)) (b : β) :
    Except Exc (List (SessionPosition D)) := do
  let positions ← (targets.insertionSort (·.symbol ≤ ·.symbol)).mapM (listPosition api b)
  return positions.reduceOption

/-- `_parse_timestamp` -/
def parseTimestamp (now : Timestamp) : JsonTime → Except Exc Timestamp
  | .absent => .ok now
  | .time t => .ok t
  | .garbage => .error (.other "ValueError" "Invalid isoformat string")

/-- `FlattenOrder` of what a close answered. -/
def closeOrder (now : Timestamp) (position : SessionPosition D) :
    Option CloseJson → Except Exc (FlattenOrder D)
  | none => .error
      (.alpacaOperationsError "close-position response was not an object" false none)
  | some data => do
    let submittedAt ← parseTimestamp now data.submittedAt
    if data.id = .absent then throw (.other "KeyError" "'id'")
    return {
      symbol := position.symbol
      quantity := position.quantity
      brokerOrderId := data.id.str
      clientOrderId := match data.clientOrderId with
        | .text s => some s
        | _ => none
      submittedAt := submittedAt }

/-- `close_position` -/
def closePosition (api : AlpacaApi β D) (position : SessionPosition D) (b : β) :
    Except Exc (FlattenOrder D) × β :=
  match api.deletePosition position.symbol position.quantity b with
  | (.error e, b') => (.error e, b')
  | (.ok data, b') => (closeOrder (api.wallClock b') position data, b')

end AlpacaPaperOperations

open AlpacaPaperOperations in
/-- The operations of a flatten run; before each the market moves. -/
def AlpacaApi.operations (api : AlpacaApi β D) : SessionBrokerOperations β D where
  discoverDaybreakTargets plan b :=
    (discoverDaybreakTargets api plan (api.moves b), api.moves b)
  cancelDaybreakOrders plan b := cancelDaybreakOrders api plan (api.moves b)
  listPositions targets b := (listPositions api targets (api.moves b), api.moves b)
  closePosition position b := closePosition api position (api.moves b)

end Daybreak.Orchestration
