import Daybreak.Execution.Broker
import Daybreak.Execution.OrderBuilder
import Daybreak.Risk.Sizing

/-! The broker of the repository's tests, an order list, with one switch: when it
is unreachable, submissions are accepted but their answer is lost, and
cancellations fail. It meets the contract of a broker that finds every order it
has accepted. With it come an approved execution request and hashes to run the
service on. -/

namespace Daybreak.Execution

open Numeric DecimalArithmetic Effect Risk

variable {D : Type} [DecimalArithmetic D]

/-! ### Orders -/

def legFor (command : BrokerOrderCommand D) (id orderType : String) (limit stop : Option D) :
    BrokerOrderLeg D where
  brokerOrderId := id
  clientOrderId := none
  side := "sell"
  orderType := orderType
  status := "held"
  quantity := ofInt command.quantity
  filledQuantity := ofInt 0
  limitPrice := limit
  stopPrice := stop

def legsFor (command : BrokerOrderCommand D) (id : String) : List (BrokerOrderLeg D) :=
  match command.orderClass with
  | .bracket => [
      legFor command (id ++ "-tp") "limit" command.takeProfitLimitPrice none,
      legFor command (id ++ "-sl") "stop" none command.stopLossStopPrice]
  | .simple => []

/-- The fields of `snapshot_for`, an order that echoes its command. -/
def snapshotFields (command : BrokerOrderCommand D) (status : BrokerOrderStatus) (filled : ℤ)
    (id : String) : SnapshotFields D where
  snapshotId := "snapshot-" ++ id
  brokerOrderId := id
  clientOrderId := command.clientOrderId
  symbol := command.symbol
  side := command.side
  orderType := command.orderType
  timeInForce := command.timeInForce.value
  orderClass := command.orderClass.value
  status := status
  quantity := ofInt command.quantity
  filledQuantity := ofInt filled
  filledAvgPrice := none
  limitPrice := command.limitPrice
  stopPrice := command.stopPrice
  submittedAt := none
  updatedAt := 1785763801100000
  legs := legsFor command id
  rawResponseHash := "bbbbbbbbbbbbbbbbbbbbbbbbbbbbbbbbbbbbbbbbbbbbbbbbbbbbbbbbbbbbbbbb"
  rawResponse := ""

def snapshotFor (command : BrokerOrderCommand D) (status : BrokerOrderStatus) (filled : ℤ)
    (id : String) : Option (BrokerOrderSnapshot D) :=
  if h : (snapshotFields command status filled id).Valid then some ⟨_, h⟩ else none

def BrokerOrderSnapshot.withStatus (order : BrokerOrderSnapshot D) (status : BrokerOrderStatus) :
    BrokerOrderSnapshot D :=
  ⟨{ order.toSnapshotFields with status }, order.valid⟩

theorem snapshotFor_fields {command : BrokerOrderCommand D} {status : BrokerOrderStatus}
    {filled : ℤ} {id : String} {order : BrokerOrderSnapshot D}
    (h : snapshotFor command status filled id = some order) :
    order.toSnapshotFields = snapshotFields command status filled id := by
  unfold snapshotFor at h
  split_ifs at h
  rw [← Option.some.inj h]

/-! ### The broker -/

def find (p : BrokerOrderSnapshot D → Bool) (orders : List (BrokerOrderSnapshot D)) :
    Result (BrokerOrderSnapshot D) :=
  match orders.find? p with
  | some order => .ok order
  | none => .error .brokerNotFound

def unreachable {α : Type} : Result α := .error (.brokerTransportError true)

def ledger (D : Type) [DecimalArithmetic D] (reachable : Bool) :
    Broker (List (BrokerOrderSnapshot D)) D where
  getOrderByClientOrderId id orders := (find (·.clientOrderId = id) orders, orders)
  submitOrder command orders :=
    match snapshotFor command .new 0 ("broker-order-" ++ toString (orders.length + 1)) with
    | some order => (if reachable then .ok order else unreachable, order :: orders)
    | none => (.error (.brokerTransportError false), orders)
  cancelOrder id orders :=
    if reachable then
      (.ok (), orders.map fun order =>
        if order.brokerOrderId = id then order.withStatus .canceled else order)
    else (unreachable, orders)
  getOrder id orders := (find (·.brokerOrderId = id) orders, orders)

theorem find_notFound {p : BrokerOrderSnapshot D → Bool} {orders : List (BrokerOrderSnapshot D)}
    (h : find p orders = .error .brokerNotFound) : ∀ order ∈ orders, ¬ p order := by
  unfold find at h
  split at h
  · cases h
  · next hNone => exact List.find?_eq_none.mp hNone

def acceptedIds (orders : List (BrokerOrderSnapshot D)) : List String :=
  orders.map (·.clientOrderId)

theorem ledger_findsAccepted (reachable : Bool) :
    (ledger D reachable).FindsAccepted acceptedIds where
  lookup_finds id orders orders' h := by
    obtain ⟨hFind, rfl⟩ := Prod.mk.inj h
    rintro hAccepted
    obtain ⟨order, hOrder, hId⟩ := List.mem_map.mp hAccepted
    exact find_notFound hFind order hOrder (decide_eq_true hId)
  lookup_frame _ _ := rfl
  submit_frame command orders := by
    simp only [ledger]
    split
    · next order hOrder =>
      right
      have hId : order.clientOrderId = command.clientOrderId := by
        rw [snapshotFor_fields hOrder]
        rfl
      rw [acceptedIds, List.map_cons, hId]
      rfl
    · exact .inl rfl
  cancel_frame id orders := by
    cases reachable with
    | true =>
      simp only [ledger, if_true, acceptedIds, List.map_map]
      refine List.map_congr_left fun order _ => ?_
      simp only [Function.comp_apply]
      split_ifs <;> rfl
    | false => rfl
  read_frame _ _ := rfl

/-! ### A request to run on -/

def sampleDecision : RiskDecision Decimal :=
  (sizePosition (sampleCanonical Decimal) (sampleRequest Decimal)).toOption.get (by decide +kernel)

/-- The execution of the sample decision, half a second after it was made. -/
def sampleExecution : ExecutionRequest Decimal where
  executionId := "execution-0001"
  runId := sampleDecision.runId
  tradingDate := sampleDecision.tradingDate
  requestedAt := 1785763801000000
  submissionCutoffTimestamp := 1785763806000000
  riskDecision := sampleDecision
  policy := {}
  configurationHash := sampleDecision.configurationHash

/-- Hashes for evaluation; results are told apart by their events and reasons. -/
def sampleDerivations : Derivations Decimal where
  commandId _ clientOrderId := "command-" ++ clientOrderId
  commandHash _ := ""
  eventHash _ := ""
  requestHash _ := ""
  resultHash _ fields events _ _ :=
    String.intercalate "," (toString events.length :: fields.rejectionReasons.map (·.value))
  resultId executionId resultHash := executionId ++ resultHash
  validationText _ := ""
  decimalText _ := ""

/-- The bracket entry of the sample execution. -/
def sampleEntry : BrokerOrderCommand Decimal :=
  (buildEntryCommand sampleDerivations sampleExecution sampleExecution.requestedAt).toOption.get
    (by decide +kernel)

end Daybreak.Execution
