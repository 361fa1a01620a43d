import Daybreak.Execution.Ledger

/-! The reconciliation of a stored command with the broker, and its comparison
with the one the service makes. A report is about four fields of the order; the
service compares the terms of the order and the legs of a bracket as well. -/

namespace Daybreak.Execution

open Numeric DecimalArithmetic Effect

variable {β D : Type} [DecimalArithmetic D]

/-! ### Reports -/

structure BrokerPositionSnapshot (D : Type) where
  symbol : String
  quantity : D
  averageEntryPrice : Option D
  observedAt : Timestamp
  rawResponseHash : String

/-- `get_position`; no position is not an error. -/
abbrev PositionSource (β D : Type) :=
  String → β → Result (Option (BrokerPositionSnapshot D)) × β

structure ReportFields (D : Type) [DecimalArithmetic D] where
  executionId : String
  clientOrderId : String
  checkedAt : Timestamp
  matched : Bool
  mismatchCodes : List String
  brokerOrder : Option (BrokerOrderSnapshot D)
  brokerPosition : Option (BrokerPositionSnapshot D)

structure ReconciliationReport (D : Type) [DecimalArithmetic D] extends ReportFields D where
  reportId : String
  reportHash : String
  hash_valid : Risk.isSha256Hex reportHash = true

/-- SHA-256 of the fields in canonical form, and the version-5 UUID of an
execution, an order id and that hash. -/
structure ReportDerivations (D : Type) [DecimalArithmetic D] where
  reportHash : ReportFields D → String
  reportId : String → String → String → String

/-- `ReconciliationReport.model_validate` -/
def ReportFields.build (V : ReportDerivations D) (fields : ReportFields D) :
    Result (ReconciliationReport D) :=
  let reportHash := V.reportHash fields
  let reportId := V.reportId fields.executionId fields.clientOrderId reportHash
  if h : Risk.isSha256Hex reportHash = true then .ok ⟨fields, reportId, reportHash, h⟩
  else .error (.validationError "ReconciliationReport")

/-! ### Reconciliation -/

/-- The code of a check that fails. -/
def mismatchCode (differs : Prop) [Decidable differs] (code : String) : List String :=
  if differs then [code] else []

/-- The codes of an order that was found. -/
def orderMismatches (command : BrokerOrderCommand D) (order : BrokerOrderSnapshot D) :
    List String :=
  mismatchCode (order.symbol ≠ command.symbol) "SYMBOL_MISMATCH" ++
    mismatchCode (order.side ≠ command.side) "SIDE_MISMATCH" ++
    mismatchCode (value order.quantity ≠ command.quantity) "QUANTITY_MISMATCH" ++
    mismatchCode (order.clientOrderId ≠ command.clientOrderId) "CLIENT_ORDER_ID_MISMATCH"

/-- The order a lookup found, and the code of one that found none. -/
def lookupOutcome : Result (BrokerOrderSnapshot D) →
    Result (Option (BrokerOrderSnapshot D) × List String)
  | .ok order => .ok (some order, [])
  | .error .brokerNotFound => .ok (none, ["BROKER_ORDER_NOT_FOUND"])
  | .error (.brokerTransportError _) => .ok (none, ["BROKER_LOOKUP_FAILED"])
  | .error e => .error e

def reconcileCommand (V : ReportDerivations D) (B : Broker β D) (getPosition : PositionSource β D)
    (executionId : String) (command : BrokerOrderCommand D) (checkedAt : Timestamp) :
    Program β PyError (ReconciliationReport D) := do
  let answer ← Program.attempt
    (Program.step (B.getOrderByClientOrderId command.clientOrderId))
  let outcome ← Program.ofExcept (lookupOutcome answer)
  let position ← Program.step (getPosition command.symbol)
  let codes := outcome.2 ++ outcome.1.elim [] (orderMismatches command)
  Program.ofExcept (ReportFields.build V {
    executionId, clientOrderId := command.clientOrderId, checkedAt
    matched := codes.isEmpty, mismatchCodes := codes
    brokerOrder := outcome.1, brokerPosition := position })

variable {V : ReportDerivations D} {B : Broker β D} {getPosition : PositionSource β D}
  {executionId : String} {command : BrokerOrderCommand D} {order : BrokerOrderSnapshot D}
  {checkedAt : Timestamp} {report : ReconciliationReport D} {b b' : β}

theorem build_fields {fields : ReportFields D} (h : fields.build V = .ok report) :
    report.toReportFields = fields := by
  unfold ReportFields.build at h
  simp only at h
  split_ifs at h
  rw [← Except.ok.inj h]

/-- What a report says of an order that was found. -/
theorem reconcile_found
    (hFound : (B.getOrderByClientOrderId command.clientOrderId b).1 = .ok order)
    (h : (reconcileCommand V B getPosition executionId command checkedAt).exec b =
      (.ok report, b')) :
    report.brokerOrder = some order ∧ report.mismatchCodes = orderMismatches command order ∧
      report.matched = (orderMismatches command order).isEmpty := by
  obtain ⟨answer, b₁, hAnswer, h⟩ := Program.exec_bind_ok.mp h
  rw [Program.exec_attempt, Program.exec_step, hFound] at hAnswer
  obtain ⟨hAnswer, -⟩ := Prod.mk.inj hAnswer
  obtain rfl := Except.ok.inj hAnswer
  obtain ⟨outcome, b₂, hOutcome, h⟩ := Program.exec_bind_ok.mp h
  rw [Program.exec_ofExcept] at hOutcome
  obtain rfl := Except.ok.inj (Prod.mk.inj hOutcome).1
  obtain ⟨position, b₃, -, h⟩ := Program.exec_bind_ok.mp h
  rw [Program.exec_ofExcept] at h
  rw [build_fields (Prod.mk.inj h).1]
  exact ⟨rfl, rfl, rfl⟩

/-! ### The two comparisons -/

/-- The fields that both comparisons read. -/
structure SameIdentity (command : BrokerOrderCommand D) (order : BrokerOrderSnapshot D) :
    Prop where
  clientOrderId : command.clientOrderId = order.clientOrderId
  symbol : command.symbol = order.symbol
  side : command.side = order.side
  quantity : (command.quantity : ℚ) = value order.quantity

/-- The order has a sell leg of each kind at the prices of the bracket, and no other. -/
structure LegsAgree (command : BrokerOrderCommand D) (order : BrokerOrderSnapshot D) : Prop where
  two : order.legs.length = 2
  takeProfit : (bracketLegs order ["limit"] (·.limitPrice) command.takeProfitLimitPrice
    command.quantity).length = 1
  stopLoss : (bracketLegs order ["stop", "stop_limit"] (·.stopPrice) command.stopLossStopPrice
    command.quantity).length = 1

/-- What reconciliation leaves out: the kind of the order, its prices and its legs. -/
structure SameTerms (command : BrokerOrderCommand D) (order : BrokerOrderSnapshot D) :
    Prop where
  orderType : command.orderType = order.orderType
  timeInForce : command.timeInForce.value = order.timeInForce
  orderClass : command.orderClass.value = order.orderClass
  limitPrice : ∀ p ∈ command.limitPrice, order.limitPrice.map value = some (value p)
  stopPrice : ∀ p ∈ command.stopPrice, order.stopPrice.map value = some (value p)
  legs : command.orderClass = .bracket → LegsAgree command order

theorem matches_iff : Matches command order ↔
    SameIdentity command order ∧ SameTerms command order := by
  constructor
  · rintro ⟨⟨hId, hSymbol, hSide, hType, hForce, hClass, hQuantity, hLimit, hStop⟩, hLegs⟩
    refine ⟨⟨hId, hSymbol, hSide, hQuantity⟩, ⟨hType, hForce, hClass, hLimit, hStop, ?_⟩⟩
    intro hBracket
    obtain ⟨hTwo, hTarget, hLoss⟩ := hLegs hBracket
    exact ⟨hTwo, hTarget, hLoss⟩
  · rintro ⟨hId, hTerms⟩
    refine ⟨⟨hId.clientOrderId, hId.symbol, hId.side, hTerms.orderType, hTerms.timeInForce,
      hTerms.orderClass, hId.quantity, hTerms.limitPrice, hTerms.stopPrice⟩, ?_⟩
    intro hBracket
    have hLegs := hTerms.legs hBracket
    exact ⟨hLegs.two, hLegs.takeProfit, hLegs.stopLoss⟩

@[simp] theorem mismatchCode_eq_nil {differs : Prop} [Decidable differs] {code : String} :
    mismatchCode differs code = [] ↔ ¬ differs := by
  unfold mismatchCode
  split_ifs with h <;> simp [h]

theorem orderMismatches_eq_nil :
    orderMismatches command order = [] ↔ SameIdentity command order := by
  simp only [orderMismatches, List.append_eq_nil_iff, mismatchCode_eq_nil, not_not]
  constructor
  · rintro ⟨⟨⟨hSymbol, hSide⟩, hQuantity⟩, hId⟩
    exact ⟨hId.symm, hSymbol.symm, hSide.symm, hQuantity.symm⟩
  · intro h
    exact ⟨⟨⟨h.symbol.symm, h.side.symm⟩, h.quantity.symm⟩, h.clientOrderId.symm⟩

/-- A report of a found order agrees with the service exactly when the order,
unless it differs in its identity, has the terms and the legs of the command. -/
theorem reconcile_agrees_iff (V : ReportDerivations D) (B : Broker β D)
    (getPosition : PositionSource β D) (executionId : String) (command : BrokerOrderCommand D)
    (order : BrokerOrderSnapshot D) (checkedAt : Timestamp) (report : ReconciliationReport D)
    (b b' : β) (hFound : (B.getOrderByClientOrderId command.clientOrderId b).1 = .ok order)
    (h : (reconcileCommand V B getPosition executionId command checkedAt).exec b =
      (.ok report, b')) :
    (report.matched = true → Matches command order) ↔
      (SameIdentity command order → SameTerms command order) := by
  obtain ⟨-, -, hMatched⟩ := reconcile_found hFound h
  rw [hMatched, List.isEmpty_iff, orderMismatches_eq_nil, matches_iff]
  exact ⟨fun hAgree hId => (hAgree hId).2, fun hTerms hId => ⟨hId, hTerms hId⟩⟩

/-! ### A bracket without its stop -/

def sampleOrder : BrokerOrderSnapshot Decimal :=
  (snapshotFor sampleEntry .new 0 "broker-order-1").get (by decide +kernel)

/-- The sample order with its take-profit leg alone. -/
def unprotectedOrder : BrokerOrderSnapshot Decimal :=
  ⟨{ sampleOrder.toSnapshotFields with legs := sampleOrder.legs.take 1 }, by decide +kernel⟩

def sampleReports : ReportDerivations Decimal where
  reportHash _ := "cccccccccccccccccccccccccccccccccccccccccccccccccccccccccccccccc"
  reportId executionId clientOrderId reportHash := executionId ++ clientOrderId ++ reportHash

/-- The sample entry reconciled with a broker that has one order and no position. -/
def reconcileSample (order : BrokerOrderSnapshot Decimal) :
    Result (ReconciliationReport Decimal) × List (BrokerOrderSnapshot Decimal) :=
  (reconcileCommand sampleReports (ledger Decimal true) (fun _ orders => (.ok none, orders))
    sampleExecution.executionId sampleEntry sampleExecution.requestedAt).exec [order]

theorem sampleOrder_reconciled :
    ∃ report, (reconcileSample sampleOrder).1 = .ok report ∧
      report.matched = true ∧ Matches sampleEntry sampleOrder := by
  have hFound : ((ledger Decimal true).getOrderByClientOrderId sampleEntry.clientOrderId
      [sampleOrder]).1 = .ok sampleOrder := by
    simp only [ledger, find]
    rw [List.find?_cons_of_pos (by decide +kernel)]
  have hReport : ∃ report, (reconcileSample sampleOrder).1 = .ok report ∧
      report.matched = true := by decide +kernel
  have hTerms : SameTerms sampleEntry sampleOrder := (matches_iff.mp (by decide +kernel)).2
  obtain ⟨report, hReport, hMatched⟩ := hReport
  exact ⟨report, hReport, hMatched, (reconcile_agrees_iff _ _ _ _ _ _ _ _ _ _ hFound
    (Prod.ext hReport rfl)).mpr (fun _ => hTerms) hMatched⟩

theorem unprotectedOrder_matched :
    ((ledger Decimal true).getOrderByClientOrderId sampleEntry.clientOrderId
      [unprotectedOrder]).1 = .ok unprotectedOrder ∧
    (∃ report, (reconcileSample unprotectedOrder).1 = .ok report ∧ report.matched = true) ∧
      ¬ Matches sampleEntry unprotectedOrder := by
  refine ⟨?_, by decide +kernel, by decide +kernel⟩
  simp only [ledger, find]
  rw [List.find?_cons_of_pos (by decide +kernel)]

end Daybreak.Execution
