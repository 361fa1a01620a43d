import Daybreak.Risk.Engine

/-! The records of the execution package. A command and a snapshot carry the
proof that their validators accepted them, so the broker and the repository
never hold a malformed one. Python compares records with numeric decimal
equality, which is equality of their `numeric` forms. -/

namespace Daybreak.Execution

open Numeric DecimalArithmetic Risk

inductive ExecutionMode where
  | paper
  deriving DecidableEq, Repr

inductive OrderSide where
  | buy | sell
  deriving DecidableEq, Repr

inductive OrderType where
  | limit | stop
  deriving DecidableEq, Repr

inductive TimeInForce where
  | day
  deriving DecidableEq, Repr

inductive OrderClass where
  | bracket | simple
  deriving DecidableEq, Repr

inductive BrokerOrderStatus where
  | accepted | acceptedForBidding | pendingNew | new | partiallyFilled | filled | doneForDay
  | canceled | expired | replaced | pendingCancel | pendingReplace | stopped | rejected
  | suspended | calculated
  deriving DecidableEq, Repr

inductive ExecutionOutcome where
  | submitted | existingReconciled | partialFillProtected | rejected | reconciliationRequired
  deriving DecidableEq, Repr

inductive ExecutionEventType where
  | requestAccepted | commandPersisted | brokerLookup | submitStarted | brokerAcknowledged
  | tradeUpdate | cancelRequested | protectiveStopSubmitStarted | protectiveStopAcknowledged
  | rejected | reconciliationRequired
  deriving DecidableEq, Repr

inductive ExecutionRejectionCode where
  | paperModeRequired | liveEndpointForbidden | riskDecisionNotApproved | reservationMissing
  | reservationExpired | submissionCutoffExceeded | requestStale | invalidOrderGeometry
  | commandIdentityConflict | brokerOrderMismatch | brokerRejected | brokerTimeoutUnknownState
  | brokerTransportFailure | partialFillProtectionFailed | positionReconciliationFailure
  deriving DecidableEq, Repr

def TimeInForce.value : TimeInForce → String
  | .day => "day"

def OrderClass.value : OrderClass → String
  | .bracket => "bracket"
  | .simple => "simple"

def ExecutionRejectionCode.value : ExecutionRejectionCode → String
  | .paperModeRequired => "PAPER_MODE_REQUIRED"
  | .liveEndpointForbidden => "LIVE_ENDPOINT_FORBIDDEN"
  | .riskDecisionNotApproved => "RISK_DECISION_NOT_APPROVED"
  | .reservationMissing => "RESERVATION_MISSING"
  | .reservationExpired => "RESERVATION_EXPIRED"
  | .submissionCutoffExceeded => "SUBMISSION_CUTOFF_EXCEEDED"
  | .requestStale => "REQUEST_STALE"
  | .invalidOrderGeometry => "INVALID_ORDER_GEOMETRY"
  | .commandIdentityConflict => "COMMAND_IDENTITY_CONFLICT"
  | .brokerOrderMismatch => "BROKER_ORDER_MISMATCH"
  | .brokerRejected => "BROKER_REJECTED"
  | .brokerTimeoutUnknownState => "BROKER_TIMEOUT_UNKNOWN_STATE"
  | .brokerTransportFailure => "BROKER_TRANSPORT_FAILURE"
  | .partialFillProtectionFailed => "PARTIAL_FILL_PROTECTION_FAILED"
  | .positionReconciliationFailure => "POSITION_RECONCILIATION_FAILURE"

/-! ### Request -/

structure ExecutionPolicy where
  mode : ExecutionMode := .paper
  maxRequestAgeMs : ℕ := 2000
  requestTimeoutSeconds : ℚ := 5
  cancelUnfilledAfterSeconds : ℕ := 10
  partialFillProtectionEnabled : Bool := true
  allowLiveExecution : Bool := false
  deriving DecidableEq, Repr

abbrev ExecutionPolicy.Valid (p : ExecutionPolicy) : Prop :=
  (0 < p.maxRequestAgeMs ∧ p.maxRequestAgeMs ≤ 30000) ∧
    (0 < p.requestTimeoutSeconds ∧ p.requestTimeoutSeconds ≤ 30) ∧
    (0 < p.cancelUnfilledAfterSeconds ∧ p.cancelUnfilledAfterSeconds ≤ 120) ∧
    p.allowLiveExecution = false

theorem default_policy_valid : ExecutionPolicy.Valid {} := by decide

structure ExecutionRequest (D : Type) where
  executionId : String
  runId : String
  tradingDate : Date
  requestedAt : Timestamp
  submissionCutoffTimestamp : Timestamp
  riskDecision : RiskDecision D
  policy : ExecutionPolicy
  configurationHash : String
  deriving DecidableEq, Repr

namespace ExecutionRequest

variable {D E : Type}

def mapDecimal (f : D → E) (r : ExecutionRequest D) : ExecutionRequest E where
  executionId := r.executionId
  runId := r.runId
  tradingDate := r.tradingDate
  requestedAt := r.requestedAt
  submissionCutoffTimestamp := r.submissionCutoffTimestamp
  riskDecision := r.riskDecision.mapDecimal f
  policy := r.policy
  configurationHash := r.configurationHash

/-- Field bounds, then `matches_risk_identity`. -/
def Valid [DecimalArithmetic D] (H : Canonical D) (r : ExecutionRequest D) : Prop :=
  ((8 ≤ r.executionId.length ∧ r.executionId.length ≤ 64) ∧
    (1 ≤ r.runId.length ∧ r.runId.length ≤ 128) ∧ r.riskDecision.Valid ∧ r.policy.Valid ∧
    isSha256Hex r.configurationHash = true) ∧
  r.runId = r.riskDecision.runId ∧ r.tradingDate = r.riskDecision.tradingDate ∧
    r.configurationHash = r.riskDecision.configurationHash ∧
    r.requestedAt ≤ r.submissionCutoffTimestamp ∧
    H.bodySha256 r.riskDecision = r.riskDecision.decisionHash

instance [DecimalArithmetic D] (H : Canonical D) (r : ExecutionRequest D) :
    Decidable (r.Valid H) := by
  unfold Valid; infer_instance

/-- The client order id that the risk decision reserved. -/
def entryClientOrderId (r : ExecutionRequest D) : Option String :=
  r.riskDecision.reservation.map (·.clientOrderId)

end ExecutionRequest

/-! ### Command -/

structure CommandFields (D : Type) where
  commandId : String
  executionId : String
  clientOrderId : String
  symbol : String
  quantity : ℕ
  side : OrderSide
  orderType : OrderType
  timeInForce : TimeInForce
  orderClass : OrderClass
  limitPrice : Option D
  stopPrice : Option D
  takeProfitLimitPrice : Option D
  stopLossStopPrice : Option D
  parentClientOrderId : Option String
  commandHash : String
  deriving DecidableEq, Repr

namespace CommandFields

variable {D E : Type}

def mapDecimal (f : D → E) (c : CommandFields D) : CommandFields E where
  commandId := c.commandId
  executionId := c.executionId
  clientOrderId := c.clientOrderId
  symbol := c.symbol
  quantity := c.quantity
  side := c.side
  orderType := c.orderType
  timeInForce := c.timeInForce
  orderClass := c.orderClass
  limitPrice := c.limitPrice.map f
  stopPrice := c.stopPrice.map f
  takeProfitLimitPrice := c.takeProfitLimitPrice.map f
  stopLossStopPrice := c.stopLossStopPrice.map f
  parentClientOrderId := c.parentClientOrderId
  commandHash := c.commandHash

variable [DecimalArithmetic D]

/-- `validate_shape` -/
def Shape (c : CommandFields D) : Prop :=
  match c.orderClass with
  | .bracket =>
    c.side = .buy ∧ c.orderType = .limit ∧
      ∃ limit ∈ c.limitPrice, ∃ target ∈ c.takeProfitLimitPrice, ∃ stop ∈ c.stopLossStopPrice,
        value stop < value limit ∧ value limit < value target
  | .simple =>
    c.orderType = .stop ∧ c.side = .sell ∧ c.stopPrice.isSome ∧ c.limitPrice.isNone

instance (c : CommandFields D) : Decidable c.Shape := by
  unfold Shape; split <;> infer_instance

def Valid (c : CommandFields D) : Prop :=
  ((8 ≤ c.commandId.length ∧ c.commandId.length ≤ 64) ∧
    (1 ≤ c.clientOrderId.length ∧ c.clientOrderId.length ≤ 48) ∧
    isCanonicalTicker c.symbol = true ∧ 0 < c.quantity ∧
    ∀ price ∈ [c.limitPrice, c.stopPrice, c.takeProfitLimitPrice, c.stopLossStopPrice],
      ∀ p ∈ price, IsMoney (value p) ∧ 0 < value p) ∧
  Shape c

instance (c : CommandFields D) : Decidable c.Valid := by
  unfold Valid; infer_instance

end CommandFields

structure BrokerOrderCommand (D : Type) [DecimalArithmetic D] extends CommandFields D where
  valid : toCommandFields.Valid

def BrokerOrderCommand.numeric {D : Type} [DecimalArithmetic D] (c : BrokerOrderCommand D) :
    CommandFields ℚ :=
  c.toCommandFields.mapDecimal value

/-! ### Broker order -/

structure BrokerOrderLeg (D : Type) where
  brokerOrderId : String
  clientOrderId : Option String
  side : String
  orderType : String
  status : String
  quantity : D
  filledQuantity : D
  limitPrice : Option D
  stopPrice : Option D
  deriving DecidableEq, Repr

def BrokerOrderLeg.mapDecimal {D E : Type} (f : D → E) (l : BrokerOrderLeg D) :
    BrokerOrderLeg E where
  brokerOrderId := l.brokerOrderId
  clientOrderId := l.clientOrderId
  side := l.side
  orderType := l.orderType
  status := l.status
  quantity := f l.quantity
  filledQuantity := f l.filledQuantity
  limitPrice := l.limitPrice.map f
  stopPrice := l.stopPrice.map f

/-- `rawResponse` is the canonical text of the provider's answer. -/
structure SnapshotFields (D : Type) where
  snapshotId : String
  brokerOrderId : String
  clientOrderId : String
  symbol : String
  side : OrderSide
  orderType : OrderType
  timeInForce : String
  orderClass : String
  status : BrokerOrderStatus
  quantity : D
  filledQuantity : D
  filledAvgPrice : Option D
  limitPrice : Option D
  stopPrice : Option D
  submittedAt : Option Timestamp
  updatedAt : Timestamp
  legs : List (BrokerOrderLeg D)
  rawResponseHash : String
  rawResponse : String
  deriving DecidableEq, Repr

namespace SnapshotFields

variable {D E : Type}

def mapDecimal (f : D → E) (s : SnapshotFields D) : SnapshotFields E where
  snapshotId := s.snapshotId
  brokerOrderId := s.brokerOrderId
  clientOrderId := s.clientOrderId
  symbol := s.symbol
  side := s.side
  orderType := s.orderType
  timeInForce := s.timeInForce
  orderClass := s.orderClass
  status := s.status
  quantity := f s.quantity
  filledQuantity := f s.filledQuantity
  filledAvgPrice := s.filledAvgPrice.map f
  limitPrice := s.limitPrice.map f
  stopPrice := s.stopPrice.map f
  submittedAt := s.submittedAt
  updatedAt := s.updatedAt
  legs := s.legs.map (BrokerOrderLeg.mapDecimal f)
  rawResponseHash := s.rawResponseHash
  rawResponse := s.rawResponse

variable [DecimalArithmetic D]

/-- Field bounds, then `filled_not_above_quantity`. -/
def Valid (s : SnapshotFields D) : Prop :=
  ((8 ≤ s.snapshotId.length ∧ s.snapshotId.length ≤ 64) ∧ isCanonicalTicker s.symbol = true ∧
    0 < value s.quantity ∧ 0 ≤ value s.filledQuantity ∧
    (∀ price ∈ [s.filledAvgPrice, s.limitPrice, s.stopPrice] ++
      s.legs.flatMap (fun leg => [leg.limitPrice, leg.stopPrice]), ∀ p ∈ price, IsMoney (value p)) ∧
    isSha256Hex s.rawResponseHash = true) ∧
  value s.filledQuantity ≤ value s.quantity

instance (s : SnapshotFields D) : Decidable s.Valid := by
  unfold Valid; infer_instance

end SnapshotFields

structure BrokerOrderSnapshot (D : Type) [DecimalArithmetic D] extends SnapshotFields D where
  valid : toSnapshotFields.Valid

namespace BrokerOrderSnapshot

variable {D : Type} [DecimalArithmetic D]

def numeric (s : BrokerOrderSnapshot D) : SnapshotFields ℚ :=
  s.toSnapshotFields.mapDecimal value

end BrokerOrderSnapshot

structure TradeUpdate (D : Type) [DecimalArithmetic D] where
  eventId : String
  event : String
  eventTimestamp : Timestamp
  order : BrokerOrderSnapshot D
  rawEventHash : String

/-! ### Events and results -/

structure ExecutionEvent (D : Type) where
  executionId : String
  eventSequence : ℕ
  eventType : ExecutionEventType
  eventTimestamp : Timestamp
  brokerOrderId : Option String
  clientOrderId : Option String
  status : Option BrokerOrderStatus
  filledQuantity : Option D
  details : List (String × String)
  eventHash : String
  deriving DecidableEq, Repr

def ExecutionEvent.mapDecimal {D E : Type} (f : D → E) (e : ExecutionEvent D) :
    ExecutionEvent E where
  executionId := e.executionId
  eventSequence := e.eventSequence
  eventType := e.eventType
  eventTimestamp := e.eventTimestamp
  brokerOrderId := e.brokerOrderId
  clientOrderId := e.clientOrderId
  status := e.status
  filledQuantity := e.filledQuantity.map f
  details := e.details
  eventHash := e.eventHash

/-- What the service decides; the rest of a result is derived from it. -/
structure ResultFields (D : Type) [DecimalArithmetic D] where
  outcome : ExecutionOutcome
  rejectionReasons : List ExecutionRejectionCode
  command : Option (BrokerOrderCommand D)
  brokerOrder : Option (BrokerOrderSnapshot D)
  protectiveOrder : Option (BrokerOrderSnapshot D)
  reconciliationRequired : Bool

/-- `terminal_shape` -/
def ResultFields.TerminalShape {D : Type} [DecimalArithmetic D] (f : ResultFields D) : Prop :=
  (f.outcome ∈ [.submitted, .existingReconciled, .partialFillProtected] →
    f.command.isSome ∧ f.brokerOrder.isSome) ∧
  (f.outcome = .rejected → f.rejectionReasons ≠ []) ∧
  (f.outcome = .reconciliationRequired → f.reconciliationRequired = true)

instance {D : Type} [DecimalArithmetic D] (f : ResultFields D) : Decidable f.TerminalShape := by
  unfold ResultFields.TerminalShape; infer_instance

structure ExecutionResult (D : Type) [DecimalArithmetic D] extends ResultFields D where
  resultId : String
  executionId : String
  events : List (ExecutionEvent D)
  completedAt : Timestamp
  requestHash : String
  resultHash : String
  terminalShape : toResultFields.TerminalShape

/-- All that Python compares of a result. -/
structure NumericResult where
  resultId : String
  executionId : String
  outcome : ExecutionOutcome
  rejectionReasons : List ExecutionRejectionCode
  command : Option (CommandFields ℚ)
  brokerOrder : Option (SnapshotFields ℚ)
  protectiveOrder : Option (SnapshotFields ℚ)
  reconciliationRequired : Bool
  events : List (ExecutionEvent ℚ)
  completedAt : Timestamp
  requestHash : String
  resultHash : String
  deriving DecidableEq

def ExecutionResult.numeric {D : Type} [DecimalArithmetic D] (r : ExecutionResult D) :
    NumericResult where
  resultId := r.resultId
  executionId := r.executionId
  outcome := r.outcome
  rejectionReasons := r.rejectionReasons
  command := r.command.map (·.numeric)
  brokerOrder := r.brokerOrder.map (·.numeric)
  protectiveOrder := r.protectiveOrder.map (·.numeric)
  reconciliationRequired := r.reconciliationRequired
  events := r.events.map (·.mapDecimal value)
  completedAt := r.completedAt
  requestHash := r.requestHash
  resultHash := r.resultHash

/-! ### Hashes and texts -/

/-- The digests, identifiers and texts that the execution package derives:
SHA-256 of a canonical text, version-5 UUIDs, the text of a validation error and
of a decimal. -/
structure Derivations (D : Type) [DecimalArithmetic D] where
  commandId : String → String → String
  commandHash : CommandFields D → String
  eventHash : ExecutionEvent D → String
  requestHash : ExecutionRequest D → String
  resultHash : String → ResultFields D → List (ExecutionEvent D) → Timestamp → String → String
  resultId : String → String → String
  validationText : CommandFields D → String
  decimalText : D → String

end Daybreak.Execution
