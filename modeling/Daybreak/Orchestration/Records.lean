import Daybreak.Orchestration.Models
import Daybreak.Serial.StrictModel

/-! The records of a session: its phases and outcomes, the health it probes, its kill
switch, its lease, its alerts and its result. Values that a validator accepts carry the
proof. Hashes, and what is only hashed, are left out. -/

namespace Daybreak.Orchestration

open Numeric DecimalArithmetic

variable {D : Type} [DecimalArithmetic D]

inductive SessionPhase where
  | created | preflight | leadershipAcquired | recorderWarmup | recording | featureFreeze
  | evaluation | risk | eligibilityLock | execution | monitoring | flattening | reconciliation
  | completed | failed | killed
  deriving DecidableEq, Repr

inductive SessionOutcome where
  | completed | noSetups | blocked | failed | killed | flattenIncomplete
  deriving DecidableEq, Repr

inductive PhaseStatus where
  | started | completed | failed | skipped
  deriving DecidableEq, Repr

inductive AlertSeverity where
  | info | warning | critical
  deriving DecidableEq, Repr

inductive KillSwitchReason where
  | manual | hardDailyLoss | accountBlocked | tradingBlocked | marketCircuitBreaker
  | clockUnsynced | databaseUnhealthy | recorderUnhealthy | marketDataUnhealthy
  | tradeUpdateStreamUnhealthy | brokerUnhealthy | leadershipLost | configurationMismatch
  | reconciliationFailure | unprotectedPosition | executionCutoffExceeded
  | flattenDeadlineExceeded | unknownFailure
  deriving DecidableEq, Repr

def KillSwitchReason.value : KillSwitchReason → String
  | .manual => "MANUAL"
  | .hardDailyLoss => "HARD_DAILY_LOSS"
  | .accountBlocked => "ACCOUNT_BLOCKED"
  | .tradingBlocked => "TRADING_BLOCKED"
  | .marketCircuitBreaker => "MARKET_CIRCUIT_BREAKER"
  | .clockUnsynced => "CLOCK_UNSYNCED"
  | .databaseUnhealthy => "DATABASE_UNHEALTHY"
  | .recorderUnhealthy => "RECORDER_UNHEALTHY"
  | .marketDataUnhealthy => "MARKET_DATA_UNHEALTHY"
  | .tradeUpdateStreamUnhealthy => "TRADE_UPDATE_STREAM_UNHEALTHY"
  | .brokerUnhealthy => "BROKER_UNHEALTHY"
  | .leadershipLost => "LEADERSHIP_LOST"
  | .configurationMismatch => "CONFIGURATION_MISMATCH"
  | .reconciliationFailure => "RECONCILIATION_FAILURE"
  | .unprotectedPosition => "UNPROTECTED_POSITION"
  | .executionCutoffExceeded => "EXECUTION_CUTOFF_EXCEEDED"
  | .flattenDeadlineExceeded => "FLATTEN_DEADLINE_EXCEEDED"
  | .unknownFailure => "UNKNOWN_FAILURE"

/-! ### Health -/

structure HealthSnapshot where
  observedAt : Timestamp
  clockSynchronized : Bool
  clockSkewMs : ℤ
  databaseHealthy : Bool
  recorderHealthy : Bool
  marketDataStreamHealthy : Bool
  tradeUpdateStreamHealthy : Bool
  brokerHealthy : Bool
  accountActive : Bool
  accountBlocked : Bool := false
  tradingBlocked : Bool := false
  marketStatusNormal : Bool := true
  configurationHash : String
  deriving DecidableEq, Repr

/-- `health_kill_reason` -/
def healthKillReason (health : HealthSnapshot) (plan : SessionPlan)
    (policy : OrchestrationPolicy) : Option KillSwitchReason :=
  if health.configurationHash ≠ plan.configurationHash then some .configurationMismatch
  else if ¬health.clockSynchronized ∨ policy.maxClockSkewMs < health.clockSkewMs.natAbs then
    some .clockUnsynced
  else if ¬health.databaseHealthy then some .databaseUnhealthy
  else if ¬health.recorderHealthy then some .recorderUnhealthy
  else if ¬health.marketDataStreamHealthy then some .marketDataUnhealthy
  else if ¬health.tradeUpdateStreamHealthy then some .tradeUpdateStreamUnhealthy
  else if ¬health.brokerHealthy ∨ ¬health.accountActive then some .brokerUnhealthy
  else if health.accountBlocked then some .accountBlocked
  else if health.tradingBlocked then some .tradingBlocked
  else if ¬health.marketStatusNormal then some .marketCircuitBreaker
  else none

/-! ### The kill switch -/

/-- A dictionary, its items in the order in which they are hashed. -/
abbrev KillSwitchDetails := List (String × Serial.PyValue)

namespace KillSwitchDetails

def empty : KillSwitchDetails := []

def error (message : String) : KillSwitchDetails := [("error", .str message)]

def incompleteFlatten (errors remaining : List String) : KillSwitchDetails :=
  [("errors", .tuple (errors.map .str)), ("remaining", .list (remaining.map .str))]

end KillSwitchDetails

structure KillSwitchFields where
  sessionId : String
  active : Bool
  activatedAt : Option Timestamp
  reason : Option KillSwitchReason
  details : KillSwitchDetails
  resetRequired : Bool
  deriving DecidableEq, Repr

/-- `coherent` -/
def KillSwitchFields.Coherent (s : KillSwitchFields) : Prop :=
  (s.active → s.activatedAt.isSome ∧ s.reason.isSome) ∧
    (¬s.active → s.activatedAt = none ∧ s.reason = none) ∧ (s.active → s.resetRequired)

structure KillSwitchState extends KillSwitchFields where
  coherent : toKillSwitchFields.Coherent
  deriving DecidableEq

def inactiveKillSwitch (sessionId : String) : KillSwitchState where
  sessionId := sessionId
  active := false
  activatedAt := none
  reason := none
  details := .empty
  resetRequired := false
  coherent := by simp [KillSwitchFields.Coherent]

def activateKillSwitch (sessionId : String) (reason : KillSwitchReason) (now : Timestamp)
    (details : KillSwitchDetails) : KillSwitchState where
  sessionId := sessionId
  active := true
  activatedAt := some now
  reason := some reason
  details := details
  resetRequired := true
  coherent := by simp [KillSwitchFields.Coherent]

/-! ### Evaluation -/

inductive RunStatus where
  | approved | noSetups | blockedMarket | stalePayload | schemaFailure
  deriving DecidableEq, Repr

def RunStatus.ofString : String → Option RunStatus
  | "approved" => some .approved
  | "no_setups" => some .noSetups
  | "blocked_market" => some .blockedMarket
  | "stale_payload" => some .stalePayload
  | "schema_failure" => some .schemaFailure
  | _ => none

structure EvaluationPhaseSummary where
  runStatus : RunStatus
  approvedCount : ℤ
  bounded : 0 ≤ approvedCount ∧ approvedCount ≤ 3
  coherent : runStatus = .approved ↔ approvedCount ≠ 0

/-- A value in a dictionary that a hook returns; a text comes with the number it
spells, if it spells one. -/
inductive PyObject (D : Type) where
  | none
  | bool (b : Bool)
  | int (n : ℤ)
  | decimal (x : D)
  | text (s : String) (spells : Option D)
  | dict (items : List (String × PyObject D))
  | other (truthy : Bool)

/-- `bool(value)` -/
def PyObject.truthy : PyObject D → Bool
  | .none => false
  | .bool b => b
  | .int n => n ≠ 0
  | .decimal x => value x ≠ 0
  | .text s _ => s ≠ ""
  | .dict items => !items.isEmpty
  | .other truthy => truthy

abbrev PyDict (D : Type) := List (String × PyObject D)

/-- `EvaluationPhaseSummary.model_validate` -/
def evaluationPhaseSummary (evaluation : PyDict D) : Except Exc EvaluationPhaseSummary :=
  let invalid := .error (validationError "EvaluationPhaseSummary")
  match evaluation.lookup "run_status", evaluation.lookup "approved_count" with
  | some (.text status _), some (.int count) =>
    match RunStatus.ofString status with
    | none => invalid
    | some runStatus =>
      if evaluation.all fun item => item.1 = "run_status" ∨ item.1 = "approved_count" then
        if h : (0 ≤ count ∧ count ≤ 3) ∧ (runStatus = .approved ↔ count ≠ 0) then
          .ok ⟨runStatus, count, h.1, h.2⟩
        else invalid
      else invalid
  | _, _ => invalid

/-! ### What is stored -/

structure LeadershipLease where
  sessionId : String
  holderId : String
  acquiredAt : Timestamp
  renewedAt : Timestamp
  expiresAt : Timestamp
  fencingToken : ℕ
  deriving DecidableEq, Repr

structure PhaseRecord where
  sessionId : String
  sequence : ℕ
  phase : SessionPhase
  status : PhaseStatus
  startedAt : Timestamp
  endedAt : Option Timestamp
  deriving DecidableEq, Repr

structure AlertFields where
  sessionId : String
  severity : AlertSeverity
  code : String
  message : String
  createdAt : Timestamp
  dedupKey : String
  deriving DecidableEq, Repr

def AlertFields.Valid (a : AlertFields) : Prop :=
  (1 ≤ a.code.length ∧ a.code.length ≤ 128) ∧
    (1 ≤ a.message.length ∧ a.message.length ≤ 2048) ∧
    (1 ≤ a.dedupKey.length ∧ a.dedupKey.length ≤ 256)

instance (a : AlertFields) : Decidable a.Valid := by unfold AlertFields.Valid; infer_instance

structure AlertRecord extends AlertFields where
  valid : toAlertFields.Valid

structure SessionResult (D : Type) [DecimalArithmetic D] where
  sessionId : String
  runId : String
  outcome : SessionOutcome
  startedAt : Timestamp
  completedAt : Timestamp
  finalPhase : SessionPhase
  leadershipHolderId : String
  killSwitch : KillSwitchState
  flattenResult : Option (FlattenResult D)
  phaseRecords : List PhaseRecord
  alerts : List AlertRecord
  errorMessage : Option String

end Daybreak.Orchestration
