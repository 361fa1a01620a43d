import Daybreak.Contracts.Types

/-! The data of the session orchestration: the plan of a session, the quantities
that Daybreak may flatten, the positions it reads, the orders that close them and
the result of a flatten run. Values that a validator accepts carry the proof. The
texts that only identify or hash a record are left out. -/

namespace Daybreak.Orchestration

open Numeric DecimalArithmetic

variable {D : Type}

/-! ### Exceptions -/

/-- An exception with the text it carries; those told apart by their type have a
constructor of their own. -/
inductive Exc where
  | alpacaOperationsError (message : String) (transient : Bool) (statusCode : Option ℕ)
  | leadershipUnavailable (message : String)
  | persistentKillSwitchActive (message : String)
  | runtimeError (message : String)
  | other (typeName message : String)
  deriving DecidableEq, Repr

def Exc.typeName : Exc → String
  | .alpacaOperationsError _ _ _ => "AlpacaOperationsError"
  | .leadershipUnavailable _ => "LeadershipUnavailable"
  | .persistentKillSwitchActive _ => "PersistentKillSwitchActive"
  | .runtimeError _ => "RuntimeError"
  | .other typeName _ => typeName

def Exc.message : Exc → String
  | .alpacaOperationsError message _ _ => message
  | .leadershipUnavailable message => message
  | .persistentKillSwitchActive message => message
  | .runtimeError message => message
  | .other _ message => message

/-- `f"{type(exc).__name__}: {exc}"` -/
def Exc.describe (e : Exc) : String := e.typeName ++ ": " ++ e.message

def validationError (model : String) : Exc := .other "ValidationError" model

/-! ### The plan -/

structure OrchestrationPolicy where
  leadershipTtlSeconds : ℕ := 30
  leadershipRenewIntervalSeconds : ℕ := 10
  maxClockSkewMs : ℕ := 250
  flattenPollIntervalSeconds : ℚ := 1
  flattenVerificationTimeoutSeconds : ℚ := 300
  alertDedupWindowSeconds : ℕ := 300
  deriving DecidableEq, Repr

/-- Field bounds, then the last check of `times_are_monotonic`. -/
def OrchestrationPolicy.Valid (p : OrchestrationPolicy) : Prop :=
  ((5 ≤ p.leadershipTtlSeconds ∧ p.leadershipTtlSeconds ≤ 300) ∧
    (1 ≤ p.leadershipRenewIntervalSeconds ∧ p.leadershipRenewIntervalSeconds ≤ 60) ∧
    (0 < p.maxClockSkewMs ∧ p.maxClockSkewMs ≤ 5000) ∧
    (0 < p.flattenPollIntervalSeconds ∧ p.flattenPollIntervalSeconds ≤ 30) ∧
    (0 < p.flattenVerificationTimeoutSeconds ∧ p.flattenVerificationTimeoutSeconds ≤ 600) ∧
    p.alertDedupWindowSeconds ≤ 3600) ∧
  p.leadershipRenewIntervalSeconds < p.leadershipTtlSeconds

instance (p : OrchestrationPolicy) : Decidable p.Valid := by
  unfold OrchestrationPolicy.Valid; infer_instance

structure SessionPlanFields where
  sessionId : String
  runId : String
  tradingDate : Date
  recorderWarmupAt : Timestamp
  featureWindowStartAt : Timestamp
  featureSnapshotAt : Timestamp
  evaluatorCutoffAt : Timestamp
  eligibilityLockAt : Timestamp
  regularSessionOpenAt : Timestamp
  newEntryCutoffAt : Timestamp
  mandatoryFlattenAt : Timestamp
  finalFlattenDeadlineAt : Timestamp
  policy : OrchestrationPolicy
  configurationHash : String
  deriving DecidableEq, Repr

/-- The times of a plan, as `chronological` orders them. -/
def SessionPlanFields.times (p : SessionPlanFields) : List Timestamp :=
  [p.recorderWarmupAt, p.featureWindowStartAt, p.featureSnapshotAt, p.evaluatorCutoffAt,
    p.eligibilityLockAt, p.regularSessionOpenAt, p.newEntryCutoffAt, p.mandatoryFlattenAt,
    p.finalFlattenDeadlineAt]

def SessionPlanFields.Valid (p : SessionPlanFields) : Prop :=
  ((8 ≤ p.sessionId.length ∧ p.sessionId.length ≤ 64) ∧
    (1 ≤ p.runId.length ∧ p.runId.length ≤ 128) ∧ p.policy.Valid) ∧
  p.times.IsChain (· < ·)

instance (p : SessionPlanFields) : Decidable p.Valid := by
  unfold SessionPlanFields.Valid; infer_instance

structure SessionPlan extends SessionPlanFields where
  valid : toSessionPlanFields.Valid

/-- `timedelta(seconds=s)`, in microseconds. -/
def timedelta (seconds : ℚ) : ℤ := roundHalfEven (seconds * 1000000)

theorem timedelta_natCast (seconds : ℕ) : timedelta seconds = seconds * 1000000 := by
  have hExact := roundHalfEven_intCast (seconds * 1000000 : ℕ)
  push_cast at hExact
  exact hExact

theorem lt_add_timedelta (now : Timestamp) {seconds : ℕ} (h : 0 < seconds) :
    now < now + timedelta seconds := by
  rw [timedelta_natCast]
  have hPositive : (0 : ℤ) < seconds * 1000000 := by omega
  exact lt_add_of_pos_right now hPositive

/-! ### Flattening -/

inductive ManagedTargetSource where
  | executionLedger | brokerOrderReconstruction | combined
  deriving DecidableEq, Repr

variable [DecimalArithmetic D]

/-- A quantity of one symbol that Daybreak may close. -/
structure ManagedPositionTarget (D : Type) [DecimalArithmetic D] where
  symbol : String
  quantity : D
  source : ManagedTargetSource
  canonical : isCanonicalTicker symbol = true
  positive : 0 < value quantity

/-- A quantity of one symbol that was read. -/
structure SessionPosition (D : Type) [DecimalArithmetic D] where
  symbol : String
  quantity : D
  averageEntryPrice : Option D
  canonical : isCanonicalTicker symbol = true
  positive : 0 < value quantity
  pricePositive : ∀ price ∈ averageEntryPrice, 0 < value price

/-- An accepted close. -/
structure FlattenOrder (D : Type) where
  symbol : String
  quantity : D
  brokerOrderId : String
  clientOrderId : Option String
  submittedAt : Timestamp

structure FlattenResult (D : Type) [DecimalArithmetic D] where
  sessionId : String
  startedAt : Timestamp
  completedAt : Timestamp
  canceledOrderCount : ℕ
  initialPositions : List (SessionPosition D)
  closeOrders : List (FlattenOrder D)
  remainingPositions : List (SessionPosition D)
  complete : Bool
  errors : List String

/-- A quantity of the entry-time ledger: a number, or a text that spells none. -/
abbrev RawQuantity (D : Type) := Option D

end Daybreak.Orchestration
