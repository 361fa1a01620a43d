import Daybreak.Orchestration.Alerts
import Daybreak.Orchestration.Flatten

/-! One paper session, from leadership to its stored result. The hooks, the health
probe, the repositories, the alert sink, the clock and the broker are any state machine
that answers or raises; what happens between two of their steps is part of them. A run
may still be waiting when the given number of rounds is used up. The exceptions are
those that `except Exception` catches. -/

namespace Daybreak.Orchestration

open Numeric DecimalArithmetic Effect Program

variable {σ D : Type} [DecimalArithmetic D]

/-! ### What a session is given -/

structure LeadershipRepository (σ : Type) where
  acquire : String → String → Timestamp → ℕ → σ → Except Exc (Option LeadershipLease) × σ
  renew : LeadershipLease → Timestamp → ℕ → σ → Except Exc (Option LeadershipLease) × σ
  release : LeadershipLease → Timestamp → σ → Except Exc Unit × σ

structure OrchestrationRepository (σ D : Type) [DecimalArithmetic D] where
  savePlan : SessionPlan → σ → Except Exc Unit × σ
  appendPhase : PhaseRecord → σ → Except Exc Unit × σ
  saveKillSwitch : KillSwitchState → σ → Except Exc Unit × σ
  getLatestKillSwitch : String → σ → Except Exc (Option KillSwitchState) × σ
  saveAlert : AlertRecord → σ → Except Exc Unit × σ
  saveFlatten : FlattenResult D → σ → Except Exc Unit × σ
  saveResult : SessionResult D → σ → Except Exc Unit × σ
  listPhases : String → σ → Except Exc (List PhaseRecord) × σ
  listAlerts : String → σ → Except Exc (List AlertRecord) × σ

/-- What a hook returns; to hash it for the record of its phase may raise. -/
structure HookDetails (D : Type) where
  items : PyDict D
  unhashable : Option Exc

abbrev Hook (σ D : Type) := SessionPlan → Timestamp → ℕ → σ → Except Exc (HookDetails D) × σ

structure SessionHooks (σ D : Type) where
  warmupRecorder : Hook σ D
  freezeFeatures : Hook σ D
  evaluate : Hook σ D
  sizeAndExecute : Hook σ D
  reconcile : Hook σ D

structure SessionOrchestrator (σ D : Type) [DecimalArithmetic D] where
  holderId : String
  leadership : LeadershipRepository σ
  repository : OrchestrationRepository σ D
  healthProbe : SessionPlan → Timestamp → σ → Except Exc HealthSnapshot × σ
  hooks : SessionHooks σ D
  broker : SessionBrokerOperations σ D
  alerts : AlertManager σ
  timing : Timing σ

/-! ### The state of a run -/

/-- A call of a hook or of `FlattenService.flatten`. -/
inductive SessionCall where
  | hook (phase : SessionPhase) (now : Timestamp) (fencingToken : ℕ)
  | flatten (now : Timestamp)
  deriving DecidableEq, Repr

/-- The environment, the fields of the orchestrator and of its alert manager, and the
local variables of `run`. The calls, with the environment before each, are kept for
what is said about a run. -/
structure SessionState (σ D : Type) [DecimalArithmetic D] where
  env : σ
  lastSent : Dict String Timestamp
  lease : Option LeadershipLease
  lastRenewedAt : Option Timestamp
  acquired : Option LeadershipLease
  killSwitch : KillSwitchState
  flattenResult : Option (FlattenResult D)
  outcome : SessionOutcome
  finalPhase : SessionPhase
  errorMessage : Option String
  managedQuantities : List (String × RawQuantity D)
  calls : List (SessionCall × σ)

/-- The run raises, or is still waiting. -/
inductive Halt where
  | raised (e : Exc)
  | waiting
  deriving DecidableEq, Repr

abbrev Session (σ D α : Type) [DecimalArithmetic D] := Program (SessionState σ D) Halt α

/-- Ask the environment; what it raises is raised. -/
def ask {α : Type} (operation : σ → Except Exc α × σ) : Session σ D α := do
  let s ← get
  set { s with env := (operation s.env).2 }
  match (operation s.env).1 with
  | .ok a => return a
  | .error e => throw (.raised e)

def raiseRuntimeError {α : Type} (message : String) : Session σ D α :=
  throw (.raised (.runtimeError message))

def logCall (call : SessionCall) : Session σ D Unit :=
  modify fun s => { s with calls := s.calls ++ [(call, s.env)] }

def clock (timing : Timing σ) : Session σ D Timestamp := do
  let s ← get
  set { s with env := (timing.clock s.env).2 }
  return (timing.clock s.env).1

def sleepFor (timing : Timing σ) (seconds : ℚ) : Session σ D Unit :=
  modify fun s => { s with env := timing.sleep seconds s.env }

/-! ### Phases -/

/-- `_phase`; to hash the details may raise. -/
def recordPhase (o : SessionOrchestrator σ D) (plan : SessionPlan) (phase : SessionPhase)
    (startedAt : Timestamp) (endedAt : Option Timestamp) (unhashable : Option Exc) :
    Session σ D Unit := do
  let phases ← ask (o.repository.listPhases plan.sessionId)
  match unhashable with
  | some e => throw (.raised e)
  | none => ask (o.repository.appendPhase {
      sessionId := plan.sessionId
      sequence := phases.length + 1
      phase := phase
      status := .completed
      startedAt := startedAt
      endedAt := endedAt })

/-- The lease was renewed less than the interval ago. -/
def recentlyRenewed (plan : SessionPlan) (lastRenewedAt : Option Timestamp) (now : Timestamp) :
    Bool :=
  match lastRenewedAt with
  | none => false
  | some last => elapsedSeconds now last < plan.policy.leadershipRenewIntervalSeconds

/-- `_renew_leadership` -/
def renewLeadership (o : SessionOrchestrator σ D) (plan : SessionPlan) (now : Timestamp) :
    Session σ D Unit := do
  let s ← get
  match s.lease with
  | none => raiseRuntimeError "leadership lease missing"
  | some lease =>
    if recentlyRenewed plan s.lastRenewedAt now then return ()
    else
      match ← ask (o.leadership.renew lease now plan.policy.leadershipTtlSeconds) with
      | none => raiseRuntimeError "leadership lost"
      | some renewed =>
        modify fun s => { s with lease := some renewed, lastRenewedAt := some now }

/-- `_wait_until` -/
def waitUntil (o : SessionOrchestrator σ D) (plan : SessionPlan) (target : Timestamp) :
    ℕ → Session σ D Unit
  | 0 => throw .waiting
  | rounds + 1 => do
    let now ← clock o.timing
    let remaining := elapsedSeconds target now
    if remaining ≤ 0 then return ()
    else
      sleepFor o.timing (min remaining 1)
      renewLeadership o plan (← clock o.timing)
      waitUntil o plan target rounds

/-- `_run_phase` -/
def runPhase (o : SessionOrchestrator σ D) (plan : SessionPlan) (phase : SessionPhase)
    (hook : Hook σ D) : Session σ D (HookDetails D) := do
  let started ← clock o.timing
  renewLeadership o plan started
  match (← get).lease with
  | none => raiseRuntimeError "leadership lease missing"
  | some lease =>
    logCall (.hook phase started lease.fencingToken)
    let details ← ask (hook plan started lease.fencingToken)
    let ended ← clock o.timing
    renewLeadership o plan ended
    recordPhase o plan phase started (some ended) details.unhashable
    return details

/-- `_wait_and_run` -/
def waitAndRun (o : SessionOrchestrator σ D) (rounds : ℕ) (plan : SessionPlan)
    (phase : SessionPhase) (target : Timestamp) (hook : Hook σ D) :
    Session σ D (HookDetails D) := do
  waitUntil o plan target rounds
  runPhase o plan phase hook

/-- `_preflight` -/
def preflight (o : SessionOrchestrator σ D) (plan : SessionPlan) (phase : SessionPhase) :
    Session σ D Unit := do
  let now ← clock o.timing
  renewLeadership o plan now
  let health ← ask (o.healthProbe plan now)
  match healthKillReason health plan plan.policy with
  | some reason => raiseRuntimeError ("preflight failed: " ++ reason.value)
  | none => recordPhase o plan phase now none none

/-! ### Flattening and alerts -/

/-- `FlattenService.flatten` on the broker of the session. -/
def callFlatten (o : SessionOrchestrator σ D) (rounds : ℕ) (plan : SessionPlan)
    (now : Timestamp) : Session σ D (FlattenResult D) := do
  logCall (.flatten now)
  let s ← get
  let flattened :=
    (flatten o.broker o.timing rounds plan now s.managedQuantities).exec (.start s.env)
  set { s with env := flattened.2.broker }
  match flattened.1 with
  | .ok (some result) => return result
  | .ok none => throw .waiting
  | .error e => throw (.raised e)

/-- `_run_flatten` -/
def runFlatten (o : SessionOrchestrator σ D) (rounds : ℕ) (plan : SessionPlan)
    (now : Timestamp) : Session σ D (FlattenResult D) := do
  let result ← callFlatten o rounds plan now
  recordPhase o plan .flattening now (some result.completedAt) none
  ask (o.repository.saveFlatten result)
  return result

/-- `_emit_critical` -/
def emitCritical (o : SessionOrchestrator σ D) (plan : SessionPlan) (code message : String)
    (now : Timestamp) : Session σ D Unit := do
  let s ← get
  let emitted :=
    o.alerts.emit (alertFields plan.sessionId .critical code message now) s.lastSent s.env
  set { s with lastSent := emitted.2.1, env := emitted.2.2 }
  match emitted.1 with
  | .error e => throw (.raised e)
  | .ok none => return ()
  | .ok (some alert) => ask (o.repository.saveAlert alert)

/-- The capitals of a character, for the characters that have ASCII capitals. -/
def upperChar : Char → List Char
  | 'ß' => ['S', 'S']
  | 'ı' => ['I']
  | 'ŉ' => ['ʼ', 'N']
  | 'ſ' => ['S']
  | 'ǰ' => ['J', '\u030c']
  | 'ẖ' => ['H', '\u0331']
  | 'ẗ' => ['T', '\u0308']
  | 'ẘ' => ['W', '\u030a']
  | 'ẙ' => ['Y', '\u030a']
  | 'ẚ' => ['A', 'ʾ']
  | 'ﬀ' => ['F', 'F']
  | 'ﬁ' => ['F', 'I']
  | 'ﬂ' => ['F', 'L']
  | 'ﬃ' => ['F', 'F', 'I']
  | 'ﬄ' => ['F', 'F', 'L']
  | 'ﬅ' => ['S', 'T']
  | 'ﬆ' => ['S', 'T']
  | c => [c.toUpper]

/-- `part in text.upper()`, for an ASCII part. -/
def upperContains (text part : String) : Bool :=
  (text.toList.flatMap upperChar).tails.any part.toList.isPrefixOf

/-- `_reason_from_error` -/
def reasonFromError (message : String) : KillSwitchReason :=
  if upperContains message "LEADERSHIP" then .leadershipLost
  else if upperContains message "EVALUATOR CUTOFF" ∨ upperContains message "ENTRY CUTOFF" then
    .executionCutoffExceeded
  else if upperContains message "CLOCK_UNSYNCED" then .clockUnsynced
  else if upperContains message "DATABASE_UNHEALTHY" then .databaseUnhealthy
  else if upperContains message "RECORDER_UNHEALTHY" then .recorderUnhealthy
  else if upperContains message "MARKET_DATA_UNHEALTHY" then .marketDataUnhealthy
  else if upperContains message "TRADE_UPDATE_STREAM_UNHEALTHY" then .tradeUpdateStreamUnhealthy
  else if upperContains message "ACCOUNT_BLOCKED" then .accountBlocked
  else if upperContains message "TRADING_BLOCKED" then .tradingBlocked
  else if upperContains message "MARKET_CIRCUIT_BREAKER" then .marketCircuitBreaker
  else if upperContains message "CONFIGURATION_MISMATCH" then .configurationMismatch
  else .unknownFailure

/-! ### The session -/

/-- `start_at or self._clock()` -/
def startTime (o : SessionOrchestrator σ D) : Option Timestamp → Session σ D Timestamp
  | some startAt => return startAt
  | none => clock o.timing

/-- The latest kill switch; where there is none, an inactive one is saved. -/
def latestKillSwitch (o : SessionOrchestrator σ D) (plan : SessionPlan) :
    Session σ D KillSwitchState := do
  match ← ask (o.repository.getLatestKillSwitch plan.sessionId) with
  | some killSwitch => return killSwitch
  | none =>
    ask (o.repository.saveKillSwitch (inactiveKillSwitch plan.sessionId))
    return inactiveKillSwitch plan.sessionId

/-- The first steps of `run`; what is left of an earlier run is cleared. -/
def beginRun (o : SessionOrchestrator σ D) (plan : SessionPlan) (startAt : Option Timestamp) :
    Session σ D Timestamp := do
  let startedAt ← startTime o startAt
  ask (o.repository.savePlan plan)
  let killSwitch ← latestKillSwitch o plan
  modify fun s => { s with
    acquired := none
    killSwitch := killSwitch
    flattenResult := none
    outcome := .failed
    finalPhase := .created
    errorMessage := none
    managedQuantities := [] }
  return startedAt

/-- Leadership is acquired, and an active kill switch raises. -/
def takeLeadership (o : SessionOrchestrator σ D) (plan : SessionPlan) (startedAt : Timestamp) :
    Session σ D Unit := do
  match ← ask (o.leadership.acquire plan.sessionId o.holderId startedAt
      plan.policy.leadershipTtlSeconds) with
  | none => throw (.raised (.leadershipUnavailable "another process holds session leadership"))
  | some lease =>
    modify fun s => { s with
      acquired := some lease, lease := some lease, lastRenewedAt := some startedAt }
    recordPhase o plan .leadershipAcquired startedAt none none
    let killSwitch := (← get).killSwitch
    if killSwitch.active then
      throw (.raised (.persistentKillSwitchActive
        ("persistent kill switch is active: " ++ (killSwitch.reason.map (·.value)).getD "None")))

/-- The phase in which the recorder only records. -/
def recordingStarted : Hook σ D := fun _ _ fencingToken s =>
  (.ok ⟨[("capture_started_at", .other true), ("fencing_token", .int fencingToken)], none⟩, s)

/-- The phases up to the evaluation, and its summary. -/
def evaluateSession (o : SessionOrchestrator σ D) (rounds : ℕ) (plan : SessionPlan) :
    Session σ D EvaluationPhaseSummary := do
  preflight o plan .preflight
  let _ ← waitAndRun o rounds plan .recorderWarmup plan.recorderWarmupAt o.hooks.warmupRecorder
  let _ ← waitAndRun o rounds plan .recording plan.featureWindowStartAt recordingStarted
  let _ ← waitAndRun o rounds plan .featureFreeze plan.featureSnapshotAt o.hooks.freezeFeatures
  let evaluation ← waitAndRun o rounds plan .evaluation plan.featureSnapshotAt o.hooks.evaluate
  if plan.evaluatorCutoffAt < (← clock o.timing) then
    raiseRuntimeError "evaluator cutoff exceeded"
  else
    match evaluationPhaseSummary evaluation.items with
    | .error e => throw (.raised e)
    | .ok summary => return summary

def checkEntryCutoff (o : SessionOrchestrator σ D) (plan : SessionPlan) : Session σ D Unit := do
  if plan.newEntryCutoffAt < (← clock o.timing) then
    raiseRuntimeError "new-entry cutoff exceeded"

/-- The quantity of a managed position: a number that is no `bool`, or a text. -/
def rawQuantity : PyObject D → Option (RawQuantity D)
  | .int n => some (some (ofInt n))
  | .decimal x => some (some x)
  | .text _ spells => some spells
  | _ => none

/-- `execution.get("managed_positions", {})`, where it is a dictionary. -/
def managedPositions (execution : PyDict D) : PyDict D :=
  match execution.lookup "managed_positions" with
  | some (.dict items) => items
  | _ => []

/-- `items[key] = item` -/
def setItem {α : Type} (items : List (String × α)) (key : String) (item : α) :
    List (String × α) :=
  if items.any (·.1 = key) then items.map fun i => if i.1 = key then (key, item) else i
  else items ++ [(key, item)]

/-- The managed quantities, up to the first that is invalid. -/
def recordManaged : PyDict D → Session σ D Unit
  | [] => return ()
  | (symbol, quantity) :: rest => do
    match rawQuantity quantity with
    | none => raiseRuntimeError ("invalid managed position quantity for " ++ symbol)
    | some raw =>
      modify fun s => { s with managedQuantities := setItem s.managedQuantities symbol raw }
      recordManaged rest

/-- The phases from the eligibility lock to the monitoring. -/
def trade (o : SessionOrchestrator σ D) (rounds : ℕ) (plan : SessionPlan) :
    Session σ D Unit := do
  waitUntil o plan plan.eligibilityLockAt rounds
  preflight o plan .eligibilityLock
  waitUntil o plan plan.regularSessionOpenAt rounds
  checkEntryCutoff o plan
  let execution ← runPhase o plan .execution o.hooks.sizeAndExecute
  recordManaged (managedPositions execution.items)
  checkEntryCutoff o plan
  let _ ← runPhase o plan .monitoring o.hooks.reconcile
  modify fun s => { s with outcome := .completed, finalPhase := .monitoring }
  if ((execution.items.lookup "kill_switch_required").map (·.truthy)).getD false then
    raiseRuntimeError "execution requested kill switch"

/-- What follows from the summary of the evaluation. -/
def actOn (o : SessionOrchestrator σ D) (rounds : ℕ) (plan : SessionPlan)
    (summary : EvaluationPhaseSummary) : Session σ D Unit :=
  if summary.runStatus ∈ [.blockedMarket, .stalePayload, .schemaFailure] then
    modify fun s => { s with outcome := .blocked, finalPhase := .evaluation }
  else if summary.runStatus = .noSetups ∨ summary.approvedCount = 0 then
    modify fun s => { s with outcome := .noSetups, finalPhase := .evaluation }
  else trade o rounds plan

/-- The mandatory flatten, and what follows from its result. -/
def closeSession (o : SessionOrchestrator σ D) (rounds : ℕ) (plan : SessionPlan) :
    Session σ D Unit := do
  waitUntil o plan plan.mandatoryFlattenAt rounds
  let result ← runFlatten o rounds plan (← clock o.timing)
  modify fun s => { s with flattenResult := some result, finalPhase := .flattening }
  if result.complete then
    recordPhase o plan .reconciliation result.completedAt none none
    recordPhase o plan .completed (← clock o.timing) none none
    modify fun s => { s with finalPhase := .completed }
  else
    let killSwitch := activateKillSwitch plan.sessionId .flattenDeadlineExceeded result.completedAt
      (.incompleteFlatten result.errors (result.remainingPositions.map (·.symbol)))
    modify fun s => { s with killSwitch := killSwitch }
    ask (o.repository.saveKillSwitch killSwitch)
    emitCritical o plan "FLATTEN_INCOMPLETE" "Mandatory end-of-day flatten did not complete."
      result.completedAt
    modify fun s => { s with outcome := .flattenIncomplete, finalPhase := .killed }

/-- The body of the `try`. -/
def trySession (o : SessionOrchestrator σ D) (rounds : ℕ) (plan : SessionPlan)
    (startedAt : Timestamp) : Session σ D Unit := do
  takeLeadership o plan startedAt
  let summary ← evaluateSession o rounds plan
  actOn o rounds plan summary
  closeSession o rounds plan

/-! ### The handlers and the end -/

/-- The flatten of a handler; what it raises is only noted. -/
def emergencyFlatten (o : SessionOrchestrator σ D) (rounds : ℕ) (plan : SessionPlan)
    (now : Timestamp) : Session σ D Unit :=
  tryCatch
    (do
      let result ← runFlatten o rounds plan now
      modify fun s => { s with flattenResult := some result })
    fun
      | .waiting => throw .waiting
      | .raised e => modify fun s => { s with
          errorMessage := s.errorMessage.map (· ++ "; emergency flatten failed: " ++ e.describe) }

/-- The branch of an exception that has no branch of its own. -/
def handleFailure (o : SessionOrchestrator σ D) (rounds : ℕ) (plan : SessionPlan) (e : Exc) :
    Session σ D Unit := do
  let now ← clock o.timing
  let reason := reasonFromError e.describe
  let killSwitch := activateKillSwitch plan.sessionId reason now (.error e.describe)
  modify fun s => { s with errorMessage := some e.describe, killSwitch := killSwitch }
  ask (o.repository.saveKillSwitch killSwitch)
  emitCritical o plan reason.value e.describe now
  modify fun s => { s with outcome := .killed, finalPhase := .killed }
  emergencyFlatten o rounds plan now

/-- The `except` branches, in their order. -/
def handle (o : SessionOrchestrator σ D) (rounds : ℕ) (plan : SessionPlan)
    (startedAt : Timestamp) : Exc → Session σ D Unit
  | .leadershipUnavailable message => do
    modify fun s => { s with
      errorMessage := some message, outcome := .blocked, finalPhase := .failed }
    emitCritical o plan "LEADERSHIP_UNAVAILABLE" message startedAt
  | .persistentKillSwitchActive message => do
    let now ← clock o.timing
    modify fun s => { s with
      errorMessage := some message, outcome := .killed, finalPhase := .killed }
    emitCritical o plan "PERSISTENT_KILL_SWITCH_ACTIVE" message now
    emergencyFlatten o rounds plan now
  | e => handleFailure o rounds plan e

/-- The lease that was acquired is released. -/
def releaseLeadership (o : SessionOrchestrator σ D) (completedAt : Timestamp) :
    Session σ D Unit := do
  match (← get).acquired with
  | none => return ()
  | some lease => ask (o.leadership.release lease completedAt)

/-- The `finally` block. -/
def conclude (o : SessionOrchestrator σ D) (plan : SessionPlan) (startedAt : Timestamp) :
    Session σ D (SessionResult D) := do
  let completedAt ← clock o.timing
  releaseLeadership o completedAt
  let phases ← ask (o.repository.listPhases plan.sessionId)
  let alerts ← ask (o.repository.listAlerts plan.sessionId)
  let s ← get
  let result : SessionResult D := {
    sessionId := plan.sessionId
    runId := plan.runId
    outcome := s.outcome
    startedAt := startedAt
    completedAt := completedAt
    finalPhase := s.finalPhase
    leadershipHolderId := o.holderId
    killSwitch := s.killSwitch
    flattenResult := s.flattenResult
    phaseRecords := phases
    alerts := alerts
    errorMessage := s.errorMessage }
  ask (o.repository.saveResult result)
  return result

/-- `SessionOrchestrator.run` -/
def run (o : SessionOrchestrator σ D) (rounds : ℕ) (plan : SessionPlan)
    (startAt : Option Timestamp) : Session σ D (SessionResult D) := do
  let startedAt ← beginRun o plan startAt
  let ended ← attempt <| tryCatch (trySession o rounds plan startedAt) fun
    | .waiting => throw .waiting
    | .raised e => handle o rounds plan startedAt e
  match ended with
  | .ok () => conclude o plan startedAt
  | .error .waiting => throw .waiting
  | .error (.raised e) => do
    let _ ← conclude o plan startedAt
    throw (.raised e)

end Daybreak.Orchestration
