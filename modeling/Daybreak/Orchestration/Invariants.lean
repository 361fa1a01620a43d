import Daybreak.Orchestration.KillPath

/-! What a whole session keeps. An assertion about the environment, the lease and the kill
switch that every operation keeps is kept by every part of a session, the flatten run
included, whatever is raised and wherever a run is left waiting. -/

namespace Daybreak.Orchestration

open Numeric DecimalArithmetic Effect Program

variable {β σ D : Type} [DecimalArithmetic D]

/-! ### The flatten run -/

/-- Every operation of a flatten run keeps `P`. -/
structure SessionBrokerOperations.Keeps (ops : SessionBrokerOperations β D) (timing : Timing β)
    (P : β → Prop) : Prop where
  discover : ∀ plan b, P b → P (ops.discoverDaybreakTargets plan b).2
  cancel : ∀ plan b, P b → P (ops.cancelDaybreakOrders plan b).2
  list : ∀ targets b, P b → P (ops.listPositions targets b).2
  close : ∀ position b, P b → P (ops.closePosition position b).2
  clock : ∀ b, P b → P (timing.clock b).2
  sleep : ∀ seconds b, P b → P (timing.sleep seconds b)

/-- The broker of a run is one of which `P` holds. -/
def BrokerSatisfies (P : β → Prop) (run : FlattenRun β D) : Prop := P run.broker

namespace SessionBrokerOperations.Keeps

variable {ops : SessionBrokerOperations β D} {timing : Timing β} {P : β → Prop}

theorem maintains_request {α : Type} {operation : β → Except Exc α × β}
    (h : ∀ b, P b → P (operation b).2) (entry : Except Exc α → OperationCall D) :
    Maintains (BrokerSatisfies P) (request operation entry) :=
  fun run hRun => h run.broker hRun

theorem maintains_recordError (context : String) (e : Exc) :
    Maintains (BrokerSatisfies P) (recordError context e : Flattening β D Unit) :=
  fun _ hRun => hRun

theorem maintains_orDefault {α : Type} (context : String) (default : α) (answer : Except Exc α) :
    Maintains (BrokerSatisfies P) (orDefault context default answer : Flattening β D α) := by
  cases answer with
  | ok a => exact .pure a
  | error e => exact .bind (maintains_recordError context e) fun _ => .pure default

theorem maintains_closeUncoveredPosition (h : ops.Keeps timing P) (position : SessionPosition D) :
    Maintains (BrokerSatisfies P) (closeUncoveredPosition ops position) := by
  refine .bind (fun run hRun => hRun) fun run => ?_
  simp only
  split_ifs with hCovered
  · exact .pure ()
  · refine .bind (maintains_request (h.close _) _) fun answer => ?_
    cases answer with
    | ok order => exact fun run hRun => hRun
    | error e => exact maintains_recordError _ e

theorem maintains_closeUncovered (h : ops.Keeps timing P) (positions : List (SessionPosition D)) :
    Maintains (BrokerSatisfies P) (closeUncovered ops positions) := by
  induction positions with
  | nil => exact .pure ()
  | cons position positions ih =>
    apply (h.maintains_closeUncoveredPosition position).bind
    intro _
    exact ih

theorem maintains_readClock (h : ops.Keeps timing P) :
    Maintains (BrokerSatisfies P) (readClock timing : Flattening β D Timestamp) :=
  fun run hRun => h.clock run.broker hRun

theorem maintains_verify (h : ops.Keeps timing P) (plan : SessionPlan)
    (targets : List (ManagedPositionTarget D)) (deadline : Timestamp) (polls : ℕ)
    (remaining : List (SessionPosition D)) :
    Maintains (BrokerSatisfies P) (verify ops timing plan targets deadline polls remaining) := by
  induction polls generalizing remaining with
  | zero => exact .pure none
  | succ polls ih =>
    refine .bind h.maintains_readClock fun now => ?_
    split_ifs
    · refine .bind (maintains_request (h.list targets) _) fun answer => ?_
      rcases answer with e | ⟨_ | ⟨position, positions⟩⟩
      · exact .bind (maintains_recordError _ e) fun _ => .pure _
      · exact .pure _
      · refine .bind ?_ fun _ => .bind (fun run hRun => h.sleep _ run.broker hRun) fun _ => ih _
        refine .bind (fun run hRun => hRun) fun read => ?_
        exact .bind (h.maintains_closeUncovered _) fun _ run hRun => hRun
    · exact .pure _

/-- Every flatten run keeps what its operations keep. -/
theorem maintains_flatten (h : ops.Keeps timing P) (polls : ℕ) (plan : SessionPlan)
    (now : Timestamp) (managedQuantities : List (String × RawQuantity D)) :
    Maintains (BrokerSatisfies P) (flatten ops timing polls plan now managedQuantities) := by
  refine .bind (maintains_request (h.discover plan) _) fun discovered => ?_
  refine .bind (maintains_orDefault _ _ discovered) fun discovered => ?_
  refine .bind (.ofExcept _) fun targets => ?_
  refine .bind (maintains_request (h.cancel plan) _) fun canceled => ?_
  refine .bind (maintains_orDefault _ _ canceled) fun canceledOrderCount => ?_
  refine .bind (maintains_request (h.list targets) _) fun listed => ?_
  refine .bind (maintains_orDefault _ _ listed) fun initialPositions => ?_
  refine .bind (h.maintains_closeUncovered initialPositions) fun _ => ?_
  refine .bind (h.maintains_verify plan targets _ polls initialPositions) fun verified => ?_
  cases verified with
  | none => exact .pure none
  | some remaining => exact .bind h.maintains_readClock fun completedAt run hRun => hRun

end SessionBrokerOperations.Keeps

/-! ### The session -/

/-- The phases that are run with a hook, but for the execution. -/
inductive SessionOrchestrator.Runs (o : SessionOrchestrator σ D) : SessionPhase → Hook σ D → Prop
  | recorderWarmup : Runs o .recorderWarmup o.hooks.warmupRecorder
  | recording : Runs o .recording recordingStarted
  | featureFreeze : Runs o .featureFreeze o.hooks.freezeFeatures
  | evaluation : Runs o .evaluation o.hooks.evaluate
  | monitoring : Runs o .monitoring o.hooks.reconcile

/-- What a session holds, besides its environment, that an invariant is about. -/
structure Held where
  lease : Option LeadershipLease
  lastRenewedAt : Option Timestamp
  killSwitch : KillSwitchState

def SessionState.held (s : SessionState σ D) : Held := ⟨s.lease, s.lastRenewedAt, s.killSwitch⟩

/-- `P` is kept by the steps that neither wait nor renew: those of the flatten, of the
records and of the handlers. -/
structure HandlerInvariant (o : SessionOrchestrator σ D) (rounds : ℕ) (plan : SessionPlan)
    (P : SessionState σ D → Prop) : Prop where
  frame : ∀ {s t}, t.env = s.env → t.held = s.held → P s → P t
  listPhases : Maintains P (ask (o.repository.listPhases plan.sessionId))
  appendPhase : ∀ record, Maintains P (ask (o.repository.appendPhase record))
  saveFlatten : ∀ result, Maintains P (ask (o.repository.saveFlatten result))
  saveAlert : ∀ alert, Maintains P (ask (o.repository.saveAlert alert))
  saveActive : ∀ state, state.active = true → Maintains P (ask (o.repository.saveKillSwitch state))
  clock : Maintains P (clock o.timing)
  sink : ∀ alert s, P s → P { s with env := (o.alerts.sink alert s.env).2 }
  flatten : ∀ now, Maintains P (callFlatten o rounds plan now)

/-- `P` is kept also by the steps of a session that holds its lease, but for the execution
phase and the release. -/
structure SessionInvariant (o : SessionOrchestrator σ D) (rounds : ℕ) (plan : SessionPlan)
    (P : SessionState σ D → Prop) : Prop extends HandlerInvariant o rounds plan P where
  healthProbe : ∀ now, Maintains P (ask (o.healthProbe plan now))
  sleep : ∀ seconds, Maintains P (sleepFor o.timing seconds)
  renew : ∀ now, Maintains P (renewLeadership o plan now)
  phase : ∀ phase hook, o.Runs phase hook → Maintains P (runPhase o plan phase hook)

/-- The kill switch of the run does not matter to `P`. -/
def IgnoresSwitch (P : SessionState σ D → Prop) : Prop :=
  ∀ state, Maintains P (modify fun s => { s with killSwitch := state } : Session σ D Unit)

/-- An alert keeps what its sink and its save keep. -/
theorem emitCritical_maintains {o : SessionOrchestrator σ D} {plan : SessionPlan}
    {P : SessionState σ D → Prop}
    (hFrame : ∀ {s t}, t.env = s.env → t.held = s.held → P s → P t)
    (hSave : ∀ alert, Maintains P (ask (o.repository.saveAlert alert)))
    (hSink : ∀ alert s, P s → P { s with env := (o.alerts.sink alert s.env).2 })
    (code message : String) (now : Timestamp) :
    Maintains P (emitCritical o plan code message now) := by
  intro s hs
  rw [emitCritical, exec_bind, exec_get]
  simp only
  rw [exec_bind, exec_set]
  simp only
  have hEmitted : P { s with
      lastSent := (o.alerts.emit (alertFields plan.sessionId .critical code message now)
        s.lastSent s.env).2.1
      env := (o.alerts.emit (alertFields plan.sessionId .critical code message now)
        s.lastSent s.env).2.2 } := by
    unfold AlertManager.emit
    split_ifs with hDuplicate hValid
    · exact hFrame rfl rfl hs
    · have hSent := hSink ⟨_, hValid⟩ s hs
      rcases hSink : o.alerts.sink ⟨_, hValid⟩ s.env with ⟨_ | _, env⟩ <;>
      · rw [hSink] at hSent
        simp only [hSink]
        refine hFrame ?_ ?_ hSent <;> rfl
    · exact hFrame rfl rfl hs
  split
  · exact hEmitted
  · exact hEmitted
  · exact hSave _ _ hEmitted

namespace HandlerInvariant

variable {o : SessionOrchestrator σ D} {rounds : ℕ} {plan : SessionPlan}
  {P : SessionState σ D → Prop}

theorem maintains_modify (h : HandlerInvariant o rounds plan P)
    {f : SessionState σ D → SessionState σ D} (hEnv : ∀ s, (f s).env = s.env)
    (hHeld : ∀ s, (f s).held = s.held) : Maintains P (modify f : Session σ D Unit) :=
  fun s hs => h.frame (hEnv s) (hHeld s) hs

theorem maintains_throw {α : Type} (halt : Halt) : Maintains P (throw halt : Session σ D α) :=
  fun _ hs => hs

theorem maintains_recordPhase (h : HandlerInvariant o rounds plan P) (phase : SessionPhase)
    (startedAt : Timestamp) (endedAt : Option Timestamp) (unhashable : Option Exc) :
    Maintains P (recordPhase o plan phase startedAt endedAt unhashable) := by
  apply h.listPhases.bind
  intro phases
  cases unhashable with
  | none => exact h.appendPhase _
  | some e => exact maintains_throw _

/-- A phase keeps what its hook keeps. -/
theorem maintains_runPhase (h : HandlerInvariant o rounds plan P)
    (hRenew : ∀ now, Maintains P (renewLeadership o plan now)) (phase : SessionPhase)
    {hook : Hook σ D} (hHook : ∀ now token, Maintains P (ask (hook plan now token))) :
    Maintains P (runPhase o plan phase hook) := by
  apply h.clock.bind
  intro started
  apply (hRenew started).bind
  intro _
  refine .bind (fun s hs => hs) fun s => ?_
  cases s.lease with
  | none => exact maintains_throw _
  | some lease =>
    refine .bind (h.maintains_modify (fun _ => rfl) fun _ => rfl) fun _ => ?_
    apply (hHook started _).bind
    intro details
    apply h.clock.bind
    intro ended
    apply (hRenew ended).bind
    intro _
    exact (h.maintains_recordPhase _ _ _ _).bind fun _ => .pure details

theorem maintains_emitCritical (h : HandlerInvariant o rounds plan P) (code message : String)
    (now : Timestamp) : Maintains P (emitCritical o plan code message now) :=
  emitCritical_maintains h.frame h.saveAlert h.sink code message now

theorem maintains_runFlatten (h : HandlerInvariant o rounds plan P) (now : Timestamp) :
    Maintains P (runFlatten o rounds plan now) := by
  apply (h.flatten now).bind
  intro result
  apply (h.maintains_recordPhase _ _ _ _).bind
  intro _
  exact (h.saveFlatten _).bind fun _ => .pure _

theorem maintains_emergencyFlatten (h : HandlerInvariant o rounds plan P) (now : Timestamp) :
    Maintains P (emergencyFlatten o rounds plan now) := by
  apply Maintains.tryCatch
  · apply (h.maintains_runFlatten now).bind
    intro result
    exact h.maintains_modify (fun _ => rfl) fun _ => rfl
  · intro halt
    cases halt with
    | waiting => exact maintains_throw _
    | raised e => exact h.maintains_modify (fun _ => rfl) fun _ => rfl

/-- The handler of a failure, once its kill switch is stored. -/
theorem maintains_afterActivation (h : HandlerInvariant o rounds plan P) (code message : String)
    (now : Timestamp) : Maintains P (do
      emitCritical o plan code message now
      modify fun s => { s with outcome := .killed, finalPhase := .killed }
      emergencyFlatten o rounds plan now) := by
  apply (h.maintains_emitCritical _ _ _).bind
  intro _
  refine .bind (h.maintains_modify (fun _ => rfl) fun _ => rfl) fun _ => ?_
  exact h.maintains_emergencyFlatten now

theorem maintains_handleFailure (h : HandlerInvariant o rounds plan P) (hSwitch : IgnoresSwitch P)
    (e : Exc) : Maintains P (handleFailure o rounds plan e) := by
  apply h.clock.bind
  intro now
  refine .bind (fun s hs => ?_) fun _ => ?_
  · refine h.frame ?_ ?_ (hSwitch (activateKillSwitch plan.sessionId
      (reasonFromError e.describe) now (.error e.describe)) s hs) <;> rfl
  exact (h.saveActive _ rfl).bind fun _ => h.maintains_afterActivation _ _ now

theorem maintains_handle (h : HandlerInvariant o rounds plan P) (hSwitch : IgnoresSwitch P)
    (startedAt : Timestamp) (e : Exc) : Maintains P (handle o rounds plan startedAt e) := by
  cases e with
  | leadershipUnavailable message =>
    refine .bind (h.maintains_modify (fun _ => rfl) fun _ => rfl) fun _ => ?_
    exact h.maintains_emitCritical _ _ _
  | persistentKillSwitchActive message =>
    apply h.clock.bind
    intro now
    refine .bind (h.maintains_modify (fun _ => rfl) fun _ => rfl) fun _ => ?_
    apply (h.maintains_emitCritical _ _ _).bind
    intro _
    exact h.maintains_emergencyFlatten now
  | alpacaOperationsError _ _ _ => exact h.maintains_handleFailure hSwitch _
  | runtimeError _ => exact h.maintains_handleFailure hSwitch _
  | other _ _ => exact h.maintains_handleFailure hSwitch _

end HandlerInvariant

namespace SessionInvariant

variable {o : SessionOrchestrator σ D} {rounds : ℕ} {plan : SessionPlan}
  {P : SessionState σ D → Prop}

theorem maintains_waitUntil (h : SessionInvariant o rounds plan P) (target : Timestamp)
    (turns : ℕ) :
    Maintains P (waitUntil o plan target turns) := by
  induction turns with
  | zero => exact HandlerInvariant.maintains_throw _
  | succ turns ih =>
    apply h.clock.bind
    intro now
    simp only
    split_ifs
    · exact .pure ()
    · apply (h.sleep _).bind
      intro _
      apply h.clock.bind
      intro later
      exact (h.renew later).bind fun _ => ih

theorem maintains_waitAndRun (h : SessionInvariant o rounds plan P) {phase : SessionPhase}
    {hook : Hook σ D} (hRuns : o.Runs phase hook) (target : Timestamp) :
    Maintains P (waitAndRun o rounds plan phase target hook) :=
  (h.maintains_waitUntil target rounds).bind fun _ => h.phase phase hook hRuns

theorem maintains_preflight (h : SessionInvariant o rounds plan P) (phase : SessionPhase) :
    Maintains P (preflight o plan phase) := by
  apply h.clock.bind
  intro now
  apply (h.renew now).bind
  intro _
  apply (h.healthProbe now).bind
  intro health
  cases healthKillReason health plan plan.policy with
  | none => exact h.maintains_recordPhase _ _ _ _
  | some reason => exact HandlerInvariant.maintains_throw _

theorem maintains_evaluateSession (h : SessionInvariant o rounds plan P) :
    Maintains P (evaluateSession o rounds plan) := by
  apply (h.maintains_preflight _).bind
  intro _
  apply (h.maintains_waitAndRun .recorderWarmup _).bind
  intro _
  apply (h.maintains_waitAndRun .recording _).bind
  intro _
  apply (h.maintains_waitAndRun .featureFreeze _).bind
  intro _
  apply (h.maintains_waitAndRun .evaluation _).bind
  intro evaluation
  apply h.clock.bind
  intro now
  split_ifs
  · exact HandlerInvariant.maintains_throw _
  · split
    · exact HandlerInvariant.maintains_throw _
    · exact .pure _

theorem maintains_checkEntryCutoff (h : SessionInvariant o rounds plan P) :
    Maintains P (checkEntryCutoff o plan) := by
  apply h.clock.bind
  intro now
  split_ifs
  · exact HandlerInvariant.maintains_throw _
  · exact .pure _

theorem maintains_recordManaged (h : SessionInvariant o rounds plan P) (managed : PyDict D) :
    Maintains P (recordManaged managed) := by
  induction managed with
  | nil => exact .pure _
  | cons item rest ih =>
    obtain ⟨symbol, quantity⟩ := item
    unfold recordManaged
    cases rawQuantity quantity with
    | none => exact HandlerInvariant.maintains_throw _
    | some raw =>
      apply Maintains.bind ?_ fun _ => ih
      exact h.maintains_modify (fun _ => rfl) fun _ => rfl

/-- What follows on the execution phase. -/
theorem maintains_afterExecution (h : SessionInvariant o rounds plan P)
    (execution : HookDetails D) :
    Maintains P (do
      recordManaged (managedPositions execution.items)
      checkEntryCutoff o plan
      let _ ← runPhase o plan .monitoring o.hooks.reconcile
      modify fun s => { s with outcome := .completed, finalPhase := .monitoring }
      if ((execution.items.lookup "kill_switch_required").map (·.truthy)).getD false then
        raiseRuntimeError "execution requested kill switch") := by
  apply (h.maintains_recordManaged _).bind
  intro _
  apply h.maintains_checkEntryCutoff.bind
  intro _
  apply (h.phase _ _ .monitoring).bind
  intro _
  refine .bind (h.maintains_modify (fun _ => rfl) fun _ => rfl) fun _ => ?_
  split_ifs
  · exact HandlerInvariant.maintains_throw _
  · exact .pure _

theorem maintains_trade (h : SessionInvariant o rounds plan P)
    (hExecution : Maintains P (runPhase o plan .execution o.hooks.sizeAndExecute)) :
    Maintains P (trade o rounds plan) := by
  apply (h.maintains_waitUntil _ _).bind
  intro _
  apply (h.maintains_preflight _).bind
  intro _
  apply (h.maintains_waitUntil _ _).bind
  intro _
  apply h.maintains_checkEntryCutoff.bind
  intro _
  exact hExecution.bind h.maintains_afterExecution

theorem maintains_actOn (h : SessionInvariant o rounds plan P)
    (hTrade : Maintains P (trade o rounds plan)) (summary : EvaluationPhaseSummary) :
    Maintains P (actOn o rounds plan summary) := by
  unfold actOn
  split_ifs
  · exact h.maintains_modify (fun _ => rfl) fun _ => rfl
  · exact h.maintains_modify (fun _ => rfl) fun _ => rfl
  · exact hTrade

theorem maintains_closeSession (h : SessionInvariant o rounds plan P) (hSwitch : IgnoresSwitch P) :
    Maintains P (closeSession o rounds plan) := by
  apply (h.maintains_waitUntil _ _).bind
  intro _
  apply h.clock.bind
  intro now
  apply (h.maintains_runFlatten now).bind
  intro result
  refine .bind (h.maintains_modify (fun _ => rfl) fun _ => rfl) fun _ => ?_
  split_ifs
  · apply (h.maintains_recordPhase _ _ _ _).bind
    intro _
    apply h.clock.bind
    intro completedAt
    apply (h.maintains_recordPhase _ _ _ _).bind
    intro _
    exact h.maintains_modify (fun _ => rfl) fun _ => rfl
  · apply (hSwitch _).bind
    intro _
    apply (h.saveActive _ rfl).bind
    intro _
    apply (h.maintains_emitCritical _ _ _).bind
    intro _
    exact h.maintains_modify (fun _ => rfl) fun _ => rfl

/-- What follows once leadership is taken. -/
theorem maintains_afterTaken (h : SessionInvariant o rounds plan P) (hSwitch : IgnoresSwitch P)
    (hTrade : Maintains P (trade o rounds plan)) :
    Maintains P (do
      let summary ← evaluateSession o rounds plan
      actOn o rounds plan summary
      closeSession o rounds plan) := by
  apply h.maintains_evaluateSession.bind
  intro summary
  exact (h.maintains_actOn hTrade summary).bind fun _ => h.maintains_closeSession hSwitch

end SessionInvariant

/-! ### Assertions about the environment and the lease -/

/-- Every operation of a session on its way keeps `P`: neither the hooks nor those of the
leadership, and not those with which a run begins and ends. -/
structure SessionOrchestrator.Keeps (o : SessionOrchestrator σ D) (P : σ → Prop) : Prop where
  appendPhase : ∀ record env, P env → P (o.repository.appendPhase record env).2
  saveActive : ∀ state env, state.active = true → P env →
    P (o.repository.saveKillSwitch state env).2
  saveAlert : ∀ alert env, P env → P (o.repository.saveAlert alert env).2
  saveFlatten : ∀ result env, P env → P (o.repository.saveFlatten result env).2
  listPhases : ∀ sessionId env, P env → P (o.repository.listPhases sessionId env).2
  healthProbe : ∀ plan now env, P env → P (o.healthProbe plan now env).2
  sink : ∀ alert env, P env → P (o.alerts.sink alert env).2
  broker : o.broker.Keeps o.timing P

/-- The operations with which a run begins keep `P`; an inactive kill switch is saved only
where there is none. -/
structure SessionOrchestrator.Begins (o : SessionOrchestrator σ D) (P : σ → Prop) : Prop where
  clock : ∀ env, P env → P (o.timing.clock env).2
  savePlan : ∀ plan env, P env → P (o.repository.savePlan plan env).2
  latest : ∀ sessionId env, P env → P (o.repository.getLatestKillSwitch sessionId env).2
  saveFirst : ∀ sessionId env env', P env →
    o.repository.getLatestKillSwitch sessionId env = (.ok none, env') →
    P (o.repository.saveKillSwitch (inactiveKillSwitch sessionId) env').2

/-- The operations with which a run ends keep `P`. -/
structure SessionOrchestrator.Ends (o : SessionOrchestrator σ D) (P : σ → Prop) : Prop where
  clock : ∀ env, P env → P (o.timing.clock env).2
  release : ∀ lease now env, P env → P (o.leadership.release lease now env).2
  saveResult : ∀ result env, P env → P (o.repository.saveResult result env).2
  listPhases : ∀ sessionId env, P env → P (o.repository.listPhases sessionId env).2
  listAlerts : ∀ sessionId env, P env → P (o.repository.listAlerts sessionId env).2

/-- The hook, at whatever moment, keeps `P`. -/
def Hook.Keeps (hook : Hook σ D) (P : σ → Prop) : Prop :=
  ∀ plan now token env, P env → P (hook plan now token env).2

/-- The hooks of a session, but for the execution, keep `P`. -/
structure SessionHooks.Keeps (hooks : SessionHooks σ D) (P : σ → Prop) : Prop where
  warmupRecorder : hooks.warmupRecorder.Keeps P
  freezeFeatures : hooks.freezeFeatures.Keeps P
  evaluate : hooks.evaluate.Keeps P
  reconcile : hooks.reconcile.Keeps P

theorem SessionHooks.Keeps.of_runs {o : SessionOrchestrator σ D} {P : σ → Prop}
    (h : o.hooks.Keeps P) {phase : SessionPhase} {hook : Hook σ D} (hRuns : o.Runs phase hook) :
    hook.Keeps P := by
  cases hRuns with
  | recorderWarmup => exact h.warmupRecorder
  | recording => exact fun _ _ _ _ hEnv => hEnv
  | featureFreeze => exact h.freezeFeatures
  | evaluation => exact h.evaluate
  | monitoring => exact h.reconcile

/-- `R` holds of what the session holds and of its environment. -/
def Satisfies (R : Held → σ → Prop) (s : SessionState σ D) : Prop := R s.held s.env

section Satisfies

variable {o : SessionOrchestrator σ D} {rounds : ℕ} {plan : SessionPlan} {R : Held → σ → Prop}
  {P : σ → Prop}

theorem ignoresSwitch_satisfies : IgnoresSwitch (Satisfies fun _ => P : SessionState σ D → Prop) :=
  fun _ _ hs => hs

theorem satisfies_ask {α : Type} {operation : σ → Except Exc α × σ}
    (h : ∀ held env, R held env → R held (operation env).2) :
    Maintains (Satisfies R) (ask operation : Session σ D α) := by
  intro s hs
  rw [exec_ask]
  exact h _ s.env hs

theorem satisfies_callFlatten (h : ∀ held, o.broker.Keeps o.timing (R held)) (now : Timestamp) :
    Maintains (Satisfies R) (callFlatten o rounds plan now) := by
  intro s hs
  have hFlattened : R s.held
      ((flatten o.broker o.timing rounds plan now s.managedQuantities).exec
        (.start s.env)).2.broker :=
    (h _).maintains_flatten rounds plan now s.managedQuantities (.start s.env) hs
  rw [callFlatten_state]
  exact hFlattened

theorem SessionOrchestrator.Keeps.handlerInvariant (h : ∀ held, o.Keeps (R held)) :
    HandlerInvariant o rounds plan (Satisfies R) where
  frame := by
    intro s t hEnv hHeld hs
    show R t.held t.env
    rw [hEnv, hHeld]
    exact hs
  listPhases := satisfies_ask fun held => (h held).listPhases _
  appendPhase record := satisfies_ask fun held => (h held).appendPhase record
  saveFlatten result := satisfies_ask fun held => (h held).saveFlatten result
  saveAlert alert := satisfies_ask fun held => (h held).saveAlert alert
  saveActive state hActive := satisfies_ask fun held env => (h held).saveActive state env hActive
  clock s hs := (h _).broker.clock s.env hs
  sink alert s hs := (h _).sink alert s.env hs
  flatten := satisfies_callFlatten fun held => (h held).broker

theorem SessionOrchestrator.Keeps.sessionInvariant (h : ∀ held, o.Keeps (R held))
    (hRenew : ∀ now, Maintains (Satisfies R) (renewLeadership o plan now))
    (hPhase : ∀ phase hook, o.Runs phase hook →
      Maintains (Satisfies R) (runPhase o plan phase hook)) :
    SessionInvariant o rounds plan (Satisfies R) where
  toHandlerInvariant := handlerInvariant h
  healthProbe now := satisfies_ask fun held => (h held).healthProbe plan now
  sleep seconds s hs := (h _).broker.sleep seconds s.env hs
  renew := hRenew
  phase := hPhase

/-- Where no operation breaks `R`, the phases keep what their hooks keep. -/
theorem SessionOrchestrator.Keeps.phasesInvariant (h : ∀ held, o.Keeps (R held))
    (hRenew : ∀ now, Maintains (Satisfies R) (renewLeadership o plan now))
    (hHooks : ∀ held, o.hooks.Keeps (R held)) :
    SessionInvariant o rounds plan (Satisfies R) := by
  have hInvariant : HandlerInvariant o rounds plan (Satisfies R) := handlerInvariant h
  refine sessionInvariant h hRenew fun phase hook hRuns => ?_
  apply hInvariant.maintains_runPhase hRenew
  intro now token
  exact satisfies_ask fun held => (hHooks held).of_runs hRuns plan now token

/-- A renewal keeps what the repository keeps, where the lease does not matter. -/
theorem maintains_renewLeadership
    (h : ∀ held lease now ttl env, R held env → R held (o.leadership.renew lease now ttl env).2)
    (hLease : ∀ held lease renewed env, R held env →
      R { held with lease := lease, lastRenewedAt := renewed } env) (now : Timestamp) :
    Maintains (Satisfies R) (renewLeadership o plan now) := by
  refine .bind (fun s hs => hs) fun s => ?_
  cases s.lease with
  | none => exact HandlerInvariant.maintains_throw _
  | some lease =>
    simp only
    split_ifs
    · exact .pure ()
    · apply (satisfies_ask fun held => h held _ _ _).bind
      intro renewed
      cases renewed with
      | none => exact HandlerInvariant.maintains_throw _
      | some renewed => exact fun s hs => hLease s.held (some renewed) (some now) s.env hs

theorem SessionOrchestrator.Begins.maintains_beginRun (h : o.Begins P)
    (startAt : Option Timestamp) :
    Maintains (Satisfies fun _ => P) (beginRun o plan startAt) := by
  have hLatest : Maintains (Satisfies fun _ => P) (latestKillSwitch o plan) := by
    intro s hs
    have hRead := h.latest plan.sessionId s.env hs
    rw [latestKillSwitch, exec_bind, exec_ask]
    rcases hGet : o.repository.getLatestKillSwitch plan.sessionId s.env with ⟨_ | _ | state, env⟩
    · rw [hGet] at hRead
      exact hRead
    · simp only [Except.mapError]
      rw [exec_bind, exec_ask]
      have hSaved := h.saveFirst plan.sessionId s.env env hs hGet
      rcases hSave : o.repository.saveKillSwitch (inactiveKillSwitch plan.sessionId) env with
        ⟨_ | _, env'⟩ <;>
      · rw [hSave] at hSaved
        exact hSaved
    · rw [hGet] at hRead
      exact hRead
  have hStart : Maintains (Satisfies fun _ => P) (startTime o startAt) := by
    cases startAt with
    | none => exact fun s hs => h.clock s.env hs
    | some startAt => exact .pure startAt
  apply hStart.bind
  intro startedAt
  apply (satisfies_ask fun _ => h.savePlan plan).bind
  intro _
  apply hLatest.bind
  intro killSwitch
  exact .bind (fun s hs => hs) fun _ => .pure startedAt

theorem SessionOrchestrator.Keeps.maintains_takeLeadership (h : ∀ held, o.Keeps (R held))
    (hAcquire : ∀ held sessionId holderId now ttl env, R held env →
      R held (o.leadership.acquire sessionId holderId now ttl env).2)
    (hLease : ∀ held lease renewed env, R held env →
      R { held with lease := lease, lastRenewedAt := renewed } env) (startedAt : Timestamp) :
    Maintains (Satisfies R) (takeLeadership o plan startedAt) := by
  have hInvariant : HandlerInvariant o 0 plan (Satisfies R) := handlerInvariant h
  apply (satisfies_ask fun held => hAcquire held _ _ _ _).bind
  intro granted
  cases granted with
  | none => exact HandlerInvariant.maintains_throw _
  | some lease =>
    refine .bind (fun s hs => hLease s.held (some lease) (some startedAt) s.env hs) fun _ => ?_
    apply (hInvariant.maintains_recordPhase .leadershipAcquired _ _ _).bind
    intro _
    refine .bind (fun s hs => hs) fun s => ?_
    simp only
    split_ifs
    · exact HandlerInvariant.maintains_throw _
    · exact .pure ()

theorem satisfies_releaseLeadership
    (h : ∀ held lease now env, R held env → R held (o.leadership.release lease now env).2)
    (completedAt : Timestamp) : Maintains (Satisfies R) (releaseLeadership o completedAt) := by
  refine .bind (fun s hs => hs) fun s => ?_
  cases s.acquired with
  | none => exact .pure ()
  | some lease => exact satisfies_ask fun held => h held lease completedAt

theorem SessionOrchestrator.Ends.maintains_conclude (h : o.Ends P) (startedAt : Timestamp) :
    Maintains (Satisfies fun _ => P) (conclude o plan startedAt) := by
  refine .bind (fun s hs => h.clock s.env hs) fun completedAt => ?_
  apply (satisfies_releaseLeadership (fun _ => h.release) completedAt).bind
  intro _
  apply (satisfies_ask fun _ => h.listPhases _).bind
  intro phases
  apply (satisfies_ask fun _ => h.listAlerts _).bind
  intro alerts
  refine .bind (fun s hs => hs) fun s => ?_
  exact (satisfies_ask fun _ => h.saveResult _).bind fun _ => .pure _

end Satisfies

/-! ### Whole runs -/

/-- A run ends as its last part does, whatever came before. -/
theorem run_maintains {o : SessionOrchestrator σ D} {rounds : ℕ} {plan : SessionPlan}
    {startAt : Option Timestamp} {w : SessionState σ D} {P Q : SessionState σ D → Prop}
    (hBegin : Q ((beginRun o plan startAt).exec w).2)
    (hTry : ∀ startedAt s, (beginRun o plan startAt).exec w = (.ok startedAt, s) →
      P ((tryCatch (trySession o rounds plan startedAt) fun
        | .waiting => throw .waiting
        | .raised e => handle o rounds plan startedAt e).exec s).2)
    (hWeaken : ∀ s, P s → Q s)
    (hConclude : ∀ startedAt s, P s → Q ((conclude o plan startedAt).exec s).2) :
    Q ((run o rounds plan startAt).exec w).2 := by
  apply bind_maintains hBegin
  intro startedAt s hBegun _
  have hEnded := hTry startedAt s hBegun
  rw [exec_bind, exec_attempt]
  simp only
  generalize (tryCatch (trySession o rounds plan startedAt) _).exec s = ended at hEnded ⊢
  rcases ended with ⟨(e | _) | _, t⟩
  · exact bind_maintains (hConclude startedAt t hEnded) fun _ _ _ hu => hu
  · exact hWeaken t hEnded
  · exact hConclude startedAt t hEnded

/-- The operations of a session all keep `P`. -/
structure SessionOrchestrator.Preserves (o : SessionOrchestrator σ D) (P : σ → Prop) : Prop where
  keeps : o.Keeps P
  begins : o.Begins P
  ends : o.Ends P
  hooks : o.hooks.Keeps P
  sizeAndExecute : o.hooks.sizeAndExecute.Keeps P
  acquire : ∀ sessionId holderId now ttl env, P env →
    P (o.leadership.acquire sessionId holderId now ttl env).2
  renew : ∀ lease now ttl env, P env → P (o.leadership.renew lease now ttl env).2

section Preserves

variable {o : SessionOrchestrator σ D} {rounds : ℕ} {plan : SessionPlan} {P : σ → Prop}

theorem SessionOrchestrator.Preserves.invariant (h : o.Preserves P) :
    SessionInvariant o rounds plan (Satisfies fun _ => P) :=
  Keeps.phasesInvariant (fun _ => h.keeps)
    (maintains_renewLeadership (fun _ => h.renew) fun _ _ _ _ hEnv => hEnv) fun _ => h.hooks

theorem SessionOrchestrator.Preserves.maintains_takeLeadership (h : o.Preserves P)
    (startedAt : Timestamp) :
    Maintains (Satisfies fun _ => P) (takeLeadership o plan startedAt) :=
  Keeps.maintains_takeLeadership (fun _ => h.keeps) (fun _ => h.acquire)
    (fun _ _ _ _ hEnv => hEnv) startedAt

/-- What follows once leadership is taken, the execution included. -/
theorem SessionOrchestrator.Preserves.maintains_afterTaken (h : o.Preserves P) :
    Maintains (Satisfies fun _ => P) (do
      let summary ← evaluateSession o rounds plan
      actOn o rounds plan summary
      closeSession o rounds plan) := by
  have hInvariant : SessionInvariant o rounds plan (Satisfies fun _ => P) := h.invariant
  have hExecution : Maintains (Satisfies fun _ => P)
      (runPhase o plan .execution o.hooks.sizeAndExecute) :=
    hInvariant.maintains_runPhase hInvariant.renew .execution fun now token =>
      satisfies_ask fun _ => h.sizeAndExecute plan now token
  exact hInvariant.maintains_afterTaken ignoresSwitch_satisfies
    (hInvariant.maintains_trade hExecution)

/-- A session keeps what its operations keep. -/
theorem SessionOrchestrator.Preserves.maintains_run (h : o.Preserves P)
    (startAt : Option Timestamp) :
    Maintains (Satisfies fun _ => P) (run o rounds plan startAt) := by
  have hInvariant : SessionInvariant o rounds plan (Satisfies fun _ => P) := h.invariant
  intro w hw
  have hBegun : Satisfies (fun _ => P) ((beginRun o plan startAt).exec w).2 :=
    h.begins.maintains_beginRun startAt w hw
  refine run_maintains hBegun ?_ (fun _ hs => hs) h.ends.maintains_conclude
  intro startedAt s hBegin
  rw [hBegin] at hBegun
  refine Maintains.tryCatch ?_ (fun halt => ?_) s hBegun
  · exact (h.maintains_takeLeadership startedAt).bind fun _ => h.maintains_afterTaken
  · cases halt with
    | waiting => exact HandlerInvariant.maintains_throw _
    | raised e => exact hInvariant.maintains_handle ignoresSwitch_satisfies startedAt e

end Preserves

end Daybreak.Orchestration
