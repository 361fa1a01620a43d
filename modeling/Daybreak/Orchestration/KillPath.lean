import Daybreak.Orchestration.Closes
import Daybreak.Orchestration.Session

/-! What follows on a failure. The handlers send their alert before they flatten, so
the flatten of the kill path is reached exactly when that alert is delivered. -/

namespace Daybreak.Orchestration

open Numeric DecimalArithmetic Effect Program

variable {σ D : Type} [DecimalArithmetic D]

def SessionCall.isFlatten : SessionCall → Bool
  | .hook _ _ _ => false
  | .flatten _ => true

/-- The flatten service is called between two states of a run. -/
def FlattenedSince (before after : SessionState σ D) : Prop :=
  ∃ call ∈ after.calls.drop before.calls.length, call.1.isFlatten

instance (before after : SessionState σ D) : Decidable (FlattenedSince before after) := by
  unfold FlattenedSince; infer_instance

/-! ### Steps that call neither a hook nor the flatten service -/

/-- The calls so far are these. -/
def Called (calls : List (SessionCall × σ)) (s : SessionState σ D) : Prop := s.calls = calls

variable {calls : List (SessionCall × σ)} {s : SessionState σ D}

theorem exec_clock (timing : Timing σ) (s : SessionState σ D) :
    (clock timing).exec s =
      (.ok (timing.clock s.env).1, { s with env := (timing.clock s.env).2 }) := rfl

theorem exec_modify (f : SessionState σ D → SessionState σ D) (s : SessionState σ D) :
    (modify f : Session σ D Unit).exec s = (.ok (), f s) := rfl

theorem exec_ask {α : Type} (operation : σ → Except Exc α × σ) (s : SessionState σ D) :
    (ask operation).exec s =
      ((operation s.env).1.mapError .raised, { s with env := (operation s.env).2 }) := by
  rw [ask, exec_bind, exec_get]
  simp only
  rw [exec_bind, exec_set]
  simp only
  cases (operation s.env).1 <;> rfl

theorem maintains_ask {α : Type} (operation : σ → Except Exc α × σ) :
    Maintains (Called calls) (ask operation : Session σ D α) := by
  intro s hs
  rw [exec_ask]
  exact hs

theorem maintains_clock (timing : Timing σ) :
    Maintains (Called calls) (clock timing : Session σ D Timestamp) :=
  fun _ hs => hs

theorem maintains_throw {α : Type} (halt : Halt) :
    Maintains (Called calls) (throw halt : Session σ D α) :=
  fun _ hs => hs

theorem maintains_recordPhase (o : SessionOrchestrator σ D) (plan : SessionPlan)
    (phase : SessionPhase) (startedAt : Timestamp) (endedAt : Option Timestamp)
    (unhashable : Option Exc) :
    Maintains (Called calls) (recordPhase o plan phase startedAt endedAt unhashable) := by
  apply (maintains_ask _).bind
  intro phases
  cases unhashable with
  | none => exact maintains_ask _
  | some e => exact maintains_throw _

theorem maintains_emitCritical (o : SessionOrchestrator σ D) (plan : SessionPlan)
    (code message : String) (now : Timestamp) :
    Maintains (Called calls) (emitCritical o plan code message now) := by
  intro s hs
  rw [emitCritical, exec_bind, exec_get]
  simp only
  rw [exec_bind, exec_set]
  simp only
  split
  · exact hs
  · exact hs
  · exact maintains_ask _ _ hs

theorem maintains_releaseLeadership (o : SessionOrchestrator σ D) (completedAt : Timestamp) :
    Maintains (Called calls) (releaseLeadership o completedAt) := by
  intro s hs
  rw [releaseLeadership, exec_bind, exec_get]
  simp only
  cases s.acquired with
  | none => exact hs
  | some lease => exact maintains_ask _ _ hs

theorem maintains_conclude (o : SessionOrchestrator σ D) (plan : SessionPlan)
    (startedAt : Timestamp) : Maintains (Called calls) (conclude o plan startedAt) := by
  apply (maintains_clock _).bind
  intro completedAt
  apply (maintains_releaseLeadership _ _).bind
  intro _
  apply (maintains_ask _).bind
  intro phases
  apply (maintains_ask _).bind
  intro alerts s hs
  rw [exec_bind, exec_get]
  exact (maintains_ask _).bind (fun _ => Maintains.pure _) s hs

/-! ### The flatten of a handler -/

/-- The session after a call of the flatten, whatever comes of it. -/
theorem callFlatten_state (o : SessionOrchestrator σ D) (rounds : ℕ) (plan : SessionPlan)
    (now : Timestamp) (s : SessionState σ D) :
    ((callFlatten o rounds plan now).exec s).2 = { s with
      calls := s.calls ++ [(.flatten now, s.env)]
      env := ((flatten o.broker o.timing rounds plan now s.managedQuantities).exec
        (.start s.env)).2.broker } := by
  have hLog : (logCall (.flatten now)).exec s =
      (.ok (), { s with calls := s.calls ++ [(.flatten now, s.env)] }) := rfl
  rw [callFlatten, exec_bind, hLog]
  simp only
  rw [exec_bind, exec_get]
  simp only
  rw [exec_bind, exec_set]
  simp only
  split <;> rfl

theorem callFlatten_calls (o : SessionOrchestrator σ D) (rounds : ℕ) (plan : SessionPlan)
    (now : Timestamp) (s : SessionState σ D) :
    Called (s.calls ++ [(.flatten now, s.env)]) ((callFlatten o rounds plan now).exec s).2 := by
  rw [callFlatten_state]
  rfl

theorem runFlatten_calls (o : SessionOrchestrator σ D) (rounds : ℕ) (plan : SessionPlan)
    (now : Timestamp) (s : SessionState σ D) :
    Called (s.calls ++ [(.flatten now, s.env)]) ((runFlatten o rounds plan now).exec s).2 := by
  apply bind_maintains (callFlatten_calls o rounds plan now s)
  intro result t _ ht
  refine Maintains.bind (maintains_recordPhase _ _ _ _ _ _) (fun _ => ?_) t ht
  exact (maintains_ask _).bind fun _ => Maintains.pure _

/-- The flatten of a handler is called, whatever comes of it. -/
theorem emergencyFlatten_calls (o : SessionOrchestrator σ D) (rounds : ℕ) (plan : SessionPlan)
    (now : Timestamp) (s : SessionState σ D) :
    Called (s.calls ++ [(.flatten now, s.env)])
      ((emergencyFlatten o rounds plan now).exec s).2 := by
  have hFlatten : Called (s.calls ++ [(.flatten now, s.env)])
      ((runFlatten o rounds plan now >>= fun result =>
        modify fun s => { s with flattenResult := some result }).exec s).2 :=
    bind_maintains (runFlatten_calls o rounds plan now s) fun _ _ _ ht => ht
  rw [emergencyFlatten, exec_tryCatch]
  split
  · next hExec =>
    rw [hExec] at hFlatten
    exact hFlatten
  · next e t hExec =>
    rw [hExec] at hFlatten
    cases e <;> exact hFlatten

/-! ### The alert of a handler -/

/-- A failure in this state has its alert delivered: the kill switch is stored first, and
what the sink does then decides. -/
def FailureAlerted (o : SessionOrchestrator σ D) (plan : SessionPlan) (e : Exc)
    (s : SessionState σ D) : Prop :=
  let now := o.timing.clock s.env
  let reason := reasonFromError e.describe
  let killSwitch := activateKillSwitch plan.sessionId reason now.1 (.error e.describe)
  o.alerts.Delivers (alertFields plan.sessionId .critical reason.value e.describe now.1)
    s.lastSent (o.repository.saveKillSwitch killSwitch now.2).2

/-- The branch of an exception that is raised in this state is one that flattens, and
its alert is delivered. -/
def Alerted (o : SessionOrchestrator σ D) (plan : SessionPlan) (s : SessionState σ D) :
    Exc → Prop
  | .leadershipUnavailable _ => False
  | .persistentKillSwitchActive message =>
    let now := o.timing.clock s.env
    o.alerts.Delivers
      (alertFields plan.sessionId .critical "PERSISTENT_KILL_SWITCH_ACTIVE" message now.1)
      s.lastSent now.2
  | e => FailureAlerted o plan e s

/-- With a repository that stores it, an alert ends its handler exactly when it is not
delivered. -/
theorem emitCritical_ok_iff {o : SessionOrchestrator σ D} {plan : SessionPlan}
    (hSave : ∀ alert s, (o.repository.saveAlert alert s).1 = .ok ()) (code message : String)
    (now : Timestamp) (s : SessionState σ D) :
    ((emitCritical o plan code message now).exec s).1 = .ok () ↔
      o.alerts.Delivers (alertFields plan.sessionId .critical code message now)
        s.lastSent s.env := by
  rw [← o.alerts.emit_ok_iff, emitCritical, exec_bind, exec_get]
  simp only
  rw [exec_bind, exec_set]
  simp only
  rcases o.alerts.emit (alertFields plan.sessionId .critical code message now) s.lastSent s.env
    with ⟨_ | _ | alert, noted, env⟩
  · refine iff_of_false ?_ ?_
    · intro h
      cases h
    · rintro ⟨alert, h⟩
      cases h
  · exact ⟨fun _ => ⟨none, rfl⟩, fun _ => rfl⟩
  · simp [exec_ask, hSave, Except.mapError]

/-! ### The handlers -/

theorem not_flattenedSince {t : SessionState σ D} (h : Called s.calls t) :
    ¬ FlattenedSince s t := by
  rintro ⟨call, hCall, -⟩
  rw [show t.calls = s.calls from h, List.drop_length] at hCall
  cases hCall

theorem flattenedSince_of_append {t : SessionState σ D} {now : Timestamp} {env : σ}
    (h : Called (s.calls ++ [(.flatten now, env)]) t) : FlattenedSince s t := by
  refine ⟨(.flatten now, env), ?_, rfl⟩
  rw [show t.calls = _ from h, List.drop_left]
  exact List.mem_singleton_self _

/-- A handler that goes on to flatten after its alert does so exactly when the alert is
delivered. -/
theorem emitThenFlatten_iff {o : SessionOrchestrator σ D} {plan : SessionPlan}
    (hSave : ∀ alert s, (o.repository.saveAlert alert s).1 = .ok ()) (code message : String)
    (now : Timestamp) {rest : Session σ D Unit}
    (hRest : ∀ t, Called (t.calls ++ [(.flatten now, t.env)]) (rest.exec t).2)
    {before : SessionState σ D} (hBefore : Called before.calls s) :
    FlattenedSince before ((emitCritical o plan code message now >>= fun _ => rest).exec s).2 ↔
      o.alerts.Delivers (alertFields plan.sessionId .critical code message now)
        s.lastSent s.env := by
  have hCalls := maintains_emitCritical o plan code message now s hBefore
  rw [← emitCritical_ok_iff hSave code message now s, exec_bind]
  cases hExec : (emitCritical o plan code message now).exec s with
  | mk answer t =>
    rw [hExec] at hCalls
    cases answer with
    | ok _ =>
      have hFlatten := hRest t
      rw [show t.calls = before.calls from hCalls] at hFlatten
      exact iff_of_true (flattenedSince_of_append hFlatten) rfl
    | error e => exact iff_of_false (not_flattenedSince hCalls) (by simp)

/-- The handler of a failure flattens exactly when its alert is delivered. -/
theorem handleFailure_flattens_iff {o : SessionOrchestrator σ D} {plan : SessionPlan}
    (hSwitch : ∀ killSwitch s, (o.repository.saveKillSwitch killSwitch s).1 = .ok ())
    (hSave : ∀ alert s, (o.repository.saveAlert alert s).1 = .ok ()) (rounds : ℕ) (e : Exc)
    (s : SessionState σ D) :
    FlattenedSince s ((handleFailure o rounds plan e).exec s).2 ↔
      FailureAlerted o plan e s := by
  rw [handleFailure, exec_bind, exec_clock]
  simp only
  rw [exec_bind, exec_modify]
  simp only
  rw [exec_bind, exec_ask, hSwitch]
  simp only [Except.mapError, FailureAlerted]
  refine emitThenFlatten_iff hSave _ _ _ (fun t => ?_) rfl
  rw [exec_bind, exec_modify]
  exact emergencyFlatten_calls o rounds plan _ _

/-- The handlers, one branch each. -/
theorem handle_flattens_iff {o : SessionOrchestrator σ D} {plan : SessionPlan}
    (hSwitch : ∀ killSwitch s, (o.repository.saveKillSwitch killSwitch s).1 = .ok ())
    (hSave : ∀ alert s, (o.repository.saveAlert alert s).1 = .ok ()) (rounds : ℕ)
    (startedAt : Timestamp) (e : Exc) (s : SessionState σ D) :
    FlattenedSince s ((handle o rounds plan startedAt e).exec s).2 ↔ Alerted o plan s e := by
  cases e with
  | leadershipUnavailable message =>
    rw [handle, exec_bind, exec_modify]
    exact iff_of_false (not_flattenedSince (maintains_emitCritical o plan _ _ _ _ rfl)) id
  | persistentKillSwitchActive message =>
    rw [handle, exec_bind, exec_clock]
    simp only
    rw [exec_bind, exec_modify]
    exact emitThenFlatten_iff hSave _ _ _ (emergencyFlatten_calls o rounds plan _) rfl
  | alpacaOperationsError _ _ _ => exact handleFailure_flattens_iff hSwitch hSave rounds _ s
  | runtimeError _ => exact handleFailure_flattens_iff hSwitch hSave rounds _ s
  | other _ _ => exact handleFailure_flattens_iff hSwitch hSave rounds _ s

/-- After a failure, only the handler calls anything. -/
theorem run_calls {o : SessionOrchestrator σ D} {rounds : ℕ} {plan : SessionPlan}
    {startAt : Option Timestamp} {w s t : SessionState σ D} {startedAt : Timestamp} {e : Exc}
    (hBegin : (beginRun o plan startAt).exec w = (.ok startedAt, s))
    (hFail : (trySession o rounds plan startedAt).exec s = (.error (.raised e), t)) :
    Called ((handle o rounds plan startedAt e).exec t).2.calls
      ((run o rounds plan startAt).exec w).2 := by
  rw [run, exec_bind, hBegin]
  simp only
  rw [exec_bind, exec_attempt, exec_tryCatch, hFail]
  simp only
  rcases (handle o rounds plan startedAt e).exec t with ⟨(raised | waiting) | ended, u⟩
  · exact Maintains.bind (maintains_conclude o plan startedAt) (fun _ => maintains_throw _) u rfl
  · exact rfl
  · exact maintains_conclude o plan startedAt u rfl

/-! ### Which alerts are delivered -/

theorem reasonValue_length (reason : KillSwitchReason) :
    1 ≤ reason.value.length ∧ reason.value.length ≤ 128 := by
  cases reason <;> decide

/-- An alert of a session is valid when its text fits. -/
theorem alertFields_valid (plan : SessionPlan) {code message : String} (now : Timestamp)
    (hCode : 1 ≤ code.length ∧ code.length ≤ 128)
    (hMessage : 1 ≤ message.length ∧ message.length ≤ 2048) :
    (alertFields plan.sessionId .critical code message now).Valid := by
  have hSession := plan.valid.1.1
  refine ⟨hCode, hMessage, ?_⟩
  show 1 ≤ (plan.sessionId ++ ":" ++ code).length ∧ (plan.sessionId ++ ":" ++ code).length ≤ 256
  rw [String.length_append, String.length_append, show ":".length = 1 from rfl]
  omega

/-- With a sink that never raises, a failure whose text fits is alerted. -/
theorem failureAlerted_of_sink {o : SessionOrchestrator σ D} (plan : SessionPlan) (e : Exc)
    (s : SessionState σ D) (hSink : ∀ alert s, (o.alerts.sink alert s).1 = .ok ())
    (hText : e.describe.length ≤ 2048) : FailureAlerted o plan e s := by
  have hNonempty : 1 ≤ e.describe.length := by
    rw [Exc.describe, String.length_append, String.length_append, show ": ".length = 2 from rfl]
    omega
  exact .inr ⟨alertFields_valid plan _ (reasonValue_length _) ⟨hNonempty, hText⟩, hSink _ _⟩

/-! ### A paper session -/

/-- A session on a paper account whose recorder does not start, with the answer of its
alert sink. -/
def paperSession (sent : Except Exc Unit) : SessionOrchestrator Paper Decimal where
  holderId := "holder-1"
  leadership := {
    acquire := fun sessionId holderId now _ paper =>
      (.ok (some ⟨sessionId, holderId, now, now, now + 30000000, 1⟩), paper)
    renew := fun lease now _ paper =>
      (.ok (some { lease with renewedAt := now, expiresAt := now + 30000000 }), paper)
    release := fun _ _ paper => (.ok (), paper) }
  repository := {
    savePlan := fun _ paper => (.ok (), paper)
    appendPhase := fun _ paper => (.ok (), paper)
    saveKillSwitch := fun _ paper => (.ok (), paper)
    getLatestKillSwitch := fun _ paper => (.ok none, paper)
    saveAlert := fun _ paper => (.ok (), paper)
    saveFlatten := fun _ paper => (.ok (), paper)
    saveResult := fun _ paper => (.ok (), paper)
    listPhases := fun _ paper => (.ok [], paper)
    listAlerts := fun _ paper => (.ok [], paper) }
  healthProbe plan now paper := (.ok {
    observedAt := now
    clockSynchronized := true
    clockSkewMs := 0
    databaseHealthy := true
    recorderHealthy := true
    marketDataStreamHealthy := true
    tradeUpdateStreamHealthy := true
    brokerHealthy := true
    accountActive := true
    configurationHash := plan.configurationHash }, paper)
  hooks := {
    warmupRecorder := fun _ _ _ paper => (.error (.runtimeError "recorder failed"), paper)
    freezeFeatures := fun _ _ _ paper => (.ok ⟨[], none⟩, paper)
    evaluate := fun _ _ _ paper => (.ok ⟨[], none⟩, paper)
    sizeAndExecute := fun _ _ _ paper => (.ok ⟨[], none⟩, paper)
    reconcile := fun _ _ _ paper => (.ok ⟨[], none⟩, paper) }
  broker := paperApi.operations
  alerts := { sink := fun _ paper => (sent, paper) }
  timing := paperTiming

def paperState : SessionState Paper Decimal where
  env := .start (.ofInt 5) [] (.ofInt 0)
  lastSent := ∅
  lease := none
  lastRenewedAt := none
  acquired := none
  killSwitch := inactiveKillSwitch ""
  flattenResult := none
  outcome := .failed
  finalPhase := .created
  errorMessage := none
  managedQuantities := []
  calls := []

def paperSessionFailed (sent : Except Exc Unit) :
    Except Halt Unit × SessionState Paper Decimal :=
  (trySession (paperSession sent) 1 samplePlan 0).exec
    ((beginRun (paperSession sent) samplePlan (some 0)).exec paperState).2

def paperSessionEnded (sent : Except Exc Unit) : SessionState Paper Decimal :=
  ((run (paperSession sent) 1 samplePlan (some 0)).exec paperState).2

/-! ### The kill path -/

/-- With a repository that stores the kill switch and the alert, a session that fails
flattens after the failure exactly when the handler of the failure is one that flattens
and delivers its alert. -/
theorem failure_flattens_iff (o : SessionOrchestrator σ D) (rounds : ℕ) (plan : SessionPlan)
    (startAt : Option Timestamp) (w s t : SessionState σ D) (startedAt : Timestamp) (e : Exc)
    (hSwitch : ∀ killSwitch s, (o.repository.saveKillSwitch killSwitch s).1 = .ok ())
    (hSave : ∀ alert s, (o.repository.saveAlert alert s).1 = .ok ())
    (hBegin : (beginRun o plan startAt).exec w = (.ok startedAt, s))
    (hFail : (trySession o rounds plan startedAt).exec s = (.error (.raised e), t)) :
    FlattenedSince t ((run o rounds plan startAt).exec w).2 ↔ Alerted o plan t e := by
  rw [← handle_flattens_iff hSwitch hSave rounds startedAt e t]
  unfold FlattenedSince
  rw [run_calls hBegin hFail]

/-- The alert of the failed recorder is delivered. -/
theorem deliveredAlert_flattens :
    FlattenedSince (paperSessionFailed (.ok ())).2 (paperSessionEnded (.ok ())) := by
  have hFail : (paperSessionFailed (.ok ())).1 =
      .error (.raised (.runtimeError "recorder failed")) := by
    decide +kernel
  exact (failure_flattens_iff (paperSession (.ok ())) 1 samplePlan (some 0) paperState _
    (paperSessionFailed (.ok ())).2 0 _ (fun _ _ => rfl) (fun _ _ => rfl) rfl
    (Prod.ext hFail rfl)).mpr
    (failureAlerted_of_sink samplePlan _ _ (fun _ _ => rfl) (by decide))

/-- The session holds leadership and its recorder fails; the sink raises as well, and
nothing is flattened. -/
theorem raisingSink_never_flattens :
    (paperSessionFailed (.error (.runtimeError "sink failed"))).1 =
        .error (.raised (.runtimeError "recorder failed")) ∧
      (paperSessionFailed (.error (.runtimeError "sink failed"))).2.acquired.isSome ∧
      ¬ FlattenedSince (paperSessionFailed (.error (.runtimeError "sink failed"))).2
        (paperSessionEnded (.error (.runtimeError "sink failed"))) := by
  decide +kernel

end Daybreak.Orchestration
