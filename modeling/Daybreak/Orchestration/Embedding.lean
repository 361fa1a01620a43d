import Daybreak.Orchestration.Invariants

/-! A session on a larger environment. The operations of an orchestrator are lifted to an
environment that has theirs as a part, so that a store or a clock that is known can stand
beside what is not. -/

namespace Daybreak.Orchestration

open Numeric

variable {σ τ κ D : Type} [DecimalArithmetic D]

/-- The operations of an orchestrator, each lifted in the same way, under another clock. -/
def SessionOrchestrator.via (o : SessionOrchestrator σ D)
    (lift : ∀ {α : Type}, (σ → Except Exc α × σ) → τ → Except Exc α × τ) (timing : Timing τ) :
    SessionOrchestrator τ D where
  holderId := o.holderId
  leadership := {
    acquire := fun sessionId holderId now ttlSeconds =>
      lift (o.leadership.acquire sessionId holderId now ttlSeconds)
    renew := fun lease now ttlSeconds => lift (o.leadership.renew lease now ttlSeconds)
    release := fun lease now => lift (o.leadership.release lease now) }
  repository := {
    savePlan := fun plan => lift (o.repository.savePlan plan)
    appendPhase := fun record => lift (o.repository.appendPhase record)
    saveKillSwitch := fun state => lift (o.repository.saveKillSwitch state)
    getLatestKillSwitch := fun sessionId => lift (o.repository.getLatestKillSwitch sessionId)
    saveAlert := fun alert => lift (o.repository.saveAlert alert)
    saveFlatten := fun result => lift (o.repository.saveFlatten result)
    saveResult := fun result => lift (o.repository.saveResult result)
    listPhases := fun sessionId => lift (o.repository.listPhases sessionId)
    listAlerts := fun sessionId => lift (o.repository.listAlerts sessionId) }
  healthProbe := fun plan now => lift (o.healthProbe plan now)
  hooks := {
    warmupRecorder := fun plan now token => lift (o.hooks.warmupRecorder plan now token)
    freezeFeatures := fun plan now token => lift (o.hooks.freezeFeatures plan now token)
    evaluate := fun plan now token => lift (o.hooks.evaluate plan now token)
    sizeAndExecute := fun plan now token => lift (o.hooks.sizeAndExecute plan now token)
    reconcile := fun plan now token => lift (o.hooks.reconcile plan now token) }
  broker := {
    discoverDaybreakTargets := fun plan => lift (o.broker.discoverDaybreakTargets plan)
    cancelDaybreakOrders := fun plan => lift (o.broker.cancelDaybreakOrders plan)
    listPositions := fun targets => lift (o.broker.listPositions targets)
    closePosition := fun position => lift (o.broker.closePosition position) }
  alerts := { o.alerts with sink := fun alert => lift (o.alerts.sink alert) }
  timing := timing

/-- What the lifting and the clock keep, every operation keeps. -/
theorem SessionOrchestrator.via_preserves (o : SessionOrchestrator σ D)
    {lift : ∀ {α : Type}, (σ → Except Exc α × σ) → τ → Except Exc α × τ} {timing : Timing τ}
    {P : τ → Prop}
    (hLift : ∀ {α : Type} (operation : σ → Except Exc α × σ) env, P env → P (lift operation env).2)
    (hClock : ∀ env, P env → P (timing.clock env).2)
    (hSleep : ∀ seconds env, P env → P (timing.sleep seconds env)) :
    (o.via lift timing).Preserves P where
  keeps := {
    appendPhase := fun record => hLift (o.repository.appendPhase record)
    saveActive := fun state env _ => hLift (o.repository.saveKillSwitch state) env
    saveAlert := fun alert => hLift (o.repository.saveAlert alert)
    saveFlatten := fun result => hLift (o.repository.saveFlatten result)
    listPhases := fun sessionId => hLift (o.repository.listPhases sessionId)
    healthProbe := fun plan now => hLift (o.healthProbe plan now)
    sink := fun alert => hLift (o.alerts.sink alert)
    broker := {
      discover := fun plan => hLift (o.broker.discoverDaybreakTargets plan)
      cancel := fun plan => hLift (o.broker.cancelDaybreakOrders plan)
      list := fun targets => hLift (o.broker.listPositions targets)
      close := fun position => hLift (o.broker.closePosition position)
      clock := hClock
      sleep := hSleep } }
  begins := {
    clock := hClock
    savePlan := fun plan => hLift (o.repository.savePlan plan)
    latest := fun sessionId => hLift (o.repository.getLatestKillSwitch sessionId)
    saveFirst := by
      intro sessionId env env' hEnv hLatest
      have hRead := hLift (o.repository.getLatestKillSwitch sessionId) env hEnv
      rw [show lift (o.repository.getLatestKillSwitch sessionId) env = _ from hLatest] at hRead
      exact hLift (o.repository.saveKillSwitch (inactiveKillSwitch sessionId)) env' hRead }
  ends := {
    clock := hClock
    release := fun lease now => hLift (o.leadership.release lease now)
    saveResult := fun result => hLift (o.repository.saveResult result)
    listPhases := fun sessionId => hLift (o.repository.listPhases sessionId)
    listAlerts := fun sessionId => hLift (o.repository.listAlerts sessionId) }
  hooks := {
    warmupRecorder := fun plan now token => hLift (o.hooks.warmupRecorder plan now token)
    freezeFeatures := fun plan now token => hLift (o.hooks.freezeFeatures plan now token)
    evaluate := fun plan now token => hLift (o.hooks.evaluate plan now token)
    reconcile := fun plan now token => hLift (o.hooks.reconcile plan now token) }
  sizeAndExecute := fun plan now token => hLift (o.hooks.sizeAndExecute plan now token)
  acquire := fun sessionId holderId now ttlSeconds =>
    hLift (o.leadership.acquire sessionId holderId now ttlSeconds)
  renew := fun lease now ttlSeconds => hLift (o.leadership.renew lease now ttlSeconds)

theorem SessionOrchestrator.preserves_true (o : SessionOrchestrator σ D) :
    o.Preserves fun _ => True where
  keeps := ⟨fun _ _ _ => trivial, fun _ _ _ _ => trivial, fun _ _ _ => trivial,
    fun _ _ _ => trivial, fun _ _ _ => trivial, fun _ _ _ _ => trivial, fun _ _ _ => trivial,
    ⟨fun _ _ _ => trivial, fun _ _ _ => trivial, fun _ _ _ => trivial, fun _ _ _ => trivial,
      fun _ _ => trivial, fun _ _ _ => trivial⟩⟩
  begins := ⟨fun _ _ => trivial, fun _ _ _ => trivial, fun _ _ _ => trivial,
    fun _ _ _ _ _ => trivial⟩
  ends := ⟨fun _ _ => trivial, fun _ _ _ _ => trivial, fun _ _ _ => trivial,
    fun _ _ _ => trivial, fun _ _ _ => trivial⟩
  hooks := ⟨fun _ _ _ _ _ => trivial, fun _ _ _ _ _ => trivial, fun _ _ _ _ _ => trivial,
    fun _ _ _ _ _ => trivial⟩
  sizeAndExecute := fun _ _ _ _ _ => trivial
  acquire := fun _ _ _ _ _ _ => trivial
  renew := fun _ _ _ _ _ => trivial

/-- The operation on the first component. -/
def onRest {α : Type} (operation : σ → Except Exc α × σ) (env : σ × κ) : Except Exc α × (σ × κ) :=
  ((operation env.1).1, ((operation env.1).2, env.2))

/-- The operation on the second component. -/
def onStore {α : Type} (operation : κ → Except Exc α × κ) (env : σ × κ) :
    Except Exc α × (σ × κ) :=
  ((operation env.2).1, (env.1, (operation env.2).2))

/-- The orchestrator beside a store that its operations do not touch. -/
def SessionOrchestrator.beside (o : SessionOrchestrator σ D) (κ : Type) :
    SessionOrchestrator (σ × κ) D :=
  o.via onRest {
    clock := fun env => ((o.timing.clock env.1).1, ((o.timing.clock env.1).2, env.2))
    sleep := fun seconds env => (o.timing.sleep seconds env.1, env.2) }

theorem SessionOrchestrator.beside_preserves (o : SessionOrchestrator σ D) (Q : κ → Prop) :
    (o.beside κ).Preserves fun env => Q env.2 :=
  o.via_preserves (fun _ _ hEnv => hEnv) (fun _ hEnv => hEnv) fun _ _ hEnv => hEnv

end Daybreak.Orchestration
