import Daybreak.Orchestration.Embedding

/-! A session in a world that moves on. Between two of its steps time passes on a shared
clock, and other actors do something to the environment. What the session does that
others can see is traced, with the time and the environment of its moment. -/

namespace Daybreak.Orchestration

open Numeric Effect Program

variable {ρ D : Type} [DecimalArithmetic D]

/-! ### The world -/

/-- What happens between two steps: time passes, and other actors act. -/
structure Passage (ρ : Type) where
  elapsed : ℕ
  effect : Timestamp → ρ → ρ

inductive SessionEvent (D : Type) [DecimalArithmetic D] where
  | clockRead
  | granted (lease : LeadershipLease)
  | switchRead (answer : Option KillSwitchState)
  | probed (health : HealthSnapshot)
  | hooked (phase : SessionPhase) (now : Timestamp) (fencingToken : ℕ)
    (answer : Except Exc (HookDetails D))
  /-- A cancel or a close is asked of the broker. -/
  | mutated

/-- An event, with the shared time and the environment at which it happens. -/
structure Moment (ρ D : Type) [DecimalArithmetic D] where
  event : SessionEvent D
  time : Timestamp
  env : ρ

/-- What is still to happen is a script; what was traced is kept, latest first. -/
structure World (ρ D : Type) [DecimalArithmetic D] where
  rest : ρ
  time : Timestamp
  script : List (Passage ρ)
  trace : List (Moment ρ D)

namespace World

/-- The next passage of the script; at its end nothing happens any more. -/
def pass (w : World ρ D) : World ρ D :=
  match w.script with
  | [] => w
  | passage :: script =>
    let time := w.time + passage.elapsed
    { w with rest := passage.effect time w.rest, time := time, script := script }

/-- A step that leaves this environment and may be traced, and what happens after it. -/
def advance (w : World ρ D) (event : Option (SessionEvent D)) (rest : ρ) : World ρ D :=
  let traced := (event.map fun event => Moment.mk event w.time w.rest).toList
  pass { w with rest := rest, trace := traced ++ w.trace }

@[simp] theorem pass_trace (w : World ρ D) : w.pass.trace = w.trace := by
  unfold pass
  split <;> rfl

theorem le_pass_time (w : World ρ D) : w.time ≤ w.pass.time := by
  unfold pass
  split
  · exact le_rfl
  · exact le_add_of_nonneg_right (Int.natCast_nonneg _)

@[simp] theorem advance_none_trace (w : World ρ D) (rest : ρ) :
    (w.advance none rest).trace = w.trace :=
  pass_trace _

@[simp] theorem advance_some_trace (w : World ρ D) (event : SessionEvent D) (rest : ρ) :
    (w.advance (some event) rest).trace = ⟨event, w.time, w.rest⟩ :: w.trace :=
  pass_trace _

theorem le_advance_time (w : World ρ D) (event : Option (SessionEvent D)) (rest : ρ) :
    w.time ≤ (w.advance event rest).time :=
  le_pass_time _

def perform {α : Type} (operation : ρ → Except Exc α × ρ)
    (event : Except Exc α → Option (SessionEvent D)) (w : World ρ D) : Except Exc α × World ρ D :=
  let done := operation w.rest
  (done.1, w.advance (event done.1) done.2)

def quietly {α : Type} (operation : ρ → Except Exc α × ρ) : World ρ D → Except Exc α × World ρ D :=
  perform operation fun _ => none

def grant : Except Exc (Option LeadershipLease) → Option (SessionEvent D)
  | .ok (some lease) => some (.granted lease)
  | _ => none

def read : Except Exc (Option KillSwitchState) → Option (SessionEvent D)
  | .ok answer => some (.switchRead answer)
  | .error _ => none

def probe : Except Exc HealthSnapshot → Option (SessionEvent D)
  | .ok health => some (.probed health)
  | _ => none

/-- The clock is the shared time; to sleep takes as long as the script says. -/
def timing (timing : Timing ρ) : Timing (World ρ D) where
  clock := fun w => (w.time, w.advance (some .clockRead) w.rest)
  sleep := fun seconds w => w.advance none (timing.sleep seconds w.rest)

def hook (phase : SessionPhase) (hook : Hook ρ D) : Hook (World ρ D) D :=
  fun plan now token => perform (hook plan now token) fun answer =>
    some (.hooked phase now token answer)

end World

open World

/-- The session of an orchestrator in a world that moves on. -/
def SessionOrchestrator.inWorld (o : SessionOrchestrator ρ D) :
    SessionOrchestrator (World ρ D) D :=
  let quiet := o.via World.quietly (World.timing o.timing)
  { quiet with
    leadership := { quiet.leadership with
      acquire := fun sessionId holderId now ttlSeconds =>
        perform (o.leadership.acquire sessionId holderId now ttlSeconds) grant
      renew := fun lease now ttlSeconds => perform (o.leadership.renew lease now ttlSeconds) grant }
    repository := { quiet.repository with
      getLatestKillSwitch := fun sessionId =>
        perform (o.repository.getLatestKillSwitch sessionId) read }
    healthProbe := fun plan now => perform (o.healthProbe plan now) probe
    hooks := {
      warmupRecorder := World.hook .recorderWarmup o.hooks.warmupRecorder
      freezeFeatures := World.hook .featureFreeze o.hooks.freezeFeatures
      evaluate := World.hook .evaluation o.hooks.evaluate
      sizeAndExecute := World.hook .execution o.hooks.sizeAndExecute
      reconcile := World.hook .monitoring o.hooks.reconcile }
    broker := { quiet.broker with
      cancelDaybreakOrders := fun plan =>
        perform (o.broker.cancelDaybreakOrders plan) fun _ => some .mutated
      closePosition := fun position =>
        perform (o.broker.closePosition position) fun _ => some .mutated } }

theorem exec_clock_inWorld (o : SessionOrchestrator ρ D) (s : SessionState (World ρ D) D) :
    (clock o.inWorld.timing).exec s =
      (.ok s.env.time, { s with env := s.env.advance (some .clockRead) s.env.rest }) := rfl

/-! ### What is traced -/

/-- Every moment of a trace is as `P` says, of it and of the moments before. -/
def TraceAll (P : Moment ρ D → List (Moment ρ D) → Prop) : List (Moment ρ D) → Prop
  | [] => True
  | moment :: earlier => P moment earlier ∧ TraceAll P earlier

instance decidableTraceAll {P : Moment ρ D → List (Moment ρ D) → Prop}
    [∀ moment earlier, Decidable (P moment earlier)] :
    (trace : List (Moment ρ D)) → Decidable (TraceAll P trace)
  | [] => .isTrue trivial
  | moment :: earlier =>
    have : Decidable (TraceAll P earlier) := decidableTraceAll earlier
    inferInstanceAs (Decidable (P moment earlier ∧ TraceAll P earlier))

theorem traceAll_iff {P : Moment ρ D → List (Moment ρ D) → Prop} {trace : List (Moment ρ D)} :
    TraceAll P trace ↔
      ∀ later moment earlier, trace = later ++ moment :: earlier → P moment earlier := by
  induction trace with
  | nil => exact iff_of_true trivial fun later _ _ h => by simp at h
  | cons first rest ih =>
    rw [TraceAll, ih]
    constructor
    · rintro ⟨hFirst, hRest⟩ later moment earlier hSplit
      cases later with
      | nil =>
        obtain ⟨rfl, rfl⟩ := List.cons.inj hSplit
        exact hFirst
      | cons _ later => exact hRest later moment earlier (List.cons.inj hSplit).2
    · intro h
      refine ⟨h [] first rest rfl, fun later moment earlier hSplit => ?_⟩
      exact h (first :: later) moment earlier (by rw [hSplit]; rfl)

theorem TraceAll.of_mem {P : Moment ρ D → List (Moment ρ D) → Prop} {trace : List (Moment ρ D)}
    (h : TraceAll P trace) {moment : Moment ρ D} (hMoment : moment ∈ trace) :
    ∃ earlier, P moment earlier := by
  obtain ⟨later, earlier, hSplit⟩ := List.append_of_mem hMoment
  exact ⟨earlier, traceAll_iff.mp h later moment earlier hSplit⟩

theorem TraceAll.imp {P Q : Moment ρ D → List (Moment ρ D) → Prop} {trace : List (Moment ρ D)}
    (h : TraceAll P trace) (hImp : ∀ moment earlier, P moment earlier → Q moment earlier) :
    TraceAll Q trace := by
  induction trace with
  | nil => trivial
  | cons first rest ih => exact ⟨hImp first rest h.1, ih h.2⟩

/-- A step keeps what holds of every moment, where it holds of the moment that it adds. -/
theorem TraceAll.advance {P : Moment ρ D → List (Moment ρ D) → Prop} {w : World ρ D}
    (h : TraceAll P w.trace) {event : Option (SessionEvent D)}
    (hEvent : ∀ e ∈ event, P ⟨e, w.time, w.rest⟩ w.trace) (rest : ρ) :
    TraceAll P (w.advance event rest).trace := by
  cases event with
  | none => rwa [World.advance_none_trace]
  | some event =>
    rw [World.advance_some_trace]
    exact ⟨hEvent event rfl, h⟩

/-- Where every moment is as `R` says, `P` and `Q` may be exchanged if `R` lets them. -/
theorem TraceAll.congr {P Q R : Moment ρ D → List (Moment ρ D) → Prop}
    {trace : List (Moment ρ D)} (h : TraceAll R trace)
    (hIff : ∀ moment earlier, R moment earlier → (P moment earlier ↔ Q moment earlier)) :
    TraceAll P trace ↔ TraceAll Q trace := by
  induction trace with
  | nil => exact Iff.rfl
  | cons first rest ih => exact and_congr (hIff first rest h.1) (ih h.2)

/-! ### What a session keeps -/

/-- An event that neither grants a lease, nor calls a hook, nor asks the broker to cancel or
to close. -/
def Routine : Option (SessionEvent D) → Prop
  | some (.granted _) | some (.hooked _ _ _ _) | some .mutated => False
  | _ => True

section InWorld

variable {o : SessionOrchestrator ρ D} {T : ρ → ρ → Prop} {P : World ρ D → Prop}

theorem routine_read (answer : Except Exc (Option KillSwitchState)) :
    Routine (read answer : Option (SessionEvent D)) := by
  cases answer <;> trivial

theorem routine_probe (answer : Except Exc HealthSnapshot) :
    Routine (probe answer : Option (SessionEvent D)) := by
  cases answer <;> trivial

/-- The steps that the operations of the session may take keep `P`. -/
def StepsKeep (T : ρ → ρ → Prop) (P : World ρ D → Prop) : Prop :=
  ∀ w event rest, Routine event → T w.rest rest → P w → P (w.advance event rest)

theorem SessionOrchestrator.inWorld_keeps (hBase : ∀ r, o.Keeps (T r)) (hRefl : ∀ r, T r r)
    (h : StepsKeep T P)
    (hMutated : ∀ w rest, T w.rest rest → P w → P (w.advance (some .mutated) rest)) :
    o.inWorld.Keeps P where
  appendPhase record w := h w none _ trivial ((hBase _).appendPhase record _ (hRefl _))
  saveActive state w hActive :=
    h w none _ trivial ((hBase _).saveActive state _ hActive (hRefl _))
  saveAlert alert w := h w none _ trivial ((hBase _).saveAlert alert _ (hRefl _))
  saveFlatten result w := h w none _ trivial ((hBase _).saveFlatten result _ (hRefl _))
  listPhases sessionId w := h w none _ trivial ((hBase _).listPhases sessionId _ (hRefl _))
  healthProbe plan now w :=
    h w _ _ (routine_probe _) ((hBase _).healthProbe plan now _ (hRefl _))
  sink alert w := h w none _ trivial ((hBase _).sink alert _ (hRefl _))
  broker := {
    discover := fun plan w => h w none _ trivial ((hBase _).broker.discover plan _ (hRefl _))
    cancel := fun plan w => hMutated w _ ((hBase _).broker.cancel plan _ (hRefl _))
    list := fun targets w => h w none _ trivial ((hBase _).broker.list targets _ (hRefl _))
    close := fun position w => hMutated w _ ((hBase _).broker.close position _ (hRefl _))
    clock := fun w => h w (some .clockRead) _ trivial (hRefl _)
    sleep := fun seconds w => h w none _ trivial ((hBase _).broker.sleep seconds _ (hRefl _)) }

theorem SessionOrchestrator.inWorld_begins (hBase : ∀ r, o.Begins (T r)) (hRefl : ∀ r, T r r)
    (hSave : ∀ r sessionId, T r (o.repository.saveKillSwitch (inactiveKillSwitch sessionId) r).2)
    (h : StepsKeep T P) : o.inWorld.Begins P where
  clock w := h w (some .clockRead) _ trivial (hRefl _)
  savePlan plan w := h w none _ trivial ((hBase _).savePlan plan _ (hRefl _))
  latest sessionId w := h w _ _ (routine_read _) ((hBase _).latest sessionId _ (hRefl _))
  saveFirst sessionId w w' hw hRead := by
    have hRest : P (o.inWorld.repository.getLatestKillSwitch sessionId w).2 :=
      h w _ _ (routine_read _) ((hBase _).latest sessionId _ (hRefl _)) hw
    rw [hRead] at hRest
    exact h w' none _ trivial (hSave _ sessionId) hRest

theorem SessionOrchestrator.inWorld_ends (hBase : ∀ r, o.Ends (T r)) (hRefl : ∀ r, T r r)
    (h : StepsKeep T P) : o.inWorld.Ends P where
  clock w := h w (some .clockRead) _ trivial (hRefl _)
  release lease now w := h w none _ trivial ((hBase _).release lease now _ (hRefl _))
  saveResult result w := h w none _ trivial ((hBase _).saveResult result _ (hRefl _))
  listPhases sessionId w := h w none _ trivial ((hBase _).listPhases sessionId _ (hRefl _))
  listAlerts sessionId w := h w none _ trivial ((hBase _).listAlerts sessionId _ (hRefl _))

theorem World.hook_keeps {hook : Hook ρ D} {phase : SessionPhase} (hBase : ∀ r, hook.Keeps (T r))
    (hRefl : ∀ r, T r r)
    (h : ∀ w now token answer rest, T w.rest rest → P w →
      P (w.advance (some (.hooked phase now token answer)) rest)) :
    (World.hook phase hook).Keeps P :=
  fun plan now token w hw => h w now token _ _ (hBase _ plan now token _ (hRefl _)) hw

theorem SessionOrchestrator.inWorld_hooks (hBase : ∀ r, o.hooks.Keeps (T r))
    (hRefl : ∀ r, T r r)
    (h : ∀ w phase now token answer rest, phase ≠ .execution → T w.rest rest → P w →
      P (w.advance (some (.hooked phase now token answer)) rest)) : o.inWorld.hooks.Keeps P where
  warmupRecorder := hook_keeps (fun r => (hBase r).warmupRecorder) hRefl fun w now token answer
    rest => h w _ now token answer rest (by decide)
  freezeFeatures := hook_keeps (fun r => (hBase r).freezeFeatures) hRefl fun w now token answer
    rest => h w _ now token answer rest (by decide)
  evaluate := hook_keeps (fun r => (hBase r).evaluate) hRefl fun w now token answer
    rest => h w _ now token answer rest (by decide)
  reconcile := hook_keeps (fun r => (hBase r).reconcile) hRefl fun w now token answer
    rest => h w _ now token answer rest (by decide)

/-- A session keeps what every step keeps, whatever is done to the environment. -/
theorem SessionOrchestrator.inWorld_preserves (o : SessionOrchestrator ρ D)
    (h : ∀ w event rest, P w → P (w.advance event rest)) : o.inWorld.Preserves P where
  keeps := inWorld_keeps (fun _ => o.preserves_true.keeps) (fun _ => trivial)
    (fun w event rest _ _ => h w event rest) fun w rest _ => h w _ rest
  begins := inWorld_begins (fun _ => o.preserves_true.begins) (fun _ => trivial)
    (fun _ _ => trivial) fun w event rest _ _ => h w event rest
  ends := inWorld_ends (fun _ => o.preserves_true.ends) (fun _ => trivial)
    fun w event rest _ _ => h w event rest
  hooks := inWorld_hooks (fun _ => o.preserves_true.hooks) (fun _ => trivial)
    fun w _ _ _ _ rest _ _ => h w _ rest
  sizeAndExecute _ _ _ w := h w _ _
  acquire _ _ _ _ w := h w _ _
  renew _ _ _ w := h w _ _

end InWorld

/-! ### A session that trades -/

/-- An evaluation that approves one setup. -/
def approvedDetails : HookDetails Decimal :=
  ⟨[("run_status", .text "approved" none), ("approved_count", .int 1)], none⟩

/-- A session without an account, whose hooks and probes are content. -/
def tradingSession : SessionOrchestrator Unit Decimal where
  holderId := "holder-1"
  leadership := {
    acquire := fun sessionId holderId now ttlSeconds env =>
      (.ok (some ⟨sessionId, holderId, now, now, now + timedelta ttlSeconds, 1⟩), env)
    renew := fun lease now ttlSeconds env =>
      (.ok (some { lease with renewedAt := now, expiresAt := now + timedelta ttlSeconds }), env)
    release := fun _ _ env => (.ok (), env) }
  repository := {
    savePlan := fun _ env => (.ok (), env)
    appendPhase := fun _ env => (.ok (), env)
    saveKillSwitch := fun _ env => (.ok (), env)
    getLatestKillSwitch := fun _ env => (.ok none, env)
    saveAlert := fun _ env => (.ok (), env)
    saveFlatten := fun _ env => (.ok (), env)
    saveResult := fun _ env => (.ok (), env)
    listPhases := fun _ env => (.ok [], env)
    listAlerts := fun _ env => (.ok [], env) }
  healthProbe plan now env := (.ok {
    observedAt := now
    clockSynchronized := true
    clockSkewMs := 0
    databaseHealthy := true
    recorderHealthy := true
    marketDataStreamHealthy := true
    tradeUpdateStreamHealthy := true
    brokerHealthy := true
    accountActive := true
    configurationHash := plan.configurationHash }, env)
  hooks := {
    warmupRecorder := fun _ _ _ env => (.ok ⟨[], none⟩, env)
    freezeFeatures := fun _ _ _ env => (.ok ⟨[], none⟩, env)
    evaluate := fun _ _ _ env => (.ok approvedDetails, env)
    sizeAndExecute := fun _ _ _ env => (.ok ⟨[], none⟩, env)
    reconcile := fun _ _ _ env => (.ok ⟨[], none⟩, env) }
  broker := {
    discoverDaybreakTargets := fun _ env => (.ok [], env)
    cancelDaybreakOrders := fun _ env => (.ok 0, env)
    listPositions := fun _ env => (.ok [], env)
    closePosition := fun _ env => (.error (.runtimeError "no position"), env) }
  alerts := { sink := fun _ env => (.ok (), env) }
  timing := { clock := fun env => (0, env), sleep := fun _ env => env }

/-- A new orchestrator in this world. -/
def startedIn (w : World ρ D) : SessionState (World ρ D) D where
  env := w
  lastSent := ∅
  lease := none
  lastRenewedAt := none
  acquired := none
  killSwitch := inactiveKillSwitch ""
  flattenResult := none
  outcome := .failed
  finalPhase := .created
  errorMessage := none
  managedQuantities := []
  calls := []

/-- Passages in which nothing but time passes. -/
def idle (elapsed : List ℕ) : List (Passage ρ) :=
  elapsed.map fun seconds => ⟨seconds, fun _ env => env⟩

end Daybreak.Orchestration
