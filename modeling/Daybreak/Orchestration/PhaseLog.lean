import Daybreak.Effect.Emitted
import Daybreak.Orchestration.World

/-! The phases of a session that are stored. The repository in memory keeps the records of each
session, numbered from one without a gap. What the runs of a session add to them are ways through
the plan, each of them cut short where its run failed, and then ended by an emergency flatten. -/

namespace Daybreak.Orchestration

open Numeric Effect Program

variable {ρ D : Type} [DecimalArithmetic D]

/-! ### The repository in memory -/

/-- The records of a session. -/
structure PhaseRecords where
  items : List PhaseRecord
  contiguous : items.map (·.sequence) = List.range' 1 items.length

namespace PhaseRecords

def empty : PhaseRecords := ⟨[], rfl⟩

/-- The number that `append_phase` asks for: one more than the last, or one. -/
def nextSequence (records : PhaseRecords) : ℕ :=
  match records.items.getLast? with
  | some last => last.sequence + 1
  | none => 1

theorem nextSequence_eq (records : PhaseRecords) :
    records.nextSequence = records.items.length + 1 := by
  obtain ⟨items, contiguous⟩ := records
  unfold nextSequence
  induction items using List.reverseRecOn with
  | nil => rfl
  | append_singleton items last _ =>
    rw [List.getLast?_concat, List.length_append]
    rw [List.map_append, List.length_append, List.length_singleton,
      List.range'_concat] at contiguous
    have hLast := (List.append_inj' contiguous rfl).2
    simp only [List.map_cons, List.map_nil, List.cons.injEq, and_true] at hLast
    simp only [hLast, List.length_singleton]
    omega

def append (records : PhaseRecords) (record : PhaseRecord) : Except Exc PhaseRecords :=
  if h : record.sequence = records.nextSequence then
    .ok ⟨records.items ++ [record], by
      rw [List.map_append, records.contiguous, List.length_append, List.range'_append_1.symm]
      simp [h, nextSequence_eq, Nat.add_comm]⟩
  else if records.items = [] then .error (.runtimeError "first phase sequence must be one")
  else .error (.runtimeError "phase sequence is not contiguous")

end PhaseRecords

abbrev MemoryPhases := Dict String PhaseRecords

namespace MemoryPhases

def records (phases : MemoryPhases) (sessionId : String) : PhaseRecords :=
  (phases.lookup sessionId).getD .empty

/-- `append_phase` -/
def append (record : PhaseRecord) (phases : MemoryPhases) : Except Exc Unit × MemoryPhases :=
  match (phases.records record.sessionId).append record with
  | .ok records => (.ok (), phases.insert record.sessionId records)
  | .error e => (.error e, phases)

/-- `list_phases` -/
def list (sessionId : String) (phases : MemoryPhases) :
    Except Exc (List PhaseRecord) × MemoryPhases :=
  (.ok (phases.records sessionId).items, phases)

theorem records_insert (phases : MemoryPhases) (sessionId other : String) (records : PhaseRecords) :
    MemoryPhases.records (phases.insert sessionId records) other =
      if other = sessionId then records else phases.records other := by
  unfold MemoryPhases.records
  rw [Dict.lookup_insert_eq]
  split_ifs <;> rfl

/-- What an append leaves of the records of a session. -/
theorem append_cases (record : PhaseRecord) (phases : MemoryPhases) (sessionId : String) :
    (∃ e, phases.append record = (.error e, phases)) ∨
      ∃ phases', phases.append record = (.ok (), phases') ∧
        (phases'.records sessionId).items = (phases.records sessionId).items ++
          if sessionId = record.sessionId then [record] else [] := by
  unfold append PhaseRecords.append
  by_cases hSequence : record.sequence = (phases.records record.sessionId).nextSequence
  · right
    simp only [dif_pos hSequence]
    refine ⟨_, rfl, ?_⟩
    rw [records_insert]
    split_ifs with hSame
    · rw [hSame]
    · rw [List.append_nil]
  · left
    rw [dif_neg hSequence]
    split_ifs
    · exact ⟨_, rfl⟩
    · exact ⟨_, rfl⟩

end MemoryPhases

/-- The orchestrator with its phases in memory. -/
def SessionOrchestrator.withPhases (o : SessionOrchestrator ρ D) :
    SessionOrchestrator (ρ × MemoryPhases) D :=
  let beside := o.beside MemoryPhases
  { beside with
    repository := { beside.repository with
      appendPhase := fun record => onStore (MemoryPhases.append record)
      listPhases := fun sessionId => onStore (MemoryPhases.list sessionId) } }

/-! ### The ways of a plan -/

section Ways

variable {κ : Type} (word : SessionPhase → Language κ)

/-- The phases one after the other. -/
def ways : List SessionPhase → Language κ
  | [] => 1
  | phase :: rest => word phase * ways rest

def evaluationWay : Language κ :=
  ways word [.preflight, .recorderWarmup, .recording, .featureFreeze, .evaluation]

def tradingWay : Language κ :=
  ways word [.eligibilityLock, .execution, .monitoring]

/-- The phases of a session up to its flatten, and the last of them. -/
def planTo (last : Language κ) : Language κ :=
  word .leadershipAcquired *
    (evaluationWay word * ((1 + tradingWay word) * (ways word [.flattening] * last)))

/-- What follows a complete flatten. -/
def completion : Language κ :=
  ways word [.reconciliation, .completed]

/-- A whole way through the plan; it ends with an incomplete flatten, or is completed. -/
def planWay : Language κ :=
  planTo word (1 + completion word)

/-- A way through the plan that has not come to its end. -/
def openWay : Language κ :=
  initial (planTo word (ways word [.reconciliation]))

/-- What a run adds: a whole way through the plan, or the way on which it failed and the flatten
of its handler. -/
def runWay : Language κ :=
  planWay word + openWay word * initial (ways word [.flattening])

end Ways

/-! ### Steps that record no phase -/

/-- What is seen of the stored phases in a state of the session. -/
def seen {κ : Type} (view : MemoryPhases → List κ) (s : SessionState (ρ × MemoryPhases) D) :
    List κ :=
  view s.env.2

section Still

variable {o : SessionOrchestrator ρ D} {rounds : ℕ} {plan : SessionPlan} {α β : Type}

/-- A run of the program leaves the stored phases as they are. -/
def Still (p : Session (ρ × MemoryPhases) D α) : Prop :=
  ∀ phases, Maintains (Satisfies fun _ env => env.2 = phases) p

theorem Still.silent {κ : Type} {p : Session (ρ × MemoryPhases) D α} (h : Still p)
    (view : MemoryPhases → List κ) : Silent (seen view) p := by
  intro s
  have hSame : (p.exec s).2.env.2 = s.env.2 := h s.env.2 s rfl
  exact congrArg view hSame

theorem Still.bind {p : Session (ρ × MemoryPhases) D α} {f : α → Session (ρ × MemoryPhases) D β}
    (hp : Still p) (hf : ∀ a, Still (f a)) : Still (p >>= f) :=
  fun phases => (hp phases).bind fun a => hf a phases

theorem Still.pure (a : α) : Still (Pure.pure a : Session (ρ × MemoryPhases) D α) :=
  fun _ => .pure a

theorem Still.throw (halt : Halt) : Still (throw halt : Session (ρ × MemoryPhases) D α) :=
  fun _ _ hs => hs

theorem Still.get :
    Still (get : Session (ρ × MemoryPhases) D (SessionState (ρ × MemoryPhases) D)) :=
  fun _ _ hs => hs

theorem Still.modify {f : SessionState (ρ × MemoryPhases) D → SessionState (ρ × MemoryPhases) D}
    (h : ∀ s, (f s).env = s.env) : Still (modify f : Session (ρ × MemoryPhases) D Unit) := by
  intro phases s hs
  change (f s).env.2 = phases
  rw [h s]
  exact hs

/-- What does not touch the store. -/
theorem Still.ask (operation : ρ → Except Exc α × ρ) :
    Still (ask (onRest operation) : Session (ρ × MemoryPhases) D α) :=
  fun _ => satisfies_ask fun _ _ hEnv => hEnv

theorem still_listPhases (sessionId : String) :
    Still (Orchestration.ask (o.withPhases.repository.listPhases sessionId) :
      Session (ρ × MemoryPhases) D (List PhaseRecord)) :=
  fun _ => satisfies_ask fun _ _ hEnv => hEnv

theorem still_clock : Still (clock o.withPhases.timing : Session (ρ × MemoryPhases) D Timestamp) :=
  fun _ _ hs => hs

theorem still_sleep (seconds : ℚ) :
    Still (sleepFor o.withPhases.timing seconds : Session (ρ × MemoryPhases) D Unit) :=
  fun _ _ hs => hs

theorem still_renew (now : Timestamp) : Still (renewLeadership o.withPhases plan now) := by
  refine .bind .get fun s => ?_
  cases s.lease with
  | none => exact .throw _
  | some lease =>
    simp only
    split_ifs
    · exact .pure ()
    · refine .bind (.ask (o.leadership.renew lease now _)) fun renewed => ?_
      cases renewed with
      | none => exact .throw _
      | some renewed => exact .modify fun _ => rfl

theorem still_waitUntil (target : Timestamp) (turns : ℕ) :
    Still (waitUntil o.withPhases plan target turns) := by
  induction turns with
  | zero => exact .throw _
  | succ turns ih =>
    refine still_clock.bind fun now => ?_
    simp only
    split_ifs
    · exact .pure ()
    · refine (still_sleep _).bind fun _ => still_clock.bind fun later => ?_
      exact (still_renew later).bind fun _ => ih

theorem still_callFlatten (now : Timestamp) : Still (callFlatten o.withPhases rounds plan now) :=
  fun phases => satisfies_callFlatten
    (fun _ => (o.beside_preserves fun env : MemoryPhases => env = phases).keeps.broker) now

theorem still_emitCritical (code message : String) (now : Timestamp) :
    Still (emitCritical o.withPhases plan code message now) := by
  intro phases
  have hFrame {s t : SessionState (ρ × MemoryPhases) D} (hEnv : t.env = s.env)
      (_ : t.held = s.held) (hs : Satisfies (fun _ env => env.2 = phases) s) :
      Satisfies (fun _ env => env.2 = phases) t := by
    change t.env.2 = phases
    rw [hEnv]
    exact hs
  have hKeeps := (o.beside_preserves fun env : MemoryPhases => env = phases).keeps
  exact emitCritical_maintains hFrame
    (fun alert => satisfies_ask fun _ => hKeeps.saveAlert alert)
    (fun alert s => hKeeps.sink alert s.env) code message now

theorem still_checkEntryCutoff : Still (checkEntryCutoff o.withPhases plan) := by
  refine still_clock.bind fun now => ?_
  split_ifs
  · exact .throw _
  · exact .pure ()

theorem still_recordManaged (managed : PyDict D) :
    Still (recordManaged managed : Session (ρ × MemoryPhases) D Unit) := by
  induction managed with
  | nil => exact .pure ()
  | cons item rest ih =>
    obtain ⟨symbol, quantity⟩ := item
    unfold recordManaged
    cases rawQuantity quantity with
    | none => exact .throw _
    | some raw => exact .bind (.modify fun _ => rfl) fun _ => ih

theorem still_logCall (call : SessionCall) :
    Still (logCall call : Session (ρ × MemoryPhases) D Unit) :=
  .modify fun _ => rfl

theorem still_beginRun (startAt : Option Timestamp) :
    Still (beginRun o.withPhases plan startAt) := by
  refine .bind ?_ fun startedAt => ?_
  · cases startAt with
    | none => exact still_clock
    | some startAt => exact .pure startAt
  refine (Still.ask (o.repository.savePlan plan)).bind fun _ => ?_
  refine .bind (.bind (.ask (o.repository.getLatestKillSwitch plan.sessionId)) fun latest => ?_)
    fun killSwitch => .bind (.modify ?_) fun _ => .pure startedAt
  · cases latest with
    | some killSwitch => exact .pure killSwitch
    | none => exact .bind (.ask (o.repository.saveKillSwitch _)) fun _ => .pure _
  · exact fun _ => rfl

theorem still_releaseLeadership (completedAt : Timestamp) :
    Still (releaseLeadership o.withPhases completedAt) := by
  refine .bind .get fun s => ?_
  cases s.acquired with
  | none => exact .pure ()
  | some lease => exact .ask (o.leadership.release lease completedAt)

theorem still_conclude (startedAt : Timestamp) : Still (conclude o.withPhases plan startedAt) := by
  refine still_clock.bind fun completedAt => ?_
  refine (still_releaseLeadership completedAt).bind fun _ => ?_
  refine (still_listPhases plan.sessionId).bind fun phases => ?_
  refine (Still.ask (o.repository.listAlerts plan.sessionId)).bind fun alerts => ?_
  refine .bind .get fun s => ?_
  exact .bind (.ask (o.repository.saveResult _)) fun _ => .pure _

end Still

/-! ### What a run adds -/

section Run

variable {o : SessionOrchestrator ρ D} {rounds : ℕ} {plan : SessionPlan} {κ : Type}
  {view : MemoryPhases → List κ} {word : SessionPhase → Language κ}

theorem silent_modify {f : SessionState (ρ × MemoryPhases) D → SessionState (ρ × MemoryPhases) D}
    (h : ∀ s, (f s).env = s.env) : Silent (seen view) (modify f : Session _ D Unit) :=
  (Still.modify h).silent view

/-- A view of the stored phases, and what the record of a phase adds to it. -/
structure Viewed (o : SessionOrchestrator ρ D) (plan : SessionPlan) (view : MemoryPhases → List κ)
    (word : SessionPhase → Language κ) : Prop where
  records : ∀ phase startedAt endedAt unhashable,
    Appends (seen view) (recordPhase o.withPhases plan phase startedAt endedAt unhashable)
      (word phase) 1
  inhabited : ∀ phase, ∃ w, w ∈ word phase

namespace Viewed

theorem ways_inhabited (h : Viewed o plan view word) (phases : List SessionPhase) :
    ∃ w, w ∈ ways word phases := by
  induction phases with
  | nil => exact ⟨[], Language.nil_mem_one⟩
  | cons phase rest ih => exact exists_mem_mul (h.inhabited phase) ih

theorem record (h : Viewed o plan view word) (phase : SessionPhase) (startedAt : Timestamp)
    (endedAt : Option Timestamp) (unhashable : Option Exc) :
    Follows (seen view) (recordPhase o.withPhases plan phase startedAt endedAt unhashable)
      (word phase) :=
  (h.records phase startedAt endedAt unhashable).follows (h.inhabited phase)

theorem preflight (h : Viewed o plan view word) (phase : SessionPhase) :
    Follows (seen view) (Orchestration.preflight o.withPhases plan phase) (word phase) := by
  have hWord := h.inhabited phase
  refine (still_clock.silent view).bind_follows (fun now => ?_) hWord
  refine ((still_renew now).silent view).bind_follows (fun _ => ?_) hWord
  refine ((Still.ask (o.healthProbe plan now)).silent view).bind_follows (fun health => ?_) hWord
  cases healthKillReason health plan plan.policy with
  | none => exact h.record phase now none none
  | some reason => exact .throw _ hWord

theorem runPhase (h : Viewed o plan view word) (phase : SessionPhase) (hook : Hook ρ D) :
    Follows (seen view) (Orchestration.runPhase o.withPhases plan phase
      fun plan now token => onRest (hook plan now token)) (word phase) := by
  have hWord := h.inhabited phase
  refine (still_clock.silent view).bind_follows (fun started => ?_) hWord
  refine ((still_renew started).silent view).bind_follows (fun _ => ?_) hWord
  refine (Still.get.silent view).bind_follows (fun s => ?_) hWord
  cases s.lease with
  | none => exact .throw _ hWord
  | some lease =>
    refine ((still_logCall _).silent view).bind_follows (fun _ => ?_) hWord
    refine ((Still.ask (hook plan started lease.fencingToken)).silent view).bind_follows
      (fun details => ?_) hWord
    refine (still_clock.silent view).bind_follows (fun ended => ?_) hWord
    refine ((still_renew ended).silent view).bind_follows (fun _ => ?_) hWord
    exact (h.record phase started (some ended) details.unhashable).bind_silent fun _ => .pure _

theorem waitAndRun (h : Viewed o plan view word) (phase : SessionPhase) (target : Timestamp)
    (hook : Hook ρ D) :
    Follows (seen view) (Orchestration.waitAndRun o.withPhases rounds plan phase target
      fun plan now token => onRest (hook plan now token)) (word phase) :=
  ((still_waitUntil target rounds).silent view).bind_follows (fun _ => h.runPhase phase hook)
    (h.inhabited phase)

theorem takeLeadership (h : Viewed o plan view word) (startedAt : Timestamp) :
    Follows (seen view) (Orchestration.takeLeadership o.withPhases plan startedAt)
      (word .leadershipAcquired) := by
  have hWord := h.inhabited .leadershipAcquired
  refine ((Still.ask (o.leadership.acquire _ _ _ _)).silent view).bind_follows
    (fun granted => ?_) hWord
  cases granted with
  | none => exact .throw _ hWord
  | some lease =>
    refine Silent.bind_follows (silent_modify ?_) (fun _ => ?_) hWord
    · exact fun _ => rfl
    refine (h.record .leadershipAcquired startedAt none none).bind_silent fun _ => ?_
    refine (Still.get.silent view).bind fun s => ?_
    simp only
    split_ifs
    · exact .throw _
    · exact .pure ()

theorem evaluateSession (h : Viewed o plan view word) :
    Follows (seen view) (Orchestration.evaluateSession o.withPhases rounds plan)
      (evaluationWay word) := by
  have hWays := h.ways_inhabited
  refine (h.preflight .preflight).bind (fun _ => ?_) (hWays _)
  refine (h.waitAndRun .recorderWarmup _ o.hooks.warmupRecorder).bind (fun _ => ?_) (hWays _)
  refine (h.waitAndRun .recording _ recordingStarted).bind (fun _ => ?_) (hWays _)
  refine (h.waitAndRun .featureFreeze _ o.hooks.freezeFeatures).bind (fun _ => ?_) (hWays _)
  refine (h.waitAndRun .evaluation _ o.hooks.evaluate).bind (fun evaluation => ?_) (hWays _)
  refine ((still_clock.silent view).bind fun now => ?_).follows
  split_ifs
  · exact .throw _
  · cases evaluationPhaseSummary evaluation.items with
    | error e => exact .throw _
    | ok summary => exact .pure _

theorem trade (h : Viewed o plan view word) :
    Follows (seen view) (Orchestration.trade o.withPhases rounds plan) (tradingWay word) := by
  have hWays := h.ways_inhabited
  have hCutoff : Silent (seen view) (checkEntryCutoff o.withPhases plan) :=
    still_checkEntryCutoff.silent view
  refine ((still_waitUntil _ rounds).silent view).bind_follows (fun _ => ?_) (hWays _)
  refine (h.preflight .eligibilityLock).bind (fun _ => ?_) (hWays _)
  refine ((still_waitUntil _ rounds).silent view).bind_follows (fun _ => ?_) (hWays _)
  refine hCutoff.bind_follows (fun _ => ?_) (hWays _)
  refine (h.runPhase .execution o.hooks.sizeAndExecute).bind (fun execution => ?_) (hWays _)
  refine ((still_recordManaged _).silent view).bind_follows (fun _ => ?_) (hWays _)
  refine hCutoff.bind_follows (fun _ => ?_) (hWays _)
  refine (h.runPhase .monitoring o.hooks.reconcile).bind (fun _ => ?_) (hWays _)
  refine Silent.follows (.bind (silent_modify ?_) fun _ => ?_)
  · exact fun _ => rfl
  split_ifs
  · exact .throw _
  · exact .pure _

theorem actOn (h : Viewed o plan view word) (summary : EvaluationPhaseSummary) :
    Follows (seen view) (Orchestration.actOn o.withPhases rounds plan summary)
      (1 + tradingWay word) := by
  have hIdle {f : SessionState (ρ × MemoryPhases) D → SessionState (ρ × MemoryPhases) D}
      (hf : ∀ s, (f s).env = s.env) : Follows (seen view) (modify f : Session _ D Unit)
        (1 + tradingWay word) :=
    (silent_modify hf).follows.mono le_self_add
  unfold Orchestration.actOn
  split_ifs
  · exact hIdle fun _ => rfl
  · exact hIdle fun _ => rfl
  · exact h.trade.mono le_add_self

theorem runFlatten (h : Viewed o plan view word) (now : Timestamp) :
    Follows (seen view) (Orchestration.runFlatten o.withPhases rounds plan now)
      (ways word [.flattening]) := by
  refine ((still_callFlatten now).silent view).bind_follows (fun result => ?_)
    (h.ways_inhabited _)
  refine (h.record .flattening now (some result.completedAt) none).bind (fun _ => ?_)
    (h.ways_inhabited _)
  exact (((Still.ask (o.repository.saveFlatten result)).silent view).bind fun _ => .pure _).follows

/-- The completed phase is the last that is recorded, and nothing raises after it. -/
theorem completion (h : Viewed o plan view word) (result : FlattenResult D) :
    Appends (seen view) (do
        recordPhase o.withPhases plan .reconciliation result.completedAt none none
        recordPhase o.withPhases plan .completed (← clock o.withPhases.timing) none none
        modify fun s => { s with finalPhase := .completed } : Session (ρ × MemoryPhases) D Unit)
      (Orchestration.completion word) (initial (ways word [.reconciliation])) := by
  have hNone : ∃ w, w ∈ (1 : Language κ) := ⟨[], Language.nil_mem_one⟩
  refine (h.record .reconciliation _ none none).bind_appends (fun _ => ?_) hNone
  refine (still_clock.silent view).bind_appends (fun now => ?_) hNone
  have hCompleted := h.records .completed now none none
  refine (hCompleted.bind fun _ => Appends.modify
    (g := fun s => { s with finalPhase := .completed }) fun _ => rfl).mono le_rfl ?_
  rw [mul_zero, add_zero]
  exact le_initial

theorem closeSession (h : Viewed o plan view word) :
    Appends (seen view) (Orchestration.closeSession o.withPhases rounds plan)
      (ways word [.flattening] * (1 + Orchestration.completion word))
      (initial (ways word [.flattening] * ways word [.reconciliation])) := by
  have hLast := h.ways_inhabited [.reconciliation]
  have hBoth := exists_mem_mul (h.ways_inhabited [.flattening]) hLast
  refine ((still_waitUntil _ rounds).silent view).bind_appends (fun _ => ?_) hBoth
  refine (still_clock.silent view).bind_appends (fun now => ?_) hBoth
  refine (h.runFlatten now).bind_appends (fun result => ?_) hLast
  refine Silent.bind_appends (silent_modify ?_) (fun _ => ?_) hLast
  · exact fun _ => rfl
  split_ifs
  · exact (h.completion result).mono le_add_self le_rfl
  · refine Appends.mono (L := 1) (M := 1) ?_ le_self_add (one_le_initial hLast)
    refine Silent.appends (.bind (silent_modify fun _ => rfl) fun _ => ?_)
    refine ((Still.ask (o.repository.saveKillSwitch _)).silent view).bind fun _ => ?_
    refine ((still_emitCritical _ _ _).silent view).bind fun _ => ?_
    exact silent_modify fun _ => rfl

theorem planTo_inhabited (h : Viewed o plan view word) {last : Language κ}
    (hLast : ∃ w, w ∈ last) : ∃ w, w ∈ planTo word last := by
  have hWays := h.ways_inhabited
  refine exists_mem_mul (h.inhabited _) (exists_mem_mul (hWays _) (exists_mem_mul ?_ ?_))
  · exact ⟨[], .inl Language.nil_mem_one⟩
  · exact exists_mem_mul (hWays _) hLast

theorem trySession (h : Viewed o plan view word) (startedAt : Timestamp) :
    Appends (seen view) (Orchestration.trySession o.withPhases rounds plan startedAt)
      (planWay word) (openWay word) := by
  have hWays := h.ways_inhabited
  have hClosing := exists_mem_mul (hWays [.flattening]) (hWays [.reconciliation])
  have hTrading : ∃ w, w ∈ 1 + tradingWay word := ⟨[], .inl Language.nil_mem_one⟩
  refine (h.takeLeadership startedAt).bind_appends (fun _ => ?_)
    (exists_mem_mul (hWays _) (exists_mem_mul hTrading hClosing))
  refine h.evaluateSession.bind_appends (fun summary => ?_) (exists_mem_mul hTrading hClosing)
  exact (h.actOn summary).bind_appends (fun _ => h.closeSession) hClosing

/-- A handler flattens, or fails before it has. -/
theorem emergencyFlatten (h : Viewed o plan view word) (now : Timestamp) :
    Appends (seen view) (Orchestration.emergencyFlatten o.withPhases rounds plan now)
      (initial (ways word [.flattening])) (initial (ways word [.flattening])) := by
  have hRun : Follows (seen view) (Orchestration.runFlatten o.withPhases rounds plan now)
    (ways word [.flattening]) := h.runFlatten now
  have hFlatten := hRun.bind_silent fun result =>
    silent_modify (f := fun s => { s with flattenResult := some result }) fun _ => rfl
  refine (hFlatten.tryCatch (N := 1) (K := 1) fun halt => Silent.appends ?_).mono ?_ ?_
  · cases halt with
    | waiting => exact .throw _
    | raised e => exact silent_modify fun _ => rfl
  · rw [mul_one]
    exact add_le le_initial le_rfl
  · rw [mul_one]

/-- What comes before the flatten of a handler records nothing. -/
theorem before_flatten (h : Viewed o plan view word) {α : Type}
    {p : Session (ρ × MemoryPhases) D α} (hp : Silent (seen view) p)
    {f : α → Session (ρ × MemoryPhases) D Unit}
    (hf : ∀ a, Appends (seen view) (f a) (initial (ways word [.flattening]))
      (initial (ways word [.flattening]))) :
    Appends (seen view) (p >>= f) (initial (ways word [.flattening]))
      (initial (ways word [.flattening])) :=
  hp.bind_appends hf (h.ways_inhabited _)

theorem handleFailure (h : Viewed o plan view word) (e : Exc) :
    Appends (seen view) (Orchestration.handleFailure o.withPhases rounds plan e)
      (initial (ways word [.flattening])) (initial (ways word [.flattening])) := by
  refine h.before_flatten (still_clock.silent view) fun now => ?_
  refine h.before_flatten (silent_modify ?_) fun _ => ?_
  · exact fun _ => rfl
  refine h.before_flatten ((Still.ask (o.repository.saveKillSwitch _)).silent view) fun _ => ?_
  refine h.before_flatten ((still_emitCritical _ _ _).silent view) fun _ => ?_
  refine h.before_flatten (silent_modify ?_) fun _ => ?_
  · exact fun _ => rfl
  exact h.emergencyFlatten now

theorem handle (h : Viewed o plan view word) (startedAt : Timestamp) (e : Exc) :
    Appends (seen view) (Orchestration.handle o.withPhases rounds plan startedAt e)
      (initial (ways word [.flattening])) (initial (ways word [.flattening])) := by
  have hNone := one_le_initial (h.ways_inhabited [.flattening])
  unfold Orchestration.handle
  split
  · refine Appends.mono (L := 1) (M := 1) (Silent.appends ?_) hNone hNone
    refine .bind (silent_modify ?_) fun _ => (still_emitCritical _ _ _).silent view
    exact fun _ => rfl
  · refine h.before_flatten (still_clock.silent view) fun now => ?_
    refine h.before_flatten (silent_modify ?_) fun _ => ?_
    · exact fun _ => rfl
    refine h.before_flatten ((still_emitCritical _ _ _).silent view) fun _ => ?_
    exact h.emergencyFlatten now
  · exact h.handleFailure e

/-- The session with its handlers. -/
theorem handled (h : Viewed o plan view word) (startedAt : Timestamp) :
    Appends (seen view) (tryCatch (Orchestration.trySession o.withPhases rounds plan startedAt) fun
        | .waiting => throw .waiting
        | .raised e => Orchestration.handle o.withPhases rounds plan startedAt e)
      (runWay word) (openWay word * initial (ways word [.flattening])) := by
  refine (h.trySession startedAt).tryCatch fun halt => ?_
  cases halt with
  | waiting =>
    have hNone := one_le_initial (h.ways_inhabited [.flattening])
    exact (Silent.appends (.throw _)).mono hNone hNone
  | raised e => exact h.handle startedAt e

theorem run (h : Viewed o plan view word) (startAt : Option Timestamp) :
    Appends (seen view) (Orchestration.run o.withPhases rounds plan startAt)
      (runWay word) (runWay word) := by
  have hWays : runWay word + openWay word * initial (ways word [.flattening]) ≤ runWay word :=
    add_le le_rfl le_add_self
  have hNone : 1 ≤ runWay word := by
    rintro w rfl
    have hOpen := one_le_initial (h.planTo_inhabited (h.ways_inhabited [.reconciliation]))
    have hFlatten := one_le_initial (h.ways_inhabited [.flattening])
    exact .inr (Language.append_mem_mul (hOpen Language.nil_mem_one)
      (hFlatten Language.nil_mem_one))
  refine (((still_beginRun startAt).silent view).appends.bind fun startedAt =>
    ((h.handled startedAt).attempt.mono hWays le_rfl).bind fun ended =>
      Silent.appends ?_).mono ?_ ?_
  · have hConclude : Silent (seen view) (conclude o.withPhases plan startedAt) :=
      (still_conclude startedAt).silent view
    rcases ended with (e | _) | _
    · exact hConclude.bind fun _ => .throw _
    · exact .throw _
    · exact hConclude
  · rw [one_mul, mul_one]
  · rw [one_mul, mul_one, zero_add]
    exact add_le hNone le_rfl

end Viewed

end Run

/-! ### The log of a session -/

section Log

variable {o : SessionOrchestrator ρ D} {rounds : ℕ} {plan : SessionPlan} {κ : Type}

/-- An append seen through any function of the records of a session. -/
theorem append_adds (record : PhaseRecord) (sessionId : String) (f : PhaseRecord → κ) :
    Appends (seen fun phases => (phases.records sessionId).items.map f)
      (Orchestration.ask (o.withPhases.repository.appendPhase record) :
        Session (ρ × MemoryPhases) D Unit)
      {if sessionId = record.sessionId then [f record] else []} 1 := by
  intro s
  rw [exec_ask]
  change ∃ more, (MemoryPhases.records (MemoryPhases.append record s.env.2).2 sessionId).items.map f
      = (s.env.2.records sessionId).items.map f ++ more ∧
    (∀ a, (MemoryPhases.append record s.env.2).1.mapError Halt.raised = .ok a → _) ∧
      ∀ e, (MemoryPhases.append record s.env.2).1.mapError Halt.raised = .error e → _
  rcases MemoryPhases.append_cases record s.env.2 sessionId with
    ⟨e, hAppend⟩ | ⟨phases', hAppend, hItems⟩
  · rw [hAppend]
    exact ⟨[], (List.append_nil _).symm, nofun, fun _ _ => Language.nil_mem_one⟩
  · rw [hAppend]
    refine ⟨_, ?_, fun _ _ => rfl, nofun⟩
    rw [hItems, List.map_append, apply_ite (List.map f)]
    rfl

/-- What a record of a phase leaves, seen through any function of the records of a session. -/
theorem records_adds (sessionId : String) (f : PhaseRecord → κ) {L : Language κ}
    {phase : SessionPhase} (startedAt : Timestamp) (endedAt : Option Timestamp)
    (unhashable : Option Exc) (hL : ∀ record : PhaseRecord, record.phase = phase →
      (if sessionId = plan.sessionId then [f record] else []) ∈ L) :
    Appends (seen fun phases => (phases.records sessionId).items.map f)
      (recordPhase o.withPhases plan phase startedAt endedAt unhashable) L 1 := by
  have hList := ((still_listPhases (o := o) plan.sessionId).silent
    fun phases => (phases.records sessionId).items.map f).appends
  refine (hList.bind (N := L) (K := 1) fun phases => ?_).mono (by rw [one_mul]) ?_
  · cases unhashable with
    | some e => exact (Appends.throw _).mono bot_le le_rfl
    | none =>
      refine (append_adds _ sessionId f).mono ?_ le_rfl
      rintro word rfl
      exact hL _ rfl
  · rw [one_mul, Language.add_self]

theorem viewed (sessionId : String) (f : PhaseRecord → κ) {word : SessionPhase → Language κ}
    (hInhabited : ∀ phase, ∃ w, w ∈ word phase) (hWord : ∀ record : PhaseRecord,
      (if sessionId = plan.sessionId then [f record] else []) ∈ word record.phase) :
    Viewed o plan (fun phases => (phases.records sessionId).items.map f) word where
  records phase startedAt endedAt unhashable := by
    refine records_adds sessionId f startedAt endedAt unhashable fun record hPhase => ?_
    rw [← hPhase]
    exact hWord record
  inhabited := hInhabited

/-- The records as they are, added by any words. -/
theorem viewed_items (sessionId : String) :
    Viewed o plan (fun phases => (phases.records sessionId).items.map id) fun _ => ⊤ :=
  viewed sessionId id (fun _ => ⟨[], trivial⟩) fun _ => trivial

/-- The phase alone. -/
def single (phase : SessionPhase) : Language SessionPhase := {[phase]}

theorem viewed_phases :
    Viewed o plan (fun phases => (phases.records plan.sessionId).items.map (·.phase)) single := by
  refine viewed plan.sessionId _ (fun phase => ⟨[phase], rfl⟩) fun record => ?_
  rw [if_pos rfl]
  rfl

/-- The records that were added have the phases that were. -/
theorem phases_of_added {items stored added : List PhaseRecord} {more : List SessionPhase}
    (hItems : items = stored ++ added)
    (hPhases : items.map (·.phase) = stored.map (·.phase) ++ more) :
    added.map (·.phase) = more := by
  rw [hItems, List.map_append] at hPhases
  exact List.append_cancel_left hPhases

theorem ways_one (phases : List SessionPhase) : ways (fun _ => (1 : Language κ)) phases = 1 := by
  induction phases with
  | nil => rfl
  | cons phase rest ih => rw [ways, ih, one_mul]

theorem runWay_one : runWay (fun _ => (1 : Language κ)) = 1 := by
  simp only [runWay, planWay, openWay, planTo, completion, evaluationWay, tradingWay, ways_one,
    initial_one, Language.add_self, one_mul]

/-- A run of a session, on whatever else its environment holds. -/
structure SessionRun (ρ D : Type) [DecimalArithmetic D] where
  orchestrator : SessionOrchestrator ρ D
  rounds : ℕ
  plan : SessionPlan
  startAt : Option Timestamp
  start : MemoryPhases → SessionState (ρ × MemoryPhases) D
  starts : ∀ phases, (start phases).env.2 = phases

namespace SessionRun

/-- What a run leaves of the phases that it finds. -/
def leaves (session : SessionRun ρ D) (phases : MemoryPhases) : MemoryPhases :=
  ((run session.orchestrator.withPhases session.rounds session.plan session.startAt).exec
    (session.start phases)).2.env.2

theorem leaves_mem (session : SessionRun ρ D) (phases : MemoryPhases)
    {view : MemoryPhases → List κ} {word : SessionPhase → Language κ}
    (h : Viewed session.orchestrator session.plan view word) :
    ∃ more ∈ runWay word, view (session.leaves phases) = view phases ++ more := by
  have hRun : Appends (seen view) (run session.orchestrator.withPhases session.rounds session.plan
    session.startAt) (runWay word) (runWay word) := h.run session.startAt
  obtain ⟨more, hLog, hReturns, hRaises⟩ := hRun (session.start phases)
  refine ⟨more, ?_, ?_⟩
  · cases hOutcome : ((run session.orchestrator.withPhases session.rounds session.plan
        session.startAt).exec (session.start phases)).1 with
    | ok result => exact hReturns result hOutcome
    | error halt => exact hRaises halt hOutcome
  · rw [seen, seen, session.starts] at hLog
    exact hLog

theorem leaves_adds (session : SessionRun ρ D) (phases : MemoryPhases) (sessionId : String) :
    ∃ added, ((session.leaves phases).records sessionId).items =
        (phases.records sessionId).items ++ added ∧
      added.map (·.phase) ∈
        if sessionId = session.plan.sessionId then runWay single else 1 := by
  obtain ⟨added, -, hAdded⟩ := session.leaves_mem phases (viewed_items sessionId)
  simp only [List.map_id] at hAdded
  refine ⟨added, hAdded, ?_⟩
  have hPhases {word : SessionPhase → Language SessionPhase}
      (h : Viewed session.orchestrator session.plan
        (fun phases => (phases.records sessionId).items.map (·.phase)) word) :
      added.map (·.phase) ∈ runWay word := by
    obtain ⟨more, hMore, hLog⟩ := session.leaves_mem phases h
    rwa [phases_of_added hAdded hLog]
  split_ifs with hSession
  · subst hSession
    exact hPhases viewed_phases
  · rw [← runWay_one]
    refine hPhases (viewed sessionId _ (fun _ => ⟨[], rfl⟩) fun record => ?_)
    rw [if_neg hSession]
    rfl

end SessionRun

/-- The records of a session after some runs, of this and of other sessions. -/
def phaseLog (runs : List (SessionRun ρ D)) (sessionId : String) : PhaseRecords :=
  MemoryPhases.records (runs.foldl (fun phases session => session.leaves phases) ∅) sessionId

/-- Records are only added, and numbered on; what is added are ways through the plan, one for each
run of the session. -/
theorem phases_follow_plan (runs later : List (SessionRun ρ D)) (sessionId : String) :
    ∃ added, (phaseLog (runs ++ later) sessionId).items = (phaseLog runs sessionId).items ++ added ∧
      added.map (·.sequence) =
        List.range' ((phaseLog runs sessionId).items.length + 1) added.length ∧
      added.map (·.phase) ∈
        runWay single ^ later.countP (fun session => sessionId = session.plan.sessionId) := by
  have hAdded : ∃ added,
      (phaseLog (runs ++ later) sessionId).items = (phaseLog runs sessionId).items ++ added ∧
      added.map (·.phase) ∈
        runWay single ^ later.countP (fun session => sessionId = session.plan.sessionId) := by
    induction later using List.reverseRecOn with
    | nil => exact ⟨[], by rw [List.append_nil, List.append_nil], rfl⟩
    | append_singleton later session ih =>
      obtain ⟨before, hBefore, hWays⟩ := ih
      obtain ⟨last, hLast, hWay⟩ := session.leaves_adds
        ((runs ++ later).foldl (fun phases session => session.leaves phases) ∅) sessionId
      have hStep : (phaseLog (runs ++ later ++ [session]) sessionId).items =
          (phaseLog (runs ++ later) sessionId).items ++ last := by
        rw [phaseLog, List.foldl_concat, hLast]
        rfl
      refine ⟨before ++ last, ?_, ?_⟩
      · rw [← List.append_assoc runs, hStep, hBefore, List.append_assoc]
      · rw [List.countP_append, List.countP_singleton, List.map_append, pow_add]
        refine Language.append_mem_mul hWays ?_
        by_cases hSession : sessionId = session.plan.sessionId
        · rw [if_pos hSession] at hWay
          rwa [if_pos (decide_eq_true hSession), pow_one]
        · rw [if_neg hSession] at hWay
          rwa [if_neg (by rwa [decide_eq_true_iff]), pow_zero]
  obtain ⟨added, hItems, hWays⟩ := hAdded
  refine ⟨added, hItems, ?_, hWays⟩
  have hNumbers := (phaseLog (runs ++ later) sessionId).contiguous
  rw [hItems, List.map_append, (phaseLog runs sessionId).contiguous, List.length_append,
    ← List.range'_append_1] at hNumbers
  rw [List.append_cancel_left hNumbers, Nat.add_comm]

end Log

end Daybreak.Orchestration
