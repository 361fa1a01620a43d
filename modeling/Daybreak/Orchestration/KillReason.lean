import Daybreak.Effect.Causes
import Daybreak.Orchestration.Durability
import Daybreak.Orchestration.World

/-! What the reason of a kill switch says about the failure. The body of a session is
written once more with the cause for which each of its steps can raise; the reason, read
off the text of the exception, is compared with that cause. -/

namespace Daybreak.Orchestration

open Numeric DecimalArithmetic Effect Program

variable {σ D : Type} [DecimalArithmetic D]

/-! ### The causes of a failure -/

/-- The lease is missing, or could not be renewed; the preflight found this health; a cutoff
check of the session failed; or anything else. -/
inductive Cause where
  | lease
  | preflight (health : HealthSnapshot)
  | cutoff
  | other
  deriving DecidableEq, Repr

abbrev AscribedSession (σ D α : Type) [DecimalArithmetic D] :=
  Program (SessionState σ D) (Cause × Halt) α

/-- What a failed preflight and a failed cutoff check raise. -/
def Explains (plan : SessionPlan) : Cause → Halt → Prop
  | .preflight health, halt => ∃ reason, healthKillReason health plan plan.policy = some reason ∧
      halt = .raised (.runtimeError ("preflight failed: " ++ reason.value))
  | .cutoff, halt => halt = .raised (.runtimeError "evaluator cutoff exceeded") ∨
      halt = .raised (.runtimeError "new-entry cutoff exceeded")
  | _, _ => True

namespace Ascribed

def waitUntil (o : SessionOrchestrator σ D) (plan : SessionPlan) (target : Timestamp) :
    ℕ → AscribedSession σ D Unit
  | 0 => ascribe .other (throw .waiting)
  | rounds + 1 => do
    let now ← ascribe .other (clock o.timing)
    let remaining := elapsedSeconds target now
    if remaining ≤ 0 then return ()
    else
      ascribe .other (sleepFor o.timing (min remaining 1))
      ascribe .lease (renewLeadership o plan (← ascribe .other (clock o.timing)))
      waitUntil o plan target rounds

def runPhase (o : SessionOrchestrator σ D) (plan : SessionPlan) (phase : SessionPhase)
    (hook : Hook σ D) : AscribedSession σ D (HookDetails D) := do
  let started ← ascribe .other (clock o.timing)
  ascribe .lease (renewLeadership o plan started)
  match (← get).lease with
  | none => ascribe .lease (raiseRuntimeError "leadership lease missing")
  | some lease =>
    ascribe .other (logCall (.hook phase started lease.fencingToken))
    let details ← ascribe .other (ask (hook plan started lease.fencingToken))
    let ended ← ascribe .other (clock o.timing)
    ascribe .lease (renewLeadership o plan ended)
    ascribe .other (recordPhase o plan phase started (some ended) details.unhashable)
    return details

def waitAndRun (o : SessionOrchestrator σ D) (rounds : ℕ) (plan : SessionPlan)
    (phase : SessionPhase) (target : Timestamp) (hook : Hook σ D) :
    AscribedSession σ D (HookDetails D) := do
  waitUntil o plan target rounds
  runPhase o plan phase hook

def preflight (o : SessionOrchestrator σ D) (plan : SessionPlan) (phase : SessionPhase) :
    AscribedSession σ D Unit := do
  let now ← ascribe .other (clock o.timing)
  ascribe .lease (renewLeadership o plan now)
  let health ← ascribe .other (ask (o.healthProbe plan now))
  match healthKillReason health plan plan.policy with
  | some reason =>
    ascribe (.preflight health) (raiseRuntimeError ("preflight failed: " ++ reason.value))
  | none => ascribe .other (recordPhase o plan phase now none none)

/-- No lease is granted by an acquisition that raises. -/
def takeLeadership (o : SessionOrchestrator σ D) (plan : SessionPlan) (startedAt : Timestamp) :
    AscribedSession σ D Unit := do
  match ← ascribe .lease (ask (o.leadership.acquire plan.sessionId o.holderId startedAt
      plan.policy.leadershipTtlSeconds)) with
  | none =>
    ascribe .lease
      (throw (.raised (.leadershipUnavailable "another process holds session leadership")))
  | some lease =>
    ascribe .other (modify fun s => { s with
      acquired := some lease, lease := some lease, lastRenewedAt := some startedAt })
    ascribe .other (recordPhase o plan .leadershipAcquired startedAt none none)
    let killSwitch := (← get).killSwitch
    if killSwitch.active then
      ascribe .other (throw (.raised (.persistentKillSwitchActive
        ("persistent kill switch is active: " ++
          (killSwitch.reason.map (·.value)).getD "None"))))

def evaluateSession (o : SessionOrchestrator σ D) (rounds : ℕ) (plan : SessionPlan) :
    AscribedSession σ D EvaluationPhaseSummary := do
  preflight o plan .preflight
  let _ ← waitAndRun o rounds plan .recorderWarmup plan.recorderWarmupAt o.hooks.warmupRecorder
  let _ ← waitAndRun o rounds plan .recording plan.featureWindowStartAt recordingStarted
  let _ ← waitAndRun o rounds plan .featureFreeze plan.featureSnapshotAt o.hooks.freezeFeatures
  let evaluation ← waitAndRun o rounds plan .evaluation plan.featureSnapshotAt o.hooks.evaluate
  if plan.evaluatorCutoffAt < (← ascribe .other (clock o.timing)) then
    ascribe .cutoff (raiseRuntimeError "evaluator cutoff exceeded")
  else
    match evaluationPhaseSummary evaluation.items with
    | .error e => ascribe .other (throw (.raised e))
    | .ok summary => return summary

def trade (o : SessionOrchestrator σ D) (rounds : ℕ) (plan : SessionPlan) :
    AscribedSession σ D Unit := do
  waitUntil o plan plan.eligibilityLockAt rounds
  preflight o plan .eligibilityLock
  waitUntil o plan plan.regularSessionOpenAt rounds
  ascribe .cutoff (checkEntryCutoff o plan)
  let execution ← runPhase o plan .execution o.hooks.sizeAndExecute
  ascribe .other (recordManaged (managedPositions execution.items))
  ascribe .cutoff (checkEntryCutoff o plan)
  let _ ← runPhase o plan .monitoring o.hooks.reconcile
  ascribe .other (modify fun s => { s with outcome := .completed, finalPhase := .monitoring })
  if ((execution.items.lookup "kill_switch_required").map (·.truthy)).getD false then
    ascribe .other (raiseRuntimeError "execution requested kill switch")

def actOn (o : SessionOrchestrator σ D) (rounds : ℕ) (plan : SessionPlan)
    (summary : EvaluationPhaseSummary) : AscribedSession σ D Unit :=
  if summary.runStatus ∈ [.blockedMarket, .stalePayload, .schemaFailure] then
    ascribe .other (modify fun s => { s with outcome := .blocked, finalPhase := .evaluation })
  else if summary.runStatus = .noSetups ∨ summary.approvedCount = 0 then
    ascribe .other (modify fun s => { s with outcome := .noSetups, finalPhase := .evaluation })
  else trade o rounds plan

def closeSession (o : SessionOrchestrator σ D) (rounds : ℕ) (plan : SessionPlan) :
    AscribedSession σ D Unit := do
  waitUntil o plan plan.mandatoryFlattenAt rounds
  let now ← ascribe .other (clock o.timing)
  let result ← ascribe .other (runFlatten o rounds plan now)
  ascribe .other (modify fun s => { s with flattenResult := some result, finalPhase := .flattening })
  if result.complete then
    ascribe .other (recordPhase o plan .reconciliation result.completedAt none none)
    let ended ← ascribe .other (clock o.timing)
    ascribe .other (recordPhase o plan .completed ended none none)
    ascribe .other (modify fun s => { s with finalPhase := .completed })
  else
    let killSwitch := activateKillSwitch plan.sessionId .flattenDeadlineExceeded result.completedAt
      (.incompleteFlatten result.errors (result.remainingPositions.map (·.symbol)))
    ascribe .other (modify fun s => { s with killSwitch := killSwitch })
    ascribe .other (ask (o.repository.saveKillSwitch killSwitch))
    ascribe .other (emitCritical o plan "FLATTEN_INCOMPLETE"
      "Mandatory end-of-day flatten did not complete." result.completedAt)
    ascribe .other (modify fun s => { s with
      outcome := .flattenIncomplete, finalPhase := .killed })

/-- The body of the `try`, with the causes of what it raises. -/
def trySession (o : SessionOrchestrator σ D) (rounds : ℕ) (plan : SessionPlan)
    (startedAt : Timestamp) : AscribedSession σ D Unit := do
  takeLeadership o plan startedAt
  let summary ← evaluateSession o rounds plan
  actOn o rounds plan summary
  closeSession o rounds plan

/-! ### The causes are those of the session -/

variable (o : SessionOrchestrator σ D) (plan : SessionPlan)

theorem lease_ascribes {α : Type} (p : Session σ D α) :
    Ascribes (Explains plan) (ascribe .lease p) p :=
  .ascribe fun _ _ _ _ => trivial

theorem other_ascribes {α : Type} (p : Session σ D α) :
    Ascribes (Explains plan) (ascribe .other p) p :=
  .ascribe fun _ _ _ _ => trivial

theorem checkEntryCutoff_ascribes :
    Ascribes (Explains plan) (ascribe .cutoff (checkEntryCutoff o plan))
      (checkEntryCutoff o plan) := by
  apply Ascribes.ascribe
  intro s e t hExec
  rw [checkEntryCutoff, exec_bind, exec_clock] at hExec
  simp only at hExec
  split_ifs at hExec
  · exact .inr (Except.error.inj (Prod.mk.inj hExec).1).symm
  · cases (Prod.mk.inj hExec).1

theorem waitUntil_ascribes (target : Timestamp) (rounds : ℕ) :
    Ascribes (Explains plan) (waitUntil o plan target rounds) (Orchestration.waitUntil o plan target rounds) := by
  induction rounds with
  | zero => exact other_ascribes plan _
  | succ rounds ih =>
    refine .bind (other_ascribes plan _) fun now => ?_
    by_cases hDone : elapsedSeconds target now ≤ 0
    · simp only [if_pos hDone]
      exact .pure ()
    · simp only [if_neg hDone]
      apply (other_ascribes plan _).bind
      intro _
      apply (other_ascribes plan _).bind
      intro later
      exact (lease_ascribes plan _).bind fun _ => ih

theorem runPhase_ascribes (phase : SessionPhase) (hook : Hook σ D) :
    Ascribes (Explains plan) (runPhase o plan phase hook) (Orchestration.runPhase o plan phase hook) := by
  apply (other_ascribes plan _).bind
  intro started
  apply (lease_ascribes plan _).bind
  intro _
  apply Ascribes.get.bind
  intro s
  cases s.lease with
  | none => exact lease_ascribes plan _
  | some lease =>
    apply (other_ascribes plan _).bind
    intro _
    apply (other_ascribes plan _).bind
    intro details
    apply (other_ascribes plan _).bind
    intro ended
    apply (lease_ascribes plan _).bind
    intro _
    exact (other_ascribes plan _).bind fun _ => .pure details

theorem waitAndRun_ascribes (rounds : ℕ) (phase : SessionPhase) (target : Timestamp)
    (hook : Hook σ D) : Ascribes (Explains plan) (waitAndRun o rounds plan phase target hook)
      (Orchestration.waitAndRun o rounds plan phase target hook) :=
  .bind (waitUntil_ascribes o plan target rounds) fun _ => runPhase_ascribes o plan phase hook

theorem preflight_ascribes (phase : SessionPhase) :
    Ascribes (Explains plan) (preflight o plan phase) (Orchestration.preflight o plan phase) := by
  apply (other_ascribes plan _).bind
  intro now
  apply (lease_ascribes plan _).bind
  intro _
  apply (other_ascribes plan _).bind
  intro health
  cases hReason : healthKillReason health plan plan.policy with
  | none => exact other_ascribes plan _
  | some reason =>
    apply Ascribes.ascribe
    intro s e t hExec
    exact ⟨reason, hReason, (Except.error.inj (Prod.mk.inj hExec).1).symm⟩

theorem takeLeadership_ascribes (startedAt : Timestamp) :
    Ascribes (Explains plan) (takeLeadership o plan startedAt) (Orchestration.takeLeadership o plan startedAt) := by
  apply (lease_ascribes plan _).bind
  intro acquired
  cases acquired with
  | none => exact lease_ascribes plan _
  | some lease =>
    apply (other_ascribes plan _).bind
    intro _
    apply (other_ascribes plan _).bind
    intro _
    apply Ascribes.get.bind
    intro s
    by_cases hActive : s.killSwitch.active = true
    · simp only [if_pos hActive]
      exact other_ascribes plan _
    · simp only [if_neg hActive]
      exact .pure ()

theorem evaluateSession_ascribes (rounds : ℕ) :
    Ascribes (Explains plan) (evaluateSession o rounds plan) (Orchestration.evaluateSession o rounds plan) := by
  apply (preflight_ascribes o plan _).bind
  intro _
  apply (waitAndRun_ascribes o plan rounds _ _ _).bind
  intro _
  apply (waitAndRun_ascribes o plan rounds _ _ _).bind
  intro _
  apply (waitAndRun_ascribes o plan rounds _ _ _).bind
  intro _
  apply (waitAndRun_ascribes o plan rounds _ _ _).bind
  intro evaluation
  apply (other_ascribes plan _).bind
  intro now
  by_cases hLate : plan.evaluatorCutoffAt < now
  · simp only [if_pos hLate]
    apply Ascribes.ascribe
    intro s e t hExec
    exact .inl (Except.error.inj (Prod.mk.inj hExec).1).symm
  · simp only [if_neg hLate]
    cases evaluationPhaseSummary evaluation.items with
    | error e => exact other_ascribes plan _
    | ok summary => exact .pure summary

theorem trade_ascribes (rounds : ℕ) :
    Ascribes (Explains plan) (trade o rounds plan) (Orchestration.trade o rounds plan) := by
  apply (waitUntil_ascribes o plan _ rounds).bind
  intro _
  apply (preflight_ascribes o plan _).bind
  intro _
  apply (waitUntil_ascribes o plan _ rounds).bind
  intro _
  apply (checkEntryCutoff_ascribes o plan).bind
  intro _
  apply (runPhase_ascribes o plan _ _).bind
  intro execution
  apply (other_ascribes plan _).bind
  intro _
  apply (checkEntryCutoff_ascribes o plan).bind
  intro _
  apply (runPhase_ascribes o plan _ _).bind
  intro _
  apply (other_ascribes plan _).bind
  intro _
  cases ((execution.items.lookup "kill_switch_required").map (·.truthy)).getD false with
  | true => exact other_ascribes plan _
  | false => exact .pure ()

theorem actOn_ascribes (rounds : ℕ) (summary : EvaluationPhaseSummary) :
    Ascribes (Explains plan) (actOn o rounds plan summary) (Orchestration.actOn o rounds plan summary) := by
  rw [actOn, Orchestration.actOn]
  split_ifs
  · exact other_ascribes plan _
  · exact other_ascribes plan _
  · exact trade_ascribes o plan rounds

theorem closeSession_ascribes (rounds : ℕ) :
    Ascribes (Explains plan) (closeSession o rounds plan) (Orchestration.closeSession o rounds plan) := by
  apply (waitUntil_ascribes o plan _ rounds).bind
  intro _
  apply (other_ascribes plan _).bind
  intro now
  apply (other_ascribes plan _).bind
  intro result
  apply (other_ascribes plan _).bind
  intro _
  by_cases hComplete : result.complete = true
  · simp only [if_pos hComplete]
    apply (other_ascribes plan _).bind
    intro _
    apply (other_ascribes plan _).bind
    intro _
    exact (other_ascribes plan _).bind fun _ => other_ascribes plan _
  · simp only [if_neg hComplete]
    apply (other_ascribes plan _).bind
    intro _
    apply (other_ascribes plan _).bind
    intro _
    exact (other_ascribes plan _).bind fun _ => other_ascribes plan _

theorem trySession_ascribes (rounds : ℕ) (startedAt : Timestamp) :
    Ascribes (Explains plan) (trySession o rounds plan startedAt)
      (Orchestration.trySession o rounds plan startedAt) := by
  apply (takeLeadership_ascribes o plan startedAt).bind
  intro _
  apply (evaluateSession_ascribes o plan rounds).bind
  intro summary
  exact (actOn_ascribes o plan rounds summary).bind fun _ => closeSession_ascribes o plan rounds

end Ascribed

/-! ### The text of an exception -/

def mentionsLeadership (e : Exc) : Bool := upperContains e.describe "LEADERSHIP"

def mentionsCutoff (e : Exc) : Bool :=
  upperContains e.describe "EVALUATOR CUTOFF" || upperContains e.describe "ENTRY CUTOFF"

variable {plan : SessionPlan} {e : Exc} {cause : Cause}

theorem ite_of {α : Type} {P : α → Prop} {p : Prop} [Decidable p] {a b : α} (ha : P a) (hb : P b) :
    P (if p then a else b) := by
  by_cases hp : p
  · rwa [if_pos hp]
  · rwa [if_neg hp]

/-- The reason speaks neither of leadership nor of a cutoff. -/
def Unrelated (reason : KillSwitchReason) : Prop :=
  reason ≠ .leadershipLost ∧ reason ≠ .executionCutoffExceeded

instance unrelated_decidable : DecidablePred Unrelated := fun _ => instDecidableAnd

theorem reasonFromError_unrelated {message : String}
    (hLeadership : ¬upperContains message "LEADERSHIP" = true)
    (hCutoff : ¬(upperContains message "EVALUATOR CUTOFF" = true ∨
      upperContains message "ENTRY CUTOFF" = true)) :
    Unrelated (reasonFromError message) := by
  rw [reasonFromError, if_neg hLeadership, if_neg hCutoff]
  iterate 9 refine ite_of (P := Unrelated) (by decide) ?_
  decide

theorem reasonFromError_leadershipLost :
    reasonFromError e.describe = .leadershipLost ↔ mentionsLeadership e = true := by
  rw [mentionsLeadership]
  by_cases hLeadership : upperContains e.describe "LEADERSHIP" = true
  · rw [reasonFromError, if_pos hLeadership]
    exact iff_of_true rfl hLeadership
  · refine iff_of_false ?_ hLeadership
    by_cases hCutoff : upperContains e.describe "EVALUATOR CUTOFF" = true ∨
        upperContains e.describe "ENTRY CUTOFF" = true
    · rw [reasonFromError, if_neg hLeadership, if_pos hCutoff]
      decide
    · exact (reasonFromError_unrelated hLeadership hCutoff).1

theorem reasonFromError_cutoff : reasonFromError e.describe = .executionCutoffExceeded ↔
    mentionsLeadership e = false ∧ mentionsCutoff e = true := by
  rw [mentionsLeadership, mentionsCutoff, Bool.or_eq_true, ← Bool.not_eq_true]
  by_cases hLeadership : upperContains e.describe "LEADERSHIP" = true
  · rw [reasonFromError, if_pos hLeadership]
    exact iff_of_false (by decide) fun h => h.1 hLeadership
  · by_cases hCutoff : upperContains e.describe "EVALUATOR CUTOFF" = true ∨
        upperContains e.describe "ENTRY CUTOFF" = true
    · rw [reasonFromError, if_neg hLeadership, if_pos hCutoff]
      exact iff_of_true rfl ⟨hLeadership, hCutoff⟩
    · refine iff_of_false ?_ fun h => hCutoff h.2
      exact (reasonFromError_unrelated hLeadership hCutoff).2

/-- The reasons that a preflight can fail for. -/
def healthReasons : List KillSwitchReason :=
  [.configurationMismatch, .clockUnsynced, .databaseUnhealthy, .recorderUnhealthy,
    .marketDataUnhealthy, .tradeUpdateStreamUnhealthy, .brokerUnhealthy, .accountBlocked,
    .tradingBlocked, .marketCircuitBreaker]

theorem healthKillReason_mem {health : HealthSnapshot} {policy : OrchestrationPolicy}
    {reason : KillSwitchReason} (h : healthKillReason health plan policy = some reason) :
    reason ∈ healthReasons := by
  suffices hListed : ∀ reason ∈ healthKillReason health plan policy, reason ∈ healthReasons from
    hListed reason h
  rw [healthKillReason]
  iterate 10 refine ite_of (P := fun found => ∀ reason ∈ found, reason ∈ healthReasons) (by decide) ?_
  decide

/-- They are read off the text of its exception, but for an unhealthy broker. -/
theorem reasonFromError_preflight : ∀ reason ∈ healthReasons,
    reasonFromError (Exc.runtimeError ("preflight failed: " ++ reason.value)).describe =
      if reason = .brokerUnhealthy then .unknownFailure else reason := by
  decide +kernel

/-! ### The kill reason -/

/-- The reason is that of the failed preflight, and names the leadership or a cutoff only where
one of these failed. -/
structure Truthful (plan : SessionPlan) (cause : Cause) (reason : Option KillSwitchReason) :
    Prop where
  preflight : ∀ health, cause = .preflight health →
    reason = healthKillReason health plan plan.policy
  leadership : reason = some .leadershipLost → cause = .lease
  cutoff : reason = some .executionCutoffExceeded → cause = .cutoff

/-- The exception of a failure with this cause is read as what it is. -/
def Recognized (plan : SessionPlan) (e : Exc) : Cause → Prop
  | .lease => mentionsLeadership e = true ∨ mentionsCutoff e = false
  | .preflight health => healthKillReason health plan plan.policy ≠ some .brokerUnhealthy
  | .cutoff => True
  | .other => mentionsLeadership e = false ∧ mentionsCutoff e = false

theorem truthful_iff (h : Explains plan cause (.raised e)) :
    Truthful plan cause (some (reasonFromError e.describe)) ↔ Recognized plan e cause := by
  cases cause with
  | lease =>
    have hCutoff : Truthful plan .lease (some (reasonFromError e.describe)) ↔
        reasonFromError e.describe ≠ .executionCutoffExceeded := by
      constructor
      · intro hTrue hReason
        cases hTrue.cutoff (congrArg some hReason)
      · intro hReason
        refine ⟨?_, fun _ => rfl, fun hCutoff => absurd (Option.some.inj hCutoff) hReason⟩
        rintro _ ⟨⟩
    rw [hCutoff, Ne, reasonFromError_cutoff, Recognized]
    cases mentionsLeadership e <;> simp
  | preflight health =>
    obtain ⟨reason, hReason, hText⟩ := h
    obtain rfl := Halt.raised.inj hText
    have hMember := healthKillReason_mem hReason
    rw [reasonFromError_preflight reason hMember, Recognized, hReason]
    by_cases hBroker : reason = .brokerUnhealthy
    · rw [if_pos hBroker]
      refine iff_of_false (fun hTrue => ?_) (fun hOther => hOther (congrArg some hBroker))
      have hSame := hTrue.preflight health rfl
      rw [hReason, hBroker] at hSame
      cases hSame
    · rw [if_neg hBroker]
      refine iff_of_true ⟨?_, ?_, ?_⟩ (fun hSome => hBroker (Option.some.inj hSome))
      · rintro _ ⟨⟩
        exact hReason.symm
      · rintro ⟨⟩
        exact absurd hMember (by decide)
      · rintro ⟨⟩
        exact absurd hMember (by decide)
  | cutoff =>
    have hReason : reasonFromError e.describe = .executionCutoffExceeded := by
      rcases h with h | h
      · obtain rfl := Halt.raised.inj h
        decide +kernel
      · obtain rfl := Halt.raised.inj h
        decide +kernel
    rw [hReason]
    refine iff_of_true ⟨?_, ?_, fun _ => rfl⟩ trivial
    · rintro _ ⟨⟩
    · rintro ⟨⟩
  | other =>
    have hNeither : Truthful plan .other (some (reasonFromError e.describe)) ↔
        reasonFromError e.describe ≠ .leadershipLost ∧
          reasonFromError e.describe ≠ .executionCutoffExceeded := by
      constructor
      · intro hTrue
        constructor
        · intro hReason
          cases hTrue.leadership (congrArg some hReason)
        · intro hReason
          cases hTrue.cutoff (congrArg some hReason)
      · rintro ⟨hLost, hCutoff⟩
        refine ⟨?_, fun h => absurd (Option.some.inj h) hLost,
          fun h => absurd (Option.some.inj h) hCutoff⟩
        rintro _ ⟨⟩
    rw [hNeither, Ne, Ne, reasonFromError_leadershipLost, reasonFromError_cutoff, Recognized]
    cases mentionsLeadership e <;> simp

/-! ### The end of a failed run -/

/-- An exception that no branch of its own handles. -/
def Exc.Unforeseen : Exc → Prop
  | .leadershipUnavailable _ => False
  | .persistentKillSwitchActive _ => False
  | _ => True

theorem handle_unforeseen (o : SessionOrchestrator σ D) (rounds : ℕ) (startedAt : Timestamp)
    (h : e.Unforeseen) : handle o rounds plan startedAt e = handleFailure o rounds plan e := by
  cases e with
  | leadershipUnavailable _ => exact h.elim
  | persistentKillSwitchActive _ => exact h.elim
  | alpacaOperationsError _ _ _ => rfl
  | runtimeError _ => rfl
  | other _ _ => rfl

/-- The run is killed, with this kill switch. -/
def Killed (killSwitch : KillSwitchState) (s : SessionState σ D) : Prop :=
  s.killSwitch = killSwitch ∧ s.outcome = .killed

section Killed

variable {killSwitch : KillSwitchState}

theorem killed_ask {α : Type} (operation : σ → Except Exc α × σ) :
    Maintains (Killed killSwitch) (ask operation : Session σ D α) := by
  intro s hs
  rw [exec_ask]
  exact hs

theorem killed_clock (timing : Timing σ) :
    Maintains (Killed killSwitch) (clock timing : Session σ D Timestamp) :=
  fun _ hs => hs

theorem killed_recordPhase (o : SessionOrchestrator σ D) (phase : SessionPhase)
    (startedAt : Timestamp) (endedAt : Option Timestamp) (unhashable : Option Exc) :
    Maintains (Killed killSwitch) (recordPhase o plan phase startedAt endedAt unhashable) := by
  apply (killed_ask _).bind
  intro phases
  cases unhashable with
  | none => exact killed_ask _
  | some e => exact fun _ hs => hs

theorem killed_callFlatten (o : SessionOrchestrator σ D) (rounds : ℕ) (now : Timestamp) :
    Maintains (Killed killSwitch) (callFlatten o rounds plan now) := by
  intro s hs
  rw [callFlatten_state]
  exact hs

theorem killed_runFlatten (o : SessionOrchestrator σ D) (rounds : ℕ) (now : Timestamp) :
    Maintains (Killed killSwitch) (runFlatten o rounds plan now) := by
  apply (killed_callFlatten o rounds now).bind
  intro result
  apply (killed_recordPhase o _ _ _ _).bind
  intro _
  exact (killed_ask _).bind fun _ => .pure _

theorem killed_emergencyFlatten (o : SessionOrchestrator σ D) (rounds : ℕ) (now : Timestamp) :
    Maintains (Killed killSwitch) (emergencyFlatten o rounds plan now) := by
  apply Maintains.tryCatch
  · apply (killed_runFlatten o rounds now).bind
    intro result s hs
    exact hs
  · intro halt s hs
    cases halt with
    | waiting => exact hs
    | raised e => exact hs

theorem killed_releaseLeadership (o : SessionOrchestrator σ D) (completedAt : Timestamp) :
    Maintains (Killed killSwitch) (releaseLeadership o completedAt) := by
  intro s hs
  rw [releaseLeadership, exec_bind, exec_get]
  simp only
  cases s.acquired with
  | none => exact hs
  | some lease => exact killed_ask _ _ hs

/-- A killed run ends with its kill switch. -/
theorem conclude_killed {o : SessionOrchestrator σ D} {startedAt : Timestamp}
    {s t : SessionState σ D} {result : SessionResult D} (hs : Killed killSwitch s)
    (h : (conclude o plan startedAt).exec s = (.ok result, t)) :
    result.killSwitch = killSwitch ∧ result.outcome = .killed := by
  obtain ⟨completedAt, u, hClock, h⟩ := exec_bind_ok.mp h
  obtain ⟨_, v, hRelease, h⟩ := exec_bind_ok.mp h
  obtain ⟨phases, x, hPhases, h⟩ := exec_bind_ok.mp h
  obtain ⟨alerts, y, hAlerts, h⟩ := exec_bind_ok.mp h
  have hu := (killed_clock o.timing).of_exec hClock hs
  have hv := (killed_releaseLeadership o completedAt).of_exec hRelease hu
  have hy := (killed_ask _).of_exec hAlerts ((killed_ask _).of_exec hPhases hv)
  rw [exec_bind, exec_get] at h
  obtain ⟨_, z, -, hEnd⟩ := exec_bind_ok.mp h
  obtain ⟨hResult, rfl⟩ := Prod.mk.inj hEnd
  obtain rfl := Except.ok.inj hResult
  exact hy

end Killed

/-- The kill switch of a failure in this state. -/
def failureSwitch (o : SessionOrchestrator σ D) (plan : SessionPlan) (e : Exc)
    (failed : SessionState σ D) : KillSwitchState :=
  activateKillSwitch plan.sessionId (reasonFromError e.describe) (o.timing.clock failed.env).1
    (.error e.describe)

/-- A handler that returns has saved the kill switch, and the run is killed. -/
theorem handleFailure_killed {o : SessionOrchestrator σ D} {rounds : ℕ}
    {failed t : SessionState σ D} (h : (handleFailure o rounds plan e).exec failed = (.ok (), t)) :
    (o.repository.saveKillSwitch (failureSwitch o plan e failed)
        (o.timing.clock failed.env).2).1 = .ok () ∧
      Killed (failureSwitch o plan e failed) t := by
  have hSwitched : Maintains (fun s => s.killSwitch = failureSwitch o plan e failed)
      (emitCritical o plan (reasonFromError e.describe).value e.describe
        (o.timing.clock failed.env).1) := by
    refine emitCritical_maintains (fun _ hHeld hs => ?_) (fun alert s hs => ?_)
      (fun _ _ hs => hs) _ _ _
    · exact (congrArg Held.killSwitch hHeld).trans hs
    · rw [exec_ask]
      exact hs
  rw [handleFailure, exec_bind, exec_clock] at h
  simp only at h
  rw [exec_bind, exec_modify] at h
  obtain ⟨_, u, hSave, hAlert⟩ := exec_bind_ok.mp h
  obtain ⟨_, v, hEmit, hRest⟩ := exec_bind_ok.mp hAlert
  rw [exec_bind, exec_modify] at hRest
  rw [exec_ask] at hSave
  obtain ⟨hSaved, rfl⟩ := Prod.mk.inj hSave
  constructor
  · cases hAnswer : (o.repository.saveKillSwitch (failureSwitch o plan e failed)
        (o.timing.clock failed.env).2).1 with
    | ok => rfl
    | error raised =>
      unfold failureSwitch at hAnswer
      rw [hAnswer] at hSaved
      cases hSaved
  · have hv := hSwitched.of_exec hEmit rfl
    exact (killed_emergencyFlatten o rounds _).of_exec hRest ⟨hv, rfl⟩

/-! ### Runs -/

/-- The body of the run raises an exception for a cause and in a state. -/
structure FailsBy (o : SessionOrchestrator σ D) (rounds : ℕ) (plan : SessionPlan)
    (startAt : Option Timestamp) (s : SessionState σ D) (cause : Cause) (e : Exc)
    (failed : SessionState σ D) : Prop where
  unforeseen : e.Unforeseen
  raised : ∃ startedAt begun, (beginRun o plan startAt).exec s = (.ok startedAt, begun) ∧
    (Ascribed.trySession o rounds plan startedAt).exec begun =
      (.error (cause, .raised e), failed)

/-- Whatever the body of a run raises, it raises for a cause. -/
theorem exists_failsBy {o : SessionOrchestrator σ D} {rounds : ℕ} {startAt : Option Timestamp}
    {s begun failed : SessionState σ D} {startedAt : Timestamp} (h : e.Unforeseen)
    (hBegin : (beginRun o plan startAt).exec s = (.ok startedAt, begun))
    (hRaises : (trySession o rounds plan startedAt).exec begun = (.error (.raised e), failed)) :
    ∃ cause, FailsBy o rounds plan startAt s cause e failed := by
  obtain ⟨cause, hCause⟩ :=
    (Ascribed.trySession_ascribes o plan rounds startedAt).exec_error_iff.mp hRaises
  exact ⟨cause, h, startedAt, begun, hBegin, hCause⟩

/-- A run that fails and returns is killed and has saved its kill switch, whose reason is true of
the failure exactly when the exception is recognized. -/
theorem kill_reason_truthful_iff (o : SessionOrchestrator σ D) (rounds : ℕ) (plan : SessionPlan)
    (startAt : Option Timestamp) (s t failed : SessionState σ D) (result : SessionResult D)
    (cause : Cause) (e : Exc) (hFails : FailsBy o rounds plan startAt s cause e failed)
    (hRun : (run o rounds plan startAt).exec s = (.ok result, t)) :
    result.outcome = .killed ∧
      (o.repository.saveKillSwitch result.killSwitch (o.timing.clock failed.env).2).1 = .ok () ∧
      (Truthful plan cause result.killSwitch.reason ↔ Recognized plan e cause) := by
  obtain ⟨hUnforeseen, startedAt, begun, hBegin, hCause⟩ := hFails
  have hAscribes := Ascribed.trySession_ascribes o plan rounds startedAt
  have hRaises := hAscribes.exec_error_iff.mpr ⟨cause, hCause⟩
  obtain ⟨_, _, u, hBegin', hTry, hConclude⟩ := run_ok hRun
  rw [hBegin] at hBegin'
  obtain ⟨hStart, rfl⟩ := Prod.mk.inj hBegin'
  obtain rfl := Except.ok.inj hStart
  rw [exec_tryCatch, hRaises] at hTry
  simp only [handle_unforeseen o rounds startedAt hUnforeseen] at hTry
  obtain ⟨hSaved, hKilled⟩ := handleFailure_killed hTry
  obtain ⟨hSwitch, hOutcome⟩ := conclude_killed hKilled hConclude
  rw [hSwitch]
  exact ⟨hOutcome, hSaved, truthful_iff (hAscribes.fits _ _ _ _ hCause)⟩

/-! ### Sessions that fail -/

def sessionStart : SessionState Unit Decimal where
  env := ()
  lastSent := ∅
  lease := none
  lastRenewedAt := none
  acquired := none
  killSwitch := inactiveKillSwitch ""
  flattenResult := none
  outcome := .failed
  finalPhase := .created
  errorMessage := none
  managedQuantities := []
  calls := []

/-- The session with this answer of its health probe. -/
def probedSession (answer : Except Exc HealthSnapshot) : SessionOrchestrator Unit Decimal :=
  { tradingSession with healthProbe := fun _ _ env => (answer, env) }

def soundHealth : HealthSnapshot where
  observedAt := 0
  clockSynchronized := true
  clockSkewMs := 0
  databaseHealthy := true
  recorderHealthy := true
  marketDataStreamHealthy := true
  tradeUpdateStreamHealthy := true
  brokerHealthy := true
  accountActive := true
  configurationHash := samplePlan.configurationHash

def brokerDown : HealthSnapshot := { soundHealth with brokerHealthy := false }

def databaseDown : HealthSnapshot := { soundHealth with databaseHealthy := false }

/-- A probe that finds its table locked. -/
def lockedTable : Exc := .other "OperationalError" "table leadership_leases is locked"

/-- A session whose body fails, and that returns with this reason. -/
def EndsFor (answer : Except Exc HealthSnapshot) (cause : Cause) (e : Exc)
    (reason : KillSwitchReason) : Prop :=
  ∃ result t failed,
    (run (probedSession answer) 1 samplePlan (some 0)).exec sessionStart = (.ok result, t) ∧
      FailsBy (probedSession answer) 1 samplePlan (some 0) sessionStart cause e failed ∧
      result.killSwitch.reason = some reason

theorem endsFor_of_exec {answer : Except Exc HealthSnapshot} {reason : KillSwitchReason}
    (hUnforeseen : e.Unforeseen)
    (hBody : ((Ascribed.trySession (probedSession answer) 1 samplePlan 0).exec
      ((beginRun (probedSession answer) samplePlan (some 0)).exec sessionStart).2).1 =
        .error (cause, .raised e))
    (hReason : ((run (probedSession answer) 1 samplePlan (some 0)).exec
      sessionStart).1.toOption.map (·.killSwitch.reason) = some (some reason)) :
    EndsFor answer cause e reason := by
  rcases hRun : (run (probedSession answer) 1 samplePlan (some 0)).exec sessionStart with
    ⟨raised | result, t⟩
  · rw [hRun] at hReason
    cases hReason
  · rw [hRun] at hReason
    exact ⟨result, t, _, hRun, ⟨hUnforeseen, 0, _, rfl, Prod.ext hBody rfl⟩,
      Option.some.inj hReason⟩

/-- The reason of an unhealthy database is saved. -/
theorem databaseDown_truthful : ∃ result t, ∃ failed : SessionState Unit Decimal,
    (run (probedSession (.ok databaseDown)) 1 samplePlan (some 0)).exec sessionStart =
        (.ok result, t) ∧
      result.outcome = .killed ∧
      ((probedSession (.ok databaseDown)).repository.saveKillSwitch result.killSwitch
        ((probedSession (.ok databaseDown)).timing.clock failed.env).2).1 = .ok () ∧
      (Truthful samplePlan (.preflight databaseDown) result.killSwitch.reason ↔
        Recognized samplePlan (.runtimeError "preflight failed: DATABASE_UNHEALTHY")
          (.preflight databaseDown)) := by
  have hEnds : EndsFor (.ok databaseDown) (.preflight databaseDown)
      (.runtimeError "preflight failed: DATABASE_UNHEALTHY") .databaseUnhealthy :=
    endsFor_of_exec trivial (by decide +kernel) (by decide +kernel)
  obtain ⟨result, t, failed, hRun, hFails, -⟩ := hEnds
  exact ⟨result, t, failed, hRun,
    kill_reason_truthful_iff _ 1 samplePlan (some 0) _ _ failed result _ _ hFails hRun⟩

/-- An unhealthy broker is saved as an unknown failure, and a locked table as a loss of the
leadership. -/
theorem kill_reason_untruthful :
    (EndsFor (.ok brokerDown) (.preflight brokerDown)
        (.runtimeError "preflight failed: BROKER_UNHEALTHY") .unknownFailure ∧
      ¬ Truthful samplePlan (.preflight brokerDown) (some .unknownFailure)) ∧
    EndsFor (.error lockedTable) .other lockedTable .leadershipLost ∧
      ¬ Truthful samplePlan .other (some .leadershipLost) := by
  refine ⟨⟨endsFor_of_exec trivial (by decide +kernel) (by decide +kernel), fun hTrue => ?_⟩,
    endsFor_of_exec trivial (by decide +kernel) (by decide +kernel), fun hTrue => ?_⟩
  · have hReason := hTrue.preflight brokerDown rfl
    revert hReason
    decide +kernel
  · cases hTrue.leadership rfl

end Daybreak.Orchestration
