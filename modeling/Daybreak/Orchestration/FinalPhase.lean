import Daybreak.Orchestration.Durability
import Daybreak.Orchestration.PhaseLog

/-! The result of a run and the phases that were stored. A result carries the whole log of its
session, and its final phase is the completed one exactly when the run has recorded it. -/

namespace Daybreak.Orchestration

open Numeric Effect Program

variable {σ ρ D : Type} [DecimalArithmetic D]

/-! ### The final phase of a handler -/

section AtPhase

variable {o : SessionOrchestrator σ D} {rounds : ℕ} {plan : SessionPlan} {phase : SessionPhase}

def AtPhase (phase : SessionPhase) (s : SessionState σ D) : Prop := s.finalPhase = phase

theorem atPhase_ask {α : Type} (operation : σ → Except Exc α × σ) :
    Maintains (AtPhase phase) (ask operation : Session σ D α) := by
  intro s hs
  rw [exec_ask]
  exact hs

theorem atPhase_recordPhase (recorded : SessionPhase) (startedAt : Timestamp)
    (endedAt : Option Timestamp) (unhashable : Option Exc) :
    Maintains (AtPhase phase) (recordPhase o plan recorded startedAt endedAt unhashable) := by
  refine (atPhase_ask _).bind fun phases => ?_
  cases unhashable with
  | none => exact atPhase_ask _
  | some e => exact fun _ hs => hs

theorem atPhase_runFlatten (now : Timestamp) :
    Maintains (AtPhase phase) (runFlatten o rounds plan now) := by
  refine .bind (fun s hs => ?_) fun result => ?_
  · rw [callFlatten_state]
    exact hs
  · exact (atPhase_recordPhase _ _ _ _).bind fun _ => (atPhase_ask _).bind fun _ => .pure _

theorem atPhase_emergencyFlatten (now : Timestamp) :
    Maintains (AtPhase phase) (emergencyFlatten o rounds plan now) := by
  refine .tryCatch ((atPhase_runFlatten now).bind fun result s hs => hs) fun halt s hs => ?_
  cases halt with
  | waiting => exact hs
  | raised e => exact hs

theorem atPhase_emitCritical (code message : String) (now : Timestamp) :
    Maintains (AtPhase phase) (emitCritical o plan code message now) := by
  intro s hs
  rw [emitCritical, exec_bind, exec_get]
  simp only
  rw [exec_bind, exec_set]
  simp only
  split
  · exact hs
  · exact hs
  · exact atPhase_ask _ _ hs

theorem atPhase_releaseLeadership (completedAt : Timestamp) :
    Maintains (AtPhase phase) (releaseLeadership o completedAt) := by
  intro s hs
  rw [releaseLeadership, exec_bind, exec_get]
  simp only
  cases s.acquired with
  | none => exact hs
  | some lease => exact atPhase_ask _ _ hs

/-- A handler ends a run as failed or as killed. -/
theorem handle_finalPhase {startedAt : Timestamp} {e : Exc} {s t : SessionState σ D}
    (h : (handle o rounds plan startedAt e).exec s = (.ok (), t)) :
    t.finalPhase ≠ .completed := by
  have hKilled (hs : t.finalPhase = .killed) : t.finalPhase ≠ .completed := by
    rw [hs]
    decide
  unfold handle at h
  split at h
  · rw [exec_bind, exec_modify] at h
    have ht : t.finalPhase = .failed := (atPhase_emitCritical _ _ _).of_exec h rfl
    rw [ht]
    decide
  · rw [exec_bind, exec_clock] at h
    simp only at h
    rw [exec_bind, exec_modify] at h
    obtain ⟨_, u, hEmit, h⟩ := exec_bind_ok.mp h
    have hu : AtPhase .killed u := (atPhase_emitCritical _ _ _).of_exec hEmit rfl
    exact hKilled ((atPhase_emergencyFlatten _).of_exec h hu)
  · rw [handleFailure, exec_bind, exec_clock] at h
    simp only at h
    obtain ⟨_, u, -, h⟩ := exec_bind_ok.mp h
    obtain ⟨_, v, -, h⟩ := exec_bind_ok.mp h
    obtain ⟨_, w, -, h⟩ := exec_bind_ok.mp h
    rw [exec_bind, exec_modify] at h
    exact hKilled ((atPhase_emergencyFlatten _).of_exec h rfl)

end AtPhase

/-! ### The result -/

section Result

variable {o : SessionOrchestrator ρ D} {rounds : ℕ} {plan : SessionPlan} {κ : Type}
  {view : MemoryPhases → List κ} {word : SessionPhase → Language κ} {startedAt : Timestamp}
  {s t : SessionState (ρ × MemoryPhases) D}

/-- The result has the final phase of the run, and the log as it is stored. -/
theorem conclude_ends {result : SessionResult D}
    (h : (conclude o.withPhases plan startedAt).exec s = (.ok result, t)) :
    result.finalPhase = s.finalPhase ∧
      result.phaseRecords = (s.env.2.records plan.sessionId).items := by
  obtain ⟨completedAt, u, hClock, h⟩ := exec_bind_ok.mp h
  obtain ⟨_, v, hRelease, h⟩ := exec_bind_ok.mp h
  obtain ⟨phases, x, hPhases, h⟩ := exec_bind_ok.mp h
  obtain ⟨alerts, y, hAlerts, h⟩ := exec_bind_ok.mp h
  have hu : AtPhase s.finalPhase u ∧ u.env.2 = s.env.2 := by
    obtain ⟨-, rfl⟩ := Prod.mk.inj hClock
    exact ⟨rfl, rfl⟩
  have hv : v.env.2 = u.env.2 := (still_releaseLeadership completedAt u.env.2).of_exec hRelease rfl
  have hx := (atPhase_ask _).of_exec hPhases ((atPhase_releaseLeadership _).of_exec hRelease hu.1)
  have hy := (atPhase_ask _).of_exec hAlerts hx
  rw [exec_ask] at hPhases
  rw [exec_bind, exec_get] at h
  obtain ⟨_, z, -, hEnd⟩ := exec_bind_ok.mp h
  obtain ⟨hResult, -⟩ := Prod.mk.inj hEnd
  obtain rfl := Except.ok.inj hResult
  refine ⟨hy, ?_⟩
  rw [← hu.2, ← hv]
  exact (Except.ok.inj (Prod.mk.inj hPhases).1).symm

/-- A session that is closed is completed and has recorded so, or has neither. -/
theorem closeSession_ends (h : Viewed o plan view word)
    (hClose : (closeSession o.withPhases rounds plan).exec s = (.ok (), t)) :
    (t.finalPhase = .completed ∧
        ∃ more ∈ ways word [.flattening] * completion word, seen view t = seen view s ++ more) ∨
      t.finalPhase = .killed ∧
        ∃ more ∈ ways word [.flattening] * 1, seen view t = seen view s ++ more := by
  obtain ⟨_, u, hWait, hClose⟩ := exec_bind_ok.mp hClose
  obtain ⟨now, v, hClock, hClose⟩ := exec_bind_ok.mp hClose
  obtain ⟨result, w, hFlatten, hClose⟩ := exec_bind_ok.mp hClose
  have hu := ((still_waitUntil _ _).silent view).of_exec hWait
  have hv := (still_clock.silent view).of_exec hClock
  obtain ⟨first, hFirst, hw⟩ := (h.runFlatten now).of_ok hFlatten
  obtain ⟨_, x, hModify, hClose⟩ := exec_bind_ok.mp hClose
  have hx : seen view x = seen view s ++ first := by
    obtain ⟨-, rfl⟩ := Prod.mk.inj hModify
    rw [← hu, ← hv]
    exact hw
  have hAdded {L : Language κ} (hRest : ∃ rest ∈ L, seen view t = seen view x ++ rest) :
      ∃ more ∈ ways word [.flattening] * L, seen view t = seen view s ++ more := by
    obtain ⟨rest, hMem, hLog⟩ := hRest
    refine ⟨first ++ rest, Language.append_mem_mul hFirst hMem, ?_⟩
    rw [hLog, hx, List.append_assoc]
  split_ifs at hClose with hComplete
  · refine .inl ⟨?_, hAdded ((h.completion result).of_ok hClose)⟩
    obtain ⟨_, _, -, hClose⟩ := exec_bind_ok.mp hClose
    obtain ⟨_, _, -, hClose⟩ := exec_bind_ok.mp hClose
    obtain ⟨_, _, -, hClose⟩ := exec_bind_ok.mp hClose
    obtain ⟨-, rfl⟩ := Prod.mk.inj hClose
    rfl
  · obtain ⟨_, y, hSwitch, hClose⟩ := exec_bind_ok.mp hClose
    obtain ⟨_, z, hSave, hClose⟩ := exec_bind_ok.mp hClose
    obtain ⟨_, r, hEmit, hClose⟩ := exec_bind_ok.mp hClose
    have hSilent : seen view t = seen view x := by
      have hz := ((Still.ask (o.repository.saveKillSwitch _)).silent view).of_exec hSave
      have hr := ((still_emitCritical _ _ _).silent view).of_exec hEmit
      obtain ⟨-, rfl⟩ := Prod.mk.inj hClose
      obtain ⟨-, rfl⟩ := Prod.mk.inj hSwitch
      exact hr.trans hz
    refine .inr ⟨?_, hAdded ⟨[], Language.nil_mem_one, ?_⟩⟩
    · obtain ⟨-, rfl⟩ := Prod.mk.inj hClose
      rfl
    · rw [List.append_nil, hSilent]

/-- What a session that returns has recorded, by its final phase. -/
theorem trySession_ends (h : Viewed o plan view word)
    (hTry : (trySession o.withPhases rounds plan startedAt).exec s = (.ok (), t)) :
    (t.finalPhase = .completed ∧
        ∃ more ∈ planTo word (completion word), seen view t = seen view s ++ more) ∨
      t.finalPhase = .killed ∧ ∃ more ∈ planTo word 1, seen view t = seen view s ++ more := by
  obtain ⟨_, u, hLead, hTry⟩ := exec_bind_ok.mp hTry
  obtain ⟨summary, v, hEvaluate, hTry⟩ := exec_bind_ok.mp hTry
  obtain ⟨_, w, hAct, hClose⟩ := exec_bind_ok.mp hTry
  obtain ⟨led, hLed, hu⟩ := (h.takeLeadership startedAt).of_ok hLead
  obtain ⟨evaluated, hEvaluated, hv⟩ := h.evaluateSession.of_ok hEvaluate
  obtain ⟨acted, hActed, hw⟩ := (h.actOn summary).of_ok hAct
  have hAdded {last : Language κ}
      (hClosed : ∃ more ∈ ways word [.flattening] * last, seen view t = seen view w ++ more) :
      ∃ more ∈ planTo word last, seen view t = seen view s ++ more := by
    obtain ⟨closed, hMem, hLog⟩ := hClosed
    refine ⟨led ++ (evaluated ++ (acted ++ closed)), ?_, ?_⟩
    · exact Language.append_mem_mul hLed (Language.append_mem_mul hEvaluated
        (Language.append_mem_mul hActed hMem))
    · rw [hLog, hw, hv, hu, List.append_assoc, List.append_assoc, List.append_assoc]
  rcases closeSession_ends h hClose with ⟨hPhase, hClosed⟩ | ⟨hPhase, hClosed⟩
  · exact .inl ⟨hPhase, hAdded hClosed⟩
  · exact .inr ⟨hPhase, hAdded hClosed⟩

/-- What the body of a run that returns has recorded, by its final phase. -/
theorem handled_ends (h : Viewed o plan view word)
    (hBody : (tryCatch (trySession o.withPhases rounds plan startedAt) fun
      | .waiting => throw .waiting
      | .raised e => handle o.withPhases rounds plan startedAt e).exec s = (.ok (), t)) :
    (t.finalPhase = .completed ∧
        ∃ more ∈ planTo word (completion word), seen view t = seen view s ++ more) ∨
      t.finalPhase ≠ .completed ∧ ∃ more ∈ planTo word 1 +
        openWay word * initial (ways word [.flattening]), seen view t = seen view s ++ more := by
  rcases exec_tryCatch_cases hBody with ⟨_, hTry, -⟩ | ⟨halt, u, hTry, hHandle⟩
  · rcases trySession_ends h hTry with hCompleted | ⟨hKilled, more, hMore, hLog⟩
    · exact .inl hCompleted
    · refine .inr ⟨?_, more, .inl hMore, hLog⟩
      rw [hKilled]
      decide
  · cases halt with
    | waiting => cases hHandle
    | raised e =>
      obtain ⟨first, hFirst, hu⟩ := (h.trySession startedAt).of_error hTry
      obtain ⟨last, hLast, ht⟩ := (h.handle startedAt e).of_ok hHandle
      refine .inr ⟨handle_finalPhase hHandle, first ++ last, .inr ?_, ?_⟩
      · exact Language.append_mem_mul hFirst hLast
      · rw [ht, hu, List.append_assoc]

end Result

/-! ### The completed phase -/

theorem ways_le_without {phase : SessionPhase} {phases : List SessionPhase}
    (h : phase ∉ phases) : ways single phases ≤ without phase := by
  induction phases with
  | nil => exact one_le_without
  | cons first rest ih =>
    rw [List.mem_cons, not_or] at h
    obtain ⟨hFirst, hRest⟩ := h
    refine mul_le_without ?_ (ih hRest)
    rintro word rfl hMem
    exact hFirst (List.mem_singleton.mp hMem)

/-- Up to its end, the plan does not record the completed phase. -/
theorem planTo_le_without {last : Language SessionPhase} (h : last ≤ without .completed) :
    planTo single last ≤ without .completed := by
  refine mul_le_without ?_ (mul_le_without (ways_le_without (by decide))
    (mul_le_without (add_le_without one_le_without (ways_le_without (by decide)))
      (mul_le_without (ways_le_without (by decide)) h)))
  rintro word rfl
  exact (by decide : SessionPhase.completed ∉ [SessionPhase.leadershipAcquired])

/-- A session that is completed has recorded so. -/
theorem completed_mem {added : List SessionPhase}
    (h : added ∈ planTo single (completion single)) : .completed ∈ added := by
  obtain ⟨_, -, _, ⟨_, -, _, ⟨_, -, _, ⟨_, -, _, hLast, rfl⟩, rfl⟩, rfl⟩, rfl⟩ := h
  obtain ⟨_, -, _, ⟨_, rfl, _, -, rfl⟩, rfl⟩ := hLast
  simp

/-- A result has the whole log of its session. Its final phase is the completed one exactly when
this run has recorded it, and then the run has gone the whole way of the plan. -/
theorem completed_iff_recorded {o : SessionOrchestrator ρ D} {rounds : ℕ} {plan : SessionPlan}
    {startAt : Option Timestamp} {s t : SessionState (ρ × MemoryPhases) D}
    {result : SessionResult D}
    (h : (run o.withPhases rounds plan startAt).exec s = (.ok result, t)) :
    result.phaseRecords = (t.env.2.records plan.sessionId).items ∧
      ∃ added, result.phaseRecords = (s.env.2.records plan.sessionId).items ++ added ∧
        (result.finalPhase = .completed ↔ .completed ∈ added.map (·.phase)) ∧
        (result.finalPhase = .completed →
          added.map (·.phase) ∈ planTo single (completion single)) := by
  obtain ⟨startedAt, u, v, hBegin, hBody, hConclude⟩ := run_ok h
  obtain ⟨hPhase, hRecords⟩ := conclude_ends hConclude
  have hu : u.env.2 = s.env.2 := (still_beginRun startAt s.env.2).of_exec hBegin rfl
  have ht : t.env.2 = v.env.2 := (still_conclude startedAt v.env.2).of_exec hConclude rfl
  obtain ⟨added, -, hAdded⟩ := ((viewed_items plan.sessionId).handled startedAt).of_ok hBody
  rw [seen, seen, List.map_id, List.map_id, hu] at hAdded
  have hMore {more : List SessionPhase} (hLog : seen
      (fun phases => (phases.records plan.sessionId).items.map (·.phase)) v = seen
        (fun phases => (phases.records plan.sessionId).items.map (·.phase)) u ++ more) :
      added.map (·.phase) = more := by
    rw [seen, seen, hu] at hLog
    exact phases_of_added hAdded hLog
  refine ⟨by rw [ht, hRecords], added, by rw [hRecords, hAdded], ?_⟩
  rw [hPhase]
  rcases handled_ends viewed_phases hBody with
    ⟨hCompleted, more, hWay, hLog⟩ | ⟨hEnded, more, hWay, hLog⟩
  · rw [hMore hLog]
    exact ⟨iff_of_true hCompleted (completed_mem hWay), fun _ => hWay⟩
  · rw [hMore hLog]
    refine ⟨iff_of_false hEnded ?_, fun hCompleted => absurd hCompleted hEnded⟩
    refine add_le_without (planTo_le_without one_le_without) ?_ hWay
    exact mul_le_without (initial_le_without (planTo_le_without (ways_le_without (by decide))))
      (initial_le_without (ways_le_without (by decide)))

/-- A session whose clock moves on by one at each sleep. -/
def clockedSession : SessionOrchestrator Timestamp Decimal :=
  tradingSession.via (fun operation now => ((operation ()).1, now))
    { clock := fun now => (now, now), sleep := fun _ now => now + 1 }

def clockedRun :
    Except Halt (SessionResult Decimal) × SessionState (Timestamp × MemoryPhases) Decimal :=
  (run clockedSession.withPhases 4 samplePlan none).exec {
    env := (0, ∅)
    lastSent := ∅
    lease := none
    lastRenewedAt := none
    acquired := none
    killSwitch := inactiveKillSwitch ""
    flattenResult := none
    outcome := .failed
    finalPhase := .created
    errorMessage := none
    managedQuantities := []
    calls := [] }

/-- A session that trades and is completed. -/
theorem completed_iff_recorded_sample :
    ∃ result, clockedRun.1 = .ok result ∧
      result.phaseRecords.map (·.phase) ∈ planTo single (completion single) := by
  have hCompleted : clockedRun.1.toOption.map (·.finalPhase) = some .completed := by
    decide +kernel
  cases hRun : clockedRun.1 with
  | error halt =>
    rw [hRun] at hCompleted
    cases hCompleted
  | ok result =>
    rw [hRun] at hCompleted
    obtain ⟨-, added, hAdded, -, hWay⟩ := completed_iff_recorded (Prod.ext hRun rfl)
    refine ⟨result, rfl, ?_⟩
    rw [hAdded]
    exact hWay (Option.some.inj hCompleted)

end Daybreak.Orchestration
