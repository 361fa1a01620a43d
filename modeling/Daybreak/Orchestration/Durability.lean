import Daybreak.Effect.History
import Daybreak.Orchestration.Embedding
import Daybreak.Orchestration.KillSwitches

/-! Durability of an active kill switch. Sessions run one after the other on one store in
memory, and active states are saved between them. Once one is stored it stays the
latest, and no later run calls a hook. -/

namespace Daybreak.Orchestration

open Numeric Effect Program

variable {ρ D : Type} [DecimalArithmetic D]

/-! ### A session with its kill switches in memory -/

/-- The hash of the fields of a state. -/
abbrev StateDigest := KillSwitchState → { text : String // isDigest text = true }

def StateDigest.hashed (digest : StateDigest) (state : KillSwitchState) : HashedState :=
  ⟨state, (digest state).1, (digest state).2⟩

def SessionOrchestrator.withSwitches (o : SessionOrchestrator ρ D) (digest : StateDigest) :
    SessionOrchestrator (ρ × MemoryKillSwitches) D :=
  let beside := o.beside MemoryKillSwitches
  { beside with
    repository := { beside.repository with
      saveKillSwitch := fun state => onStore (MemoryKillSwitches.save (digest.hashed state))
      getLatestKillSwitch := fun sessionId => onStore fun switches =>
        (.ok ((switches.latest sessionId).map (·.toKillSwitchState)), switches) } }

namespace MemoryKillSwitches

variable {switches : MemoryKillSwitches} {state : HashedState} {sessionId : String} {p : Prop}

/-- An active state of the session is stored. -/
def Active (sessionId : String) (switches : MemoryKillSwitches) : Prop :=
  ∃ state ∈ switches.map (·.2), state.sessionId = sessionId ∧ state.active = true

/-- Of the states of a session, those after an active one are active. -/
structure Ordered (switches : MemoryKillSwitches) : Prop extends Keyed switches where
  activeLast : ∀ sessionId, ((switches.map (·.2)).filter (·.sessionId = sessionId)).Pairwise
    fun earlier later => earlier.active = true → later.active = true

/-- An active state of the session is stored, in its place, if `p` holds. -/
def Recalls (p : Prop) (sessionId : String) (switches : MemoryKillSwitches) : Prop :=
  switches.Ordered ∧ (p → switches.Active sessionId)

theorem ordered_nil : Ordered [] := ⟨⟨by simp, by simp⟩, by simp⟩

theorem Active.save (h : switches.Active sessionId) (hKeyed : switches.Keyed)
    (state : HashedState) : (switches.save state).2.Active sessionId := by
  obtain ⟨active, hMem, hOf⟩ := h
  refine ⟨active, ?_, hOf⟩
  rcases hKeyed.save_cases state with ⟨_, -, -, hSave⟩ | ⟨-, hSave⟩ | ⟨-, hSave⟩
  · rwa [hSave]
  · rwa [hSave]
  · rw [hSave, List.map_append]
    exact List.mem_append_left _ hMem

/-- A state that is saved is stored. -/
theorem Keyed.mem_save (h : switches.Keyed) (hSaved : (switches.save state).1 = .ok ()) :
    state ∈ (switches.save state).2.map (·.2) := by
  rcases h.save_cases state with ⟨_, -, -, hSave⟩ | ⟨hKnown, hSave⟩ | ⟨-, hSave⟩
  · rw [hSave] at hSaved
    cases hSaved
  · rwa [hSave]
  · rw [hSave, List.map_append]
    exact List.mem_append_right _ (List.mem_singleton_self _)

/-- An active state may be saved at any time, and any state where the session has none. -/
theorem Ordered.save (h : switches.Ordered)
    (hState : state.active = true ∨ switches.latest state.sessionId = none) :
    (switches.save state).2.Ordered := by
  refine ⟨h.toKeyed.save state, fun sessionId => ?_⟩
  rcases h.toKeyed.save_cases state with ⟨_, -, -, hSave⟩ | ⟨-, hSave⟩ | ⟨-, hSave⟩
  · rw [hSave]
    exact h.activeLast sessionId
  · rw [hSave]
    exact h.activeLast sessionId
  · rw [hSave, List.map_append, List.map_singleton, filter_concat]
    split_ifs with hSession
    · refine List.pairwise_append.mpr ⟨h.activeLast sessionId, List.pairwise_singleton _ _, ?_⟩
      intro earlier hEarlier later hLater hActive
      rw [List.mem_singleton.mp hLater]
      rcases hState with hState | hNone
      · exact hState
      · rw [latest, of_decide_eq_true hSession, List.getLast?_eq_none_iff] at hNone
        rw [hNone] at hEarlier
        cases hEarlier
    · exact h.activeLast sessionId

/-- Where an active state is stored, the latest is active. -/
theorem Ordered.latest_active (h : switches.Ordered) (hActive : switches.Active sessionId) :
    ∃ state, switches.latest sessionId = some state ∧ state.active = true := by
  obtain ⟨active, hMem, hSession, hState⟩ := hActive
  have hOf : active ∈ (switches.map (·.2)).filter (·.sessionId = sessionId) :=
    List.mem_filter.mpr ⟨hMem, decide_eq_true hSession⟩
  have hLast := h.activeLast sessionId
  rw [latest]
  generalize (switches.map (·.2)).filter (·.sessionId = sessionId) = states at hOf hLast
  induction states using List.reverseRecOn with
  | nil => cases hOf
  | append_singleton states newest ih =>
    refine ⟨newest, List.getLast?_concat, ?_⟩
    rcases List.mem_append.mp hOf with hOld | hNew
    · have hPairs := (List.pairwise_append.mp hLast).2.2
      exact hPairs active hOld newest (List.mem_singleton_self _) hState
    · rwa [← List.mem_singleton.mp hNew]

theorem active_of_latest (h : switches.latest sessionId = some state)
    (hActive : state.active = true) : switches.Active sessionId := by
  obtain ⟨hMem, hSession⟩ := List.mem_filter.mp (List.mem_of_getLast? h)
  exact ⟨state, hMem, of_decide_eq_true hSession, hActive⟩

theorem Recalls.save_active (h : switches.Recalls p sessionId) (hActive : state.active = true) :
    (switches.save state).2.Recalls p sessionId :=
  ⟨h.1.save (.inl hActive), fun hp => (h.2 hp).save h.1.toKeyed state⟩

theorem Recalls.save_first (h : switches.Recalls p sessionId)
    (hNone : switches.latest state.sessionId = none) :
    (switches.save state).2.Recalls p sessionId :=
  ⟨h.1.save (.inr hNone), fun hp => (h.2 hp).save h.1.toKeyed state⟩

end MemoryKillSwitches

open MemoryKillSwitches

/-- Every operation of a session leaves an active state where it is. -/
theorem withSwitches_preserves (o : SessionOrchestrator ρ D) (digest : StateDigest) (p : Prop)
    (sessionId : String) :
    (o.withSwitches digest).Preserves fun env => env.2.Recalls p sessionId := by
  have hBeside := o.beside_preserves (Recalls p sessionId)
  refine { hBeside with
    keeps := { hBeside.keeps with saveActive := ?_ }
    begins := { hBeside.begins with latest := fun _ _ hEnv => hEnv, saveFirst := ?_ }
    ends := { hBeside.ends with } }
  · intro state env hActive hEnv
    exact Recalls.save_active hEnv hActive
  · intro other env env' hEnv hLatest
    obtain ⟨hNone, rfl⟩ := Prod.mk.inj hLatest
    exact Recalls.save_first hEnv (Option.map_eq_none_iff.mp (Except.ok.inj hNone))

/-! ### What a run does to the store -/

section Run

variable {o : SessionOrchestrator ρ D} {digest : StateDigest} {rounds : ℕ} {plan : SessionPlan}
  {startAt : Option Timestamp} {s t w : SessionState (ρ × MemoryKillSwitches) D}

/-- The kill switch of the run is stored, where it is active. -/
def SwitchStored (sessionId : String) :
    SessionState (ρ × MemoryKillSwitches) D → Prop :=
  Satisfies fun held env => env.2.Recalls (held.killSwitch.active = true) sessionId

theorem switchStored_invariant (o : SessionOrchestrator ρ D) (digest : StateDigest) (rounds : ℕ)
    (plan : SessionPlan) (sessionId : String) :
    SessionInvariant (o.withSwitches digest) rounds plan (SwitchStored sessionId) := by
  have hPreserves := fun p => withSwitches_preserves o digest p sessionId
  refine SessionOrchestrator.Keeps.phasesInvariant (fun _ => (hPreserves _).keeps) ?_
    fun _ => (hPreserves _).hooks
  exact maintains_renewLeadership (fun _ => (hPreserves _).renew) fun _ _ _ _ hEnv => hEnv

/-- A program keeps what is said of the kill switch, or leaves by a `RuntimeError`. -/
def Settles {α : Type} (sessionId : String)
    (p : Session (ρ × MemoryKillSwitches) D α) : Prop :=
  ∀ s, SwitchStored sessionId s → SwitchStored sessionId (p.exec s).2 ∨
    (p.exec s).2.env.2.Ordered ∧ ∃ message, (p.exec s).1 = .error (.raised (.runtimeError message))

theorem Settles.of_maintains {α : Type} {sessionId : String}
    {p : Session (ρ × MemoryKillSwitches) D α} (h : Maintains (SwitchStored sessionId) p) :
    Settles sessionId p :=
  fun s hs => .inl (h s hs)

theorem Settles.bind {α β : Type} {sessionId : String}
    {p : Session (ρ × MemoryKillSwitches) D α} {f : α → Session (ρ × MemoryKillSwitches) D β}
    (hp : Maintains (SwitchStored sessionId) p) (hf : ∀ a, Settles sessionId (f a)) :
    Settles sessionId (p >>= f) := by
  intro s hs
  have ht := hp s hs
  rw [exec_bind]
  generalize p.exec s = ended at ht ⊢
  rcases ended with ⟨e | a, t⟩
  · exact .inl ht
  · exact hf a t ht

/-- An active state is stored before what follows on it, or its save raises. -/
theorem save_stores (o : SessionOrchestrator ρ D) (digest : StateDigest) {state : KillSwitchState}
    (hActive : state.active = true) {rest : Session (ρ × MemoryKillSwitches) D Unit}
    (hRest : Maintains (Satisfies fun _ env => env.2.Recalls True state.sessionId) rest)
    (hs : s.env.2.Ordered) :
    let ended := (ask ((o.withSwitches digest).repository.saveKillSwitch state) >>=
      fun _ => rest).exec s
    ended.2.env.2.Recalls True state.sessionId ∨ ended.2.env.2.Ordered ∧
      ∃ message, ended.1 = .error (.raised (.runtimeError message)) := by
  intro ended
  have hSaved : (ask ((o.withSwitches digest).repository.saveKillSwitch state)).exec s =
      ((s.env.2.save (digest.hashed state)).1.mapError .raised,
        { s with env := (s.env.1, (s.env.2.save (digest.hashed state)).2) }) :=
    exec_ask _ s
  have hOrdered : (s.env.2.save (digest.hashed state)).2.Ordered := hs.save (.inl hActive)
  simp only [ended]
  rw [exec_bind, hSaved]
  cases hOutcome : (s.env.2.save (digest.hashed state)).1 with
  | error e =>
    refine .inr ⟨hOrdered, ?_⟩
    rcases hs.toKeyed.save_cases (digest.hashed state) with
      ⟨_, -, -, hSave⟩ | ⟨-, hSave⟩ | ⟨-, hSave⟩
    · rw [hSave] at hOutcome
      obtain rfl := Except.error.inj hOutcome
      exact ⟨_, rfl⟩
    · rw [hSave] at hOutcome
      cases hOutcome
    · rw [hSave] at hOutcome
      cases hOutcome
  | ok _ =>
    refine .inl (hRest _ ⟨hOrdered, fun _ => ?_⟩)
    exact ⟨_, hs.toKeyed.mem_save hOutcome, rfl, hActive⟩

theorem stored_of_recalls {sessionId : String} (h : s.env.2.Recalls True sessionId) :
    SwitchStored sessionId s :=
  ⟨h.1, fun _ => h.2 trivial⟩

theorem closeSession_settles (o : SessionOrchestrator ρ D) (digest : StateDigest) (rounds : ℕ)
    (plan : SessionPlan) :
    Settles plan.sessionId (closeSession (o.withSwitches digest) rounds plan) := by
  have hInvariant := switchStored_invariant o digest rounds plan plan.sessionId
  refine .bind (hInvariant.maintains_waitUntil _ _) fun _ => ?_
  refine .bind hInvariant.clock fun now => ?_
  refine .bind (hInvariant.maintains_runFlatten now) fun result => ?_
  refine .bind (hInvariant.maintains_modify (fun _ => rfl) fun _ => rfl) fun _ => ?_
  split_ifs
  · refine .bind (hInvariant.maintains_recordPhase _ _ _ _) fun _ => ?_
    refine .bind hInvariant.clock fun completedAt => ?_
    refine .bind (hInvariant.maintains_recordPhase _ _ _ _) fun _ => ?_
    exact .of_maintains (hInvariant.maintains_modify (fun _ => rfl) fun _ => rfl)
  · intro s hs
    have hStored : HandlerInvariant (o.withSwitches digest) rounds plan
        (Satisfies fun _ env => env.2.Recalls True plan.sessionId) :=
      SessionOrchestrator.Keeps.handlerInvariant fun _ =>
        (withSwitches_preserves o digest True plan.sessionId).keeps
    rw [exec_bind, exec_modify]
    simp only
    refine (save_stores o digest rfl ?_ ?_).imp_left stored_of_recalls
    · apply (hStored.maintains_emitCritical _ _ _).bind
      intro _
      exact hStored.maintains_modify (fun _ => rfl) fun _ => rfl
    · exact hs.1

theorem trySession_settles (o : SessionOrchestrator ρ D) (digest : StateDigest) (rounds : ℕ)
    (plan : SessionPlan) (startedAt : Timestamp) :
    Settles plan.sessionId (trySession (o.withSwitches digest) rounds plan startedAt) := by
  have hPreserves := fun p => withSwitches_preserves o digest p plan.sessionId
  have hInvariant := switchStored_invariant o digest rounds plan plan.sessionId
  have hExecution : Maintains (SwitchStored plan.sessionId)
      (runPhase (o.withSwitches digest) plan .execution
        (o.withSwitches digest).hooks.sizeAndExecute) :=
    hInvariant.maintains_runPhase hInvariant.renew .execution fun now token =>
      satisfies_ask fun _ => (hPreserves _).sizeAndExecute plan now token
  have hTaken : Maintains (SwitchStored plan.sessionId)
      (takeLeadership (o.withSwitches digest) plan startedAt) :=
    SessionOrchestrator.Keeps.maintains_takeLeadership
      (fun held => (hPreserves (held.killSwitch.active = true)).keeps)
      (fun held => (hPreserves (held.killSwitch.active = true)).acquire)
      (fun _ _ _ _ hEnv => hEnv) startedAt
  refine .bind hTaken fun _ => ?_
  refine .bind hInvariant.maintains_evaluateSession fun summary => ?_
  refine .bind (hInvariant.maintains_actOn (hInvariant.maintains_trade hExecution) summary)
    fun _ => ?_
  exact closeSession_settles o digest rounds plan

/-- The handler of a failure stores its kill switch, or it raises. -/
theorem handleFailure_settles (o : SessionOrchestrator ρ D) (digest : StateDigest) (rounds : ℕ)
    (plan : SessionPlan) (e : Exc) (hs : s.env.2.Ordered) :
    let ended := (handleFailure (o.withSwitches digest) rounds plan e).exec s
    SwitchStored plan.sessionId ended.2 ∨
      ∃ message, ended.1 = .error (.raised (.runtimeError message)) := by
  have hStored : HandlerInvariant (o.withSwitches digest) rounds plan
      (Satisfies fun _ env => env.2.Recalls True plan.sessionId) :=
    SessionOrchestrator.Keeps.handlerInvariant fun _ =>
      (withSwitches_preserves o digest True plan.sessionId).keeps
  rw [handleFailure, exec_bind, exec_clock]
  simp only
  rw [exec_bind, exec_modify]
  simp only
  refine (save_stores o digest rfl (hStored.maintains_afterActivation _ _ _) ?_).imp
    stored_of_recalls And.right
  exact hs

theorem latestKillSwitch_stored (o : SessionOrchestrator ρ D) (digest : StateDigest)
    (plan : SessionPlan) {killSwitch : KillSwitchState} (hs : s.env.2.Ordered)
    (h : (latestKillSwitch (o.withSwitches digest) plan).exec s = (.ok killSwitch, t)) :
    t.env.2.Recalls (killSwitch.active = true) plan.sessionId ∧
      (s.env.2.Active plan.sessionId → killSwitch.active = true) := by
  have hRead : (ask ((o.withSwitches digest).repository.getLatestKillSwitch plan.sessionId)).exec
      s = (.ok ((s.env.2.latest plan.sessionId).map (·.toKillSwitchState)), s) :=
    exec_ask _ s
  rw [latestKillSwitch, exec_bind, hRead] at h
  cases hLatest : s.env.2.latest plan.sessionId with
  | some state =>
    rw [hLatest] at h
    obtain ⟨hSwitch, rfl⟩ := Prod.mk.inj h
    obtain rfl := Except.ok.inj hSwitch
    refine ⟨⟨hs, active_of_latest hLatest⟩, fun hActive => ?_⟩
    obtain ⟨last, hLast, hState⟩ := hs.latest_active hActive
    rw [hLatest] at hLast
    rwa [Option.some.inj hLast]
  | none =>
    rw [hLatest] at h
    obtain ⟨_, u, hSave, hEnd⟩ := exec_bind_ok.mp h
    obtain ⟨hSwitch, rfl⟩ := Prod.mk.inj hEnd
    obtain rfl := Except.ok.inj hSwitch
    rw [exec_ask] at hSave
    obtain ⟨-, rfl⟩ := Prod.mk.inj hSave
    refine ⟨⟨hs.save (.inr hLatest), fun hActive => by cases hActive⟩, fun hActive => ?_⟩
    obtain ⟨last, hLast, -⟩ := hs.latest_active hActive
    rw [hLatest] at hLast
    cases hLast

/-- A run begins with the kill switch that is stored. -/
theorem beginRun_stored (o : SessionOrchestrator ρ D) (digest : StateDigest) (plan : SessionPlan)
    (startAt : Option Timestamp) {startedAt : Timestamp} (hw : w.env.2.Ordered)
    (hBegin : (beginRun (o.withSwitches digest) plan startAt).exec w = (.ok startedAt, s)) :
    SwitchStored plan.sessionId s ∧
      (w.env.2.Active plan.sessionId → s.killSwitch.active = true) := by
  obtain ⟨_, u, hStart, hRest⟩ := exec_bind_ok.mp hBegin
  obtain ⟨_, v, hPlan, hRest⟩ := exec_bind_ok.mp hRest
  obtain ⟨killSwitch, x, hLatest, hRest⟩ := exec_bind_ok.mp hRest
  obtain ⟨-, rfl⟩ := Prod.mk.inj hRest
  have hStartTime : Maintains (fun s => s.env.2 = w.env.2)
      (startTime (o.withSwitches digest) startAt) := by
    cases startAt with
    | none => exact fun s hs => hs
    | some startAt => exact .pure startAt
  have hSavePlan : Maintains (fun s => s.env.2 = w.env.2)
      (ask ((o.withSwitches digest).repository.savePlan plan) : Session _ D Unit) := by
    intro s hs
    rw [exec_ask]
    exact hs
  have hv := hSavePlan.of_exec hPlan (hStartTime.of_exec hStart rfl)
  rw [← hv] at hw ⊢
  obtain ⟨hStored, hActive⟩ := latestKillSwitch_stored o digest plan hw hLatest
  exact ⟨hStored, hActive⟩

/-- The end of a run leaves the kill switch as it is. -/
theorem conclude_stored (o : SessionOrchestrator ρ D) (digest : StateDigest) (plan : SessionPlan)
    (startedAt : Timestamp) {result : SessionResult D} (hs : SwitchStored plan.sessionId s)
    (h : (conclude (o.withSwitches digest) plan startedAt).exec s = (.ok result, t)) :
    t.env.2.Recalls (result.killSwitch.active = true) plan.sessionId := by
  have hInvariant := switchStored_invariant o digest 0 plan plan.sessionId
  have hEnds := fun p => (withSwitches_preserves o digest p plan.sessionId).ends
  obtain ⟨completedAt, u, hClock, h⟩ := exec_bind_ok.mp h
  obtain ⟨_, v, hRelease, h⟩ := exec_bind_ok.mp h
  obtain ⟨phases, x, hPhases, h⟩ := exec_bind_ok.mp h
  obtain ⟨alerts, y, hAlerts, h⟩ := exec_bind_ok.mp h
  have hReleased : Maintains (SwitchStored plan.sessionId)
      (releaseLeadership (o.withSwitches digest) completedAt) :=
    satisfies_releaseLeadership (fun _ => (hEnds _).release) completedAt
  have hListed : Maintains (SwitchStored plan.sessionId)
      (ask ((o.withSwitches digest).repository.listAlerts plan.sessionId) :
        Session (ρ × MemoryKillSwitches) D _) :=
    satisfies_ask fun _ => (hEnds _).listAlerts _
  have hy := hListed.of_exec hAlerts (hInvariant.listPhases.of_exec hPhases
    (hReleased.of_exec hRelease (hInvariant.clock.of_exec hClock hs)))
  -- The result carries the kill switch of this state, and its save leaves the store alone.
  rw [exec_bind, exec_get] at h
  obtain ⟨_, z, hSave, hEnd⟩ := exec_bind_ok.mp h
  rw [exec_ask] at hSave
  obtain ⟨-, rfl⟩ := Prod.mk.inj hSave
  obtain ⟨hResult, rfl⟩ := Prod.mk.inj hEnd
  obtain rfl := Except.ok.inj hResult
  exact hy

/-- The parts of a run that returns. -/
theorem run_ok {σ : Type} {o : SessionOrchestrator σ D} {w t : SessionState σ D}
    {result : SessionResult D} (h : (run o rounds plan startAt).exec w = (.ok result, t)) :
    ∃ startedAt s u, (beginRun o plan startAt).exec w = (.ok startedAt, s) ∧
      (tryCatch (trySession o rounds plan startedAt) fun
        | .waiting => throw .waiting
        | .raised e => handle o rounds plan startedAt e).exec s = (.ok (), u) ∧
      (conclude o plan startedAt).exec u = (.ok result, t) := by
  obtain ⟨startedAt, s, hBegin, h⟩ := exec_bind_ok.mp h
  refine ⟨startedAt, s, ?_⟩
  rw [exec_bind, exec_attempt] at h
  simp only at h
  generalize (tryCatch (trySession o rounds plan startedAt) _).exec s = ended at h ⊢
  rcases ended with ⟨(e | _) | _, u⟩
  · obtain ⟨_, _, -, hThrow⟩ := exec_bind_ok.mp h
    cases hThrow
  · cases h
  · exact ⟨u, hBegin, rfl, h⟩

/-- A handler that returns has stored an active kill switch. -/
theorem handle_stored (o : SessionOrchestrator ρ D) (digest : StateDigest) (rounds : ℕ)
    (plan : SessionPlan) (startedAt : Timestamp) (e : Exc)
    (hs : SwitchStored plan.sessionId s ∨
      s.env.2.Ordered ∧ ∃ message, e = .runtimeError message)
    (h : (handle (o.withSwitches digest) rounds plan startedAt e).exec s = (.ok (), t)) :
    SwitchStored plan.sessionId t := by
  have hInvariant := switchStored_invariant o digest rounds plan plan.sessionId
  have hFailure : ∀ e, (handleFailure (o.withSwitches digest) rounds plan e).exec s = (.ok (), t) →
      SwitchStored plan.sessionId t := by
    intro e h
    have hOrdered : s.env.2.Ordered := hs.elim And.left And.left
    rcases handleFailure_settles o digest rounds plan e hOrdered with hStored | ⟨_, hRaised⟩
    · rwa [h] at hStored
    · rw [h] at hRaised
      cases hRaised
  cases e with
  | leadershipUnavailable message =>
    rcases hs with hs | ⟨-, _, hOther⟩
    · refine Maintains.of_exec (.bind ?_ fun _ => hInvariant.maintains_emitCritical _ _ _) h hs
      exact hInvariant.maintains_modify (fun _ => rfl) fun _ => rfl
    · cases hOther
  | persistentKillSwitchActive message =>
    rcases hs with hs | ⟨-, _, hOther⟩
    · refine Maintains.of_exec (.bind hInvariant.clock fun now => .bind ?_ fun _ =>
        .bind (hInvariant.maintains_emitCritical _ _ _) fun _ => ?_) h hs
      · exact hInvariant.maintains_modify (fun _ => rfl) fun _ => rfl
      · exact hInvariant.maintains_emergencyFlatten now
    · cases hOther
  | alpacaOperationsError _ _ _ => exact hFailure _ h
  | runtimeError _ => exact hFailure _ h
  | other _ _ => exact hFailure _ h

/-- A run that returns with an active kill switch has it stored. -/
theorem run_stored (o : SessionOrchestrator ρ D) (digest : StateDigest) (rounds : ℕ)
    (plan : SessionPlan) (startAt : Option Timestamp) {result : SessionResult D}
    (hw : w.env.2.Ordered)
    (hRun : (run (o.withSwitches digest) rounds plan startAt).exec w = (.ok result, t)) :
    t.env.2.Recalls (result.killSwitch.active = true) plan.sessionId := by
  obtain ⟨startedAt, s, u, hBegin, hTry, hConclude⟩ := run_ok hRun
  have hs := (beginRun_stored o digest plan startAt hw hBegin).1
  have hTried := trySession_settles o digest rounds plan startedAt s hs
  refine conclude_stored o digest plan startedAt ?_ hConclude
  rcases exec_tryCatch_cases hTry with ⟨_, hOk, -⟩ | ⟨halt, v, hError, hHandle⟩
  · rw [hOk] at hTried
    rcases hTried with hStored | ⟨-, _, hRaised⟩
    · exact hStored
    · cases hRaised
  · rw [hError] at hTried
    cases halt with
    | waiting => cases hHandle
    | raised e =>
      refine handle_stored o digest rounds plan startedAt e ?_ hHandle
      refine hTried.imp_right fun h => ⟨h.1, ?_⟩
      obtain ⟨message, hRaised⟩ := h.2
      exact ⟨message, Halt.raised.inj (Except.error.inj hRaised)⟩

/-! ### A run that calls no hook -/

/-- Since these calls, only the flatten service was called. -/
def OnlyFlattened {σ : Type} (calls : List (SessionCall × σ)) (s : SessionState σ D) : Prop :=
  ∃ later, s.calls = calls ++ later ∧ ∀ call ∈ later, call.1.isFlatten = true

theorem OnlyFlattened.of_called {σ α : Type} {p : Session σ D α}
    (h : ∀ calls, Maintains (Called calls) p) (calls : List (SessionCall × σ)) :
    Maintains (OnlyFlattened calls) p := by
  rintro s ⟨later, hCalls, hLater⟩
  have hSame := h s.calls s rfl
  exact ⟨later, hSame.trans hCalls, hLater⟩

theorem onlyFlattened_emergencyFlatten {σ : Type} (o : SessionOrchestrator σ D) (rounds : ℕ)
    (plan : SessionPlan) (now : Timestamp) (calls : List (SessionCall × σ)) :
    Maintains (OnlyFlattened calls) (emergencyFlatten o rounds plan now) := by
  rintro s ⟨later, hCalls, hLater⟩
  have hFlatten := emergencyFlatten_calls o rounds plan now s
  refine ⟨later ++ [(.flatten now, s.env)], ?_, ?_⟩
  · rw [show _ = s.calls ++ [(.flatten now, s.env)] from hFlatten, hCalls, List.append_assoc]
  · intro call hCall
    rcases List.mem_append.mp hCall with hEarlier | hLast
    · exact hLater call hEarlier
    · rw [List.mem_singleton.mp hLast]
      rfl

theorem onlyFlattened_handle {σ : Type} (o : SessionOrchestrator σ D) (rounds : ℕ)
    (plan : SessionPlan) (startedAt : Timestamp) (e : Exc) (calls : List (SessionCall × σ)) :
    Maintains (OnlyFlattened calls) (handle o rounds plan startedAt e) := by
  have hEmit : ∀ code message now,
      Maintains (OnlyFlattened calls) (emitCritical o plan code message now) :=
    fun code message now => .of_called (fun _ => maintains_emitCritical o plan code message now)
      calls
  have hClock : Maintains (OnlyFlattened calls) (clock o.timing : Session σ D Timestamp) :=
    fun s hs => hs
  have hSave : ∀ state, Maintains (OnlyFlattened calls)
      (ask (o.repository.saveKillSwitch state) : Session σ D Unit) :=
    fun state => .of_called (fun _ => maintains_ask _) calls
  have hFailure : ∀ e, Maintains (OnlyFlattened calls) (handleFailure o rounds plan e) := by
    intro e
    refine .bind hClock fun now => .bind (fun s hs => hs) fun _ => ?_
    refine .bind (hSave _) fun _ => ?_
    refine .bind (hEmit _ _ now) fun _ => .bind (fun s hs => hs) fun _ => ?_
    exact onlyFlattened_emergencyFlatten o rounds plan now calls
  cases e with
  | leadershipUnavailable message => exact .bind (fun s hs => hs) fun _ => hEmit _ _ _
  | persistentKillSwitchActive message =>
    refine .bind hClock fun now => .bind (fun s hs => hs) fun _ => ?_
    refine .bind (hEmit _ _ now) fun _ => ?_
    exact onlyFlattened_emergencyFlatten o rounds plan now calls
  | alpacaOperationsError _ _ _ => exact hFailure _
  | runtimeError _ => exact hFailure _
  | other _ _ => exact hFailure _

/-- The kill switch of the run is active, and no hook was called. -/
def Blocked {σ : Type} (calls : List (SessionCall × σ)) (s : SessionState σ D) : Prop :=
  s.killSwitch.active = true ∧ OnlyFlattened calls s

theorem blocked_ask {σ α : Type} (calls : List (SessionCall × σ))
    (operation : σ → Except Exc α × σ) :
    Maintains (Blocked calls) (ask operation : Session σ D α) := by
  intro s hs
  rw [exec_ask]
  exact hs

theorem blocked_recordPhase {σ : Type} (o : SessionOrchestrator σ D) (plan : SessionPlan)
    (phase : SessionPhase) (startedAt : Timestamp) (calls : List (SessionCall × σ)) :
    Maintains (Blocked calls) (recordPhase o plan phase startedAt none none) :=
  .bind (blocked_ask calls _) fun _ => blocked_ask calls _

/-- With an active kill switch, the body of the session raises before its first phase. -/
theorem takeLeadership_raises {σ : Type} (o : SessionOrchestrator σ D) (plan : SessionPlan)
    (startedAt : Timestamp) {calls : List (SessionCall × σ)} {s : SessionState σ D}
    (hs : Blocked calls s) :
    ∃ halt t, (takeLeadership o plan startedAt).exec s = (.error halt, t) ∧
      OnlyFlattened calls t := by
  rw [takeLeadership, exec_bind, exec_ask]
  rcases o.leadership.acquire plan.sessionId o.holderId startedAt
    plan.policy.leadershipTtlSeconds s.env with ⟨e | _ | lease, env⟩
  · exact ⟨_, _, rfl, hs.2⟩
  · exact ⟨_, _, rfl, hs.2⟩
  · simp only [Except.mapError]
    rw [exec_bind, exec_modify]
    simp only
    rw [exec_bind]
    have hRecorded := blocked_recordPhase o plan .leadershipAcquired startedAt calls
      { s with
        env := env
        acquired := some lease
        lease := some lease
        lastRenewedAt := some startedAt } hs
    generalize (recordPhase o plan .leadershipAcquired startedAt none none).exec _ = recorded
      at hRecorded ⊢
    rcases recorded with ⟨halt | _, t⟩
    · exact ⟨_, _, rfl, hRecorded.2⟩
    · simp only
      rw [exec_bind, exec_get]
      simp only [show t.killSwitch.active = true from hRecorded.1, if_true]
      exact ⟨_, _, rfl, hRecorded.2⟩

theorem called_beginRun {σ : Type} (o : SessionOrchestrator σ D) (plan : SessionPlan)
    (startAt : Option Timestamp) (calls : List (SessionCall × σ)) :
    Maintains (Called calls) (beginRun o plan startAt) := by
  have hStart : Maintains (Called calls) (startTime o startAt) := by
    cases startAt with
    | none => exact maintains_clock _
    | some startAt => exact .pure startAt
  have hLatest : Maintains (Called calls) (latestKillSwitch o plan) := by
    apply (maintains_ask _).bind
    intro latest
    cases latest with
    | none => exact (maintains_ask _).bind fun _ => .pure _
    | some killSwitch => exact .pure killSwitch
  apply hStart.bind
  intro startedAt
  apply (maintains_ask _).bind
  intro _
  apply hLatest.bind
  intro killSwitch
  exact .bind (fun s hs => hs) fun _ => .pure startedAt

/-- A run that begins with an active kill switch in the store calls no hook. -/
theorem run_onlyFlattened (o : SessionOrchestrator ρ D) (digest : StateDigest) (rounds : ℕ)
    (plan : SessionPlan) (startAt : Option Timestamp) (hw : w.env.2.Ordered)
    (hActive : w.env.2.Active plan.sessionId) :
    OnlyFlattened w.calls ((run (o.withSwitches digest) rounds plan startAt).exec w).2 := by
  have hBegun : OnlyFlattened w.calls
      ((beginRun (o.withSwitches digest) plan startAt).exec w).2 :=
    OnlyFlattened.of_called (called_beginRun _ plan startAt) w.calls w
      ⟨[], (List.append_nil _).symm, by simp⟩
  refine run_maintains hBegun ?_ (fun _ hs => hs) fun startedAt =>
    OnlyFlattened.of_called (fun _ => maintains_conclude _ plan startedAt) w.calls
  intro startedAt s hBegin
  rw [hBegin] at hBegun
  have hSwitch := (beginRun_stored o digest plan startAt hw hBegin).2 hActive
  obtain ⟨halt, t, hTaken, ht⟩ :=
    takeLeadership_raises (o.withSwitches digest) plan startedAt ⟨hSwitch, hBegun⟩
  have hTry : (trySession (o.withSwitches digest) rounds plan startedAt).exec s =
      (.error halt, t) := by
    rw [trySession, exec_bind, hTaken]
  rw [exec_tryCatch, hTry]
  cases halt with
  | waiting => exact ht
  | raised e => exact onlyFlattened_handle _ rounds plan startedAt e w.calls t ht

end Run

/-! ### Durability -/

/-- What happens to the store: a run of the session, by any orchestrator, or a save of an
active state by another actor. -/
inductive SwitchEvent (ρ D : Type) [DecimalArithmetic D] (sessionId : String) where
  | run (o : SessionOrchestrator ρ D) (rounds : ℕ) (plan : SessionPlan)
    (startAt : Option Timestamp) (ofSession : plan.sessionId = sessionId)
  | save (state : HashedState) (active : state.active = true)

variable {sessionId : String}

def performEvent (digest : StateDigest) :
    SwitchEvent ρ D sessionId → Session (ρ × MemoryKillSwitches) D (Option (SessionResult D))
  | .run o rounds plan startAt _ => do
    let result ← run (o.withSwitches digest) rounds plan startAt
    return some result
  | .save state _ => do
    ask (onStore (MemoryKillSwitches.save state))
    return none

/-- Between the events the store stays as it is; all else may change. -/
def SameSwitches (s t : SessionState (ρ × MemoryKillSwitches) D) : Prop := t.env.2 = s.env.2

abbrev SwitchRecord (ρ D : Type) [DecimalArithmetic D] (sessionId : String) :=
  Performed (SwitchEvent ρ D sessionId) (SessionState (ρ × MemoryKillSwitches) D) Halt
    (Option (SessionResult D))

/-- An active state of the session is saved: by another actor, or by a run that returns with
an active kill switch, as it does when it ends `KILLED` after a failure or
`FLATTEN_INCOMPLETE`. -/
def SavesActive (record : SwitchRecord ρ D sessionId) : Prop :=
  match record.call, record.outcome with
  | .save state _, .ok _ => state.sessionId = sessionId
  | .run _ _ _ _ _, .ok (some result) => result.killSwitch.active = true
  | _, _ => False

section History

variable {digest : StateDigest} {start s t w : SessionState (ρ × MemoryKillSwitches) D}
  {call : SwitchEvent ρ D sessionId} {r : Except Halt (Option (SessionResult D))}

theorem performEvent_recalls {p : Prop} (hs : s.env.2.Recalls p sessionId)
    (h : (performEvent digest call).exec s = (r, t)) : t.env.2.Recalls p sessionId := by
  cases call with
  | run o rounds plan startAt ofSession =>
    have hRun : Maintains (Satisfies fun _ env => env.2.Recalls p sessionId)
        (run (o.withSwitches digest) rounds plan startAt) :=
      (withSwitches_preserves o digest p sessionId).maintains_run startAt
    exact (hRun.bind fun _ => .pure _).of_exec h hs
  | save state active =>
    have hSave : Maintains (Satisfies fun _ env => env.2.Recalls p sessionId)
        (ask (onStore (MemoryKillSwitches.save state)) : Session (ρ × MemoryKillSwitches) D Unit) :=
      satisfies_ask fun _ _ hEnv => Recalls.save_active hEnv active
    exact (hSave.bind fun _ => .pure _).of_exec h hs

theorem performEvent_saved (hs : s.env.2.Ordered)
    (h : (performEvent digest call).exec s = (r, t)) (hSaves : SavesActive ⟨call, s, r, t⟩) :
    t.env.2.Active sessionId := by
  cases call with
  | run o rounds plan startAt ofSession =>
    rcases r with _ | _ | result
    · exact hSaves.elim
    · exact hSaves.elim
    · obtain ⟨result', u, hRun, hEnd⟩ := exec_bind_ok.mp h
      obtain ⟨hResult, rfl⟩ := Prod.mk.inj hEnd
      obtain rfl := Option.some.inj (Except.ok.inj hResult)
      have hStored := run_stored o digest rounds plan startAt hs hRun
      rw [ofSession] at hStored
      exact hStored.2 hSaves
  | save state active =>
    rcases r with _ | result
    · exact hSaves.elim
    · obtain ⟨_, u, hSave, hEnd⟩ := exec_bind_ok.mp h
      obtain ⟨-, rfl⟩ := Prod.mk.inj hEnd
      rw [exec_ask] at hSave
      obtain ⟨hOk, rfl⟩ := Prod.mk.inj hSave
      refine ⟨state, hs.toKeyed.mem_save ?_, hSaves, active⟩
      cases hOutcome : (s.env.2.save state).1 with
      | ok _ => rfl
      | error e =>
        rw [onStore, hOutcome] at hOk
        cases hOk

theorem performEvent_onlyFlattened (hs : s.env.2.Recalls True sessionId)
    (h : (performEvent digest call).exec s = (r, t)) : OnlyFlattened s.calls t := by
  have hNone : OnlyFlattened s.calls s := ⟨[], (List.append_nil _).symm, by simp⟩
  cases call with
  | run o rounds plan startAt ofSession =>
    have hActive := hs.2 trivial
    rw [← ofSession] at hActive
    have hRun := run_onlyFlattened o digest rounds plan startAt hs.1 hActive
    have hEvent : OnlyFlattened s.calls
        ((performEvent digest (.run o rounds plan startAt ofSession)).exec s).2 :=
      bind_maintains hRun fun _ _ _ hu => hu
    rwa [h] at hEvent
  | save state active =>
    have hSave : Maintains (OnlyFlattened s.calls)
        (ask (onStore (MemoryKillSwitches.save state)) : Session (ρ × MemoryKillSwitches) D Unit) :=
      .of_called (fun _ => maintains_ask _) s.calls
    exact (hSave.bind fun _ => .pure _).of_exec h hNone

/-- In a history of runs of one session on one store, and of saves of active states between
them: whoever saves an active state of the session has it stored, and once one is stored,
the latest is active ever after, and no later run calls a hook. -/
theorem kill_switch_durable (digest : StateDigest) (sessionId : String)
    (start w : SessionState (ρ × MemoryKillSwitches) D)
    (later earlier : List (SwitchRecord ρ D sessionId)) (record : SwitchRecord ρ D sessionId)
    (hEmpty : start.env.2 = [])
    (h : History (performEvent digest) SameSwitches start (later ++ record :: earlier) w) :
    (SavesActive record → record.after.env.2.Active sessionId) ∧
    (record.after.env.2.Active sessionId →
      (∃ state, w.env.2.latest sessionId = some state ∧ state.active = true) ∧
      ∀ event ∈ later, OnlyFlattened event.before.calls event.after) := by
  have hDrift : ∀ p (s t : SessionState (ρ × MemoryKillSwitches) D),
      s.env.2.Recalls p sessionId → SameSwitches s t → t.env.2.Recalls p sessionId := by
    intro p s t hs hSame
    rwa [show t.env.2 = s.env.2 from hSame]
  have hStart : start.env.2.Recalls False sessionId := by
    rw [hEmpty]
    exact ⟨ordered_nil, False.elim⟩
  obtain ⟨hEarlier, hExec⟩ := h.prior
  have hBefore : record.before.env.2.Recalls False sessionId :=
    hEarlier.invariant (fun s => s.env.2.Recalls False sessionId) hStart
      (fun _ _ _ _ hs hPerform => performEvent_recalls hs hPerform) (hDrift False)
  refine ⟨performEvent_saved hBefore.1 hExec, fun hActive => ?_⟩
  have hAfter : record.after.env.2.Recalls True sessionId :=
    ⟨(performEvent_recalls hBefore hExec).1, fun _ => hActive⟩
  have hPersists : ∀ {later s}, History (performEvent digest) SameSwitches start
      (later ++ record :: earlier) s → s.env.2.Recalls True sessionId :=
    fun hHistory => hHistory.persists (fun s => s.env.2.Recalls True sessionId) hAfter
      (fun _ _ _ _ hs hPerform => performEvent_recalls hs hPerform) (hDrift True)
  refine ⟨?_, fun event hEvent => ?_⟩
  · obtain ⟨hOrdered, hStored⟩ := hPersists h
    exact hOrdered.latest_active (hStored trivial)
  · obtain ⟨last, first, rfl⟩ := List.append_of_mem hEvent
    rw [List.append_assoc] at h
    obtain ⟨hFirst, hPerform⟩ := h.prior
    exact performEvent_onlyFlattened (hPersists hFirst) hPerform

end History

def sampleDigest : StateDigest := fun _ => ⟨"".pushn '2' 64, by decide +kernel⟩

/-- The paper account beside a store without kill switches. -/
def unswitchedState : SessionState (Paper × MemoryKillSwitches) Decimal where
  env := (paperState.env, [])
  lastSent := ∅
  lease := none
  lastRenewedAt := none
  acquired := none
  killSwitch := inactiveKillSwitch ""
  flattenResult := none
  outcome := .failed
  finalPhase := .created
  errorMessage := none
  managedQuantities := []
  calls := []

/-- Another actor activates the kill switch. -/
def activation : SwitchRecord Paper Decimal "session-1" :=
  .of (performEvent sampleDigest) (.save lostState rfl) unswitchedState

/-- The session that is run then. -/
def blockedRun : SwitchRecord Paper Decimal "session-1" :=
  .of (performEvent sampleDigest) (.run (paperSession (.ok ())) 1 samplePlan (some 0) rfl)
    activation.after

theorem activation_blocks :
    (∃ state, blockedRun.after.env.2.latest "session-1" = some state ∧ state.active = true) ∧
      OnlyFlattened blockedRun.before.calls blockedRun.after := by
  have hStart : History (performEvent sampleDigest) SameSwitches unswitchedState
      ([] : List (SwitchRecord Paper Decimal "session-1")) unswitchedState := .start
  have hHistory := (hStart.next (.save lostState rfl)).next
    (.run (paperSession (.ok ())) 1 samplePlan (some 0) rfl)
  have hDurable := kill_switch_durable sampleDigest "session-1" unswitchedState blockedRun.after
    [blockedRun] [] activation rfl hHistory
  obtain ⟨hLatest, hFlattened⟩ := hDurable.2 (hDurable.1 rfl)
  exact ⟨hLatest, hFlattened blockedRun (List.mem_singleton_self _)⟩

end Daybreak.Orchestration
