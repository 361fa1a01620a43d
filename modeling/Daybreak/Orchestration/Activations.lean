import Daybreak.Orchestration.Durability
import Daybreak.Orchestration.EntryWindow

/-! Kill switches that other actors activate during a session. The session reads its kill
switch once, at its start, and its states are in memory, where other actors save theirs
between any two of its steps. A state that is saved after that reading stops nothing. -/

namespace Daybreak.Orchestration

open Numeric Effect Program MemoryKillSwitches

variable {ρ D : Type} [DecimalArithmetic D]

/-! ### Other actors -/

/-- The store after these saves. -/
def MemoryKillSwitches.saveEach (states : List HashedState) (switches : MemoryKillSwitches) :
    MemoryKillSwitches :=
  states.foldl (fun switches state => (switches.save state).2) switches

/-- What other actors do between two steps: to the kill switches nothing but saves. -/
structure Intervention (ρ : Type) where
  elapsed : ℕ
  saves : Timestamp → ρ × MemoryKillSwitches → List HashedState
  effect : Timestamp → ρ × MemoryKillSwitches → ρ

def Intervention.passage (actors : Intervention ρ) : Passage (ρ × MemoryKillSwitches) where
  elapsed := actors.elapsed
  effect time env := (actors.effect time env, saveEach (actors.saves time env) env.2)

/-! ### What is traced -/

abbrev SwitchMoment (ρ D : Type) [DecimalArithmetic D] := Moment (ρ × MemoryKillSwitches) D

/-- What the reading of the kill switch at the start answers. -/
def startupRead (trace : List (Moment ρ D)) : Option (Option KillSwitchState) :=
  trace.reverse.findSome? fun moment =>
    match moment.event with
    | .switchRead answer => some answer
    | _ => none

/-- The environment when the clock was last read. -/
def lastClock (trace : List (Moment ρ D)) : Option ρ :=
  trace.findSome? fun moment =>
    match moment.event with
    | .clockRead => some moment.env
    | _ => none

/-- The reading answers an active state. -/
def AnswersActive (answer : Option KillSwitchState) : Prop :=
  ∃ killSwitch ∈ answer, killSwitch.active = true

instance (answer : Option KillSwitchState) : Decidable (AnswersActive answer) := by
  unfold AnswersActive; infer_instance

/-- The execution hook is not called where an active state of the session was saved before
its phase starts, which is when the clock was last read. -/
def Stopped (sessionId : String) (moment : SwitchMoment ρ D)
    (earlier : List (SwitchMoment ρ D)) : Prop :=
  ∀ _now ∈ moment.event.executedAt, ∀ start ∈ lastClock earlier, ¬ start.2.Active sessionId

/-- Where an active state of the session was saved before the execution phase starts, the
reading at the start of the run answers an active one. -/
def Heeded (sessionId : String) (moment : SwitchMoment ρ D)
    (earlier : List (SwitchMoment ρ D)) : Prop :=
  ∀ _now ∈ moment.event.executedAt, ∀ start ∈ lastClock earlier,
    start.2.Active sessionId → ∃ answer ∈ startupRead earlier, AnswersActive answer

/-- A call of the execution hook comes after a reading at the start that answers no active
state. -/
def ReadInactive (moment : Moment ρ D) (earlier : List (Moment ρ D)) : Prop :=
  ∀ _now ∈ moment.event.executedAt, ∃ answer ∈ startupRead earlier, ¬ AnswersActive answer

instance (sessionId : String) (moment : SwitchMoment ρ D) (earlier : List (SwitchMoment ρ D)) :
    Decidable (Stopped sessionId moment earlier) := by
  unfold Stopped Active; infer_instance

theorem ReadInactive.stopped_iff {sessionId : String} {moment : SwitchMoment ρ D}
    {earlier : List (SwitchMoment ρ D)} (h : ReadInactive moment earlier) :
    Stopped sessionId moment earlier ↔ Heeded sessionId moment earlier := by
  refine forall₂_congr fun now hNow => forall₂_congr fun start _ => ?_
  obtain ⟨read, hRead, hInactive⟩ := h now hNow
  refine ⟨fun hNone hActive => absurd hActive hNone, fun hHeeded hActive => ?_⟩
  obtain ⟨answer, hAnswer, hAnswersActive⟩ := hHeeded hActive
  obtain rfl := Option.some.inj (hRead.symm.trans hAnswer)
  exact hInactive hAnswersActive

theorem startupRead_cons (moment : Moment ρ D) (earlier : List (Moment ρ D)) :
    startupRead (moment :: earlier) = (startupRead earlier).or (startupRead [moment]) := by
  rw [startupRead, List.reverse_cons, List.findSome?_append]
  rfl

/-! ### The session -/

/-- Every call of the execution hook so far came after a reading that stopped nothing. -/
def InactiveSoFar (w : World ρ D) : Prop := TraceAll ReadInactive w.trace

/-- The kill switch was read, and `p` holds if the answer was active. -/
def HasRead (p : Prop) (w : World ρ D) : Prop :=
  (∃ answer ∈ startupRead w.trace, AnswersActive answer → p) ∧ InactiveSoFar w

section Session

variable {o : SessionOrchestrator ρ D} {rounds : ℕ} {plan : SessionPlan} {p : Prop}
  {w : World ρ D} {s t : SessionState (World ρ D) D}

theorem inactive_unexecuted :
    KeptUnexecuted (fun _ _ => True) (InactiveSoFar : World ρ D → Prop) := by
  refine traceAll_unexecuted fun moment earlier hNone now hNow => ?_
  rw [hNone] at hNow
  cases hNow

theorem startupRead_advance {answer : Option KillSwitchState}
    (h : startupRead w.trace = some answer) (event : Option (SessionEvent D)) (rest : ρ) :
    startupRead (w.advance event rest).trace = some answer := by
  cases event with
  | none => rwa [World.advance_none_trace]
  | some event => rw [World.advance_some_trace, startupRead_cons, h, Option.some_or]

theorem hasRead_unexecuted : KeptUnexecuted (fun _ _ => True) (HasRead p : World ρ D → Prop) := by
  rintro w event rest hEvent _ ⟨⟨answer, hAnswer, hActive⟩, hw⟩
  refine ⟨⟨answer, startupRead_advance hAnswer event rest, hActive⟩, ?_⟩
  exact inactive_unexecuted w event rest hEvent trivial hw

/-- Once no active state was read, every step is as it should be. -/
theorem hasRead_preserves (o : SessionOrchestrator ρ D) : o.inWorld.Preserves (HasRead False) := by
  refine o.inWorld_preserves ?_
  rintro w event rest ⟨⟨answer, hAnswer, hInactive⟩, hw⟩
  refine ⟨⟨answer, startupRead_advance hAnswer event rest, hInactive⟩, ?_⟩
  exact TraceAll.advance hw (fun _ _ _ _ => ⟨answer, hAnswer, hInactive⟩) rest

/-- A step that reads no kill switch. -/
theorem startupRead_unread (h : startupRead w.trace = none) {event : Option (SessionEvent D)}
    (hEvent : ∀ e ∈ event, startupRead [(⟨e, w.time, w.rest⟩ : Moment ρ D)] = none) (rest : ρ) :
    startupRead (w.advance event rest).trace = none := by
  cases event with
  | none => rwa [World.advance_none_trace]
  | some event =>
    rw [World.advance_some_trace, startupRead_cons, h, hEvent event rfl]
    rfl

/-- A run that begins has read its kill switch. -/
theorem beginRun_reads {startAt : Option Timestamp} {startedAt : Timestamp}
    (hs : startupRead s.env.trace = none)
    (h : (beginRun o.inWorld plan startAt).exec s = (.ok startedAt, t)) :
    ∃ answer ∈ startupRead t.env.trace, AnswersActive answer → t.killSwitch.active = true := by
  obtain ⟨_, u, hStart, h⟩ := exec_bind_ok.mp h
  have hu : startupRead u.env.trace = none := by
    cases startAt with
    | none =>
      obtain ⟨-, rfl⟩ := Prod.mk.inj hStart
      exact startupRead_unread hs (fun e hEvent => by rw [← Option.some.inj hEvent]; rfl) _
    | some startAt =>
      obtain ⟨-, rfl⟩ := Prod.mk.inj hStart
      exact hs
  obtain ⟨_, v, hSave, h⟩ := exec_bind_ok.mp h
  have hv : startupRead v.env.trace = none := by
    rw [exec_ask] at hSave
    obtain ⟨-, rfl⟩ := Prod.mk.inj hSave
    exact startupRead_unread hu (fun e hEvent => by cases hEvent) _
  obtain ⟨killSwitch, x, hLatest, h⟩ := exec_bind_ok.mp h
  obtain ⟨_, y, hModify, h⟩ := exec_bind_ok.mp h
  obtain ⟨-, rfl⟩ := Prod.mk.inj h
  obtain ⟨-, rfl⟩ := Prod.mk.inj hModify
  show ∃ answer ∈ startupRead x.env.trace, AnswersActive answer → killSwitch.active = true
  have hAsk : (ask (o.inWorld.repository.getLatestKillSwitch plan.sessionId) :
      Session (World ρ D) D _).exec v =
        ((o.repository.getLatestKillSwitch plan.sessionId v.env.rest).1.mapError .raised, { v with
          env := v.env.advance
            (World.read (o.repository.getLatestKillSwitch plan.sessionId v.env.rest).1)
            (o.repository.getLatestKillSwitch plan.sessionId v.env.rest).2 }) :=
    exec_ask _ v
  rw [latestKillSwitch, exec_bind, hAsk] at hLatest
  generalize o.repository.getLatestKillSwitch plan.sessionId v.env.rest = read at hLatest
  rcases read with ⟨e | answer, rest⟩
  · cases hLatest
  · have hRead : startupRead (v.env.advance (some (.switchRead answer)) rest).trace =
        some answer := by
      rw [World.advance_some_trace, startupRead_cons, hv]
      rfl
    cases answer with
    | some found =>
      obtain ⟨hFound, rfl⟩ := Prod.mk.inj hLatest
      obtain rfl := Except.ok.inj hFound
      refine ⟨some found, hRead, ?_⟩
      rintro ⟨_, hSome, hActive⟩
      rwa [Option.some.inj hSome]
    | none =>
      obtain ⟨_, z, hSaved, hEnd⟩ := exec_bind_ok.mp hLatest
      obtain ⟨-, rfl⟩ := Prod.mk.inj hEnd
      rw [exec_ask] at hSaved
      obtain ⟨-, rfl⟩ := Prod.mk.inj hSaved
      refine ⟨none, startupRead_advance hRead none _, ?_⟩
      rintro ⟨_, hNone, -⟩
      cases hNone

/-- Leadership is taken only where the kill switch of the run is inactive. -/
theorem takeLeadership_inactive {startedAt : Timestamp}
    (h : (takeLeadership o.inWorld plan startedAt).exec s = (.ok (), t)) :
    ¬ t.killSwitch.active = true := by
  obtain ⟨granted, u, -, h⟩ := exec_bind_ok.mp h
  cases granted with
  | none => cases h
  | some lease =>
    obtain ⟨_, v, -, h⟩ := exec_bind_ok.mp h
    obtain ⟨_, x, -, h⟩ := exec_bind_ok.mp h
    obtain ⟨y, z, hGet, h⟩ := exec_bind_ok.mp h
    obtain ⟨hState, rfl⟩ := Prod.mk.inj hGet
    obtain rfl := Except.ok.inj hState
    simp only at h
    split_ifs at h with hActive
    · cases h
    · obtain ⟨-, rfl⟩ := Prod.mk.inj h
      exact hActive

/-- A session that is tried with the kill switch that was read calls the execution hook only
where it is inactive. -/
theorem trySession_inactive {startedAt : Timestamp}
    (hs : HasRead (s.killSwitch.active = true) s.env) :
    InactiveSoFar ((trySession o.inWorld rounds plan startedAt).exec s).2.env := by
  have hTaken : Maintains (Satisfies fun held => HasRead (held.killSwitch.active = true))
      (takeLeadership o.inWorld plan startedAt) :=
    KeptUnexecuted.maintains_takeLeadership
      (R := fun killSwitch => HasRead (killSwitch.active = true))
      (fun _ => hasRead_unexecuted) (fun _ => o.preserves_true) (fun _ => trivial) startedAt
  have hTook := hTaken s hs
  refine bind_maintains (P := Satisfies fun _ => InactiveSoFar) hTook.2 fun _ t hExec _ => ?_
  have hInactive := takeLeadership_inactive hExec
  rw [hExec] at hTook
  obtain ⟨⟨answer, hAnswer, hActive⟩, hSoFar⟩ := hTook
  have ht : HasRead False t.env :=
    ⟨⟨answer, hAnswer, fun hRead => hInactive (hActive hRead)⟩, hSoFar⟩
  exact ((hasRead_preserves o).maintains_afterTaken t ht).2

theorem run_inactive {startAt : Option Timestamp} (hs : s.env.trace = []) :
    InactiveSoFar ((run o.inWorld rounds plan startAt).exec s).2.env := by
  have hStart : InactiveSoFar s.env := by
    rw [InactiveSoFar, hs]
    trivial
  have hBegun : InactiveSoFar ((beginRun o.inWorld plan startAt).exec s).2.env :=
    inactive_unexecuted.maintains_beginRun startAt s hStart
  refine inactive_unexecuted.of_tried hBegun fun startedAt t hBegin => ?_
  have hRead := beginRun_reads (by rw [hs]; rfl) hBegin
  rw [hBegin] at hBegun
  exact trySession_inactive ⟨hRead, hBegun⟩

end Session

/-! ### Stopping a session -/

/-- In every run, whatever states other actors save and whenever they do: each call of the
execution hook has no active state of the session saved before the start of its phase, exactly
when each has such a state only where the reading at the start of the run answers an active
one. -/
theorem kill_switch_stops_iff (o : SessionOrchestrator ρ D) (digest : StateDigest) (rounds : ℕ)
    (plan : SessionPlan) (startAt : Option Timestamp)
    (s : SessionState (World (ρ × MemoryKillSwitches) D) D) (others : List (Intervention ρ)) :
    let w : World (ρ × MemoryKillSwitches) D :=
      { s.env with script := others.map Intervention.passage, trace := [] }
    let trace := ((run (o.withSwitches digest).inWorld rounds plan startAt).exec
      { s with env := w }).2.env.trace
    TraceAll (Stopped plan.sessionId) trace ↔ TraceAll (Heeded plan.sessionId) trace :=
  (run_inactive rfl).congr fun _ _ hInactive => hInactive.stopped_iff

/-- A state that is activated while the session waits for the market to open. -/
def switchedTrace : List (SwitchMoment Unit Decimal) :=
  let quiet : Intervention Unit := ⟨0, fun _ _ => [], fun _ env => env.1⟩
  let opens : Intervention Unit := { quiet with elapsed := 4, saves := fun _ _ => [lostState] }
  let others := List.replicate 34 quiet ++ [opens]
  let w : World (Unit × MemoryKillSwitches) Decimal :=
    ⟨((), []), 2, others.map Intervention.passage, []⟩
  ((run (tradingSession.withSwitches sampleDigest).inWorld 1 samplePlan none).exec
    (startedIn w)).2.env.trace

/-- The state is saved, and the execution hook is called. -/
theorem switched_execution : ¬ TraceAll (Stopped samplePlan.sessionId) switchedTrace := by
  decide +kernel

end Daybreak.Orchestration
