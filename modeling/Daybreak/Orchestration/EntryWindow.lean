import Daybreak.Orchestration.World

/-! The entry window of a session. Whatever the hooks and the health probe do, the
execution hook is called only after both preflights have passed and the evaluation has
approved a setup, and not before the market opens. The cutoff is checked on one reading
of the clock and the hook is given the next. -/

namespace Daybreak.Orchestration

open Numeric Effect Program

variable {ρ D : Type} [DecimalArithmetic D]

/-! ### Moments of a session -/

/-- The time that the execution hook is given. -/
def SessionEvent.executedAt : SessionEvent D → Option Timestamp
  | .hooked .execution now _ _ => some now
  | _ => none

/-- The health that is probed passes the preflight. -/
def Moment.Passes (plan : SessionPlan) (moment : Moment ρ D) : Prop :=
  ∃ health, moment.event = .probed health ∧ healthKillReason health plan plan.policy = none

/-- The evaluation hook returns this summary. -/
def Moment.Evaluates (summary : EvaluationPhaseSummary) (moment : Moment ρ D) : Prop :=
  ∃ now token details, moment.event = .hooked .evaluation now token (.ok details) ∧
    evaluationPhaseSummary details.items = .ok summary

/-- The evaluation hook returns `approved`, with a count of at least one. -/
def Moment.Approves (moment : Moment ρ D) : Prop :=
  ∃ summary, moment.Evaluates summary ∧ summary.runStatus = .approved ∧
    1 ≤ summary.approvedCount

/-- The readings of the clock, latest first. -/
def clockReadings (trace : List (Moment ρ D)) : List Timestamp :=
  trace.filterMap fun moment =>
    match moment.event with
    | .clockRead => some moment.time
    | _ => none

/-- The initial preflight has passed, then the evaluation approved a setup, and then the
preflight of the eligibility lock has passed. -/
def Prepared (plan : SessionPlan) (trace : List (Moment ρ D)) : Prop :=
  ∃ lock evaluation initial, [lock, evaluation, initial].Sublist trace ∧
    Moment.Passes plan lock ∧ evaluation.Approves ∧ Moment.Passes plan initial

/-- An execution hook is called in the entry window, after what is required before. -/
def InWindow (plan : SessionPlan) (moment : Moment ρ D) (earlier : List (Moment ρ D)) : Prop :=
  ∀ now ∈ moment.event.executedAt, plan.regularSessionOpenAt ≤ now ∧ now ≤ plan.newEntryCutoffAt ∧
    Prepared plan earlier

/-- Between the last two readings, the clock passes the cutoff for new entries. -/
def CutoffOvertaken (plan : SessionPlan) (trace : List (Moment ρ D)) : Prop :=
  match clockReadings trace with
  | started :: check :: _ => check ≤ plan.newEntryCutoffAt ∧ plan.newEntryCutoffAt < started
  | _ => False

instance (plan : SessionPlan) (trace : List (Moment ρ D)) :
    Decidable (CutoffOvertaken plan trace) := by
  unfold CutoffOvertaken; split <;> infer_instance

/-- What holds of a call of the execution hook: its time is the last reading, and the
cutoff was checked on the one before. -/
def Entered (plan : SessionPlan) (moment : Moment ρ D) (earlier : List (Moment ρ D)) : Prop :=
  ∀ now ∈ moment.event.executedAt, plan.regularSessionOpenAt ≤ now ∧ Prepared plan earlier ∧
    ∃ check rest, clockReadings earlier = now :: check :: rest ∧ check ≤ plan.newEntryCutoffAt

theorem Entered.inWindow_iff {plan : SessionPlan} {moment : Moment ρ D}
    {earlier : List (Moment ρ D)} (h : Entered plan moment earlier) :
    InWindow plan moment earlier ↔
      ∀ now ∈ moment.event.executedAt, ¬ CutoffOvertaken plan earlier := by
  refine forall₂_congr fun now hNow => ?_
  obtain ⟨hOpen, hPrepared, check, rest, hReadings, hCheck⟩ := h now hNow
  rw [CutoffOvertaken, hReadings]
  constructor
  · rintro ⟨-, hCutoff, -⟩ ⟨-, hPassed⟩
    exact absurd hCutoff (not_le.mpr hPassed)
  · intro hHeld
    refine ⟨hOpen, ?_, hPrepared⟩
    by_contra hPassed
    exact hHeld ⟨hCheck, not_le.mp hPassed⟩

/-! ### Steps that do not execute -/

/-- A step that does not call the execution hook. -/
def Unexecuted (event : Option (SessionEvent D)) : Prop := ∀ e ∈ event, e.executedAt = none

theorem unexecuted_of_routine {event : Option (SessionEvent D)} (hRoutine : Routine event) :
    Unexecuted event := by
  rintro e rfl
  cases e with
  | hooked _ _ _ _ => exact hRoutine.elim
  | _ => rfl

theorem unexecuted_hooked {phase : SessionPhase} (hPhase : phase ≠ .execution) {now : Timestamp}
    {token : ℕ} {answer : Except Exc (HookDetails D)} :
    Unexecuted (some (.hooked phase now token answer)) := by
  intro e hEvent
  rw [← Option.some.inj hEvent]
  cases phase with
  | execution => exact absurd rfl hPhase
  | _ => rfl

theorem unexecuted_grant (answer : Except Exc (Option LeadershipLease)) :
    Unexecuted (World.grant answer : Option (SessionEvent D)) := by
  rcases answer with _ | _ | lease
  · exact fun _ h => by cases h
  · exact fun _ h => by cases h
  · intro e hEvent
    rw [← Option.some.inj hEvent]
    rfl

/-- The steps that do not call the execution hook keep `P`, if they do to the environment what
`T` says. -/
def KeptUnexecuted (T : ρ → ρ → Prop) (P : World ρ D → Prop) : Prop :=
  ∀ w event rest, Unexecuted event → T w.rest rest → P w → P (w.advance event rest)

section Steps

variable {o : SessionOrchestrator ρ D} {rounds : ℕ} {plan : SessionPlan} {T : ρ → ρ → Prop}
  {P : World ρ D → Prop}

theorem KeptUnexecuted.steps (h : KeptUnexecuted T P) : StepsKeep T P :=
  fun w event rest hRoutine => h w event rest (unexecuted_of_routine hRoutine)

theorem KeptUnexecuted.renewLeadership (h : KeptUnexecuted T P) (hBase : ∀ r, o.Preserves (T r))
    (hRefl : ∀ r, T r r) (now : Timestamp) :
    Maintains (Satisfies fun _ => P) (renewLeadership o.inWorld plan now) := by
  refine maintains_renewLeadership ?_ (fun _ _ _ _ hw => hw) now
  intro _ lease now ttlSeconds w hw
  exact h w _ _ (unexecuted_grant _) ((hBase _).renew lease now ttlSeconds _ (hRefl _)) hw

theorem KeptUnexecuted.keeps (h : KeptUnexecuted T P) (hBase : ∀ r, o.Preserves (T r))
    (hRefl : ∀ r, T r r) : o.inWorld.Keeps P :=
  SessionOrchestrator.inWorld_keeps (fun r => (hBase r).keeps) hRefl h.steps
    fun w rest => h w (some .mutated) rest fun e hEvent => by rw [← Option.some.inj hEvent]; rfl

/-- What is kept may depend on the kill switch, which stays as it is. -/
theorem KeptUnexecuted.maintains_takeLeadership {R : KillSwitchState → World ρ D → Prop}
    (h : ∀ killSwitch, KeptUnexecuted T (R killSwitch)) (hBase : ∀ r, o.Preserves (T r))
    (hRefl : ∀ r, T r r) (startedAt : Timestamp) :
    Maintains (Satisfies fun held => R held.killSwitch)
      (takeLeadership o.inWorld plan startedAt) := by
  refine SessionOrchestrator.Keeps.maintains_takeLeadership
    (R := fun held => R held.killSwitch) (fun _ => (h _).keeps hBase hRefl) ?_
    (fun _ _ _ _ hw => hw) startedAt
  intro _ sessionId holderId now ttlSeconds w hw
  exact h _ w _ _ (unexecuted_grant _)
    ((hBase _).acquire sessionId holderId now ttlSeconds _ (hRefl _)) hw

/-- A session keeps `P`, but where it calls the execution hook. -/
theorem KeptUnexecuted.invariant (h : KeptUnexecuted T P) (hBase : ∀ r, o.Preserves (T r))
    (hRefl : ∀ r, T r r) : SessionInvariant o.inWorld rounds plan (Satisfies fun _ => P) :=
  SessionOrchestrator.Keeps.phasesInvariant (fun _ => h.keeps hBase hRefl)
    (h.renewLeadership hBase hRefl) fun _ =>
      SessionOrchestrator.inWorld_hooks (fun r => (hBase r).hooks) hRefl
        fun w _ _ _ _ rest hPhase => h w _ rest (unexecuted_hooked hPhase)

/-- Whatever is done to the environment, a session keeps `P`, but where it calls the execution
hook. -/
theorem KeptUnexecuted.unconditional (h : KeptUnexecuted (fun _ _ => True) P) :
    SessionInvariant o.inWorld rounds plan (Satisfies fun _ => P) :=
  h.invariant (fun _ => o.preserves_true) fun _ => trivial

theorem KeptUnexecuted.maintains_beginRun (h : KeptUnexecuted (fun _ _ => True) P)
    (startAt : Option Timestamp) :
    Maintains (Satisfies fun _ => P) (beginRun o.inWorld plan startAt) :=
  (SessionOrchestrator.inWorld_begins (fun _ => o.preserves_true.begins) (fun _ => trivial)
    (fun _ _ => trivial) h.steps).maintains_beginRun startAt

/-- A run keeps `P`, if it holds once the run has begun and once its session was tried. -/
theorem KeptUnexecuted.of_tried (h : KeptUnexecuted (fun _ _ => True) P)
    {startAt : Option Timestamp} {s : SessionState (World ρ D) D}
    (hBegun : P ((beginRun o.inWorld plan startAt).exec s).2.env)
    (hTried : ∀ startedAt t, (beginRun o.inWorld plan startAt).exec s = (.ok startedAt, t) →
      P ((trySession o.inWorld rounds plan startedAt).exec t).2.env) :
    P ((run o.inWorld rounds plan startAt).exec s).2.env := by
  have hInvariant : SessionInvariant o.inWorld rounds plan (Satisfies fun _ => P) :=
    h.unconditional
  have hEnds : ∀ startedAt, Maintains (Satisfies fun _ => P)
      (conclude o.inWorld plan startedAt) :=
    (SessionOrchestrator.inWorld_ends (fun _ => o.preserves_true.ends) (fun _ => trivial)
      h.steps).maintains_conclude
  refine run_maintains (P := Satisfies fun _ => P) (Q := Satisfies fun _ => P) hBegun ?_
    (fun _ ht => ht) hEnds
  intro startedAt t hBegin
  have hEnded := hTried startedAt t hBegin
  rw [exec_tryCatch]
  generalize (trySession o.inWorld rounds plan startedAt).exec t = ended at hEnded ⊢
  rcases ended with ⟨(e | _) | _, u⟩
  · exact hInvariant.maintains_handle ignoresSwitch_satisfies startedAt e u hEnded
  · exact hEnded
  · exact hEnded

end Steps

/-- What holds of every moment of a trace, and of all that do not call the execution hook. -/
theorem traceAll_unexecuted {P : Moment ρ D → List (Moment ρ D) → Prop}
    (h : ∀ moment earlier, moment.event.executedAt = none → P moment earlier) :
    KeptUnexecuted (fun _ _ => True) fun w => TraceAll P w.trace :=
  fun _ _ rest hEvent _ hw => hw.advance (fun e hMem => h _ _ (hEvent e hMem)) rest

section Session

variable {o : SessionOrchestrator ρ D} {rounds : ℕ} {plan : SessionPlan}
  {moments : List (Moment ρ D)} {P : World ρ D → Prop} {w : World ρ D}
  {s t : SessionState (World ρ D) D}

/-! ### Before the execution -/

/-- These moments are traced in this order, and the execution hook was not called. -/
def Awaits (moments : List (Moment ρ D)) (w : World ρ D) : Prop :=
  moments.Sublist w.trace ∧ ∀ moment ∈ w.trace, moment.event.executedAt = none

theorem Awaits.traced (h : Awaits moments w) {event : SessionEvent D}
    (hEvent : event.executedAt = none) (rest : ρ) :
    Awaits (⟨event, w.time, w.rest⟩ :: moments) (w.advance (some event) rest) := by
  rw [Awaits, World.advance_some_trace]
  refine ⟨h.1.cons_cons _, fun moment hMoment => ?_⟩
  rcases List.mem_cons.mp hMoment with rfl | hOld
  · exact hEvent
  · exact h.2 moment hOld

theorem awaits_unexecuted : KeptUnexecuted (fun _ _ => True) (Awaits moments) := by
  intro w event rest hEvent _ hw
  cases event with
  | none =>
    rw [Awaits, World.advance_none_trace]
    exact hw
  | some event =>
    obtain ⟨hTraced, hNone⟩ := hw.traced (hEvent event rfl) rest
    exact ⟨(List.sublist_cons_self _ _).trans hTraced, hNone⟩

theorem awaits_invariant (o : SessionOrchestrator ρ D) (rounds : ℕ) (plan : SessionPlan)
    (moments : List (Moment ρ D)) :
    SessionInvariant o.inWorld rounds plan (Satisfies fun _ => Awaits moments) :=
  awaits_unexecuted.unconditional

/-- A preflight that returns has probed a health that passes. -/
theorem preflight_passes {phase : SessionPhase} (hs : Awaits moments s.env)
    (h : (preflight o.inWorld plan phase).exec s = (.ok (), t)) :
    ∃ moment, Moment.Passes plan moment ∧ Awaits (moment :: moments) t.env := by
  have hInvariant := fun moments => awaits_invariant o 0 plan moments
  obtain ⟨now, u, hClock, h⟩ := exec_bind_ok.mp h
  obtain ⟨_, v, hRenew, h⟩ := exec_bind_ok.mp h
  have hv : Awaits moments v.env :=
    ((hInvariant moments).renew now).of_exec hRenew ((hInvariant moments).clock.of_exec hClock hs)
  have hProbe : (ask (o.inWorld.healthProbe plan now) : Session (World ρ D) D _).exec v =
      ((o.healthProbe plan now v.env.rest).1.mapError .raised, { v with
        env := v.env.advance (World.probe (o.healthProbe plan now v.env.rest).1)
          (o.healthProbe plan now v.env.rest).2 }) :=
    exec_ask _ v
  rw [exec_bind, hProbe] at h
  rcases hHealth : o.healthProbe plan now v.env.rest with ⟨e | health, rest⟩
  · rw [hHealth] at h
    cases h
  · rw [hHealth] at h
    simp only [Except.mapError] at h
    cases hReason : healthKillReason health plan plan.policy with
    | some reason =>
      rw [hReason] at h
      cases h
    | none =>
      rw [hReason] at h
      refine ⟨⟨.probed health, v.env.time, v.env.rest⟩, ⟨health, rfl, hReason⟩, ?_⟩
      refine ((hInvariant _).maintains_recordPhase phase now none none).of_exec h ?_
      exact hv.traced rfl rest

/-- A phase that returns has called its hook, which returned. -/
theorem runPhase_calls {phase traced : SessionPhase} (hTraced : traced ≠ .execution)
    {hook : Hook ρ D} {details : HookDetails D} (hs : Awaits moments s.env)
    (h : (runPhase o.inWorld plan phase (World.hook traced hook)).exec s = (.ok details, t)) :
    ∃ (moment : Moment ρ D) (now : Timestamp) (token : ℕ),
      moment.event = .hooked traced now token (.ok details) ∧ Awaits (moment :: moments) t.env := by
  have hInvariant := fun moments => awaits_invariant o 0 plan moments
  obtain ⟨started, u, hClock, h⟩ := exec_bind_ok.mp h
  obtain ⟨_, v, hRenew, h⟩ := exec_bind_ok.mp h
  have hv : Awaits moments v.env :=
    ((hInvariant moments).renew started).of_exec hRenew
      ((hInvariant moments).clock.of_exec hClock hs)
  rw [exec_bind, exec_get] at h
  simp only at h
  cases hLease : v.lease with
  | none =>
    rw [hLease] at h
    cases h
  | some lease =>
    rw [hLease] at h
    obtain ⟨_, x, hLog, h⟩ := exec_bind_ok.mp h
    obtain ⟨-, rfl⟩ := Prod.mk.inj hLog
    obtain ⟨answer, y, hHook, h⟩ := exec_bind_ok.mp h
    obtain ⟨ended, z, hEnded, h⟩ := exec_bind_ok.mp h
    obtain ⟨_, a, hRenewed, h⟩ := exec_bind_ok.mp h
    obtain ⟨_, b, hRecord, h⟩ := exec_bind_ok.mp h
    obtain ⟨hDetails, rfl⟩ := Prod.mk.inj h
    obtain rfl := Except.ok.inj hDetails
    rw [exec_ask] at hHook
    obtain ⟨hAnswer, rfl⟩ := Prod.mk.inj hHook
    rcases hCalled : hook plan started lease.fencingToken v.env.rest with ⟨e | details, rest⟩
    · rw [World.hook, World.perform, hCalled] at hAnswer
      cases hAnswer
    · rw [World.hook, World.perform, hCalled] at hAnswer hEnded
      obtain rfl := Except.ok.inj hAnswer
      refine ⟨⟨.hooked traced started lease.fencingToken (.ok details), v.env.time, v.env.rest⟩,
        started, lease.fencingToken, rfl, ?_⟩
      refine ((hInvariant _).maintains_recordPhase _ _ _ _).of_exec hRecord ?_
      refine ((hInvariant _).renew ended).of_exec hRenewed ?_
      refine (hInvariant _).clock.of_exec hEnded ?_
      exact hv.traced (unexecuted_hooked hTraced _ rfl) rest

/-- The phases up to the evaluation, where they return its summary. -/
theorem evaluateSession_summary {summary : EvaluationPhaseSummary} (hs : Awaits [] s.env)
    (h : (evaluateSession o.inWorld rounds plan).exec s = (.ok summary, t)) :
    ∃ evaluation initial, evaluation.Evaluates summary ∧ Moment.Passes plan initial ∧
      Awaits [evaluation, initial] t.env := by
  obtain ⟨_, u, hPreflight, h⟩ := exec_bind_ok.mp h
  obtain ⟨initial, hInitial, hu⟩ := preflight_passes hs hPreflight
  have hInvariant := awaits_invariant o rounds plan [initial]
  obtain ⟨_, v, hWarmup, h⟩ := exec_bind_ok.mp h
  have hv := (hInvariant.maintains_waitAndRun .recorderWarmup _).of_exec hWarmup hu
  obtain ⟨_, x, hRecording, h⟩ := exec_bind_ok.mp h
  have hx := (hInvariant.maintains_waitAndRun .recording _).of_exec hRecording hv
  obtain ⟨_, y, hFreeze, h⟩ := exec_bind_ok.mp h
  have hy := (hInvariant.maintains_waitAndRun .featureFreeze _).of_exec hFreeze hx
  obtain ⟨details, z, hEvaluation, h⟩ := exec_bind_ok.mp h
  obtain ⟨_, a, hWait, hPhase⟩ := exec_bind_ok.mp hEvaluation
  have ha := (hInvariant.maintains_waitUntil _ _).of_exec hWait hy
  obtain ⟨evaluation, now, token, hEvent, hz⟩ := runPhase_calls (by decide) ha hPhase
  have hAfter := awaits_invariant o rounds plan [evaluation, initial]
  obtain ⟨later, b, hClock, h⟩ := exec_bind_ok.mp h
  have hb := hAfter.clock.of_exec hClock hz
  split_ifs at h
  · cases h
  · cases hSummary : evaluationPhaseSummary details.items with
    | error e =>
      rw [hSummary] at h
      cases h
    | ok found =>
      rw [hSummary] at h
      obtain ⟨hFound, rfl⟩ := Prod.mk.inj h
      obtain rfl := Except.ok.inj hFound
      exact ⟨evaluation, initial, ⟨now, token, details, hEvent, hSummary⟩, hInitial, hb⟩

/-- A wait that returns has reached its target. -/
theorem waitUntil_reaches {target : Timestamp} {turns : ℕ}
    (h : (waitUntil o.inWorld plan target turns).exec s = (.ok (), t)) : target ≤ t.env.time := by
  induction turns generalizing s with
  | zero => cases h
  | succ turns ih =>
    obtain ⟨now, u, hClock, h⟩ := exec_bind_ok.mp h
    obtain ⟨hNow, rfl⟩ := Prod.mk.inj hClock
    obtain rfl := Except.ok.inj hNow
    simp only at h
    split_ifs at h with hReached
    · obtain ⟨-, rfl⟩ := Prod.mk.inj h
      exact (le_of_elapsedSeconds hReached).trans (World.le_advance_time _ _ _)
    · obtain ⟨_, v, -, h⟩ := exec_bind_ok.mp h
      obtain ⟨_, x, -, h⟩ := exec_bind_ok.mp h
      obtain ⟨_, y, -, h⟩ := exec_bind_ok.mp h
      exact ih h

/-! ### The execution and after -/

/-- So far every call of the execution hook was entered as it should be. -/
def EnteredSoFar (plan : SessionPlan) (w : World ρ D) : Prop := TraceAll (Entered plan) w.trace

theorem entered_unexecuted :
    KeptUnexecuted (fun _ _ => True) (EnteredSoFar plan : World ρ D → Prop) := by
  refine traceAll_unexecuted fun moment earlier hNone now hNow => ?_
  rw [hNone] at hNow
  cases hNow

theorem Awaits.enteredSoFar (hw : Awaits moments w) : EnteredSoFar plan w := by
  refine traceAll_iff.mpr fun later moment earlier hSplit now hNow => ?_
  have hMoment : moment ∈ w.trace := by
    rw [hSplit]
    exact List.mem_append_right _ (List.mem_cons_self ..)
  rw [hw.2 moment hMoment] at hNow
  cases hNow

/-- Ready to execute: prepared, with these readings of the clock. -/
def Ready (moments : List (Moment ρ D)) (readings : List Timestamp) (w : World ρ D) : Prop :=
  Awaits moments w ∧ clockReadings w.trace = readings

theorem Ready.grant {readings : List Timestamp} (hw : Ready moments readings w)
    (answer : Except Exc (Option LeadershipLease)) (rest : ρ) :
    Ready moments readings (w.advance (World.grant answer) rest) := by
  refine ⟨awaits_unexecuted w _ rest (unexecuted_grant answer) trivial hw.1, ?_⟩
  rcases answer with _ | _ | lease
  · exact (congrArg clockReadings (World.advance_none_trace w rest)).trans hw.2
  · exact (congrArg clockReadings (World.advance_none_trace w rest)).trans hw.2
  · exact (congrArg clockReadings (World.advance_some_trace w _ rest)).trans hw.2

theorem runPhase_enters {lock evaluation initial : Moment ρ D} {check : Timestamp}
    {rest : List Timestamp} (hLock : Moment.Passes plan lock) (hEvaluation : evaluation.Approves)
    (hInitial : Moment.Passes plan initial)
    (hs : Ready [lock, evaluation, initial] (check :: rest) s.env)
    (hOpen : plan.regularSessionOpenAt ≤ s.env.time) (hCheck : check ≤ plan.newEntryCutoffAt) :
    EnteredSoFar plan
      ((runPhase o.inWorld plan .execution o.inWorld.hooks.sizeAndExecute).exec s).2.env := by
  have hEntered : SessionInvariant o.inWorld 0 plan (Satisfies fun _ => EnteredSoFar plan) :=
    entered_unexecuted.unconditional
  have hRenew : ∀ readings now, Maintains
      (Satisfies fun _ => Ready [lock, evaluation, initial] readings)
      (renewLeadership o.inWorld plan now) := by
    intro readings now
    refine maintains_renewLeadership ?_ (fun _ _ _ _ hw => hw) now
    intro _ lease now ttlSeconds w hw
    exact hw.grant _ _
  have hRead : Ready [lock, evaluation, initial] (s.env.time :: check :: rest)
      (s.env.advance (some .clockRead) s.env.rest) := by
    refine ⟨awaits_unexecuted _ _ _ (unexecuted_of_routine trivial) trivial hs.1, ?_⟩
    rw [World.advance_some_trace]
    exact congrArg (s.env.time :: ·) hs.2
  rw [runPhase, exec_bind, exec_clock_inWorld]
  simp only
  have hRenewed := hRenew (s.env.time :: check :: rest) s.env.time
    { s with env := s.env.advance (some .clockRead) s.env.rest } hRead
  refine bind_maintains (P := Satisfies fun _ => EnteredSoFar plan) hRenewed.1.enteredSoFar ?_
  intro _ u hExec hu
  rw [hExec] at hRenewed
  rw [exec_bind, exec_get]
  simp only
  cases u.lease with
  | none => exact hu
  | some lease =>
    -- The hook is given the reading before the renewal.
    refine bind_maintains (P := Satisfies fun _ => EnteredSoFar plan) hu ?_
    intro _ v hLog _
    obtain ⟨-, rfl⟩ := Prod.mk.inj hLog
    have hHooked : EnteredSoFar plan
        (o.inWorld.hooks.sizeAndExecute plan s.env.time lease.fencingToken u.env).2 := by
      show TraceAll _ (World.advance _ _ _).trace
      rw [World.advance_some_trace]
      refine ⟨fun now hNow => ?_, hu⟩
      obtain rfl := Option.some.inj hNow
      exact ⟨hOpen, ⟨lock, evaluation, initial, hRenewed.1.1, hLock, hEvaluation, hInitial⟩,
        check, rest, hRenewed.2, hCheck⟩
    refine bind_maintains (P := Satisfies fun _ => EnteredSoFar plan) ?_ ?_
    · rw [exec_ask]
      exact hHooked
    · intro details x _ hx
      refine Maintains.bind hEntered.clock (fun ended => ?_) x hx
      refine .bind (hEntered.renew ended) fun _ => ?_
      exact .bind (hEntered.maintains_recordPhase _ _ _ _) fun _ => .pure details

/-- A part that does not execute is followed by one that enters as it should. -/
theorem bind_enters {α β : Type} {p : Session (World ρ D) D α}
    {f : α → Session (World ρ D) D β} (hp : Maintains (Satisfies fun _ => Awaits moments) p)
    (hs : Awaits moments s.env)
    (hf : ∀ a t, p.exec s = (.ok a, t) → Awaits moments t.env →
      EnteredSoFar plan ((f a).exec t).2.env) :
    EnteredSoFar plan ((p >>= f).exec s).2.env := by
  have ht : Awaits moments (p.exec s).2.env := hp s hs
  refine bind_maintains (P := Satisfies fun _ => EnteredSoFar plan) ht.enteredSoFar ?_
  intro a t hExec _
  rw [hExec] at ht
  exact hf a t hExec ht

/-- What passes the check of the cutoff was read before it. -/
theorem checkEntryCutoff_ok (h : (checkEntryCutoff o.inWorld plan).exec s = (.ok (), t)) :
    s.env.time ≤ plan.newEntryCutoffAt ∧
      t = { s with env := s.env.advance (some .clockRead) s.env.rest } := by
  rw [checkEntryCutoff, exec_bind, exec_clock_inWorld] at h
  simp only at h
  split_ifs at h with hPassed
  · cases h
  · obtain ⟨-, rfl⟩ := Prod.mk.inj h
    exact ⟨not_lt.mp hPassed, rfl⟩

theorem trade_enters {evaluation initial : Moment ρ D} (hEvaluation : evaluation.Approves)
    (hInitial : Moment.Passes plan initial) (hs : Awaits [evaluation, initial] s.env) :
    EnteredSoFar plan ((trade o.inWorld rounds plan).exec s).2.env := by
  have hEntered : SessionInvariant o.inWorld rounds plan (Satisfies fun _ => EnteredSoFar plan) :=
    entered_unexecuted.unconditional
  have hBefore := awaits_invariant o rounds plan [evaluation, initial]
  refine bind_enters (hBefore.maintains_waitUntil _ _) hs fun _ u _ hu => ?_
  refine bind_enters (hBefore.maintains_preflight _) hu fun _ v hPreflight _ => ?_
  obtain ⟨lock, hLock, hv⟩ := preflight_passes hu hPreflight
  have hAfter := awaits_invariant o rounds plan [lock, evaluation, initial]
  refine bind_enters (hAfter.maintains_waitUntil _ _) hv fun _ x hWait hx => ?_
  have hOpen := waitUntil_reaches hWait
  refine bind_enters hAfter.maintains_checkEntryCutoff hx fun _ y hChecked hy => ?_
  obtain ⟨hCheck, rfl⟩ := checkEntryCutoff_ok hChecked
  have hReady : Ready [lock, evaluation, initial] (x.env.time :: clockReadings x.env.trace)
      (x.env.advance (some .clockRead) x.env.rest) := by
    refine ⟨hy, ?_⟩
    rw [World.advance_some_trace]
    rfl
  have hLater : plan.regularSessionOpenAt ≤
      (x.env.advance (some .clockRead) x.env.rest).time :=
    hOpen.trans (World.le_advance_time _ _ _)
  exact bind_maintains (P := Satisfies fun _ => EnteredSoFar plan)
    (runPhase_enters hLock hEvaluation hInitial hReady hLater hCheck)
    fun execution z _ hz => hEntered.maintains_afterExecution execution z hz

theorem trySession_enters {startedAt : Timestamp} (hs : Awaits [] s.env) :
    EnteredSoFar plan ((trySession o.inWorld rounds plan startedAt).exec s).2.env := by
  have hEntered : SessionInvariant o.inWorld rounds plan (Satisfies fun _ => EnteredSoFar plan) :=
    entered_unexecuted.unconditional
  have hBefore := awaits_invariant o rounds plan []
  have hTaken : Maintains (Satisfies fun _ => Awaits [])
      (takeLeadership o.inWorld plan startedAt) :=
    KeptUnexecuted.maintains_takeLeadership (R := fun _ => Awaits [])
      (fun _ => awaits_unexecuted) (fun _ => o.preserves_true) (fun _ => trivial) startedAt
  refine bind_enters hTaken hs fun _ u _ hu => ?_
  refine bind_enters hBefore.maintains_evaluateSession hu fun summary v hEvaluated _ => ?_
  obtain ⟨evaluation, initial, hSummary, hInitial, hv⟩ := evaluateSession_summary hu hEvaluated
  refine bind_maintains (P := Satisfies fun _ => EnteredSoFar plan) ?_ fun _ x _ hx =>
    hEntered.maintains_closeSession ignoresSwitch_satisfies x hx
  unfold actOn
  split_ifs with hBlocked hNone
  · exact hv.enteredSoFar
  · exact hv.enteredSoFar
  · refine trade_enters ⟨summary, hSummary, ?_, ?_⟩ hInitial hv
    · exact summary.coherent.mpr fun hZero => hNone (.inr hZero)
    · have hBounded := summary.bounded.1
      have hSome : summary.approvedCount ≠ 0 := fun hZero => hNone (.inr hZero)
      omega

theorem run_enters {startAt : Option Timestamp} (hs : s.env.trace = []) :
    EnteredSoFar plan ((run o.inWorld rounds plan startAt).exec s).2.env := by
  have hStart : Awaits [] s.env := by
    rw [Awaits, hs]
    exact ⟨List.Sublist.refl [], fun _ h => absurd h List.not_mem_nil⟩
  have hBegun : Awaits [] ((beginRun o.inWorld plan startAt).exec s).2.env :=
    awaits_unexecuted.maintains_beginRun startAt s hStart
  refine entered_unexecuted.of_tried hBegun.enteredSoFar fun startedAt t hBegin => ?_
  rw [hBegin] at hBegun
  exact trySession_enters hBegun

end Session

/-! ### The entry window -/

/-- In every run, under every clock and whatever hooks and probes answer: each call of the
execution hook is in the entry window, after both preflights and an approval, exactly when
for none of them the clock passes the cutoff between the reading that is checked and the
next one, which the hook is given. -/
theorem entry_window_iff (o : SessionOrchestrator ρ D) (rounds : ℕ) (plan : SessionPlan)
    (startAt : Option Timestamp) (s : SessionState (World ρ D) D) (hStart : s.env.trace = []) :
    let trace := ((run o.inWorld rounds plan startAt).exec s).2.env.trace
    TraceAll (InWindow plan) trace ↔
      TraceAll (fun moment earlier =>
        ∀ _now ∈ moment.event.executedAt, ¬ CutoffOvertaken plan earlier) trace :=
  (run_enters hStart).congr fun _ _ hEntered => hEntered.inWindow_iff

/-- The trace of a trading session, with the time that passes after each step. -/
def tradingTrace (elapsed : List ℕ) : List (Moment Unit Decimal) :=
  let w : World Unit Decimal := ⟨(), 2, idle elapsed, []⟩
  ((run tradingSession.inWorld 1 samplePlan none).exec (startedIn w)).2.env.trace

/-- The market opens once the evaluation is done, and stays open. -/
def untilOpen : List ℕ := List.replicate 34 0 ++ [4]

theorem open_execution : TraceAll (InWindow samplePlan) (tradingTrace untilOpen) :=
  (entry_window_iff tradingSession 1 samplePlan none (startedIn ⟨(), 2, idle untilOpen, []⟩)
    rfl).mpr (by decide +kernel)

/-- The cutoff is checked in its last moment, and the hook is called a moment later. -/
theorem late_execution :
    ¬ TraceAll (InWindow samplePlan) (tradingTrace (untilOpen ++ List.replicate 6 0 ++ [1])) := by
  intro h
  have hLate : ∃ moment ∈ tradingTrace (untilOpen ++ List.replicate 6 0 ++ [1]),
      ∃ now ∈ moment.event.executedAt, samplePlan.newEntryCutoffAt < now := by
    decide +kernel
  obtain ⟨moment, hMoment, now, hNow, hPassed⟩ := hLate
  obtain ⟨earlier, hWindow⟩ := h.of_mem hMoment
  exact absurd (hWindow now hNow).2.1 (not_le.mpr hPassed)

end Daybreak.Orchestration
