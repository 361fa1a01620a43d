import Daybreak.Orchestration.Exclusion
import Daybreak.Orchestration.World

/-! Fencing of a session by its lease. The leases are in memory, and other holders make
their calls between any two steps. A hook is given the token of a lease that had not run
out at the time it is given; a flatten run asks for no lease, so what it does is fenced
only until the last lease runs out. -/

namespace Daybreak.Orchestration

open Numeric Effect Program MemoryLeadershipRepository

variable {ρ D : Type} [DecimalArithmetic D]

/-! ### Leases in memory, and rivals -/

def SessionOrchestrator.withLeadership (o : SessionOrchestrator ρ D) :
    SessionOrchestrator (ρ × MemoryLeadershipRepository) D :=
  let beside := o.beside MemoryLeadershipRepository
  { beside with
    leadership := {
      acquire := fun sessionId holderId now ttlSeconds =>
        onStore (MemoryLeadershipRepository.acquire sessionId holderId now ttlSeconds)
      renew := fun lease now ttlSeconds =>
        onStore (MemoryLeadershipRepository.renew lease now ttlSeconds)
      release := fun lease now => onStore (MemoryLeadershipRepository.release lease now) } }

/-- Who makes the call. -/
def LeadershipCall.holder : LeadershipCall → String
  | .acquire _ holderId _ _ => holderId
  | .renew lease _ _ => lease.holderId
  | .release lease _ => lease.holderId

/-- The repository after these calls. -/
def performAll (calls : List LeadershipCall) (r : MemoryLeadershipRepository) :
    MemoryLeadershipRepository :=
  calls.foldl (fun r call => ((repository.perform call).exec r).2) r

/-- Only other holders call the repository, with times that have been reached. -/
def RivalsAct (holderId : String)
    (effect : Timestamp → ρ × MemoryLeadershipRepository → ρ × MemoryLeadershipRepository) : Prop :=
  ∀ time env, ∃ calls : List LeadershipCall,
    (∀ call ∈ calls, call.holder ≠ holderId ∧ call.now ≤ time) ∧
      (effect time env).2 = performAll calls env.2

section Rivals

variable {r r' : MemoryLeadershipRepository} {call : LeadershipCall}
  {answer : Except Exc (Option LeadershipLease)} {holderId sessionId : String}
  {last : Option LeadershipLease} {time : Timestamp}

/-- What a call by another holder does to the lease of a session: nothing, or it is one that
had run out or is no lease of the holder, and is none after. -/
theorem rival_lookup (hHolder : call.holder ≠ holderId) (hAnswers : r.Answers call answer r')
    (sessionId : String) :
    r'.leases.lookup sessionId = r.leases.lookup sessionId ∨
      (∀ lease ∈ r'.leases.lookup sessionId, lease.holderId ≠ holderId) ∧
        ∀ lease ∈ r.leases.lookup sessionId, lease.holderId = holderId →
          lease.expiresAt ≤ call.now := by
  cases hAnswers with
  | denied => exact .inl rfl
  | invalid => exact .inl rfl
  | stale => exact .inl rfl
  | expired => exact .inl rfl
  | unknown => exact .inl rfl
  | granted hFree hValid events =>
    simp only [Dict.lookup_insert_eq]
    split_ifs with hSession
    · subst hSession
      refine .inr ⟨?_, ?_⟩
      · intro lease hLease
        obtain rfl := Option.some.inj hLease
        exact hHolder
      · intro lease hLease _
        exact not_lt.mp fun hUnexpired => hFree (Held.of_lookup hLease hUnexpired)
    · exact .inl rfl
  | renewed hCurrent hUnexpired events =>
    obtain ⟨hLookup, hSame, -⟩ := current_eq_some.mp hCurrent
    simp only [Dict.lookup_insert_eq]
    split_ifs with hSession
    · subst hSession
      refine .inr ⟨?_, ?_⟩
      · intro lease hLease
        obtain rfl := Option.some.inj hLease
        exact fun hOurs => hHolder (hSame.symm.trans hOurs)
      · intro lease hLease hOurs
        rw [hLookup] at hLease
        obtain rfl := Option.some.inj hLease
        exact absurd (hSame.symm.trans hOurs) hHolder
    · exact .inl rfl
  | @released lease stored now hCurrent events =>
    obtain ⟨hLookup, hSame, -⟩ := current_eq_some.mp hCurrent
    by_cases hSession : sessionId = lease.sessionId
    · subst hSession
      refine .inr ⟨?_, ?_⟩
      · intro lease hLease
        rw [AList.lookup_erase] at hLease
        cases hLease
      intro lease hLease hOurs
      rw [hLookup] at hLease
      obtain rfl := Option.some.inj hLease
      exact absurd (hSame.symm.trans hOurs) hHolder
    · exact .inl (AList.lookup_erase_ne hSession)

/-- A holder that a lease can name. -/
def HolderBounded (holderId : String) : Prop := 1 ≤ holderId.length ∧ holderId.length ≤ 128

/-- Every lease that is stored names its holder. -/
def Bounded (r : MemoryLeadershipRepository) : Prop :=
  ∀ sessionId, ∀ lease ∈ r.leases.lookup sessionId, HolderBounded lease.holderId

theorem performed_answers (call : LeadershipCall) (r : MemoryLeadershipRepository) :
    r.Answers call ((repository.perform call).exec r).1 ((repository.perform call).exec r).2 :=
  perform_answers rfl

theorem Bounded.answers (h : Bounded r) (hAnswers : r.Answers call answer r') : Bounded r' := by
  intro sessionId lease hLease
  cases hAnswers with
  | denied => exact h _ _ hLease
  | invalid => exact h _ _ hLease
  | stale => exact h _ _ hLease
  | expired => exact h _ _ hLease
  | unknown => exact h _ _ hLease
  | granted hFree hValid events =>
    rw [Dict.lookup_insert_eq] at hLease
    split_ifs at hLease
    · obtain rfl := Option.some.inj hLease
      exact hValid.1.1
    · exact h _ _ hLease
  | renewed hCurrent hUnexpired events =>
    rw [Dict.lookup_insert_eq] at hLease
    split_ifs at hLease
    · obtain rfl := Option.some.inj hLease
      have hStored := h _ _ (current_eq_some.mp hCurrent).1
      exact hStored
    · exact h _ _ hLease
  | @released old _ _ hCurrent events =>
    by_cases hSession : sessionId = old.sessionId
    · subst hSession
      rw [AList.lookup_erase] at hLease
      cases hLease
    · rw [AList.lookup_erase_ne hSession] at hLease
      exact h _ _ hLease

theorem bounded {records : List LeadershipRecord} (h : LeadershipHistory records r) :
    Bounded r := by
  induction h with
  | start =>
    intro sessionId lease hLease
    cases hLease
  | call _ call hExec ih => exact ih.answers (perform_answers hExec)
  | elapse _ hElapsed _ => exact hElapsed.elim

/-- The last lease that was granted to the holder, if there is one, is stored until it runs
out, and no other lease of the holder is. -/
structure Leads (holderId sessionId : String) (last : Option LeadershipLease) (time : Timestamp)
    (r : MemoryLeadershipRepository) : Prop where
  bounded : Bounded r
  owned : ∀ lease ∈ last, lease.sessionId = sessionId ∧ lease.holderId = holderId
  stored : ∀ lease ∈ last, lease.Unexpired time → r.leases.lookup sessionId = some lease
  only : ∀ lease ∈ last, ∀ other ∈ r.leases.lookup sessionId, other.holderId = holderId →
    other = lease

theorem Leads.later (h : Leads holderId sessionId last time r) {later : Timestamp}
    (hLater : time ≤ later) : Leads holderId sessionId last later r where
  bounded := h.bounded
  owned := h.owned
  stored lease hLease hUnexpired := h.stored lease hLease (hLater.trans_lt hUnexpired)
  only := h.only

theorem Leads.same (h : Leads holderId sessionId last time r) (hLeases : r'.leases = r.leases) :
    Leads holderId sessionId last time r' := by
  refine ⟨?_, h.owned, ?_, ?_⟩
  · unfold Bounded
    rw [hLeases]
    exact h.bounded
  · rw [hLeases]
    exact h.stored
  · rw [hLeases]
    exact h.only

theorem Leads.rival (h : Leads holderId sessionId last time r) (hHolder : call.holder ≠ holderId)
    (hNow : call.now ≤ time) (hAnswers : r.Answers call answer r') :
    Leads holderId sessionId last time r' := by
  have hBounded := h.bounded.answers hAnswers
  rcases rival_lookup hHolder hAnswers sessionId with hSame | ⟨hOthers, hEnded⟩
  · refine ⟨hBounded, h.owned, ?_, ?_⟩
    · rw [hSame]
      exact h.stored
    · rw [hSame]
      exact h.only
  · refine ⟨hBounded, h.owned, fun lease hLease hUnexpired => ?_, fun _ _ other hOther hOurs => ?_⟩
    · have hExpired := hEnded lease (h.stored lease hLease hUnexpired) (h.owned lease hLease).2
      exact absurd hUnexpired (not_lt.mpr (hExpired.trans hNow))
    · exact absurd hOurs (hOthers other hOther)

theorem Leads.rivals (h : Leads holderId sessionId last time r) {calls : List LeadershipCall}
    (hCalls : ∀ call ∈ calls, call.holder ≠ holderId ∧ call.now ≤ time) :
    Leads holderId sessionId last time (performAll calls r) := by
  induction calls generalizing r with
  | nil => exact h
  | cons call calls ih =>
    obtain ⟨hHolder, hNow⟩ := hCalls call (List.mem_cons_self ..)
    refine ih (h.rival hHolder hNow (perform_answers rfl)) fun later hLater => ?_
    exact hCalls later (List.mem_cons_of_mem _ hLater)

/-- Where a lease was granted, or can never be, the lease of the holder is stored unexpired
exactly as long as the last one that was granted has not run out. -/
theorem Leads.unexpired_iff (h : Leads holderId sessionId last time r)
    (hLast : last = none → ¬ HolderBounded holderId) :
    (∃ lease ∈ r.leases.lookup sessionId, lease.holderId = holderId ∧ lease.Unexpired time) ↔
      ∃ lease ∈ last, lease.Unexpired time := by
  constructor
  · rintro ⟨lease, hLease, hOurs, hUnexpired⟩
    cases last with
    | none =>
      have hBounded := h.bounded sessionId lease hLease
      rw [hOurs] at hBounded
      exact absurd hBounded (hLast rfl)
    | some last =>
      obtain rfl := h.only last rfl lease hLease hOurs
      exact ⟨lease, rfl, hUnexpired⟩
  · rintro ⟨lease, hLease, hUnexpired⟩
    exact ⟨lease, h.stored lease hLease hUnexpired, (h.owned lease hLease).2, hUnexpired⟩

/-- A lease of the holder that it renews is the last that was granted. -/
theorem Leads.renewed {last stored : LeadershipLease} {now : Timestamp} {ttlSeconds : ℕ}
    {events : List LeadershipEvent} (h : Leads holderId sessionId (some last) time r)
    (hCurrent : r.current last = some stored) (hUnexpired : stored.Unexpired now) :
    Leads holderId sessionId (some (renewed stored now ttlSeconds)) time
      ⟨r.leases.insert last.sessionId (renewed stored now ttlSeconds), events, r.token⟩ := by
  have hAnswers : r.Answers (.renew last now ttlSeconds) _ ⟨_, events, r.token⟩ :=
    .renewed hCurrent hUnexpired events
  have hBounded := h.bounded.answers hAnswers
  obtain ⟨hLookup, hHolder, -⟩ := current_eq_some.mp hCurrent
  obtain ⟨hSession, hOurs⟩ := h.owned last rfl
  rw [hSession] at hLookup
  obtain rfl := h.only last rfl stored hLookup (hHolder.trans hOurs)
  refine ⟨hBounded, ?_, ?_, ?_⟩
  · intro lease hLease
    obtain rfl := Option.some.inj hLease
    exact ⟨hSession, hOurs⟩
  · intro lease hLease _
    obtain rfl := Option.some.inj hLease
    rw [← hSession]
    exact AList.lookup_insert _
  · intro lease hLease other hOther _
    obtain rfl := Option.some.inj hLease
    rw [← hSession, AList.lookup_insert] at hOther
    exact (Option.some.inj hOther).symm

/-- A lease that the holder acquires is the last that was granted. -/
theorem Leads.acquired {now : Timestamp} {ttlSeconds : ℕ} {events : List LeadershipEvent}
    (h : Leads holderId sessionId last time r) (hFree : ¬ r.Held sessionId now)
    (hValid : (r.grant sessionId holderId now ttlSeconds).Valid) :
    Leads holderId sessionId (some (r.grant sessionId holderId now ttlSeconds)) time
      ⟨r.leases.insert sessionId (r.grant sessionId holderId now ttlSeconds), events,
        r.token + 1⟩ := by
  refine ⟨h.bounded.answers (.granted hFree hValid events), ?_, ?_, ?_⟩
  · intro lease hLease
    obtain rfl := Option.some.inj hLease
    exact ⟨rfl, rfl⟩
  · intro lease hLease _
    obtain rfl := Option.some.inj hLease
    exact AList.lookup_insert _
  · intro lease hLease other hOther _
    obtain rfl := Option.some.inj hLease
    rw [AList.lookup_insert] at hOther
    exact (Option.some.inj hOther).symm

end Rivals

/-! ### What is traced -/

/-- The lease that is granted. -/
def SessionEvent.grantedLease : SessionEvent D → Option LeadershipLease
  | .granted lease => some lease
  | _ => none

/-- The last lease that was granted. -/
def lastGranted (trace : List (Moment ρ D)) : Option LeadershipLease :=
  trace.findSome? fun moment => moment.event.grantedLease

abbrev LeaseMoment (ρ D : Type) [DecimalArithmetic D] :=
  Moment (ρ × MemoryLeadershipRepository) D

/-- The lease of the holder for the session is stored and has not run out. -/
def Leased (holderId sessionId : String) (moment : LeaseMoment ρ D) : Prop :=
  ∃ lease ∈ moment.env.2.leases.lookup sessionId,
    lease.holderId = holderId ∧ lease.Unexpired moment.time

/-- A hook is given the token of the last lease that was granted, which has not run out at the
time that it is given, and which is stored if the clock has not passed its end since. -/
def HookFenced (holderId sessionId : String) (moment : LeaseMoment ρ D)
    (earlier : List (LeaseMoment ρ D)) : Prop :=
  match moment.event with
  | .hooked _ now fencingToken _ => ∃ lease ∈ lastGranted earlier,
      (lease.sessionId = sessionId ∧ lease.holderId = holderId) ∧
        lease.fencingToken = fencingToken ∧ lease.Unexpired now ∧
        (lease.Unexpired moment.time → moment.env.2.leases.lookup sessionId = some lease)
  | _ => True

/-- A cancel or a close happens while the lease of the holder is unexpired. -/
def FlattenFenced (holderId sessionId : String) (moment : LeaseMoment ρ D)
    (_earlier : List (LeaseMoment ρ D)) : Prop :=
  match moment.event with
  | .mutated => Leased holderId sessionId moment
  | _ => True

instance (holderId sessionId : String) (moment : LeaseMoment ρ D)
    (earlier : List (LeaseMoment ρ D)) :
    Decidable (FlattenFenced holderId sessionId moment earlier) := by
  unfold FlattenFenced Leased; split <;> infer_instance

/-- A cancel or a close happens before the end of the last lease that was granted. -/
def BeforeExpiry (moment : Moment ρ D) (earlier : List (Moment ρ D)) : Prop :=
  match moment.event with
  | .mutated => ∃ lease ∈ lastGranted earlier, lease.Unexpired moment.time
  | _ => True

/-- What holds of every moment of a run. -/
def Fenced (holderId sessionId : String) (moment : LeaseMoment ρ D)
    (earlier : List (LeaseMoment ρ D)) : Prop :=
  HookFenced holderId sessionId moment earlier ∧
    (FlattenFenced holderId sessionId moment earlier ↔ BeforeExpiry moment earlier)

/-- What the last lease says of the repository, while other holders act. -/
structure Leading (holderId sessionId : String) (last : Option LeadershipLease)
    (w : World (ρ × MemoryLeadershipRepository) D) : Prop where
  granted : lastGranted w.trace = last
  leads : Leads holderId sessionId last w.time w.rest.2
  rivals : ∀ passage ∈ w.script, RivalsAct holderId passage.effect
  fenced : TraceAll (Fenced holderId sessionId) w.trace

section Leading

variable {holderId sessionId : String} {last : Option LeadershipLease} {lease : LeadershipLease}
  {w : World (ρ × MemoryLeadershipRepository) D} {rest : ρ × MemoryLeadershipRepository}
  {event : SessionEvent D}

theorem Leading.pass (h : Leading holderId sessionId last w) :
    Leading holderId sessionId last w.pass := by
  have hRivals := h.rivals
  refine ⟨?_, ?_, ?_, ?_⟩
  · rw [World.pass_trace]
    exact h.granted
  · unfold World.pass
    split
    · exact h.leads
    · next passage script hScript =>
      rw [hScript] at hRivals
      obtain ⟨calls, hCalls, hEffect⟩ := hRivals passage (List.mem_cons_self ..)
        (w.time + passage.elapsed) w.rest
      simp only [hEffect]
      exact (h.leads.later (le_add_of_nonneg_right (Int.natCast_nonneg _))).rivals hCalls
  · unfold World.pass
    split
    · exact hRivals
    · next passage script hScript =>
      rw [hScript] at hRivals
      exact fun later hLater => hRivals later (List.mem_cons_of_mem _ hLater)
  · rw [World.pass_trace]
    exact h.fenced

/-- A step that grants nothing and leaves the leases. -/
theorem Leading.advance (h : Leading holderId sessionId last w)
    (hRest : rest.2.leases = w.rest.2.leases) (hGranted : event.grantedLease = none)
    (hFenced : Fenced holderId sessionId ⟨event, w.time, w.rest⟩ w.trace) :
    Leading holderId sessionId last (w.advance (some event) rest) := by
  apply Leading.pass
  refine ⟨?_, ?_, h.rivals, hFenced, h.fenced⟩
  · show (List.findSome? _ (_ :: w.trace)) = last
    rw [List.findSome?_cons_of_isNone (by rw [hGranted]; rfl)]
    exact h.granted
  · exact h.leads.same hRest

theorem Leading.quiet (h : Leading holderId sessionId last w)
    (hRest : rest.2.leases = w.rest.2.leases) :
    Leading holderId sessionId last (w.advance none rest) := by
  apply Leading.pass
  exact ⟨h.granted, h.leads.same hRest, h.rivals, h.fenced⟩

/-- A step that grants the next lease. -/
theorem Leading.grant (h : Leading holderId sessionId last w)
    (hLeads : Leads holderId sessionId (some lease) w.time rest.2) :
    Leading holderId sessionId (some lease) (w.advance (some (.granted lease)) rest) := by
  apply Leading.pass
  exact ⟨rfl, hLeads, h.rivals, ⟨trivial, Iff.rfl⟩, h.fenced⟩

theorem Leading.hook (h : Leading holderId sessionId (some lease) w)
    (hRest : rest.2.leases = w.rest.2.leases) {now : Timestamp}
    (hUnexpired : lease.Unexpired now) (phase : SessionPhase)
    (answer : Except Exc (HookDetails D)) :
    Leading holderId sessionId (some lease)
      (w.advance (some (.hooked phase now lease.fencingToken answer)) rest) := by
  refine h.advance hRest rfl ⟨?_, Iff.rfl⟩
  exact ⟨lease, h.granted, h.leads.owned lease rfl, rfl, hUnexpired, h.leads.stored lease rfl⟩

theorem Leading.mutate (h : Leading holderId sessionId last w)
    (hRest : rest.2.leases = w.rest.2.leases) (hLast : last = none → ¬ HolderBounded holderId) :
    Leading holderId sessionId last (w.advance (some .mutated) rest) := by
  refine h.advance hRest rfl ⟨trivial, ?_⟩
  simp only [FlattenFenced, BeforeExpiry, h.granted]
  exact h.leads.unexpired_iff hLast

/-- The leases stay as they are. -/
def SameLeases (env env' : ρ × MemoryLeadershipRepository) : Prop :=
  env'.2.leases = env.2.leases

theorem leading_steps :
    StepsKeep SameLeases (Leading holderId sessionId last :
      World (ρ × MemoryLeadershipRepository) D → Prop) := by
  intro w event rest hRoutine hRest h
  cases event with
  | none => exact h.quiet hRest
  | some event =>
    cases event with
    | granted _ => exact hRoutine.elim
    | hooked _ _ _ _ => exact hRoutine.elim
    | mutated => exact hRoutine.elim
    | _ => exact h.advance hRest rfl ⟨trivial, Iff.rfl⟩

end Leading

/-! ### The session -/

/-- The session holds the last lease that was granted, with the time of its renewal. -/
def Led (holderId : String) (plan : SessionPlan) (held : Held)
    (w : World (ρ × MemoryLeadershipRepository) D) : Prop :=
  ∃ lease last, held.lease = some lease ∧ held.lastRenewedAt = some last ∧
    lease.expiresAt = last + timedelta plan.policy.leadershipTtlSeconds ∧
    Leading holderId plan.sessionId (some lease) w

/-- A lease was granted, or none can be. -/
def Lone (holderId sessionId : String) (w : World (ρ × MemoryLeadershipRepository) D) : Prop :=
  ∃ last, (last = none → ¬ HolderBounded holderId) ∧ Leading holderId sessionId last w

theorem Led.lone {holderId : String} {plan : SessionPlan} {held : Held}
    {w : World (ρ × MemoryLeadershipRepository) D} (h : Led holderId plan held w) :
    Lone holderId plan.sessionId w := by
  obtain ⟨lease, _, -, -, -, hLeading⟩ := h
  exact ⟨some lease, fun hNone => (Option.some_ne_none _ hNone).elim, hLeading⟩

section Session

variable {o : SessionOrchestrator ρ D} {rounds : ℕ} {plan : SessionPlan} {now : Timestamp}
  {s : SessionState (World (ρ × MemoryLeadershipRepository) D) D}

theorem withLeadership_keeps (o : SessionOrchestrator ρ D) (env : ρ × MemoryLeadershipRepository) :
    o.withLeadership.Keeps (SameLeases env) :=
  { (o.beside_preserves fun r : MemoryLeadershipRepository => r.leases = env.2.leases).keeps with }

theorem led_keeps (held : Held) :
    o.withLeadership.inWorld.Keeps (Led o.holderId plan held) := by
  refine SessionOrchestrator.inWorld_keeps (withLeadership_keeps o) (fun _ => rfl) ?_ ?_
  · rintro w event rest hRoutine hRest ⟨lease, last, hLease, hLast, hEnd, hLeading⟩
    exact ⟨lease, last, hLease, hLast, hEnd, leading_steps w event rest hRoutine hRest hLeading⟩
  · rintro w rest hRest ⟨lease, last, hLease, hLast, hEnd, hLeading⟩
    refine ⟨lease, last, hLease, hLast, hEnd, hLeading.mutate hRest ?_⟩
    exact fun hNone => (Option.some_ne_none _ hNone).elim

theorem lone_keeps : o.withLeadership.inWorld.Keeps (Lone o.holderId plan.sessionId) := by
  refine SessionOrchestrator.inWorld_keeps (withLeadership_keeps o) (fun _ => rfl) ?_ ?_
  · rintro w event rest hRoutine hRest ⟨last, hLast, hLeading⟩
    exact ⟨last, hLast, leading_steps w event rest hRoutine hRest hLeading⟩
  · rintro w rest hRest ⟨last, hLast, hLeading⟩
    exact ⟨last, hLast, hLeading.mutate hRest hLast⟩

theorem led_handler : HandlerInvariant o.withLeadership.inWorld rounds plan
    (Satisfies (Led o.holderId plan)) :=
  SessionOrchestrator.Keeps.handlerInvariant led_keeps

/-- A lease that was renewed less than the interval ago has not run out. -/
theorem unexpired_of_recent {lease : LeadershipLease} {last : Timestamp}
    (hEnd : lease.expiresAt = last + timedelta plan.policy.leadershipTtlSeconds)
    (hRecent : recentlyRenewed plan (some last) now = true) : lease.Unexpired now := by
  have hPolicy := plan.valid.1.2.2
  have hInterval := hPolicy.1.2.1
  have hShorter := hPolicy.2
  have hElapsed := sub_lt_of_elapsedSeconds (by omega) (of_decide_eq_true hRecent)
  rw [LeadershipLease.Unexpired, hEnd, timedelta_natCast]
  have hScaled : (plan.policy.leadershipRenewIntervalSeconds : ℤ) * 1000000 <
      plan.policy.leadershipTtlSeconds * 1000000 := by omega
  exact sub_lt_iff_lt_add'.mp (hElapsed.trans hScaled)

theorem exec_acquire (sessionId holderId : String) (now : Timestamp) (ttlSeconds : ℕ) :
    (ask (o.withLeadership.inWorld.leadership.acquire sessionId holderId now ttlSeconds)).exec s =
      let done := MemoryLeadershipRepository.acquire sessionId holderId now ttlSeconds s.env.rest.2
      (done.1.mapError .raised,
        { s with env := s.env.advance (World.grant done.1) (s.env.rest.1, done.2) }) :=
  exec_ask _ s

theorem exec_renew (lease : LeadershipLease) (now : Timestamp) (ttlSeconds : ℕ) :
    (ask (o.withLeadership.inWorld.leadership.renew lease now ttlSeconds)).exec s =
      let done := MemoryLeadershipRepository.renew lease now ttlSeconds s.env.rest.2
      (done.1.mapError .raised,
        { s with env := s.env.advance (World.grant done.1) (s.env.rest.1, done.2) }) :=
  exec_ask _ s

theorem renewLeadership_led (hs : Satisfies (Led o.holderId plan) s) (now : Timestamp) :
    let ended := (renewLeadership o.withLeadership.inWorld plan now).exec s
    Satisfies (Led o.holderId plan) ended.2 ∧
      (ended.1 = .ok () → ∃ lease ∈ ended.2.lease, lease.Unexpired now) := by
  intro ended
  obtain ⟨lease, last, hLease, hLast, hEnd, hLeading⟩ := hs
  replace hLease : s.lease = some lease := hLease
  replace hLast : s.lastRenewedAt = some last := hLast
  simp only [ended, renewLeadership]
  rw [exec_bind, exec_get]
  simp only [hLease, hLast]
  split_ifs with hRecent
  · refine ⟨⟨lease, last, hLease, hLast, hEnd, hLeading⟩, fun _ => ⟨lease, hLease, ?_⟩⟩
    exact unexpired_of_recent hEnd hRecent
  · have hAnswers := performed_answers
      (.renew lease now plan.policy.leadershipTtlSeconds) s.env.rest.2
    rw [exec_bind, exec_renew]
    simp only [LeadershipRepository.perform, exec_step, repository] at hAnswers
    generalize MemoryLeadershipRepository.renew lease now plan.policy.leadershipTtlSeconds
      s.env.rest.2 = done at hAnswers ⊢
    rcases done with ⟨answer, r⟩
    cases hAnswers with
    | stale hCurrent =>
      refine ⟨⟨lease, last, hLease, hLast, hEnd, hLeading.quiet rfl⟩, fun hOk => ?_⟩
      cases hOk
    | expired hCurrent hEnded =>
      refine ⟨⟨lease, last, hLease, hLast, hEnd, hLeading.quiet rfl⟩, fun hOk => ?_⟩
      cases hOk
    | renewed hCurrent hUnexpired events =>
      refine ⟨⟨_, now, rfl, rfl, rfl, ?_⟩, fun _ => ⟨_, rfl, ?_⟩⟩
      · exact hLeading.grant (hLeading.leads.renewed hCurrent hUnexpired)
      · have hTtl := plan.valid.1.2.2.1.1.1
        exact lt_add_timedelta now (by omega)

/-- A phase gives its hook the token of a lease that has not run out. -/
theorem runPhase_led {phase : SessionPhase}
    {hook : Hook (World (ρ × MemoryLeadershipRepository) D) D}
    (hHook : ∀ now lease w, lease.Unexpired now →
      Leading o.holderId plan.sessionId (some lease) w →
      Leading o.holderId plan.sessionId (some lease) (hook plan now lease.fencingToken w).2) :
    Maintains (Satisfies (Led o.holderId plan))
      (runPhase o.withLeadership.inWorld plan phase hook) := by
  have hInvariant : HandlerInvariant o.withLeadership.inWorld 0 plan _ := led_handler
  have hRenew : ∀ now, Maintains (Satisfies (Led o.holderId plan))
      (renewLeadership o.withLeadership.inWorld plan now) :=
    fun now s hs => (renewLeadership_led hs now).1
  intro s hs
  rw [runPhase]
  refine bind_maintains (hInvariant.clock s hs) fun started u _ hu => ?_
  have hRenewed := renewLeadership_led hu started
  refine bind_maintains hRenewed.1 fun _ v hExec hv => ?_
  rw [hExec] at hRenewed
  obtain ⟨lease, hLease, hUnexpired⟩ := hRenewed.2 rfl
  rw [exec_bind, exec_get]
  simp only
  rw [hLease]
  refine bind_maintains (hInvariant.maintains_modify (fun _ => rfl) (fun _ => rfl) v hv) ?_
  intro _ x hLog hx
  obtain ⟨-, rfl⟩ := Prod.mk.inj hLog
  refine bind_maintains ?_ fun details y _ hy => ?_
  · obtain ⟨held, last, hHeld, hLast, hEnd, hLeading⟩ := hx
    obtain rfl := Option.some.inj (hHeld.symm.trans hLease)
    rw [exec_ask]
    exact ⟨_, last, hHeld, hLast, hEnd, hHook started _ _ hUnexpired hLeading⟩
  · refine Maintains.bind hInvariant.clock (fun ended => ?_) y hy
    apply (hRenew ended).bind
    intro _
    exact (hInvariant.maintains_recordPhase _ _ _ _).bind fun _ => .pure details

theorem hook_leads {phase : SessionPhase} {hook : Hook (ρ × MemoryLeadershipRepository) D}
    (hHook : ∀ env, hook.Keeps (SameLeases env)) (now : Timestamp) (lease : LeadershipLease)
    (w : World (ρ × MemoryLeadershipRepository) D) (hUnexpired : lease.Unexpired now)
    (h : Leading o.holderId plan.sessionId (some lease) w) :
    Leading o.holderId plan.sessionId (some lease)
      (World.hook phase hook plan now lease.fencingToken w).2 :=
  h.hook (hHook w.rest plan now lease.fencingToken w.rest rfl) hUnexpired phase _

/-- A session keeps its lease the last one that was granted. -/
theorem led_invariant : SessionInvariant o.withLeadership.inWorld rounds plan
    (Satisfies (Led o.holderId plan)) := by
  have hHooks := fun leases =>
    (o.beside_preserves fun r : MemoryLeadershipRepository => r.leases = leases).hooks
  refine SessionOrchestrator.Keeps.sessionInvariant led_keeps
    (fun now s hs => (renewLeadership_led hs now).1) fun phase hook hRuns => runPhase_led ?_
  cases hRuns with
  | recorderWarmup => exact hook_leads fun env => (hHooks env.2.leases).warmupRecorder
  | recording => exact fun _ _ _ _ hLeading => hLeading
  | featureFreeze => exact hook_leads fun env => (hHooks env.2.leases).freezeFeatures
  | evaluation => exact hook_leads fun env => (hHooks env.2.leases).evaluate
  | monitoring => exact hook_leads fun env => (hHooks env.2.leases).reconcile

/-- Leadership is taken, or no lease was granted: then another holder has one, or none can be
granted. -/
theorem takeLeadership_leads (hs : Leading o.holderId plan.sessionId none s.env)
    (startedAt : Timestamp) :
    let ended := (takeLeadership o.withLeadership.inWorld plan startedAt).exec s
    Satisfies (Led o.holderId plan) ended.2 ∨
      ∃ e, ended.1 = .error (.raised e) ∧ Leading o.holderId plan.sessionId none ended.2.env ∧
        ((∃ message, e = .leadershipUnavailable message) ∨ ¬ HolderBounded o.holderId) := by
  intro ended
  have hInvariant : HandlerInvariant o.withLeadership.inWorld 0 plan _ := led_handler
  have hTtl : 0 < plan.policy.leadershipTtlSeconds := by
    have hBounds := plan.valid.1.2.2.1.1.1
    omega
  have hAnswers := performed_answers (.acquire plan.sessionId o.holderId startedAt
    plan.policy.leadershipTtlSeconds) s.env.rest.2
  have hHolder : o.withLeadership.inWorld.holderId = o.holderId := rfl
  simp only [ended, takeLeadership, hHolder]
  rw [exec_bind, exec_acquire]
  simp only [LeadershipRepository.perform, exec_step, repository] at hAnswers
  generalize MemoryLeadershipRepository.acquire plan.sessionId o.holderId startedAt
    plan.policy.leadershipTtlSeconds s.env.rest.2 = done at hAnswers ⊢
  rcases done with ⟨answer, r⟩
  cases hAnswers with
  | denied hHeld => exact .inr ⟨_, rfl, hs.quiet rfl, .inl ⟨_, rfl⟩⟩
  | invalid hFree hInvalid =>
    refine .inr ⟨_, rfl, ?_, .inr fun hBounded => hInvalid ?_⟩
    · exact hs.quiet rfl
    · exact ⟨⟨hBounded, Nat.succ_pos _⟩, le_rfl, lt_add_timedelta startedAt hTtl⟩
  | granted hFree hValid events =>
    refine .inl ?_
    simp only [Except.mapError]
    rw [exec_bind, exec_modify]
    refine Maintains.bind (hInvariant.maintains_recordPhase _ _ _ _) ?_ _ ?_
    · intro _
      refine .bind (fun _ hs => hs) fun t => ?_
      split_ifs
      · exact HandlerInvariant.maintains_throw _
      · exact .pure ()
    · exact ⟨_, startedAt, rfl, rfl, rfl, hs.grant (hs.leads.acquired hFree hValid)⟩

/-- So far the run was fenced as it can be. -/
def FencedSoFar (holderId sessionId : String)
    (w : World (ρ × MemoryLeadershipRepository) D) : Prop :=
  TraceAll (Fenced holderId sessionId) w.trace

theorem fenced_steps {holderId sessionId : String} :
    StepsKeep (fun _ _ => True) (FencedSoFar holderId sessionId :
      World (ρ × MemoryLeadershipRepository) D → Prop) := by
  intro w event rest hRoutine _ h
  refine TraceAll.advance h ?_ rest
  rintro event rfl
  cases event with
  | granted _ => exact hRoutine.elim
  | hooked _ _ _ _ => exact hRoutine.elim
  | mutated => exact hRoutine.elim
  | _ => exact ⟨trivial, Iff.rfl⟩

theorem trySession_leads (hs : Leading o.holderId plan.sessionId none s.env)
    (startedAt : Timestamp) :
    ∃ last, Leading o.holderId plan.sessionId last
      ((tryCatch (trySession o.withLeadership.inWorld rounds plan startedAt) fun
        | .waiting => throw .waiting
        | .raised e => handle o.withLeadership.inWorld rounds plan startedAt e).exec s).2.env := by
  have hLed : SessionInvariant o.withLeadership.inWorld rounds plan _ := led_invariant
  have hLone : HandlerInvariant o.withLeadership.inWorld rounds plan
      (Satisfies fun _ => Lone o.holderId plan.sessionId) :=
    SessionOrchestrator.Keeps.handlerInvariant fun _ => lone_keeps
  have hHandled : ∀ e t, Lone o.holderId plan.sessionId t.env → ∃ last,
      Leading o.holderId plan.sessionId last
        ((handle o.withLeadership.inWorld rounds plan startedAt e).exec t).2.env := by
    intro e t ht
    obtain ⟨last, -, hLeading⟩ :=
      hLone.maintains_handle ignoresSwitch_satisfies startedAt e t ht
    exact ⟨last, hLeading⟩
  have hExecution : Maintains (Satisfies (Led o.holderId plan)) (runPhase
      o.withLeadership.inWorld plan .execution o.withLeadership.inWorld.hooks.sizeAndExecute) :=
    runPhase_led <| hook_leads fun env =>
      (o.beside_preserves fun r : MemoryLeadershipRepository =>
        r.leases = env.2.leases).sizeAndExecute
  have hTaken := takeLeadership_leads hs startedAt
  rw [exec_tryCatch, trySession, exec_bind]
  generalize (takeLeadership o.withLeadership.inWorld plan startedAt).exec s = taken at hTaken ⊢
  rcases taken with ⟨(e | _) | _, t⟩
  · rcases hTaken with hTaken | ⟨_, hRaised, hNone, hCause⟩
    · exact hHandled e t (Led.lone hTaken)
    · cases hRaised
      rcases hCause with ⟨message, rfl⟩ | hUnbounded
      · have hEmitted : Maintains (Satisfies fun _ => Leading o.holderId plan.sessionId none)
            (emitCritical o.withLeadership.inWorld plan "LEADERSHIP_UNAVAILABLE" message
              startedAt) := by
          refine emitCritical_maintains ?_ ?_ ?_ _ _ _
          · intro u v hEnv _ hu
            rw [Satisfies, hEnv]
            exact hu
          · exact fun alert => satisfies_ask fun _ w hw => hw.quiet rfl
          · exact fun alert u hu => Leading.quiet hu rfl
        exact ⟨none, hEmitted { t with
          errorMessage := some message, outcome := .blocked, finalPhase := .failed } hNone⟩
      · exact hHandled e t ⟨none, fun _ => hUnbounded, hNone⟩
  · rcases hTaken with ⟨lease, _, -, -, -, hLeading⟩ | ⟨_, hRaised, -⟩
    · exact ⟨some lease, hLeading⟩
    · cases hRaised
  · rcases hTaken with hTaken | ⟨_, hRaised, -⟩
    · have hEnded := hLed.maintains_afterTaken (fun _ _ ht => ht)
        (hLed.maintains_trade hExecution) t hTaken
      simp only
      generalize exec _ t = ended at hEnded ⊢
      rcases ended with ⟨(e | _) | _, u⟩
      · exact hHandled e u (Led.lone hEnded)
      · obtain ⟨lease, _, -, -, -, hLeading⟩ := hEnded
        exact ⟨some lease, hLeading⟩
      · obtain ⟨lease, _, -, -, -, hLeading⟩ := hEnded
        exact ⟨some lease, hLeading⟩
    · cases hRaised

theorem run_fenced {startAt : Option Timestamp} (hStart : s.env.trace = [])
    (hReached : ∃ records, LeadershipHistory records s.env.rest.2)
    (hRivals : ∀ passage ∈ s.env.script, RivalsAct o.holderId passage.effect) :
    FencedSoFar o.holderId plan.sessionId
      ((run o.withLeadership.inWorld rounds plan startAt).exec s).2.env := by
  have hBefore : Leading o.holderId plan.sessionId none s.env := by
    obtain ⟨records, hHistory⟩ := hReached
    refine ⟨by rw [hStart]; rfl, ⟨bounded hHistory, ?_, ?_, ?_⟩, hRivals, ?_⟩
    · exact fun _ hNone => by cases hNone
    · exact fun _ hNone => by cases hNone
    · exact fun _ hNone => by cases hNone
    · rw [hStart]
      trivial
  have hBegins : ∀ env, o.withLeadership.Begins (SameLeases env) := fun env =>
    { (o.beside_preserves fun r : MemoryLeadershipRepository =>
        r.leases = env.2.leases).begins with }
  have hBegun : Maintains (Satisfies fun _ => Leading o.holderId plan.sessionId none)
      (beginRun o.withLeadership.inWorld plan startAt) :=
    (SessionOrchestrator.inWorld_begins hBegins (fun _ => rfl) (fun _ _ => rfl)
      leading_steps).maintains_beginRun startAt
  have hEnds : ∀ startedAt, Maintains (Satisfies fun _ => FencedSoFar o.holderId plan.sessionId)
      (conclude o.withLeadership.inWorld plan startedAt) :=
    (SessionOrchestrator.inWorld_ends (fun _ => o.withLeadership.preserves_true.ends)
      (fun _ => trivial) fenced_steps).maintains_conclude
  have hBegan := hBegun s hBefore
  refine run_maintains (P := fun t => ∃ last, Leading o.holderId plan.sessionId last t.env)
    (Q := Satisfies fun _ => FencedSoFar o.holderId plan.sessionId) ?_ ?_ ?_ ?_
  · exact hBegan.fenced
  · intro startedAt t hExec
    rw [hExec] at hBegan
    exact trySession_leads hBegan startedAt
  · rintro t ⟨last, hLeading⟩
    exact hLeading.fenced
  · rintro startedAt t ⟨last, hLeading⟩
    exact hEnds startedAt t hLeading.fenced

end Session

/-! ### Hooks and flatten runs -/

/-- The repository's lease for the session has this holder, the token that the hook is given
and an end after the time that it is given. -/
def HookLeased (holderId sessionId : String) (moment : LeaseMoment ρ D)
    (_earlier : List (LeaseMoment ρ D)) : Prop :=
  match moment.event with
  | .hooked _ now fencingToken _ => ∃ lease ∈ moment.env.2.leases.lookup sessionId,
      lease.holderId = holderId ∧ lease.fencingToken = fencingToken ∧ lease.Unexpired now
  | _ => True

instance (holderId sessionId : String) (moment : LeaseMoment ρ D)
    (earlier : List (LeaseMoment ρ D)) :
    Decidable (HookLeased holderId sessionId moment earlier) := by
  unfold HookLeased; split <;> infer_instance

/-- In every run, whatever other holders do: each hook is given the token of the last lease
that was granted to the holder for the session, which has not run out at the time that the
hook is given; and unless the clock has passed the end of that lease since, it is the one
that the repository stores for the session. -/
theorem hooks_fenced (o : SessionOrchestrator ρ D) (rounds : ℕ) (plan : SessionPlan)
    (startAt : Option Timestamp) (s : SessionState (World (ρ × MemoryLeadershipRepository) D) D)
    (hStart : s.env.trace = []) (hReached : ∃ records, LeadershipHistory records s.env.rest.2)
    (hRivals : ∀ passage ∈ s.env.script, RivalsAct o.holderId passage.effect) :
    TraceAll (HookFenced o.holderId plan.sessionId)
      ((run o.withLeadership.inWorld rounds plan startAt).exec s).2.env.trace :=
  (run_fenced hStart hReached hRivals).imp fun _ _ hFenced => hFenced.1

/-- A trading session with its leases in memory. After so many of its steps a minute passes,
and another holder asks for the lease. -/
def contested (steps : ℕ) :
    SessionState (World (Unit × MemoryLeadershipRepository) Decimal) Decimal :=
  let takeover : Passage (Unit × MemoryLeadershipRepository) := ⟨60000000, fun time env =>
    (env.1, performAll [.acquire samplePlan.sessionId "holder-2" time 30] env.2)⟩
  startedIn ⟨((), .empty), 2, idle (List.replicate steps 0) ++ [takeover], []⟩

theorem contested_rivals (steps : ℕ) : ∀ passage ∈ (contested steps).env.script,
    RivalsAct tradingSession.holderId passage.effect := by
  intro passage hPassage
  rcases List.mem_append.mp hPassage with hIdle | hTakeover
  · obtain ⟨_, -, rfl⟩ := List.mem_map.mp hIdle
    exact fun time env => ⟨[], fun _ hCall => absurd hCall List.not_mem_nil, rfl⟩
  · obtain rfl := List.mem_singleton.mp hTakeover
    refine fun time env => ⟨[.acquire samplePlan.sessionId "holder-2" time 30], ?_, rfl⟩
    intro call hCall
    obtain rfl := List.mem_singleton.mp hCall
    exact ⟨show "holder-2" ≠ "holder-1" by decide, le_rfl⟩

/-- The trace of the session when the lease changes hands before its first hook. -/
def contestedTrace : List (LeaseMoment Unit Decimal) :=
  ((run tradingSession.withLeadership.inWorld 1 samplePlan none).exec (contested 12)).2.env.trace

theorem contested_hooks :
    TraceAll (HookFenced tradingSession.holderId samplePlan.sessionId) contestedTrace :=
  hooks_fenced tradingSession 1 samplePlan none (contested 12) rfl ⟨[], .start⟩
    (contested_rivals 12)

/-- The clock is read before the minute, and the hook is called after it. -/
theorem contested_hook :
    ¬ TraceAll (HookLeased tradingSession.holderId samplePlan.sessionId) contestedTrace := by
  decide +kernel

/-- In every run, whatever other holders do: each cancel and each close of a flatten run
happens while the lease of the holder for the session is unexpired in the repository, exactly
when each comes before the end of the last lease that was granted to the run. -/
theorem flatten_fenced_iff (o : SessionOrchestrator ρ D) (rounds : ℕ) (plan : SessionPlan)
    (startAt : Option Timestamp) (s : SessionState (World (ρ × MemoryLeadershipRepository) D) D)
    (hStart : s.env.trace = []) (hReached : ∃ records, LeadershipHistory records s.env.rest.2)
    (hRivals : ∀ passage ∈ s.env.script, RivalsAct o.holderId passage.effect) :
    let trace := ((run o.withLeadership.inWorld rounds plan startAt).exec s).2.env.trace
    TraceAll (FlattenFenced o.holderId plan.sessionId) trace ↔ TraceAll BeforeExpiry trace :=
  (run_fenced hStart hReached hRivals).congr fun _ _ hFenced => hFenced.2

theorem contested_flatten :
    TraceAll (FlattenFenced tradingSession.holderId samplePlan.sessionId) contestedTrace ↔
      TraceAll BeforeExpiry contestedTrace :=
  flatten_fenced_iff tradingSession 1 samplePlan none (contested 12) rfl ⟨[], .start⟩
    (contested_rivals 12)

/-- The lease is lost, and then the orders of the session are canceled. -/
theorem contested_cancel :
    ¬ TraceAll (FlattenFenced tradingSession.holderId samplePlan.sessionId) contestedTrace := by
  decide +kernel

end Daybreak.Orchestration
