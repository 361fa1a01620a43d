import Daybreak.Effect.History
import Daybreak.Orchestration.Leadership
import Mathlib.Data.List.Induction

/-! Mutual exclusion of the leases in memory. Whatever calls are made, in any order and
by any holders, a lease that was granted and is neither renewed nor released since is
the one that is stored, or has run out. -/

namespace Daybreak.Orchestration

open Effect

/-! ### One call -/

namespace MemoryLeadershipRepository

variable {r r' : MemoryLeadershipRepository} {call : LeadershipCall}
  {answer : Except Exc (Option LeadershipLease)} {lease stored : LeadershipLease}
  {sessionId : String} {now : Timestamp}

/-- The lease that an acquisition would store. -/
def grant (r : MemoryLeadershipRepository) (sessionId holderId : String) (now : Timestamp)
    (ttlSeconds : ℕ) : LeadershipLease where
  sessionId := sessionId
  holderId := holderId
  acquiredAt := now
  renewedAt := now
  expiresAt := now + timedelta ttlSeconds
  fencingToken := r.token + 1

/-- What a call answers, and the repository that it leaves. -/
inductive Answers (r : MemoryLeadershipRepository) :
    LeadershipCall → Except Exc (Option LeadershipLease) → MemoryLeadershipRepository → Prop
  | denied {sessionId holderId : String} {now : Timestamp} {ttlSeconds : ℕ}
    (held : r.Held sessionId now) :
    Answers r (.acquire sessionId holderId now ttlSeconds) (.ok none) r
  | invalid {sessionId holderId : String} {now : Timestamp} {ttlSeconds : ℕ}
    (free : ¬ r.Held sessionId now) (h : ¬ (r.grant sessionId holderId now ttlSeconds).Valid) :
    Answers r (.acquire sessionId holderId now ttlSeconds)
      (.error (validationError "LeadershipLease")) { r with token := r.token + 1 }
  | granted {sessionId holderId : String} {now : Timestamp} {ttlSeconds : ℕ}
    (free : ¬ r.Held sessionId now) (h : (r.grant sessionId holderId now ttlSeconds).Valid)
    (events : List LeadershipEvent) :
    Answers r (.acquire sessionId holderId now ttlSeconds)
      (.ok (some (r.grant sessionId holderId now ttlSeconds)))
      ⟨r.leases.insert sessionId (r.grant sessionId holderId now ttlSeconds), events, r.token + 1⟩
  | stale {lease : LeadershipLease} {now : Timestamp} {ttlSeconds : ℕ}
    (h : r.current lease = none) : Answers r (.renew lease now ttlSeconds) (.ok none) r
  | expired {lease stored : LeadershipLease} {now : Timestamp} {ttlSeconds : ℕ}
    (h : r.current lease = some stored) (ended : stored.expiresAt ≤ now) :
    Answers r (.renew lease now ttlSeconds) (.ok none) r
  | renewed {lease stored : LeadershipLease} {now : Timestamp} {ttlSeconds : ℕ}
    (h : r.current lease = some stored) (unexpired : stored.Unexpired now)
    (events : List LeadershipEvent) :
    Answers r (.renew lease now ttlSeconds) (.ok (some (renewed stored now ttlSeconds)))
      ⟨r.leases.insert lease.sessionId (renewed stored now ttlSeconds), events, r.token⟩
  | unknown {lease : LeadershipLease} {now : Timestamp} (h : r.current lease = none) :
    Answers r (.release lease now) (.ok none) r
  | released {lease stored : LeadershipLease} {now : Timestamp}
    (h : r.current lease = some stored) (events : List LeadershipEvent) :
    Answers r (.release lease now) (.ok none) ⟨r.leases.erase lease.sessionId, events, r.token⟩

theorem perform_answers (h : (repository.perform call).exec r = (answer, r')) :
    r.Answers call answer r' := by
  cases call with
  | acquire sessionId holderId now ttlSeconds =>
    rw [LeadershipRepository.perform, Program.exec_step] at h
    simp only [repository, acquire, leadershipLease] at h
    split_ifs at h with hHeld hValid
    · obtain ⟨rfl, rfl⟩ := Prod.mk.inj h
      exact .denied hHeld
    · obtain ⟨rfl, rfl⟩ := Prod.mk.inj h
      exact .granted hHeld hValid _
    · obtain ⟨rfl, rfl⟩ := Prod.mk.inj h
      exact .invalid hHeld hValid
  | renew lease now ttlSeconds =>
    rw [LeadershipRepository.perform, Program.exec_step] at h
    simp only [repository, renew] at h
    cases hCurrent : r.current lease with
    | none =>
      rw [hCurrent] at h
      obtain ⟨rfl, rfl⟩ := Prod.mk.inj h
      exact .stale hCurrent
    | some stored =>
      rw [hCurrent] at h
      simp only at h
      split_ifs at h with hEnded
      · obtain ⟨rfl, rfl⟩ := Prod.mk.inj h
        exact .expired hCurrent hEnded
      · obtain ⟨rfl, rfl⟩ := Prod.mk.inj h
        exact .renewed hCurrent (not_le.mp hEnded) _
  | release lease now =>
    rw [LeadershipRepository.perform, Program.exec_bind, Program.exec_step] at h
    simp only [repository, release] at h
    cases hCurrent : r.current lease with
    | none =>
      rw [hCurrent] at h
      obtain ⟨rfl, rfl⟩ := Prod.mk.inj h
      exact .unknown hCurrent
    | some stored =>
      rw [hCurrent] at h
      obtain ⟨rfl, rfl⟩ := Prod.mk.inj h
      exact .released hCurrent _

theorem current_eq_some : r.current lease = some stored ↔
    r.leases.lookup lease.sessionId = some stored ∧ stored.holderId = lease.holderId ∧
      stored.fencingToken = lease.fencingToken := by
  simp [current, Option.filter_eq_some_iff]

theorem Held.of_lookup (h : r.leases.lookup sessionId = some stored)
    (hUnexpired : stored.Unexpired now) : r.Held sessionId now :=
  ⟨stored, h, hUnexpired⟩

end MemoryLeadershipRepository

/-! ### Histories -/

abbrev LeadershipRecord :=
  Performed LeadershipCall MemoryLeadershipRepository Exc (Option LeadershipLease)

/-- Any calls from an empty repository, latest first. -/
abbrev LeadershipHistory : List LeadershipRecord → MemoryLeadershipRepository → Prop :=
  History MemoryLeadershipRepository.repository.perform (fun _ _ => False) .empty

/-- Two copies of what was granted once. -/
def LeadershipLease.SameGrant (a b : LeadershipLease) : Prop :=
  a.sessionId = b.sessionId ∧ a.holderId = b.holderId ∧ a.fencingToken = b.fencingToken

instance (a b : LeadershipLease) : Decidable (a.SameGrant b) := by
  unfold LeadershipLease.SameGrant; infer_instance

/-- The leases that were granted, and neither renewed nor released since. -/
def liveLeases : List LeadershipRecord → List LeadershipLease
  | [] => []
  | record :: earlier =>
    match record.call, record.outcome with
    | .acquire _ _ _ _, .ok (some lease) => lease :: liveLeases earlier
    | .renew old _ _, .ok (some lease) =>
      lease :: (liveLeases earlier).filter (¬ ·.SameGrant old)
    | .release old _, .ok _ => (liveLeases earlier).filter (¬ ·.SameGrant old)
    | _, _ => liveLeases earlier

/-- The leases of a session that were acquired, latest first. -/
def acquiredLeases (sessionId : String) : List LeadershipRecord → List LeadershipLease
  | [] => []
  | record :: earlier =>
    match record.call, record.outcome with
    | .acquire session _ _ _, .ok (some lease) =>
      if session = sessionId then lease :: acquiredLeases sessionId earlier
      else acquiredLeases sessionId earlier
    | _, _ => acquiredLeases sessionId earlier

/-- What the repository keeps of a history. -/
structure Accounts (records : List LeadershipRecord) (r : MemoryLeadershipRepository) : Prop where
  live : ∀ lease ∈ liveLeases records, r.leases.lookup lease.sessionId = some lease ∨
    ∃ record ∈ records, lease.expiresAt ≤ record.call.now
  keyed : ∀ sessionId, ∀ lease ∈ r.leases.lookup sessionId, lease.sessionId = sessionId
  tokens : ∀ sessionId, ∀ lease ∈ acquiredLeases sessionId records, lease.fencingToken ≤ r.token

variable {records : List LeadershipRecord} {record : LeadershipRecord}
  {r r' : MemoryLeadershipRepository} {lease old stored : LeadershipLease}

open MemoryLeadershipRepository

/-- A live lease that a call leaves stored, or finds run out. -/
theorem Accounts.older (h : Accounts records r) (hLease : lease ∈ liveLeases records)
    (hKept : r.leases.lookup lease.sessionId = some lease →
      r'.leases.lookup lease.sessionId = some lease ∨ lease.expiresAt ≤ record.call.now) :
    r'.leases.lookup lease.sessionId = some lease ∨
      ∃ record' ∈ record :: records, lease.expiresAt ≤ record'.call.now := by
  rcases h.live lease hLease with hStored | ⟨record', hRecord, hEnded⟩
  · rcases hKept hStored with hStored | hEnded
    · exact .inl hStored
    · exact .inr ⟨record, List.mem_cons_self .., hEnded⟩
  · exact .inr ⟨record', List.mem_cons_of_mem _ hRecord, hEnded⟩

/-- The stored lease of a session is the one that a current copy of it stands for. -/
theorem sameGrant_of_current (hCurrent : r.current old = some stored)
    (hStored : r.leases.lookup lease.sessionId = some lease)
    (hSession : lease.sessionId = old.sessionId) : lease.SameGrant old := by
  obtain ⟨hLookup, hHolder, hToken⟩ := current_eq_some.mp hCurrent
  rw [hSession, hLookup] at hStored
  obtain rfl := Option.some.inj hStored
  exact ⟨hSession, hHolder, hToken⟩

theorem Accounts.live_call (h : Accounts records r) {call : LeadershipCall}
    {answer : Except Exc (Option LeadershipLease)} (hAnswers : r.Answers call answer r') :
    ∀ lease ∈ liveLeases (⟨call, r, answer, r'⟩ :: records),
      r'.leases.lookup lease.sessionId = some lease ∨
        ∃ record ∈ (⟨call, r, answer, r'⟩ :: records : List LeadershipRecord),
          lease.expiresAt ≤ record.call.now := by
  intro lease hLease
  cases hAnswers with
  | denied => exact h.older hLease .inl
  | invalid => exact h.older hLease .inl
  | stale => exact h.older hLease .inl
  | expired => exact h.older hLease .inl
  | unknown => exact h.older (List.mem_of_mem_filter hLease) .inl
  | granted hFree hValid events =>
    rcases List.mem_cons.mp hLease with rfl | hLease
    · exact .inl (AList.lookup_insert _)
    · refine h.older hLease fun hStored => ?_
      rw [Dict.lookup_insert_eq]
      split_ifs with hSession
      · rw [hSession] at hStored
        exact .inr (not_lt.mp fun hUnexpired => hFree (Held.of_lookup hStored hUnexpired))
      · exact .inl hStored
  | renewed hCurrent hUnexpired events =>
    rcases List.mem_cons.mp hLease with rfl | hLease
    · have hKeyed := h.keyed _ _ (current_eq_some.mp hCurrent).1
      refine .inl ?_
      rw [Dict.lookup_insert_eq]
      exact if_pos hKeyed
    · obtain ⟨hLive, hOther⟩ := List.mem_filter.mp hLease
      refine h.older hLive fun hStored => .inl ?_
      rw [Dict.lookup_insert_eq, if_neg, hStored]
      intro hSession
      exact absurd (sameGrant_of_current hCurrent hStored hSession) (by simpa using hOther)
  | released hCurrent events =>
    obtain ⟨hLive, hOther⟩ := List.mem_filter.mp hLease
    refine h.older hLive fun hStored => .inl ?_
    rw [AList.lookup_erase_ne, hStored]
    intro hSession
    exact absurd (sameGrant_of_current hCurrent hStored hSession) (by simpa using hOther)

theorem Accounts.call (h : Accounts records r) {call : LeadershipCall}
    {answer : Except Exc (Option LeadershipLease)} (hAnswers : r.Answers call answer r') :
    Accounts (⟨call, r, answer, r'⟩ :: records) r' where
  live := h.live_call hAnswers
  keyed := by
    intro sessionId lease hLease
    cases hAnswers with
    | denied => exact h.keyed _ _ hLease
    | invalid => exact h.keyed _ _ hLease
    | stale => exact h.keyed _ _ hLease
    | expired => exact h.keyed _ _ hLease
    | unknown => exact h.keyed _ _ hLease
    | granted hFree hValid events =>
      rw [Dict.lookup_insert_eq] at hLease
      split_ifs at hLease with hSession
      · obtain rfl := Option.some.inj hLease
        exact hSession.symm
      · exact h.keyed _ _ hLease
    | renewed hCurrent hUnexpired events =>
      rw [Dict.lookup_insert_eq] at hLease
      split_ifs at hLease with hSession
      · obtain rfl := Option.some.inj hLease
        exact (h.keyed _ _ (current_eq_some.mp hCurrent).1).trans hSession.symm
      · exact h.keyed _ _ hLease
    | @released old _ _ hCurrent events =>
      by_cases hSession : sessionId = old.sessionId
      · subst hSession
        rw [AList.lookup_erase] at hLease
        cases hLease
      · rw [AList.lookup_erase_ne hSession] at hLease
        exact h.keyed _ _ hLease
  tokens := by
    intro sessionId lease hLease
    cases hAnswers with
    | granted hFree hValid events =>
      unfold acquiredLeases at hLease
      simp only at hLease
      split_ifs at hLease
      · rcases List.mem_cons.mp hLease with rfl | hLease
        · exact le_rfl
        · exact (h.tokens sessionId lease hLease).trans (Nat.le_succ _)
      · exact (h.tokens sessionId lease hLease).trans (Nat.le_succ _)
    | invalid => exact (h.tokens sessionId lease hLease).trans (Nat.le_succ _)
    | _ => exact h.tokens sessionId lease hLease

theorem accounts (h : LeadershipHistory records r) : Accounts records r := by
  induction h with
  | start =>
    refine ⟨?_, ?_, ?_⟩
    · exact fun _ hLease => absurd hLease List.not_mem_nil
    · intro sessionId lease hLease
      cases hLease
    · exact fun _ _ hLease => absurd hLease List.not_mem_nil
  | call _ call hExec ih => exact ih.call (perform_answers hExec)
  | elapse _ hElapsed _ => exact hElapsed.elim

/-- The live lease of a session that has not run out is the one that is stored. -/
theorem live_unexpired (h : LeadershipHistory records r) {now : Timestamp}
    (hNow : ∀ record ∈ records, record.call.now ≤ now) (hLive : lease ∈ liveLeases records)
    (hUnexpired : lease.Unexpired now) : r.leases.lookup lease.sessionId = some lease := by
  rcases (accounts h).live lease hLive with hStored | ⟨record, hRecord, hEnded⟩
  · exact hStored
  · exact absurd (hEnded.trans (hNow record hRecord)) (not_le.mpr hUnexpired)

/-- What a record of a history says of its call. -/
theorem answers_of_mem (h : LeadershipHistory records r) (hRecord : record ∈ records) :
    record.before.Answers record.call record.outcome record.after := by
  obtain ⟨later, earlier, rfl⟩ := List.append_of_mem hRecord
  exact perform_answers h.prior.2

theorem tokens_increase (h : LeadershipHistory records r) (sessionId : String) :
    (acquiredLeases sessionId records).Pairwise fun later earlier =>
      earlier.fencingToken < later.fencingToken := by
  induction h with
  | start => exact List.Pairwise.nil
  | elapse _ hElapsed _ => exact hElapsed.elim
  | call hPrior call hExec ih =>
    have hTokens := (accounts hPrior).tokens sessionId
    cases perform_answers hExec with
    | granted hFree hValid events =>
      unfold acquiredLeases
      simp only
      split_ifs
      · exact List.Pairwise.cons (fun lease hLease => Nat.lt_succ_of_le (hTokens lease hLease)) ih
      · exact ih
    | _ => exact ih

/-- An acquisition is granted only where no live lease of the session is left. -/
theorem acquired_free {later earlier : List LeadershipRecord}
    (h : LeadershipHistory (later ++ record :: earlier) r)
    (hOrdered : (later ++ record :: earlier).Pairwise fun later earlier =>
      earlier.call.now ≤ later.call.now)
    {sessionId holderId : String} {now : Timestamp} {ttlSeconds : ℕ}
    (hCall : record.call = .acquire sessionId holderId now ttlSeconds)
    (hGranted : record.outcome = .ok (some lease)) {live : LeadershipLease}
    (hLive : live ∈ liveLeases earlier) (hSession : live.sessionId = sessionId) :
    ¬ live.Unexpired now := by
  intro hUnexpired
  obtain ⟨hEarlier, hExec⟩ := h.prior
  have hNow : ∀ record' ∈ earlier, record'.call.now ≤ now := by
    intro record' hRecord
    have hBefore := List.rel_of_pairwise_cons (List.pairwise_append.mp hOrdered).2.1 hRecord
    rwa [hCall] at hBefore
  have hStored := live_unexpired hEarlier hNow hLive hUnexpired
  rw [hSession] at hStored
  have hAnswers := perform_answers hExec
  rw [hCall, hGranted] at hAnswers
  generalize record.after = after at hAnswers
  cases hAnswers with
  | granted hFree _ _ => exact hFree (Held.of_lookup hStored hUnexpired)

theorem current_eq_none
    (h : ∀ stored ∈ r.leases.lookup lease.sessionId, stored.fencingToken ≠ lease.fencingToken) :
    r.current lease = none := by
  cases hCurrent : r.current lease with
  | none => rfl
  | some stored =>
    obtain ⟨hLookup, -, hToken⟩ := current_eq_some.mp hCurrent
    exact absurd hToken (h stored hLookup)

/-- A lease whose token is not the current one changes nothing. -/
theorem stale_unchanged (h : LeadershipHistory records r) (hRecord : record ∈ records)
    {now : Timestamp} {ttlSeconds : ℕ}
    (hCall : record.call = .renew lease now ttlSeconds ∨ record.call = .release lease now)
    (hStale : ∀ stored ∈ record.before.leases.lookup lease.sessionId,
      stored.fencingToken ≠ lease.fencingToken) :
    record.outcome = .ok none ∧ record.after.leases = record.before.leases := by
  have hNone := current_eq_none hStale
  have hAnswers := answers_of_mem h hRecord
  rcases record with ⟨call, before, outcome, after⟩
  simp only at hCall hNone hAnswers ⊢
  rcases hCall with rfl | rfl
  · cases hAnswers with
    | stale => exact ⟨rfl, rfl⟩
    | expired => exact ⟨rfl, rfl⟩
    | renewed hCurrent _ _ => exact absurd (hNone.symm.trans hCurrent) (Option.some_ne_none _).symm
  · cases hAnswers with
    | unknown => exact ⟨rfl, rfl⟩
    | released hCurrent _ => exact absurd (hNone.symm.trans hCurrent) (Option.some_ne_none _).symm

/-- The history of a list of calls, made in this order. -/
def performCalls (calls : List LeadershipCall) :
    List LeadershipRecord × MemoryLeadershipRepository :=
  calls.foldl (fun done call =>
    let record := Performed.of repository.perform call done.2
    (record :: done.1, record.after)) ([], .empty)

theorem performCalls_history (calls : List LeadershipCall) :
    LeadershipHistory (performCalls calls).1 (performCalls calls).2 := by
  induction calls using List.reverseRecOn with
  | nil => exact .start
  | append_singleton calls call ih =>
    rw [performCalls, List.foldl_concat]
    exact ih.next call

/-! ### Mutual exclusion -/

/-- In any history of calls with times that never decrease, two live leases of a session
that have not run out are one; an acquisition is granted only where no live lease of the
session is left; the tokens granted for a session strictly increase; and a renewal or a
release of a lease that is not current answers none and leaves every lease as it was. -/
theorem leases_exclusive (records : List LeadershipRecord) (r : MemoryLeadershipRepository)
    (h : LeadershipHistory records r)
    (hOrdered : records.Pairwise fun later earlier => earlier.call.now ≤ later.call.now) :
    (∀ now, (∀ record ∈ records, record.call.now ≤ now) →
      ∀ a ∈ liveLeases records, ∀ b ∈ liveLeases records, a.sessionId = b.sessionId →
        a.Unexpired now → b.Unexpired now → a = b) ∧
    (∀ later record earlier, records = later ++ record :: earlier →
      ∀ sessionId holderId now ttlSeconds lease,
        record.call = .acquire sessionId holderId now ttlSeconds →
        record.outcome = .ok (some lease) →
        ∀ live ∈ liveLeases earlier, live.sessionId = sessionId → ¬ live.Unexpired now) ∧
    (∀ sessionId, (acquiredLeases sessionId records).Pairwise fun later earlier =>
      earlier.fencingToken < later.fencingToken) ∧
    ∀ record ∈ records, ∀ lease now ttlSeconds,
      record.call = .renew lease now ttlSeconds ∨ record.call = .release lease now →
      (∀ stored ∈ record.before.leases.lookup lease.sessionId,
        stored.fencingToken ≠ lease.fencingToken) →
      record.outcome = .ok none ∧ record.after.leases = record.before.leases := by
  refine ⟨?_, ?_, tokens_increase h, ?_⟩
  · intro now hNow a ha b hb hSession hA hB
    have hStored := live_unexpired h hNow ha hA
    rw [hSession, live_unexpired h hNow hb hB] at hStored
    exact (Option.some.inj hStored).symm
  · rintro later record earlier rfl sessionId holderId now ttlSeconds lease hCall hGranted live
      hLive hSession
    exact acquired_free h hOrdered hCall hGranted hLive hSession
  · intro record hRecord lease now ttlSeconds hCall hStale
    exact stale_unchanged h hRecord hCall hStale

/-- The second holder is denied while the first holds, and granted once its lease has run
out. -/
theorem takeover_exclusive :
    (acquiredLeases "session-1" (performCalls [.acquire "session-1" "holder-a" 0 30,
      .acquire "session-1" "holder-b" 29999999 30,
      .acquire "session-1" "holder-b" 30000000 30]).1).Pairwise fun later earlier =>
        earlier.fencingToken < later.fencingToken :=
  (leases_exclusive _ _ (performCalls_history _) (by decide)).2.2.1 "session-1"

end Daybreak.Orchestration
