import Daybreak.Orchestration.Exclusion
import Mathlib.Tactic.Ring

/-! The two stores of leases under the same requests. A session that is free in memory
has no active row, or one that has run out; a lease that is stored in memory has an
active row that is its copy, up to the token. The tokens of a session keep their order. -/

namespace Daybreak.Orchestration

open Effect

/-! ### Requests -/

/-- A call whose lease, if it takes one, is told by its number among those that the
repository returned. -/
inductive LeaseRequest where
  | acquire (sessionId holderId : String) (now : Timestamp) (ttlSeconds : ℕ)
  | renew (returned : ℕ) (now : Timestamp) (ttlSeconds : ℕ)
  | release (returned : ℕ) (now : Timestamp)
  deriving DecidableEq, Repr

def LeaseRequest.now : LeaseRequest → Timestamp
  | .acquire _ _ now _ => now
  | .renew _ now _ => now
  | .release _ now => now

/-- The requested time to live is positive. -/
def LeaseRequest.Lasting : LeaseRequest → Prop
  | .acquire _ _ _ ttlSeconds => 0 < ttlSeconds
  | .renew _ _ ttlSeconds => 0 < ttlSeconds
  | .release _ _ => True

instance (request : LeaseRequest) : Decidable request.Lasting := by
  cases request <;> unfold LeaseRequest.Lasting <;> infer_instance

def LeaseRequest.call (returned : List LeadershipLease) : LeaseRequest → Option LeadershipCall
  | .acquire sessionId holderId now ttlSeconds =>
    some (.acquire sessionId holderId now ttlSeconds)
  | .renew number now ttlSeconds => returned[number]?.map (.renew · now ttlSeconds)
  | .release number now => returned[number]?.map (.release · now)

abbrev LeaseAnswer := Except Exc (Option LeadershipLease)

def LeaseAnswer.lease : LeaseAnswer → Option LeadershipLease
  | .ok lease => lease
  | .error _ => none

/-- A repository and what it answered so far. -/
structure LeaseRun (σ : Type) where
  repository : σ
  answers : List LeaseAnswer

namespace LeaseRun

variable {σ : Type}

def returned (run : LeaseRun σ) : List LeadershipLease := run.answers.filterMap LeaseAnswer.lease

/-- A request that names no returned lease is not made. -/
def request (repository : LeadershipRepository σ) (run : LeaseRun σ) (request : LeaseRequest) :
    LeaseRun σ :=
  match request.call run.returned with
  | none => run
  | some call =>
    let performed := (repository.perform call).exec run.repository
    ⟨performed.2, run.answers ++ [performed.1]⟩

def play (repository : LeadershipRepository σ) (start : σ) (requests : List LeaseRequest) :
    LeaseRun σ :=
  requests.foldl (request repository) ⟨start, []⟩

theorem returned_none (repository : σ) (answers : List LeaseAnswer) :
    (LeaseRun.mk repository (answers ++ [.ok none])).returned =
      answers.filterMap LeaseAnswer.lease := by
  simp [returned, LeaseAnswer.lease]

theorem returned_some (repository : σ) (answers : List LeaseAnswer) (lease : LeadershipLease) :
    (LeaseRun.mk repository (answers ++ [.ok (some lease)])).returned =
      answers.filterMap LeaseAnswer.lease ++ [lease] := by
  simp [returned, LeaseAnswer.lease]

end LeaseRun

/-- The run of the store in memory, from an empty one. -/
def memoryRun (requests : List LeaseRequest) : LeaseRun MemoryLeadershipRepository :=
  .play MemoryLeadershipRepository.repository .empty requests

/-- The run of the store in PostgreSQL, from an empty one. -/
def postgresRun (sessions : List String) (requests : List LeaseRequest) :
    LeaseRun PostgresLeadershipRepository :=
  .play PostgresLeadershipRepository.repository (.empty sessions) requests

/-- An acquisition that is not denied names a stored session, and a holder that a lease
accepts. -/
def Storable (sessions : List String) (r : MemoryLeadershipRepository) : LeaseRequest → Prop
  | .acquire sessionId holderId now _ => r.Held sessionId now ∨
    sessionId ∈ sessions ∧ 1 ≤ holderId.length ∧ holderId.length ≤ 128
  | .renew _ _ _ => True
  | .release _ _ => True

instance (sessions : List String) (r : MemoryLeadershipRepository) (request : LeaseRequest) :
    Decidable (Storable sessions r request) := by
  cases request <;> unfold Storable <;> infer_instance

/-! ### Renaming tokens -/

/-- The lease with the token that its session renames it to. -/
def LeadershipLease.renamed (rename : String → ℕ → ℕ) (lease : LeadershipLease) :
    LeadershipLease :=
  { lease with fencingToken := rename lease.sessionId lease.fencingToken }

def LeaseAnswer.renamed (rename : String → ℕ → ℕ) (answer : LeaseAnswer) : LeaseAnswer :=
  answer.map (·.map (·.renamed rename))

theorem LeaseAnswer.lease_renamed (rename : String → ℕ → ℕ) (answer : LeaseAnswer) :
    (answer.renamed rename).lease = answer.lease.map (·.renamed rename) := by
  cases answer <;> rfl

/-! ### The store in PostgreSQL -/

namespace PostgresLeadershipRepository

variable {r : PostgresLeadershipRepository} {sessionId : String}

/-- A row that its checks accept, of a stored session, is answered when it is a lease. -/
theorem writeLease_ok {row : LeaseRowFields} (hChecked : row.Checked)
    (hSession : sessionId ∈ r.sessions) (hValid : (row.lease sessionId).Valid)
    (eventType : LeadershipEventType) (now : Timestamp) :
    ∃ events, r.writeLease sessionId row eventType now =
      (.ok (some (row.lease sessionId)),
        ⟨r.sessions, r.rows.insert sessionId ⟨row, hChecked⟩, events⟩) := by
  unfold writeLease writeRow leadershipLease
  simp only [dif_pos hChecked, if_pos hSession, if_pos hValid]
  unfold appendEvent
  split_ifs
  · exact ⟨_, rfl⟩
  · exact ⟨_, rfl⟩

/-- The token of the next grant of a session. -/
def nextToken (r : PostgresLeadershipRepository) (sessionId : String) : ℕ :=
  ((r.rows.lookup sessionId).map (·.fencingToken)).getD 0 + 1

/-- The row that a granted acquisition writes. -/
def grantRow (r : PostgresLeadershipRepository) (sessionId holderId : String) (now : Timestamp)
    (ttlSeconds : ℕ) : LeaseRowFields where
  holderId := holderId
  acquiredAt := now
  renewedAt := now
  expiresAt := now + timedelta ttlSeconds
  fencingToken := r.nextToken sessionId
  active := true
  releasedAt := none

/-- A session without an active row that has not run out is granted. -/
theorem acquire_free {now : Timestamp}
    (hFree : ∀ row ∈ r.rows.lookup sessionId, row.active = true → row.expiresAt ≤ now)
    (holderId : String) (ttlSeconds : ℕ) :
    acquire sessionId holderId now ttlSeconds r =
      r.writeLease sessionId (r.grantRow sessionId holderId now ttlSeconds) .acquired now := by
  unfold acquire grantRow nextToken
  cases hRow : r.rows.lookup sessionId with
  | none => rfl
  | some row =>
    have hEnded : ¬row.active = true ∨ row.expiresAt ≤ now := by
      by_cases hActive : row.active = true
      · exact .inr (hFree row hRow hActive)
      · exact .inl hActive
    simp only [if_pos hEnded, Option.map_some, Option.getD_some]

theorem nextToken_lt {row : LeaseRow} (hRow : r.rows.lookup sessionId = some row) :
    row.fencingToken < r.nextToken sessionId := by
  rw [nextToken, hRow]
  exact Nat.lt_succ_self _

end PostgresLeadershipRepository

/-! ### The simulation -/

/-- The row of a session stands for the lease that is stored in memory. -/
inductive Stands (rename : String → ℕ → ℕ) (sessionId : String) :
    Option LeadershipLease → Option LeaseRow → Prop
  | absent : Stands rename sessionId none none
  | ended {row : LeaseRow} (inactive : row.active = false) : Stands rename sessionId none (some row)
  | held {lease : LeadershipLease} {row : LeaseRow} (active : row.active = true)
    (copy : row.lease sessionId = lease.renamed rename) :
    Stands rename sessionId (some lease) (some row)

/-- The two runs, at times up to `now`. -/
structure Simulates (sessions : List String) (rename : String → ℕ → ℕ) (now : Timestamp)
    (m : LeaseRun MemoryLeadershipRepository) (p : LeaseRun PostgresLeadershipRepository) :
    Prop where
  answers : p.answers = m.answers.map (·.renamed rename)
  increasing : ∀ a ∈ m.returned, ∀ b ∈ m.returned, a.sessionId = b.sessionId →
    a.fencingToken < b.fencingToken →
    rename a.sessionId a.fencingToken < rename b.sessionId b.fencingToken
  issued : ∀ a ∈ m.returned, a.fencingToken ≤ m.repository.token ∧
    ∃ row ∈ p.repository.rows.lookup a.sessionId,
      rename a.sessionId a.fencingToken ≤ row.fencingToken
  stands : ∀ sessionId, Stands rename sessionId (m.repository.leases.lookup sessionId)
    (p.repository.rows.lookup sessionId)
  stored : ∀ sessionId, ∀ lease ∈ m.repository.leases.lookup sessionId, lease ∈ m.returned ∧
    lease.acquiredAt ≤ now ∧ 1 ≤ lease.holderId.length ∧ lease.holderId.length ≤ 128 ∧
    sessionId ∈ sessions
  sessions : p.repository.sessions = sessions

namespace Simulates

variable {sessions : List String} {rename : String → ℕ → ℕ} {last now : Timestamp}
  {m : LeaseRun MemoryLeadershipRepository} {p : LeaseRun PostgresLeadershipRepository}
  {lease stored : LeadershipLease} {sessionId holderId : String} {ttlSeconds : ℕ}

theorem returned (h : Simulates sessions rename last m p) :
    p.returned = m.returned.map (·.renamed rename) := by
  rw [LeaseRun.returned, LeaseRun.returned, h.answers, List.filterMap_map, List.map_filterMap]
  congr 1
  funext answer
  exact LeaseAnswer.lease_renamed rename answer

/-- The tokens of a session are renamed to different tokens. -/
theorem rename_inj (h : Simulates sessions rename last m p) {a b : LeadershipLease}
    (ha : a ∈ m.returned) (hb : b ∈ m.returned) (hSession : a.sessionId = b.sessionId)
    (hRename : rename a.sessionId a.fencingToken = rename b.sessionId b.fencingToken) :
    a.fencingToken = b.fencingToken := by
  rcases lt_trichotomy a.fencingToken b.fencingToken with hLess | hEqual | hGreater
  · exact absurd hRename (h.increasing a ha b hb hSession hLess).ne
  · exact hEqual
  · exact absurd hRename (h.increasing b hb a ha hSession.symm hGreater).ne'

/-- The row that a returned lease selects, where the lease is current. -/
theorem selected (h : Simulates sessions rename last m p) (hLease : lease ∈ m.returned) :
    (m.repository.current lease = none ∧ p.repository.selected (lease.renamed rename) = none) ∨
      ∃ stored row, m.repository.current lease = some stored ∧
        p.repository.selected (lease.renamed rename) = some row ∧
        p.repository.rows.lookup lease.sessionId = some row ∧ row.active = true ∧
        row.lease lease.sessionId = stored.renamed rename := by
  have hStands := h.stands lease.sessionId
  unfold MemoryLeadershipRepository.current PostgresLeadershipRepository.selected
  simp only [LeadershipLease.renamed]
  cases hMemory : m.repository.leases.lookup lease.sessionId with
  | none =>
    rw [hMemory] at hStands
    generalize p.repository.rows.lookup lease.sessionId = row at hStands
    cases hStands with
    | absent => exact .inl ⟨rfl, rfl⟩
    | ended hInactive => exact .inl ⟨rfl, by simp [Option.filter, hInactive]⟩
  | some stored =>
    rw [hMemory] at hStands
    generalize hRow : p.repository.rows.lookup lease.sessionId = row at hStands
    cases hStands with
    | @held _ row hActive hCopy =>
      obtain ⟨hStored, -⟩ := h.stored _ _ hMemory
      have hSession : lease.sessionId = stored.sessionId :=
        (congrArg LeadershipLease.sessionId hCopy :)
      have hHolder : row.holderId = stored.holderId :=
        (congrArg LeadershipLease.holderId hCopy :)
      have hToken : row.fencingToken = rename stored.sessionId stored.fencingToken :=
        (congrArg LeadershipLease.fencingToken hCopy :)
      by_cases hCurrent : stored.holderId = lease.holderId ∧
          stored.fencingToken = lease.fencingToken
      · refine .inr ⟨stored, row, ?_, ?_, rfl, hActive, hCopy⟩
        · simp [Option.filter, hCurrent]
        · simp [Option.filter, hActive, hHolder, hToken, hCurrent, hSession]
      · refine .inl ⟨?_, ?_⟩
        · simpa [Option.filter] using hCurrent
        · have hOther : ¬ (row.holderId = lease.holderId ∧
              row.fencingToken = rename lease.sessionId lease.fencingToken ∧
              row.active = true) := by
            rintro ⟨hHolder', hToken', -⟩
            refine hCurrent ⟨hHolder.symm.trans hHolder', ?_⟩
            exact (h.rename_inj hLease hStored hSession (hToken'.symm.trans hToken)).symm
          exact if_neg fun hDecide => hOther (of_decide_eq_true hDecide)

/-- A request that both answer with no lease, and that changes nothing. -/
theorem quiet (h : Simulates sessions rename last m p) (hNow : last ≤ now) :
    Simulates sessions rename now ⟨m.repository, m.answers ++ [.ok none]⟩
      ⟨p.repository, p.answers ++ [.ok none]⟩ where
  answers := by
    rw [h.answers, List.map_append]
    rfl
  increasing := by
    rw [LeaseRun.returned_none]
    exact h.increasing
  issued := by
    rw [LeaseRun.returned_none]
    exact h.issued
  stands := h.stands
  stored := by
    intro sessionId lease hLease
    obtain ⟨hReturned, hAcquired, hRest⟩ := h.stored sessionId lease hLease
    rw [LeaseRun.returned_none]
    exact ⟨hReturned, hAcquired.trans hNow, hRest⟩
  sessions := h.sessions

/-- Only what the tokens of the returned leases are renamed to matters. -/
theorem rename_congr (h : Simulates sessions rename last m p) {rename' : String → ℕ → ℕ}
    (hAgree : ∀ a ∈ m.returned,
      rename' a.sessionId a.fencingToken = rename a.sessionId a.fencingToken) :
    Simulates sessions rename' last m p where
  answers := by
    rw [h.answers]
    apply List.map_congr_left
    intro answer hAnswer
    rcases answer with e | lease
    · rfl
    · cases lease with
      | none => rfl
      | some lease =>
        have hReturned : lease ∈ m.returned := List.mem_filterMap.mpr ⟨_, hAnswer, rfl⟩
        show LeaseAnswer.renamed rename _ = LeaseAnswer.renamed rename' _
        simp only [LeaseAnswer.renamed, Except.map, Option.map_some, LeadershipLease.renamed,
          hAgree lease hReturned]
  increasing := by
    intro a ha b hb
    rw [hAgree a ha, hAgree b hb]
    exact h.increasing a ha b hb
  issued := by
    intro a ha
    rw [hAgree a ha]
    exact h.issued a ha
  stands := by
    intro sessionId
    have hStands := h.stands sessionId
    have hStored := h.stored sessionId
    generalize m.repository.leases.lookup sessionId = lease at hStands hStored ⊢
    generalize p.repository.rows.lookup sessionId = row at hStands ⊢
    cases hStands with
    | absent => exact .absent
    | ended hInactive => exact .ended hInactive
    | held hActive hCopy =>
      refine .held hActive (hCopy.trans ?_)
      simp only [LeadershipLease.renamed, hAgree _ (hStored _ rfl).1]
  stored := h.stored
  sessions := h.sessions

/-- A request that both answer with a lease and store. -/
theorem store (h : Simulates sessions rename last m p) (hNow : last ≤ now) {token : ℕ}
    (row : LeaseRow) (events events' : List LeadershipEvent)
    (hSession : lease.sessionId = sessionId) (hActive : row.active = true)
    (hCopy : row.lease sessionId = lease.renamed rename)
    (hOrder : ∀ a ∈ m.returned, a.sessionId = sessionId →
      (a.fencingToken < lease.fencingToken →
        rename sessionId a.fencingToken < rename sessionId lease.fencingToken) ∧
      (lease.fencingToken < a.fencingToken →
        rename sessionId lease.fencingToken < rename sessionId a.fencingToken))
    (hTokens : m.repository.token ≤ token) (hToken : lease.fencingToken ≤ token)
    (hRow : ∀ a ∈ m.returned, a.sessionId = sessionId →
      rename sessionId a.fencingToken ≤ row.fencingToken)
    (hAcquired : lease.acquiredAt ≤ now)
    (hHolder : 1 ≤ lease.holderId.length ∧ lease.holderId.length ≤ 128)
    (hStored : sessionId ∈ sessions) :
    Simulates sessions rename now
      ⟨⟨m.repository.leases.insert sessionId lease, events, token⟩,
        m.answers ++ [.ok (some lease)]⟩
      ⟨⟨p.repository.sessions, p.repository.rows.insert sessionId row, events'⟩,
        p.answers ++ [.ok (some (row.lease sessionId))]⟩ where
  answers := by
    rw [h.answers, hCopy, List.map_append]
    rfl
  increasing := by
    rw [LeaseRun.returned_some]
    intro a ha b hb hSame hLess
    rcases List.mem_append.mp ha with hOldA | hNewA <;>
      rcases List.mem_append.mp hb with hOldB | hNewB
    · exact h.increasing a hOldA b hOldB hSame hLess
    · obtain rfl := List.mem_singleton.mp hNewB
      rw [hSession] at hSame
      rw [hSame, hSession]
      exact (hOrder a hOldA hSame).1 hLess
    · obtain rfl := List.mem_singleton.mp hNewA
      rw [hSession] at hSame
      rw [← hSame, hSession]
      exact (hOrder b hOldB hSame.symm).2 hLess
    · obtain rfl := List.mem_singleton.mp hNewA
      obtain rfl := List.mem_singleton.mp hNewB
      exact absurd hLess (lt_irrefl _)
  issued := by
    rw [LeaseRun.returned_some]
    intro a ha
    simp only [Dict.lookup_insert_eq]
    rcases List.mem_append.mp ha with ha | ha
    · obtain ⟨hLe, old, hOld, hOldToken⟩ := h.issued a ha
      refine ⟨hLe.trans hTokens, ?_⟩
      by_cases hSame : a.sessionId = sessionId
      · rw [if_pos hSame]
        refine ⟨row, rfl, ?_⟩
        rw [hSame]
        exact hRow a ha hSame
      · rw [if_neg hSame]
        exact ⟨old, hOld, hOldToken⟩
    · obtain rfl := List.mem_singleton.mp ha
      refine ⟨hToken, row, ?_, ?_⟩
      · rw [if_pos hSession]
        rfl
      · exact (congrArg LeadershipLease.fencingToken hCopy).ge
  stands := by
    intro other
    simp only [Dict.lookup_insert_eq]
    by_cases hOther : other = sessionId
    · rw [if_pos hOther, if_pos hOther]
      exact .held hActive (hOther ▸ hCopy)
    · rw [if_neg hOther, if_neg hOther]
      exact h.stands other
  stored := by
    intro other stored hLookup
    rw [LeaseRun.returned_some]
    simp only [Dict.lookup_insert_eq] at hLookup
    split_ifs at hLookup with hOther
    · obtain rfl := Option.some.inj hLookup
      exact ⟨List.mem_append_right _ (List.mem_singleton_self _), hAcquired, hHolder.1, hHolder.2,
        hOther ▸ hStored⟩
    · obtain ⟨hReturned, hBefore, hRest⟩ := h.stored other stored hLookup
      exact ⟨List.mem_append_left _ hReturned, hBefore.trans hNow, hRest⟩
  sessions := h.sessions

/-! ### One request -/

/-- A row stands for a lease that has run out where the session is free. -/
theorem free (h : Simulates sessions rename last m p) (hFree : ¬ m.repository.Held sessionId now)
    {row : LeaseRow} (hRow : row ∈ p.repository.rows.lookup sessionId)
    (hActive : row.active = true) : row.expiresAt ≤ now := by
  have hStands := h.stands sessionId
  rw [Option.mem_def.mp hRow] at hStands
  generalize hLease : m.repository.leases.lookup sessionId = lease at hStands
  cases hStands with
  | ended hInactive => exact absurd (hActive.symm.trans hInactive) (by decide)
  | held _ hCopy =>
    have hExpires : row.expiresAt = _ := (congrArg LeadershipLease.expiresAt hCopy :)
    rw [hExpires]
    exact not_lt.mp fun hUnexpired =>
      hFree (MemoryLeadershipRepository.Held.of_lookup hLease hUnexpired)

/-- An acquisition of a session that is free in memory. -/
theorem acquire_granted (h : Simulates sessions rename last m p) (hNow : last ≤ now)
    (hFree : ¬ m.repository.Held sessionId now) (hTtl : 0 < ttlSeconds)
    (hSession : sessionId ∈ sessions)
    (hHolder : 1 ≤ holderId.length ∧ holderId.length ≤ 128) (events : List LeadershipEvent) :
    let granted := m.repository.grant sessionId holderId now ttlSeconds
    let answered := PostgresLeadershipRepository.acquire sessionId holderId now ttlSeconds
      p.repository
    ∃ rename', Simulates sessions rename' now
      ⟨⟨m.repository.leases.insert sessionId granted, events, m.repository.token + 1⟩,
        m.answers ++ [.ok (some granted)]⟩
      ⟨answered.2, p.answers ++ [answered.1]⟩ := by
  intro granted answered
  have hLater : now < now + timedelta ttlSeconds := lt_add_timedelta now hTtl
  let row := p.repository.grantRow sessionId holderId now ttlSeconds
  have hChecked : row.Checked :=
    ⟨Nat.le_add_left 1 _, hLater.le, le_rfl, iff_of_true rfl rfl⟩
  have hValid : (row.lease sessionId).Valid :=
    ⟨⟨hHolder, Nat.le_add_left 1 _⟩, le_rfl, hLater⟩
  obtain ⟨events', hWritten⟩ := PostgresLeadershipRepository.writeLease_ok hChecked
    (h.sessions.symm ▸ hSession) hValid .acquired now
  have hAnswered : answered = _ :=
    (PostgresLeadershipRepository.acquire_free (fun row hRow => h.free hFree hRow) holderId
      ttlSeconds).trans hWritten
  -- the new token of the session is renamed to the token of the new row
  let rename' : String → ℕ → ℕ := fun session token =>
    if session = sessionId ∧ token = m.repository.token + 1 then row.fencingToken
    else rename session token
  have hOld : ∀ a ∈ m.returned, ∀ session,
      rename' session a.fencingToken = rename session a.fencingToken := by
    intro a ha session
    refine if_neg fun hNew => ?_
    have hLe := (h.issued a ha).1
    omega
  have hNew : rename' sessionId (m.repository.token + 1) = row.fencingToken :=
    if_pos ⟨rfl, rfl⟩
  have hBelow : ∀ a ∈ m.returned, a.sessionId = sessionId →
      rename' sessionId a.fencingToken < row.fencingToken := by
    rintro a ha rfl
    obtain ⟨-, old, hRow, hToken⟩ := h.issued a ha
    rw [hOld a ha]
    exact hToken.trans_lt (PostgresLeadershipRepository.nextToken_lt hRow)
  refine ⟨rename', ?_⟩
  rw [hAnswered]
  refine (h.rename_congr fun a ha => hOld a ha _).store hNow ⟨row, hChecked⟩ events events'
    rfl rfl ?_ ?_ (Nat.le_succ _) le_rfl ?_ le_rfl hHolder hSession
  · show LeaseRowFields.lease sessionId row = _
    simp only [LeaseRowFields.lease, LeadershipLease.renamed, granted,
      MemoryLeadershipRepository.grant, hNew, row]
    rfl
  · intro a ha hSame
    show (_ < m.repository.token + 1 → _ < rename' sessionId (m.repository.token + 1)) ∧
      (m.repository.token + 1 < _ → _)
    rw [hNew]
    have hLe := (h.issued a ha).1
    exact ⟨fun _ => hBelow a ha hSame, fun hGreater => absurd hGreater (by omega)⟩
  · exact fun a ha hSame => (hBelow a ha hSame).le

/-- The row that a current lease selects is its copy. -/
theorem selected_current (h : Simulates sessions rename last m p) (hLease : lease ∈ m.returned)
    (hCurrent : m.repository.current lease = some stored) :
    ∃ row, p.repository.selected (lease.renamed rename) = some row ∧
      p.repository.rows.lookup lease.sessionId = some row ∧ row.active = true ∧
      row.lease lease.sessionId = stored.renamed rename := by
  rcases h.selected hLease with ⟨hNone, -⟩ | ⟨stored', row, hSome, hRow⟩
  · rw [hCurrent] at hNone
    cases hNone
  · rw [hCurrent] at hSome
    obtain rfl := Option.some.inj hSome
    exact ⟨row, hRow⟩

/-- A renewal of a current lease that has not run out. -/
theorem renew_current (h : Simulates sessions rename last m p) (hNow : last ≤ now)
    (hTtl : 0 < ttlSeconds) (hLease : lease ∈ m.returned)
    (hCurrent : m.repository.current lease = some stored) (hUnexpired : stored.Unexpired now)
    (events : List LeadershipEvent) :
    let renewed := MemoryLeadershipRepository.renewed stored now ttlSeconds
    let answered := PostgresLeadershipRepository.renew (lease.renamed rename) now ttlSeconds
      p.repository
    Simulates sessions rename now
      ⟨⟨m.repository.leases.insert lease.sessionId renewed, events, m.repository.token⟩,
        m.answers ++ [.ok (some renewed)]⟩
      ⟨answered.2, p.answers ++ [answered.1]⟩ := by
  intro renewed answered
  obtain ⟨hLookup, -, hToken⟩ := MemoryLeadershipRepository.current_eq_some.mp hCurrent
  obtain ⟨hStored, hAcquired, hHolder⟩ := h.stored _ _ hLookup
  obtain ⟨row, hSelected, hRow, hActive, hCopy⟩ := h.selected_current hLease hCurrent
  have hSession : lease.sessionId = stored.sessionId :=
    (congrArg LeadershipLease.sessionId hCopy :)
  have hRowHolder : row.holderId = stored.holderId := (congrArg LeadershipLease.holderId hCopy :)
  have hRowToken : row.fencingToken = rename stored.sessionId stored.fencingToken :=
    (congrArg LeadershipLease.fencingToken hCopy :)
  have hRowAcquired : row.acquiredAt = stored.acquiredAt :=
    (congrArg LeadershipLease.acquiredAt hCopy :)
  have hRowExpires : row.expiresAt = stored.expiresAt :=
    (congrArg LeadershipLease.expiresAt hCopy :)
  have hLater : now < now + timedelta ttlSeconds := lt_add_timedelta now hTtl
  let written : LeaseRowFields :=
    { row.toLeaseRowFields with renewedAt := now, expiresAt := now + timedelta ttlSeconds }
  have hBefore : row.acquiredAt ≤ now := hRowAcquired ▸ hAcquired.trans hNow
  have hChecked : written.Checked := ⟨row.checked.1, hLater.le, hBefore, row.checked.2.2.2⟩
  have hValid : (written.lease lease.sessionId).Valid := by
    refine ⟨⟨?_, row.checked.1⟩, hBefore, hLater⟩
    show 1 ≤ row.holderId.length ∧ row.holderId.length ≤ 128
    rw [hRowHolder]
    exact ⟨hHolder.1, hHolder.2.1⟩
  obtain ⟨events', hWritten⟩ := PostgresLeadershipRepository.writeLease_ok hChecked
    (h.sessions.symm ▸ hHolder.2.2) hValid .renewed now
  have hAnswered : answered =
      p.repository.writeLease lease.sessionId written .renewed now := by
    show PostgresLeadershipRepository.renew _ _ _ _ = _
    unfold PostgresLeadershipRepository.renew
    rw [hSelected]
    exact if_pos (hRowExpires ▸ hUnexpired)
  rw [hAnswered, hWritten]
  refine h.store hNow ⟨written, hChecked⟩ events events' hSession.symm hActive ?_ ?_ le_rfl
    (h.issued stored hStored).1 ?_ (hAcquired.trans hNow) ⟨hHolder.1, hHolder.2.1⟩ hHolder.2.2
  · show LeaseRowFields.lease lease.sessionId written = _
    simp only [LeaseRowFields.lease, LeadershipLease.renamed, renewed,
      MemoryLeadershipRepository.renewed, written, hSession, hRowHolder, hRowToken, hRowAcquired]
  · intro a ha hSame
    have hSame' : a.sessionId = stored.sessionId := hSame.trans hSession
    rw [hSession, ← hSame']
    refine ⟨fun hLess => ?_, fun hGreater => ?_⟩
    · have hIncreasing := h.increasing a ha stored hStored hSame' hLess
      rwa [← hSame'] at hIncreasing
    · have hIncreasing := h.increasing stored hStored a ha hSame'.symm hGreater
      rwa [← hSame'] at hIncreasing
  · intro a ha hSame
    obtain ⟨-, row', hRow', hLe⟩ := h.issued a ha
    rw [hSame, hRow] at hRow'
    obtain rfl := Option.some.inj hRow'
    rwa [hSame] at hLe

/-- A release of a current lease. -/
theorem release_current (h : Simulates sessions rename last m p) (hNow : last ≤ now)
    (hLease : lease ∈ m.returned) (hCurrent : m.repository.current lease = some stored)
    (events : List LeadershipEvent) :
    let answered := PostgresLeadershipRepository.release (lease.renamed rename) now p.repository
    answered.1 = .ok () ∧ Simulates sessions rename now
      ⟨⟨m.repository.leases.erase lease.sessionId, events, m.repository.token⟩,
        m.answers ++ [.ok none]⟩
      ⟨answered.2, p.answers ++ [.ok none]⟩ := by
  intro answered
  obtain ⟨hLookup, -, -⟩ := MemoryLeadershipRepository.current_eq_some.mp hCurrent
  obtain ⟨hStored, hAcquired, hHolder⟩ := h.stored _ _ hLookup
  obtain ⟨row, hSelected, hRow, hActive, hCopy⟩ := h.selected_current hLease hCurrent
  have hRowAcquired : row.acquiredAt = stored.acquiredAt :=
    (congrArg LeadershipLease.acquiredAt hCopy :)
  let written : LeaseRowFields := { row.toLeaseRowFields with
    active := false, releasedAt := some now, renewedAt := now, expiresAt := now }
  have hChecked : written.Checked :=
    ⟨row.checked.1, le_rfl, hRowAcquired ▸ hAcquired.trans hNow, by simp [written]⟩
  obtain ⟨events', hAnswered⟩ : ∃ events', answered = (.ok (),
      ⟨p.repository.sessions, p.repository.rows.insert lease.sessionId ⟨written, hChecked⟩,
        events'⟩) := by
    show ∃ events', PostgresLeadershipRepository.release _ _ _ = _
    unfold PostgresLeadershipRepository.release PostgresLeadershipRepository.writeRow
    have hSession : (lease.renamed rename).sessionId ∈ p.repository.sessions :=
      h.sessions.symm ▸ hHolder.2.2
    simp only [hSelected, dif_pos hChecked, written, if_pos hSession]
    unfold PostgresLeadershipRepository.appendEvent
    split_ifs
    · exact ⟨_, rfl⟩
    · exact ⟨_, rfl⟩
  rw [hAnswered]
  refine ⟨rfl, ?_, ?_, ?_, ?_, ?_, h.sessions⟩
  · exact (h.quiet hNow).answers
  · exact (h.quiet hNow).increasing
  · intro a ha
    obtain ⟨hToken, row', hRow', hLe⟩ := (h.quiet hNow).issued a ha
    refine ⟨hToken, ?_⟩
    simp only [Dict.lookup_insert_eq]
    by_cases hSame : a.sessionId = lease.sessionId
    · rw [hSame, hRow] at hRow'
      obtain rfl := Option.some.inj hRow'
      exact ⟨_, if_pos hSame, hLe⟩
    · exact ⟨row', (if_neg hSame).trans hRow', hLe⟩
  · intro sessionId
    simp only [Dict.lookup_insert_eq]
    by_cases hSame : sessionId = lease.sessionId
    · rw [if_pos hSame, hSame, AList.lookup_erase]
      exact .ended rfl
    · rw [if_neg hSame, AList.lookup_erase_ne hSame]
      exact h.stands sessionId
  · intro sessionId other hOther
    by_cases hSame : sessionId = lease.sessionId
    · subst hSame
      rw [AList.lookup_erase] at hOther
      cases hOther
    · rw [AList.lookup_erase_ne hSame] at hOther
      exact (h.quiet hNow).stored sessionId other hOther

theorem later (h : Simulates sessions rename last m p) (hNow : last ≤ now) :
    Simulates sessions rename now m p :=
  { h with
    stored := fun sessionId lease hLease =>
      have hStored := h.stored sessionId lease hLease
      ⟨hStored.1, hStored.2.1.trans hNow, hStored.2.2⟩ }

theorem acquire (h : Simulates sessions rename last m p) (hNow : last ≤ now)
    (hTtl : 0 < ttlSeconds)
    (hStorable : Storable sessions m.repository (.acquire sessionId holderId now ttlSeconds)) :
    ∃ rename', Simulates sessions rename' now
      (m.request MemoryLeadershipRepository.repository (.acquire sessionId holderId now ttlSeconds))
      (p.request PostgresLeadershipRepository.repository
        (.acquire sessionId holderId now ttlSeconds)) := by
  unfold LeaseRun.request
  simp only [LeaseRequest.call]
  cases hMemory : (MemoryLeadershipRepository.repository.perform
      (.acquire sessionId holderId now ttlSeconds)).exec m.repository with
  | mk answer r' =>
    cases MemoryLeadershipRepository.perform_answers hMemory with
    | denied hHeld =>
      have hDenied : (PostgresLeadershipRepository.repository.perform
          (.acquire sessionId holderId now ttlSeconds)).exec p.repository =
            (.ok none, p.repository) := by
        obtain ⟨stored, hLookup, hUnexpired⟩ := hHeld
        have hStands := h.stands sessionId
        rw [Option.mem_def.mp hLookup] at hStands
        show PostgresLeadershipRepository.acquire _ _ _ _ _ = _
        unfold PostgresLeadershipRepository.acquire
        generalize p.repository.rows.lookup sessionId = row at hStands ⊢
        cases hStands with
        | @held _ row hActive hCopy =>
          have hExpires : row.expiresAt = stored.expiresAt :=
            (congrArg LeadershipLease.expiresAt hCopy :)
          refine if_neg ?_
          rintro (hInactive | hEnded)
          · exact hInactive hActive
          · exact absurd (hExpires ▸ hEnded) (not_le.mpr hUnexpired)
      rw [hDenied]
      exact ⟨rename, h.quiet hNow⟩
    | invalid hFree hInvalid =>
      obtain ⟨-, hHolder⟩ := hStorable.resolve_left hFree
      refine absurd ?_ hInvalid
      exact ⟨⟨hHolder, Nat.le_add_left 1 _⟩, le_rfl, lt_add_timedelta now hTtl⟩
    | granted hFree hValid events =>
      obtain ⟨hSession, hHolder⟩ := hStorable.resolve_left hFree
      exact h.acquire_granted hNow hFree hTtl hSession hHolder events

theorem renew (h : Simulates sessions rename last m p) (hNow : last ≤ now) (hTtl : 0 < ttlSeconds)
    (number : ℕ) :
    Simulates sessions rename now
      (m.request MemoryLeadershipRepository.repository (.renew number now ttlSeconds))
      (p.request PostgresLeadershipRepository.repository (.renew number now ttlSeconds)) := by
  unfold LeaseRun.request
  simp only [LeaseRequest.call, h.returned, List.getElem?_map, Option.map_map]
  cases hLease : m.returned[number]? with
  | none => exact h.later hNow
  | some lease =>
    have hReturned := List.mem_of_getElem? hLease
    simp only [Option.map_some, Function.comp_apply]
    cases hMemory : (MemoryLeadershipRepository.repository.perform
        (.renew lease now ttlSeconds)).exec m.repository with
    | mk answer r' =>
      have hPostgres : ∀ row, p.repository.selected (lease.renamed rename) = row →
          (∀ selected ∈ row, ¬ now < selected.expiresAt) →
          (PostgresLeadershipRepository.repository.perform
            (.renew (lease.renamed rename) now ttlSeconds)).exec p.repository =
              (.ok none, p.repository) := by
        intro row hRow hEnded
        show PostgresLeadershipRepository.renew _ _ _ _ = _
        unfold PostgresLeadershipRepository.renew
        rw [hRow]
        cases row with
        | none => rfl
        | some selected => exact if_neg (hEnded selected rfl)
      cases MemoryLeadershipRepository.perform_answers hMemory with
      | stale hNone =>
        rcases h.selected hReturned with ⟨-, hSelected⟩ | ⟨stored, row, hSome, -⟩
        · rw [hPostgres none hSelected (by simp)]
          exact h.quiet hNow
        · rw [hNone] at hSome
          cases hSome
      | @expired _ stored _ _ hCurrent hEnded =>
        obtain ⟨row, hSelected, -, -, hCopy⟩ := h.selected_current hReturned hCurrent
        have hExpires : row.expiresAt = stored.expiresAt :=
          (congrArg LeadershipLease.expiresAt hCopy :)
        have hRowEnded : ∀ selected ∈ some row, ¬ now < selected.expiresAt := by
          intro selected hMem
          rw [← Option.some.inj hMem, hExpires]
          exact not_lt.mpr hEnded
        rw [hPostgres (some row) hSelected hRowEnded]
        exact h.quiet hNow
      | renewed hCurrent hUnexpired events =>
        exact h.renew_current hNow hTtl hReturned hCurrent hUnexpired events

theorem release (h : Simulates sessions rename last m p) (hNow : last ≤ now) (number : ℕ) :
    Simulates sessions rename now
      (m.request MemoryLeadershipRepository.repository (.release number now))
      (p.request PostgresLeadershipRepository.repository (.release number now)) := by
  unfold LeaseRun.request
  simp only [LeaseRequest.call, h.returned, List.getElem?_map, Option.map_map]
  cases hLease : m.returned[number]? with
  | none => exact h.later hNow
  | some lease =>
    have hReturned := List.mem_of_getElem? hLease
    simp only [Option.map_some, Function.comp_apply]
    have hPostgres : (PostgresLeadershipRepository.repository.perform
        (.release (lease.renamed rename) now)).exec p.repository = _ :=
      Program.exec_bind _ _ _
    rw [hPostgres, Program.exec_step]
    simp only [PostgresLeadershipRepository.repository]
    cases hMemory : (MemoryLeadershipRepository.repository.perform
        (.release lease now)).exec m.repository with
    | mk answer r' =>
      cases MemoryLeadershipRepository.perform_answers hMemory with
      | unknown hNone =>
        rcases h.selected hReturned with ⟨-, hSelected⟩ | ⟨stored, row, hSome, -⟩
        · unfold PostgresLeadershipRepository.release
          rw [hSelected]
          exact h.quiet hNow
        · rw [hNone] at hSome
          cases hSome
      | released hCurrent events =>
        obtain ⟨hOk, hSimulates⟩ := h.release_current hNow hReturned hCurrent events
        cases hAnswered : PostgresLeadershipRepository.release (lease.renamed rename) now
            p.repository with
        | mk answer r' =>
          rw [hAnswered] at hOk hSimulates
          obtain rfl : answer = .ok () := hOk
          exact hSimulates

/-- One request. -/
theorem request (h : Simulates sessions rename last m p) {request : LeaseRequest}
    (hNow : last ≤ request.now) (hLasting : request.Lasting)
    (hStorable : Storable sessions m.repository request) :
    ∃ rename', Simulates sessions rename' request.now
      (m.request MemoryLeadershipRepository.repository request)
      (p.request PostgresLeadershipRepository.repository request) := by
  cases request with
  | acquire sessionId holderId now ttlSeconds => exact h.acquire hNow hLasting hStorable
  | renew number now ttlSeconds => exact ⟨rename, h.renew hNow hLasting number⟩
  | release number now => exact ⟨rename, h.release hNow number⟩

end Simulates

/-! ### Runs -/

variable {sessions : List String} {requests : List LeaseRequest}

/-- Every acquisition of a run that is not denied can be stored. -/
def AllStorable (sessions : List String) (requests : List LeaseRequest) : Prop :=
  ∀ number, (h : number < requests.length) →
    Storable sessions (memoryRun (requests.take number)).repository requests[number]

instance (sessions : List String) (requests : List LeaseRequest) :
    Decidable (AllStorable sessions requests) := by
  unfold AllStorable; infer_instance

theorem AllStorable.of_append {request : LeaseRequest}
    (h : AllStorable sessions (requests ++ [request])) :
    AllStorable sessions requests ∧
      Storable sessions (memoryRun requests).repository request := by
  constructor
  · intro number hNumber
    have hStorable := h number (by simp; omega)
    rwa [List.take_append_of_le_length hNumber.le, List.getElem_append_left hNumber] at hStorable
  · have hStorable := h requests.length (by simp)
    simpa using hStorable

theorem simulates_empty (sessions : List String) (now : Timestamp) :
    Simulates sessions (fun _ token => token) now (memoryRun []) (postgresRun sessions []) where
  answers := rfl
  increasing := by
    intro a ha
    cases ha
  issued := by
    intro a ha
    cases ha
  stands := fun _ => .absent
  stored := by
    intro sessionId lease hLease
    cases hLease
  sessions := rfl

/-- The two stores run alike. -/
theorem simulates_run (hOrdered : requests.Pairwise fun earlier later => earlier.now ≤ later.now)
    (hLasting : ∀ request ∈ requests, request.Lasting) (hStorable : AllStorable sessions requests)
    {now : Timestamp} (hNow : ∀ request ∈ requests, request.now ≤ now) :
    ∃ rename,
      Simulates sessions rename now (memoryRun requests) (postgresRun sessions requests) := by
  induction requests using List.reverseRecOn generalizing now with
  | nil => exact ⟨_, simulates_empty sessions now⟩
  | append_singleton requests request ih =>
    obtain ⟨hEarlier, -, hBefore⟩ := List.pairwise_append.mp hOrdered
    obtain ⟨hStorables, hStore⟩ := hStorable.of_append
    have hRequest : request ∈ requests ++ [request] :=
      List.mem_append_right _ (List.mem_singleton_self _)
    obtain ⟨rename, hSimulates⟩ := ih hEarlier
      (fun earlier hMem => hLasting earlier (List.mem_append_left _ hMem)) hStorables
      (fun earlier hMem => hBefore earlier hMem request (List.mem_singleton_self _))
    obtain ⟨rename', hNext⟩ := hSimulates.request le_rfl (hLasting request hRequest) hStore
    refine ⟨rename', ?_⟩
    rw [memoryRun, postgresRun, LeaseRun.play, LeaseRun.play, List.foldl_concat, List.foldl_concat]
    exact hNext.later (hNow request hRequest)

/-- With times that never decrease and positive times to live, where every acquisition
that is not denied names a stored session and a holder of 1 to 128 characters, the two
stores answer alike, up to a renaming of the tokens that keeps their order in each
session. -/
theorem lease_stores_agree (sessions : List String) (requests : List LeaseRequest)
    (hOrdered : requests.Pairwise fun earlier later => earlier.now ≤ later.now)
    (hLasting : ∀ request ∈ requests, request.Lasting)
    (hStorable : AllStorable sessions requests) :
    ∃ rename : String → ℕ → ℕ,
      (∀ sessionId, StrictMonoOn (rename sessionId)
        {token | ∃ lease ∈ (memoryRun requests).returned,
          lease.sessionId = sessionId ∧ lease.fencingToken = token}) ∧
      (postgresRun sessions requests).answers =
        (memoryRun requests).answers.map (·.renamed rename) := by
  obtain ⟨now, hNow⟩ : ∃ now, ∀ request ∈ requests, request.now ≤ now := by
    rcases List.eq_nil_or_concat requests with rfl | ⟨earlier, last, rfl⟩
    · exact ⟨0, by simp⟩
    · refine ⟨last.now, fun request hRequest => ?_⟩
      rw [List.concat_eq_append] at hRequest hOrdered
      rcases List.mem_append.mp hRequest with hEarlier | hLast
      · exact (List.pairwise_append.mp hOrdered).2.2 request hEarlier last
          (List.mem_singleton_self _)
      · rw [List.mem_singleton.mp hLast]
  obtain ⟨rename, hSimulates⟩ := simulates_run hOrdered hLasting hStorable hNow
  refine ⟨rename, ?_, hSimulates.answers⟩
  rintro sessionId _ ⟨a, ha, rfl, rfl⟩ _ ⟨b, hb, hSession, rfl⟩ hLess
  have hIncreasing := hSimulates.increasing a ha b hb hSession.symm hLess
  rwa [hSession] at hIncreasing

/-- Expiry, takeover, a stale renewal and a double release. -/
def takeoverRequests : List LeaseRequest :=
  [.acquire "session-1" "holder-a" 0 30, .acquire "session-1" "holder-b" 1 30,
    .acquire "session-2" "holder-b" 1 30, .renew 0 20000000 30,
    .acquire "session-1" "holder-b" 50000000 30, .renew 2 50000001 30, .release 3 50000002,
    .release 3 50000003, .acquire "session-1" "holder-a" 50000004 30]

theorem takeoverRequests_agree :
    ∃ rename : String → ℕ → ℕ,
      (∀ sessionId, StrictMonoOn (rename sessionId)
        {token | ∃ lease ∈ (memoryRun takeoverRequests).returned,
          lease.sessionId = sessionId ∧ lease.fencingToken = token}) ∧
      (postgresRun ["session-1", "session-2"] takeoverRequests).answers =
        (memoryRun takeoverRequests).answers.map (·.renamed rename) :=
  lease_stores_agree ["session-1", "session-2"] takeoverRequests (by decide) (by decide)
    (by decide +kernel)

/-- A holder without a name is refused by both stores, and leaves an active row behind. -/
def namelessRequests : List LeaseRequest :=
  [.acquire "session-1" "" 0 30, .acquire "session-1" "holder-b" 1 30]

theorem nameless_stores_differ :
    (namelessRequests.Pairwise fun earlier later => earlier.now ≤ later.now) ∧
      (∀ request ∈ namelessRequests, request.Lasting) ∧
      ¬ ∃ rename : String → ℕ → ℕ, (postgresRun ["session-1"] namelessRequests).answers =
        (memoryRun namelessRequests).answers.map (·.renamed rename) := by
  refine ⟨by decide, by decide, ?_⟩
  rintro ⟨rename, hAnswers⟩
  have hGranted := congrArg (List.map fun answer => answer.lease.isSome) hAnswers
  simp only [List.map_map, Function.comp_def, LeaseAnswer.lease_renamed, Option.isSome_map]
    at hGranted
  revert hGranted
  decide +kernel

end Daybreak.Orchestration
