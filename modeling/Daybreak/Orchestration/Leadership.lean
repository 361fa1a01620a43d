import Daybreak.Effect.Dict
import Daybreak.Orchestration.Session

/-! Leases of sessions, with a fencing token each, in two stores. The one in memory
deletes a lease that is released and counts the tokens of all sessions together; the
other keeps one row for each session, with a flag and a token of its own, under the
checks of its table. A row is written before it is read back as a lease. -/

namespace Daybreak.Orchestration

open Effect

/-! ### Leases and their events -/

/-- Field bounds, then `valid_window`. -/
def LeadershipLease.Valid (lease : LeadershipLease) : Prop :=
  ((1 ≤ lease.holderId.length ∧ lease.holderId.length ≤ 128) ∧ 1 ≤ lease.fencingToken) ∧
    lease.acquiredAt ≤ lease.renewedAt ∧ lease.renewedAt < lease.expiresAt

instance (lease : LeadershipLease) : Decidable lease.Valid := by
  unfold LeadershipLease.Valid; infer_instance

/-- `LeadershipLease(...)` -/
def leadershipLease (lease : LeadershipLease) : Except Exc LeadershipLease :=
  if lease.Valid then .ok lease else .error (validationError "LeadershipLease")

/-- The lease has not run out. -/
def LeadershipLease.Unexpired (lease : LeadershipLease) (now : Timestamp) : Prop :=
  now < lease.expiresAt

instance (lease : LeadershipLease) (now : Timestamp) : Decidable (lease.Unexpired now) :=
  inferInstanceAs (Decidable (now < lease.expiresAt))

inductive LeadershipEventType where
  | acquired | renewed | released | lost
  deriving DecidableEq, Repr

structure LeadershipEvent where
  sessionId : String
  holderId : String
  eventType : LeadershipEventType
  eventTimestamp : Timestamp
  fencingToken : ℕ
  expiresAt : Timestamp
  deriving DecidableEq, Repr

def leaseEvent (lease : LeadershipLease) (eventType : LeadershipEventType) (now : Timestamp) :
    LeadershipEvent where
  sessionId := lease.sessionId
  holderId := lease.holderId
  eventType := eventType
  eventTimestamp := now
  fencingToken := lease.fencingToken
  expiresAt := lease.expiresAt

/-! ### Calls -/

inductive LeadershipCall where
  | acquire (sessionId holderId : String) (now : Timestamp) (ttlSeconds : ℕ)
  | renew (lease : LeadershipLease) (now : Timestamp) (ttlSeconds : ℕ)
  | release (lease : LeadershipLease) (now : Timestamp)
  deriving DecidableEq, Repr

def LeadershipCall.now : LeadershipCall → Timestamp
  | .acquire _ _ now _ => now
  | .renew _ now _ => now
  | .release _ now => now

/-- A call of a repository, with the lease that it answers. -/
def LeadershipRepository.perform {σ : Type} (repository : LeadershipRepository σ) :
    LeadershipCall → Program σ Exc (Option LeadershipLease)
  | .acquire sessionId holderId now ttlSeconds =>
    .step (repository.acquire sessionId holderId now ttlSeconds)
  | .renew lease now ttlSeconds => .step (repository.renew lease now ttlSeconds)
  | .release lease now => do
    .step (repository.release lease now)
    return none

/-! ### In memory -/

structure MemoryLeadershipRepository where
  leases : Dict String LeadershipLease
  events : List LeadershipEvent
  token : ℕ

namespace MemoryLeadershipRepository

def empty : MemoryLeadershipRepository := ⟨∅, [], 0⟩

/-- `_append_lease_event` -/
def appendLeaseEvent (r : MemoryLeadershipRepository) (lease : LeadershipLease)
    (eventType : LeadershipEventType) (now : Timestamp) : MemoryLeadershipRepository :=
  { r with events := r.events ++ [leaseEvent lease eventType now] }

def store (r : MemoryLeadershipRepository) (sessionId : String) (lease : LeadershipLease) :
    MemoryLeadershipRepository :=
  { r with leases := r.leases.insert sessionId lease }

/-- A lease of the session is stored that has not run out. -/
def Held (r : MemoryLeadershipRepository) (sessionId : String) (now : Timestamp) : Prop :=
  ∃ existing ∈ r.leases.lookup sessionId, existing.Unexpired now

instance (r : MemoryLeadershipRepository) (sessionId : String) (now : Timestamp) :
    Decidable (r.Held sessionId now) := by
  unfold Held; infer_instance

def acquire (sessionId holderId : String) (now : Timestamp) (ttlSeconds : ℕ)
    (r : MemoryLeadershipRepository) :
    Except Exc (Option LeadershipLease) × MemoryLeadershipRepository :=
  if r.Held sessionId now then (.ok none, r)
  else
    let r := { r with token := r.token + 1 }
    match leadershipLease {
        sessionId := sessionId
        holderId := holderId
        acquiredAt := now
        renewedAt := now
        expiresAt := now + timedelta ttlSeconds
        fencingToken := r.token } with
    | .error e => (.error e, r)
    | .ok lease =>
      (.ok (some lease), (r.store sessionId lease).appendLeaseEvent lease .acquired now)

/-- The stored lease of which the given one is a copy, as holder and token tell. -/
def current (r : MemoryLeadershipRepository) (lease : LeadershipLease) : Option LeadershipLease :=
  (r.leases.lookup lease.sessionId).filter fun current =>
    current.holderId = lease.holderId ∧ current.fencingToken = lease.fencingToken

/-- `current.model_copy(update=...)`, which checks nothing. -/
def renewed (current : LeadershipLease) (now : Timestamp) (ttlSeconds : ℕ) : LeadershipLease :=
  { current with renewedAt := now, expiresAt := now + timedelta ttlSeconds }

def renew (lease : LeadershipLease) (now : Timestamp) (ttlSeconds : ℕ)
    (r : MemoryLeadershipRepository) :
    Except Exc (Option LeadershipLease) × MemoryLeadershipRepository :=
  match r.current lease with
  | none => (.ok none, r)
  | some current =>
    if current.expiresAt ≤ now then (.ok none, r)
    else
      let renewed := renewed current now ttlSeconds
      (.ok (some renewed),
        (r.store lease.sessionId renewed).appendLeaseEvent renewed .renewed now)

def release (lease : LeadershipLease) (now : Timestamp) (r : MemoryLeadershipRepository) :
    Except Exc Unit × MemoryLeadershipRepository :=
  match r.current lease with
  | none => (.ok (), r)
  | some current =>
    (.ok (), { r with leases := r.leases.erase lease.sessionId }.appendLeaseEvent current
      .released now)

def repository : LeadershipRepository MemoryLeadershipRepository := ⟨acquire, renew, release⟩

end MemoryLeadershipRepository

/-! ### In PostgreSQL -/

structure LeaseRowFields where
  holderId : String
  acquiredAt : Timestamp
  renewedAt : Timestamp
  expiresAt : Timestamp
  fencingToken : ℕ
  active : Bool
  releasedAt : Option Timestamp
  deriving DecidableEq, Repr

/-- The checks of `orchestration_leases`. -/
def LeaseRowFields.Checked (row : LeaseRowFields) : Prop :=
  1 ≤ row.fencingToken ∧ row.renewedAt ≤ row.expiresAt ∧ row.acquiredAt ≤ row.renewedAt ∧
    (row.active = true ↔ row.releasedAt = none)

instance (row : LeaseRowFields) : Decidable row.Checked := by
  unfold LeaseRowFields.Checked; infer_instance

structure LeaseRow extends LeaseRowFields where
  checked : toLeaseRowFields.Checked

/-- The columns that a query returns. -/
def LeaseRowFields.lease (sessionId : String) (row : LeaseRowFields) : LeadershipLease where
  sessionId := sessionId
  holderId := row.holderId
  acquiredAt := row.acquiredAt
  renewedAt := row.renewedAt
  expiresAt := row.expiresAt
  fencingToken := row.fencingToken

/-- The sessions that are stored, and the leases and events that refer to them. -/
structure PostgresLeadershipRepository where
  sessions : List String
  rows : Dict String LeaseRow
  events : List LeadershipEvent

namespace PostgresLeadershipRepository

def empty (sessions : List String) : PostgresLeadershipRepository := ⟨sessions, ∅, []⟩

/-- `append_event`; an event that is there already is not stored again. -/
def appendEvent (event : LeadershipEvent) (r : PostgresLeadershipRepository) :
    PostgresLeadershipRepository :=
  if event ∈ r.events then r else { r with events := r.events ++ [event] }

/-- A row that fails a check, or refers to no session, is not written. -/
def writeRow (sessionId : String) (row : LeaseRowFields) (r : PostgresLeadershipRepository) :
    Except Exc PostgresLeadershipRepository :=
  if h : row.Checked then
    if sessionId ∈ r.sessions then .ok { r with rows := r.rows.insert sessionId ⟨row, h⟩ }
    else .error (.other "ForeignKeyViolation" "orchestration_leases")
  else .error (.other "CheckViolation" "orchestration_leases")

/-- A row is written and committed, and then read back as a lease. -/
def writeLease (sessionId : String) (row : LeaseRowFields) (eventType : LeadershipEventType)
    (now : Timestamp) (r : PostgresLeadershipRepository) :
    Except Exc (Option LeadershipLease) × PostgresLeadershipRepository :=
  match r.writeRow sessionId row with
  | .error e => (.error e, r)
  | .ok r =>
    match leadershipLease (row.lease sessionId) with
    | .error e => (.error e, r)
    | .ok lease => (.ok (some lease), r.appendEvent (leaseEvent lease eventType now))

def acquire (sessionId holderId : String) (now : Timestamp) (ttlSeconds : ℕ)
    (r : PostgresLeadershipRepository) :
    Except Exc (Option LeadershipLease) × PostgresLeadershipRepository :=
  let inserted : LeaseRowFields := {
    holderId := holderId
    acquiredAt := now
    renewedAt := now
    expiresAt := now + timedelta ttlSeconds
    fencingToken := 1
    active := true
    releasedAt := none }
  match r.rows.lookup sessionId with
  | none => r.writeLease sessionId inserted .acquired now
  | some row =>
    if ¬row.active ∨ row.expiresAt ≤ now then
      r.writeLease sessionId { inserted with fencingToken := row.fencingToken + 1 } .acquired now
    else (.ok none, r)

/-- The active row that holder and token of a lease select. -/
def selected (r : PostgresLeadershipRepository) (lease : LeadershipLease) : Option LeaseRow :=
  (r.rows.lookup lease.sessionId).filter fun row =>
    row.holderId = lease.holderId ∧ row.fencingToken = lease.fencingToken ∧ row.active

def renew (lease : LeadershipLease) (now : Timestamp) (ttlSeconds : ℕ)
    (r : PostgresLeadershipRepository) :
    Except Exc (Option LeadershipLease) × PostgresLeadershipRepository :=
  match r.selected lease with
  | none => (.ok none, r)
  | some row =>
    if now < row.expiresAt then
      r.writeLease lease.sessionId
        { row.toLeaseRowFields with renewedAt := now, expiresAt := now + timedelta ttlSeconds }
        .renewed now
    else (.ok none, r)

def release (lease : LeadershipLease) (now : Timestamp) (r : PostgresLeadershipRepository) :
    Except Exc Unit × PostgresLeadershipRepository :=
  match r.selected lease with
  | none => (.ok (), r)
  | some row =>
    match r.writeRow lease.sessionId { row.toLeaseRowFields with
        active := false, releasedAt := some now, renewedAt := now, expiresAt := now } with
    | .error e => (.error e, r)
    | .ok r => (.ok (), r.appendEvent (leaseEvent lease .released now))

def repository : LeadershipRepository PostgresLeadershipRepository := ⟨acquire, renew, release⟩

end PostgresLeadershipRepository

end Daybreak.Orchestration
