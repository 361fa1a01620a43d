import Daybreak.Effect.Steps
import Daybreak.Effect.Table
import Daybreak.Risk.Canonical
import Daybreak.Risk.Persistence

/-! The risk store in PostgreSQL, and the in-memory one that stands for it in tests. The one
compares hashes, and what a conflict clause passes over is not compared at all; the other
compares objects by their values. The two accept the same calls exactly as long as no stored
request is saved again with other digits, no stored reservation is replaced, and no decision
of a refused reservation is saved as another. -/

namespace Daybreak.Risk

open Numeric DecimalArithmetic Effect Effect.Steps MemoryRiskRepository Serial

/-! ### The database -/

/-- A decision that pydantic constructed: its hash is that of its body. -/
structure SealedDecision (sha256 : Json → String) extends RiskDecision Decimal where
  valid : toRiskDecision.Valid
  hashed : decisionHash = sha256 toRiskDecision.body

/-- A row of `risk_sizing_requests`. -/
structure RequestRow where
  request : SizingRequest Decimal
  inputHash : String

/-- A row of `risk_reservations`. -/
structure ReservationRow where
  decisionId : String
  reservation : RiskReservation Decimal

/-- The tables of the database; that of the decisions holds the decisions themselves, and that
of the events a status with its time. -/
structure PostgresRiskRepository where
  requests : Dict String RequestRow
  decisions : Dict String (RiskDecision Decimal)
  reservations : Dict String ReservationRow
  events : Dict (String × ℕ) (ReservationStatus × Timestamp)

namespace PostgresRiskRepository

def empty : PostgresRiskRepository := ⟨∅, ∅, ∅, ∅⟩

def unique : PyError := .other "UniqueViolation"

def foreignKey : PyError := .other "ForeignKeyViolation"

def saveRequest (sha256 : Json → String) (request : SizingRequest Decimal)
    (db : PostgresRiskRepository) : Result PostgresRiskRepository := do
  let inputHash := sha256 request.json
  let requests ← db.requests.insertOrIgnore request.requestId ⟨request, inputHash⟩ (.ok ())
  ensure (∀ existing ∈ db.requests.lookup request.requestId, existing.inputHash = inputHash)
    (.runtimeError "risk sizing request identity collision")
  return { db with requests }

/-- `_insert_decision` -/
def insertDecision (d : RiskDecision Decimal) (db : PostgresRiskRepository) :
    Result PostgresRiskRepository := do
  let decisions ← db.decisions.insertOrIgnore d.decisionId d do
    ensure (db.decisions.Unused (·.decisionHash) d.decisionHash) unique
    ensure (d.requestId ∈ db.requests) foreignKey
  ensure (∀ existing ∈ db.decisions.lookup d.decisionId, existing.decisionHash = d.decisionHash)
    (.runtimeError "risk decision identity collision")
  return { db with decisions }

def insertReservation (d : RiskDecision Decimal) (r : RiskReservation Decimal)
    (db : PostgresRiskRepository) : Result PostgresRiskRepository := do
  let reservations ← db.reservations.insertOrIgnore r.reservationId ⟨d.decisionId, r⟩ do
    ensure (db.reservations.Unused (·.decisionId) d.decisionId) unique
    ensure (db.reservations.Unused (·.reservation.clientOrderId) r.clientOrderId) unique
    ensure (d.decisionId ∈ db.decisions) foreignKey
    ensure (r.requestId ∈ db.requests) foreignKey
  return { db with reservations }

/-- The first event of a reservation. -/
def insertEvent (r : RiskReservation Decimal) (db : PostgresRiskRepository) :
    Result PostgresRiskRepository := do
  let events ← db.events.insertOrIgnore (r.reservationId, 1) (r.status, r.createdAt) <|
    ensure (r.reservationId ∈ db.reservations) foreignKey
  return { db with events }

def reserve (d : RiskDecision Decimal) (db : PostgresRiskRepository) :
    Result PostgresRiskRepository :=
  match d.reservation with
  | none => insertDecision d db
  | some r => do
    let db ← insertDecision d db
    let db ← insertReservation d r db
    insertEvent r db

/-- A transaction that raises is rolled back. -/
def commit (db : PostgresRiskRepository) (x : Result PostgresRiskRepository) :
    PostgresRiskRepository :=
  match x with
  | .ok db' => db'
  | .error _ => db

end PostgresRiskRepository

/-! ### The two stores -/

variable {sha256 : Json → String}

/-- A call to both of the stores. -/
inductive StoreCall (sha256 : Json → String) where
  | saveRequest (request : SizingRequest Decimal)
  | saveDecision (decision : SealedDecision sha256)
  | reserve (decision : SealedDecision sha256)

structure Stores where
  memory : MemoryRiskRepository Decimal
  database : PostgresRiskRepository

namespace StoreCall

def toCall : StoreCall sha256 → Call Decimal
  | saveRequest request => .saveRequest request
  | saveDecision d => .saveDecision ⟨d.toRiskDecision, d.valid⟩
  | reserve d => .reserve ⟨d.toRiskDecision, d.valid⟩

/-- What a call does in its transaction. -/
def transaction : StoreCall sha256 → PostgresRiskRepository → Result PostgresRiskRepository
  | saveRequest request => PostgresRiskRepository.saveRequest sha256 request
  | saveDecision d => PostgresRiskRepository.insertDecision d.toRiskDecision
  | reserve d => PostgresRiskRepository.reserve d.toRiskDecision

/-- The stores after a call, whether it returned or raised. -/
def step (s : Stores) (call : StoreCall sha256) : Option Stores :=
  some ⟨call.toCall.after s.memory, s.database.commit (call.transaction s.database)⟩

/-- The decision of a call. -/
def decision? : StoreCall sha256 → Option (RiskDecision Decimal)
  | saveRequest _ => none
  | saveDecision d => some d.toRiskDecision
  | reserve d => some d.toRiskDecision

/-- What is hashed of the object of a call. -/
def body : StoreCall sha256 → Json
  | saveRequest request => request.json
  | saveDecision d => d.toRiskDecision.body
  | reserve d => d.toRiskDecision.body

end StoreCall

/-- Both stores accept a call, or both raise. -/
def Agree (s : Stores) (call : StoreCall sha256) : Prop :=
  (∃ u, (call.toCall.perform.exec s.memory).1 = .ok u) ↔ ∃ db, call.transaction s.database = .ok db

/-- The decision is not stored in memory alone, where another is stored under its id. -/
def Recorded (s : Stores) (d : RiskDecision Decimal) : Prop :=
  d.decisionId ∈ s.database.decisions ∨ DecisionFits s.memory d

/-- The client order id of a reservation that is not stored is that of one that is. -/
def ClientOrderIdTaken (s : Stores) (r : RiskReservation Decimal) : Prop :=
  r.reservationId ∉ s.memory.reservations ∧
    ∃ id item, s.memory.reservations.lookup id = some item ∧ item.clientOrderId = r.clientOrderId

/-- What a call meets in the stores where they treat it alike. A request that is stored with
these values is stored with these digits; a decision is not in memory alone as another; a
reservation that is stored under the id is this one. -/
def Alike (s : Stores) : StoreCall sha256 → Prop
  | .saveRequest request => ∀ existing ∈ s.memory.requests.lookup request.requestId,
      existing.mapDecimal value = request.mapDecimal value → existing.json = request.json
  | .saveDecision d => Recorded s d.toRiskDecision
  | .reserve d =>
    match d.reservation with
    | none => Recorded s d.toRiskDecision
    | some r => (Recorded s d.toRiskDecision ∨ ClientOrderIdTaken s r) ∧
        (DecisionFits s.memory d.toRiskDecision →
          ∀ existing ∈ s.memory.reservations.lookup r.reservationId,
            existing.mapDecimal value = r.mapDecimal value)

/-! ### What the memory accepts -/

section Memory

variable {repo : MemoryRiskRepository Decimal} {d : RiskDecision Decimal}

theorem memory_saves_request {request : SizingRequest Decimal} :
    (∃ u, ((saveRequest request).exec repo).1 = .ok u) ↔
      ∀ existing ∈ repo.requests.lookup request.requestId,
        existing.mapDecimal value = request.mapDecimal value := by
  rw [saveRequest_exec]
  split_ifs with hSame
  · simpa using hSame
  · simpa using hSame

theorem memory_saves_decision :
    (∃ u, ((saveDecision d).exec repo).1 = .ok u) ↔ DecisionFits repo d := by
  rw [saveDecision_exec]
  split_ifs with hFits
  · simpa using hFits
  · simpa using hFits

theorem memory_reserves :
    (∃ u, ((MemoryRiskRepository.reserve d).exec repo).1 = .ok u) ↔
      DecisionFits repo d ∧ ∀ r ∈ d.reservation, ¬ Collides repo r := by
  by_cases hFits : DecisionFits repo d
  · cases hSome : d.reservation with
    | none => simp [reserve_unreserved hFits hSome, hFits]
    | some r =>
      by_cases hCollides : Collides repo r
      · obtain ⟨message, hExec⟩ := reserve_collides hFits hSome hCollides
        simp [hExec, hCollides]
      · simp [reserve_reserves hFits hSome hCollides, hFits, hCollides]
  · simp [reserve_refused hFits, hFits]

end Memory

/-! ### What the database accepts -/

namespace PostgresRiskRepository

variable {db db' : PostgresRiskRepository} {request : SizingRequest Decimal}
  {d : RiskDecision Decimal} {r : RiskReservation Decimal}

theorem saveRequest_eq_ok : saveRequest sha256 request db = .ok db' ↔
    (∀ existing ∈ db.requests.lookup request.requestId, existing.inputHash = sha256 request.json) ∧
      db' = { db with requests :=
        db.requests.setDefault request.requestId ⟨request, sha256 request.json⟩ } := by
  simp only [saveRequest, Result.bind_eq_ok, Dict.insertOrIgnore_eq_ok, ensure_eq_ok,
    Result.pure_eq_ok]
  constructor
  · rintro ⟨_, ⟨-, rfl⟩, -, hSame, rfl⟩
    exact ⟨hSame, rfl⟩
  · rintro ⟨hSame, rfl⟩
    exact ⟨_, ⟨fun _ => trivial, rfl⟩, (), hSame, rfl⟩

theorem insertDecision_eq_ok : insertDecision d db = .ok db' ↔
    (d.decisionId ∉ db.decisions →
      db.decisions.Unused (·.decisionHash) d.decisionHash ∧ d.requestId ∈ db.requests) ∧
    (∀ existing ∈ db.decisions.lookup d.decisionId, existing.decisionHash = d.decisionHash) ∧
      db' = { db with decisions := db.decisions.setDefault d.decisionId d } := by
  simp only [insertDecision, Result.bind_eq_ok, Dict.insertOrIgnore_eq_ok, ensure_eq_ok,
    Result.pure_eq_ok]
  constructor
  · rintro ⟨_, ⟨hNew, rfl⟩, -, hSame, rfl⟩
    refine ⟨fun hKey => ?_, hSame, rfl⟩
    obtain ⟨-, hUnused, hRequest⟩ := hNew hKey
    exact ⟨hUnused, hRequest⟩
  · rintro ⟨hNew, hSame, rfl⟩
    exact ⟨_, ⟨fun hKey => ⟨(), hNew hKey⟩, rfl⟩, (), hSame, rfl⟩

theorem insertReservation_eq_ok : insertReservation d r db = .ok db' ↔
    (r.reservationId ∉ db.reservations →
      db.reservations.Unused (·.decisionId) d.decisionId ∧
      db.reservations.Unused (·.reservation.clientOrderId) r.clientOrderId ∧
      d.decisionId ∈ db.decisions ∧ r.requestId ∈ db.requests) ∧
      db' = { db with reservations :=
        db.reservations.setDefault r.reservationId ⟨d.decisionId, r⟩ } := by
  simp only [insertReservation, Result.bind_eq_ok, Dict.insertOrIgnore_eq_ok, ensure_eq_ok,
    Result.pure_eq_ok]
  constructor
  · rintro ⟨_, ⟨hNew, rfl⟩, rfl⟩
    refine ⟨fun hKey => ?_, rfl⟩
    obtain ⟨-, hDecision, -, hClient, -, hStored, hRequest⟩ := hNew hKey
    exact ⟨hDecision, hClient, hStored, hRequest⟩
  · rintro ⟨hNew, rfl⟩
    refine ⟨_, ⟨fun hKey => ?_, rfl⟩, rfl⟩
    obtain ⟨hDecision, hClient, hStored, hRequest⟩ := hNew hKey
    exact ⟨(), hDecision, (), hClient, (), hStored, hRequest⟩

/-- The first event of a reservation that is stored is always accepted. -/
theorem insertEvent_eq_ok (hStored : r.reservationId ∈ db.reservations) :
    insertEvent r db = .ok { db with
      events := db.events.setDefault (r.reservationId, 1) (r.status, r.createdAt) } := by
  simp only [insertEvent, Result.bind_eq_ok, Dict.insertOrIgnore_eq_ok, ensure_eq_ok,
    Result.pure_eq_ok]
  exact ⟨_, ⟨fun _ => hStored, rfl⟩, rfl⟩

/-- The database with a decision and its reservation. -/
def withReservation (db : PostgresRiskRepository) (d : RiskDecision Decimal)
    (r : RiskReservation Decimal) : PostgresRiskRepository where
  requests := db.requests
  decisions := db.decisions.setDefault d.decisionId d
  reservations := db.reservations.setDefault r.reservationId ⟨d.decisionId, r⟩
  events := db.events.setDefault (r.reservationId, 1) (r.status, r.createdAt)

theorem reserve_eq_ok (hSome : d.reservation = some r) : reserve d db = .ok db' ↔
    (∃ decided, insertDecision d db = .ok decided) ∧
    (r.reservationId ∉ db.reservations →
      db.reservations.Unused (·.decisionId) d.decisionId ∧
      db.reservations.Unused (·.reservation.clientOrderId) r.clientOrderId ∧
      r.requestId ∈ db.requests) ∧
      db' = db.withReservation d r := by
  have hMem (row : ReservationRow) :
      r.reservationId ∈ db.reservations.setDefault r.reservationId row :=
    Dict.mem_setDefault.mpr (.inl rfl)
  simp only [reserve, hSome, Result.bind_eq_ok]
  constructor
  · rintro ⟨decided, hDecided, reserved, hReserved, hEvent⟩
    obtain ⟨-, -, rfl⟩ := insertDecision_eq_ok.mp hDecided
    obtain ⟨hNew, rfl⟩ := insertReservation_eq_ok.mp hReserved
    rw [insertEvent_eq_ok (hMem _)] at hEvent
    refine ⟨⟨_, hDecided⟩, fun hKey => ?_, (Except.ok.inj hEvent).symm⟩
    obtain ⟨hDecision, hClient, -, hRequest⟩ := hNew hKey
    exact ⟨hDecision, hClient, hRequest⟩
  · rintro ⟨⟨decided, hDecided⟩, hNew, rfl⟩
    obtain ⟨-, -, rfl⟩ := insertDecision_eq_ok.mp hDecided
    refine ⟨_, hDecided, _, insertReservation_eq_ok.mpr ⟨fun hKey => ?_, rfl⟩,
      insertEvent_eq_ok (hMem _)⟩
    obtain ⟨hDecision, hClient, hRequest⟩ := hNew hKey
    exact ⟨hDecision, hClient, Dict.mem_setDefault.mpr (.inl rfl), hRequest⟩

end PostgresRiskRepository

/-! ### What the stores have in common -/

/-- The stores after calls that they treated alike. The memory may hold a decision that the
database does not, of a reservation that both refused. -/
structure Linked (sha256 : Json → String) (bodies : Set Json) (s : Stores) : Prop where
  consistent : StoreConsistent s.memory
  requests : ∀ id, s.database.requests.lookup id =
    (s.memory.requests.lookup id).map fun request => ⟨request, sha256 request.json⟩
  hashed : ∀ id request, s.memory.requests.lookup id = some request → request.json ∈ bodies
  decisions : ∀ id d, s.database.decisions.lookup id = some d →
    d.decisionId = id ∧ d.decisionHash = sha256 d.body ∧ d.body ∈ bodies ∧
      ∃ stored, s.memory.decisions.lookup id = some stored ∧
        stored.mapDecimal value = d.mapDecimal value
  reservations : ∀ id,
    (s.database.reservations.lookup id).map (fun row => row.reservation.mapDecimal value) =
      (s.memory.reservations.lookup id).map (RiskReservation.mapDecimal value)
  backed : ∀ id row, s.database.reservations.lookup id = some row →
    ∃ d, s.database.decisions.lookup row.decisionId = some d ∧
      d.reservation.map (RiskReservation.mapDecimal value) =
        some (row.reservation.mapDecimal value)

section Accepts

variable {bodies : Set Json} {s : Stores} {request : SizingRequest Decimal}
  {d : SealedDecision sha256} {r : RiskReservation Decimal}

theorem Linked.request_mem (h : Linked sha256 bodies s) {id : String} :
    id ∈ s.database.requests ↔ id ∈ s.memory.requests := by
  rw [← AList.lookup_isSome, ← AList.lookup_isSome, h.requests, Option.isSome_map]

theorem Linked.reservation_mem (h : Linked sha256 bodies s) {id : String} :
    id ∈ s.database.reservations ↔ id ∈ s.memory.reservations := by
  rw [← AList.lookup_isSome, ← AList.lookup_isSome, ← Option.isSome_map, h.reservations,
    Option.isSome_map]

theorem Linked.database_saves_request (h : Linked sha256 bodies s) (hHash : Set.InjOn sha256 bodies)
    (hBody : request.json ∈ bodies) :
    (∃ db, PostgresRiskRepository.saveRequest sha256 request s.database = .ok db) ↔
      ∀ existing ∈ s.memory.requests.lookup request.requestId, existing.json = request.json := by
  simp only [PostgresRiskRepository.saveRequest_eq_ok, exists_and_left, exists_eq, and_true,
    h.requests]
  cases hStored : s.memory.requests.lookup request.requestId with
  | none => simp
  | some existing =>
    have hSame := hHash.eq_iff (h.hashed _ _ hStored) hBody
    simpa using hSame

/-- The hash of a decision that is stored tells whether it is this one. -/
theorem Linked.hash_eq_iff (h : Linked sha256 bodies s) (hHash : Set.InjOn sha256 bodies)
    (hBody : d.body ∈ bodies) {row : RiskDecision Decimal}
    (hRow : s.database.decisions.lookup d.decisionId = some row) :
    row.decisionHash = d.decisionHash ↔ DecisionFits s.memory d.toRiskDecision := by
  obtain ⟨-, hRowHash, hRowBody, stored, hStored, hSame⟩ := h.decisions _ _ hRow
  constructor
  · intro hEq
    have hBodies : row.body = d.body := by
      refine hHash hRowBody hBody ?_
      rw [← hRowHash, ← d.hashed, hEq]
    intro existing hExisting
    obtain rfl : stored = existing := Option.some.inj (hStored.symm.trans hExisting)
    exact hSame.trans (RiskDecision.map_eq_of_body hEq hBodies)
  · intro hFits
    have hValues := hSame.symm.trans (hFits stored hStored)
    have hEq := congrArg RiskDecision.decisionHash hValues
    exact hEq

theorem Linked.unused_hash (h : Linked sha256 bodies s) (hHash : Set.InjOn sha256 bodies)
    (hBody : d.body ∈ bodies) (hNew : d.decisionId ∉ s.database.decisions) :
    s.database.decisions.Unused (·.decisionHash) d.decisionHash := by
  refine Dict.unused_iff.mpr fun id row hRow hEq => hNew ?_
  obtain ⟨hId, hRowHash, hRowBody, -⟩ := h.decisions _ _ hRow
  have hBodies : row.body = d.body := by
    refine hHash hRowBody hBody ?_
    rw [← hRowHash, ← d.hashed]
    exact hEq
  have hSame := congrArg RiskDecision.decisionId (RiskDecision.map_eq_of_body hEq hBodies)
  have hKey : row.decisionId = d.decisionId := hSame
  rw [← hKey, hId, ← AList.lookup_isSome, hRow]
  rfl

theorem Linked.database_saves_decision (h : Linked sha256 bodies s)
    (hHash : Set.InjOn sha256 bodies) (hBody : d.body ∈ bodies)
    (hRequest : d.requestId ∈ s.memory.requests) :
    (∃ db, PostgresRiskRepository.insertDecision d.toRiskDecision s.database = .ok db) ↔
      (d.decisionId ∈ s.database.decisions → DecisionFits s.memory d.toRiskDecision) := by
  simp only [PostgresRiskRepository.insertDecision_eq_ok, exists_and_left, exists_eq, and_true]
  cases hRow : s.database.decisions.lookup d.decisionId with
  | none =>
    have hNew : d.decisionId ∉ s.database.decisions := AList.lookup_eq_none.mp hRow
    simp [hNew, h.unused_hash hHash hBody hNew, h.request_mem, hRequest]
  | some row =>
    have hStored : d.decisionId ∈ s.database.decisions := by
      rw [← AList.lookup_isSome, hRow]
      rfl
    simp [hStored, ← h.hash_eq_iff hHash hBody hRow]

/-- A reservation is stored in both of the stores, with the same values. -/
theorem Linked.memory_of_row (h : Linked sha256 bodies s) {id : String} {row : ReservationRow}
    (hRow : s.database.reservations.lookup id = some row) :
    ∃ item, s.memory.reservations.lookup id = some item ∧
      item.mapDecimal value = row.reservation.mapDecimal value := by
  have hLink := h.reservations id
  rw [hRow, Option.map_some] at hLink
  exact Option.map_eq_some_iff.mp hLink.symm

theorem Linked.row_of_memory (h : Linked sha256 bodies s) {id : String}
    {item : RiskReservation Decimal} (hItem : s.memory.reservations.lookup id = some item) :
    ∃ row, s.database.reservations.lookup id = some row ∧
      row.reservation.mapDecimal value = item.mapDecimal value := by
  have hLink := h.reservations id
  rw [hItem, Option.map_some] at hLink
  exact Option.map_eq_some_iff.mp hLink

theorem Linked.unused_client_iff (h : Linked sha256 bodies s) {client : String} :
    s.database.reservations.Unused (·.reservation.clientOrderId) client ↔
      ∀ id item, s.memory.reservations.lookup id = some item → item.clientOrderId ≠ client := by
  rw [Dict.unused_iff]
  constructor
  · intro hUnused id item hItem
    obtain ⟨row, hRow, hSame⟩ := h.row_of_memory hItem
    have hClient := congrArg RiskReservation.clientOrderId hSame
    exact ne_of_eq_of_ne hClient.symm (hUnused id row hRow)
  · intro hUnused id row hRow
    obtain ⟨item, hItem, hSame⟩ := h.memory_of_row hRow
    have hClient := congrArg RiskReservation.clientOrderId hSame
    exact ne_of_eq_of_ne hClient.symm (hUnused id item hItem)

omit s request in
theorem reservation_mapDecimal (hSome : d.reservation = some r) :
    (d.toRiskDecision.mapDecimal value).reservation = some (r.mapDecimal value) := by
  rw [RiskDecision.mapDecimal, hSome]
  rfl

/-- A decision that fits has no other reservation than its own. -/
theorem Linked.unused_decision (h : Linked sha256 bodies s)
    (hFits : d.decisionId ∈ s.database.decisions → DecisionFits s.memory d.toRiskDecision)
    (hSome : d.reservation = some r) (hNew : r.reservationId ∉ s.database.reservations) :
    s.database.reservations.Unused (·.decisionId) d.decisionId := by
  refine Dict.unused_iff.mpr fun id row hRow hDecision => hNew ?_
  obtain ⟨decided, hDecided, hBacked⟩ := h.backed id row hRow
  rw [show row.decisionId = d.decisionId from hDecision] at hDecided
  obtain ⟨-, -, -, stored, hStored, hSame⟩ := h.decisions _ _ hDecided
  have hMem : d.decisionId ∈ s.database.decisions := by
    rw [← AList.lookup_isSome, hDecided]
    rfl
  have hValues := congrArg RiskDecision.reservation (hSame.symm.trans (hFits hMem stored hStored))
  have hReservation : some (row.reservation.mapDecimal value) = some (r.mapDecimal value) := by
    rw [← hBacked]
    exact hValues.trans (reservation_mapDecimal hSome)
  obtain ⟨item, hItem, hRowSame⟩ := h.memory_of_row hRow
  have hKeyed := h.consistent.keyed id item hItem
  have hId := congrArg RiskReservation.reservationId (hRowSame.trans (Option.some.inj hReservation))
  rw [← show item.reservationId = r.reservationId from hId, hKeyed, ← AList.lookup_isSome, hRow]
  rfl

theorem Linked.database_reserves (h : Linked sha256 bodies s) (hHash : Set.InjOn sha256 bodies)
    (hBody : d.body ∈ bodies) (hRequest : d.requestId ∈ s.memory.requests)
    (hSome : d.reservation = some r) :
    (∃ db, PostgresRiskRepository.reserve d.toRiskDecision s.database = .ok db) ↔
      (d.decisionId ∈ s.database.decisions → DecisionFits s.memory d.toRiskDecision) ∧
      (r.reservationId ∉ s.memory.reservations → ∀ id item,
        s.memory.reservations.lookup id = some item → item.clientOrderId ≠ r.clientOrderId) := by
  have hRequestId : r.requestId ∈ s.database.requests := by
    rw [h.request_mem, ← (d.valid.backs hSome).requestId]
    exact hRequest
  simp only [PostgresRiskRepository.reserve_eq_ok hSome, exists_and_left, exists_eq, and_true,
    h.database_saves_decision hHash hBody hRequest, h.unused_client_iff]
  refine and_congr_right fun hFits => ?_
  rw [h.reservation_mem]
  refine forall_congr' fun hNew => ?_
  have hDecision := h.unused_decision hFits hSome (h.reservation_mem.not.mpr hNew)
  simp only [hDecision, hRequestId, true_and, and_true]

end Accepts

/-! ### A call that both treat alike -/

section Step

variable {bodies : Set Json} {s : Stores} {call : StoreCall sha256}
  {request : SizingRequest Decimal} {d : SealedDecision sha256} {r : RiskReservation Decimal}

/-- In a consistent store a client order id is another's only where the reservation is new. -/
theorem not_collides_iff {repo : MemoryRiskRepository Decimal} (h : StoreConsistent repo) :
    ¬ Collides repo r ↔
      (∀ existing ∈ repo.reservations.lookup r.reservationId,
        existing.mapDecimal value = r.mapDecimal value) ∧
      (r.reservationId ∉ repo.reservations → ∀ id item,
        repo.reservations.lookup id = some item → item.clientOrderId ≠ r.clientOrderId) := by
  constructor
  · intro hFree
    refine ⟨not_not.mp (not_or.mp hFree).1, fun hNew id item hItem => ?_⟩
    refine clientOrderId_ne hFree h hItem fun hId => hNew ?_
    rw [← hId, ← AList.lookup_isSome, hItem]
    rfl
  · rintro ⟨hSame, hUnused⟩
    rw [Collides, not_or, not_not]
    refine ⟨hSame, ?_⟩
    rintro ⟨item, hItem, hClient, hId⟩
    obtain ⟨id, hLookup⟩ := Dict.mem_rows.mp hItem
    cases hStored : repo.reservations.lookup r.reservationId with
    | none => exact hUnused (AList.lookup_eq_none.mp hStored) id item hLookup hClient
    | some existing =>
      have hKey : id ≠ r.reservationId := by
        rw [← h.keyed id item hLookup]
        exact hId
      have hExisting := congrArg RiskReservation.clientOrderId (hSame existing hStored)
      exact h.distinct id r.reservationId item existing hLookup hStored hKey
        (hClient.trans hExisting.symm)

/-- Linked stores agree on a call if and only if it meets nothing that they treat otherwise. -/
theorem Linked.agree_iff (h : Linked sha256 bodies s) (hHash : Set.InjOn sha256 bodies)
    (hBody : call.body ∈ bodies)
    (hRequest : ∀ d ∈ call.decision?, d.requestId ∈ s.memory.requests) :
    Agree s call ↔ Alike s call := by
  cases call with
  | saveRequest request =>
    change ((∃ u, ((saveRequest request).exec s.memory).1 = .ok u) ↔
      ∃ db, PostgresRiskRepository.saveRequest sha256 request s.database = .ok db) ↔ _
    rw [memory_saves_request, h.database_saves_request hHash hBody]
    simp only [Alike]
    cases s.memory.requests.lookup request.requestId with
    | none => simp
    | some existing =>
      have hValues := SizingRequest.map_eq_of_json (a := existing) (b := request)
      simpa using ⟨fun hSame => hSame.mp, fun hSame => ⟨hSame, hValues⟩⟩
  | saveDecision d =>
    change ((∃ u, ((saveDecision d.toRiskDecision).exec s.memory).1 = .ok u) ↔
      ∃ db, PostgresRiskRepository.insertDecision d.toRiskDecision s.database = .ok db) ↔ _
    rw [memory_saves_decision, h.database_saves_decision hHash hBody (hRequest _ rfl)]
    simp only [Alike, Recorded]
    tauto
  | reserve d =>
    change ((∃ u, ((MemoryRiskRepository.reserve d.toRiskDecision).exec s.memory).1 = .ok u) ↔
      ∃ db, PostgresRiskRepository.reserve d.toRiskDecision s.database = .ok db) ↔ _
    rw [memory_reserves]
    simp only [Alike]
    cases hSome : d.reservation with
    | none =>
      rw [PostgresRiskRepository.reserve, hSome]
      simp only [h.database_saves_decision hHash hBody (hRequest _ rfl), Recorded]
      simp only [Option.mem_def, reduceCtorEq, false_imp_iff, implies_true, and_true]
      tauto
    | some r =>
      rw [h.database_reserves hHash hBody (hRequest _ rfl) hSome]
      simp only [Option.mem_some_iff, forall_eq', not_collides_iff h.consistent, Recorded]
      have hTaken : ClientOrderIdTaken s r ↔ ¬ (r.reservationId ∉ s.memory.reservations →
          ∀ id item, s.memory.reservations.lookup id = some item →
            item.clientOrderId ≠ r.clientOrderId) := by
        simp only [ClientOrderIdTaken, Classical.not_imp, not_forall, not_not]
      have hNew (hNotMem : r.reservationId ∉ s.memory.reservations) :
          ∀ existing ∈ s.memory.reservations.lookup r.reservationId,
            existing.mapDecimal value = r.mapDecimal value := by
        simp [AList.lookup_eq_none.mpr hNotMem]
      rw [hTaken]
      -- A client order id that is taken is looked at only where the reservation is new.
      by_cases hFits : DecisionFits s.memory d.toRiskDecision
      · simp only [hFits, implies_true, true_and, or_true, true_or, true_imp_iff]
        by_cases hNotMem : r.reservationId ∉ s.memory.reservations
        · have hSame := hNew hNotMem
          tauto
        · tauto
      · tauto

theorem Linked.saveRequest (h : Linked sha256 bodies s) (hBody : request.json ∈ bodies)
    (hConsistent : StoreConsistent { s.memory with
      requests := s.memory.requests.setDefault request.requestId request }) :
    Linked sha256 bodies
      ⟨{ s.memory with requests := s.memory.requests.setDefault request.requestId request },
        { s.database with requests :=
          s.database.requests.setDefault request.requestId ⟨request, sha256 request.json⟩ }⟩ where
  consistent := hConsistent
  requests id := by
    simp only [Dict.lookup_setDefault, h.requests]
    split_ifs
    · cases s.memory.requests.lookup request.requestId <;> rfl
    · rfl
  hashed id stored hStored := by
    simp only [Dict.lookup_setDefault] at hStored
    split_ifs at hStored with hId
    · cases hOld : s.memory.requests.lookup request.requestId with
      | none =>
        rw [hOld] at hStored
        obtain rfl := Option.some.inj hStored
        exact hBody
      | some old =>
        rw [hOld] at hStored
        obtain rfl := Option.some.inj hStored
        exact h.hashed _ _ hOld
    · exact h.hashed id stored hStored
  decisions := h.decisions
  reservations := h.reservations
  backed := h.backed

/-- A decision that a refused reservation leaves in memory. -/
theorem Linked.memory_withDecision (h : Linked sha256 bodies s)
    (hConsistent : StoreConsistent (s.memory.withDecision d.toRiskDecision)) :
    Linked sha256 bodies ⟨s.memory.withDecision d.toRiskDecision, s.database⟩ where
  consistent := hConsistent
  requests := h.requests
  hashed := h.hashed
  decisions id row hRow := by
    obtain ⟨hId, hRowHash, hRowBody, stored, hStored, hSame⟩ := h.decisions id row hRow
    exact ⟨hId, hRowHash, hRowBody, stored, Dict.lookup_setDefault_of_some hStored, hSame⟩
  reservations := h.reservations
  backed := h.backed

theorem Linked.withDecision (h : Linked sha256 bodies s) (hBody : d.body ∈ bodies)
    (hFits : DecisionFits s.memory d.toRiskDecision)
    (hConsistent : StoreConsistent (s.memory.withDecision d.toRiskDecision)) :
    Linked sha256 bodies ⟨s.memory.withDecision d.toRiskDecision,
      { s.database with decisions :=
        s.database.decisions.setDefault d.decisionId d.toRiskDecision }⟩ where
  consistent := hConsistent
  requests := h.requests
  hashed := h.hashed
  decisions id row hRow := by
    have hLeft := (h.memory_withDecision hConsistent).decisions
    simp only [Dict.lookup_setDefault] at hRow
    split_ifs at hRow with hId
    · cases hOld : s.database.decisions.lookup d.decisionId with
      | none =>
        rw [hOld] at hRow
        obtain rfl := Option.some.inj hRow
        rw [hId]
        exact ⟨rfl, d.hashed, hBody, exists_withDecision hFits⟩
      | some old =>
        rw [hOld] at hRow
        obtain rfl := Option.some.inj hRow
        exact hLeft id old (hId ▸ hOld)
    · exact hLeft id row hRow
  reservations := h.reservations
  backed id row hRow := by
    obtain ⟨decided, hDecided, hBacked⟩ := h.backed id row hRow
    exact ⟨decided, Dict.lookup_setDefault_of_some hDecided, hBacked⟩

theorem Linked.withReservation (h : Linked sha256 bodies s) (hBody : d.body ∈ bodies)
    (hFits : DecisionFits s.memory d.toRiskDecision) (hSome : d.reservation = some r)
    (hFree : ¬ Collides s.memory r)
    (hConsistent : StoreConsistent (s.memory.withReservation d.toRiskDecision r)) :
    Linked sha256 bodies ⟨s.memory.withReservation d.toRiskDecision r,
      s.database.withReservation d.toRiskDecision r⟩ := by
  have hDecided : StoreConsistent (s.memory.withDecision d.toRiskDecision) :=
    h.consistent.of_keeps (keeps_withDecision _ _) rfl
  have hLinked := h.withDecision hBody hFits hDecided
  refine ⟨hConsistent, hLinked.requests, hLinked.hashed, hLinked.decisions, ?_, ?_⟩
  · intro id
    simp only [MemoryRiskRepository.withReservation, PostgresRiskRepository.withReservation,
      Dict.lookup_setDefault, Dict.lookup_insert_eq]
    split_ifs with hId
    · cases hOld : s.database.reservations.lookup r.reservationId with
      | none => rfl
      | some old =>
        obtain ⟨item, hItem, hRowSame⟩ := h.memory_of_row hOld
        have hSame := ((not_collides_iff h.consistent).mp hFree).1 item hItem
        exact congrArg some (hRowSame.symm.trans hSame)
    · exact h.reservations id
  · intro id row hRow
    simp only [PostgresRiskRepository.withReservation, Dict.lookup_setDefault] at hRow
    split_ifs at hRow with hId
    · cases hOld : s.database.reservations.lookup r.reservationId with
      | none =>
        rw [hOld] at hRow
        obtain rfl := Option.some.inj hRow
        obtain ⟨stored, hStored, hSame⟩ := exists_withDecision hFits
        obtain ⟨decided, hLookup⟩ : ∃ decided, (s.database.decisions.setDefault d.decisionId
            d.toRiskDecision).lookup d.decisionId = some decided :=
          ⟨_, by rw [Dict.lookup_setDefault, if_pos rfl]⟩
        obtain ⟨-, -, -, stored', hStored', hSame'⟩ := hLinked.decisions _ _ hLookup
        obtain rfl : stored = stored' := Option.some.inj (hStored.symm.trans hStored')
        have hReservation := congrArg RiskDecision.reservation (hSame'.symm.trans hSame)
        exact ⟨decided, hLookup, hReservation.trans (reservation_mapDecimal hSome)⟩
      | some old =>
        rw [hOld] at hRow
        obtain rfl := Option.some.inj hRow
        exact hLinked.backed _ _ hOld
    · exact hLinked.backed id row hRow

theorem commit_of_ok {db db' : PostgresRiskRepository} {x : Result PostgresRiskRepository}
    (h : x = .ok db') : db.commit x = db' := by
  rw [h]
  rfl

theorem commit_of_error {db : PostgresRiskRepository} {x : Result PostgresRiskRepository}
    (h : ¬ ∃ db', x = .ok db') : db.commit x = db := by
  cases x with
  | ok db' => exact absurd ⟨db', rfl⟩ h
  | error e => rfl

/-- A request that both stores save, or refuse. -/
theorem Linked.step_request (h : Linked sha256 bodies s) (hBody : request.json ∈ bodies)
    (hAgree : (∃ u, ((MemoryRiskRepository.saveRequest request).exec s.memory).1 = .ok u) ↔
      ∃ db, PostgresRiskRepository.saveRequest sha256 request s.database = .ok db)
    (hConsistent :
      StoreConsistent ((MemoryRiskRepository.saveRequest request).exec s.memory).2) :
    Linked sha256 bodies ⟨((MemoryRiskRepository.saveRequest request).exec s.memory).2,
      s.database.commit (PostgresRiskRepository.saveRequest sha256 request s.database)⟩ := by
  rw [memory_saves_request] at hAgree
  rw [saveRequest_exec] at hConsistent ⊢
  split_ifs at hConsistent ⊢ with hSame
  · obtain ⟨db, hDb⟩ := hAgree.mp hSame
    rw [commit_of_ok hDb, (PostgresRiskRepository.saveRequest_eq_ok.mp hDb).2]
    exact h.saveRequest hBody hConsistent
  · rw [commit_of_error (hAgree.not.mp hSame)]
    exact h

theorem Linked.step_decision (h : Linked sha256 bodies s) (hBody : d.body ∈ bodies)
    (hAgree : (∃ u, ((saveDecision d.toRiskDecision).exec s.memory).1 = .ok u) ↔
      ∃ db, PostgresRiskRepository.insertDecision d.toRiskDecision s.database = .ok db)
    (hConsistent : StoreConsistent ((saveDecision d.toRiskDecision).exec s.memory).2) :
    Linked sha256 bodies ⟨((saveDecision d.toRiskDecision).exec s.memory).2, s.database.commit
      (PostgresRiskRepository.insertDecision d.toRiskDecision s.database)⟩ := by
  rw [memory_saves_decision] at hAgree
  rw [saveDecision_exec] at hConsistent ⊢
  split_ifs at hConsistent ⊢ with hFits
  · obtain ⟨db, hDb⟩ := hAgree.mp hFits
    rw [commit_of_ok hDb, (PostgresRiskRepository.insertDecision_eq_ok.mp hDb).2.2]
    exact h.withDecision hBody hFits hConsistent
  · rw [commit_of_error (hAgree.not.mp hFits)]
    exact h

/-- A reservation that both stores make or refuse; the memory keeps the decision of one that
it refuses. -/
theorem Linked.step_reservation (h : Linked sha256 bodies s) (hBody : d.body ∈ bodies)
    (hSome : d.reservation = some r)
    (hAgree : (∃ u, ((MemoryRiskRepository.reserve d.toRiskDecision).exec s.memory).1 = .ok u) ↔
      ∃ db, PostgresRiskRepository.reserve d.toRiskDecision s.database = .ok db)
    (hConsistent :
      StoreConsistent ((MemoryRiskRepository.reserve d.toRiskDecision).exec s.memory).2) :
    Linked sha256 bodies ⟨((MemoryRiskRepository.reserve d.toRiskDecision).exec s.memory).2,
      s.database.commit (PostgresRiskRepository.reserve d.toRiskDecision s.database)⟩ := by
  by_cases hFits : DecisionFits s.memory d.toRiskDecision
  · by_cases hCollides : Collides s.memory r
    · obtain ⟨message, hExec⟩ := reserve_collides hFits hSome hCollides
      rw [hExec] at hAgree hConsistent ⊢
      rw [commit_of_error (hAgree.not.mp (by simp))]
      exact h.memory_withDecision hConsistent
    · have hExec := reserve_reserves hFits hSome hCollides
      rw [hExec] at hAgree hConsistent ⊢
      obtain ⟨db, hDb⟩ := hAgree.mp ⟨(), rfl⟩
      rw [commit_of_ok hDb, ((PostgresRiskRepository.reserve_eq_ok hSome).mp hDb).2.2]
      exact h.withReservation hBody hFits hSome hCollides hConsistent
  · rw [reserve_refused hFits] at hAgree ⊢
    rw [commit_of_error (hAgree.not.mp (by simp))]
    exact h

/-- A call on which linked stores agree leaves them linked. -/
theorem Linked.step (h : Linked sha256 bodies s) (hBody : call.body ∈ bodies)
    (hAgree : Agree s call) {t : Stores} (hStep : StoreCall.step s call = some t) :
    Linked sha256 bodies t := by
  obtain rfl := Option.some.inj hStep
  have hConsistent := call.toCall.consistent_after h.consistent
  cases call with
  | saveRequest request => exact h.step_request hBody hAgree hConsistent
  | saveDecision d => exact h.step_decision hBody hAgree hConsistent
  | reserve d =>
    cases hSome : d.reservation with
    | none =>
      have hMemory : MemoryRiskRepository.reserve d.toRiskDecision =
          saveDecision d.toRiskDecision := by
        rw [MemoryRiskRepository.reserve, hSome]
        exact bind_pure_unit
      have hDatabase : PostgresRiskRepository.reserve d.toRiskDecision =
          PostgresRiskRepository.insertDecision d.toRiskDecision := by
        funext db
        rw [PostgresRiskRepository.reserve, hSome]
      simp only [Agree, StoreCall.toCall, Call.after, Call.perform, StoreCall.transaction, hMemory,
        hDatabase] at hAgree hConsistent ⊢
      exact h.step_decision hBody hAgree hConsistent
    | some r => exact h.step_reservation hBody hSome hAgree hConsistent

end Step

/-! ### Every sequence of calls -/

/-- The request of every decision is saved in an earlier call. -/
def RequestsFirst (calls : List (StoreCall sha256)) : Prop :=
  ∀ before call after, calls = before ++ call :: after → ∀ d ∈ call.decision?,
    ∃ request, .saveRequest request ∈ before ∧ request.requestId = d.requestId

def start : Stores := ⟨MemoryRiskRepository.empty, PostgresRiskRepository.empty⟩

theorem linked_start (bodies : Set Json) : Linked sha256 bodies start where
  consistent := empty_consistent
  requests id := by simp [start, MemoryRiskRepository.empty, PostgresRiskRepository.empty]
  hashed id request h := by simp [start, MemoryRiskRepository.empty] at h
  decisions id d h := by simp [start, PostgresRiskRepository.empty] at h
  reservations id := by simp [start, MemoryRiskRepository.empty, PostgresRiskRepository.empty]
  backed id row h := by simp [start, PostgresRiskRepository.empty] at h

/-- A call to save a request leaves one under its id, whether it is accepted or not. -/
theorem mem_after_saveRequest (repo : MemoryRiskRepository Decimal)
    (request : SizingRequest Decimal) :
    request.requestId ∈ ((Call.saveRequest request).after repo).requests := by
  simp only [Call.after, Call.perform, saveRequest_exec]
  split_ifs with hSame
  · exact Dict.mem_setDefault.mpr (.inl rfl)
  · rw [not_forall] at hSame
    obtain ⟨existing, hSame⟩ := hSame
    rw [Classical.not_imp] at hSame
    exact AList.lookup_isSome.mp (Option.isSome_of_mem hSame.1)

theorem mem_of_run {s t : Stores} {calls : List (StoreCall sha256)}
    (h : run StoreCall.step s calls = some t) {id : String}
    (hId : id ∈ s.memory.requests ∨
      ∃ request, .saveRequest request ∈ calls ∧ request.requestId = id) :
    id ∈ t.memory.requests := by
  induction calls generalizing s with
  | nil =>
    obtain rfl := Option.some.inj h
    simpa using hId
  | cons call rest ih =>
    obtain ⟨middle, hFirst, hRest⟩ := run_cons.mp h
    refine ih hRest ?_
    obtain rfl := Option.some.inj hFirst
    rcases hId with hStored | ⟨request, hMem, rfl⟩
    · left
      obtain ⟨request, hRequest⟩ := Option.isSome_iff_exists.mp (AList.lookup_isSome.mpr hStored)
      have hKept := (Call.keeps_after s.memory call.toCall).requests _ _ hRequest
      exact AList.lookup_isSome.mp (Option.isSome_of_mem hKept)
    · rcases List.mem_cons.mp hMem with rfl | hLater
      · exact .inl (mem_after_saveRequest s.memory request)
      · exact .inr ⟨request, hLater, rfl⟩

/-- Over every sequence of calls from empty stores, in which no two of the hashed bodies
collide, the two stores accept and refuse the same calls if and only if no call meets what they
treat otherwise. -/
theorem stores_agree_iff (sha256 : Json → String) (calls : List (StoreCall sha256))
    (hHash : Set.InjOn sha256 {body | ∃ call ∈ calls, body = call.body})
    (hRequests : RequestsFirst calls) :
    Along StoreCall.step Agree start calls ↔ Along StoreCall.step Alike start calls := by
  have hCalls : Along StoreCall.step (fun s call => (∃ c ∈ calls, call.body = c.body) ∧
      ∀ d ∈ call.decision?, d.requestId ∈ s.memory.requests) start calls := by
    refine along_of_forall fun before call after s hSplit hRun => ⟨⟨call, ?_, rfl⟩, ?_⟩
    · rw [hSplit]
      simp
    · intro d hd
      obtain ⟨request, hMem, hId⟩ := hRequests before call after hSplit d hd
      exact mem_of_run hRun (.inr ⟨request, hMem, hId⟩)
  refine along_iff (Linked sha256 {body | ∃ call ∈ calls, body = call.body}) hCalls ?_ ?_
    (linked_start _)
  · rintro s call hLinked ⟨hBody, hRequest⟩
    exact hLinked.agree_iff hHash hBody hRequest
  · rintro s call t hLinked ⟨hBody, -⟩ hAgree hStep
    exact hLinked.step hBody hAgree hStep

theorem requestsFirst_of_first {request : SizingRequest Decimal} {calls : List (StoreCall sha256)}
    (h : ∀ call ∈ calls, ∀ d ∈ call.decision?, d.requestId = request.requestId) :
    RequestsFirst (.saveRequest request :: calls) := by
  intro before call after hSplit d hd
  cases before with
  | nil =>
    obtain ⟨rfl, -⟩ := List.cons.inj hSplit
    cases hd
  | cons first before =>
    obtain ⟨rfl, hRest⟩ := List.cons.inj hSplit
    have hCall : call ∈ calls := by
      rw [hRest]
      simp
    exact ⟨request, List.mem_cons_self, (h call hCall d hd).symm⟩

/-! ### A request that is saved with other digits -/

def sampleEvidence : String :=
  "\x7b\"catalyst_age_hours\":1.0,\"catalyst_source\":\"Company release\"," ++
  "\"conviction_score\":82,\"corroborated\":true,\"master_thesis\":\"Contract award\"," ++
  "\"score_breakdown\":\x7b\"catalyst_magnitude_bucket\":\"major_concrete\"," ++
  "\"catalyst_magnitude_points\":4,\"catalyst_points\":40,\"catalyst_score_raw\":10," ++
  "\"catalyst_zero_override\":false,\"catalyst_zero_reason\":null," ++
  "\"evidence_purpose\":\"magnitude\",\"magnitude_evidence_end_char\":14," ++
  "\"magnitude_evidence_excerpt\":\"contract award\",\"magnitude_evidence_start_char\":0," ++
  "\"magnitude_evidence_truncated\":false,\"parabolic_adjusted\":false," ++
  "\"source_quality_points\":6,\"technical_base_points\":22,\"technical_grade\":\"A\"," ++
  "\"technical_points\":22,\"volume_points\":25\x7d," ++
  "\"source_timestamp\":\"2026-08-03T12:30:00Z\",\"source_type\":\"primary\"\x7d"

def storedRequest : SizingRequest Decimal :=
  { sampleRequest Decimal with
    setup := { (sampleRequest Decimal).setup with evidence := sampleEvidence } }

/-- The request with a limit of 20.060 in place of 20.06. -/
def respelledRequest : SizingRequest Decimal :=
  { storedRequest with plannedEntryLimit := literal 20060 (-3) }

/-- The digests of the two requests, and of the decision. -/
def sampleSha256 : Json → String
  | .obj items =>
    if (items.lookup "decision_id").isSome then
      "5f7a23caba8647fc83e31c77bf7a1383d0eef46cc0dc38601b4eb2a34874be42"
    else match items.lookup "planned_entry_limit" with
      | some (.str "20.060") => "de21eea103675044adb34b082a76c7356e5d615a5c16eefd8f856192c5c4d45c"
      | _ => "497b6c6a3bd1539e74b9b223e4bf9a6b5e580b53291fa867e5daa69e2063a8b7"
  | _ => ""

def sampleReservation : RiskReservation Decimal where
  reservationId := "reservation-1"
  requestId := "request-1"
  runId := "run-1"
  tradingDate := ⟨2026, 8, 3⟩
  ticker := "AAAA"
  clientOrderId := "DB-20260803-AAAA"
  reservedQuantity := 107
  reservedNotional := literal 214642 (-2)
  reservedModeledRisk := literal 12412 (-2)
  createdAt := 1785763800500000
  expiresAt := 1785763830500000
  status := .reserved

def approvedDecision : SealedDecision sampleSha256 where
  decisionId := "risk-request-1"
  requestId := "request-1"
  runId := "run-1"
  tradingDate := ⟨2026, 8, 3⟩
  profileName := .paperV1
  ticker := "AAAA"
  finalRank := 1
  decision := .approved
  rejectionReasons := []
  killSwitchRequired := false
  sessionReferenceEquity := none
  brokerSessionPnl := none
  internalSessionPnl := none
  riskSessionPnl := none
  usableBuyingPower := none
  baseTradeRiskBudget := none
  riskFlagMultiplier := none
  adjustedTradeRiskBudget := none
  plannedEntryLimit := some (literal 2006 (-2))
  stopPrice := some (literal 1895 (-2))
  targetPrice := some (literal 2206 (-2))
  structuralRiskPerShare := none
  executionRiskBuffer := none
  modeledRiskPerShare := some (literal 116 (-2))
  maximumTotalOpenRisk := none
  remainingOpenRiskCapacity := none
  remainingHardLossCapacity := none
  maximumPositionNotional := none
  remainingGrossExposure := none
  quantityCaps := some ⟨107, 323, 431, 797, 249, 623, 5000, 5000⟩
  bindingCap := some .tradeRisk
  finalQuantity := 107
  reservedModeledRisk := some (literal 12412 (-2))
  reservedNotional := some (literal 214642 (-2))
  reservation := some sampleReservation
  calculatedAt := 1785763800500000
  accountSnapshotTimestamp := 1785763800300000
  quoteTimestamp := 1785763800400000
  configurationHash := "aaaaaaaaaaaaaaaaaaaaaaaaaaaaaaaaaaaaaaaaaaaaaaaaaaaaaaaaaaaaaaaa"
  inputHash := "497b6c6a3bd1539e74b9b223e4bf9a6b5e580b53291fa867e5daa69e2063a8b7"
  decisionHash := "5f7a23caba8647fc83e31c77bf7a1383d0eef46cc0dc38601b4eb2a34874be42"
  valid := by decide +kernel
  hashed := by decide +kernel

theorem samples_told_apart :
    sampleSha256 storedRequest.json =
      "497b6c6a3bd1539e74b9b223e4bf9a6b5e580b53291fa867e5daa69e2063a8b7" ∧
    sampleSha256 respelledRequest.json =
      "de21eea103675044adb34b082a76c7356e5d615a5c16eefd8f856192c5c4d45c" ∧
    sampleSha256 approvedDecision.body =
      "5f7a23caba8647fc83e31c77bf7a1383d0eef46cc0dc38601b4eb2a34874be42" := by
  decide +kernel

/-- The decision is reserved, and all is saved again. -/
def repeatedCalls : List (StoreCall sampleSha256) :=
  [.saveRequest storedRequest, .reserve approvedDecision, .saveRequest storedRequest,
    .saveDecision approvedDecision]

theorem repeatedCalls_agree :
    Along StoreCall.step Agree start repeatedCalls ↔
      Along StoreCall.step Alike start repeatedCalls := by
  refine stores_agree_iff sampleSha256 repeatedCalls ?_ ?_
  · obtain ⟨hStored, -, hDecision⟩ := samples_told_apart
    have hBodies : {body | ∃ call ∈ repeatedCalls, body = call.body} ⊆
        {storedRequest.json, approvedDecision.body} := by
      rintro body ⟨call, hCall, rfl⟩
      simp only [repeatedCalls, List.mem_cons, List.not_mem_nil, or_false] at hCall
      rcases hCall with rfl | rfl | rfl | rfl <;> simp [StoreCall.body]
    refine Set.InjOn.mono hBodies ?_
    rw [Set.injOn_pair, hStored, hDecision]
    intro hSame
    exact absurd hSame (by decide)
  · refine requestsFirst_of_first fun call hCall d hd => ?_
    simp only [List.mem_cons, List.not_mem_nil, or_false] at hCall
    rcases hCall with rfl | rfl | rfl
    · obtain rfl := Option.some.inj hd
      rfl
    · cases hd
    · obtain rfl := Option.some.inj hd
      rfl

def respelledCalls : List (StoreCall sampleSha256) :=
  [.saveRequest storedRequest, .saveRequest respelledRequest]

/-- The memory takes the request with other digits for the one that it holds; the database
refuses it. -/
theorem respelled_request_divides :
    RequestsFirst respelledCalls ∧
      Set.InjOn sampleSha256 {body | ∃ call ∈ respelledCalls, body = call.body} ∧
      ¬ Along StoreCall.step Agree start respelledCalls := by
  obtain ⟨hStored, hRespelled, -⟩ := samples_told_apart
  refine ⟨?_, ?_, ?_⟩
  · refine requestsFirst_of_first fun call hCall d hd => ?_
    obtain rfl := List.mem_singleton.mp hCall
    cases hd
  · have hBodies : {body | ∃ call ∈ respelledCalls, body = call.body} ⊆
        {storedRequest.json, respelledRequest.json} := by
      rintro body ⟨call, hCall, rfl⟩
      simp only [respelledCalls, List.mem_cons, List.not_mem_nil, or_false] at hCall
      rcases hCall with rfl | rfl <;> simp [StoreCall.body]
    refine Set.InjOn.mono hBodies ?_
    rw [Set.injOn_pair, hStored, hRespelled]
    intro hSame
    exact absurd hSame (by decide)
  · rintro ⟨-, h⟩
    obtain ⟨hAgree, -⟩ := h _ rfl
    have hValues : storedRequest.mapDecimal value = respelledRequest.mapDecimal value := by
      decide +kernel
    obtain ⟨db, hDb⟩ := hAgree.mp (memory_saves_request.mpr fun existing hExisting => by
      obtain rfl : storedRequest = existing := Option.some.inj hExisting
      exact hValues)
    have hHash := (PostgresRiskRepository.saveRequest_eq_ok.mp hDb).1 _ rfl
    exact absurd ((hStored.symm.trans hHash).trans hRespelled) (by decide)

end Daybreak.Risk
