import Daybreak.Effect.NumberedLog
import Daybreak.Effect.Table
import Daybreak.Execution.Broker

/-! The status events of reservations in PostgreSQL, where transactions take turns at will. One
that appends a status locks the hash of the reservation id, reads the next number and inserts the
event; one that reserves inserts the reservation with its first event, and passes over rows that
exist. Under the lock, no status that was appended is lost, and none is refused for its number. -/

namespace Daybreak.Execution

open Numeric Effect Effect.Row Risk

/-! ### Transactions -/

/-- `event_json` -/
structure EventPayload where
  status : ReservationStatus
  eventTimestamp : Timestamp
  details : Option (List (String × String))
  deriving DecidableEq

def ReservationEvent.payload (event : ReservationEvent) : EventPayload :=
  ⟨event.status, event.eventTimestamp, some event.details⟩

/-- The first event of a reservation, which `reserve` inserts with it. -/
def firstPayload (reservation : RiskReservation Decimal) : EventPayload :=
  ⟨reservation.status, reservation.createdAt, none⟩

/-- How far `append_status` has come. -/
inductive AppendProgress where
  | begun
  | locked
  | numbered (sequence : ℕ)
  | inserted (sequence : ℕ)

/-- How far `reserve` has come: whether the reservation is inserted, and then its first event. -/
inductive ReserveProgress where
  | begun
  | reserved (reservationIsNew : Bool)
  | recorded (reservationIsNew eventIsNew : Bool)

inductive Transaction where
  | append (event : ReservationEvent) (progress : AppendProgress)
  | reserve (reservation : RiskReservation Decimal) (progress : ReserveProgress)

namespace Transaction

/-- `pg_advisory_xact_lock(hashtext(reservation_id))` -/
def lock (hashtext : String → ℤ) : Transaction → Option ℤ
  | append _ .begun => none
  | append event _ => some (hashtext event.reservationId)
  | reserve _ _ => none

/-- The number that is read, or the row that is inserted, and not committed. -/
def writing : Transaction → Option (Writing String EventPayload)
  | append event (.numbered sequence) => some (.claimed event.reservationId sequence)
  | append event (.inserted sequence) =>
    some (.inserted ⟨event.reservationId, sequence, event.payload⟩)
  | reserve r (.reserved _) => some (.claimed r.reservationId 1)
  | reserve r (.recorded _ true) => some (.inserted ⟨r.reservationId, 1, firstPayload r⟩)
  | _ => none

/-- The reservation that is inserted, and not committed. -/
def inserting : Transaction → Option String
  | reserve r (.reserved true) => some r.reservationId
  | reserve r (.recorded true _) => some r.reservationId
  | _ => none

end Transaction

/-- The two tables, the transactions of the connections, and the statuses whose `append_status`
returned, in the order in which it committed. -/
structure ReservationDatabase (ω : Type) where
  reservations : Dict String (RiskReservation Decimal)
  events : List (Row String EventPayload)
  transactions : ω → Option Transaction
  acknowledged : List ReservationEvent

namespace ReservationDatabase

variable {ω : Type}

def empty : ReservationDatabase ω := ⟨∅, [], fun _ => none, []⟩

/-- The numbers and rows of the events alone. -/
def log (s : ReservationDatabase ω) : NumberedLog String EventPayload ω :=
  ⟨s.events, fun w => (s.transactions w).bind Transaction.writing⟩

/-- Neither the foreign key nor the primary key refuses the event, and no uncommitted row makes
it wait. -/
structure Insertable (s : ReservationDatabase ω) (reservationId : String) (sequence : ℕ) :
    Prop where
  referenced : reservationId ∈ s.reservations
  unused : sequence ∉ numbers reservationId s.events
  unlocked : ∀ other row, s.log.writing other = some (.inserted row) →
    row.key = reservationId → row.number ≠ sequence

variable [DecidableEq ω]

def goOn (s : ReservationDatabase ω) (w : ω) (x : Option Transaction) : ReservationDatabase ω :=
  { s with transactions := Function.update s.transactions w x }

/-- One step of a connection. Which other statements of a transaction raise is left open: it may
be rolled back at any point. -/
inductive Step (hashtext : String → ℤ) (s : ReservationDatabase ω) : ReservationDatabase ω → Prop
  | beginAppend (w : ω) (event : ReservationEvent) : s.transactions w = none →
      Step hashtext s (s.goOn w (some (.append event .begun)))
  | lock (w : ω) (event : ReservationEvent) : s.transactions w = some (.append event .begun) →
      (∀ other, ∀ transaction ∈ s.transactions other,
        transaction.lock hashtext ≠ some (hashtext event.reservationId)) →
      Step hashtext s (s.goOn w (some (.append event .locked)))
  | number (w : ω) (event : ReservationEvent) : s.transactions w = some (.append event .locked) →
      Step hashtext s
        (s.goOn w (some (.append event (.numbered (next event.reservationId s.events)))))
  | insertEvent (w : ω) (event : ReservationEvent) (sequence : ℕ) :
      s.transactions w = some (.append event (.numbered sequence)) →
      s.Insertable event.reservationId sequence →
      Step hashtext s (s.goOn w (some (.append event (.inserted sequence))))
  | commitAppend (w : ω) (event : ReservationEvent) (sequence : ℕ) :
      s.transactions w = some (.append event (.inserted sequence)) →
      Step hashtext s { s with
        events := s.events ++ [⟨event.reservationId, sequence, event.payload⟩]
        transactions := Function.update s.transactions w none
        acknowledged := s.acknowledged ++ [event] }
  | beginReserve (w : ω) (r : RiskReservation Decimal) : s.transactions w = none →
      Step hashtext s (s.goOn w (some (.reserve r .begun)))
  -- `CHECK (initial_status = 'reserved')` comes before the conflict clause.
  | insertReservation (w : ω) (r : RiskReservation Decimal) :
      s.transactions w = some (.reserve r .begun) → r.status = .reserved →
      r.reservationId ∉ s.reservations →
      (∀ other, ∀ transaction ∈ s.transactions other,
        transaction.inserting ≠ some r.reservationId) →
      Step hashtext s (s.goOn w (some (.reserve r (.reserved true))))
  | passReservation (w : ω) (r : RiskReservation Decimal) :
      s.transactions w = some (.reserve r .begun) → r.status = .reserved →
      r.reservationId ∈ s.reservations →
      Step hashtext s (s.goOn w (some (.reserve r (.reserved false))))
  | insertFirst (w : ω) (r : RiskReservation Decimal) (isNew : Bool) :
      s.transactions w = some (.reserve r (.reserved isNew)) →
      1 ∉ numbers r.reservationId s.events →
      (∀ other row, s.log.writing other = some (.inserted row) → row.key = r.reservationId →
        row.number ≠ 1) →
      Step hashtext s (s.goOn w (some (.reserve r (.recorded isNew true))))
  | passFirst (w : ω) (r : RiskReservation Decimal) (isNew : Bool) :
      s.transactions w = some (.reserve r (.reserved isNew)) →
      1 ∈ numbers r.reservationId s.events →
      Step hashtext s (s.goOn w (some (.reserve r (.recorded isNew false))))
  | commitReserve (w : ω) (r : RiskReservation Decimal) (isNew eventIsNew : Bool) :
      s.transactions w = some (.reserve r (.recorded isNew eventIsNew)) →
      Step hashtext s { s with
        reservations := if isNew then s.reservations.insert r.reservationId r else s.reservations
        events := if eventIsNew then s.events ++ [⟨r.reservationId, 1, firstPayload r⟩]
          else s.events
        transactions := Function.update s.transactions w none }
  | rollback (w : ω) : Step hashtext s (s.goOn w none)

/-! ### Steps of the log -/

variable {hashtext : String → ℤ} {s t : ReservationDatabase ω}

theorem writing_goOn (s : ReservationDatabase ω) (w : ω) (x : Option Transaction) :
    (s.goOn w x).log.writing = Function.update s.log.writing w (x.bind Transaction.writing) :=
  Function.comp_update (fun transaction : Option Transaction => transaction.bind Transaction.writing)
    s.transactions w x

theorem log_goOn (s : ReservationDatabase ω) (w : ω) (x : Option Transaction) :
    (s.goOn w x).log =
      { s.log with writing := Function.update s.log.writing w (x.bind Transaction.writing) } := by
  rw [← writing_goOn]
  rfl

/-- No two connections hold the same. -/
def Exclusive {α : Type} (f : Transaction → Option α) (s : ReservationDatabase ω) : Prop :=
  ∀ w w' k, (s.transactions w).bind f = some k → (s.transactions w').bind f = some k → w = w'

omit [DecidableEq ω] in
theorem Exclusive.of_transactions_eq {α : Type} {f : Transaction → Option α}
    (h : Exclusive f s) (hSame : t.transactions = s.transactions) : Exclusive f t := by
  unfold Exclusive
  rw [hSame]
  exact h

theorem Exclusive.goOn {α : Type} {f : Transaction → Option α} (h : Exclusive f s) {w : ω}
    {x : Option Transaction}
    (hNew : ∀ k, x.bind f = some k → (s.transactions w).bind f = some k ∨
      ∀ other, (s.transactions other).bind f ≠ some k) : Exclusive f (s.goOn w x) := by
  have hOthers : ∀ k other, x.bind f = some k → (s.transactions other).bind f = some k →
      other = w := by
    intro k other hx hOther
    obtain hOld | hFree := hNew k hx
    · exact h other w k hOther hOld
    · exact absurd hOther (hFree other)
  intro first second k hFirst hSecond
  simp only [ReservationDatabase.goOn, Function.update_apply] at hFirst hSecond
  split_ifs at hFirst hSecond with hw hw' hw'
  · rw [hw, hw']
  · rw [hw, hOthers k second hFirst hSecond]
  · rw [hw', hOthers k first hSecond hFirst]
  · exact h first second k hFirst hSecond

theorem Transaction.lock_of_follows {transaction : Transaction} {key : String}
    {writing : Writing String EventPayload} (h : transaction.writing = some writing)
    (hFollows : writing.Follows key) : transaction.lock hashtext = some (hashtext key) := by
  obtain ⟨event, progress⟩ | ⟨r, progress⟩ := transaction
  · cases progress with
    | begun => cases h
    | locked => cases h
    | numbered n =>
      cases h
      rw [← hFollows.1]
      rfl
    | inserted n =>
      cases h
      rw [← hFollows.1]
      rfl
  · cases progress with
    | begun => cases h
    | reserved isNew =>
      cases h
      exact absurd hFollows.2 (by decide)
    | recorded isNew eventIsNew =>
      cases eventIsNew with
      | false => cases h
      | true =>
        cases h
        exact absurd hFollows.2 (Nat.not_succ_le_self 1)

/-- Under the advisory lock, the events are written by steps of an exclusive log. -/
theorem Step.log (h : Step hashtext s t) (hLocked : Exclusive (Transaction.lock hashtext) s) :
    NumberedLog.Step True s.log t.log := by
  have hLeave (w : ω) (x : Option Transaction) (hx : x.bind Transaction.writing = none) :
      NumberedLog.Step True s.log (s.goOn w x).log := by
    rw [log_goOn, hx]
    exact .leave w
  have hFirst (w : ω) (r : RiskReservation Decimal) (isNew : Bool) :
      NumberedLog.Step True s.log (s.goOn w (some (.reserve r (.reserved isNew)))).log := by
    rw [log_goOn]
    exact .claim w r.reservationId 1 le_rfl (one_le_next _ _) (fun _ hTwo => absurd hTwo (by decide))
  have hCommit (w : ω) (row : Row String EventPayload) (u : ReservationDatabase ω)
      (hRow : (s.transactions w).bind Transaction.writing = some (.inserted row))
      (hEvents : u.events = s.events ++ [row])
      (hTransactions : u.transactions = (s.goOn w none).transactions) :
      NumberedLog.Step True s.log u.log := by
    have hLog : u.log = ⟨s.log.rows ++ [row], Function.update s.log.writing w none⟩ := by
      calc u.log = ⟨u.events, (s.goOn w none).log.writing⟩ := by
            simp only [ReservationDatabase.log, hTransactions]
        _ = ⟨s.log.rows ++ [row], Function.update s.log.writing w none⟩ := by
            rw [hEvents, writing_goOn]
            rfl
    rw [hLog]
    exact .commit w row hRow
  cases h with
  | beginAppend w event _ => exact hLeave w _ rfl
  | lock w event _ _ => exact hLeave w _ rfl
  | number w event hw =>
    rw [log_goOn]
    refine .claim w event.reservationId _ (one_le_next _ _) le_rfl fun _ _ => ⟨rfl, ?_⟩
    intro other hOther writing hWriting hFollows
    obtain ⟨transaction, hTransaction, hWrites⟩ := Option.bind_eq_some_iff.mp hWriting
    refine hOther (hLocked other w (hashtext event.reservationId) ?_ ?_)
    · rw [hTransaction]
      exact Transaction.lock_of_follows hWrites hFollows
    · rw [hw]
      rfl
  | insertEvent w event sequence hw hInsertable =>
    rw [log_goOn]
    refine .insert w ⟨event.reservationId, sequence, event.payload⟩ ?_ hInsertable.unused
      hInsertable.unlocked
    simp only [ReservationDatabase.log, hw]
    rfl
  | commitAppend w event sequence hw =>
    exact hCommit w ⟨event.reservationId, sequence, event.payload⟩ _ (by rw [hw]; rfl) rfl rfl
  | beginReserve w r _ => exact hLeave w _ rfl
  | insertReservation w r _ _ _ _ => exact hFirst w r true
  | passReservation w r _ _ _ => exact hFirst w r false
  | insertFirst w r isNew hw hUnused hUnlocked =>
    rw [log_goOn]
    refine .insert w ⟨r.reservationId, 1, firstPayload r⟩ ?_ hUnused hUnlocked
    simp only [ReservationDatabase.log, hw]
    rfl
  | passFirst w r isNew _ _ => exact hLeave w _ rfl
  | commitReserve w r isNew eventIsNew hw =>
    cases eventIsNew with
    | false => exact hLeave w none rfl
    | true => exact hCommit w ⟨r.reservationId, 1, firstPayload r⟩ _ (by rw [hw]; rfl) rfl rfl
  | rollback w => exact hLeave w none rfl

/-! ### What every step keeps -/

/-- The events of a reservation are its first one, and then the acknowledged statuses. -/
def Told (s : ReservationDatabase ω) : Prop :=
  ∀ reservationId, (under reservationId s.events).map (·.body) =
    (s.reservations.lookup reservationId).toList.map firstPayload ++
      (s.acknowledged.filter (·.reservationId = reservationId)).map ReservationEvent.payload

/-- What the rows of a transaction presuppose of those that are committed. -/
def Presupposes (reservations : Dict String (RiskReservation Decimal)) : Transaction → Prop
  | .append event (.inserted sequence) => 2 ≤ sequence ∧ event.reservationId ∈ reservations
  | .reserve r (.reserved isNew) =>
    r.status = .reserved ∧ (isNew = true ↔ r.reservationId ∉ reservations)
  | .reserve r (.recorded isNew eventIsNew) =>
    r.status = .reserved ∧ (isNew = true ↔ r.reservationId ∉ reservations) ∧ eventIsNew = isNew
  | _ => True

omit [DecidableEq ω] in
/-- Nothing else depends on a reservation that the transaction does not insert itself. -/
theorem Presupposes.insert {reservations : Dict String (RiskReservation Decimal)}
    {transaction : Transaction} {r : RiskReservation Decimal}
    (h : Presupposes reservations transaction)
    (hApart : transaction.inserting ≠ some r.reservationId) :
    Presupposes (reservations.insert r.reservationId r) transaction := by
  have hSame {id : String} {isNew : Bool} (hIs : isNew = true ↔ id ∉ reservations)
      (hId : isNew = true → id ≠ r.reservationId) :
      isNew = true ↔ id ∉ reservations.insert r.reservationId r := by
    rw [AList.mem_insert, not_or, ← hIs]
    exact ⟨fun hTrue => ⟨hId hTrue, hTrue⟩, And.right⟩
  cases transaction with
  | append event progress =>
    cases progress with
    | begun => trivial
    | locked => trivial
    | numbered sequence => trivial
    | inserted sequence =>
      simp only [Presupposes, AList.mem_insert] at h ⊢
      exact ⟨h.1, .inr h.2⟩
  | reserve r' progress =>
    cases progress with
    | begun => trivial
    | reserved isNew =>
      simp only [Presupposes] at h ⊢
      refine ⟨h.1, hSame h.2 ?_⟩
      rintro rfl hId
      exact hApart (congrArg some hId)
    | recorded isNew eventIsNew =>
      simp only [Presupposes] at h ⊢
      refine ⟨h.1, hSame h.2.1 ?_, h.2.2⟩
      rintro rfl hId
      exact hApart (congrArg some hId)

structure Sound (hashtext : String → ℤ) (s : ReservationDatabase ω) : Prop where
  numbered : s.log.Sound
  current : s.log.Current
  locked : Exclusive (Transaction.lock hashtext) s
  apart : Exclusive Transaction.inserting s
  told : s.Told
  referenced : ∀ event ∈ s.acknowledged, event.reservationId ∈ s.reservations
  reserved : ∀ reservationId, ∀ r ∈ s.reservations.lookup reservationId, r.status = .reserved
  presupposed : ∀ w, ∀ transaction ∈ s.transactions w, Presupposes s.reservations transaction

omit [DecidableEq ω] in
theorem Sound.empty : Sound hashtext (empty : ReservationDatabase ω) where
  numbered := .empty
  current := .empty
  locked := fun _ _ _ h _ => absurd h (Option.some_ne_none _).symm
  apart := fun _ _ _ h _ => absurd h (Option.some_ne_none _).symm
  told := fun _ => rfl
  referenced := fun _ hEvent => absurd hEvent List.not_mem_nil
  reserved := fun _ r hr => absurd hr (Option.not_mem_none r)
  presupposed := fun _ transaction h => absurd h (Option.not_mem_none transaction)

omit [DecidableEq ω] in
theorem Sound.contiguous (h : Sound hashtext s) : Contiguous s.events := h.numbered.contiguous

omit [DecidableEq ω] in
/-- A reservation that is stored has events, and no other has. -/
theorem Sound.stored_iff (h : Sound hashtext s) (reservationId : String) :
    reservationId ∈ s.reservations ↔ 2 ≤ next reservationId s.events := by
  have hLength : (numbers reservationId s.events).length =
      (s.reservations.lookup reservationId).toList.length +
        (s.acknowledged.filter (·.reservationId = reservationId)).length := by
    have hTold := congrArg List.length (h.told reservationId)
    simpa [numbers] using hTold
  rw [h.contiguous.next_eq, hLength]
  constructor
  · intro hStored
    obtain ⟨r, hr⟩ := Option.isSome_iff_exists.mp (AList.lookup_isSome.mpr hStored)
    rw [hr, Option.toList_some, List.length_singleton]
    omega
  · intro hTwo
    by_contra hNot
    rw [AList.lookup_eq_none.mpr hNot] at hTwo
    have hSome : s.acknowledged.filter (·.reservationId = reservationId) ≠ [] := by
      rintro hNil
      rw [hNil] at hTwo
      simp at hTwo
    obtain ⟨event, hEvent⟩ := List.exists_mem_of_ne_nil _ hSome
    obtain ⟨hMem, hId⟩ := List.mem_filter.mp hEvent
    rw [decide_eq_true_eq] at hId
    exact hNot (hId ▸ h.referenced event hMem)

omit [DecidableEq ω] in
/-- Whoever reads a number past the first is refused by nothing, and whoever reads the first one
is refused. -/
theorem Sound.insertable_iff (h : Sound hashtext s) {w : ω} {event : ReservationEvent}
    {sequence : ℕ} (hw : s.transactions w = some (.append event (.numbered sequence))) :
    s.Insertable event.reservationId sequence ↔ 2 ≤ sequence := by
  have hClaimed : s.log.writing w = some (.claimed event.reservationId sequence) := by
    simp only [log, hw]
    rfl
  have hBounds := h.numbered.claimed w _ _ hClaimed
  constructor
  · rintro ⟨hStored, hUnused, -⟩
    have hNext := h.contiguous.eq_next hBounds hUnused
    rw [hNext]
    exact (h.stored_iff event.reservationId).mp hStored
  · intro hTwo
    obtain ⟨hUnused, hUnlocked⟩ := h.current.free h.numbered hClaimed hTwo
    exact ⟨(h.stored_iff event.reservationId).mpr (hTwo.trans hBounds.2), hUnused, hUnlocked⟩

/-- A step that commits nothing. -/
theorem Sound.goOn (h : Sound hashtext s) {w : ω} {x : Option Transaction}
    (hStep : Step hashtext s (s.goOn w x))
    (hLock : ∀ k, x.bind (Transaction.lock hashtext) = some k →
      (s.transactions w).bind (Transaction.lock hashtext) = some k ∨
        ∀ other, (s.transactions other).bind (Transaction.lock hashtext) ≠ some k)
    (hInserting : ∀ k, x.bind Transaction.inserting = some k →
      (s.transactions w).bind Transaction.inserting = some k ∨
        ∀ other, (s.transactions other).bind Transaction.inserting ≠ some k)
    (hPresupposes : ∀ transaction ∈ x, Presupposes s.reservations transaction) :
    Sound hashtext (s.goOn w x) where
  numbered := h.numbered.step (hStep.log h.locked)
  current := h.current.step h.numbered trivial (hStep.log h.locked)
  locked := h.locked.goOn hLock
  apart := h.apart.goOn hInserting
  told := h.told
  referenced := h.referenced
  reserved := h.reserved
  presupposed := by
    intro other transaction hOther
    obtain ⟨-, hNew⟩ | ⟨-, hOld⟩ := update_eq_some hOther
    · exact hPresupposes transaction hNew
    · exact h.presupposed other transaction hOld

theorem Sound.rollback (h : Sound hashtext s) (w : ω) : Sound hashtext (s.goOn w none) :=
  h.goOn (.rollback w) (fun _ hk => absurd hk (Option.some_ne_none _).symm)
    (fun _ hk => absurd hk (Option.some_ne_none _).symm)
    (fun transaction hMem => absurd hMem (Option.not_mem_none transaction))

theorem Sound.commitAppend (h : Sound hashtext s) {w : ω} {event : ReservationEvent}
    {sequence : ℕ} (hw : s.transactions w = some (.append event (.inserted sequence))) :
    Sound hashtext { s with
      events := s.events ++ [⟨event.reservationId, sequence, event.payload⟩]
      transactions := Function.update s.transactions w none
      acknowledged := s.acknowledged ++ [event] } := by
  have hLog := (Step.commitAppend w event sequence hw).log h.locked
  have hLeft := h.rollback w
  have hStored := (h.presupposed w _ hw).2
  exact {
    numbered := h.numbered.step hLog
    current := h.current.step h.numbered trivial hLog
    locked := hLeft.locked.of_transactions_eq rfl
    apart := hLeft.apart.of_transactions_eq rfl
    told := by
      intro reservationId
      by_cases hId : event.reservationId = reservationId
      · subst hId
        have hRows := under_append_self s.events ⟨event.reservationId, sequence, event.payload⟩
        simp only [hRows, List.map_append, h.told event.reservationId, List.filter_append,
          List.append_assoc]
        simp
      · have hRows : under reservationId (s.events ++
            [⟨event.reservationId, sequence, event.payload⟩]) = under reservationId s.events :=
          under_append_of_ne hId
        simp only [hRows, h.told reservationId, List.filter_append]
        simp [hId]
    referenced := by
      intro other hOther
      obtain hOld | hNew := List.mem_append.mp hOther
      · exact h.referenced other hOld
      · rw [List.mem_singleton.mp hNew]
        exact hStored
    reserved := h.reserved
    presupposed := hLeft.presupposed }

/-- A reservation that is committed with its first event. -/
theorem Sound.commitReserve (h : Sound hashtext s) {w : ω} {r : RiskReservation Decimal}
    (hw : s.transactions w = some (.reserve r (.recorded true true))) :
    Sound hashtext { s with
      reservations := s.reservations.insert r.reservationId r
      events := s.events ++ [⟨r.reservationId, 1, firstPayload r⟩]
      transactions := Function.update s.transactions w none } := by
  have hLog := (Step.commitReserve w r true true hw).log h.locked
  have hLeft := h.rollback w
  obtain ⟨hReserved, hNew, -⟩ := h.presupposed w _ hw
  have hAbsent : r.reservationId ∉ s.reservations := hNew.mp rfl
  have hMem {reservationId : String} : reservationId ∈ s.reservations.insert r.reservationId r ↔
      reservationId = r.reservationId ∨ reservationId ∈ s.reservations := by
    rw [AList.mem_insert]
  have hNone : s.acknowledged.filter (·.reservationId = r.reservationId) = [] := by
    rw [List.filter_eq_nil_iff]
    intro event hEvent hId
    rw [decide_eq_true_eq] at hId
    exact hAbsent (hId ▸ h.referenced event hEvent)
  exact {
    numbered := h.numbered.step hLog
    current := h.current.step h.numbered trivial hLog
    locked := hLeft.locked.of_transactions_eq rfl
    apart := hLeft.apart.of_transactions_eq rfl
    told := by
      intro reservationId
      by_cases hId : r.reservationId = reservationId
      · subst hId
        have hRows := under_append_self s.events ⟨r.reservationId, 1, firstPayload r⟩
        simp only [hRows, List.map_append, h.told r.reservationId, hNone,
          AList.lookup_eq_none.mpr hAbsent, AList.lookup_insert]
        rfl
      · have hRows : under reservationId (s.events ++ [⟨r.reservationId, 1, firstPayload r⟩]) =
            under reservationId s.events := under_append_of_ne hId
        simp only [hRows, h.told reservationId, AList.lookup_insert_ne (Ne.symm hId)]
    referenced := fun event hEvent => hMem.mpr (.inr (h.referenced event hEvent))
    reserved := by
      intro reservationId other hOther
      rw [Dict.lookup_insert_eq] at hOther
      split_ifs at hOther with hId
      · rw [← Option.mem_some_iff.mp hOther]
        exact hReserved
      · exact h.reserved reservationId other hOther
    presupposed := by
      intro other transaction hOther
      obtain ⟨-, hNew⟩ | ⟨hNe, hOld⟩ := update_eq_some hOther
      · cases hNew
      -- No other transaction inserts the same reservation.
      have hApart : transaction.inserting ≠ some r.reservationId := by
        intro hInserting
        refine hNe (h.apart other w r.reservationId ?_ ?_)
        · rw [hOld]
          exact hInserting
        · rw [hw]
          rfl
      exact (h.presupposed other transaction hOld).insert hApart }

theorem Sound.step (h : Sound hashtext s) (hStep : Step hashtext s t) : Sound hashtext t := by
  -- What a transaction holds before it goes on, it may hold afterwards.
  have hKept {α : Type} (f : Transaction → Option α) {w : ω} {before after : Transaction}
      (hw : s.transactions w = some before) (hSame : f after = f before) (k : α)
      (hk : (some after).bind f = some k) : (s.transactions w).bind f = some k ∨
        ∀ other, (s.transactions other).bind f ≠ some k := by
    refine .inl ?_
    rw [hw, Option.bind_some, ← hSame]
    exact hk
  have hNothing {α : Type} (f : Transaction → Option α) {w : ω} {after : Transaction}
      (hNone : f after = none) (k : α) (hk : (some after).bind f = some k) :
      (s.transactions w).bind f = some k ∨ ∀ other, (s.transactions other).bind f ≠ some k := by
    rw [Option.bind_some, hNone] at hk
    cases hk
  have hFree {α : Type} (f : Transaction → Option α) {w : ω} {after : Transaction} {key : α}
      (hKey : f after = some key) (hOthers : ∀ other, ∀ transaction ∈ s.transactions other,
        f transaction ≠ some key) (k : α) (hk : (some after).bind f = some k) :
      (s.transactions w).bind f = some k ∨ ∀ other, (s.transactions other).bind f ≠ some k := by
    refine .inr fun other hOther => ?_
    obtain ⟨transaction, hTransaction, hHolds⟩ := Option.bind_eq_some_iff.mp hOther
    rw [Option.bind_some, hKey] at hk
    obtain rfl := Option.some.inj hk
    exact hOthers other transaction hTransaction hHolds
  cases hStep with
  | beginAppend w event hw =>
    refine h.goOn (.beginAppend w event hw) (hNothing _ rfl) (hNothing _ rfl) ?_
    rintro _ ⟨⟩
    trivial
  | lock w event hw hUnlocked =>
    refine h.goOn (.lock w event hw hUnlocked) (hFree _ rfl hUnlocked) (hNothing _ rfl) ?_
    rintro _ ⟨⟩
    trivial
  | number w event hw =>
    refine h.goOn (.number w event hw) (hKept _ hw rfl) (hNothing _ rfl) ?_
    rintro _ ⟨⟩
    trivial
  | insertEvent w event sequence hw hInsertable =>
    refine h.goOn (.insertEvent w event sequence hw hInsertable) (hKept _ hw rfl)
      (hNothing _ rfl) ?_
    rintro _ ⟨⟩
    exact ⟨(h.insertable_iff hw).mp hInsertable, hInsertable.referenced⟩
  | commitAppend w event sequence hw => exact h.commitAppend hw
  | beginReserve w r hw =>
    refine h.goOn (.beginReserve w r hw) (hNothing _ rfl) (hNothing _ rfl) ?_
    rintro _ ⟨⟩
    trivial
  | insertReservation w r hw hReserved hAbsent hUnlocked =>
    refine h.goOn (.insertReservation w r hw hReserved hAbsent hUnlocked) (hNothing _ rfl)
      (hFree _ rfl hUnlocked) ?_
    rintro _ ⟨⟩
    exact ⟨hReserved, iff_of_true rfl hAbsent⟩
  | passReservation w r hw hReserved hStored =>
    refine h.goOn (.passReservation w r hw hReserved hStored) (hNothing _ rfl)
      (hNothing _ rfl) ?_
    rintro _ ⟨⟩
    exact ⟨hReserved, iff_of_false Bool.false_ne_true (not_not_intro hStored)⟩
  | insertFirst w r isNew hw hUnused hUnlocked =>
    obtain ⟨hReserved, hNew⟩ := h.presupposed w _ hw
    -- The events of a stored reservation begin with the first one.
    have hAbsent : r.reservationId ∉ s.reservations := by
      intro hStored
      refine hUnused (h.contiguous.mem_iff.mpr ⟨le_rfl, ?_⟩)
      exact (h.stored_iff r.reservationId).mp hStored
    obtain rfl := hNew.mpr hAbsent
    refine h.goOn (.insertFirst w r true hw hUnused hUnlocked) (hNothing _ rfl)
      (hKept _ hw rfl) ?_
    rintro _ ⟨⟩
    exact ⟨hReserved, hNew, rfl⟩
  | passFirst w r isNew hw hUsed =>
    obtain ⟨hReserved, hNew⟩ := h.presupposed w _ hw
    have hStored : r.reservationId ∈ s.reservations :=
      (h.stored_iff r.reservationId).mpr (h.contiguous.mem_iff.mp hUsed).2
    have hOld : isNew = false := by
      cases isNew with
      | false => rfl
      | true => exact absurd hStored (hNew.mp rfl)
    subst hOld
    refine h.goOn (.passFirst w r false hw hUsed) (hNothing _ rfl) (hNothing _ rfl) ?_
    rintro _ ⟨⟩
    exact ⟨hReserved, hNew, rfl⟩
  | commitReserve w r isNew eventIsNew hw =>
    obtain ⟨-, -, rfl⟩ := h.presupposed w _ hw
    cases eventIsNew with
    | true => exact h.commitReserve hw
    | false => exact h.rollback w
  | rollback w => exact h.rollback w

theorem Sound.run (h : Sound hashtext s) (hRun : Relation.ReflTransGen (Step hashtext) s t) :
    Sound hashtext t := by
  induction hRun with
  | refl => exact h
  | tail _ hStep ih => exact ih.step hStep

/-- Events stay where they are. -/
theorem Step.events_prefix (h : Step hashtext s t) : s.events <+: t.events := by
  cases h with
  | commitAppend w event sequence _ => exact List.prefix_append _ _
  | commitReserve w r isNew eventIsNew _ =>
    cases eventIsNew with
    | true => exact List.prefix_append _ _
    | false => exact List.prefix_rfl
  | _ => exact List.prefix_rfl

theorem events_prefix (h : Relation.ReflTransGen (Step hashtext) s t) : s.events <+: t.events := by
  induction h with
  | refl => exact List.prefix_rfl
  | tail _ hStep ih => exact ih.trans hStep.events_prefix

/-- However transactions take turns: the events of a reservation are numbered without a gap,
begin with `reserved` and tell every acknowledged status once, in the order of the commits; a
status whose number was read when the reservation was stored is refused by no constraint and
waits for nobody; and no event is ever taken back. -/
theorem events_tell_acknowledged (hashtext : String → ℤ) {s t : ReservationDatabase ω}
    (h : Relation.ReflTransGen (Step hashtext) empty s)
    (hLater : Relation.ReflTransGen (Step hashtext) s t) :
    Contiguous s.events ∧ s.Told ∧
      (∀ event ∈ s.acknowledged, event.reservationId ∈ s.reservations) ∧
      (∀ reservationId, ∀ r ∈ s.reservations.lookup reservationId, r.status = .reserved) ∧
      (∀ reservationId, reservationId ∈ s.reservations ↔ 2 ≤ next reservationId s.events) ∧
      (∀ w event sequence, s.transactions w = some (.append event (.numbered sequence)) →
        (s.Insertable event.reservationId sequence ↔ 2 ≤ sequence)) ∧
      s.events <+: t.events := by
  have hSound : Sound hashtext s := Sound.empty.run h
  exact ⟨hSound.contiguous, hSound.told, hSound.referenced, hSound.reserved, hSound.stored_iff,
    fun _ _ _ hw => hSound.insertable_iff hw, events_prefix hLater⟩

/-! ### A run -/

def sampleReservation : RiskReservation Decimal where
  reservationId := "res-1"
  requestId := "req-1"
  runId := "run-1"
  tradingDate := ⟨2026, 8, 3⟩
  ticker := "ABCD"
  clientOrderId := "client-1"
  reservedQuantity := 10
  reservedNotional := ⟨false, 100, 0⟩
  reservedModeledRisk := ⟨false, 5, 0⟩
  createdAt := 1785763800000000
  expiresAt := 1785763860000000
  status := .reserved

def sampleEvent : ReservationEvent := ⟨"res-1", .submitted, 1785763801000000, []⟩

/-- One connection reserves, and another reads the number of a status. -/
theorem sample_run : ∃ s : ReservationDatabase Bool,
    Relation.ReflTransGen (Step fun id => id.length) empty s ∧
      s.transactions true = some (.append sampleEvent (.numbered 2)) := by
  have hBegun : Relation.ReflTransGen (Step fun id => id.length)
      (empty : ReservationDatabase Bool) _ := .single (.beginReserve false sampleReservation rfl)
  have hReserved := hBegun.tail
    (.insertReservation false sampleReservation rfl rfl (by decide) (by decide))
  have hRecorded := hReserved.tail (.insertFirst false sampleReservation true rfl (by decide)
    fun other _ hOther => by cases other <;> cases hOther)
  have hCommitted := hRecorded.tail (.commitReserve false sampleReservation true true rfl)
  have hLocked := (hCommitted.tail (.beginAppend true sampleEvent rfl)).tail
    (.lock true sampleEvent rfl (by decide))
  exact ⟨_, hLocked.tail (.number true sampleEvent rfl), rfl⟩

theorem events_tell_acknowledged_sample : ∃ s : ReservationDatabase Bool,
    s.Told ∧ s.Insertable "res-1" 2 := by
  obtain ⟨s, hRun, hNumbered⟩ := sample_run
  obtain ⟨-, hTold, -, -, -, hInsertable, -⟩ := events_tell_acknowledged _ hRun .refl
  exact ⟨s, hTold, (hInsertable true sampleEvent 2 hNumbered).mpr le_rfl⟩

end ReservationDatabase

end Daybreak.Execution
