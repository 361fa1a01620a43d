import Daybreak.Execution.Handover
import Daybreak.Execution.Protection

/-! What the service reports of a risk reservation. A call reports the status of at
most one order: the one that `submit` acknowledges, matching or not, or the one of a
new update, be it an entry, a stop or neither. So a release is sound exactly when
that order is the unfilled entry, and a reservation stays ended exactly when no
later call observes an order that is still open. -/

namespace Daybreak.Execution

open Numeric DecimalArithmetic Effect Risk

variable {β D : Type} [DecimalArithmetic D]

variable {V : Derivations D} {B : Broker β D} {request : ExecutionRequest D}
  {update : TradeUpdate D} {now : Timestamp} {command : BrokerOrderCommand D}
  {order : BrokerOrderSnapshot D} {reservation : RiskReservation D} {held : Commands D}
  {call : ServiceCall D} {w w' : World β D} {r : Result (ExecutionResult D)}

/-! ### What a call reports -/

/-- The order whose status a call reports for a reservation, and the commands that
are stored then. -/
inductive Observes (V : Derivations D) (B : Broker β D) (w : World β D) :
    ServiceCall D → RiskReservation D → BrokerOrderSnapshot D → Commands D → Prop
  | submission {request : ExecutionRequest D} {now : Timestamp} {reservation : RiskReservation D}
      {command : BrokerOrderCommand D} {order : BrokerOrderSnapshot D} {b : β}
      (reserved : request.riskDecision.reservation = some reservation)
      (acknowledged : Acknowledges V B w request now command order b) :
    Observes V B w (.submit request now) reservation order
      (w.repository.commands.setDefault command.clientOrderId command)
  | update {request : ExecutionRequest D} {update : TradeUpdate D}
      {reservation : RiskReservation D} {command : BrokerOrderCommand D}
      (reserved : request.riskDecision.reservation = some reservation)
      (recognized : Recognizes w update command) :
    Observes V B w (.handleTradeUpdate request update) reservation update.order
      w.repository.commands

/-- A call observes one order. -/
theorem Observes.unique {reservation' : RiskReservation D} {order' : BrokerOrderSnapshot D}
    {held' : Commands D} (h : Observes V B w call reservation order held)
    (h' : Observes V B w call reservation' order' held') :
    reservation = reservation' ∧ order = order' ∧ held = held' := by
  cases h with
  | submission reserved acknowledged =>
    cases h' with
    | submission reserved' acknowledged' =>
      obtain rfl := acknowledged.sends.command_eq acknowledged'.sends.screened
      exact ⟨Option.some.inj (reserved.symm.trans reserved'),
        acknowledged.reports.order_eq acknowledged'.reports, rfl⟩
  | update reserved _ =>
    cases h' with
    | update reserved' _ => exact ⟨Option.some.inj (reserved.symm.trans reserved'), rfl, rfl⟩

/-- From `w` to `w'` the status of `order` was reported, and nothing else, while the
commands were `held`. -/
def Reported (V : Derivations D) (request : ExecutionRequest D) (order : BrokerOrderSnapshot D)
    (held : Commands D) (w w' : World β D) : Prop :=
  ∃ entries : List (Timestamp × MemoryExecutionRepository D), entries ≠ [] ∧
    (∀ entry ∈ entries, entry.2.commands = held) ∧
    w'.reservationEvents = w.reservationEvents ++
      entries.flatMap (fun entry => recordedEvents V request order entry.1) ∧
    w'.causes = w.causes ++ entries.flatMap (fun entry => recordedCauses request order entry.2)

theorem Reported.once (timestamp : Timestamp) (hHeld : w.repository.commands = held)
    {w₀ : World β D} (hBefore : Silent w₀ w)
    (hAfter : Silent (w.recorded V request order timestamp) w') :
    Reported V request order held w₀ w' := by
  refine ⟨[(timestamp, w.repository)], by simp, by simpa using hHeld, ?_, ?_⟩
  · rw [hAfter.1, ← hBefore.1]
    simp [World.recorded]
  · rw [hAfter.2, ← hBefore.2]
    simp [World.recorded]

theorem Reported.trans {w'' : World β D} (h : Reported V request order held w w')
    (h' : Reported V request order held w' w'') : Reported V request order held w w'' := by
  obtain ⟨first, hFirst, hHeld, hEvents, hCauses⟩ := h
  obtain ⟨second, -, hHeld', hEvents', hCauses'⟩ := h'
  refine ⟨first ++ second, by simp [hFirst], ?_, ?_, ?_⟩
  · intro entry hEntry
    exact (List.mem_append.mp hEntry).elim (hHeld entry) (hHeld' entry)
  · rw [hEvents', hEvents, List.flatMap_append, List.append_assoc]
  · rw [hCauses', hCauses, List.flatMap_append, List.append_assoc]

/-- A handled update is reported when it is recognized. -/
theorem handleTradeUpdate_reports (h : (handleTradeUpdate V B request update).exec w = (r, w')) :
    ((∃ command, Recognizes w update command) ∧
        Reported V request update.order w.repository.commands w w') ∨
      ((∀ command, ¬ Recognizes w update command) ∧ Silent w w') := by
  obtain ⟨command, u, hRecognized, hSight, h⟩ | hPassed := handleTradeUpdate_cases h
  · have hAfter := (kept_silent V _).protectOrSettle B request update command
      (u.recorded V request update.order update.eventTimestamp) ⟨rfl, rfl⟩
    rw [h] at hAfter
    have hBefore : Silent w u :=
      ⟨congrArg Sight.reservationEvents hSight, congrArg Sight.causes hSight⟩
    exact .inl ⟨⟨command, hRecognized⟩,
      .once update.eventTimestamp (congrArg Sight.commands hSight) hBefore hAfter⟩
  · exact .inr ⟨hPassed.unrecognized, hPassed.silent⟩

/-- A submission reports the order it acknowledges, again if it handles it. -/
theorem submit_reports (h : (submit V B request now).exec w = (r, w')) :
    (∃ command order b, Acknowledges V B w request now command order b ∧ Reported V request order
        (w.repository.commands.setDefault command.clientOrderId command) w w') ∨
      ((∀ command order b, ¬ Acknowledges V B w request now command order b) ∧ Silent w w') := by
  obtain ⟨command, order, _, hSuccess, u, hAcknowledged, hSight, h⟩ | ⟨hNone, hSilent, -⟩ :=
    submit_cases h
  · refine .inl ⟨command, order, u.broker, hAcknowledged, ?_⟩
    obtain ⟨v, hSame, hEnd⟩ := acknowledge_cases hSuccess h
    rw [hSight] at hSame
    have hBefore : Silent w v :=
      ⟨congrArg Sight.reservationEvents hSame, congrArg Sight.causes hSame⟩
    have hHeld := congrArg Sight.commands hSame
    have hFirst : Reported V request order
        (w.repository.commands.setDefault command.clientOrderId command) w
        (v.recorded V request order now) := .once now hHeld hBefore ⟨rfl, rfl⟩
    obtain ⟨-, -, hHandle⟩ | ⟨-, hSilent, -⟩ := hEnd
    · obtain ⟨-, hAgain⟩ | ⟨-, hSilent⟩ := handleTradeUpdate_reports hHandle
      · rw [show (v.recorded V request order now).repository.commands = _ from hHeld] at hAgain
        exact hFirst.trans hAgain
      · exact .once now hHeld hBefore hSilent
    · exact .once now hHeld hBefore hSilent
  · exact .inr ⟨hNone, hSilent⟩

/-- A call reports the order it observes, and nothing if it observes none. -/
theorem ServiceCall.reports (h : (call.run V B).exec w = (r, w')) :
    (∃ reservation order held, call.request.riskDecision.reservation = some reservation ∧
        Observes V B w call reservation order held ∧ Reported V call.request order held w w') ∨
      ((∀ reservation order held, ¬ Observes V B w call reservation order held) ∧
        Silent w w') := by
  cases hReserved : call.request.riskDecision.reservation with
  | none =>
    -- Without a reservation nothing is reported.
    have hQuiet {order : BrokerOrderSnapshot D} {held : Commands D}
        (hReported : Reported V call.request order held w w') : Silent w w' := by
      obtain ⟨entries, -, -, hEvents, hCauses⟩ := hReported
      constructor
      · rw [hEvents, List.append_right_eq_self, List.flatMap_eq_nil_iff]
        intro entry _
        rw [recordedEvents, hReserved]
        rfl
      · rw [hCauses, List.append_right_eq_self, List.flatMap_eq_nil_iff]
        intro entry _
        rw [recordedCauses, hReserved]
        rfl
    refine .inr ⟨fun reservation order held hObserves => ?_, ?_⟩
    · cases hObserves with
      | submission reserved _ => cases hReserved.symm.trans reserved
      | update reserved _ => cases hReserved.symm.trans reserved
    · cases call with
      | submit request now =>
        obtain ⟨_, _, _, -, hReported⟩ | ⟨-, hSilent⟩ := submit_reports h
        · exact hQuiet hReported
        · exact hSilent
      | handleTradeUpdate request update =>
        obtain ⟨-, hReported⟩ | ⟨-, hSilent⟩ := handleTradeUpdate_reports h
        · exact hQuiet hReported
        · exact hSilent
  | some reservation =>
    cases call with
    | submit request now =>
      obtain ⟨_, order, _, hAcknowledged, hReported⟩ | ⟨hNone, hSilent⟩ := submit_reports h
      · exact .inl ⟨reservation, order, _, rfl, .submission hReserved hAcknowledged, hReported⟩
      · refine .inr ⟨fun reservation order held hObserves => ?_, hSilent⟩
        cases hObserves with
        | submission _ acknowledged => exact hNone _ _ _ acknowledged
    | handleTradeUpdate request update =>
      obtain ⟨⟨_, hRecognized⟩, hReported⟩ | ⟨hNone, hSilent⟩ := handleTradeUpdate_reports h
      · exact .inl ⟨reservation, _, _, rfl, .update hReserved hRecognized, hReported⟩
      · refine .inr ⟨fun reservation order held hObserves => ?_, hSilent⟩
        cases hObserves with
        | update _ recognized => exact hNone _ recognized

/-! ### Released capital -/

/-- A status that frees the capital of a reservation. -/
def Frees (status : ReservationStatus) : Prop := status ∈ [.released, .expired]

instance (status : ReservationStatus) : Decidable (Frees status) := by
  unfold Frees; infer_instance

theorem frees_iff {status : BrokerOrderStatus} :
    Frees (reservationStatus status) ↔ status ∈ [.canceled, .expired, .rejected] := by
  cases status <;> decide

/-- The order is the buy entry of the request, matches its stored command, and bought
nothing. -/
def UnfilledEntry (held : Commands D) (request : ExecutionRequest D)
    (order : BrokerOrderSnapshot D) : Prop :=
  OwnEntry request order ∧ value order.filledQuantity = 0 ∧
    ∃ command ∈ held.lookup order.clientOrderId, Matches command order

instance (held : Commands D) (request : ExecutionRequest D) (order : BrokerOrderSnapshot D) :
    Decidable (UnfilledEntry held request order) := by
  unfold UnfilledEntry; infer_instance

/-- An event that frees capital was caused by the unfilled entry. -/
def SoundRelease (event : ReservationEvent) (cause : Cause D) : Prop :=
  Frees event.status → UnfilledEntry cause.repository.commands cause.request cause.order

instance (event : ReservationEvent) (cause : Cause D) : Decidable (SoundRelease event cause) := by
  unfold SoundRelease; infer_instance

/-- No event freed the capital of a reservation that bought shares. -/
def ReleasesSound (w : World β D) : Prop := List.Forall₂ SoundRelease w.reservationEvents w.causes

instance (w : World β D) : Decidable (ReleasesSound w) := by
  unfold ReleasesSound; infer_instance

/-- Lists that end alike are related when their beginnings and their ends are. -/
theorem forall₂_append_iff {α γ : Type} {R : α → γ → Prop} {xs xs' : List α} {ys ys' : List γ}
    (h : xs'.length = ys'.length) :
    List.Forall₂ R (xs ++ xs') (ys ++ ys') ↔ List.Forall₂ R xs ys ∧ List.Forall₂ R xs' ys' := by
  constructor
  · intro hAll
    have hLength : ys.length = xs.length := by
      have hTotal := hAll.length_eq
      simp only [List.length_append] at hTotal
      omega
    constructor
    · have hTake := List.forall₂_take xs.length hAll
      rwa [List.take_left, List.take_left' hLength] at hTake
    · have hDrop := List.forall₂_drop xs.length hAll
      rwa [List.drop_left, List.drop_left' hLength] at hDrop
  · rintro ⟨hFirst, hSecond⟩
    exact List.rel_append hFirst hSecond

/-- Reports are sound when the order they report is. -/
theorem Reported.sound_iff (hReserved : request.riskDecision.reservation = some reservation)
    (h : Reported V request order held w w') :
    ReleasesSound w' ↔ ReleasesSound w ∧
      (Frees (reservationStatus order.status) → UnfilledEntry held request order) := by
  obtain ⟨entries, hSome, hHeld, hEvents, hCauses⟩ := h
  simp only [recordedEvents, recordedCauses, hReserved, Option.toList_some, List.map_cons,
    List.map_nil, ← List.map_eq_flatMap] at hEvents hCauses
  have hEntries : List.Forall₂ SoundRelease
      (entries.map fun entry => reservationEvent V reservation order entry.1)
      (entries.map fun entry => (⟨request, order, entry.2⟩ : Cause D)) ↔
      (Frees (reservationStatus order.status) → UnfilledEntry held request order) := by
    rw [List.forall₂_map_left_iff, List.forall₂_map_right_iff, List.forall₂_same]
    constructor
    · intro hAll
      obtain ⟨entry, hEntry⟩ := List.exists_mem_of_ne_nil entries hSome
      rw [← hHeld entry hEntry]
      exact hAll entry hEntry
    · intro hSound entry hEntry
      rw [← hHeld entry hEntry] at hSound
      exact hSound
  rw [ReleasesSound, hEvents, hCauses, forall₂_append_iff (by simp), hEntries]
  rfl

/-- A call keeps the releases sound exactly when the order it observes, if it has ended unfilled,
is the unfilled entry. -/
theorem ServiceCall.releasesSound_iff (h : (call.run V B).exec w = (r, w')) :
    ReleasesSound w' ↔ ReleasesSound w ∧ ∀ reservation order held,
      Observes V B w call reservation order held →
      order.status ∈ [.canceled, .expired, .rejected] →
      UnfilledEntry held call.request order := by
  obtain ⟨reservation, order, held, hReserved, hObserves, hReported⟩ | ⟨hNone, hSilent⟩ :=
    call.reports h
  · rw [hReported.sound_iff hReserved]
    refine and_congr_right fun _ => ⟨fun hSound reservation' order' held' hObserves' hEnded => ?_,
      fun hAll hFrees => ?_⟩
    · obtain ⟨rfl, rfl, rfl⟩ := hObserves.unique hObserves'
      exact hSound (frees_iff.mpr hEnded)
    · exact hAll reservation order held hObserves (frees_iff.mp hFrees)
  · unfold ReleasesSound
    rw [hSilent.1, hSilent.2]
    exact (and_iff_left fun reservation order held hObserves _ =>
      absurd hObserves (hNone reservation order held)).symm

/-- Over every history the releases were sound exactly when, whenever a call observed
an order that was canceled, expired or rejected, that was the unfilled entry. -/
theorem releases_sound_iff (V : Derivations D) (B : Broker β D) (b : β) (w : World β D)
    (records : List (Record β D))
    (h : History (ServiceCall.run V B) BrokerMoves (.initial b) records w) :
    ReleasesSound w ↔ ∀ record ∈ records, ∀ reservation order held,
      Observes V B record.before record.call reservation order held →
      order.status ∈ [.canceled, .expired, .rejected] →
      UnfilledEntry held record.call.request order := by
  refine h.iff_forall ReleasesSound .nil (fun call s r t hExec => call.releasesSound_iff hExec) ?_
  intro s t hMoves
  rw [hMoves]
  exact Iff.rfl

/-- The entry canceled before it bought a share is the only order ever observed. -/
theorem canceledUnfilled_released :
    ∃ records w, History (ServiceCall.run sampleDerivations (ledger Decimal true)) BrokerMoves
        (.initial [canceledUnfilled]) records w ∧
      w.reservationEvents.map (·.status) = [.released] ∧
      ∀ record ∈ records, ∀ reservation order held,
        Observes sampleDerivations (ledger Decimal true) record.before record.call reservation
          order held → order.status ∈ [.canceled, .expired, .rejected] →
        UnfilledEntry held record.call.request order := by
  have hHistory : History (ServiceCall.run sampleDerivations (ledger Decimal true)) BrokerMoves
      (.initial [canceledUnfilled]) _ _ :=
    History.start.next (.submit sampleExecution sampleExecution.requestedAt)
  exact ⟨_, _, hHistory, by decide +kernel,
    (releases_sound_iff _ _ _ _ _ hHistory).mp (by decide +kernel)⟩

/-- The entry bought forty shares before it was canceled, and is reported as released. -/
theorem canceledPartialFill_released :
    ∃ records w, History (ServiceCall.run sampleDerivations (ledger Decimal true)) BrokerMoves
        (.initial [canceledPartialFill]) records w ∧
      w.reservationEvents.map (·.status) = [.released] ∧ ¬ ReleasesSound w :=
  ⟨_, _, History.start.next (.submit sampleExecution sampleExecution.requestedAt),
    by decide +kernel, by decide +kernel⟩

/-! ### Ended reservations -/

/-- A status that ends a reservation. -/
def Ends (status : ReservationStatus) : Prop := status ∈ [.filled, .released, .expired]

/-- A status of a reservation that is still working. -/
def Works (status : ReservationStatus) : Prop := status ∈ [.submitted, .partiallyFilled]

instance (status : ReservationStatus) : Decidable (Ends status) := by
  unfold Ends; infer_instance

instance (status : ReservationStatus) : Decidable (Works status) := by
  unfold Works; infer_instance

theorem Ends.not_works {status : ReservationStatus} (h : Ends status) : ¬ Works status := by
  cases status <;> revert h <;> decide

theorem not_works_iff {status : BrokerOrderStatus} :
    ¬ Works (reservationStatus status) ↔ status ∈ [.filled, .canceled, .expired, .rejected] := by
  cases status <;> decide

/-- Nothing that works follows what ended the same reservation. -/
def Absorbing (events : List ReservationEvent) : Prop :=
  events.Pairwise fun earlier later =>
    earlier.reservationId = later.reservationId → Ends earlier.status → ¬ Works later.status

instance (events : List ReservationEvent) : Decidable (Absorbing events) := by
  unfold Absorbing; infer_instance

/-- The reservation was reported to have ended. -/
def Ended (w : World β D) (reservationId : String) : Prop :=
  ∃ event ∈ w.reservationEvents, event.reservationId = reservationId ∧ Ends event.status

/-- Reports keep the law when the order they report has ended like its reservation. -/
theorem Reported.absorbing_iff (hReserved : request.riskDecision.reservation = some reservation)
    (h : Reported V request order held w w') :
    Absorbing w'.reservationEvents ↔ Absorbing w.reservationEvents ∧
      (Ended w reservation.reservationId → ¬ Works (reservationStatus order.status)) := by
  obtain ⟨entries, hSome, -, hEvents, -⟩ := h
  simp only [recordedEvents, hReserved, Option.toList_some, List.map_cons, List.map_nil,
    ← List.map_eq_flatMap] at hEvents
  obtain ⟨entry, hEntry⟩ := List.exists_mem_of_ne_nil entries hSome
  rw [Absorbing, hEvents, List.pairwise_append]
  constructor
  · rintro ⟨hBefore, -, hAcross⟩
    refine ⟨hBefore, ?_⟩
    rintro ⟨event, hEvent, hSame, hEnds⟩
    exact hAcross event hEvent _ (List.mem_map_of_mem hEntry) hSame hEnds
  · rintro ⟨hBefore, hEnded⟩
    refine ⟨hBefore, ?_, ?_⟩
    · -- The new reports all have one status.
      rw [List.pairwise_map]
      exact List.pairwise_of_forall fun _ _ _ hEnds => hEnds.not_works
    · intro event hEvent later hLater hSame hEnds
      obtain ⟨_, -, rfl⟩ := List.mem_map.mp hLater
      exact hEnded ⟨event, hEvent, hSame, hEnds⟩

/-- A call keeps the ended reservations ended exactly when the order it observes for one that has
ended has ended itself. -/
theorem ServiceCall.absorbing_iff (h : (call.run V B).exec w = (r, w')) :
    Absorbing w'.reservationEvents ↔ Absorbing w.reservationEvents ∧
      ∀ reservation order held, Observes V B w call reservation order held →
        Ended w reservation.reservationId →
        order.status ∈ [.filled, .canceled, .expired, .rejected] := by
  obtain ⟨reservation, order, held, hReserved, hObserves, hReported⟩ | ⟨hNone, hSilent⟩ :=
    call.reports h
  · rw [hReported.absorbing_iff hReserved]
    refine and_congr_right fun _ =>
      ⟨fun hAbsorbed reservation' order' held' hObserves' hEnded => ?_, fun hAll hEnded => ?_⟩
    · obtain ⟨rfl, rfl, rfl⟩ := hObserves.unique hObserves'
      exact not_works_iff.mp (hAbsorbed hEnded)
    · exact not_works_iff.mpr (hAll reservation order held hObserves hEnded)
  · rw [hSilent.1]
    exact (and_iff_left fun reservation order held hObserves _ =>
      absurd hObserves (hNone reservation order held)).symm

/-- Over every history a reservation stayed ended exactly when each order that a call
observed for one that had ended was itself filled, canceled, expired or rejected. -/
theorem reservations_absorbing_iff (V : Derivations D) (B : Broker β D) (b : β) (w : World β D)
    (records : List (Record β D))
    (h : History (ServiceCall.run V B) BrokerMoves (.initial b) records w) :
    Absorbing w.reservationEvents ↔ ∀ record ∈ records, ∀ reservation order held,
      Observes V B record.before record.call reservation order held →
      Ended record.before reservation.reservationId →
      order.status ∈ [.filled, .canceled, .expired, .rejected] := by
  refine h.iff_forall (fun w => Absorbing w.reservationEvents) .nil
    (fun call s r t hExec => call.absorbing_iff hExec) ?_
  intro s t hMoves
  rw [hMoves]

/-- The sample entry is completely filled. -/
def entryFill : TradeUpdate Decimal where
  eventId := "update-1"
  event := "fill"
  eventTimestamp := 1785763802000000
  order := ⟨snapshotFields sampleEntry .filled 107 "broker-order-1", by decide +kernel⟩
  rawEventHash := ""

/-- The news that the entry is working, delivered late. -/
def staleNews : TradeUpdate Decimal where
  eventId := "update-0"
  event := "new"
  eventTimestamp := 1785763801200000
  order := ⟨snapshotFields sampleEntry .new 0 "broker-order-1", by decide +kernel⟩
  rawEventHash := ""

/-- The updates of an entry in their order. -/
theorem entryFill_absorbing :
    ∃ records w, History (ServiceCall.run sampleDerivations (ledger Decimal true)) BrokerMoves
        (.initial []) records w ∧
      w.reservationEvents.map (·.status) = [.submitted, .submitted, .filled] ∧
      ∀ record ∈ records, ∀ reservation order held,
        Observes sampleDerivations (ledger Decimal true) record.before record.call reservation
          order held → Ended record.before reservation.reservationId →
        order.status ∈ [.filled, .canceled, .expired, .rejected] := by
  have hHistory : History (ServiceCall.run sampleDerivations (ledger Decimal true)) BrokerMoves
      (.initial []) _ _ :=
    ((History.start.next (.submit sampleExecution sampleExecution.requestedAt)).next
      (.handleTradeUpdate sampleExecution staleNews)).next
      (.handleTradeUpdate sampleExecution entryFill)
  exact ⟨_, _, hHistory, by decide +kernel,
    (reservations_absorbing_iff _ _ _ _ _ hHistory).mp (by decide +kernel)⟩

/-- After the fill the late news makes the reservation work again. -/
theorem staleNews_reopens :
    ∃ records w, History (ServiceCall.run sampleDerivations (ledger Decimal true)) BrokerMoves
        (.initial []) records w ∧
      w.reservationEvents.map (·.status) = [.submitted, .filled, .submitted] ∧
      ¬ Absorbing w.reservationEvents :=
  ⟨_, _, ((History.start.next (.submit sampleExecution sampleExecution.requestedAt)).next
      (.handleTradeUpdate sampleExecution entryFill)).next
      (.handleTradeUpdate sampleExecution staleNews),
    by decide +kernel, by decide +kernel⟩

end Daybreak.Execution
