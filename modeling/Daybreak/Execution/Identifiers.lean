import Daybreak.Execution.Ledger

/-! The client order ids of one run. An entry id ends in its ticker and a
protective id in the ticker and `-P`; both fit forty-eight characters, so the
truncation of the protective id never takes place. Since a ticker may itself end
in `-P`, the ids of a set of reservations are distinct exactly when no ticker of
the set continues another one that way. -/

namespace Daybreak.Execution

open Numeric DecimalArithmetic Risk

variable {D : Type} [DecimalArithmetic D]

/-! ### Lengths -/

/-- The bounds of a calendar date. -/
structure InCalendar (d : Date) : Prop where
  year_le : d.year ≤ 9999
  month_le : d.month ≤ 12
  day_le : d.day ≤ 31

theorem InCalendar.length_compact {d : Date} (h : InCalendar d) : d.compact.length = 8 := by
  have hYear := h.year_le
  have hMonth := h.month_le
  have hDay := h.day_le
  rw [Date.compact, String.length_append, String.length_append, length_zeroPad (by omega),
    length_zeroPad (by omega), length_zeroPad (by omega)]
  all_goals omega

/-! ### Reservations of a run -/

/-- What the entry ids of a run have before their tickers. -/
def entryIdBase (H : Canonical D) (runId : String) (date : Date) : String :=
  "DB-" ++ date.compact ++ "-" ++ slicePrefix (H.textSha256 runId) 16 ++ "-"

/-- An approval of `size_position` reserves `reservation` for the run on the date. -/
def ReservedBy (H : Canonical D) (runId : String) (date : Date)
    (reservation : RiskReservation D) : Prop :=
  ∃ request decision, sizePosition H request = .ok decision ∧ decision.decision = .approved ∧
    decision.reservation = some reservation ∧ request.runId = runId ∧ request.tradingDate = date

/-- Reservations of one run and date, for distinct tickers. -/
structure ReservationsOf (H : Canonical D) (runId : String) (date : Date)
    (reservations : List (RiskReservation D)) : Prop where
  inCalendar : InCalendar date
  reserved : ∀ reservation ∈ reservations, ReservedBy H runId date reservation
  tickers_nodup : (reservations.map (·.ticker)).Nodup

/-- The entry ids, then the protective ids. -/
def orderIds (reservations : List (RiskReservation D)) : List String :=
  reservations.map (·.clientOrderId) ++
    reservations.map fun reservation => protectiveClientOrderId reservation.clientOrderId

variable {H : Canonical D} {runId : String} {date : Date} {reservation : RiskReservation D}
  {reservations : List (RiskReservation D)}

/-- The reservation of an approval is the one that `size_position` makes. -/
theorem approved_reservation {request : SizingRequest D} {decision : RiskDecision D}
    (h : sizePosition H request = .ok decision) (ha : decision.decision = .approved)
    (hReservation : decision.reservation = some reservation) :
    reservation.clientOrderId = clientOrderId H request ∧
      reservation.ticker = request.setup.ticker ∧ reservation.status = .reserved ∧
      reservation.Valid := by
  obtain ⟨c, -, ⟨-, h⟩ | ⟨-, caps, -, ⟨-, h⟩ | ⟨-, h⟩⟩⟩ := sizePosition_cases h
  · simp [rejected_decision h] at ha
  · simp [rejected_decision h] at ha
  · simp only [approved, Result.bind_eq_ok] at h
    obtain ⟨risk, -, notional, -, reserved, hReserve, h⟩ := h
    obtain ⟨rfl, -⟩ := finalizeDecision_eq_ok.mp h
    obtain rfl := Option.some.inj hReservation
    obtain ⟨rfl, hValid⟩ := validated_eq_ok.mp hReserve
    exact ⟨rfl, rfl, rfl, hValid⟩

theorem ReservedBy.clientOrderId_eq (h : ReservedBy H runId date reservation) :
    reservation.clientOrderId = entryIdBase H runId date ++ reservation.ticker := by
  obtain ⟨request, decision, hSized, ha, hReservation, rfl, rfl⟩ := h
  obtain ⟨hId, hTicker, -, -⟩ := approved_reservation hSized ha hReservation
  rw [hId, hTicker]
  rfl

theorem ReservedBy.length_le (hDate : InCalendar date) (h : ReservedBy H runId date reservation) :
    reservation.clientOrderId.length ≤ 44 := by
  have hTicker : reservation.ticker.length ≤ 15 := by
    obtain ⟨request, decision, hSized, ha, hReservation, -, -⟩ := h
    exact length_le_of_isCanonicalTicker (approved_reservation hSized ha hReservation).2.2.2.1.1
  have hHash := length_slicePrefix_le (H.textSha256 runId) 16
  have hDash : "-".length = 1 := rfl
  have hStart : "DB-".length = 3 := rfl
  simp only [h.clientOrderId_eq, entryIdBase, String.length_append, hDate.length_compact, hDash,
    hStart]
  omega

/-- Nothing of an entry id is cut off. -/
theorem ReservedBy.protective_eq (hDate : InCalendar date)
    (h : ReservedBy H runId date reservation) :
    protectiveClientOrderId reservation.clientOrderId =
      entryIdBase H runId date ++ (reservation.ticker ++ "-P") := by
  have hLength := h.length_le hDate
  rw [protectiveClientOrderId, slicePrefix_of_length_le (by omega), h.clientOrderId_eq,
    String.append_assoc]

/-! ### Distinctness -/

theorem ReservationsOf.orderIds_eq (h : ReservationsOf H runId date reservations) :
    orderIds reservations = (reservations.map (·.ticker) ++
      reservations.map (·.ticker ++ "-P")).map (entryIdBase H runId date ++ ·) := by
  rw [orderIds, List.map_append, List.map_map, List.map_map]
  congr 1
  · exact List.map_congr_left fun ρ hρ => (h.reserved ρ hρ).clientOrderId_eq
  · exact List.map_congr_left fun ρ hρ => (h.reserved ρ hρ).protective_eq h.inCalendar

/-- No ticker of the set is another one of it followed by `-P`. -/
def NoProtectiveTicker (reservations : List (RiskReservation D)) : Prop :=
  ∀ reservation ∈ reservations, ∀ other ∈ reservations,
    other.ticker ≠ reservation.ticker ++ "-P"

instance (reservations : List (RiskReservation D)) :
    Decidable (NoProtectiveTicker reservations) := by
  unfold NoProtectiveTicker; infer_instance

theorem ReservationsOf.nodup_iff (h : ReservationsOf H runId date reservations) :
    (orderIds reservations).Nodup ↔ NoProtectiveTicker reservations := by
  have hBase : Function.Injective (entryIdBase H runId date ++ ·) :=
    fun _ _ hSame => (String.append_right_inj _).mp hSame
  have hProtective : (reservations.map (·.ticker ++ "-P")).Nodup := by
    have hEnd : Function.Injective (· ++ "-P") :=
      fun _ _ hSame => (String.append_left_inj _).mp hSame
    have hTickers := (List.nodup_map_iff hEnd).mpr h.tickers_nodup
    rwa [List.map_map] at hTickers
  rw [h.orderIds_eq, List.nodup_map_iff hBase, List.nodup_append]
  constructor
  · rintro ⟨-, -, hApart⟩ ρ hρ other hOther
    exact hApart _ (List.mem_map_of_mem hOther) _ (List.mem_map_of_mem hρ)
  · intro hNone
    refine ⟨h.tickers_nodup, hProtective, ?_⟩
    intro ticker hTicker protective hMem
    obtain ⟨other, hOther, rfl⟩ := List.mem_map.mp hTicker
    obtain ⟨ρ, hρ, rfl⟩ := List.mem_map.mp hMem
    exact hNone ρ hρ other hOther

theorem ReservationsOf.length_orderIds_le (h : ReservationsOf H runId date reservations) :
    ∀ id ∈ orderIds reservations, id.length ≤ 48 := by
  intro id hId
  rcases List.mem_append.mp hId with hEntry | hProtective
  · obtain ⟨ρ, hρ, rfl⟩ := List.mem_map.mp hEntry
    have hLength := (h.reserved ρ hρ).length_le h.inCalendar
    omega
  · obtain ⟨ρ, hρ, rfl⟩ := List.mem_map.mp hProtective
    have hLength := length_slicePrefix_le ρ.clientOrderId (48 - 2)
    have hSuffix : "-P".length = 2 := rfl
    rw [protectiveClientOrderId, String.length_append, hSuffix]
    omega

/-- The ids of one run are distinct and fit exactly when no ticker continues
another one by the suffix of a protective id. -/
theorem order_ids_distinct_iff (H : Canonical D) (runId : String) (date : Date)
    (reservations : List (RiskReservation D)) (h : ReservationsOf H runId date reservations) :
    ((orderIds reservations).Nodup ∧ ∀ id ∈ orderIds reservations, id.length ≤ 48) ↔
      NoProtectiveTicker reservations := by
  rw [h.nodup_iff]
  exact and_iff_left h.length_orderIds_le

/-! ### Two runs -/

/-- The sample request for another ticker. -/
def requestFor (ticker : String) : SizingRequest Decimal :=
  { sampleRequest Decimal with setup := { (sampleRequest Decimal).setup with ticker } }

/-- The reservation that the sample run makes for a ticker. -/
def reservationFor (ticker : String) : Option (RiskReservation Decimal) := do
  let decision ← (sizePosition (sampleCanonical Decimal) (requestFor ticker)).toOption
  decision.reservation

theorem toOption_eq_some {α : Type} {x : Result α} {a : α} :
    x.toOption = some a ↔ x = .ok a := by
  cases x <;> simp [Except.toOption]

theorem reservedBy_reservationFor {ticker : String} {reservation : RiskReservation Decimal}
    (h : reservationFor ticker = some reservation) :
    ReservedBy (sampleCanonical Decimal) "run-1" ⟨2026, 8, 3⟩ reservation := by
  unfold reservationFor at h
  obtain ⟨decision, hSized, hReservation⟩ := Option.bind_eq_some_iff.mp h
  have hOk : sizePosition (sampleCanonical Decimal) (requestFor ticker) = .ok decision :=
    toOption_eq_some.mp hSized
  refine ⟨requestFor ticker, decision, hOk, ?_, hReservation, rfl, rfl⟩
  by_contra hRejected
  have hShape := (sizePosition_identifies_valid hOk).2.2.2.2
  cases hDecision : decision.decision with
  | approved => exact hRejected hDecision
  | rejected =>
    rw [Option.isNone_iff_eq_none.mp (hShape hDecision).2.2.1] at hReservation
    cases hReservation

theorem reservationsOf_sample (tickers : List String)
    (h : ((tickers.filterMap reservationFor).map (·.ticker)).Nodup) :
    ReservationsOf (sampleCanonical Decimal) "run-1" ⟨2026, 8, 3⟩
      (tickers.filterMap reservationFor) where
  inCalendar := ⟨by decide, by decide, by decide⟩
  reserved _ hMem := by
    obtain ⟨ticker, -, hTicker⟩ := List.mem_filterMap.mp hMem
    exact reservedBy_reservationFor hTicker
  tickers_nodup := h

theorem sampleOrderIds_distinct :
    (orderIds (["AAAA", "BBBB"].filterMap reservationFor)).Nodup := by
  have hReservations := reservationsOf_sample ["AAAA", "BBBB"] (by decide +kernel)
  exact ((order_ids_distinct_iff _ _ _ _ hReservations).mpr (by decide +kernel)).1

/-- The protective stop of `A` takes the id of the entry of `A-P`. -/
theorem preferredTicker_collides : ∃ reservations,
    ReservationsOf (sampleCanonical Decimal) "run-1" ⟨2026, 8, 3⟩ reservations ∧
      reservations.map (·.ticker) = ["A", "A-P"] ∧ ¬ (orderIds reservations).Nodup := by
  refine ⟨["A", "A-P"].filterMap reservationFor, ?_, by decide +kernel, by decide +kernel⟩
  exact reservationsOf_sample _ (by decide +kernel)

end Daybreak.Execution
