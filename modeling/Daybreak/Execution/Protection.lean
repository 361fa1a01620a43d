import Daybreak.Execution.Redelivery

/-! The protection of a partial fill. It cancels the order of the update, whether
or not that is an entry; it sends a stop only after its last read of that order
showed a canceled order with a whole positive fill, and for that quantity. -/

namespace Daybreak.Execution

open Numeric DecimalArithmetic Effect Risk

variable {β D : Type} [DecimalArithmetic D]

variable {V : Derivations D} {request : ExecutionRequest D} {update : TradeUpdate D}
  {command protective : BrokerOrderCommand D} {order parent : BrokerOrderSnapshot D}
  {held held' : Commands D} {claims claims' : Claims} {calls : List (BrokerCall D)}
  {r : Result (ExecutionResult D)} {res : ExecutionResult D} {w : World β D}

/-! ### Cancellations -/

/-- The order is the buy entry that the request reserved. -/
def OwnEntry (request : ExecutionRequest D) (order : BrokerOrderSnapshot D) : Prop :=
  request.entryClientOrderId = some order.clientOrderId ∧ order.side = .buy

instance (request : ExecutionRequest D) (order : BrokerOrderSnapshot D) :
    Decidable (OwnEntry request order) := by
  unfold OwnEntry; infer_instance

/-- Every cancellation is of the update's order, and that is the request's entry. -/
def CancelsOwnEntry (request : ExecutionRequest D) (update : TradeUpdate D)
    (calls : List (BrokerCall D)) : Prop :=
  ∀ id answer, BrokerCall.cancel id answer ∈ calls →
    id = update.order.brokerOrderId ∧ OwnEntry request update.order

/-- The update starts the protection of an order whose command is stored. -/
def StartsProtection (request : ExecutionRequest D) (update : TradeUpdate D) (w : World β D) :
    Prop :=
  Triggers w.repository.tradeUpdateIds request update ∧
    update.order.clientOrderId ∈ w.repository.commands

instance (request : ExecutionRequest D) (update : TradeUpdate D) (w : World β D) :
    Decidable (StartsProtection request update w) := by
  unfold StartsProtection; infer_instance

theorem FindRun.no_cancel {r : Result (BrokerOrderSnapshot D)} (h : FindRun command calls r)
    (id : String) (answer : Result Unit) : BrokerCall.cancel id answer ∉ calls := by
  cases h <;> simp

/-- A protection cancels its order, first of all, and nothing else. -/
theorem ProtectRun.cancels {id : String} (h : ProtectRun V request id command held calls held' r) :
    (∃ answer, BrokerCall.cancel id answer ∈ calls) ∧
      ∀ id' answer, BrokerCall.cancel id' answer ∈ calls → id' = id := by
  cases h with
  | cancelRaises e => simp
  | readRaises e => simp
  | filled => simp
  | unplaced => simp
  | sends _ _ _ _ stop =>
    obtain ⟨_, hFind⟩ := stop.find
    constructor
    · exact ⟨_, List.mem_cons_self⟩
    · intro id' answer hMem
      have hSame : id' = id ∧ answer = .ok () := by simpa [hFind.no_cancel] using hMem
      exact hSame.1

theorem HandleRun.cancels_iff
    (h : HandleRun V request update w.repository.commands w.repository.tradeUpdateIds calls held'
      claims' r) :
    CancelsOwnEntry request update calls ↔
      (OwnEntry request update.order ∨ ¬ StartsProtection request update w) := by
  have hNothing : calls = [] → ¬ StartsProtection request update w →
      (CancelsOwnEntry request update calls ↔
        (OwnEntry request update.order ∨ ¬ StartsProtection request update w)) := by
    rintro rfl hIdle
    exact iff_of_true (by simp [CancelsOwnEntry]) (.inr hIdle)
  cases h with
  | claimRefused _ taken =>
    apply hNothing rfl
    intro hStarts
    rw [hStarts.1.1] at taken
    cases taken
  | unknownAgain _ stored =>
    apply hNothing rfl
    intro hStarts
    exact AList.lookup_eq_none.mp stored hStarts.2
  | redelivered known =>
    apply hNothing rfl
    intro hStarts
    rw [hStarts.1.1] at known
    cases known
  | unknown _ stored =>
    apply hNothing rfl
    intro hStarts
    exact AList.lookup_eq_none.mp stored hStarts.2
  | passed _ _ settled =>
    apply hNothing rfl
    intro hStarts
    exact settled hStarts.1.2
  | protects fresh stored needed run =>
    obtain ⟨⟨answer, hCancel⟩, hOnly⟩ := run.cancels
    have hStarts : StartsProtection request update w :=
      ⟨⟨fresh, needed⟩, AList.lookup_isSome.mp (by simp [stored])⟩
    constructor
    · intro hOwn
      exact .inl (hOwn _ _ hCancel).2
    · rintro (hOwn | hIdle) id' answer' hMem
      · exact ⟨hOnly _ _ hMem, hOwn⟩
      · exact absurd hStarts hIdle

/-- A handled update cancels nothing but the request's own entry exactly when it is
an update of that entry or starts no protection. -/
theorem cancels_own_entry_iff (V : Derivations D) (B : Broker β D) (request : ExecutionRequest D)
    (update : TradeUpdate D) (w w' : World β D) (r : Result (ExecutionResult D))
    (h : (handleTradeUpdate V B request update).exec w = (r, w')) :
    ∃ calls, w'.log = w.log ++ calls ∧ (CancelsOwnEntry request update calls ↔
      (OwnEntry request update.order ∨ ¬ StartsProtection request update w)) := by
  obtain ⟨calls, _, _, hRun, hAdv⟩ := handleTradeUpdate_run h
  exact ⟨calls, hAdv.log, hRun.cancels_iff⟩

/-! ### The sample entry and its stop, filled in part -/

/-- The broker then fills 40 shares of the sample entry. -/
def afterPartialFill : World (List (BrokerOrderSnapshot Decimal)) Decimal :=
  { afterEntry with broker := [partialFill.order] }

def handlePartialFill :
    Service (List (BrokerOrderSnapshot Decimal)) Decimal (ExecutionResult Decimal) :=
  handleTradeUpdate sampleDerivations (ledger Decimal true) sampleExecution partialFill

theorem partialFill_cancels_own_entry :
    ∃ r w calls, handlePartialFill.exec afterPartialFill = (r, w) ∧
      w.log = afterPartialFill.log ++ calls ∧
      CancelsOwnEntry sampleExecution partialFill calls := by
  obtain ⟨calls, hLog, hIff⟩ := cancels_own_entry_iff sampleDerivations (ledger Decimal true)
    sampleExecution partialFill afterPartialFill _ _ (Prod.eta _).symm
  exact ⟨_, _, calls, (Prod.eta _).symm, hLog, hIff.mpr (.inl (by decide +kernel))⟩

def afterProtection : World (List (BrokerOrderSnapshot Decimal)) Decimal :=
  (handlePartialFill.exec afterPartialFill).2

/-- The stop that protects the 40 shares. -/
def sampleStop : BrokerOrderCommand Decimal :=
  (buildPartialFillProtectiveStop sampleDerivations sampleExecution 40).toOption.get
    (by decide +kernel)

/-- Ten of the shares are sold at the stop. -/
def stopFill : TradeUpdate Decimal where
  eventId := "update-2"
  event := "partial_fill"
  eventTimestamp := 1785763803000000
  order := ⟨snapshotFields sampleStop .partiallyFilled 10 "broker-order-2", by decide +kernel⟩
  rawEventHash := ""

/-- The update of the stop cancels the stop. -/
theorem stopFill_cancels_stop :
    ∃ records r w calls, History (ServiceCall.run sampleDerivations (ledger Decimal true))
        BrokerMoves (.initial []) records afterProtection ∧
      stopFill.order.clientOrderId ∈ afterProtection.repository.commands ∧
      (handleTradeUpdate sampleDerivations (ledger Decimal true) sampleExecution stopFill).exec
        afterProtection = (r, w) ∧
      w.log = afterProtection.log ++ calls ∧ ¬ CancelsOwnEntry sampleExecution stopFill calls := by
  have hEntry : History (ServiceCall.run sampleDerivations (ledger Decimal true)) BrokerMoves
      (.initial []) _ afterEntry :=
    History.start.next (ServiceCall.submit sampleExecution sampleExecution.requestedAt)
  have hFilled := hEntry.elapse (show BrokerMoves afterEntry afterPartialFill from rfl)
  have hStarts : StartsProtection sampleExecution stopFill afterProtection := by decide +kernel
  have hOther : ¬ OwnEntry sampleExecution stopFill.order := by decide +kernel
  obtain ⟨calls, _, _, hRun, hAdv⟩ := handleTradeUpdate_run (Prod.eta
    ((handleTradeUpdate sampleDerivations (ledger Decimal true) sampleExecution stopFill).exec
      afterProtection)).symm
  refine ⟨_, _, _, calls, hFilled.next (.handleTradeUpdate sampleExecution partialFill), hStarts.2,
    (Prod.eta _).symm, hAdv.log, fun hOwn => ?_⟩
  exact (hRun.cancels_iff.mp hOwn).elim hOther fun hIdle => hIdle hStarts

/-! ### The stop -/

def readAnswer (id : String) : BrokerCall D → Option (Result (BrokerOrderSnapshot D))
  | .read id' answer => if id' = id then some answer else none
  | _ => none

/-- The last answer to a read of the order `id`. -/
def lastRead (id : String) (calls : List (BrokerCall D)) :
    Option (Result (BrokerOrderSnapshot D)) :=
  (calls.filterMap (readAnswer id)).getLast?

/-- The order `id` was last read as canceled, with `n` whole shares bought. -/
structure CanceledFill (id : String) (calls : List (BrokerCall D)) (parent : BrokerOrderSnapshot D)
    (n : ℕ) : Prop where
  read : lastRead id calls = some (.ok parent)
  canceled : parent.status = .canceled
  positive : 0 < n
  whole : value parent.filledQuantity = n

/-- A simple DAY sell stop of `n` shares at the price the risk decision set. -/
structure ProtectiveStop (request : ExecutionRequest D) (n : ℕ) (order : BrokerOrderSnapshot D) :
    Prop where
  symbol : order.symbol = request.riskDecision.ticker
  side : order.side = .sell
  orderType : order.orderType = .stop
  timeInForce : order.timeInForce = "day"
  orderClass : order.orderClass = "simple"
  quantity : value order.quantity = n
  stopPrice : ∃ stop, request.riskDecision.stopPrice = some stop ∧
    order.stopPrice.map value = some (value stop)

theorem FindRun.no_read {r : Result (BrokerOrderSnapshot D)} (h : FindRun command calls r)
    (id : String) :
    ∀ call ∈ calls, readAnswer id call = none := by
  cases h <;> simp [readAnswer]

theorem FindRun.submitted_eq {c : BrokerOrderCommand D}
    {r answer : Result (BrokerOrderSnapshot D)} (h : FindRun command calls r)
    (hMem : BrokerCall.submit c answer ∈ calls) : c = command := by
  cases h with
  | found => simp at hMem
  | raises => simp at hMem
  | submits r =>
    obtain ⟨rfl, -⟩ : c = command ∧ answer = r := by simpa using hMem
    rfl

theorem lastRead_of_no_read {id : String} {answer : Result (BrokerOrderSnapshot D)}
    {cancel : Result Unit} {rest : List (BrokerCall D)}
    (h : ∀ call ∈ rest, readAnswer id call = none) :
    lastRead id (.cancel id cancel :: .read id answer :: rest) = some answer := by
  have hRead : readAnswer id (.read id answer) = some answer := if_pos rfl
  rw [lastRead, List.filterMap_cons_none rfl, List.filterMap_cons_some hRead,
    List.filterMap_eq_nil_iff.mpr h]
  rfl

/-- A stop that matches its command is the protective stop of the request. -/
theorem Matches.protectiveStop {filled : ℤ}
    (hBuilt : buildPartialFillProtectiveStop V request filled = .ok protective)
    (h : Matches protective order) : ProtectiveStop request filled.toNat order := by
  obtain ⟨-, reservation, stop, hash, -, hStop, hFields⟩ :=
    buildPartialFillProtectiveStop_eq_ok hBuilt
  obtain ⟨⟨-, hSymbol, hSide, hType, hForce, hClass, hQuantity, -, hPrice⟩, -⟩ := h
  rw [hFields] at hSymbol hSide hType hForce hClass hQuantity hPrice
  exact {
    symbol := hSymbol.symm
    side := hSide.symm
    orderType := hType.symm
    timeInForce := hForce.symm
    orderClass := hClass.symm
    quantity := hQuantity.symm
    stopPrice := ⟨stop, hStop, hPrice stop rfl⟩ }

/-- The parent was read once, canceled with the fill that a stop was built for. -/
theorem canceledFill_of_built {id : String} {rest : List (BrokerCall D)}
    (hStatus : parent.status = .canceled)
    (hWhole : value parent.filledQuantity = toInt parent.filledQuantity)
    (hBuilt : buildPartialFillProtectiveStop V request (toInt parent.filledQuantity) =
      .ok protective)
    (hRest : ∀ call ∈ rest, readAnswer id call = none) :
    CanceledFill id (.cancel id (.ok ()) :: .read id (.ok parent) :: rest) parent
      (toInt parent.filledQuantity).toNat := by
  have hPositive := (buildPartialFillProtectiveStop_eq_ok hBuilt).1
  refine ⟨lastRead_of_no_read hRest, hStatus, by omega, ?_⟩
  rw [hWhole]
  exact_mod_cast (Int.toNat_of_nonneg hPositive.le).symm

/-- Before a stop is sent its parent was last read canceled with the fill it sells. -/
def StopsFollowRead (id : String) (calls : List (BrokerCall D)) : Prop :=
  ∀ earlier later c answer, calls = earlier ++ .submit c answer :: later →
    c.side = .sell ∧ ∃ parent, CanceledFill id earlier parent c.quantity

theorem StopsFollowRead.of_unsent {id : String} (h : submitted calls = []) :
    StopsFollowRead id calls := by
  rintro earlier later c answer rfl
  simp [submitted, submission] at h

theorem ProtectRun.stopsFollowRead {id : String}
    (h : ProtectRun V request id command held calls held' r) :
    StopsFollowRead id calls := by
  cases h with
  | cancelRaises => exact .of_unsent rfl
  | readRaises => exact .of_unsent rfl
  | filled => exact .of_unsent rfl
  | unplaced => exact .of_unsent rfl
  | sends status whole built _ stop =>
    obtain ⟨_, hFind⟩ := stop.find
    obtain ⟨-, _, _, _, -, -, hFields⟩ := buildPartialFillProtectiveStop_eq_ok built
    rintro (_ | ⟨_, _ | ⟨_, earlier⟩⟩) later c answer hCalls
    · simp at hCalls
    · simp at hCalls
    · simp only [List.cons_append, List.cons.injEq] at hCalls
      obtain ⟨rfl, rfl, rfl⟩ := hCalls
      obtain rfl := hFind.submitted_eq (List.mem_append_right _ List.mem_cons_self)
      rw [congrArg CommandFields.quantity hFields]
      exact ⟨congrArg CommandFields.side hFields, _, canceledFill_of_built status whole built
        fun call hCall => hFind.no_read id call (List.mem_append_left _ hCall)⟩

/-- A reported protection is the stop of the fill that was read. -/
theorem ProtectRun.reports_stop {id : String}
    (h : ProtectRun V request id command held calls held' (.ok res))
    (hOutcome : res.outcome = .partialFillProtected) :
    res.reconciliationRequired = true ∧ ∃ parent n, CanceledFill id calls parent n ∧
      ∃ order ∈ res.protectiveOrder, ProtectiveStop request n order := by
  cases h with
  | filled _ _ yields =>
    rw [yields.fields_eq] at hOutcome
    cases hOutcome
  | sends status whole built _ stop =>
    obtain ⟨_, hFind⟩ := stop.find
    cases stop with
    | placed _ matched yields =>
      rw [yields.fields_eq]
      exact ⟨rfl, _, _, canceledFill_of_built status whole built (hFind.no_read id), _, rfl,
        matched.protectiveStop built⟩

theorem HandleRun.stopsFollowRead
    (h : HandleRun V request update held claims calls held' claims' r) :
    StopsFollowRead update.order.brokerOrderId calls := by
  cases h with
  | claimRefused => exact .of_unsent rfl
  | unknownAgain => exact .of_unsent rfl
  | redelivered => exact .of_unsent rfl
  | unknown => exact .of_unsent rfl
  | passed => exact .of_unsent rfl
  | protects _ _ _ run _ => exact run.stopsFollowRead

theorem HandleRun.reports_stop
    (h : HandleRun V request update held claims calls held' claims' (.ok res))
    (hOutcome : res.outcome = .partialFillProtected) :
    res.reconciliationRequired = true ∧ ∃ parent n,
      CanceledFill update.order.brokerOrderId calls parent n ∧
      ∃ order ∈ res.protectiveOrder, ProtectiveStop request n order := by
  -- Every path but the placed stop reports another outcome.
  have hOther {fields : ResultFields D} (hYields : Yields request fields (.ok res)) :
      fields.outcome = .partialFillProtected :=
    hYields.fields_eq ▸ hOutcome
  cases h with
  | unknownAgain _ _ yields => cases hOther yields
  | redelivered _ _ yields => cases hOther yields
  | unknown _ _ yields => cases hOther yields
  | passed _ _ _ yields => cases hOther yields
  | protects _ _ _ run ends =>
    obtain rfl | ⟨_, -, hYields⟩ := ends
    · exact run.reports_stop hOutcome
    · cases hOther hYields

/-- Whatever the broker answers, a stop is sent only after the last read of the
update's order, for the fill it showed, and a reported protection is that stop. -/
theorem protective_stop_correct (V : Derivations D) (B : Broker β D) (request : ExecutionRequest D)
    (update : TradeUpdate D) (w w' : World β D) (r : Result (ExecutionResult D))
    (h : (handleTradeUpdate V B request update).exec w = (r, w')) :
    ∃ calls, w'.log = w.log ++ calls ∧ StopsFollowRead update.order.brokerOrderId calls ∧
      ∀ res, r = .ok res → res.outcome = .partialFillProtected →
        res.reconciliationRequired = true ∧ ∃ parent n,
          CanceledFill update.order.brokerOrderId calls parent n ∧
          ∃ order ∈ res.protectiveOrder, ProtectiveStop request n order := by
  obtain ⟨calls, _, _, hRun, hAdv⟩ := handleTradeUpdate_run h
  refine ⟨calls, hAdv.log, hRun.stopsFollowRead, ?_⟩
  rintro res rfl hOutcome
  exact hRun.reports_stop hOutcome

theorem partialFill_protected :
    ∃ res w, handlePartialFill.exec afterPartialFill = (.ok res, w) ∧
      ∃ order ∈ res.protectiveOrder, ∃ n, ProtectiveStop sampleExecution n order := by
  have hOk : ∃ res, (handlePartialFill.exec afterPartialFill).1 = .ok res ∧
      res.outcome = .partialFillProtected := by
    decide +kernel
  obtain ⟨res, h, hOutcome⟩ := hOk
  obtain ⟨_, -, -, hStop⟩ := protective_stop_correct sampleDerivations (ledger Decimal true)
    sampleExecution partialFill _ _ _ (Prod.ext h rfl)
  obtain ⟨-, _, n, -, order, hOrder, hProtective⟩ := hStop res rfl hOutcome
  exact ⟨res, _, Prod.ext h rfl, order, hOrder, n, hProtective⟩

end Daybreak.Execution
