import Daybreak.Execution.Stops
import Mathlib.Data.Countable.Basic
import Mathlib.Data.Fintype.EquivFin
import Mathlib.Data.Rat.Encodable
import Mathlib.Logic.Equiv.List
import Mathlib.Tactic.DeriveCountable

/-! What escapes from a handled update. Against a broker that raises only what the
service expects, and with ids that tell results apart, a new update ends with a
result, whatever fails, unless the fill that is read after the cancellation asks for
a stop that differs from the one stored under the same id. -/

namespace Daybreak.Execution

open Numeric DecimalArithmetic Effect Risk

variable {β D : Type} [DecimalArithmetic D]

variable {V : Derivations D} {B : Broker β D} {request : ExecutionRequest D}
  {update : TradeUpdate D} {now timestamp : Timestamp} {command : BrokerOrderCommand D}
  {fields : ResultFields D} {held : Commands D} {call : ServiceCall D} {b : β} {w w' : World β D}
  {r : Result (ExecutionResult D)}

/-- The broker raises only `BrokerNotFound` and `BrokerTransportError`. -/
def Broker.RaisesOnlyKnown (B : Broker β D) : Prop :=
  ∀ e, B.Raises e → e = .brokerNotFound ∨ ∃ ambiguous, e = .brokerTransportError ambiguous

theorem Broker.RaisesOnlyKnown.caught (hB : B.RaisesOnlyKnown) {e : PyError} (h : B.Raises e) :
    protectionFailure e = true := by
  obtain rfl | ⟨_, rfl⟩ := hB e h
  · rfl
  · rfl

/-! ### Stored results -/

/-- The service builds this result from some fields. -/
def Built (V : Derivations D) (res : ExecutionResult D) : Prop :=
  ∃ (repo : MemoryExecutionRepository D) (request : ExecutionRequest D) (timestamp : Timestamp)
    (fields : ResultFields D), fields.build V repo request timestamp = .ok res

/-- Results of one id are equal: the hash in the id tells their contents apart. -/
def Derivations.TellsApart (V : Derivations D) : Prop :=
  ∀ res res', Built V res → Built V res' → res.resultId = res'.resultId →
    res.numeric = res'.numeric

/-- Every stored result was built by the service, and is stored under its id. -/
def StoresBuilt (V : Derivations D) (results : Dict String (ExecutionResult D)) : Prop :=
  ∀ id res, results.lookup id = some res → res.resultId = id ∧ Built V res

theorem result_keeps_built (V : Derivations D) (request : ExecutionRequest D)
    (timestamp : Timestamp) (fields : ResultFields D) :
    Program.Maintains (fun w : World β D => StoresBuilt V w.repository.results)
      (result V request timestamp fields) := by
  intro w hw
  by_cases hShape : fields.TerminalShape
  · obtain ⟨res, hBuild, ⟨-, hResults⟩ | ⟨-, hSame, -⟩⟩ :=
      result_cases hShape (Prod.eta ((result V request timestamp fields).exec w)).symm
    · intro id stored hStored
      rw [hResults, Dict.lookup_setDefault] at hStored
      split_ifs at hStored with hId
      · cases hOld : w.repository.results.lookup res.resultId with
        | none =>
          rw [hOld] at hStored
          obtain rfl := Option.some.inj hStored
          exact ⟨hId.symm, _, _, _, _, hBuild⟩
        | some existing =>
          rw [hOld] at hStored
          obtain rfl := Option.some.inj hStored
          rw [hId]
          exact hw _ _ hOld
      · exact hw id stored hStored
    · rw [hSame]
      exact hw
  · have hFails : fields.build V w.repository request timestamp =
        .error (.validationError "ExecutionResult") := dif_neg hShape
    unfold result
    rw [exec_getRepository_bind, hFails]
    exact hw

theorem kept_storesBuilt (V : Derivations D) :
    Kept V (fun w : World β D => StoresBuilt V w.repository.results) where
  unseen _ _ hResults _ hw := by
    rw [hResults]
    exact hw
  result := result_keeps_built V

/-- A result of a terminal shape is returned. -/
theorem result_returns (hV : V.TellsApart) (hShape : fields.TerminalShape)
    (hStored : StoresBuilt V w.repository.results)
    (h : (result V request timestamp fields).exec w = (r, w')) : ∃ res, r = .ok res := by
  obtain ⟨res, hBuild, ⟨hOk, -⟩ | ⟨-, -, existing, hExisting, hDiffers⟩⟩ := result_cases hShape h
  · exact ⟨res, hOk⟩
  · obtain ⟨hId, hBuilt⟩ := hStored _ _ hExisting
    exact absurd (hV existing res hBuilt ⟨_, _, _, _, hBuild⟩ hId) hDiffers

theorem EndsWith.returns (hV : V.TellsApart) {results : Dict String (ExecutionResult D)}
    (hStored : StoresBuilt V results) (h : EndsWith V request results r w') :
    ∃ res, r = .ok res := by
  obtain ⟨_, _, u, hShape, -, hResults, hResult⟩ := h
  rw [← hResults] at hStored
  exact result_returns hV hShape hStored hResult

/-! ### Updates -/

/-- The protection of the order `id` reads a fill whose stop differs from the command
that is stored under the id of the stop. -/
def StopCollides (V : Derivations D) (B : Broker β D) (request : ExecutionRequest D) (id : String)
    (held : Commands D) (b : β) : Prop :=
  ∃ parent protective b', FillsStop V B request id b parent protective b' ∧
    ¬ Saveable held protective

/-- A protection returns, or raises what its caller turns into a result. -/
def Contained (results : Dict String (ExecutionResult D)) (r : Result (ExecutionResult D))
    (w' : World β D) : Prop :=
  (∃ res, r = .ok res) ∨
    ∃ e, r = .error e ∧ protectionFailure e = true ∧ w'.repository.results = results

/-- Only the collision of its stop escapes from a protection. -/
theorem protectPartialFill_contained (hV : V.TellsApart) (hB : B.RaisesOnlyKnown)
    (hStored : StoresBuilt V w.repository.results)
    (h : (protectPartialFill V B request update command).exec w = (r, w')) :
    (Contained w.repository.results r w' ∧ ¬ StopCollides V B request update.order.brokerOrderId
        w.repository.commands w.broker) ∨
      (StopCollides V B request update.order.brokerOrderId w.repository.commands w.broker ∧
        ∃ e, r = .error e ∧ protectionFailure e = false) := by
  obtain ⟨parent, protective, u, hFills, hSight, hSend⟩ | ⟨hNone, hEnds⟩ :=
    protectPartialFill_cases h
  · have hCommands : u.repository.commands = w.repository.commands := congrArg Sight.commands hSight
    have hResults : u.repository.results = w.repository.results := congrArg Sight.results hSight
    have hCollides : StopCollides V B request update.order.brokerOrderId w.repository.commands
        w.broker ↔ ¬ Saveable u.repository.commands protective := by
      rw [hCommands]
      constructor
      · rintro ⟨_, _, _, hFills', hTaken⟩
        obtain ⟨-, rfl, -⟩ := hFills.unique hFills'
        exact hTaken
      · intro hTaken
        exact ⟨parent, protective, u.broker, hFills, hTaken⟩
    rw [hCollides, ← hResults]
    obtain ⟨order, v, hStops, hSame, hResult⟩ | ⟨-, e, rfl, hUnsent, hSame⟩ := sendStop_cases hSend
    · rw [← hResults, ← hSame] at hStored
      exact .inl ⟨.inl (result_returns hV terminalShape_protectedFill hStored hResult),
        not_not.mpr hStops.saveable⟩
    · cases hUnsent with
      | collides taken => exact .inr ⟨taken, _, rfl, rfl⟩
      | fails saveable raised =>
        exact .inl ⟨.inr ⟨e, rfl, raised.elim id hB.caught, hSame⟩, not_not.mpr saveable⟩
  · refine .inl ⟨?_, fun ⟨_, _, _, hFills, _⟩ => hNone _ _ _ hFills⟩
    obtain ⟨e, rfl, hRaised, hSame⟩ | hEnds := hEnds
    · exact .inr ⟨e, rfl, hRaised.elim id hB.caught, hSame⟩
    · exact .inl (hEnds.returns hV hStored)

/-- A recorded update ends with a result unless its stop collides. -/
theorem protectOrSettle_returns_iff (hV : V.TellsApart) (hB : B.RaisesOnlyKnown)
    (hStored : StoresBuilt V w.repository.results)
    (h : (protectOrSettle V B request update command).exec w = (r, w')) :
    (∃ res, r = .ok res) ↔ ¬ (NeedsProtection request update.order ∧ StopCollides V B request
      update.order.brokerOrderId w.repository.commands w.broker) := by
  unfold protectOrSettle at h
  split at h
  case isFalse hSettled =>
    exact iff_of_true
      (result_returns hV (terminalShape_reported (by simp) (by simp)) hStored h)
      fun hBoth => hSettled hBoth.1
  case isTrue hNeeded =>
  obtain ⟨_, w₁, hSight, h⟩ := (event_unseen _ _ _ _).exec_bind h
  have hResults : w₁.repository.results = w.repository.results := congrArg Sight.results hSight
  rw [← hResults] at hStored
  rw [← show w₁.repository.commands = w.repository.commands from congrArg Sight.commands hSight,
    ← show w₁.broker = w.broker from congrArg Sight.broker hSight]
  obtain ⟨res, hProtect, rfl⟩ | ⟨e, u, hProtect, h⟩ := Program.exec_tryCatch_cases h
  · obtain ⟨-, hFree⟩ | ⟨-, _, hError, -⟩ := protectPartialFill_contained hV hB hStored hProtect
    · exact iff_of_true ⟨res, rfl⟩ fun hBoth => hFree hBoth.2
    · cases hError
  · obtain ⟨⟨_, hOk⟩ | ⟨_, hError, hCaught, hSame⟩, hFree⟩ | ⟨hCollides, _, hError, hEscapes⟩ :=
      protectPartialFill_contained hV hB hStored hProtect
    · cases hOk
    · obtain rfl := Except.error.inj hError
      rw [if_pos hCaught] at h
      rw [← hSame] at hStored
      exact iff_of_true (result_returns hV terminalShape_unresolved hStored h)
        fun hBoth => hFree hBoth.2
    · obtain rfl := Except.error.inj hError
      rw [if_neg (by simp [hEscapes])] at h
      obtain ⟨rfl, rfl⟩ := Prod.mk.inj h
      refine iff_of_false ?_ (not_not.mpr ⟨hNeeded, hCollides⟩)
      rintro ⟨_, hOk⟩
      cases hOk

/-- The stop of an update collides, once the update is recorded. -/
def UpdateCollides (V : Derivations D) (B : Broker β D) (request : ExecutionRequest D)
    (update : TradeUpdate D) (held : Commands D) (b : β) : Prop :=
  update.order.clientOrderId ∈ held ∧ NeedsProtection request update.order ∧
    StopCollides V B request update.order.brokerOrderId held b

/-- A new update ends with a result unless its stop collides. -/
theorem handleTradeUpdate_returns_iff (hV : V.TellsApart) (hB : B.RaisesOnlyKnown)
    (hStored : StoresBuilt V w.repository.results)
    (hFresh : w.repository.tradeUpdateIds.lookup update.eventId = none)
    (h : (handleTradeUpdate V B request update).exec w = (r, w')) :
    (∃ res, r = .ok res) ↔
      ¬ UpdateCollides V B request update w.repository.commands w.broker := by
  obtain ⟨command, u, hRecognized, hSight, h⟩ | hPassed := handleTradeUpdate_cases h
  · have hStored' : StoresBuilt V
        (u.recorded V request update.order update.eventTimestamp).repository.results := by
      rw [show (u.recorded V request update.order update.eventTimestamp).repository.results =
        w.repository.results from congrArg Sight.results hSight]
      exact hStored
    have hHeld : update.order.clientOrderId ∈ w.repository.commands :=
      AList.lookup_isSome.mp (by rw [hRecognized.stored]; rfl)
    rw [protectOrSettle_returns_iff hV hB hStored' h, UpdateCollides, and_iff_right hHeld,
      show (u.recorded V request update.order update.eventTimestamp).repository.commands =
        w.repository.commands from congrArg Sight.commands hSight,
      show (u.recorded V request update.order update.eventTimestamp).broker = w.broker from
        congrArg Sight.broker hSight]
  · refine iff_of_true ((hPassed.ends hFresh).returns hV hStored) fun hCollides => ?_
    obtain ⟨command, hCommand⟩ := Option.isSome_iff_exists.mp (AList.lookup_isSome.mpr hCollides.1)
    exact hPassed.unrecognized command ⟨hFresh, hCommand⟩

/-! ### Calls -/

/-- The new update that a call handles, with the commands and the broker it finds. A
submission handles the partial fill it acknowledges. -/
inductive Handles (V : Derivations D) (B : Broker β D) (w : World β D) :
    ServiceCall D → TradeUpdate D → Commands D → β → Prop
  | update {request : ExecutionRequest D} {update : TradeUpdate D}
      (fresh : w.repository.tradeUpdateIds.lookup update.eventId = none) :
    Handles V B w (.handleTradeUpdate request update) update w.repository.commands w.broker
  | submission {request : ExecutionRequest D} {now : Timestamp} {command : BrokerOrderCommand D}
      {entry : BrokerOrderSnapshot D} {b : β}
      (acknowledged : Acknowledges V B w request now command entry b)
      (matched : Matches command entry) (needed : NeedsProtection request entry)
      (fresh : w.repository.tradeUpdateIds.lookup (initialUpdate entry).eventId = none) :
    Handles V B w (.submit request now) (initialUpdate entry)
      (w.repository.commands.setDefault command.clientOrderId command) b

/-- A call that handles a new update ends with a result unless its stop collides. -/
theorem Handles.returns_iff (hV : V.TellsApart) (hB : B.RaisesOnlyKnown)
    (hStored : StoresBuilt V w.repository.results) (hHandles : Handles V B w call update held b)
    (h : (call.run V B).exec w = (r, w')) :
    (∃ res, r = .ok res) ↔ ¬ UpdateCollides V B call.request update held b := by
  cases hHandles with
  | update fresh => exact handleTradeUpdate_returns_iff hV hB hStored fresh h
  | @submission request now _ _ _ acknowledged matched needed fresh =>
    obtain ⟨command, entry, _, hSuccess, u, hAcknowledged, hSight, h⟩ | ⟨hNone, -, -⟩ :=
      submit_cases h
    · obtain rfl := hAcknowledged.sends.command_eq acknowledged.sends.screened
      obtain ⟨rfl, rfl⟩ := hAcknowledged.reports.unique acknowledged.reports
      obtain ⟨v, hSame, ⟨-, -, hHandle⟩ | ⟨hSettled, -, -⟩⟩ := acknowledge_cases hSuccess h
      · rw [hSight] at hSame
        have hResults : (v.recorded V request entry now).repository.results =
            w.repository.results := congrArg Sight.results hSame
        have hClaims : (v.recorded V request entry now).repository.tradeUpdateIds =
            w.repository.tradeUpdateIds := congrArg Sight.claims hSame
        rw [← hResults] at hStored
        rw [← hClaims] at fresh
        have hIff := handleTradeUpdate_returns_iff hV hB hStored fresh hHandle
        have hBroker : (v.recorded V request entry now).broker = u.broker :=
          congrArg Sight.broker hSame
        rw [show (v.recorded V request entry now).repository.commands = _ from
          congrArg Sight.commands hSame, hBroker] at hIff
        exact hIff
      · exact absurd ⟨matched, needed⟩ hSettled
    · exact absurd acknowledged (hNone _ _ _)

/-! ### The sample fill, with results told apart -/

instance countable_char : Countable Char :=
  (show Function.Injective Char.toNat from fun _ _ h => Char.ext (UInt32.toNat_inj.mp h)).countable

instance countable_string : Countable String :=
  (show Function.Injective String.toList from fun _ _ h => String.toList_injective h).countable

deriving instance Countable for OrderSide, OrderType, OrderClass, TimeInForce, BrokerOrderStatus,
  ExecutionEventType, ExecutionOutcome, ExecutionRejectionCode
deriving instance Countable for BrokerOrderLeg
deriving instance Countable for SnapshotFields
deriving instance Countable for CommandFields
deriving instance Countable for ExecutionEvent
deriving instance Countable for NumericResult

/-- Texts that tell all contents of results apart. -/
theorem exists_distinct_texts : ∃ text : NumericResult → String, Function.Injective text := by
  obtain ⟨number, hNumber⟩ := exists_injective_nat NumericResult
  exact ⟨_, (Infinite.natEmbedding String).injective.comp hNumber⟩

/-- All that a result is hashed over. -/
def hashedContent (executionId : String) (fields : ResultFields Decimal)
    (events : List (ExecutionEvent Decimal)) (completedAt : Timestamp) (requestHash : String) :
    NumericResult where
  resultId := ""
  executionId := executionId
  outcome := fields.outcome
  rejectionReasons := fields.rejectionReasons
  command := fields.command.map (·.numeric)
  brokerOrder := fields.brokerOrder.map (·.numeric)
  protectiveOrder := fields.protectiveOrder.map (·.numeric)
  reconciliationRequired := fields.reconciliationRequired
  events := events.map (·.mapDecimal value)
  completedAt := completedAt
  requestHash := requestHash
  resultHash := ""

/-- The sample hashes, but for results one that tells them apart. -/
noncomputable def distinctDerivations : Derivations Decimal :=
  { sampleDerivations with
    resultHash := fun executionId fields events completedAt requestHash =>
      Classical.choose exists_distinct_texts
        (hashedContent executionId fields events completedAt requestHash)
    resultId := fun _ resultHash => resultHash }

theorem distinctDerivations_tellsApart : distinctDerivations.TellsApart := by
  have hContent {res : ExecutionResult Decimal} (h : Built distinctDerivations res) :
      ∃ content : NumericResult, res.resultId = Classical.choose exists_distinct_texts content ∧
        res.numeric = { content with resultId := res.resultId, resultHash := res.resultId } := by
    obtain ⟨repo, request, timestamp, fields, hBuild⟩ := h
    unfold ResultFields.build at hBuild
    split at hBuild
    · rw [← Except.ok.inj hBuild]
      exact ⟨hashedContent _ _ _ _ _, rfl, rfl⟩
    · cases hBuild
  intro res res' hBuilt hBuilt' hId
  obtain ⟨content, hText, hNumeric⟩ := hContent hBuilt
  obtain ⟨content', hText', hNumeric'⟩ := hContent hBuilt'
  obtain rfl := Classical.choose_spec exists_distinct_texts (hText.symm.trans (hId.trans hText'))
  rw [hNumeric, hNumeric', hId]

theorem find_raises {p : BrokerOrderSnapshot D → Bool} {orders : List (BrokerOrderSnapshot D)}
    {e : PyError} (h : find p orders = .error e) : e = .brokerNotFound := by
  unfold find at h
  split at h
  · cases h
  · exact (Except.error.inj h).symm

theorem ledger_raisesOnlyKnown (reachable : Bool) : (ledger D reachable).RaisesOnlyKnown := by
  intro e hRaises
  cases hRaises with
  | lookup id orders raised => exact .inl (find_raises raised)
  | read id orders raised => exact .inl (find_raises raised)
  | submit command orders raised =>
    simp only [ledger] at raised
    split at raised
    · cases reachable with
      | true => cases raised
      | false => exact .inr ⟨_, (Except.error.inj raised).symm⟩
    · exact .inr ⟨_, (Except.error.inj raised).symm⟩
  | cancel id orders raised =>
    cases reachable with
    | true => cases raised
    | false => exact .inr ⟨_, (Except.error.inj raised).symm⟩

/-! ### Histories -/

/-- In every history whose results are told apart, against a broker that raises only
what the service expects, a new update ended with a result exactly when its stop did
not collide. -/
theorem update_contained_iff (V : Derivations D) (B : Broker β D) (b : β) (w : World β D)
    (records : List (Record β D)) (hV : V.TellsApart) (hB : B.RaisesOnlyKnown)
    (h : History (ServiceCall.run V B) BrokerMoves (.initial b) records w) :
    ∀ record ∈ records, ∀ update held b',
      Handles V B record.before record.call update held b' →
      ((∃ res, record.outcome = .ok res) ↔
        ¬ UpdateCollides V B record.call.request update held b') := by
  intro record hRecord update held b' hHandles
  obtain ⟨later, earlier, rfl⟩ := List.append_of_mem hRecord
  obtain ⟨hPrior, hExec⟩ := h.prior
  have hStored : StoresBuilt V record.before.repository.results := by
    refine hPrior.invariant (fun w => StoresBuilt V w.repository.results) ?_ ?_ ?_
    · intro id res hNone
      cases hNone
    · intro call s r t hBefore hCall
      have hAfter := (kept_storesBuilt V).call (fun request order timestamp => ?_) B call s hBefore
      · rw [hCall] at hAfter
        exact hAfter
      · unfold recordReservationFromOrder
        split
        · exact .pure _
        · exact .modify fun _ hw => hw
    · intro s t hBefore hMoves
      rw [hMoves]
      exact hBefore
  exact hHandles.returns_iff hV hB hStored hExec

/-- The sample fill, found by the submission itself, is contained. -/
theorem partialFill_contained :
    ∃ records w, History (ServiceCall.run distinctDerivations (ledger Decimal true)) BrokerMoves
        (.initial [partialFill.order]) records w ∧
      ∃ record ∈ records, ∃ update held b', Handles distinctDerivations (ledger Decimal true)
          record.before record.call update held b' ∧
        ¬ UpdateCollides distinctDerivations (ledger Decimal true) record.call.request update held
          b' := by
  let record := Performed.of (ServiceCall.run distinctDerivations (ledger Decimal true))
    (.submit sampleExecution sampleExecution.requestedAt) (.initial [partialFill.order])
  have hHistory : History (ServiceCall.run distinctDerivations (ledger Decimal true)) BrokerMoves
      (.initial [partialFill.order]) [record] record.after :=
    History.start.next (ServiceCall.submit sampleExecution sampleExecution.requestedAt)
  have hOk : ∃ res, record.outcome = .ok res ∧ res.outcome = .partialFillProtected := by
    decide +kernel
  obtain ⟨res, hReturns, hOutcome⟩ := hOk
  have hExec : (submit distinctDerivations (ledger Decimal true) sampleExecution
      sampleExecution.requestedAt).exec (.initial [partialFill.order]) = (.ok res, record.after) :=
    Prod.ext hReturns rfl
  obtain ⟨_, hProtects, -⟩ | ⟨-, hOther⟩ := submit_stops hExec
  · cases hProtects with
    | submission acknowledged matched needed fresh _ =>
      have hHandles := Handles.submission acknowledged matched needed fresh
      refine ⟨_, _, hHistory, record, List.mem_singleton_self _, _, _, _, hHandles, ?_⟩
      exact (update_contained_iff _ _ _ _ _ distinctDerivations_tellsApart
        (ledger_raisesOnlyKnown true) hHistory record (List.mem_singleton_self _) _ _ _
        hHandles).mp ⟨res, hReturns⟩
  · exact absurd hOutcome hOther

/-- A second partial fill of the sample entry, of 60 shares. -/
def secondFill : TradeUpdate Decimal where
  eventId := "update-2"
  event := "partial_fill"
  eventTimestamp := 1785763803000000
  order := ⟨snapshotFields sampleEntry .partiallyFilled 60 "broker-order-1", by decide +kernel⟩
  rawEventHash := ""

/-- Forty shares are protected; then the broker reports sixty. -/
def afterSecondFill : World (List (BrokerOrderSnapshot Decimal)) Decimal :=
  { afterProtection with broker := [secondFill.order] }

def BrokerCall.cancels : BrokerCall D → Bool
  | .cancel _ _ => true
  | _ => false

/-- The second update cancels the entry, and then the collision of its stop escapes. -/
theorem secondFill_escapes :
    ∃ records w, (ledger Decimal true).RaisesOnlyKnown ∧
      History (ServiceCall.run sampleDerivations (ledger Decimal true)) BrokerMoves
        (.initial []) records w ∧
      ∃ record ∈ records, Handles sampleDerivations (ledger Decimal true) record.before record.call
          secondFill record.before.repository.commands record.before.broker ∧
        (∃ call ∈ record.after.log.drop record.before.log.length, call.cancels = true) ∧
        record.outcome = .error (.runtimeError "client_order_id command collision") := by
  have hEntry : History (ServiceCall.run sampleDerivations (ledger Decimal true)) BrokerMoves
      (.initial []) _ afterEntry :=
    History.start.next (ServiceCall.submit sampleExecution sampleExecution.requestedAt)
  have hFilled := hEntry.elapse (show BrokerMoves afterEntry afterPartialFill from rfl)
  have hProtected : History (ServiceCall.run sampleDerivations (ledger Decimal true)) BrokerMoves
      (.initial []) _ afterProtection :=
    hFilled.next (.handleTradeUpdate sampleExecution partialFill)
  have hSecond := hProtected.elapse (show BrokerMoves afterProtection afterSecondFill from rfl)
  let record := Performed.of (ServiceCall.run sampleDerivations (ledger Decimal true))
    (.handleTradeUpdate sampleExecution secondFill) afterSecondFill
  have hEscapes : (∃ call ∈ record.after.log.drop record.before.log.length,
      call.cancels = true) ∧ ∃ e, record.outcome = .error e ∧
        e = .runtimeError "client_order_id command collision" := by
    decide +kernel
  obtain ⟨hCancels, e, hError, rfl⟩ := hEscapes
  exact ⟨_, _, ledger_raisesOnlyKnown true, hSecond.next
    (.handleTradeUpdate sampleExecution secondFill), record, List.mem_cons_self,
    .update (by decide +kernel), hCancels, hError⟩

end Daybreak.Execution
