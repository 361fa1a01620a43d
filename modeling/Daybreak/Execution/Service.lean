import Daybreak.Execution.Broker
import Daybreak.Execution.OrderBuilder

/-! The execution coordinator: `submit` sends the entry of a risk decision at
most once, `handleTradeUpdate` cancels a partially filled entry and protects what
it bought, and `cancelStaleEntry` cancels an entry that bought nothing. A block
that the source repeats or nests is a definition of its own here: the checks
before the broker is asked, what follows a known broker order, and the protection
of a partial fill. -/

namespace Daybreak.Execution

open Numeric DecimalArithmetic Effect Risk

variable {β D : Type} [DecimalArithmetic D]

/-! ### Bookkeeping -/

def getRepository : Service β D (MemoryExecutionRepository D) := do
  let w ← get
  return w.repository

/-- Replace the repository, or raise. -/
def updateRepository
    (f : MemoryExecutionRepository D → Result (MemoryExecutionRepository D)) :
    Service β D Unit := do
  let w ← get
  let repository ← Program.ofExcept (f w.repository)
  set { w with repository }

def saveSnapshot (snapshot : BrokerOrderSnapshot D) : Service β D Unit :=
  modify fun w => { w with repository := w.repository.saveSnapshot snapshot }

def claimTradeUpdate (eventId executionId rawEventHash : String) : Service β D Bool := do
  let w ← get
  let claim ← Program.ofExcept
    (w.repository.claimTradeUpdate eventId executionId rawEventHash)
  set { w with repository := claim.2 }
  return claim.1

/-- The fields of an event that its caller chooses. -/
structure EventFields (D : Type) [DecimalArithmetic D] where
  eventType : ExecutionEventType
  order : Option (BrokerOrderSnapshot D) := none
  command : Option (BrokerOrderCommand D) := none
  details : List (String × String) := []

/-- The event with the next number of its execution. -/
def EventFields.build (V : Derivations D) (repo : MemoryExecutionRepository D)
    (request : ExecutionRequest D) (timestamp : Timestamp) (fields : EventFields D) :
    ExecutionEvent D :=
  let payload : ExecutionEvent D :=
    { executionId := request.executionId
      eventSequence := repo.nextEventSequence request.executionId
      eventType := fields.eventType
      eventTimestamp := timestamp
      brokerOrderId := fields.order.map (·.brokerOrderId)
      clientOrderId := match fields.order with
        | some order => some order.clientOrderId
        | none => fields.command.map (·.clientOrderId)
      status := fields.order.map (·.status)
      filledQuantity := fields.order.map (·.filledQuantity)
      details := fields.details
      eventHash := "" }
  { payload with eventHash := V.eventHash payload }

/-- `_event` -/
def event (V : Derivations D) (request : ExecutionRequest D) (timestamp : Timestamp)
    (fields : EventFields D) : Service β D Unit :=
  updateRepository fun repo => repo.appendEvent (fields.build V repo request timestamp)

/-- The result with all that is derived from its fields. -/
def ResultFields.build (V : Derivations D) (repo : MemoryExecutionRepository D)
    (request : ExecutionRequest D) (completedAt : Timestamp) (fields : ResultFields D) :
    Result (ExecutionResult D) :=
  let events := repo.listEvents request.executionId
  let requestHash := V.requestHash request
  let resultHash := V.resultHash request.executionId fields events completedAt requestHash
  if h : fields.TerminalShape then
    .ok { fields with
      resultId := V.resultId request.executionId resultHash
      executionId := request.executionId
      events := events
      completedAt := completedAt
      requestHash := requestHash
      resultHash := resultHash
      terminalShape := h }
  else .error (.validationError "ExecutionResult")

/-- `_result` -/
def result (V : Derivations D) (request : ExecutionRequest D) (completedAt : Timestamp)
    (fields : ResultFields D) : Service β D (ExecutionResult D) := do
  let repo ← getRepository
  let result ← Program.ofExcept (fields.build V repo request completedAt)
  updateRepository fun repo => repo.saveResult result
  return result

/-- `_terminal_rejection` -/
def terminalRejection (order : BrokerOrderSnapshot D) : Bool :=
  order.status ∈ [.rejected, .canceled, .expired]

/-- `_broker_state_requires_reconciliation` -/
def brokerStateRequiresReconciliation (order : BrokerOrderSnapshot D) : Bool :=
  order.status ∈ [.doneForDay, .suspended, .stopped, .pendingReplace]

def reservationStatus : BrokerOrderStatus → ReservationStatus
  | .partiallyFilled => .partiallyFilled
  | .filled => .filled
  | .canceled => .released
  | .expired => .expired
  | .rejected => .released
  | _ => .submitted

/-- The event that reports the status of an order for a reservation. -/
def reservationEvent (V : Derivations D) (reservation : RiskReservation D)
    (order : BrokerOrderSnapshot D) (timestamp : Timestamp) : ReservationEvent where
  reservationId := reservation.reservationId
  status := reservationStatus order.status
  eventTimestamp := timestamp
  details := [("broker_order_id", order.brokerOrderId),
    ("filled_quantity", V.decimalText order.filledQuantity)]

/-- `_record_reservation_from_order` -/
def recordReservationFromOrder (V : Derivations D) (request : ExecutionRequest D)
    (order : BrokerOrderSnapshot D) (timestamp : Timestamp) : Service β D Unit :=
  match request.riskDecision.reservation with
  | none => pure ()
  | some reservation =>
    modify fun w => { w with
      reservationEvents := w.reservationEvents ++ [reservationEvent V reservation order timestamp]
      causes := w.causes ++ [⟨request, order, w.repository⟩] }

/-! ### What the service decides -/

/-- What the service returns when the update's order has no stored command. -/
def unknownCommand (order : BrokerOrderSnapshot D) : ResultFields D where
  outcome := .reconciliationRequired
  rejectionReasons := [.commandIdentityConflict]
  command := none
  brokerOrder := some order
  protectiveOrder := none
  reconciliationRequired := true

/-- A success that reports an order as it is. -/
def reported (outcome : ExecutionOutcome) (command : BrokerOrderCommand D)
    (order : BrokerOrderSnapshot D) : ResultFields D where
  outcome := outcome
  rejectionReasons := []
  command := some command
  brokerOrder := some order
  protectiveOrder := none
  reconciliationRequired := false

/-- The success of a placed stop; the position stays to be reconciled. -/
def protectedFill (command : BrokerOrderCommand D) (parent order : BrokerOrderSnapshot D) :
    ResultFields D where
  outcome := .partialFillProtected
  rejectionReasons := []
  command := some command
  brokerOrder := some parent
  protectiveOrder := some order
  reconciliationRequired := true

/-- A result that asks for reconciliation. -/
def unresolved (reason : ExecutionRejectionCode) (command : BrokerOrderCommand D)
    (order : Option (BrokerOrderSnapshot D)) : ResultFields D where
  outcome := .reconciliationRequired
  rejectionReasons := [reason]
  command := some command
  brokerOrder := order
  protectiveOrder := none
  reconciliationRequired := true

/-- A rejection; it never asks for reconciliation. -/
def refused (reason : ExecutionRejectionCode) (command : Option (BrokerOrderCommand D))
    (order : Option (BrokerOrderSnapshot D)) : ResultFields D where
  outcome := .rejected
  rejectionReasons := [reason]
  command := command
  brokerOrder := order
  protectiveOrder := none
  reconciliationRequired := false

/-! ### Trade updates -/

/-- A positive partial fill that the policy wants protected. -/
def NeedsProtection (request : ExecutionRequest D) (order : BrokerOrderSnapshot D) : Prop :=
  order.status = .partiallyFilled ∧ 0 < value order.filledQuantity ∧
    request.policy.partialFillProtectionEnabled = true

instance (request : ExecutionRequest D) (order : BrokerOrderSnapshot D) :
    Decidable (NeedsProtection request order) := by
  unfold NeedsProtection; infer_instance

/-- The exceptions that the protection of a partial fill turns into a result. -/
def protectionFailure : PyError → Bool
  | .brokerNotFound => true
  | .brokerTransportError _ => true
  | .valueError _ => true
  | .validationError _ => true
  | _ => false

/-- The order of a protective command, submitted unless the broker has it. -/
def findOrSubmit (B : Broker β D) (command : BrokerOrderCommand D) :
    Service β D (BrokerOrderSnapshot D) := do
  match ← Program.attempt (B.lookup command.clientOrderId) with
  | .ok order => return order
  | .error .brokerNotFound => B.submit command
  | .error e => throw e

/-- The stop is placed once the broker reports an order that matches it. -/
def placeStop (V : Derivations D) (B : Broker β D) (request : ExecutionRequest D)
    (now : Timestamp) (command : BrokerOrderCommand D) (parent : BrokerOrderSnapshot D)
    (protective : BrokerOrderCommand D) : Service β D (ExecutionResult D) := do
  let order ← findOrSubmit B protective
  if ¬ Matches protective order then
    throw (.valueError "protective stop does not match its command")
  else
    saveSnapshot order
    event V request now { eventType := .protectiveStopAcknowledged, order := some order }
    result V request now (protectedFill command parent order)

/-- The body of the `try` block: cancel the parent, read what it filled, and
place a stop for exactly that quantity. -/
def protectPartialFill (V : Derivations D) (B : Broker β D) (request : ExecutionRequest D)
    (update : TradeUpdate D) (command : BrokerOrderCommand D) :
    Service β D (ExecutionResult D) := do
  let now := update.eventTimestamp
  B.cancel update.order.brokerOrderId
  let parent ← B.read update.order.brokerOrderId
  saveSnapshot parent
  if parent.status = .filled then
    if ¬ Matches command parent then
      throw (.valueError "filled bracket no longer matches its command")
    else
      result V request now (reported .existingReconciled command parent)
  else if parent.status ≠ .canceled then
    throw (.valueError "parent cancellation was not confirmed")
  else if value parent.filledQuantity ≤ 0 then
    throw (.valueError "canceled parent has no protected fill")
  else if value parent.filledQuantity ≠
      value (toIntegralValue .halfEven parent.filledQuantity) then
    throw (.valueError "whole-share order returned fractional partial fill")
  else
    let protective ← Program.ofExcept
      (buildPartialFillProtectiveStop V request (toInt parent.filledQuantity))
    updateRepository fun repo => repo.saveCommand protective
    event V request now {
      eventType := .protectiveStopSubmitStarted, command := some protective }
    placeStop V B request now command parent protective

def handleTradeUpdate (V : Derivations D) (B : Broker β D) (request : ExecutionRequest D)
    (update : TradeUpdate D) : Service β D (ExecutionResult D) := do
  let now := update.eventTimestamp
  let claimed ← claimTradeUpdate update.eventId request.executionId update.rawEventHash
  let repo ← getRepository
  match repo.getCommandByClientOrderId update.order.clientOrderId with
  | none => result V request now (unknownCommand update.order)
  | some command =>
    if claimed = false then
      result V request now (reported .existingReconciled command update.order)
    else
      saveSnapshot update.order
      event V request now {
        eventType := .tradeUpdate, order := some update.order
        details := [("provider_event", update.event), ("raw_event_hash", update.rawEventHash)] }
      recordReservationFromOrder V request update.order now
      if NeedsProtection request update.order then
        event V request now { eventType := .cancelRequested, order := some update.order }
        tryCatch (protectPartialFill V B request update command) fun e =>
          if protectionFailure e then
            result V request now
              (unresolved .partialFillProtectionFailed command (some update.order))
          else throw e
      else result V request now (reported .existingReconciled command update.order)

/-! ### Submission -/

/-- The update that a partial fill found by `submit` itself is handled as. -/
def initialUpdate (order : BrokerOrderSnapshot D) : TradeUpdate D where
  eventId := "initial-" ++ order.snapshotId
  event := "partial_fill"
  eventTimestamp := order.updatedAt
  order := order
  rawEventHash := order.rawResponseHash

/-- A refusal before the broker is asked. -/
def refuse (V : Derivations D) (request : ExecutionRequest D) (now : Timestamp)
    (reason : ExecutionRejectionCode) : Service β D (ExecutionResult D) := do
  event V request now { eventType := .rejected, details := [("reason", reason.value)] }
  result V request now (refused reason none none)

/-- `needle in text` -/
def contains (text needle : String) : Bool :=
  text.toList.tails.any (needle.toList.isPrefixOf ·)

/-- The reason read off the text of a `ValueError`. -/
def rejectionReason (message : String) : ExecutionRejectionCode :=
  if contains message "cutoff" then .submissionCutoffExceeded
  else if contains message "expired" then .reservationExpired
  else if contains message "approved" then .riskDecisionNotApproved
  else if contains message "reservation" then .reservationMissing
  else .invalidOrderGeometry

/-- The text of a `ValueError`, which a `ValidationError` is. -/
def valueErrorText : PyError → Option String
  | .valueError message => some message
  | .validationError message => some message
  | _ => none

/-- What follows once the broker reports the order of a command, found or new. -/
def acknowledge (V : Derivations D) (B : Broker β D) (request : ExecutionRequest D)
    (now : Timestamp) (command : BrokerOrderCommand D) (order : BrokerOrderSnapshot D)
    (success : ExecutionOutcome) : Service β D (ExecutionResult D) := do
  saveSnapshot order
  event V request now { eventType := .brokerAcknowledged, order := some order }
  recordReservationFromOrder V request order now
  if ¬ Matches command order then
    result V request now (unresolved .brokerOrderMismatch command (some order))
  else if terminalRejection order then
    result V request now (refused .brokerRejected (some command) (some order))
  else if brokerStateRequiresReconciliation order then
    result V request now (unresolved .brokerTransportFailure command (some order))
  else if NeedsProtection request order then
    handleTradeUpdate V B request (initialUpdate order)
  else result V request now (reported success command order)

/-- The submission of a command that the broker does not have, and the lookup
that follows a submission of unknown outcome. -/
def send (V : Derivations D) (B : Broker β D) (request : ExecutionRequest D) (now : Timestamp)
    (command : BrokerOrderCommand D) : Service β D (ExecutionResult D) := do
  event V request now { eventType := .submitStarted, command := some command }
  match ← Program.attempt (B.submit command) with
  | .ok order => acknowledge V B request now command order .submitted
  | .error (.brokerTransportError true) =>
    match ← Program.attempt (B.lookup command.clientOrderId) with
    | .ok order => acknowledge V B request now command order .submitted
    | .error e =>
      if e = .brokerNotFound ∨ e = .brokerTransportError true ∨ e = .brokerTransportError false then
        event V request now {
          eventType := .reconciliationRequired, command := some command
          details := [("reason", "ambiguous_submit_state")] }
        result V request now (unresolved .brokerTimeoutUnknownState command none)
      else throw e
  | .error (.brokerTransportError false) =>
    result V request now (refused .brokerRejected (some command) none)
  | .error e => throw e

/-- The part of `submit` that has a command. -/
def submitCommand (V : Derivations D) (B : Broker β D) (request : ExecutionRequest D)
    (now : Timestamp) (command : BrokerOrderCommand D) : Service β D (ExecutionResult D) := do
  let repo ← getRepository
  if ∃ existing ∈ repo.getCommandByClientOrderId command.clientOrderId,
      existing.numeric ≠ command.numeric then
    result V request now (unresolved .commandIdentityConflict command none)
  else
    updateRepository fun repo => repo.saveCommand command
    event V request now { eventType := .commandPersisted, command := some command }
    event V request now { eventType := .brokerLookup, command := some command }
    match ← Program.attempt (B.lookup command.clientOrderId) with
    | .ok existing => acknowledge V B request now command existing .existingReconciled
    | .error .brokerNotFound => send V B request now command
    | .error (.brokerTransportError _) =>
      result V request now (unresolved .brokerTransportFailure command none)
    | .error e => throw e

/-- The checks before the broker is asked: a reason to refuse, or the entry. -/
def screen (V : Derivations D) (request : ExecutionRequest D) (now : Timestamp) :
    Result (ExecutionRejectionCode ⊕ BrokerOrderCommand D) :=
  let ageMs := elapsedMs now request.requestedAt
  if request.policy.mode ≠ .paper ∨ request.policy.allowLiveExecution then
    .ok (.inl .paperModeRequired)
  else if ageMs < 0 ∨ request.policy.maxRequestAgeMs < ageMs then .ok (.inl .requestStale)
  else
    match buildEntryCommand V request now with
    | .ok command => .ok (.inr command)
    | .error e =>
      match valueErrorText e with
      | some message => .ok (.inl (rejectionReason message))
      | none => .error e

def submit (V : Derivations D) (B : Broker β D) (request : ExecutionRequest D)
    (now : Timestamp) : Service β D (ExecutionResult D) := do
  updateRepository fun repo => repo.saveRequest request
  event V request now { eventType := .requestAccepted }
  match ← Program.ofExcept (screen V request now) with
  | .inl reason => refuse V request now reason
  | .inr command => submitCommand V B request now command

/-! ### Stale entries -/

/-- Ask the broker to cancel an entry that bought nothing for too long. -/
def cancelStaleEntry (V : Derivations D) (B : Broker β D) (request : ExecutionRequest D)
    (order : BrokerOrderSnapshot D) (now : Timestamp) : Service β D Bool := do
  let anchor := order.submittedAt.getD order.updatedAt
  if 0 < value order.filledQuantity ∨ order.status ∈ [.filled, .canceled, .expired, .rejected] then
    return false
  else if elapsedSeconds now anchor < request.policy.cancelUnfilledAfterSeconds then
    return false
  else
    B.cancel order.brokerOrderId
    event V request now { eventType := .cancelRequested, order := some order }
    return true

end Daybreak.Execution
