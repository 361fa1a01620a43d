import Daybreak.Effect.Program
import Daybreak.Execution.Persistence

/-! The world an execution call runs in. The broker is any state machine that
answers the four requests of the service, an exception included; every request
and its answer is appended to a log, and the repository at that moment beside it.
The contract on a broker is about the ghost list of the client order ids it has
accepted. -/

namespace Daybreak.Execution

open Numeric DecimalArithmetic Effect Risk

variable {β D : Type} [DecimalArithmetic D]

structure Broker (β D : Type) [DecimalArithmetic D] where
  getOrderByClientOrderId : String → β → Result (BrokerOrderSnapshot D) × β
  submitOrder : BrokerOrderCommand D → β → Result (BrokerOrderSnapshot D) × β
  cancelOrder : String → β → Result Unit × β
  getOrder : String → β → Result (BrokerOrderSnapshot D) × β

/-- A request to the broker with its answer. -/
inductive BrokerCall (D : Type) [DecimalArithmetic D] where
  | lookup (clientOrderId : String) (answer : Result (BrokerOrderSnapshot D))
  | submit (command : BrokerOrderCommand D) (answer : Result (BrokerOrderSnapshot D))
  | cancel (brokerOrderId : String) (answer : Result Unit)
  | read (brokerOrderId : String) (answer : Result (BrokerOrderSnapshot D))

/-- One status that the service reports for a risk reservation. -/
structure ReservationEvent where
  reservationId : String
  status : ReservationStatus
  eventTimestamp : Timestamp
  details : List (String × String)
  deriving DecidableEq, Repr

/-- What made the service report a status: an order, for the reservation of a
request, with the repository at that moment. -/
structure Cause (D : Type) [DecimalArithmetic D] where
  request : ExecutionRequest D
  order : BrokerOrderSnapshot D
  repository : MemoryExecutionRepository D

/-- `moments` holds the repository as it was at each request of the log, `causes`
what made each reservation event. -/
structure World (β D : Type) [DecimalArithmetic D] where
  broker : β
  repository : MemoryExecutionRepository D
  reservationEvents : List ReservationEvent
  log : List (BrokerCall D)
  moments : List (MemoryExecutionRepository D)
  causes : List (Cause D)

abbrev Service (β D α : Type) [DecimalArithmetic D] := Program (World β D) PyError α

/-- Send one request to the broker, log it, and return or raise its answer. -/
def ask {α : Type} (request : β → Result α × β) (entry : Result α → BrokerCall D) :
    Service β D α := do
  let w ← get
  let answer := request w.broker
  set { w with
    broker := answer.2
    log := w.log ++ [entry answer.1]
    moments := w.moments ++ [w.repository] }
  Program.ofExcept answer.1

namespace Broker

variable (B : Broker β D)

def lookup (clientOrderId : String) : Service β D (BrokerOrderSnapshot D) :=
  ask (B.getOrderByClientOrderId clientOrderId) (.lookup clientOrderId)

def submit (command : BrokerOrderCommand D) : Service β D (BrokerOrderSnapshot D) :=
  ask (B.submitOrder command) (.submit command)

def cancel (brokerOrderId : String) : Service β D Unit :=
  ask (B.cancelOrder brokerOrderId) (.cancel brokerOrderId)

def read (brokerOrderId : String) : Service β D (BrokerOrderSnapshot D) :=
  ask (B.getOrder brokerOrderId) (.read brokerOrderId)

/-- What the broker does on one logged request. -/
def Answers : BrokerCall D → β → β → Prop
  | .lookup id answer, b, b' => B.getOrderByClientOrderId id b = (answer, b')
  | .submit command answer, b, b' => B.submitOrder command b = (answer, b')
  | .cancel id answer, b, b' => B.cancelOrder id b = (answer, b')
  | .read id answer, b, b' => B.getOrder id b = (answer, b')

/-- The broker states along a list of requests. -/
def Performs : List (BrokerCall D) → β → β → Prop
  | [], b, b' => b' = b
  | call :: rest, b, b' => ∃ mid, B.Answers call b mid ∧ Performs rest mid b'

theorem performs_append {xs ys : List (BrokerCall D)} {b b' : β} :
    B.Performs (xs ++ ys) b b' ↔ ∃ mid, B.Performs xs b mid ∧ B.Performs ys mid b' := by
  induction xs generalizing b with
  | nil => simp [Performs]
  | cons x xs ih =>
    simp only [List.cons_append, Performs, ih]
    constructor
    · rintro ⟨first, hFirst, mid, hMid, hRest⟩
      exact ⟨mid, ⟨first, hFirst, hMid⟩, hRest⟩
    · rintro ⟨mid, ⟨first, hFirst, hMid⟩, hRest⟩
      exact ⟨first, hFirst, mid, hMid, hRest⟩

/-- A lookup finds every order the broker has accepted, whatever its answers
otherwise; only a submission makes it accept an order, once, and it may answer
that submission with any exception. -/
structure FindsAccepted (accepted : β → List String) : Prop where
  lookup_finds : ∀ id b b', B.getOrderByClientOrderId id b = (.error .brokerNotFound, b') →
    id ∉ accepted b
  lookup_frame : ∀ id b, accepted (B.getOrderByClientOrderId id b).2 = accepted b
  submit_frame : ∀ command b, accepted (B.submitOrder command b).2 = accepted b ∨
    accepted (B.submitOrder command b).2 = command.clientOrderId :: accepted b
  cancel_frame : ∀ id b, accepted (B.cancelOrder id b).2 = accepted b
  read_frame : ∀ id b, accepted (B.getOrder id b).2 = accepted b

end Broker

end Daybreak.Execution
