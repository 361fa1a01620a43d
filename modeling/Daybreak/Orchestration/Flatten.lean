import Daybreak.Effect.Dict
import Daybreak.Effect.Program
import Daybreak.Orchestration.Models
import Mathlib.Data.List.Sort

/-! The flatten run of a session: Daybreak's targets are merged once, its orders are
canceled, and what is read of the targets is closed and read again until nothing
remains or the deadline passes. The broker is any state machine that answers the
four operations, and everything that happens at the market between two of them is
part of its steps. A run may still be polling when the given number of polls is
used up. -/

namespace Daybreak.Orchestration

open Numeric DecimalArithmetic Effect

variable {β D : Type} [DecimalArithmetic D]

/-! ### Targets -/

/-- What is claimed of one symbol, and by whom. -/
structure Claimed (D : Type) where
  quantity : D
  sources : List ManagedTargetSource

/-- The quantity claimed so far, and nothing for a new symbol. -/
def claimedQuantity (claims : Dict String (Claimed D)) (symbol : String) : D :=
  ((claims.lookup symbol).map (·.quantity)).getD (ofInt 0)

/-- The larger claim stands. -/
def addClaim (claims : Dict String (Claimed D)) (symbol : String) (quantity : D)
    (source : ManagedTargetSource) : Dict String (Claimed D) :=
  claims.insert symbol
    { quantity := pyMax (claimedQuantity claims symbol) quantity
      sources := ((claims.lookup symbol).map (·.sources)).getD [] |>.insert source }

def addDiscovered (claims : Dict String (Claimed D)) (target : ManagedPositionTarget D) :
    Dict String (Claimed D) :=
  addClaim claims target.symbol target.quantity target.source

def addManaged (claims : Dict String (Claimed D)) (managed : String × RawQuantity D) :
    Except Exc (Dict String (Claimed D)) :=
  match managed.2 with
  | none => .error (.other "InvalidOperation" "[<class 'decimal.ConversionSyntax'>]")
  | some quantity =>
    if value quantity ≤ 0 then .ok claims
    else .ok (addClaim claims managed.1 quantity .executionLedger)

/-- `ManagedPositionTarget` of one claimed symbol. -/
def claimedTarget (claims : Dict String (Claimed D)) (symbol : String) :
    Except Exc (ManagedPositionTarget D) :=
  let quantity := claimedQuantity claims symbol
  let sources := ((claims.lookup symbol).map (·.sources)).getD []
  if h : isCanonicalTicker symbol = true ∧ 0 < value quantity then
    .ok {
      symbol := symbol
      quantity := quantity
      source := if 1 < sources.length then .combined else sources.headD .combined
      canonical := h.1
      positive := h.2 }
  else .error (validationError "ManagedPositionTarget")

/-- `_merge_targets` -/
def mergeTargets (discovered : List (ManagedPositionTarget D))
    (managedQuantities : List (String × RawQuantity D)) :
    Except Exc (List (ManagedPositionTarget D)) := do
  let claims ← managedQuantities.foldlM addManaged (discovered.foldl addDiscovered ∅)
  (claims.keys.insertionSort (· ≤ ·)).mapM (claimedTarget claims)

/-! ### The broker of a run -/

structure SessionBrokerOperations (β D : Type) [DecimalArithmetic D] where
  discoverDaybreakTargets : SessionPlan → β → Except Exc (List (ManagedPositionTarget D)) × β
  cancelDaybreakOrders : SessionPlan → β → Except Exc ℕ × β
  listPositions : List (ManagedPositionTarget D) → β → Except Exc (List (SessionPosition D)) × β
  closePosition : SessionPosition D → β → Except Exc (FlattenOrder D) × β

/-- The clock that a run reads and the sleep between its polls. -/
structure Timing (β : Type) where
  clock : β → Timestamp × β
  sleep : ℚ → β → β

/-- A request to the broker with its answer. A close comes with the position that
was read and the one, of the uncovered quantity, that is closed. -/
inductive OperationCall (D : Type) [DecimalArithmetic D] where
  | discover (answer : Except Exc (List (ManagedPositionTarget D)))
  | cancel (answer : Except Exc ℕ)
  | list (targets : List (ManagedPositionTarget D)) (answer : Except Exc (List (SessionPosition D)))
  | close (read target : SessionPosition D) (answer : Except Exc (FlattenOrder D))

/-- The requests of a run with the broker after each, oldest first. -/
abbrev FlattenLog (β D : Type) [DecimalArithmetic D] := List (OperationCall D × β)

/-- One poll that found positions: the broker when they were read, and the log once
they were closed. -/
structure Poll (β D : Type) [DecimalArithmetic D] where
  positions : List (SessionPosition D)
  broker : β
  log : FlattenLog β D

/-- The broker and the local variables of a run. The log and the polls are kept for
what is said about a run. -/
structure FlattenRun (β D : Type) [DecimalArithmetic D] where
  broker : β
  errors : List String
  closeOrders : List (FlattenOrder D)
  submittedQuantities : Dict String D
  log : FlattenLog β D
  polls : List (Poll β D)

def FlattenRun.start (b : β) : FlattenRun β D := ⟨b, [], [], ∅, [], []⟩

def FlattenRun.submitted (run : FlattenRun β D) (symbol : String) : D :=
  (run.submittedQuantities.lookup symbol).getD (ofInt 0)

abbrev Flattening (β D α : Type) [DecimalArithmetic D] := Program (FlattenRun β D) Exc α

/-- Send one request to the broker, log it, and return its answer, raised or not. -/
def request {α : Type} (operation : β → Except Exc α × β) (entry : Except Exc α → OperationCall D) :
    Flattening β D (Except Exc α) := do
  let run ← get
  let answer := operation run.broker
  set { run with broker := answer.2, log := run.log ++ [(entry answer.1, answer.2)] }
  return answer.1

def recordError (context : String) (e : Exc) : Flattening β D Unit :=
  modify fun run => { run with errors := run.errors ++ [context ++ " failed: " ++ e.describe] }

/-- The answer of a request, or the default if it raised, which is recorded. -/
def orDefault {α : Type} (context : String) (default : α) :
    Except Exc α → Flattening β D α
  | .ok a => return a
  | .error e => do
    recordError context e
    return default

def readClock (timing : Timing β) : Flattening β D Timestamp := do
  let run ← get
  set { run with broker := (timing.clock run.broker).2 }
  return (timing.clock run.broker).1

def sleep (timing : Timing β) (seconds : ℚ) : Flattening β D Unit :=
  modify fun run => { run with broker := timing.sleep seconds run.broker }

/-! ### The run -/

/-- The body of the loop of `close_uncovered`. -/
def closeUncoveredPosition (ops : SessionBrokerOperations β D) (position : SessionPosition D) :
    Flattening β D Unit := do
  let run ← get
  let alreadySubmitted := run.submitted position.symbol
  let uncovered := sub position.quantity alreadySubmitted
  if h : value uncovered ≤ 0 then return ()
  else
    let closeTarget := { position with quantity := uncovered, positive := not_le.mp h }
    match ← request (ops.closePosition closeTarget) (.close position closeTarget) with
    | .ok order =>
      modify fun run => { run with
        closeOrders := run.closeOrders ++ [order]
        submittedQuantities :=
          run.submittedQuantities.insert position.symbol (add alreadySubmitted uncovered) }
    | .error e => recordError ("close position " ++ position.symbol) e

def closeUncovered (ops : SessionBrokerOperations β D) :
    List (SessionPosition D) → Flattening β D Unit
  | [] => return ()
  | position :: positions => do
    closeUncoveredPosition ops position
    closeUncovered ops positions

/-- The positions of one poll are closed where they are not covered yet. -/
def closePoll (ops : SessionBrokerOperations β D) (positions : List (SessionPosition D)) :
    Flattening β D Unit := do
  let read ← get
  closeUncovered ops positions
  modify fun run => { run with polls := run.polls ++ [⟨positions, read.broker, run.log⟩] }

/-- The verification loop, for at most so many polls; none while it still goes on. -/
def verify (ops : SessionBrokerOperations β D) (timing : Timing β) (plan : SessionPlan)
    (targets : List (ManagedPositionTarget D)) (deadline : Timestamp) :
    ℕ → List (SessionPosition D) → Flattening β D (Option (List (SessionPosition D)))
  | 0, _ => return none
  | polls + 1, remaining => do
    let now ← readClock timing
    if now < deadline then
      match ← request (ops.listPositions targets) (.list targets) with
      | .error e =>
        recordError "verify Daybreak positions" e
        return some remaining
      | .ok [] => return some []
      | .ok (position :: positions) =>
        closePoll ops (position :: positions)
        sleep timing plan.policy.flattenPollIntervalSeconds
        verify ops timing plan targets deadline polls (position :: positions)
    else return some remaining

/-- The part of `flatten` that follows once the targets are merged. -/
def flattenTargets (ops : SessionBrokerOperations β D) (timing : Timing β) (polls : ℕ)
    (plan : SessionPlan) (now : Timestamp) (targets : List (ManagedPositionTarget D)) :
    Flattening β D (Option (FlattenResult D)) := do
  let canceledOrderCount ← orDefault "cancel Daybreak orders" 0
    (← request (ops.cancelDaybreakOrders plan) .cancel)
  let initialPositions ← orDefault "list Daybreak positions" []
    (← request (ops.listPositions targets) (.list targets))
  closeUncovered ops initialPositions
  let deadline := min plan.finalFlattenDeadlineAt
    (now + timedelta plan.policy.flattenVerificationTimeoutSeconds)
  match ← verify ops timing plan targets deadline polls initialPositions with
  | none => return none
  | some remaining =>
    let completedAt ← readClock timing
    let run ← get
    return some {
      sessionId := plan.sessionId
      startedAt := now
      completedAt := completedAt
      canceledOrderCount := canceledOrderCount
      initialPositions := initialPositions
      closeOrders := run.closeOrders
      remainingPositions := remaining
      complete := remaining.isEmpty && run.errors.isEmpty
      errors := run.errors }

/-- `FlattenService.flatten`, with at most `polls` verification polls. -/
def flatten (ops : SessionBrokerOperations β D) (timing : Timing β) (polls : ℕ)
    (plan : SessionPlan) (now : Timestamp) (managedQuantities : List (String × RawQuantity D)) :
    Flattening β D (Option (FlattenResult D)) := do
  let discovered ← orDefault "discover Daybreak quantities" []
    (← request (ops.discoverDaybreakTargets plan) .discover)
  let targets ← Program.ofExcept (mergeTargets discovered managedQuantities)
  flattenTargets ops timing polls plan now targets

/-- The run of `flatten` on a broker. -/
def flattenRun (ops : SessionBrokerOperations β D) (timing : Timing β) (polls : ℕ)
    (plan : SessionPlan) (now : Timestamp) (managedQuantities : List (String × RawQuantity D))
    (b : β) : FlattenRun β D :=
  ((flatten ops timing polls plan now managedQuantities).exec (.start b)).2

end Daybreak.Orchestration
