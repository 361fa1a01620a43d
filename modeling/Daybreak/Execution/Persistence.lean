import Daybreak.Effect.Dict
import Daybreak.Execution.Models

/-! The in-memory execution repository. Its event logs carry the proof that they
are numbered from one without a gap, so appending the next event never fails.
Every other write either keeps what is stored or refuses to change it. -/

namespace Daybreak.Execution

open Numeric DecimalArithmetic Effect

variable {D : Type} [DecimalArithmetic D]

structure EventLog (D : Type) where
  items : List (ExecutionEvent D)
  contiguous : items.map (·.eventSequence) = List.range' 1 items.length

namespace EventLog

def empty : EventLog D := ⟨[], rfl⟩

/-- A contiguous log of `n` events ends with event `n`, so both checks of
`append_event` ask for event `n + 1`. -/
def append (log : EventLog D) (event : ExecutionEvent D) : Result (EventLog D) :=
  if h : event.eventSequence = log.items.length + 1 then
    .ok ⟨log.items ++ [event], by
      rw [List.map_append, log.contiguous, List.length_append, List.range'_append_1.symm]
      simp [h, Nat.add_comm]⟩
  else .error (.runtimeError "execution event sequence is not contiguous")

end EventLog

structure MemoryExecutionRepository (D : Type) [DecimalArithmetic D] where
  requests : Dict String (ExecutionRequest D)
  commands : Dict String (BrokerOrderCommand D)
  snapshots : Dict String (BrokerOrderSnapshot D)
  events : Dict String (EventLog D)
  results : Dict String (ExecutionResult D)
  tradeUpdateIds : Dict String (String × String)

namespace MemoryExecutionRepository

def empty : MemoryExecutionRepository D := ⟨∅, ∅, ∅, ∅, ∅, ∅⟩

def saveRequest (repo : MemoryExecutionRepository D) (request : ExecutionRequest D) :
    Result (MemoryExecutionRepository D) := do
  let requests ← repo.requests.saveOnce (ExecutionRequest.mapDecimal value)
    (.runtimeError "execution request identity collision") request.executionId request
  return { repo with requests }

def saveCommand (repo : MemoryExecutionRepository D) (command : BrokerOrderCommand D) :
    Result (MemoryExecutionRepository D) := do
  let commands ← repo.commands.saveOnce BrokerOrderCommand.numeric
    (.runtimeError "client_order_id command collision") command.clientOrderId command
  return { repo with commands }

def getCommandByClientOrderId (repo : MemoryExecutionRepository D) (clientOrderId : String) :
    Option (BrokerOrderCommand D) :=
  repo.commands.lookup clientOrderId

def saveSnapshot (repo : MemoryExecutionRepository D) (snapshot : BrokerOrderSnapshot D) :
    MemoryExecutionRepository D :=
  { repo with snapshots := repo.snapshots.setDefault snapshot.snapshotId snapshot }

def eventLog (repo : MemoryExecutionRepository D) (executionId : String) : EventLog D :=
  (repo.events.lookup executionId).getD .empty

def nextEventSequence (repo : MemoryExecutionRepository D) (executionId : String) : ℕ :=
  (repo.eventLog executionId).items.length + 1

def listEvents (repo : MemoryExecutionRepository D) (executionId : String) :
    List (ExecutionEvent D) :=
  (repo.eventLog executionId).items

def appendEvent (repo : MemoryExecutionRepository D) (event : ExecutionEvent D) :
    Result (MemoryExecutionRepository D) := do
  let log ← (repo.eventLog event.executionId).append event
  return { repo with events := repo.events.insert event.executionId log }

def saveResult (repo : MemoryExecutionRepository D) (result : ExecutionResult D) :
    Result (MemoryExecutionRepository D) := do
  let results ← repo.results.saveOnce ExecutionResult.numeric
    (.runtimeError "execution result identity collision") result.resultId result
  return { repo with results }

/-- Whether the event id is new; an id claimed for another identity is refused. -/
def claimTradeUpdate (repo : MemoryExecutionRepository D)
    (eventId executionId rawEventHash : String) : Result (Bool × MemoryExecutionRepository D) :=
  match repo.tradeUpdateIds.lookup eventId with
  | some existing =>
    if existing = (executionId, rawEventHash) then .ok (false, repo)
    else .error (.runtimeError "trade update identity collision")
  | none => .ok (true, { repo with
      tradeUpdateIds := repo.tradeUpdateIds.insert eventId (executionId, rawEventHash) })

end MemoryExecutionRepository

end Daybreak.Execution
