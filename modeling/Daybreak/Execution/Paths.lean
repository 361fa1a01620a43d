import Daybreak.Execution.Service

/-! The paths of the execution service, one constructor each, with the broker
requests made, the commands and claimed events left, and the outcome. Proved:
every run of `handleTradeUpdate` and `submit` from any world is one of them, and
the broker steps through exactly the requests listed. -/

namespace Daybreak.Execution

open Numeric DecimalArithmetic Effect Risk

variable {β D : Type} [DecimalArithmetic D]

abbrev Commands (D : Type) [DecimalArithmetic D] := Dict String (BrokerOrderCommand D)

abbrev Claims := Dict String (String × String)

variable {V : Derivations D} {B : Broker β D} {request : ExecutionRequest D}
  {update : TradeUpdate D} {now : Timestamp} {command protective : BrokerOrderCommand D}
  {order parent : BrokerOrderSnapshot D} {success : ExecutionOutcome} {held : Commands D}
  {w w' : World β D} {r : Result (ExecutionResult D)}

/-! ### What bookkeeping does not touch -/

/-- The parts of a world that decide what the service does. -/
structure Core (β D : Type) [DecimalArithmetic D] where
  broker : β
  log : List (BrokerCall D)
  commands : Commands D
  claims : Claims

def World.core (w : World β D) : Core β D :=
  ⟨w.broker, w.log, w.repository.commands, w.repository.tradeUpdateIds⟩

/-- A refused update changes nothing. -/
theorem exec_updateRepository
    (f : MemoryExecutionRepository D → Result (MemoryExecutionRepository D)) (w : World β D) :
    (updateRepository f).exec w = match f w.repository with
      | .ok repository => (.ok (), { w with repository })
      | .error e => (.error e, w) := by
  simp only [updateRepository, Program.exec_bind, Program.exec_get, Program.exec_ofExcept]
  cases f w.repository <;> rfl

theorem exec_getRepository_bind {α : Type} (f : MemoryExecutionRepository D → Service β D α)
    (w : World β D) : (getRepository >>= f).exec w = (f w.repository).exec w := rfl

theorem appendEvent_next {repo : MemoryExecutionRepository D} {event : ExecutionEvent D}
    (h : event.eventSequence = repo.nextEventSequence event.executionId) :
    ∃ log, repo.appendEvent event =
      .ok { repo with events := repo.events.insert event.executionId log } := by
  unfold MemoryExecutionRepository.nextEventSequence at h
  simp only [MemoryExecutionRepository.appendEvent, EventLog.append, dif_pos h]
  exact ⟨_, rfl⟩

/-- An event is always the next of its log, so that it is kept. -/
theorem exec_event (V : Derivations D) (request : ExecutionRequest D) (timestamp : Timestamp)
    (fields : EventFields D) (w : World β D) :
    ∃ events, (event V request timestamp fields).exec w =
      (.ok (), { w with repository := { w.repository with events := events } }) := by
  have hNext : (fields.build V w.repository request timestamp).eventSequence =
      w.repository.nextEventSequence (fields.build V w.repository request timestamp).executionId :=
    rfl
  obtain ⟨log, hLog⟩ := appendEvent_next hNext
  rw [event, exec_updateRepository, hLog]
  exact ⟨_, rfl⟩

theorem event_returns (V : Derivations D) (request : ExecutionRequest D) (timestamp : Timestamp)
    (fields : EventFields D) :
    Program.Returns World.core (event V request timestamp fields : Service β D Unit) := by
  intro w
  obtain ⟨events, hEvent⟩ := exec_event V request timestamp fields w
  exact ⟨(), _, hEvent, rfl⟩

theorem saveSnapshot_returns (snapshot : BrokerOrderSnapshot D) :
    Program.Returns World.core (saveSnapshot snapshot : Service β D Unit) :=
  fun _ => ⟨_, _, rfl, rfl⟩

theorem recordReservation_returns (V : Derivations D) (request : ExecutionRequest D)
    (order : BrokerOrderSnapshot D) (timestamp : Timestamp) :
    Program.Returns World.core
      (recordReservationFromOrder V request order timestamp : Service β D Unit) := by
  unfold recordReservationFromOrder
  split
  · exact .pure _
  · exact fun _ => ⟨_, _, rfl, rfl⟩

/-- A returned result has the given fields. -/
def Yields (request : ExecutionRequest D) (fields : ResultFields D)
    (r : Result (ExecutionResult D)) : Prop :=
  ∀ res, r = .ok res → res.toResultFields = fields ∧ res.executionId = request.executionId

theorem saveResult_core {repo repo' : MemoryExecutionRepository D} {res : ExecutionResult D}
    (h : repo.saveResult res = .ok repo') :
    repo'.commands = repo.commands ∧ repo'.tradeUpdateIds = repo.tradeUpdateIds := by
  obtain ⟨results, -, h⟩ := Result.bind_eq_ok.mp h
  obtain rfl := Except.ok.inj h
  exact ⟨rfl, rfl⟩

theorem result_yields {timestamp : Timestamp} {fields : ResultFields D}
    (h : (result V request timestamp fields).exec w = (r, w')) :
    w'.core = w.core ∧ Yields request fields r := by
  simp only [result, getRepository, Program.exec_bind, Program.exec_get, Program.exec_pure,
    Program.exec_ofExcept, exec_updateRepository] at h
  unfold ResultFields.build at h
  by_cases hShape : fields.TerminalShape
  · simp only [dif_pos hShape] at h
    split at h
    · next a t hSave =>
      split at hSave
      · next repo hRepo =>
        obtain ⟨hCommands, hClaims⟩ := saveResult_core hRepo
        obtain ⟨-, rfl⟩ := Prod.mk.inj hSave
        obtain ⟨rfl, rfl⟩ := Prod.mk.inj h
        refine ⟨by simp [World.core, hCommands, hClaims], fun res hRes => ?_⟩
        obtain rfl := Except.ok.inj hRes
        exact ⟨rfl, rfl⟩
      · cases (Prod.mk.inj hSave).1
    · next e t hSave =>
      split at hSave
      · cases (Prod.mk.inj hSave).1
      · obtain ⟨-, rfl⟩ := Prod.mk.inj hSave
        obtain ⟨rfl, rfl⟩ := Prod.mk.inj h
        exact ⟨rfl, fun res hRes => by cases hRes⟩
  · simp only [dif_neg hShape] at h
    obtain ⟨rfl, rfl⟩ := Prod.mk.inj h
    exact ⟨rfl, fun res hRes => by cases hRes⟩

/-- An attempted request, then what is done with its outcome. -/
theorem exec_attempt_bind {α γ : Type} {p : Service β D α} {f : Result α → Service β D γ}
    {r : Result γ} (h : (Program.attempt p >>= f).exec w = (r, w')) :
    ∃ answer u, p.exec w = (answer, u) ∧ (f answer).exec u = (r, w') := by
  rw [Program.exec_bind] at h
  exact ⟨_, _, rfl, h⟩

/-! ### Requests to the broker -/

/-- From `w` the broker answered `calls`, and the service holds `commands` and
`claims` in `w'`. -/
structure Advances (B : Broker β D) (w w' : World β D) (calls : List (BrokerCall D))
    (commands : Commands D) (claims : Claims) : Prop where
  log : w'.log = w.log ++ calls
  performs : B.Performs calls w.broker w'.broker
  commands : w'.repository.commands = commands
  claims : w'.repository.tradeUpdateIds = claims

namespace Advances

variable {w₁ w₂ : World β D} {calls calls₁ calls₂ : List (BrokerCall D)}
  {commands commands₁ commands₂ : Commands D} {claims claims₁ claims₂ : Claims}

theorem of_core (h : w₁.core = w.core) :
    Advances B w w₁ [] w.repository.commands w.repository.tradeUpdateIds := by
  obtain ⟨hBroker, hLog, hCommands, hClaims⟩ := Core.mk.inj h
  exact ⟨by simp [hLog], hBroker, hCommands, hClaims⟩

theorem trans (h₁ : Advances B w w₁ calls₁ commands₁ claims₁)
    (h₂ : Advances B w₁ w₂ calls₂ commands₂ claims₂) :
    Advances B w w₂ (calls₁ ++ calls₂) commands₂ claims₂ where
  log := by rw [h₂.log, h₁.log, List.append_assoc]
  performs := B.performs_append.mpr ⟨_, h₁.performs, h₂.performs⟩
  commands := h₂.commands
  claims := h₂.claims

/-- Requests that leave the repository's commands and claims alone. -/
theorem trans_same (h₁ : Advances B w w₁ calls₁ commands claims)
    (h₂ : Advances B w₁ w₂ calls₂ w₁.repository.commands w₁.repository.tradeUpdateIds) :
    Advances B w w₂ (calls₁ ++ calls₂) commands claims := by
  have h := h₁.trans h₂
  rwa [h₁.commands, h₁.claims] at h

/-- A step that the core does not see, after the rest. -/
theorem trans_core (h₁ : Advances B w w₁ calls commands claims) (h₂ : w₂.core = w₁.core) :
    Advances B w w₂ calls commands claims := by
  simpa using h₁.trans_same (of_core h₂)

end Advances

theorem exec_ask {α : Type} (request : β → Result α × β) (entry : Result α → BrokerCall D)
    (w : World β D) :
    (ask request entry).exec w = ((request w.broker).1, { w with
      broker := (request w.broker).2
      log := w.log ++ [entry (request w.broker).1]
      moments := w.moments ++ [w.repository] }) := by
  simp only [ask, Program.exec_bind, Program.exec_get, Program.exec_set, Program.exec_ofExcept]

/-- One request and its answer. -/
theorem ask_advances {α : Type} {request : β → Result α × β} {entry : Result α → BrokerCall D}
    {r : Result α} (h : (ask request entry).exec w = (r, w'))
    (hAnswers : ∀ b, B.Answers (entry (request b).1) b (request b).2) :
    Advances B w w' [entry r] w.repository.commands w.repository.tradeUpdateIds := by
  rw [exec_ask] at h
  obtain ⟨rfl, rfl⟩ := Prod.mk.inj h
  exact ⟨rfl, ⟨_, hAnswers w.broker, rfl⟩, rfl, rfl⟩

theorem lookup_advances {id : String} {r : Result (BrokerOrderSnapshot D)}
    (h : (B.lookup id).exec w = (r, w')) :
    Advances B w w' [.lookup id r] w.repository.commands w.repository.tradeUpdateIds :=
  ask_advances h fun _ => rfl

theorem submit_advances {r : Result (BrokerOrderSnapshot D)}
    (h : (B.submit command).exec w = (r, w')) :
    Advances B w w' [.submit command r] w.repository.commands w.repository.tradeUpdateIds :=
  ask_advances h fun _ => rfl

theorem cancel_advances {id : String} {r : Result Unit} (h : (B.cancel id).exec w = (r, w')) :
    Advances B w w' [.cancel id r] w.repository.commands w.repository.tradeUpdateIds :=
  ask_advances h fun _ => rfl

theorem read_advances {id : String} {r : Result (BrokerOrderSnapshot D)}
    (h : (B.read id).exec w = (r, w')) :
    Advances B w w' [.read id r] w.repository.commands w.repository.tradeUpdateIds :=
  ask_advances h fun _ => rfl

/-! ### Saved commands -/

/-- `held'` is `held` after a command was saved without a collision. -/
structure Saves (held : Commands D) (command : BrokerOrderCommand D) (held' : Commands D) :
    Prop where
  eq : held' = held.setDefault command.clientOrderId command
  same : ∀ existing, held.lookup command.clientOrderId = some existing →
    existing.numeric = command.numeric

/-- Under its id a saved command is stored, or one that Python finds equal. -/
theorem Saves.lookup {held' : Commands D} (h : Saves held command held') :
    ∃ stored, held'.lookup command.clientOrderId = some stored ∧
      stored.numeric = command.numeric := by
  rw [h.eq, Dict.lookup_setDefault, if_pos rfl]
  cases hOld : held.lookup command.clientOrderId with
  | none => exact ⟨command, rfl, rfl⟩
  | some existing => exact ⟨existing, rfl, h.same existing hOld⟩

/-- Saving a command either raises and changes nothing, or stores it unless an
equal one is stored. -/
theorem saveCommand_cases (B : Broker β D) {c : BrokerOrderCommand D} {r : Result Unit}
    (h : (updateRepository fun repo => repo.saveCommand c).exec w = (r, w')) :
    (∃ e, r = .error e ∧ w' = w) ∨
      (r = .ok () ∧ ∃ held, Saves w.repository.commands c held ∧
        Advances B w w' [] held w.repository.tradeUpdateIds) := by
  rw [exec_updateRepository] at h
  cases hSave : w.repository.saveCommand c with
  | error e =>
    simp only [hSave] at h
    obtain ⟨rfl, rfl⟩ := Prod.mk.inj h
    exact .inl ⟨e, rfl, rfl⟩
  | ok repo =>
    simp only [hSave] at h
    obtain ⟨rfl, rfl⟩ := Prod.mk.inj h
    obtain ⟨commands, hCommands, hRepo⟩ := Result.bind_eq_ok.mp hSave
    obtain rfl := Except.ok.inj hRepo
    obtain ⟨hEq, hSame⟩ := Dict.saveOnce_eq_ok.mp hCommands
    exact .inr ⟨rfl, commands, ⟨hEq, hSame⟩, ⟨(List.append_nil _).symm, rfl, rfl, rfl⟩⟩

/-! ### Protection of a partial fill -/

/-- `findOrSubmit`: the broker has the order, cannot say, or is sent it. -/
inductive FindRun (command : BrokerOrderCommand D) :
    List (BrokerCall D) → Result (BrokerOrderSnapshot D) → Prop
  | found (order : BrokerOrderSnapshot D) :
    FindRun command [.lookup command.clientOrderId (.ok order)] (.ok order)
  | raises {e : PyError} (known : e ≠ .brokerNotFound) :
    FindRun command [.lookup command.clientOrderId (.error e)] (.error e)
  | submits (r : Result (BrokerOrderSnapshot D)) :
    FindRun command [.lookup command.clientOrderId (.error .brokerNotFound), .submit command r] r

theorem findOrSubmit_run {r : Result (BrokerOrderSnapshot D)}
    (h : (findOrSubmit B command).exec w = (r, w')) :
    ∃ calls, FindRun command calls r ∧
      Advances B w w' calls w.repository.commands w.repository.tradeUpdateIds := by
  obtain ⟨answer, w₁, hLookup, h⟩ := exec_attempt_bind h
  have hAdv := lookup_advances hLookup
  split at h
  · next order =>
    obtain ⟨rfl, rfl⟩ := Prod.mk.inj h
    exact ⟨_, .found order, hAdv⟩
  · exact ⟨_, .submits r, hAdv.trans_same (submit_advances h)⟩
  · next e hKnown =>
    obtain ⟨rfl, rfl⟩ := Prod.mk.inj h
    exact ⟨_, .raises fun he => hKnown (by rw [he]), hAdv⟩

/-- The paths after the parent was read as canceled with a whole positive fill. -/
inductive StopRun (request : ExecutionRequest D) (command protective : BrokerOrderCommand D)
    (parent : BrokerOrderSnapshot D) : List (BrokerCall D) → Result (ExecutionResult D) → Prop
  | raises {calls : List (BrokerCall D)} {e : PyError}
      (find : FindRun protective calls (.error e)) :
    StopRun request command protective parent calls (.error e)
  | mismatched {calls : List (BrokerCall D)} {order : BrokerOrderSnapshot D} {e : PyError}
      (find : FindRun protective calls (.ok order)) (differs : ¬ Matches protective order) :
    StopRun request command protective parent calls (.error e)
  | placed {calls : List (BrokerCall D)} {order : BrokerOrderSnapshot D}
      {r : Result (ExecutionResult D)} (find : FindRun protective calls (.ok order))
      (matched : Matches protective order)
      (yields : Yields request (protectedFill command parent order) r) :
    StopRun request command protective parent calls r

/-- The paths of `protectPartialFill` on the parent `id`, from the commands `held`. -/
inductive ProtectRun (V : Derivations D) (request : ExecutionRequest D) (id : String)
    (command : BrokerOrderCommand D) (held : Commands D) :
    List (BrokerCall D) → Commands D → Result (ExecutionResult D) → Prop
  | cancelRaises (e : PyError) :
    ProtectRun V request id command held [.cancel id (.error e)] held (.error e)
  | readRaises (e : PyError) :
    ProtectRun V request id command held [.cancel id (.ok ()), .read id (.error e)] held (.error e)
  | filled {parent : BrokerOrderSnapshot D} {r : Result (ExecutionResult D)}
      (status : parent.status = .filled) (matched : Matches command parent)
      (yields : Yields request (reported .existingReconciled command parent) r) :
    ProtectRun V request id command held [.cancel id (.ok ()), .read id (.ok parent)] held r
  | unplaced (parent : BrokerOrderSnapshot D) (e : PyError) :
    ProtectRun V request id command held [.cancel id (.ok ()), .read id (.ok parent)] held
      (.error e)
  | sends {parent : BrokerOrderSnapshot D} {protective : BrokerOrderCommand D}
      {held' : Commands D} {calls : List (BrokerCall D)} {r : Result (ExecutionResult D)}
      (status : parent.status = .canceled)
      (whole : value parent.filledQuantity = toInt parent.filledQuantity)
      (built : buildPartialFillProtectiveStop V request (toInt parent.filledQuantity) =
        .ok protective)
      (saved : Saves held protective held')
      (stop : StopRun request command protective parent calls r) :
    ProtectRun V request id command held
      (.cancel id (.ok ()) :: .read id (.ok parent) :: calls) held' r

theorem placeStop_run (h : (placeStop V B request now command parent protective).exec w = (r, w')) :
    ∃ calls, StopRun request command protective parent calls r ∧
      Advances B w w' calls w.repository.commands w.repository.tradeUpdateIds := by
  unfold placeStop at h
  obtain ⟨e, hFind, rfl⟩ | ⟨order, w₁, hFind, h⟩ := Program.exec_bind_cases h
  · obtain ⟨calls, hRun, hAdv⟩ := findOrSubmit_run hFind
    exact ⟨calls, .raises hRun, hAdv⟩
  obtain ⟨calls, hRun, hAdv⟩ := findOrSubmit_run hFind
  split at h
  · next hDiffers =>
    obtain ⟨rfl, rfl⟩ := Prod.mk.inj h
    exact ⟨calls, .mismatched hRun hDiffers, hAdv⟩
  next hMatches =>
  obtain ⟨_, w₂, hCore₂, h⟩ := (saveSnapshot_returns order).exec_bind h
  obtain ⟨_, w₃, hCore₃, h⟩ := (event_returns _ _ _ _).exec_bind h
  obtain ⟨hCore₄, hYields⟩ := result_yields h
  exact ⟨calls, .placed hRun (not_not.mp hMatches) hYields,
    hAdv.trans_core (hCore₄.trans (hCore₃.trans hCore₂))⟩

theorem protectPartialFill_run
    (h : (protectPartialFill V B request update command).exec w = (r, w')) :
    ∃ calls held, ProtectRun V request update.order.brokerOrderId command w.repository.commands
        calls held r ∧ Advances B w w' calls held w.repository.tradeUpdateIds := by
  unfold protectPartialFill at h
  obtain ⟨e, hCancel, rfl⟩ | ⟨_, w₁, hCancel, h⟩ := Program.exec_bind_cases h
  · exact ⟨_, _, .cancelRaises e, cancel_advances hCancel⟩
  have hAdv₁ := cancel_advances hCancel
  obtain ⟨e, hRead, rfl⟩ | ⟨parent, w₂, hRead, h⟩ := Program.exec_bind_cases h
  · exact ⟨_, _, .readRaises e, hAdv₁.trans_same (read_advances hRead)⟩
  obtain ⟨_, w₃, hCore, h⟩ := (saveSnapshot_returns parent).exec_bind h
  have hAdv := (hAdv₁.trans_same (read_advances hRead)).trans_core hCore
  split at h
  · next hFilled =>
    split at h
    · obtain ⟨rfl, rfl⟩ := Prod.mk.inj h
      exact ⟨_, _, .unplaced parent _, hAdv⟩
    · next hMatches =>
      obtain ⟨hResult, hYields⟩ := result_yields h
      exact ⟨_, _, .filled hFilled (not_not.mp hMatches) hYields, hAdv.trans_core hResult⟩
  split at h
  · obtain ⟨rfl, rfl⟩ := Prod.mk.inj h
    exact ⟨_, _, .unplaced parent _, hAdv⟩
  next hCanceled =>
  split at h
  · obtain ⟨rfl, rfl⟩ := Prod.mk.inj h
    exact ⟨_, _, .unplaced parent _, hAdv⟩
  split at h
  · obtain ⟨rfl, rfl⟩ := Prod.mk.inj h
    exact ⟨_, _, .unplaced parent _, hAdv⟩
  next hWhole =>
  obtain ⟨e, hBuild, rfl⟩ | ⟨protective, w₄, hBuild, h⟩ := Program.exec_bind_cases h
  · obtain ⟨-, rfl⟩ := Prod.mk.inj ((Program.exec_ofExcept _ _).symm.trans hBuild)
    exact ⟨_, _, .unplaced parent e, hAdv⟩
  obtain ⟨hBuilt, rfl⟩ := Prod.mk.inj ((Program.exec_ofExcept _ _).symm.trans hBuild)
  obtain ⟨e, hSave, rfl⟩ | ⟨_, w₅, hSave, h⟩ := Program.exec_bind_cases h
  · obtain ⟨_, -, rfl⟩ | ⟨hOk, -⟩ := saveCommand_cases B hSave
    · exact ⟨_, _, .unplaced parent e, hAdv⟩
    · cases hOk
  obtain ⟨_, hError, -⟩ | ⟨-, held, hSaves, hAdv₅⟩ := saveCommand_cases B hSave
  · cases hError
  obtain ⟨_, w₆, hCore₆, h⟩ := (event_returns _ _ _ _).exec_bind h
  obtain ⟨calls, hStop, hAdv₇⟩ := placeStop_run h
  rw [hAdv.commands] at hSaves
  rw [hAdv.claims] at hAdv₅
  refine ⟨_, _, .sends (not_not.mp hCanceled) (value_eq_toInt (not_not.mp hWhole)) hBuilt hSaves
    hStop, ?_⟩
  exact ((hAdv.trans hAdv₅).trans_core hCore₆).trans_same hAdv₇

/-! ### Trade updates -/

/-- The identity under which an update's event id is claimed. -/
def TradeUpdate.claim (request : ExecutionRequest D) (update : TradeUpdate D) : String × String :=
  (request.executionId, update.rawEventHash)

/-- The paths of `handleTradeUpdate` from the commands `held` and the claims. -/
inductive HandleRun (V : Derivations D) (request : ExecutionRequest D) (update : TradeUpdate D)
    (held : Commands D) (claims : Claims) :
    List (BrokerCall D) → Commands D → Claims → Result (ExecutionResult D) → Prop
  | claimRefused {other : String × String} (e : PyError)
      (taken : claims.lookup update.eventId = some other) (differs : other ≠ update.claim request) :
    HandleRun V request update held claims [] held claims (.error e)
  | unknownAgain {r : Result (ExecutionResult D)}
      (known : claims.lookup update.eventId = some (update.claim request))
      (stored : held.lookup update.order.clientOrderId = none)
      (yields : Yields request (unknownCommand update.order) r) :
    HandleRun V request update held claims [] held claims r
  | redelivered {command : BrokerOrderCommand D} {r : Result (ExecutionResult D)}
      (known : claims.lookup update.eventId = some (update.claim request))
      (stored : held.lookup update.order.clientOrderId = some command)
      (yields : Yields request (reported .existingReconciled command update.order) r) :
    HandleRun V request update held claims [] held claims r
  | unknown {r : Result (ExecutionResult D)} (fresh : claims.lookup update.eventId = none)
      (stored : held.lookup update.order.clientOrderId = none)
      (yields : Yields request (unknownCommand update.order) r) :
    HandleRun V request update held claims [] held
      (claims.insert update.eventId (update.claim request)) r
  | passed {command : BrokerOrderCommand D} {r : Result (ExecutionResult D)}
      (fresh : claims.lookup update.eventId = none)
      (stored : held.lookup update.order.clientOrderId = some command)
      (settled : ¬ NeedsProtection request update.order)
      (yields : Yields request (reported .existingReconciled command update.order) r) :
    HandleRun V request update held claims [] held
      (claims.insert update.eventId (update.claim request)) r
  | protects {command : BrokerOrderCommand D} {calls : List (BrokerCall D)} {held' : Commands D}
      {r₀ r : Result (ExecutionResult D)} (fresh : claims.lookup update.eventId = none)
      (stored : held.lookup update.order.clientOrderId = some command)
      (needed : NeedsProtection request update.order)
      (run : ProtectRun V request update.order.brokerOrderId command held calls held' r₀)
      (ends : r = r₀ ∨ ∃ e, r₀ = .error e ∧ Yields request
        (unresolved .partialFillProtectionFailed command (some update.order)) r) :
    HandleRun V request update held claims calls held'
      (claims.insert update.eventId (update.claim request)) r

/-- A claim raises and changes nothing, finds the update claimed, or claims it. -/
theorem claimTradeUpdate_cases (B : Broker β D) {r : Result Bool}
    (h : (claimTradeUpdate update.eventId request.executionId update.rawEventHash).exec w =
      (r, w')) :
    (∃ e other, r = .error e ∧ w' = w ∧
        w.repository.tradeUpdateIds.lookup update.eventId = some other ∧
        other ≠ update.claim request) ∨
      (r = .ok false ∧ w' = w ∧ w.repository.tradeUpdateIds.lookup update.eventId =
        some (update.claim request)) ∨
      (r = .ok true ∧ w.repository.tradeUpdateIds.lookup update.eventId = none ∧
        Advances B w w' [] w.repository.commands
          (w.repository.tradeUpdateIds.insert update.eventId (update.claim request))) := by
  simp only [claimTradeUpdate, Program.exec_bind, Program.exec_get, Program.exec_set,
    Program.exec_pure, Program.exec_ofExcept,
    MemoryExecutionRepository.claimTradeUpdate] at h
  cases hClaim : w.repository.tradeUpdateIds.lookup update.eventId with
  | none =>
    simp only [hClaim] at h
    obtain ⟨rfl, rfl⟩ := Prod.mk.inj h
    exact .inr (.inr ⟨rfl, rfl, ⟨(List.append_nil _).symm, rfl, rfl, rfl⟩⟩)
  | some other =>
    simp only [hClaim] at h
    by_cases hSame : other = (request.executionId, update.rawEventHash)
    · simp only [if_pos hSame] at h
      obtain ⟨rfl, rfl⟩ := Prod.mk.inj h
      exact .inr (.inl ⟨rfl, rfl, by rw [hSame]; rfl⟩)
    · simp only [if_neg hSame] at h
      obtain ⟨rfl, rfl⟩ := Prod.mk.inj h
      exact .inl ⟨_, other, rfl, rfl, rfl, hSame⟩

theorem handleTradeUpdate_run (h : (handleTradeUpdate V B request update).exec w = (r, w')) :
    ∃ calls held claims, HandleRun V request update w.repository.commands
        w.repository.tradeUpdateIds calls held claims r ∧ Advances B w w' calls held claims := by
  unfold handleTradeUpdate at h
  obtain ⟨e, hClaim, rfl⟩ | ⟨claimed, w₁, hClaim, h⟩ := Program.exec_bind_cases h
  · obtain ⟨_, other, -, rfl, hTaken, hDiffers⟩ | ⟨hOk, -⟩ | ⟨hOk, -⟩ :=
      claimTradeUpdate_cases B hClaim
    · exact ⟨_, _, _, .claimRefused e hTaken hDiffers, .of_core rfl⟩
    · cases hOk
    · cases hOk
  rw [exec_getRepository_bind] at h
  simp only [MemoryExecutionRepository.getCommandByClientOrderId] at h
  obtain ⟨_, _, hError, -⟩ | ⟨hFalse, rfl, hKnown⟩ | ⟨hTrue, hFresh, hAdv₁⟩ :=
    claimTradeUpdate_cases B hClaim
  · cases hError
  · obtain rfl := Except.ok.inj hFalse
    split at h
    · next hStored =>
      obtain ⟨hCore, hYields⟩ := result_yields h
      exact ⟨_, _, _, .unknownAgain hKnown hStored hYields, .of_core hCore⟩
    · next command hStored =>
      obtain ⟨hCore, hYields⟩ := result_yields h
      exact ⟨_, _, _, .redelivered hKnown hStored hYields, .of_core hCore⟩
  · obtain rfl := Except.ok.inj hTrue
    rw [hAdv₁.commands] at h
    split at h
    · next hStored =>
      obtain ⟨hCore, hYields⟩ := result_yields h
      exact ⟨_, _, _, .unknown hFresh hStored hYields, hAdv₁.trans_core hCore⟩
    next command hStored =>
    obtain ⟨_, w₂, hCore₂, h⟩ := (saveSnapshot_returns update.order).exec_bind h
    obtain ⟨_, w₃, hCore₃, h⟩ := (event_returns _ _ _ _).exec_bind h
    obtain ⟨_, w₄, hCore₄, h⟩ := (recordReservation_returns _ _ _ _).exec_bind h
    have hAdv₄ := hAdv₁.trans_core (hCore₄.trans (hCore₃.trans hCore₂))
    split at h
    · next hNeeded =>
      obtain ⟨_, w₅, hCore₅, h⟩ := (event_returns _ _ _ _).exec_bind h
      have hAdv₅ := hAdv₄.trans_core hCore₅
      obtain ⟨res, hRun, rfl⟩ | ⟨e, w₆, hRun, h⟩ := Program.exec_tryCatch_cases h
      · obtain ⟨calls, held', hProtect, hAdv₆⟩ := protectPartialFill_run hRun
        rw [hAdv₅.commands] at hProtect
        rw [hAdv₅.claims] at hAdv₆
        exact ⟨_, _, _, .protects hFresh hStored hNeeded hProtect (.inl rfl), hAdv₅.trans hAdv₆⟩
      obtain ⟨calls, held', hProtect, hAdv₆⟩ := protectPartialFill_run hRun
      rw [hAdv₅.commands] at hProtect
      rw [hAdv₅.claims] at hAdv₆
      split at h
      · obtain ⟨hCore, hYields⟩ := result_yields h
        exact ⟨_, _, _, .protects hFresh hStored hNeeded hProtect (.inr ⟨e, rfl, hYields⟩),
          (hAdv₅.trans hAdv₆).trans_core hCore⟩
      · obtain ⟨rfl, rfl⟩ := Prod.mk.inj h
        exact ⟨_, _, _, .protects hFresh hStored hNeeded hProtect (.inl rfl), hAdv₅.trans hAdv₆⟩
    · next hSettled =>
      obtain ⟨hCore, hYields⟩ := result_yields h
      exact ⟨_, _, _, .passed hFresh hStored hSettled hYields, hAdv₄.trans_core hCore⟩

/-! ### Submission -/

/-- The paths of `acknowledge`. -/
inductive AcknowledgeRun (V : Derivations D) (request : ExecutionRequest D)
    (command : BrokerOrderCommand D) (order : BrokerOrderSnapshot D) (success : ExecutionOutcome)
    (held : Commands D) (claims : Claims) :
    List (BrokerCall D) → Commands D → Claims → Result (ExecutionResult D) → Prop
  | mismatched {r : Result (ExecutionResult D)} (differs : ¬ Matches command order)
      (yields : Yields request (unresolved .brokerOrderMismatch command (some order)) r) :
    AcknowledgeRun V request command order success held claims [] held claims r
  | terminal {r : Result (ExecutionResult D)} (matched : Matches command order)
      (ended : terminalRejection order = true)
      (yields : Yields request (refused .brokerRejected (some command) (some order)) r) :
    AcknowledgeRun V request command order success held claims [] held claims r
  | suspended {r : Result (ExecutionResult D)} (matched : Matches command order)
      (active : terminalRejection order = false)
      (suspended : brokerStateRequiresReconciliation order = true)
      (yields : Yields request (unresolved .brokerTransportFailure command (some order)) r) :
    AcknowledgeRun V request command order success held claims [] held claims r
  | handles {calls : List (BrokerCall D)} {held' : Commands D} {claims' : Claims}
      {r : Result (ExecutionResult D)} (matched : Matches command order)
      (active : terminalRejection order = false)
      (working : brokerStateRequiresReconciliation order = false)
      (needed : NeedsProtection request order)
      (run : HandleRun V request (initialUpdate order) held claims calls held' claims' r) :
    AcknowledgeRun V request command order success held claims calls held' claims' r
  | settled {r : Result (ExecutionResult D)} (matched : Matches command order)
      (active : terminalRejection order = false)
      (working : brokerStateRequiresReconciliation order = false)
      (settled : ¬ NeedsProtection request order)
      (yields : Yields request (reported success command order) r) :
    AcknowledgeRun V request command order success held claims [] held claims r

theorem acknowledge_run (h : (acknowledge V B request now command order success).exec w = (r, w')) :
    ∃ calls held claims, AcknowledgeRun V request command order success w.repository.commands
        w.repository.tradeUpdateIds calls held claims r ∧ Advances B w w' calls held claims := by
  unfold acknowledge at h
  obtain ⟨_, w₁, hCore₁, h⟩ := (saveSnapshot_returns order).exec_bind h
  obtain ⟨_, w₂, hCore₂, h⟩ := (event_returns _ _ _ _).exec_bind h
  obtain ⟨_, w₃, hCore₃, h⟩ := (recordReservation_returns _ _ _ _).exec_bind h
  have hCore := hCore₃.trans (hCore₂.trans hCore₁)
  have hAdv : Advances B w w₃ [] _ _ := .of_core hCore
  split at h
  · next hDiffers =>
    obtain ⟨hResult, hYields⟩ := result_yields h
    exact ⟨_, _, _, .mismatched hDiffers hYields, hAdv.trans_core hResult⟩
  next hMatched =>
  split at h
  · next hEnded =>
    obtain ⟨hResult, hYields⟩ := result_yields h
    exact ⟨_, _, _, .terminal (not_not.mp hMatched) hEnded hYields, hAdv.trans_core hResult⟩
  next hOpen =>
  split at h
  · next hSuspended =>
    obtain ⟨hResult, hYields⟩ := result_yields h
    exact ⟨_, _, _, .suspended (not_not.mp hMatched) (eq_false_of_ne_true hOpen) hSuspended hYields,
      hAdv.trans_core hResult⟩
  next hWorking =>
  split at h
  · next hNeeded =>
    obtain ⟨calls, held, claims, hHandle, hAdv₄⟩ := handleTradeUpdate_run h
    rw [hAdv.commands, hAdv.claims] at hHandle
    exact ⟨calls, held, claims, .handles (not_not.mp hMatched) (eq_false_of_ne_true hOpen)
      (eq_false_of_ne_true hWorking) hNeeded hHandle, hAdv.trans hAdv₄⟩
  · next hSettled =>
    obtain ⟨hResult, hYields⟩ := result_yields h
    exact ⟨_, _, _, .settled (not_not.mp hMatched) (eq_false_of_ne_true hOpen)
      (eq_false_of_ne_true hWorking) hSettled hYields, hAdv.trans_core hResult⟩

/-- The paths of `send`, from commands that hold the one being sent. -/
inductive SendRun (V : Derivations D) (request : ExecutionRequest D)
    (command : BrokerOrderCommand D) (held : Commands D) (claims : Claims) :
    List (BrokerCall D) → Commands D → Claims → Result (ExecutionResult D) → Prop
  | acknowledged {order : BrokerOrderSnapshot D} {calls : List (BrokerCall D)}
      {held' : Commands D} {claims' : Claims} {r : Result (ExecutionResult D)}
      (run : AcknowledgeRun V request command order .submitted held claims calls held' claims' r) :
    SendRun V request command held claims (.submit command (.ok order) :: calls) held' claims' r
  | permanent {r : Result (ExecutionResult D)}
      (yields : Yields request (refused .brokerRejected (some command) none) r) :
    SendRun V request command held claims
      [.submit command (.error (.brokerTransportError false))] held claims r
  | submitRaises {e : PyError} (other : ∀ transient, e ≠ .brokerTransportError transient) :
    SendRun V request command held claims [.submit command (.error e)] held claims (.error e)
  | found {order : BrokerOrderSnapshot D} {calls : List (BrokerCall D)} {held' : Commands D}
      {claims' : Claims} {r : Result (ExecutionResult D)}
      (run : AcknowledgeRun V request command order .submitted held claims calls held' claims' r) :
    SendRun V request command held claims
      (.submit command (.error (.brokerTransportError true)) ::
        .lookup command.clientOrderId (.ok order) :: calls) held' claims' r
  | ambiguous (e : PyError) {r : Result (ExecutionResult D)}
      (yields : Yields request (unresolved .brokerTimeoutUnknownState command none) r) :
    SendRun V request command held claims
      [.submit command (.error (.brokerTransportError true)),
        .lookup command.clientOrderId (.error e)] held claims r
  | lookupRaises (e : PyError) :
    SendRun V request command held claims
      [.submit command (.error (.brokerTransportError true)),
        .lookup command.clientOrderId (.error e)] held claims (.error e)

theorem send_run (h : (send V B request now command).exec w = (r, w')) :
    ∃ calls held claims, SendRun V request command w.repository.commands
        w.repository.tradeUpdateIds calls held claims r ∧ Advances B w w' calls held claims := by
  unfold send at h
  obtain ⟨_, w₁, hCore₁, h⟩ := (event_returns _ _ _ _).exec_bind h
  obtain ⟨answer, w₂, hSubmit, h⟩ := exec_attempt_bind h
  have hAdv := (Advances.of_core hCore₁).trans_same (submit_advances hSubmit)
  split at h
  · next order =>
    obtain ⟨calls, held, claims, hRun, hAdv₃⟩ := acknowledge_run h
    rw [hAdv.commands, hAdv.claims] at hRun
    exact ⟨_, held, claims, .acknowledged hRun, hAdv.trans hAdv₃⟩
  · obtain ⟨found, w₃, hLookup, h⟩ := exec_attempt_bind h
    have hAdv₃ := hAdv.trans_same (lookup_advances hLookup)
    split at h
    · next order =>
      obtain ⟨calls, held, claims, hRun, hAdv₄⟩ := acknowledge_run h
      rw [hAdv₃.commands, hAdv₃.claims] at hRun
      exact ⟨_, held, claims, .found hRun, hAdv₃.trans hAdv₄⟩
    · next e =>
      split at h
      · obtain ⟨_, w₄, hCore₄, h⟩ := (event_returns _ _ _ _).exec_bind h
        obtain ⟨hResult, hYields⟩ := result_yields h
        exact ⟨_, _, _, .ambiguous e hYields, hAdv₃.trans_core (hResult.trans hCore₄)⟩
      · obtain ⟨rfl, rfl⟩ := Prod.mk.inj h
        exact ⟨_, _, _, .lookupRaises e, hAdv₃⟩
  · obtain ⟨hResult, hYields⟩ := result_yields h
    exact ⟨_, _, _, .permanent hYields, hAdv.trans_core hResult⟩
  · next e hTransient hPermanent =>
    obtain ⟨rfl, rfl⟩ := Prod.mk.inj h
    refine ⟨_, _, _, .submitRaises ?_, hAdv⟩
    rintro (_ | _) rfl
    · exact hPermanent rfl
    · exact hTransient rfl

/-- The paths of `submit` from the commands `held` and the claims. -/
inductive SubmitRun (V : Derivations D) (request : ExecutionRequest D) (now : Timestamp)
    (held : Commands D) (claims : Claims) :
    List (BrokerCall D) → Commands D → Claims → Result (ExecutionResult D) → Prop
  | raises (e : PyError) : SubmitRun V request now held claims [] held claims (.error e)
  | refused {reason : ExecutionRejectionCode} {r : Result (ExecutionResult D)}
      (screened : screen V request now = .ok (.inl reason))
      (yields : Yields request (refused reason none none) r) :
    SubmitRun V request now held claims [] held claims r
  | conflict {command existing : BrokerOrderCommand D} {r : Result (ExecutionResult D)}
      (screened : screen V request now = .ok (.inr command))
      (stored : held.lookup command.clientOrderId = some existing)
      (differs : existing.numeric ≠ command.numeric)
      (yields : Yields request (unresolved .commandIdentityConflict command none) r) :
    SubmitRun V request now held claims [] held claims r
  | lookupFails {command : BrokerOrderCommand D} {held' : Commands D} {e : PyError}
      {r : Result (ExecutionResult D)} (screened : screen V request now = .ok (.inr command))
      (saved : Saves held command held') (known : e ≠ .brokerNotFound)
      (ends : r = .error e ∨ Yields request (unresolved .brokerTransportFailure command none) r) :
    SubmitRun V request now held claims [.lookup command.clientOrderId (.error e)] held' claims r
  | found {command : BrokerOrderCommand D} {existing : BrokerOrderSnapshot D}
      {calls : List (BrokerCall D)} {held' held'' : Commands D} {claims' : Claims}
      {r : Result (ExecutionResult D)} (screened : screen V request now = .ok (.inr command))
      (saved : Saves held command held')
      (run : AcknowledgeRun V request command existing .existingReconciled held' claims calls
        held'' claims' r) :
    SubmitRun V request now held claims
      (.lookup command.clientOrderId (.ok existing) :: calls) held'' claims' r
  | sends {command : BrokerOrderCommand D} {calls : List (BrokerCall D)}
      {held' held'' : Commands D} {claims' : Claims} {r : Result (ExecutionResult D)}
      (screened : screen V request now = .ok (.inr command)) (saved : Saves held command held')
      (run : SendRun V request command held' claims calls held'' claims' r) :
    SubmitRun V request now held claims
      (.lookup command.clientOrderId (.error .brokerNotFound) :: calls) held'' claims' r

theorem submitCommand_run (hScreen : screen V request now = .ok (.inr command))
    (h : (submitCommand V B request now command).exec w = (r, w')) :
    ∃ calls held claims, SubmitRun V request now w.repository.commands
        w.repository.tradeUpdateIds calls held claims r ∧ Advances B w w' calls held claims := by
  unfold submitCommand at h
  rw [exec_getRepository_bind] at h
  split at h
  · next hConflict =>
    obtain ⟨existing, hStored, hDiffers⟩ := hConflict
    obtain ⟨hResult, hYields⟩ := result_yields h
    exact ⟨_, _, _, .conflict hScreen hStored hDiffers hYields, .of_core hResult⟩
  obtain ⟨e, hSave, rfl⟩ | ⟨_, w₁, hSave, h⟩ := Program.exec_bind_cases h
  · obtain ⟨_, -, rfl⟩ | ⟨hOk, -⟩ := saveCommand_cases B hSave
    · exact ⟨_, _, _, .raises e, .of_core rfl⟩
    · cases hOk
  obtain ⟨_, hError, -⟩ | ⟨-, held, hSaves, hAdv₁⟩ := saveCommand_cases B hSave
  · cases hError
  obtain ⟨_, w₂, hCore₂, h⟩ := (event_returns _ _ _ _).exec_bind h
  obtain ⟨_, w₃, hCore₃, h⟩ := (event_returns _ _ _ _).exec_bind h
  obtain ⟨answer, w₄, hLookup, h⟩ := exec_attempt_bind h
  have hAdv := (hAdv₁.trans_core (hCore₃.trans hCore₂)).trans_same (lookup_advances hLookup)
  split at h
  · next existing =>
    obtain ⟨calls, held', claims, hRun, hAdv₅⟩ := acknowledge_run h
    rw [hAdv.commands, hAdv.claims] at hRun
    exact ⟨_, held', claims, .found hScreen hSaves hRun, hAdv.trans hAdv₅⟩
  · obtain ⟨calls, held', claims, hRun, hAdv₅⟩ := send_run h
    rw [hAdv.commands, hAdv.claims] at hRun
    exact ⟨_, held', claims, .sends hScreen hSaves hRun, hAdv.trans hAdv₅⟩
  · obtain ⟨hResult, hYields⟩ := result_yields h
    exact ⟨_, _, _, .lookupFails hScreen hSaves (by simp) (.inr hYields), hAdv.trans_core hResult⟩
  · next e hKnown _ =>
    obtain ⟨rfl, rfl⟩ := Prod.mk.inj h
    exact ⟨_, _, _, .lookupFails hScreen hSaves (fun he => hKnown (by rw [he])) (.inl rfl), hAdv⟩

theorem saveRequest_cases {r : Result Unit}
    (h : (updateRepository fun repo => repo.saveRequest request).exec w = (r, w')) :
    w'.core = w.core := by
  rw [exec_updateRepository] at h
  cases hSave : w.repository.saveRequest request with
  | error e =>
    simp only [hSave] at h
    rw [← (Prod.mk.inj h).2]
  | ok repo =>
    simp only [hSave] at h
    obtain ⟨requests, -, hRepo⟩ := Result.bind_eq_ok.mp hSave
    obtain rfl := Except.ok.inj hRepo
    rw [← (Prod.mk.inj h).2]
    rfl

theorem submit_run (h : (submit V B request now).exec w = (r, w')) :
    ∃ calls held claims, SubmitRun V request now w.repository.commands
        w.repository.tradeUpdateIds calls held claims r ∧ Advances B w w' calls held claims := by
  unfold submit at h
  obtain ⟨e, hSave, rfl⟩ | ⟨_, w₁, hSave, h⟩ := Program.exec_bind_cases h
  · exact ⟨_, _, _, .raises e, .of_core (saveRequest_cases hSave)⟩
  obtain ⟨_, w₂, hCore₂, h⟩ := (event_returns _ _ _ _).exec_bind h
  have hAdv : Advances B w w₂ [] _ _ := .of_core (hCore₂.trans (saveRequest_cases hSave))
  obtain ⟨e, hScreen, rfl⟩ | ⟨screened, w₃, hScreen, h⟩ := Program.exec_bind_cases h
  · obtain ⟨-, rfl⟩ := Prod.mk.inj ((Program.exec_ofExcept _ _).symm.trans hScreen)
    exact ⟨_, _, _, .raises e, hAdv⟩
  obtain ⟨hScreened, rfl⟩ := Prod.mk.inj ((Program.exec_ofExcept _ _).symm.trans hScreen)
  split at h
  · next reason =>
    unfold refuse at h
    obtain ⟨_, w₄, hCore₄, h⟩ := (event_returns _ _ _ _).exec_bind h
    obtain ⟨hResult, hYields⟩ := result_yields h
    exact ⟨_, _, _, .refused hScreened hYields, hAdv.trans_core (hResult.trans hCore₄)⟩
  · next command =>
    obtain ⟨calls, held, claims, hRun, hAdv₃⟩ := submitCommand_run hScreened h
    rw [hAdv.commands, hAdv.claims] at hRun
    exact ⟨calls, held, claims, hRun, hAdv.trans hAdv₃⟩

end Daybreak.Execution
