import Daybreak.Execution.Exposure

/-! Where one routine of the service hands over to the next. `submit` either ends
without an order or acknowledges the one the broker reports; an acknowledged order
is handled as an update or settled; an update is passed over or recorded and then
protected or settled; a protection fails or saves the stop for what it read. What
the next routine starts from is known up to bookkeeping. -/

namespace Daybreak.Execution

open Numeric DecimalArithmetic Effect Risk

variable {β D : Type} [DecimalArithmetic D]

variable {V : Derivations D} {B : Broker β D} {request : ExecutionRequest D}
  {update : TradeUpdate D} {now timestamp : Timestamp} {command : BrokerOrderCommand D}
  {order : BrokerOrderSnapshot D} {success : ExecutionOutcome} {w w' : World β D}
  {r : Result (ExecutionResult D)}

/-! ### What later routines see -/

/-- All of a world but its logs of events, snapshots, requests and calls. -/
structure Sight (β D : Type) [DecimalArithmetic D] where
  broker : β
  commands : Commands D
  claims : Claims
  results : Dict String (ExecutionResult D)
  reservationEvents : List ReservationEvent
  causes : List (Cause D)

def World.sight (w : World β D) : Sight β D where
  broker := w.broker
  commands := w.repository.commands
  claims := w.repository.tradeUpdateIds
  results := w.repository.results
  reservationEvents := w.reservationEvents
  causes := w.causes

theorem event_unseen (V : Derivations D) (request : ExecutionRequest D) (timestamp : Timestamp)
    (fields : EventFields D) :
    Program.Returns World.sight (event V request timestamp fields : Service β D Unit) := by
  intro w
  obtain ⟨events, hEvent⟩ := exec_event V request timestamp fields w
  exact ⟨(), _, hEvent, rfl⟩

theorem saveSnapshot_unseen (snapshot : BrokerOrderSnapshot D) :
    Program.Returns World.sight (saveSnapshot snapshot : Service β D Unit) :=
  fun _ => ⟨_, _, rfl, rfl⟩

/-- A request changes nothing that is seen but the broker. -/
theorem ask_sight {α : Type} {request : β → Result α × β} {entry : Result α → BrokerCall D}
    {answer : Result α} (h : (ask request entry).exec w = (answer, w')) :
    request w.broker = (answer, w'.broker) ∧ w'.sight = { w.sight with broker := w'.broker } := by
  rw [exec_ask] at h
  obtain ⟨rfl, rfl⟩ := Prod.mk.inj h
  exact ⟨rfl, rfl⟩

/-! ### Saved commands -/

/-- A command is saved when none stored under its id differs from it. -/
def Saveable (held : Commands D) (command : BrokerOrderCommand D) : Prop :=
  ∀ existing, held.lookup command.clientOrderId = some existing →
    existing.numeric = command.numeric

theorem saveCommand_of_saveable {repo : MemoryExecutionRepository D}
    (h : Saveable repo.commands command) :
    repo.saveCommand command = .ok { repo with
      commands := repo.commands.setDefault command.clientOrderId command } := by
  unfold MemoryExecutionRepository.saveCommand Dict.saveOnce
  cases hStored : repo.commands.lookup command.clientOrderId with
  | none => rfl
  | some existing =>
    simp only [if_pos (h existing hStored)]
    rfl

theorem saveCommand_of_not_saveable {repo : MemoryExecutionRepository D}
    (h : ¬ Saveable repo.commands command) :
    repo.saveCommand command = .error (.runtimeError "client_order_id command collision") := by
  unfold Saveable at h
  push Not at h
  obtain ⟨existing, hStored, hDiffers⟩ := h
  simp only [MemoryExecutionRepository.saveCommand, Dict.saveOnce, hStored, if_neg hDiffers]
  rfl

/-! ### Reports to the risk reservations -/

def recordedEvents (V : Derivations D) (request : ExecutionRequest D)
    (order : BrokerOrderSnapshot D) (timestamp : Timestamp) : List ReservationEvent :=
  request.riskDecision.reservation.toList.map (reservationEvent V · order timestamp)

def recordedCauses (request : ExecutionRequest D) (order : BrokerOrderSnapshot D)
    (repo : MemoryExecutionRepository D) : List (Cause D) :=
  request.riskDecision.reservation.toList.map fun _ => ⟨request, order, repo⟩

/-- The world after the status of `order` was reported. -/
def World.recorded (V : Derivations D) (request : ExecutionRequest D)
    (order : BrokerOrderSnapshot D) (timestamp : Timestamp) (w : World β D) : World β D :=
  { w with
    reservationEvents := w.reservationEvents ++ recordedEvents V request order timestamp
    causes := w.causes ++ recordedCauses request order w.repository }

theorem exec_recordReservation (V : Derivations D) (request : ExecutionRequest D)
    (order : BrokerOrderSnapshot D) (timestamp : Timestamp) (w : World β D) :
    (recordReservationFromOrder V request order timestamp).exec w =
      (.ok (), w.recorded V request order timestamp) := by
  unfold recordReservationFromOrder
  cases h : request.riskDecision.reservation with
  | none => simp [World.recorded, recordedEvents, recordedCauses, h]
  | some reservation =>
    simp only [World.recorded, recordedEvents, recordedCauses, h]
    rfl

/-- Nothing was reported since `w`. -/
def Silent (w w' : World β D) : Prop :=
  w'.reservationEvents = w.reservationEvents ∧ w'.causes = w.causes

theorem Silent.of_sight (h : w'.sight = w.sight) : Silent w w' :=
  ⟨congrArg Sight.reservationEvents h, congrArg Sight.causes h⟩

theorem Silent.trans {w'' : World β D} (h : Silent w w') (h' : Silent w' w'') : Silent w w'' :=
  ⟨h'.1.trans h.1, h'.2.trans h.2⟩

/-! ### What routines keep -/

/-- An invariant of the results and the reports, and one that every result keeps. -/
structure Kept (V : Derivations D) (P : World β D → Prop) : Prop where
  unseen : ∀ w w' : World β D, w'.repository.results = w.repository.results → Silent w w' →
    P w → P w'
  result : ∀ (request : ExecutionRequest D) (timestamp : Timestamp) (fields : ResultFields D),
    Program.Maintains P (result V request timestamp fields)

namespace Kept

variable {P : World β D → Prop}

theorem ask (hP : Kept V P) {α : Type} (request : β → Result α × β)
    (entry : Result α → BrokerCall D) : Program.Maintains P (ask request entry) := by
  intro w hw
  rw [exec_ask]
  exact hP.unseen w _ rfl ⟨rfl, rfl⟩ hw

theorem updateRepository (hP : Kept V P)
    {f : MemoryExecutionRepository D → Result (MemoryExecutionRepository D)}
    (hf : ∀ repo repo', f repo = .ok repo' → repo'.results = repo.results) :
    Program.Maintains P (Execution.updateRepository f) := by
  intro w hw
  rw [exec_updateRepository]
  split
  · next repo hRepo => exact hP.unseen w _ (hf _ _ hRepo) ⟨rfl, rfl⟩ hw
  · exact hw

theorem saveRequest (hP : Kept V P) (request : ExecutionRequest D) :
    Program.Maintains P (Execution.updateRepository fun repo => repo.saveRequest request) := by
  refine hP.updateRepository fun repo repo' hRepo => ?_
  obtain ⟨_, -, hRepo⟩ := Result.bind_eq_ok.mp hRepo
  rw [← Except.ok.inj hRepo]

theorem saveCommand (hP : Kept V P) (command : BrokerOrderCommand D) :
    Program.Maintains P (Execution.updateRepository fun repo => repo.saveCommand command) := by
  refine hP.updateRepository fun repo repo' hRepo => ?_
  obtain ⟨_, -, hRepo⟩ := Result.bind_eq_ok.mp hRepo
  rw [← Except.ok.inj hRepo]

theorem event (hP : Kept V P) (request : ExecutionRequest D) (timestamp : Timestamp)
    (fields : EventFields D) : Program.Maintains P (event V request timestamp fields) := by
  refine hP.updateRepository fun repo repo' hRepo => ?_
  obtain ⟨_, -, hRepo⟩ := Result.bind_eq_ok.mp hRepo
  rw [← Except.ok.inj hRepo]

theorem saveSnapshot (hP : Kept V P) (snapshot : BrokerOrderSnapshot D) :
    Program.Maintains P (saveSnapshot snapshot) :=
  .modify fun w hw => hP.unseen w _ rfl ⟨rfl, rfl⟩ hw

theorem findOrSubmit (hP : Kept V P) (B : Broker β D) (command : BrokerOrderCommand D) :
    Program.Maintains P (findOrSubmit B command) := by
  refine (hP.ask _ _).attempt.bind fun answer u hu => ?_
  split
  · exact hu
  · exact hP.ask _ _ u hu
  · exact hu

theorem placeStop (hP : Kept V P) (B : Broker β D) (request : ExecutionRequest D)
    (now : Timestamp) (command : BrokerOrderCommand D) (parent : BrokerOrderSnapshot D)
    (protective : BrokerOrderCommand D) :
    Program.Maintains P (placeStop V B request now command parent protective) := by
  refine (hP.findOrSubmit _ _).bind fun order u hu => ?_
  split
  · exact hu
  · exact ((hP.saveSnapshot _).bind fun _ => (hP.event _ _ _).bind fun _ => hP.result _ _ _) u hu

theorem protectPartialFill (hP : Kept V P) (B : Broker β D) (request : ExecutionRequest D)
    (update : TradeUpdate D) (command : BrokerOrderCommand D) :
    Program.Maintains P (protectPartialFill V B request update command) := by
  refine (hP.ask _ _).bind fun _ => (hP.ask _ _).bind fun parent =>
    (hP.saveSnapshot _).bind fun _ u hu => ?_
  split
  · split
    · exact hu
    · exact hP.result _ _ _ u hu
  split
  · exact hu
  split
  · exact hu
  split
  · exact hu
  exact ((Program.Maintains.ofExcept _).bind fun protective => (hP.saveCommand _).bind
    fun _ => (hP.event _ _ _).bind fun _ => hP.placeStop _ _ _ _ _ _) u hu

end Kept

/-! ### Silence -/

theorem result_silent (V : Derivations D) (request : ExecutionRequest D) (timestamp : Timestamp)
    (fields : ResultFields D) :
    Program.Maintains (Silent w) (result V request timestamp fields) := by
  intro u hu
  unfold result
  rw [exec_getRepository_bind]
  refine (Program.Maintains.ofExcept _).bind (fun res => ?_) u hu
  refine Program.Maintains.bind (fun v hv => ?_) fun _ => .pure res
  rw [exec_updateRepository]
  split <;> exact hv

theorem kept_silent (V : Derivations D) (w : World β D) : Kept V (Silent w) where
  unseen _ _ _ hSilent hu := hu.trans hSilent
  result := result_silent V

/-! ### How a routine ends -/

/-- The run ends by returning a result, other than a protection, to a repository
that holds `results`. -/
def EndsWith (V : Derivations D) (request : ExecutionRequest D)
    (results : Dict String (ExecutionResult D)) (r : Result (ExecutionResult D))
    (w' : World β D) : Prop :=
  ∃ timestamp fields, ∃ u : World β D, fields.TerminalShape ∧
    fields.outcome ≠ .partialFillProtected ∧ u.repository.results = results ∧
    (result V request timestamp fields).exec u = (r, w')

/-- No protection is returned. -/
def Unprotected (r : Result (ExecutionResult D)) : Prop :=
  ∀ res, r = .ok res → res.outcome ≠ .partialFillProtected

theorem unprotected_error {e : PyError} : Unprotected (.error e : Result (ExecutionResult D)) := by
  intro res h
  cases h

theorem result_unprotected {fields : ResultFields D}
    (h : (result V request timestamp fields).exec w = (r, w'))
    (hOutcome : fields.outcome ≠ .partialFillProtected) : Unprotected r := by
  rintro res rfl
  rw [(result_yields h).2.fields_eq]
  exact hOutcome

/-- A result reports nothing to the reservations. -/
theorem result_passes {fields : ResultFields D} {u : World β D}
    (h : (result V request timestamp fields).exec u = (r, w')) (hSilent : Silent w u)
    (hOutcome : fields.outcome ≠ .partialFillProtected) : Silent w w' ∧ Unprotected r := by
  have hAfter := result_silent V request timestamp fields u hSilent
  rw [h] at hAfter
  exact ⟨hAfter, result_unprotected h hOutcome⟩

theorem EndsWith.unprotected {results : Dict String (ExecutionResult D)}
    (h : EndsWith V request results r w') : Unprotected r := by
  obtain ⟨_, _, _, -, hOutcome, -, hResult⟩ := h
  exact result_unprotected hResult hOutcome

theorem terminalShape_unknownCommand : (unknownCommand order).TerminalShape := by
  simp [ResultFields.TerminalShape, unknownCommand]

theorem terminalShape_reported (hSuccess : success ≠ .rejected)
    (hOther : success ≠ .reconciliationRequired) :
    (reported success command order).TerminalShape := by
  simp [ResultFields.TerminalShape, reported, hSuccess, hOther]

theorem terminalShape_unresolved {reason : ExecutionRejectionCode}
    {order : Option (BrokerOrderSnapshot D)} :
    (unresolved reason command order).TerminalShape := by
  simp [ResultFields.TerminalShape, unresolved]

theorem terminalShape_protectedFill {parent : BrokerOrderSnapshot D} :
    (protectedFill command parent order).TerminalShape := by
  simp [ResultFields.TerminalShape, protectedFill]

/-! ### Protection -/

/-- From the broker `b` the order `id` is canceled, and read as canceled with a whole
positive fill that `protective` sells; the broker is then `b'`. -/
structure FillsStop (V : Derivations D) (B : Broker β D) (request : ExecutionRequest D)
    (id : String) (b : β) (parent : BrokerOrderSnapshot D) (protective : BrokerOrderCommand D)
    (b' : β) : Prop where
  answers : ∃ b₁, B.cancelOrder id b = (.ok (), b₁) ∧ B.getOrder id b₁ = (.ok parent, b')
  canceled : parent.status = .canceled
  whole : value parent.filledQuantity = value (toIntegralValue .halfEven parent.filledQuantity)
  built : buildPartialFillProtectiveStop V request (toInt parent.filledQuantity) = .ok protective

/-- The answers of the broker determine the stop. -/
theorem FillsStop.unique {id : String} {b b₁ b₂ : β} {parent parent' : BrokerOrderSnapshot D}
    {protective protective' : BrokerOrderCommand D}
    (h : FillsStop V B request id b parent protective b₁)
    (h' : FillsStop V B request id b parent' protective' b₂) :
    parent = parent' ∧ protective = protective' ∧ b₁ = b₂ := by
  obtain ⟨_, hCancel, hRead⟩ := h.answers
  obtain ⟨_, hCancel', hRead'⟩ := h'.answers
  obtain ⟨-, rfl⟩ := Prod.mk.inj (hCancel.symm.trans hCancel')
  obtain ⟨hParent, rfl⟩ := Prod.mk.inj (hRead.symm.trans hRead')
  obtain rfl := Except.ok.inj hParent
  exact ⟨rfl, Except.ok.inj (h.built.symm.trans h'.built), rfl⟩

theorem FillsStop.positive {id : String} {b b' : β} {parent : BrokerOrderSnapshot D}
    {protective : BrokerOrderCommand D} (h : FillsStop V B request id b parent protective b') :
    0 < value parent.filledQuantity := by
  have hPositive := (buildPartialFillProtectiveStop_eq_ok h.built).1
  rw [value_eq_toInt h.whole]
  exact_mod_cast hPositive

/-- An exception that some request to the broker raises. -/
inductive Broker.Raises (B : Broker β D) (e : PyError) : Prop
  | lookup (id : String) (b : β) (raised : (B.getOrderByClientOrderId id b).1 = .error e)
  | submit (command : BrokerOrderCommand D) (b : β)
      (raised : (B.submitOrder command b).1 = .error e)
  | cancel (id : String) (b : β) (raised : (B.cancelOrder id b).1 = .error e)
  | read (id : String) (b : β) (raised : (B.getOrder id b).1 = .error e)

/-- A stop that cannot be built is a failed protection. -/
theorem buildPartialFillProtectiveStop_fails {filled : ℤ} {e : PyError}
    (h : buildPartialFillProtectiveStop V request filled = .error e) :
    protectionFailure e = true := by
  unfold buildPartialFillProtectiveStop at h
  simp only [Result.bind_eq_error] at h
  obtain hFilled | ⟨-, -, hStop | ⟨stop, -, hReservation | ⟨reservation, -, hHash⟩⟩⟩ := h
  · rw [ensure_eq_error hFilled]
    rfl
  · rw [orRaise_eq_error hStop]
    rfl
  · rw [orRaise_eq_error hReservation]
    rfl
  · unfold withHash at hHash
    simp only at hHash
    split at hHash
    · cases hHash
    · rw [← Except.error.inj hHash]
      rfl

/-- The end of a protection: the stop is saved, announced and placed. -/
def sendStop (V : Derivations D) (B : Broker β D) (request : ExecutionRequest D) (now : Timestamp)
    (command : BrokerOrderCommand D) (parent : BrokerOrderSnapshot D)
    (protective : BrokerOrderCommand D) : Service β D (ExecutionResult D) := do
  updateRepository fun repo => repo.saveCommand protective
  event V request now { eventType := .protectiveStopSubmitStarted, command := some protective }
  placeStop V B request now command parent protective

/-- A protection that finds no fill to protect raises what its caller catches or what
the broker raised, or ends with the parent completely filled. -/
def EndsUnfilled (V : Derivations D) (B : Broker β D) (request : ExecutionRequest D)
    (results : Dict String (ExecutionResult D)) (r : Result (ExecutionResult D))
    (w' : World β D) : Prop :=
  (∃ e, r = .error e ∧ (protectionFailure e = true ∨ B.Raises e) ∧
    w'.repository.results = results) ∨ EndsWith V request results r w'

/-- A protection sends the stop of the fill it reads, or finds none to protect. -/
theorem protectPartialFill_cases
    (h : (protectPartialFill V B request update command).exec w = (r, w')) :
    (∃ parent protective, ∃ u : World β D,
        FillsStop V B request update.order.brokerOrderId w.broker parent protective u.broker ∧
        u.sight = { w.sight with broker := u.broker } ∧
        (sendStop V B request update.eventTimestamp command parent protective).exec u = (r, w')) ∨
      ((∀ parent protective b,
          ¬ FillsStop V B request update.order.brokerOrderId w.broker parent protective b) ∧
        EndsUnfilled V B request w.repository.results r w') := by
  unfold protectPartialFill at h
  obtain ⟨e, hCancel, rfl⟩ | ⟨_, w₁, hCancel, h⟩ := Program.exec_bind_cases h
  · obtain ⟨hAnswer, hSight⟩ := ask_sight hCancel
    refine .inr ⟨?_, .inl ⟨e, rfl, .inr (.cancel update.order.brokerOrderId w.broker ?_),
      congrArg Sight.results hSight⟩⟩
    · rintro parent protective b hFills
      obtain ⟨_, hOk, -⟩ := hFills.answers
      cases (Prod.mk.inj (hAnswer.symm.trans hOk)).1
    · rw [hAnswer]
  obtain ⟨hCanceled, hSight₁⟩ := ask_sight hCancel
  obtain ⟨e, hRead, rfl⟩ | ⟨parent, w₂, hRead, h⟩ := Program.exec_bind_cases h
  · obtain ⟨hAnswer, hSight₂⟩ := ask_sight hRead
    rw [hSight₁] at hSight₂
    refine .inr ⟨?_, .inl ⟨e, rfl, .inr (.read update.order.brokerOrderId w₁.broker ?_),
      congrArg Sight.results hSight₂⟩⟩
    · rintro parent protective b hFills
      obtain ⟨_, hOk, hRead'⟩ := hFills.answers
      obtain ⟨-, rfl⟩ := Prod.mk.inj (hCanceled.symm.trans hOk)
      cases (Prod.mk.inj (hAnswer.symm.trans hRead')).1
    · rw [hAnswer]
  obtain ⟨hParent, hSight₂⟩ := ask_sight hRead
  rw [hSight₁] at hSight₂
  -- Every stop of this fill is a stop of the parent that was read.
  have hOnly {parent' : BrokerOrderSnapshot D} {protective : BrokerOrderCommand D} {b : β}
      (hFills : FillsStop V B request update.order.brokerOrderId w.broker parent' protective b) :
      parent' = parent := by
    obtain ⟨_, hOk, hRead'⟩ := hFills.answers
    obtain ⟨-, rfl⟩ := Prod.mk.inj (hCanceled.symm.trans hOk)
    exact Except.ok.inj (Prod.mk.inj (hRead'.symm.trans hParent)).1
  obtain ⟨_, w₃, hSight₃, h⟩ := (saveSnapshot_unseen parent).exec_bind h
  rw [hSight₂] at hSight₃
  have hResults : w₃.repository.results = w.repository.results := congrArg Sight.results hSight₃
  -- A parent that raises a `ValueError` has no stop.
  have hRaises {message : String} (hNone : ∀ protective b,
        ¬ FillsStop V B request update.order.brokerOrderId w.broker parent protective b)
      (hThrow : (throw (.valueError message) : Service β D (ExecutionResult D)).exec w₃ = (r, w')) :
      (∀ parent protective b,
        ¬ FillsStop V B request update.order.brokerOrderId w.broker parent protective b) ∧
      EndsUnfilled V B request w.repository.results r w' := by
    obtain ⟨rfl, rfl⟩ := Prod.mk.inj hThrow
    refine ⟨fun parent' protective b hFills => ?_, .inl ⟨_, rfl, .inl rfl, hResults⟩⟩
    obtain rfl := hOnly hFills
    exact hNone protective b hFills
  split at h
  · next hFilled =>
    have hNone protective b :
        ¬ FillsStop V B request update.order.brokerOrderId w.broker parent protective b := by
      intro hFills
      cases hFilled.symm.trans hFills.canceled
    split at h
    · exact .inr (hRaises hNone h)
    · refine .inr ⟨fun parent' protective b hFills => ?_, .inr ⟨_, _, w₃,
        terminalShape_reported (by simp) (by simp), by simp [reported], hResults, h⟩⟩
      obtain rfl := hOnly hFills
      exact hNone protective b hFills
  split at h
  · next hOpen => exact .inr (hRaises (fun _ _ hFills => hOpen hFills.canceled) h)
  split at h
  · next hEmpty => exact .inr (hRaises (fun _ _ hFills => hEmpty.not_gt hFills.positive) h)
  split at h
  · next hFraction => exact .inr (hRaises (fun _ _ hFills => hFraction hFills.whole) h)
  next hOpen _ hWhole =>
  obtain ⟨e, hBuild, rfl⟩ | ⟨protective, w₄, hBuild, h⟩ := Program.exec_bind_cases h
  · obtain ⟨hError, rfl⟩ := Prod.mk.inj ((Program.exec_ofExcept _ _).symm.trans hBuild)
    refine .inr ⟨fun parent' protective b hFills => ?_, .inl ⟨e, rfl,
      .inl (buildPartialFillProtectiveStop_fails hError), hResults⟩⟩
    obtain rfl := hOnly hFills
    cases hError.symm.trans hFills.built
  obtain ⟨hBuilt, rfl⟩ := Prod.mk.inj ((Program.exec_ofExcept _ _).symm.trans hBuild)
  have hBroker : w₃.broker = w₂.broker := congrArg Sight.broker hSight₃
  refine .inl ⟨parent, protective, w₃, ⟨⟨_, hCanceled, ?_⟩, not_not.mp hOpen, not_not.mp hWhole,
    hBuilt⟩, ?_, h⟩
  · rw [hBroker]
    exact hParent
  · rw [hBroker]
    exact hSight₃

/-! ### Trade updates -/

/-- The end of an update that was recorded: it is protected, or reported as it is. -/
def protectOrSettle (V : Derivations D) (B : Broker β D) (request : ExecutionRequest D)
    (update : TradeUpdate D) (command : BrokerOrderCommand D) :
    Service β D (ExecutionResult D) :=
  if NeedsProtection request update.order then do
    event V request update.eventTimestamp {
      eventType := .cancelRequested, order := some update.order }
    tryCatch (protectPartialFill V B request update command) fun e =>
      if protectionFailure e then
        result V request update.eventTimestamp
          (unresolved .partialFillProtectionFailed command (some update.order))
      else throw e
  else result V request update.eventTimestamp (reported .existingReconciled command update.order)

theorem Kept.protectOrSettle {P : World β D → Prop} (hP : Kept V P) (B : Broker β D)
    (request : ExecutionRequest D) (update : TradeUpdate D) (command : BrokerOrderCommand D) :
    Program.Maintains P (protectOrSettle V B request update command) := by
  unfold Execution.protectOrSettle
  split
  · refine (hP.event _ _ _).bind fun _ =>
      (hP.protectPartialFill _ _ _ _).tryCatch fun e u hu => ?_
    split
    · exact hP.result _ _ _ u hu
    · exact hu
  · exact hP.result _ _ _

/-- The update is new, and its order has the stored `command`. -/
structure Recognizes (w : World β D) (update : TradeUpdate D) (command : BrokerOrderCommand D) :
    Prop where
  fresh : w.repository.tradeUpdateIds.lookup update.eventId = none
  stored : w.repository.commands.lookup update.order.clientOrderId = some command

/-- The world in which the update is claimed. -/
def World.claiming (w : World β D) (request : ExecutionRequest D) (update : TradeUpdate D) :
    World β D :=
  { w with repository := { w.repository with
      tradeUpdateIds := w.repository.tradeUpdateIds.insert update.eventId (update.claim request) } }

theorem exec_claimTradeUpdate (request : ExecutionRequest D) (update : TradeUpdate D)
    (w : World β D) :
    (claimTradeUpdate update.eventId request.executionId update.rawEventHash).exec w =
      match w.repository.tradeUpdateIds.lookup update.eventId with
      | some other =>
        if other = update.claim request then (.ok false, w)
        else (.error (.runtimeError "trade update identity collision"), w)
      | none => (.ok true, w.claiming request update) := by
  simp only [claimTradeUpdate, Program.exec_bind, Program.exec_get, Program.exec_set,
    Program.exec_pure, Program.exec_ofExcept, MemoryExecutionRepository.claimTradeUpdate]
  cases w.repository.tradeUpdateIds.lookup update.eventId with
  | none => rfl
  | some other =>
    by_cases hSame : other = update.claim request
    · simp only [if_pos hSame, if_pos (show other = (request.executionId, update.rawEventHash) from
        hSame)]
    · simp only [if_neg hSame, if_neg (show ¬ other = (request.executionId, update.rawEventHash)
        from hSame)]

/-- An update that is passed over reports nothing; if it is new it ends with a result. -/
structure PassedOver (V : Derivations D) (request : ExecutionRequest D) (update : TradeUpdate D)
    (w : World β D) (r : Result (ExecutionResult D)) (w' : World β D) : Prop where
  unrecognized : ∀ command, ¬ Recognizes w update command
  silent : Silent w w'
  unprotected : Unprotected r
  ends : w.repository.tradeUpdateIds.lookup update.eventId = none →
    EndsWith V request w.repository.results r w'

/-- An update is recorded and then protected or settled, or it is passed over. -/
theorem handleTradeUpdate_cases (h : (handleTradeUpdate V B request update).exec w = (r, w')) :
    (∃ command, ∃ u : World β D, Recognizes w update command ∧
        u.sight = (w.claiming request update).sight ∧
        (protectOrSettle V B request update command).exec
          (u.recorded V request update.order update.eventTimestamp) = (r, w')) ∨
      PassedOver V request update w r w' := by
  unfold handleTradeUpdate at h
  rw [Program.exec_bind, exec_claimTradeUpdate] at h
  have hPassed {u : World β D} {fields : ResultFields D}
      (hResult : (result V request update.eventTimestamp fields).exec u = (r, w'))
      (hOld : ∀ command, ¬ Recognizes w update command) (hSilent : Silent w u)
      (hResults : u.repository.results = w.repository.results) (hShape : fields.TerminalShape)
      (hOutcome : fields.outcome ≠ .partialFillProtected) :
      PassedOver V request update w r w' := by
    obtain ⟨hAfter, hUnprotected⟩ := result_passes hResult hSilent hOutcome
    exact ⟨hOld, hAfter, hUnprotected,
      fun _ => ⟨_, fields, u, hShape, hOutcome, hResults, hResult⟩⟩
  cases hClaim : w.repository.tradeUpdateIds.lookup update.eventId with
  | some other =>
    have hOld : ∀ command, ¬ Recognizes w update command := by
      intro command hNew
      cases hClaim.symm.trans hNew.fresh
    by_cases hSame : other = update.claim request
    · simp only [hClaim, if_pos hSame] at h
      rw [exec_getRepository_bind] at h
      split at h
      · exact .inr (hPassed h hOld ⟨rfl, rfl⟩ rfl terminalShape_unknownCommand
          (by simp [unknownCommand]))
      · rw [if_pos trivial] at h
        exact .inr (hPassed h hOld ⟨rfl, rfl⟩ rfl (terminalShape_reported (by simp) (by simp))
          (by simp [reported]))
    · simp only [hClaim, if_neg hSame] at h
      obtain ⟨rfl, rfl⟩ := Prod.mk.inj h
      refine .inr ⟨hOld, ⟨rfl, rfl⟩, unprotected_error, fun hFresh => ?_⟩
      cases hClaim.symm.trans hFresh
  | none =>
    simp only [hClaim] at h
    rw [exec_getRepository_bind] at h
    split at h
    · next hNone =>
      have hOld : ∀ command, ¬ Recognizes w update command := by
        intro command hNew
        cases hNone.symm.trans hNew.stored
      exact .inr (hPassed h hOld ⟨rfl, rfl⟩ rfl terminalShape_unknownCommand
        (by simp [unknownCommand]))
    · next command hStored =>
      rw [if_neg (by simp)] at h
      obtain ⟨_, w₂, hSight₂, h⟩ := (saveSnapshot_unseen update.order).exec_bind h
      obtain ⟨_, w₃, hSight₃, h⟩ := (event_unseen _ _ _ _).exec_bind h
      rw [Program.exec_bind, exec_recordReservation] at h
      refine .inl ⟨command, w₃, ⟨hClaim, hStored⟩, hSight₃.trans hSight₂, ?_⟩
      unfold protectOrSettle
      exact h

/-! ### Submission -/

/-- An acknowledged order is recorded, and handled as an update or settled. -/
theorem acknowledge_cases (hSuccess : success ≠ .partialFillProtected)
    (h : (acknowledge V B request now command order success).exec w = (r, w')) :
    ∃ u : World β D, u.sight = w.sight ∧
      ((Matches command order ∧ NeedsProtection request order ∧
          (handleTradeUpdate V B request (initialUpdate order)).exec
            (u.recorded V request order now) = (r, w')) ∨
        (¬ (Matches command order ∧ NeedsProtection request order) ∧
          Silent (u.recorded V request order now) w' ∧ Unprotected r)) := by
  unfold acknowledge at h
  obtain ⟨_, w₁, hSight₁, h⟩ := (saveSnapshot_unseen order).exec_bind h
  obtain ⟨_, u, hSight₂, h⟩ := (event_unseen _ _ _ _).exec_bind h
  rw [Program.exec_bind, exec_recordReservation] at h
  refine ⟨u, hSight₂.trans hSight₁, ?_⟩
  have hSettled {fields : ResultFields D} (hOpen : ¬ (Matches command order ∧
        NeedsProtection request order)) (hOutcome : fields.outcome ≠ .partialFillProtected)
      (hResult : (result V request now fields).exec (u.recorded V request order now) = (r, w')) :
      ¬ (Matches command order ∧ NeedsProtection request order) ∧
        Silent (u.recorded V request order now) w' ∧ Unprotected r :=
    ⟨hOpen, result_passes hResult ⟨rfl, rfl⟩ hOutcome⟩
  simp only at h
  split at h
  · next hDiffers => exact .inr (hSettled (fun hBoth => hDiffers hBoth.1) (by simp [unresolved]) h)
  next hMatched =>
  split at h
  · next hEnded =>
    refine .inr (hSettled (fun hBoth => ?_) (by simp [refused]) h)
    simp [terminalRejection, hBoth.2.1] at hEnded
  split at h
  · next hSuspended =>
    refine .inr (hSettled (fun hBoth => ?_) (by simp [unresolved]) h)
    simp [brokerStateRequiresReconciliation, hBoth.2.1] at hSuspended
  split at h
  · next hNeeded => exact .inl ⟨not_not.mp hMatched, hNeeded, h⟩
  · next hSettles => exact .inr (hSettled (fun hBoth => hSettles hBoth.2) hSuccess h)

/-- The request is not stored in another version. -/
def Accepted (repo : MemoryExecutionRepository D) (request : ExecutionRequest D) : Prop :=
  ∀ existing, repo.requests.lookup request.executionId = some existing →
    existing.mapDecimal value = request.mapDecimal value

theorem saveRequest_of_accepted {repo : MemoryExecutionRepository D} (h : Accepted repo request) :
    repo.saveRequest request = .ok { repo with
      requests := repo.requests.setDefault request.executionId request } := by
  unfold MemoryExecutionRepository.saveRequest Dict.saveOnce
  cases hStored : repo.requests.lookup request.executionId with
  | none => rfl
  | some existing =>
    simp only [if_pos (h existing hStored)]
    rfl

theorem accepted_of_saveRequest {repo repo' : MemoryExecutionRepository D}
    (h : repo.saveRequest request = .ok repo') : Accepted repo request := by
  obtain ⟨_, hSave, -⟩ := Result.bind_eq_ok.mp h
  exact (Dict.saveOnce_eq_ok.mp hSave).2

/-- `submit` gets as far as an order that the broker reports for its command. -/
structure Acknowledges (V : Derivations D) (B : Broker β D) (w : World β D)
    (request : ExecutionRequest D) (now : Timestamp) (command : BrokerOrderCommand D)
    (order : BrokerOrderSnapshot D) (b : β) : Prop where
  accepted : Accepted w.repository request
  sends : Sends V request now w.repository.commands command
  reports : Reports B command w.broker order b

/-- What `w` shows once `command` is saved and the broker has moved to `b`. -/
def World.acknowledging (w : World β D) (command : BrokerOrderCommand D) (b : β) : Sight β D :=
  { w.sight with
    broker := b
    commands := w.repository.commands.setDefault command.clientOrderId command }

/-- The order the broker reports for a command it is sent. -/
inductive Places (B : Broker β D) (command : BrokerOrderCommand D) (b : β) :
    BrokerOrderSnapshot D → β → Prop
  | placed {order : BrokerOrderSnapshot D} {b₁ : β}
      (submit : B.submitOrder command b = (.ok order, b₁)) : Places B command b order b₁
  | recovered {order : BrokerOrderSnapshot D} {b₁ b₂ : β}
      (submit : B.submitOrder command b = (.error (.brokerTransportError true), b₁))
      (again : B.getOrderByClientOrderId command.clientOrderId b₁ = (.ok order, b₂)) :
    Places B command b order b₂

/-- A lookup that finds nothing leaves it to the submission what is reported. -/
theorem reports_of_notFound {b b₁ b' : β} (hMissing :
      B.getOrderByClientOrderId command.clientOrderId b = (.error .brokerNotFound, b₁)) :
    Reports B command b order b' ↔ Places B command b₁ order b' := by
  constructor
  · intro h
    cases h with
    | found lookup => cases (Prod.mk.inj (hMissing.symm.trans lookup)).1
    | placed lookup submit =>
      obtain ⟨-, rfl⟩ := Prod.mk.inj (hMissing.symm.trans lookup)
      exact .placed submit
    | recovered lookup submit again =>
      obtain ⟨-, rfl⟩ := Prod.mk.inj (hMissing.symm.trans lookup)
      exact .recovered submit again
  · intro h
    cases h with
    | placed submit => exact .placed hMissing submit
    | recovered submit again => exact .recovered hMissing submit again

/-- A lookup that raises anything else reports nothing. -/
theorem not_reports_of_error {b b₁ b' : β} {e : PyError} (hKnown : e ≠ .brokerNotFound)
    (hError : B.getOrderByClientOrderId command.clientOrderId b = (.error e, b₁)) :
    ¬ Reports B command b order b' := by
  intro h
  have hMissing {b₂ : β} (lookup : B.getOrderByClientOrderId command.clientOrderId b =
      (.error .brokerNotFound, b₂)) : e = .brokerNotFound :=
    Except.error.inj (Prod.mk.inj (hError.symm.trans lookup)).1
  cases h with
  | found lookup => cases (Prod.mk.inj (hError.symm.trans lookup)).1
  | placed lookup _ => exact hKnown (hMissing lookup)
  | recovered lookup _ _ => exact hKnown (hMissing lookup)

/-- A command that is sent ends with the order the broker reports, or without one. -/
theorem send_cases (h : (send V B request now command).exec w = (r, w')) :
    (∃ order, ∃ u : World β D, Places B command w.broker order u.broker ∧
        u.sight = { w.sight with broker := u.broker } ∧
        (acknowledge V B request now command order .submitted).exec u = (r, w')) ∨
      ((∀ order b, ¬ Places B command w.broker order b) ∧ Silent w w' ∧ Unprotected r) := by
  unfold send at h
  obtain ⟨_, w₁, hSight₁, h⟩ := (event_unseen _ _ _ _).exec_bind h
  obtain ⟨answer, w₂, hSubmit, h⟩ := exec_attempt_bind h
  obtain ⟨hAnswer, hSight₂⟩ := ask_sight hSubmit
  rw [hSight₁] at hSight₂
  rw [show w₁.broker = w.broker from congrArg Sight.broker hSight₁] at hAnswer
  have hSilent₂ : Silent w w₂ :=
    ⟨congrArg Sight.reservationEvents hSight₂, congrArg Sight.causes hSight₂⟩
  split at h
  · next order => exact .inl ⟨order, w₂, .placed hAnswer, hSight₂, h⟩
  · obtain ⟨found, w₃, hLookup, h⟩ := exec_attempt_bind h
    obtain ⟨hFound, hSight₃⟩ := ask_sight hLookup
    rw [hSight₂] at hSight₃
    split at h
    · next order => exact .inl ⟨order, w₃, .recovered hAnswer hFound, hSight₃, h⟩
    · next e =>
      have hNone order b : ¬ Places B command w.broker order b := by
        intro hPlaces
        cases hPlaces with
        | placed submit => cases (Prod.mk.inj (hAnswer.symm.trans submit)).1
        | recovered submit again =>
          obtain ⟨-, rfl⟩ := Prod.mk.inj (hAnswer.symm.trans submit)
          cases (Prod.mk.inj (hFound.symm.trans again)).1
      have hSilent₃ : Silent w w₃ :=
        ⟨congrArg Sight.reservationEvents hSight₃, congrArg Sight.causes hSight₃⟩
      split at h
      · obtain ⟨_, w₄, hSight₄, h⟩ := (event_unseen _ _ _ _).exec_bind h
        have hSilent₄ := hSilent₃.trans (.of_sight hSight₄)
        exact .inr ⟨hNone, result_passes h hSilent₄ (by simp [unresolved])⟩
      · obtain ⟨rfl, rfl⟩ := Prod.mk.inj h
        exact .inr ⟨hNone, hSilent₃, unprotected_error⟩
  · have hNone order b : ¬ Places B command w.broker order b := by
      intro hPlaces
      cases hPlaces with
      | placed submit => cases (Prod.mk.inj (hAnswer.symm.trans submit)).1
      | recovered submit _ => cases (Prod.mk.inj (hAnswer.symm.trans submit)).1
    exact .inr ⟨hNone, result_passes h hSilent₂ (by simp [refused])⟩
  · next e hTransient _ =>
    have hNone order b : ¬ Places B command w.broker order b := by
      intro hPlaces
      cases hPlaces with
      | placed submit => cases (Prod.mk.inj (hAnswer.symm.trans submit)).1
      | recovered submit _ =>
        have hError := Except.error.inj (Prod.mk.inj (hAnswer.symm.trans submit)).1
        exact hTransient (by rw [hError])
    obtain ⟨rfl, rfl⟩ := Prod.mk.inj h
    exact .inr ⟨hNone, hSilent₂, unprotected_error⟩

/-- A command that passes ends with the order the broker reports, or without one. -/
theorem submitCommand_cases (h : (submitCommand V B request now command).exec w = (r, w')) :
    (∃ order, ∃ success ≠ .partialFillProtected, ∃ u : World β D,
        Saveable w.repository.commands command ∧ Reports B command w.broker order u.broker ∧
        u.sight = w.acknowledging command u.broker ∧
        (acknowledge V B request now command order success).exec u = (r, w')) ∨
      ((∀ order b,
          ¬ (Saveable w.repository.commands command ∧ Reports B command w.broker order b)) ∧
        Silent w w' ∧ Unprotected r) := by
  unfold submitCommand at h
  rw [exec_getRepository_bind] at h
  split at h
  · next hConflict =>
    obtain ⟨existing, hStored, hDiffers⟩ := hConflict
    refine .inr ⟨fun order b hPasses => hDiffers (hPasses.1 existing hStored), ?_⟩
    exact result_passes h ⟨rfl, rfl⟩ (by simp [unresolved])
  next hFree =>
  have hSaveable : Saveable w.repository.commands command := by
    intro existing hStored
    by_contra hDiffers
    exact hFree ⟨existing, hStored, hDiffers⟩
  rw [Program.exec_bind, exec_updateRepository, saveCommand_of_saveable hSaveable] at h
  obtain ⟨_, w₂, hSight₂, h⟩ := (event_unseen _ _ _ _).exec_bind h
  obtain ⟨_, w₃, hSight₃, h⟩ := (event_unseen _ _ _ _).exec_bind h
  obtain ⟨answer, w₄, hLookup, h⟩ := exec_attempt_bind h
  obtain ⟨hAnswer, hSight₄⟩ := ask_sight hLookup
  rw [hSight₃, hSight₂] at hSight₄
  rw [show w₃.broker = w.broker from congrArg Sight.broker (hSight₃.trans hSight₂)] at hAnswer
  have hSilent₄ : Silent w w₄ :=
    ⟨congrArg Sight.reservationEvents hSight₄, congrArg Sight.causes hSight₄⟩
  split at h
  · next order =>
    exact .inl ⟨order, _, by simp, w₄, hSaveable, .found hAnswer, hSight₄, h⟩
  · obtain ⟨order, u, hPlaces, hSight, h⟩ | ⟨hNone, hSilent, hUnprotected⟩ := send_cases h
    · rw [hSight₄] at hSight
      exact .inl ⟨order, _, by simp, u, hSaveable, (reports_of_notFound hAnswer).mpr hPlaces,
        hSight, h⟩
    · refine .inr ⟨fun order b hPasses => ?_, hSilent₄.trans hSilent, hUnprotected⟩
      exact hNone order b ((reports_of_notFound hAnswer).mp hPasses.2)
  · refine .inr ⟨fun order b hPasses => not_reports_of_error (by simp) hAnswer hPasses.2, ?_⟩
    exact result_passes h hSilent₄ (by simp [unresolved])
  · next e hKnown _ =>
    obtain ⟨rfl, rfl⟩ := Prod.mk.inj h
    refine .inr ⟨fun order b hPasses => ?_, hSilent₄, unprotected_error⟩
    exact not_reports_of_error (fun hMissing => hKnown (by rw [hMissing])) hAnswer hPasses.2

/-- A submission ends with the order the broker reports, or without one. -/
theorem submit_cases (h : (submit V B request now).exec w = (r, w')) :
    (∃ command order, ∃ success ≠ .partialFillProtected, ∃ u : World β D,
        Acknowledges V B w request now command order u.broker ∧
        u.sight = w.acknowledging command u.broker ∧
        (acknowledge V B request now command order success).exec u = (r, w')) ∨
      ((∀ command order b, ¬ Acknowledges V B w request now command order b) ∧
        Silent w w' ∧ Unprotected r) := by
  unfold submit at h
  rw [Program.exec_bind, exec_updateRepository] at h
  cases hSave : w.repository.saveRequest request with
  | error e =>
    simp only [hSave] at h
    obtain ⟨rfl, rfl⟩ := Prod.mk.inj h
    refine .inr ⟨fun command order b hAcknowledges => ?_, ⟨rfl, rfl⟩, unprotected_error⟩
    rw [saveRequest_of_accepted hAcknowledges.accepted] at hSave
    cases hSave
  | ok repo =>
    have hAccepted := accepted_of_saveRequest hSave
    obtain rfl := Except.ok.inj ((saveRequest_of_accepted hAccepted).symm.trans hSave)
    simp only [hSave] at h
    obtain ⟨_, w₂, hSight₂, h⟩ := (event_unseen _ _ _ _).exec_bind h
    have hSilent₂ : Silent w w₂ :=
      ⟨congrArg Sight.reservationEvents hSight₂, congrArg Sight.causes hSight₂⟩
    have hCommands : w₂.repository.commands = w.repository.commands :=
      congrArg Sight.commands hSight₂
    have hBroker : w₂.broker = w.broker := congrArg Sight.broker hSight₂
    obtain ⟨e, hScreen, rfl⟩ | ⟨screened, w₃, hScreen, h⟩ := Program.exec_bind_cases h
    · obtain ⟨hError, rfl⟩ := Prod.mk.inj ((Program.exec_ofExcept _ _).symm.trans hScreen)
      refine .inr ⟨fun command order b hAcknowledges => ?_, hSilent₂, unprotected_error⟩
      cases hError.symm.trans hAcknowledges.sends.screened
    obtain ⟨hScreened, rfl⟩ := Prod.mk.inj ((Program.exec_ofExcept _ _).symm.trans hScreen)
    split at h
    · next reason =>
      obtain ⟨_, w₄, hSight₄, h⟩ := (event_unseen _ _ _ _).exec_bind h
      refine .inr ⟨fun command order b hAcknowledges => ?_, result_passes h
        (hSilent₂.trans (.of_sight hSight₄)) (by simp [refused])⟩
      cases Except.ok.inj (hScreened.symm.trans hAcknowledges.sends.screened)
    · next command =>
      obtain ⟨order, success, hSuccess, u, hSaveable, hReports, hSight, h⟩ |
        ⟨hNone, hSilent, hUnprotected⟩ := submitCommand_cases h
      · rw [hCommands] at hSaveable
        rw [hBroker] at hReports
        refine .inl ⟨command, order, success, hSuccess, u,
          ⟨hAccepted, ⟨hScreened, hSaveable⟩, hReports⟩, ?_, h⟩
        rw [hSight, World.acknowledging, hSight₂, hCommands]
        rfl
      · refine .inr ⟨fun command' order b hAcknowledges => ?_, hSilent₂.trans hSilent,
          hUnprotected⟩
        obtain rfl := hAcknowledges.sends.command_eq hScreened
        rw [hCommands, hBroker] at hNone
        exact hNone order b ⟨hAcknowledges.sends.stored, hAcknowledges.reports⟩

/-! ### What calls keep -/

namespace Kept

variable {P : World β D → Prop}

theorem claimTradeUpdate (hP : Kept V P) (request : ExecutionRequest D) (update : TradeUpdate D) :
    Program.Maintains P
      (claimTradeUpdate update.eventId request.executionId update.rawEventHash) := by
  intro w hw
  rw [exec_claimTradeUpdate]
  split
  · split <;> exact hw
  · exact hP.unseen w _ rfl ⟨rfl, rfl⟩ hw

theorem handleTradeUpdate (hP : Kept V P)
    (hRecord : ∀ request order timestamp,
      Program.Maintains P (recordReservationFromOrder V request order timestamp))
    (B : Broker β D) (request : ExecutionRequest D) (update : TradeUpdate D) :
    Program.Maintains P (handleTradeUpdate V B request update) := by
  refine (hP.claimTradeUpdate _ _).bind fun claimed u hu => ?_
  rw [exec_getRepository_bind]
  split
  · exact hP.result _ _ _ u hu
  · next command _ =>
    split
    · exact hP.result _ _ _ u hu
    · exact ((hP.saveSnapshot _).bind fun _ => (hP.event _ _ _).bind fun _ =>
        (hRecord _ _ _).bind fun _ => hP.protectOrSettle B request update command) u hu

theorem acknowledge (hP : Kept V P)
    (hRecord : ∀ request order timestamp,
      Program.Maintains P (recordReservationFromOrder V request order timestamp))
    (B : Broker β D) (request : ExecutionRequest D) (now : Timestamp)
    (command : BrokerOrderCommand D) (order : BrokerOrderSnapshot D)
    (success : ExecutionOutcome) :
    Program.Maintains P (acknowledge V B request now command order success) := by
  refine (hP.saveSnapshot _).bind fun _ => (hP.event _ _ _).bind fun _ =>
    (hRecord _ _ _).bind fun _ u hu => ?_
  split
  · exact hP.result _ _ _ u hu
  split
  · exact hP.result _ _ _ u hu
  split
  · exact hP.result _ _ _ u hu
  split
  · exact hP.handleTradeUpdate hRecord B request _ u hu
  · exact hP.result _ _ _ u hu

theorem send (hP : Kept V P)
    (hRecord : ∀ request order timestamp,
      Program.Maintains P (recordReservationFromOrder V request order timestamp))
    (B : Broker β D) (request : ExecutionRequest D) (now : Timestamp)
    (command : BrokerOrderCommand D) : Program.Maintains P (send V B request now command) := by
  refine (hP.event _ _ _).bind fun _ => (hP.ask _ _).attempt.bind fun answer u hu => ?_
  split
  · exact hP.acknowledge hRecord B request now command _ _ u hu
  · refine (hP.ask _ _).attempt.bind (fun found v hv => ?_) u hu
    split
    · exact hP.acknowledge hRecord B request now command _ _ v hv
    · split
      · exact ((hP.event _ _ _).bind fun _ => hP.result _ _ _) v hv
      · exact hv
  · exact hP.result _ _ _ u hu
  · exact hu

theorem submitCommand (hP : Kept V P)
    (hRecord : ∀ request order timestamp,
      Program.Maintains P (recordReservationFromOrder V request order timestamp))
    (B : Broker β D) (request : ExecutionRequest D) (now : Timestamp)
    (command : BrokerOrderCommand D) :
    Program.Maintains P (submitCommand V B request now command) := by
  intro w hw
  unfold Execution.submitCommand
  rw [exec_getRepository_bind]
  split
  · exact hP.result _ _ _ w hw
  refine ((hP.saveCommand _).bind fun _ => (hP.event _ _ _).bind fun _ => (hP.event _ _ _).bind
    fun _ => (hP.ask _ _).attempt.bind fun answer u hu => ?_) w hw
  split
  · exact hP.acknowledge hRecord B request now command _ _ u hu
  · exact hP.send hRecord B request now command u hu
  · exact hP.result _ _ _ u hu
  · exact hu

/-- What the results and the reports keep is kept by every call. -/
theorem call (hP : Kept V P)
    (hRecord : ∀ request order timestamp,
      Program.Maintains P (recordReservationFromOrder V request order timestamp))
    (B : Broker β D) (call : ServiceCall D) : Program.Maintains P (call.run V B) := by
  cases call with
  | submit request now =>
    refine (hP.saveRequest _).bind fun _ => (hP.event _ _ _).bind fun _ =>
      (Program.Maintains.ofExcept _).bind fun screened u hu => ?_
    split
    · exact ((hP.event _ _ _).bind fun _ => hP.result _ _ _) u hu
    · exact hP.submitCommand hRecord B request now _ u hu
  | handleTradeUpdate request update => exact hP.handleTradeUpdate hRecord B request update

end Kept

end Daybreak.Execution
