import Daybreak.Execution.Exposure
import Daybreak.Execution.Handover
import Daybreak.Execution.Protection

/-! The stop that a protection ends with. It is the one the broker already has under
the id of the stop, in whatever status, or the one it accepts. The service only
compares it with its command, so a reported protection is live exactly when the
broker did not report a stop that had been rejected, canceled or expired. -/

namespace Daybreak.Execution

open Numeric DecimalArithmetic Effect Risk

variable {β D : Type} [DecimalArithmetic D]

variable {V : Derivations D} {B : Broker β D} {request : ExecutionRequest D}
  {update : TradeUpdate D} {now : Timestamp} {command protective : BrokerOrderCommand D}
  {order parent : BrokerOrderSnapshot D} {held : Commands D} {call : ServiceCall D}
  {w w' : World β D} {r : Result (ExecutionResult D)} {res : ExecutionResult D}

/-! ### Sending a stop -/

/-- The order that the broker has under the id of a command, or accepts for it. -/
inductive Finds (B : Broker β D) (command : BrokerOrderCommand D) (b : β) :
    BrokerOrderSnapshot D → Prop
  | found {order : BrokerOrderSnapshot D} {b₁ : β}
      (lookup : B.getOrderByClientOrderId command.clientOrderId b = (.ok order, b₁)) :
    Finds B command b order
  | placed {order : BrokerOrderSnapshot D} {b₁ b₂ : β}
      (lookup : B.getOrderByClientOrderId command.clientOrderId b = (.error .brokerNotFound, b₁))
      (submit : B.submitOrder command b₁ = (.ok order, b₂)) :
    Finds B command b order

theorem Finds.reports {b : β} (h : Finds B command b order) : ∃ b₁, Reports B command b order b₁ := by
  cases h with
  | found lookup => exact ⟨_, .found lookup⟩
  | placed lookup submit => exact ⟨_, .placed lookup submit⟩

theorem Finds.unique {b : β} {order' : BrokerOrderSnapshot D} (h : Finds B command b order)
    (h' : Finds B command b order') : order = order' := by
  obtain ⟨_, hFirst⟩ := h.reports
  obtain ⟨_, hSecond⟩ := h'.reports
  exact (hFirst.unique hSecond).1

/-- The service finds the order of a command, or raises what the broker raised. -/
theorem findOrSubmit_cases {r : Result (BrokerOrderSnapshot D)}
    (h : (findOrSubmit B command).exec w = (r, w')) :
    w'.sight = { w.sight with broker := w'.broker } ∧
      ((∃ order, r = .ok order ∧ Finds B command w.broker order) ∨
        ((∀ order, ¬ Finds B command w.broker order) ∧ ∃ e, r = .error e ∧ B.Raises e)) := by
  obtain ⟨answer, w₁, hLookup, h⟩ := exec_attempt_bind h
  obtain ⟨hAnswer, hSight₁⟩ := ask_sight hLookup
  split at h
  · next order =>
    obtain ⟨rfl, rfl⟩ := Prod.mk.inj h
    exact ⟨hSight₁, .inl ⟨order, rfl, .found hAnswer⟩⟩
  · obtain ⟨hSubmit, hSight₂⟩ := ask_sight h
    rw [hSight₁] at hSight₂
    refine ⟨hSight₂, ?_⟩
    cases r with
    | ok order => exact .inl ⟨order, rfl, .placed hAnswer hSubmit⟩
    | error e =>
      refine .inr ⟨fun order hFinds => ?_, e, rfl, .submit command w₁.broker (by rw [hSubmit])⟩
      cases hFinds with
      | found lookup => cases (Prod.mk.inj (hAnswer.symm.trans lookup)).1
      | placed lookup submit =>
        obtain ⟨-, rfl⟩ := Prod.mk.inj (hAnswer.symm.trans lookup)
        cases (Prod.mk.inj (hSubmit.symm.trans submit)).1
  · next e hKnown =>
    obtain ⟨rfl, rfl⟩ := Prod.mk.inj h
    refine ⟨hSight₁, .inr ⟨fun order hFinds => ?_, e, rfl,
      .lookup command.clientOrderId w.broker (by rw [hAnswer])⟩⟩
    cases hFinds with
    | found lookup => cases (Prod.mk.inj (hAnswer.symm.trans lookup)).1
    | placed lookup _ =>
      exact hKnown (by rw [Except.error.inj (Prod.mk.inj (hAnswer.symm.trans lookup)).1])

/-- From the commands `held` and the broker `b` the stop is saved and then found. -/
structure Stops (B : Broker β D) (held : Commands D) (b : β) (protective : BrokerOrderCommand D)
    (order : BrokerOrderSnapshot D) : Prop where
  saveable : Saveable held protective
  finds : Finds B protective b order
  matched : Matches protective order

/-- Why a stop that is sent is not reported: its id is taken by another command, or
the broker raised, or reported an order that is not the stop. -/
inductive Unsent (B : Broker β D) (held : Commands D) (protective : BrokerOrderCommand D) :
    PyError → Prop
  | collides (taken : ¬ Saveable held protective) :
    Unsent B held protective (.runtimeError "client_order_id command collision")
  | fails {e : PyError} (saveable : Saveable held protective)
      (raised : protectionFailure e = true ∨ B.Raises e) : Unsent B held protective e

/-- A stop that is sent is reported as the broker's, or its exception escapes. -/
theorem sendStop_cases (h : (sendStop V B request now command parent protective).exec w = (r, w')) :
    (∃ order, ∃ u : World β D, Stops B w.repository.commands w.broker protective order ∧
        u.repository.results = w.repository.results ∧
        (result V request now (protectedFill command parent order)).exec u = (r, w')) ∨
      ((∀ order, ¬ Stops B w.repository.commands w.broker protective order) ∧
        ∃ e, r = .error e ∧ Unsent B w.repository.commands protective e ∧
          w'.repository.results = w.repository.results) := by
  unfold sendStop at h
  rw [Program.exec_bind, exec_updateRepository] at h
  by_cases hSaveable : Saveable w.repository.commands protective
  · rw [saveCommand_of_saveable hSaveable] at h
    obtain ⟨_, w₂, hSight₂, h⟩ := (event_unseen _ _ _ _).exec_bind h
    have hBroker : w₂.broker = w.broker := congrArg Sight.broker hSight₂
    have hResults₂ : w₂.repository.results = w.repository.results := congrArg Sight.results hSight₂
    unfold placeStop at h
    obtain ⟨e, hFind, rfl⟩ | ⟨order, w₃, hFind, h⟩ := Program.exec_bind_cases h
    · obtain ⟨hSight₃, ⟨_, hOk, -⟩ | ⟨hNone, _, hError, hRaises⟩⟩ := findOrSubmit_cases hFind
      · cases hOk
      · obtain rfl := Except.error.inj hError
        refine .inr ⟨fun order hStops => ?_, e, rfl, .fails hSaveable (.inr hRaises),
          (congrArg Sight.results hSight₃).trans hResults₂⟩
        rw [hBroker] at hNone
        exact hNone order hStops.finds
    · obtain ⟨hSight₃, ⟨_, hOk, hFinds⟩ | ⟨-, _, hError, -⟩⟩ := findOrSubmit_cases hFind
      · obtain rfl := Except.ok.inj hOk
        rw [hBroker] at hFinds
        have hResults₃ : w₃.repository.results = w.repository.results :=
          (congrArg Sight.results hSight₃).trans hResults₂
        split at h
        · next hDiffers =>
          obtain ⟨rfl, rfl⟩ := Prod.mk.inj h
          refine .inr ⟨fun order' hStops => ?_, _, rfl, .fails hSaveable (.inl rfl), hResults₃⟩
          obtain rfl := hFinds.unique hStops.finds
          exact hDiffers hStops.matched
        next hMatched =>
        obtain ⟨_, w₄, hSight₄, h⟩ := (saveSnapshot_unseen order).exec_bind h
        obtain ⟨_, w₅, hSight₅, h⟩ := (event_unseen _ _ _ _).exec_bind h
        exact .inl ⟨order, w₅, ⟨hSaveable, hFinds, not_not.mp hMatched⟩,
          (congrArg Sight.results (hSight₅.trans hSight₄)).trans hResults₃, h⟩
      · cases hError
  · rw [saveCommand_of_not_saveable hSaveable] at h
    obtain ⟨rfl, rfl⟩ := Prod.mk.inj h
    exact .inr ⟨fun order hStops => hSaveable hStops.saveable, _, rfl, .collides hSaveable, rfl⟩

/-! ### The stop of a call -/

/-- The protection of the order `id` from the broker `b` ends with the stop `order`. -/
structure Secures (V : Derivations D) (B : Broker β D) (request : ExecutionRequest D) (id : String)
    (held : Commands D) (b : β) (order : BrokerOrderSnapshot D) : Prop where
  stop : ∃ parent protective b', FillsStop V B request id b parent protective b' ∧
    Stops B held b' protective order

theorem Secures.unique {id : String} {b : β} {order' : BrokerOrderSnapshot D}
    (h : Secures V B request id held b order) (h' : Secures V B request id held b order') :
    order = order' := by
  obtain ⟨_, _, _, hFills, hStops⟩ := h.stop
  obtain ⟨_, _, _, hFills', hStops'⟩ := h'.stop
  obtain ⟨-, rfl, rfl⟩ := hFills.unique hFills'
  exact hStops.finds.unique hStops'.finds

/-- The stop that a call protects a partial fill with. A submission protects the
order it acknowledges, once. -/
inductive ProtectsWith (V : Derivations D) (B : Broker β D) (w : World β D) :
    ServiceCall D → BrokerOrderSnapshot D → Prop
  | update {request : ExecutionRequest D} {update : TradeUpdate D}
      {command : BrokerOrderCommand D} {order : BrokerOrderSnapshot D}
      (recognized : Recognizes w update command) (needed : NeedsProtection request update.order)
      (secures : Secures V B request update.order.brokerOrderId w.repository.commands w.broker
        order) :
    ProtectsWith V B w (.handleTradeUpdate request update) order
  | submission {request : ExecutionRequest D} {now : Timestamp} {command : BrokerOrderCommand D}
      {entry order : BrokerOrderSnapshot D} {b : β}
      (acknowledged : Acknowledges V B w request now command entry b)
      (matched : Matches command entry) (needed : NeedsProtection request entry)
      (fresh : w.repository.tradeUpdateIds.lookup (initialUpdate entry).eventId = none)
      (secures : Secures V B request entry.brokerOrderId
        (w.repository.commands.setDefault command.clientOrderId command) b order) :
    ProtectsWith V B w (.submit request now) order

/-- The result is a protection with `order` as its stop. -/
def ReportsStop (res : ExecutionResult D) (order : BrokerOrderSnapshot D) : Prop :=
  res.outcome = .partialFillProtected ∧ res.protectiveOrder = some order

/-- A result of a terminal shape is saved, or it collides with another of its id. -/
theorem result_cases {timestamp : Timestamp} {fields : ResultFields D}
    (hShape : fields.TerminalShape) (h : (result V request timestamp fields).exec w = (r, w')) :
    ∃ res, fields.build V w.repository request timestamp = .ok res ∧
      ((r = .ok res ∧ w'.repository.results =
          w.repository.results.setDefault res.resultId res) ∨
        (r = .error (.runtimeError "execution result identity collision") ∧ w' = w ∧
          ∃ existing, w.repository.results.lookup res.resultId = some existing ∧
            existing.numeric ≠ res.numeric)) := by
  unfold result at h
  rw [exec_getRepository_bind] at h
  have hBuild : ∃ res, fields.build V w.repository request timestamp = .ok res :=
    ⟨_, dif_pos hShape⟩
  obtain ⟨res, hBuild⟩ := hBuild
  rw [hBuild] at h
  refine ⟨res, hBuild, ?_⟩
  simp only [Program.exec_bind, Program.exec_ofExcept, Program.exec_pure,
    exec_updateRepository] at h
  by_cases hCollides : ∃ existing, w.repository.results.lookup res.resultId = some existing ∧
      existing.numeric ≠ res.numeric
  · obtain ⟨existing, hStored, hDiffers⟩ := hCollides
    have hSave : w.repository.saveResult res =
        .error (.runtimeError "execution result identity collision") := by
      simp only [MemoryExecutionRepository.saveResult, Dict.saveOnce, hStored, if_neg hDiffers]
      rfl
    simp only [hSave] at h
    obtain ⟨rfl, rfl⟩ := Prod.mk.inj h
    exact .inr ⟨rfl, rfl, existing, hStored, hDiffers⟩
  · have hSave : w.repository.saveResult res = .ok { w.repository with
        results := w.repository.results.setDefault res.resultId res } := by
      unfold MemoryExecutionRepository.saveResult
      refine Result.bind_eq_ok.mpr ⟨_, Dict.saveOnce_eq_ok.mpr ⟨rfl, ?_⟩, rfl⟩
      intro existing hStored
      by_contra hDiffers
      exact hCollides ⟨existing, hStored, hDiffers⟩
    simp only [hSave] at h
    obtain ⟨rfl, rfl⟩ := Prod.mk.inj h
    exact .inl ⟨rfl, rfl⟩

/-- A result that collides is no failure of a protection. -/
theorem result_escapes {timestamp : Timestamp} {fields : ResultFields D} {e : PyError}
    (hShape : fields.TerminalShape)
    (h : (result V request timestamp fields).exec w = (.error e, w')) :
    protectionFailure e = false := by
  obtain ⟨res, -, ⟨hOk, -⟩ | ⟨hError, -, -⟩⟩ := result_cases hShape h
  · cases hOk
  · rw [Except.error.inj hError]
    rfl

/-- A recorded update that returns reports its stop as the protection, if there is one. -/
theorem protectOrSettle_stops
    (h : (protectOrSettle V B request update command).exec w = (.ok res, w')) :
    (∃ order, NeedsProtection request update.order ∧ Secures V B request update.order.brokerOrderId
        w.repository.commands w.broker order ∧ ReportsStop res order) ∨
      ((∀ order, ¬ (NeedsProtection request update.order ∧ Secures V B request
          update.order.brokerOrderId w.repository.commands w.broker order)) ∧
        res.outcome ≠ .partialFillProtected) := by
  unfold protectOrSettle at h
  split at h
  case isFalse hSettled =>
    exact .inr ⟨fun _ hBoth => hSettled hBoth.1, result_unprotected h (by simp [reported]) _ rfl⟩
  case isTrue hNeeded =>
  obtain ⟨_, w₁, hSight, h⟩ := (event_unseen _ _ _ _).exec_bind h
  have hBroker : w₁.broker = w.broker := congrArg Sight.broker hSight
  have hCommands : w₁.repository.commands = w.repository.commands := congrArg Sight.commands hSight
  have hSends {r : Result (ExecutionResult D)} {v : World β D} (hProtect :
        (protectPartialFill V B request update command).exec w₁ = (r, v)) :
      (∃ order timestamp, ∃ u : World β D, ∃ parent, Secures V B request
          update.order.brokerOrderId w.repository.commands w.broker order ∧
          (result V request timestamp (protectedFill command parent order)).exec u = (r, v)) ∨
        ((∀ order, ¬ Secures V B request update.order.brokerOrderId w.repository.commands w.broker
          order) ∧ Unprotected r) := by
    obtain ⟨parent, protective, u, hFills, hSight₂, hSend⟩ | ⟨hNone, hEnds⟩ :=
      protectPartialFill_cases hProtect
    · rw [hBroker] at hFills
      have hSaved : u.repository.commands = w.repository.commands :=
        (congrArg Sight.commands hSight₂).trans hCommands
      obtain ⟨order, u', hStops, -, hResult⟩ | ⟨hNone, _, rfl, -⟩ := sendStop_cases hSend
      · rw [hSaved] at hStops
        exact .inl ⟨order, _, u', parent, ⟨_, _, _, hFills, hStops⟩, hResult⟩
      · refine .inr ⟨fun order hSecures => ?_, unprotected_error⟩
        obtain ⟨_, _, _, hFills', hStops⟩ := hSecures.stop
        obtain ⟨-, rfl, rfl⟩ := hFills.unique hFills'
        rw [← hSaved] at hStops
        exact hNone order hStops
    · refine .inr ⟨fun order hSecures => ?_, ?_⟩
      · obtain ⟨_, _, _, hFills, -⟩ := hSecures.stop
        rw [← hBroker] at hFills
        exact hNone _ _ _ hFills
      · obtain ⟨_, rfl, -⟩ | hEnds := hEnds
        · exact unprotected_error
        · exact hEnds.unprotected
  obtain ⟨_, hProtect, hOk⟩ | ⟨e, u, hProtect, h⟩ := Program.exec_tryCatch_cases h
  · obtain rfl := Except.ok.inj hOk
    obtain ⟨order, _, _, _, hSecures, hResult⟩ | ⟨hNone, hOther⟩ := hSends hProtect
    · have hFields := (result_yields hResult).2.fields_eq
      exact .inl ⟨order, hNeeded, hSecures, congrArg ResultFields.outcome hFields,
        congrArg ResultFields.protectiveOrder hFields⟩
    · exact .inr ⟨fun order hBoth => hNone order hBoth.2, hOther _ rfl⟩
  · split at h
    · next hCaught =>
      obtain ⟨order, _, _, _, -, hResult⟩ | ⟨hNone, -⟩ := hSends hProtect
      · rw [result_escapes terminalShape_protectedFill hResult] at hCaught
        cases hCaught
      · exact .inr ⟨fun order hBoth => hNone order hBoth.2,
          result_unprotected h (by simp [unresolved]) _ rfl⟩
    · cases (Prod.mk.inj h).1

theorem handleTradeUpdate_stops
    (h : (handleTradeUpdate V B request update).exec w = (.ok res, w')) :
    (∃ order, ProtectsWith V B w (.handleTradeUpdate request update) order ∧
        ReportsStop res order) ∨
      ((∀ order, ¬ ProtectsWith V B w (.handleTradeUpdate request update) order) ∧
        res.outcome ≠ .partialFillProtected) := by
  obtain ⟨command, u, hRecognized, hSight, h⟩ | hPassed := handleTradeUpdate_cases h
  · have hCommands : (u.recorded V request update.order update.eventTimestamp).repository.commands =
        w.repository.commands := congrArg Sight.commands hSight
    have hBroker : (u.recorded V request update.order update.eventTimestamp).broker = w.broker :=
      congrArg Sight.broker hSight
    obtain ⟨order, hNeeded, hSecures, hReports⟩ | ⟨hNone, hOther⟩ := protectOrSettle_stops h
    · rw [hCommands, hBroker] at hSecures
      exact .inl ⟨order, .update hRecognized hNeeded hSecures, hReports⟩
    · rw [hCommands, hBroker] at hNone
      refine .inr ⟨fun order hProtects => ?_, hOther⟩
      cases hProtects with
      | update _ needed secures => exact hNone order ⟨needed, secures⟩
  · refine .inr ⟨fun order hProtects => ?_, hPassed.unprotected _ rfl⟩
    cases hProtects with
    | update recognized _ _ => exact hPassed.unrecognized _ recognized

/-- Once a command is saved, an order that matches it has a stored command. -/
theorem Matches.stored (hMatched : Matches command order) (held : Commands D) :
    ∃ stored, (held.setDefault command.clientOrderId command).lookup order.clientOrderId =
      some stored := by
  rw [Dict.lookup_setDefault, if_pos hMatched.1.1.symm]
  exact ⟨_, rfl⟩

theorem submit_stops (h : (submit V B request now).exec w = (.ok res, w')) :
    (∃ order, ProtectsWith V B w (.submit request now) order ∧ ReportsStop res order) ∨
      ((∀ order, ¬ ProtectsWith V B w (.submit request now) order) ∧
        res.outcome ≠ .partialFillProtected) := by
  obtain ⟨command, entry, _, hSuccess, u, hAcknowledged, hSight, h⟩ | ⟨hNone, -, hOther⟩ :=
    submit_cases h
  · obtain ⟨v, hSame, hEnd⟩ := acknowledge_cases hSuccess h
    rw [hSight] at hSame
    have hCommands : (v.recorded V request entry now).repository.commands =
        w.repository.commands.setDefault command.clientOrderId command :=
      congrArg Sight.commands hSame
    have hClaims : (v.recorded V request entry now).repository.tradeUpdateIds =
        w.repository.tradeUpdateIds := congrArg Sight.claims hSame
    have hBroker : (v.recorded V request entry now).broker = u.broker :=
      congrArg Sight.broker hSame
    -- The acknowledged order is the only one that the submission can protect.
    have hOnly {command' : BrokerOrderCommand D} {entry' : BrokerOrderSnapshot D} {b : β}
        (hAcknowledged' : Acknowledges V B w request now command' entry' b) :
        command' = command ∧ entry' = entry ∧ b = u.broker := by
      obtain rfl := hAcknowledged'.sends.command_eq hAcknowledged.sends.screened
      obtain ⟨hEntry, hBroker⟩ := hAcknowledged'.reports.unique hAcknowledged.reports
      exact ⟨rfl, hEntry, hBroker⟩
    obtain ⟨hMatched, hNeeded, hHandle⟩ | ⟨hSettled, -, hOther⟩ := hEnd
    · obtain ⟨order, hProtects, hReports⟩ | ⟨hNone, hOther⟩ := handleTradeUpdate_stops hHandle
      · cases hProtects with
        | update recognized _ secures =>
          rw [hCommands, hBroker] at secures
          have hFresh := recognized.fresh
          rw [hClaims] at hFresh
          exact .inl ⟨order, .submission hAcknowledged hMatched hNeeded hFresh secures, hReports⟩
      · refine .inr ⟨fun order hProtects => ?_, hOther⟩
        cases hProtects with
        | submission acknowledged _ _ fresh secures =>
          obtain ⟨rfl, rfl, rfl⟩ := hOnly acknowledged
          rw [← hCommands, ← hBroker] at secures
          rw [← hClaims] at fresh
          obtain ⟨stored, hStored⟩ := hMatched.stored w.repository.commands
          rw [← hCommands] at hStored
          exact hNone order (.update ⟨fresh, hStored⟩ hNeeded secures)
    · refine .inr ⟨fun order hProtects => ?_, hOther _ rfl⟩
      cases hProtects with
      | submission acknowledged matched needed _ _ =>
        obtain ⟨rfl, rfl, rfl⟩ := hOnly acknowledged
        exact hSettled ⟨matched, needed⟩
  · refine .inr ⟨fun order hProtects => ?_, hOther _ rfl⟩
    cases hProtects with
    | submission acknowledged _ _ _ _ => exact hNone _ _ _ acknowledged

/-- A call that returns reports its stop as the protection, if there is one. -/
theorem ServiceCall.stops (h : (call.run V B).exec w = (.ok res, w')) :
    (∃ order, ProtectsWith V B w call order ∧ ReportsStop res order) ∨
      ((∀ order, ¬ ProtectsWith V B w call order) ∧ res.outcome ≠ .partialFillProtected) := by
  cases call with
  | submit request now => exact submit_stops h
  | handleTradeUpdate request update => exact handleTradeUpdate_stops h

/-- A call protects with one stop. -/
theorem ProtectsWith.unique {order' : BrokerOrderSnapshot D} (h : ProtectsWith V B w call order)
    (h' : ProtectsWith V B w call order') : order = order' := by
  cases h with
  | update _ _ secures =>
    cases h' with
    | update _ _ secures' => exact secures.unique secures'
  | submission acknowledged _ _ _ secures =>
    cases h' with
    | submission acknowledged' _ _ _ secures' =>
      obtain rfl := acknowledged.sends.command_eq acknowledged'.sends.screened
      obtain ⟨rfl, rfl⟩ := acknowledged.reports.unique acknowledged'.reports
      exact secures.unique secures'

/-- A protection that is returned reports a stop that was not rejected, canceled or
expired. -/
def LiveStop (res : ExecutionResult D) : Prop :=
  res.outcome = .partialFillProtected →
    ∃ order ∈ res.protectiveOrder, terminalRejection order = false

instance (res : ExecutionResult D) : Decidable (LiveStop res) := by
  unfold LiveStop; infer_instance

/-- A call that returns reports a live protection exactly when the stop that the
broker reports for it has not ended. -/
theorem stop_live_iff (V : Derivations D) (B : Broker β D) (call : ServiceCall D)
    (w w' : World β D) (res : ExecutionResult D) (h : (call.run V B).exec w = (.ok res, w')) :
    LiveStop res ↔ ∀ order, ProtectsWith V B w call order → terminalRejection order = false := by
  obtain ⟨order, hProtects, hOutcome, hReported⟩ | ⟨hNone, hOther⟩ := call.stops h
  · constructor
    · intro hLive order' hProtects'
      obtain ⟨_, hMem, hActive⟩ := hLive hOutcome
      obtain rfl := Option.some.inj (hReported.symm.trans hMem)
      rw [hProtects'.unique hProtects]
      exact hActive
    · intro hAll _
      exact ⟨order, hReported, hAll order hProtects⟩
  · constructor
    · intro _ order hProtects
      exact absurd hProtects (hNone order)
    · intro _ hOutcome
      exact absurd hOutcome hOther

/-- The stop of the sample fill is accepted, and works. -/
theorem partialFill_stop_live :
    ∃ res w, ((ServiceCall.handleTradeUpdate sampleExecution partialFill).run sampleDerivations
        (ledger Decimal true)).exec afterPartialFill = (.ok res, w) ∧
      res.outcome = .partialFillProtected ∧
      ∀ order, ProtectsWith sampleDerivations (ledger Decimal true) afterPartialFill
        (.handleTradeUpdate sampleExecution partialFill) order →
        terminalRejection order = false := by
  have hOk : ∃ res, (((ServiceCall.handleTradeUpdate sampleExecution partialFill).run
      sampleDerivations (ledger Decimal true)).exec afterPartialFill).1 = .ok res ∧
      res.outcome = .partialFillProtected ∧ LiveStop res := by
    decide +kernel
  obtain ⟨res, h, hOutcome, hLive⟩ := hOk
  exact ⟨res, _, Prod.ext h rfl, hOutcome,
    (stop_live_iff _ _ _ _ _ res (Prod.ext h rfl)).mp hLive⟩

/-- A stop of an earlier attempt, which the broker rejected. -/
def rejectedStop : BrokerOrderSnapshot Decimal :=
  ⟨snapshotFields sampleStop .rejected 0 "broker-order-2", by decide +kernel⟩

def afterRejectedStop : World (List (BrokerOrderSnapshot Decimal)) Decimal :=
  { afterEntry with broker := [rejectedStop, partialFill.order] }

/-- The rejected stop is found, and reported as the protection. -/
theorem rejectedStop_protects :
    ∃ records res w, History (ServiceCall.run sampleDerivations (ledger Decimal true)) BrokerMoves
        (.initial []) records afterRejectedStop ∧
      ((ServiceCall.handleTradeUpdate sampleExecution partialFill).run sampleDerivations
        (ledger Decimal true)).exec afterRejectedStop = (.ok res, w) ∧
      res.outcome = .partialFillProtected ∧ ¬ LiveStop res := by
  have hEntry : History (ServiceCall.run sampleDerivations (ledger Decimal true)) BrokerMoves
      (.initial []) _ afterEntry :=
    History.start.next (ServiceCall.submit sampleExecution sampleExecution.requestedAt)
  have hOk : ∃ res, (((ServiceCall.handleTradeUpdate sampleExecution partialFill).run
      sampleDerivations (ledger Decimal true)).exec afterRejectedStop).1 = .ok res ∧
      res.outcome = .partialFillProtected ∧ ¬ LiveStop res := by
    decide +kernel
  obtain ⟨res, h, hOutcome, hDead⟩ := hOk
  exact ⟨_, res, _, hEntry.elapse (show BrokerMoves afterEntry afterRejectedStop from rfl),
    Prod.ext h rfl, hOutcome, hDead⟩

end Daybreak.Execution
