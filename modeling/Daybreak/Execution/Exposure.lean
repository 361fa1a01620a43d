import Daybreak.Execution.Outcomes

/-! Rejections and exposure. `submit` rejects in three ways: a check before the
broker is asked, a submission the broker declines for good, and a matching order
that has ended. Each leaves the client order id unused, or an order without a
fill, under a condition of its own. -/

namespace Daybreak.Execution

open Numeric DecimalArithmetic Effect Risk

variable {β D : Type} [DecimalArithmetic D]

variable {V : Derivations D} {B : Broker β D} {request : ExecutionRequest D}
  {update : TradeUpdate D} {now : Timestamp} {command : BrokerOrderCommand D}
  {order : BrokerOrderSnapshot D} {success : ExecutionOutcome} {held held' : Commands D}
  {claims claims' : Claims} {calls : List (BrokerCall D)} {res : ExecutionResult D}

/-- A rejection that leaves nothing to reconcile. -/
def Rejects (fields : ResultFields D) : Prop :=
  fields.outcome = .rejected ∧ fields.reconciliationRequired = false

instance (fields : ResultFields D) : Decidable (Rejects fields) := by
  unfold Rejects; infer_instance

/-- No order of the request was accepted, or the one reported bought nothing. -/
def Unexposed (accepted : List String) (request : ExecutionRequest D) (fields : ResultFields D) :
    Prop :=
  (∀ id ∈ request.entryClientOrderId, id ∉ accepted) ∨
    ∃ order ∈ fields.brokerOrder, value order.filledQuantity = 0

instance (accepted : List String) (request : ExecutionRequest D) (fields : ResultFields D) :
    Decidable (Unexposed accepted request fields) := by
  unfold Unexposed; infer_instance

/-! ### The three ways -/

/-- The request passes the checks as `command`, whose id no other command holds. -/
structure Sends (V : Derivations D) (request : ExecutionRequest D) (now : Timestamp)
    (held : Commands D) (command : BrokerOrderCommand D) : Prop where
  screened : screen V request now = .ok (.inr command)
  stored : ∀ existing, held.lookup command.clientOrderId = some existing →
    existing.numeric = command.numeric

/-- The broker does not have the command and declines it for good. -/
structure Declines (B : Broker β D) (command : BrokerOrderCommand D) (b b' : β) : Prop where
  answers : ∃ b₁, B.getOrderByClientOrderId command.clientOrderId b = (.error .brokerNotFound, b₁) ∧
    B.submitOrder command b₁ = (.error (.brokerTransportError false), b')

/-- The order the broker reports for a command: found, placed, or found after a
submission of unknown outcome. -/
inductive Reports (B : Broker β D) (command : BrokerOrderCommand D) (b : β) :
    BrokerOrderSnapshot D → β → Prop
  | found {order : BrokerOrderSnapshot D} {b₁ : β}
      (lookup : B.getOrderByClientOrderId command.clientOrderId b = (.ok order, b₁)) :
    Reports B command b order b₁
  | placed {order : BrokerOrderSnapshot D} {b₁ b₂ : β}
      (lookup : B.getOrderByClientOrderId command.clientOrderId b = (.error .brokerNotFound, b₁))
      (submit : B.submitOrder command b₁ = (.ok order, b₂)) :
    Reports B command b order b₂
  | recovered {order : BrokerOrderSnapshot D} {b₁ b₂ b₃ : β}
      (lookup : B.getOrderByClientOrderId command.clientOrderId b = (.error .brokerNotFound, b₁))
      (submit : B.submitOrder command b₁ = (.error (.brokerTransportError true), b₂))
      (again : B.getOrderByClientOrderId command.clientOrderId b₂ = (.ok order, b₃)) :
    Reports B command b order b₃

/-- The broker's answers determine the order it reports and the broker it leaves. -/
theorem Reports.unique {b b₁ b₂ : β} {order' : BrokerOrderSnapshot D}
    (h : Reports B command b order b₁) (h' : Reports B command b order' b₂) :
    order = order' ∧ b₁ = b₂ := by
  have hSame {answer answer' : Result (BrokerOrderSnapshot D) × β}
      (hOrder : answer = (.ok order, b₁)) (hOrder' : answer' = (.ok order', b₂))
      (hAnswer : answer = answer') : order = order' ∧ b₁ = b₂ := by
    obtain ⟨hOk, hBroker⟩ := Prod.mk.inj (hOrder.symm.trans (hAnswer.trans hOrder'))
    exact ⟨Except.ok.inj hOk, hBroker⟩
  cases h with
  | found lookup =>
    cases h' with
    | found lookup' => exact hSame lookup lookup' rfl
    | placed lookup' _ => cases (Prod.mk.inj (lookup.symm.trans lookup')).1
    | recovered lookup' _ _ => cases (Prod.mk.inj (lookup.symm.trans lookup')).1
  | placed lookup submit =>
    cases h' with
    | found lookup' => cases (Prod.mk.inj (lookup.symm.trans lookup')).1
    | placed lookup' submit' =>
      obtain ⟨-, rfl⟩ := Prod.mk.inj (lookup.symm.trans lookup')
      exact hSame submit submit' rfl
    | recovered lookup' submit' _ =>
      obtain ⟨-, rfl⟩ := Prod.mk.inj (lookup.symm.trans lookup')
      cases (Prod.mk.inj (submit.symm.trans submit')).1
  | recovered lookup submit again =>
    cases h' with
    | found lookup' => cases (Prod.mk.inj (lookup.symm.trans lookup')).1
    | placed lookup' submit' =>
      obtain ⟨-, rfl⟩ := Prod.mk.inj (lookup.symm.trans lookup')
      cases (Prod.mk.inj (submit.symm.trans submit')).1
    | recovered lookup' submit' again' =>
      obtain ⟨-, rfl⟩ := Prod.mk.inj (lookup.symm.trans lookup')
      obtain ⟨-, rfl⟩ := Prod.mk.inj (submit.symm.trans submit')
      exact hSame again again' rfl

theorem Reports.order_eq {b b₁ b₂ : β} {order' : BrokerOrderSnapshot D}
    (h : Reports B command b order b₁) (h' : Reports B command b order' b₂) : order = order' :=
  (h.unique h').1

/-- What makes `submit` reject, with the order it reports and the broker it leaves. -/
inductive Rejection (V : Derivations D) (B : Broker β D) (request : ExecutionRequest D)
    (now : Timestamp) (held : Commands D) (b : β) : Option (BrokerOrderSnapshot D) → β → Prop
  | refused {reason : ExecutionRejectionCode}
      (screened : screen V request now = .ok (.inl reason)) :
    Rejection V B request now held b none b
  | declined {command : BrokerOrderCommand D} {b' : β} (sends : Sends V request now held command)
      (declines : Declines B command b b') : Rejection V B request now held b none b'
  | ended {command : BrokerOrderCommand D} {order : BrokerOrderSnapshot D} {b' : β}
      (sends : Sends V request now held command) (reports : Reports B command b order b')
      (matched : Matches command order) (ended : terminalRejection order = true) :
    Rejection V B request now held b (some order) b'

/-! ### They are what `submit` rejects -/

theorem rejects_refused {reason : ExecutionRejectionCode}
    {command : Option (BrokerOrderCommand D)} {order : Option (BrokerOrderSnapshot D)} :
    Rejects (refused reason command order) := ⟨rfl, rfl⟩

theorem not_rejects_unresolved {reason : ExecutionRejectionCode}
    {order : Option (BrokerOrderSnapshot D)} : ¬ Rejects (unresolved reason command order) := by
  intro h
  cases h.2

theorem HandleRun.not_rejects
    (h : HandleRun V request update held claims calls held' claims' (.ok res)) :
    ¬ Rejects res.toResultFields := by
  intro hRejects
  have hOutcome := hRejects.1
  obtain ⟨-, hFields⟩ | ⟨_, -, ⟨-, hFields⟩ | ⟨-, hProtection⟩⟩ := h.returned
  · rw [hFields] at hOutcome
    cases hOutcome
  · rw [hFields] at hOutcome
    cases hOutcome
  · generalize res.toResultFields = fields at hOutcome hProtection
    cases hProtection <;> cases hOutcome

/-- An acknowledged order is rejected when it matches and has ended, and only then. -/
theorem AcknowledgeRun.rejects_iff (hSuccess : success ≠ .rejected)
    (h : AcknowledgeRun V request command order success held claims calls held' claims' (.ok res)) :
    (Rejects res.toResultFields ↔ Matches command order ∧ terminalRejection order = true) ∧
      (Rejects res.toResultFields → calls = [] ∧ res.brokerOrder = some order) := by
  -- On every path but the terminal one neither side holds.
  have hOther (hNot : ¬ Rejects res.toResultFields)
      (hOpen : ¬ (Matches command order ∧ terminalRejection order = true)) :
      (Rejects res.toResultFields ↔ Matches command order ∧ terminalRejection order = true) ∧
        (Rejects res.toResultFields → calls = [] ∧ res.brokerOrder = some order) :=
    ⟨iff_of_false hNot hOpen, fun hRejects => absurd hRejects hNot⟩
  cases h with
  | mismatched differs yields =>
    apply hOther
    · rw [yields.fields_eq]
      exact not_rejects_unresolved
    · intro hEnds
      exact differs hEnds.1
  | terminal matched ended yields =>
    rw [yields.fields_eq]
    exact ⟨iff_of_true rejects_refused ⟨matched, ended⟩, fun _ => ⟨rfl, rfl⟩⟩
  | suspended _ active _ yields =>
    apply hOther
    · rw [yields.fields_eq]
      exact not_rejects_unresolved
    · simp [active]
  | handles _ active _ _ run =>
    apply hOther run.not_rejects
    simp [active]
  | settled _ active _ _ yields =>
    apply hOther
    · rw [yields.fields_eq]
      intro hRejects
      exact hSuccess hRejects.1
    · simp [active]

theorem Sends.command_eq {command' : BrokerOrderCommand D} (h : Sends V request now held command)
    (h' : screen V request now = .ok (.inr command')) :
    command = command' :=
  Sum.inr.inj (Except.ok.inj (h.screened.symm.trans h'))

/-- A run whose command passes and is found acknowledges the order found. -/
theorem SubmitRun.of_found {b b₁ b' : β}
    (h : SubmitRun V request now held claims calls held' claims' (.ok res))
    (hPerforms : B.Performs calls b b') (hSends : Sends V request now held command)
    (hFound : B.getOrderByClientOrderId command.clientOrderId b = (.ok order, b₁)) :
    ∃ held₁ rest, Saves held command held₁ ∧ AcknowledgeRun V request command order
      .existingReconciled held₁ claims rest held' claims' (.ok res) ∧ B.Performs rest b₁ b' := by
  cases h with
  | refused screened => cases Except.ok.inj (hSends.screened.symm.trans screened)
  | conflict screened stored differs =>
    obtain rfl := hSends.command_eq screened
    exact absurd (hSends.stored _ stored) differs
  | lookupFails screened _ known =>
    obtain rfl := hSends.command_eq screened
    obtain ⟨_, hLookup, -⟩ := hPerforms
    cases (Prod.mk.inj (hFound.symm.trans hLookup)).1
  | found screened saved run =>
    obtain rfl := hSends.command_eq screened
    obtain ⟨_, hLookup, hRest⟩ := hPerforms
    obtain ⟨hOrder, rfl⟩ := Prod.mk.inj (hFound.symm.trans hLookup)
    obtain rfl := Except.ok.inj hOrder
    exact ⟨_, _, saved, run, hRest⟩
  | sends screened saved run =>
    obtain rfl := hSends.command_eq screened
    obtain ⟨_, hLookup, -⟩ := hPerforms
    cases (Prod.mk.inj (hFound.symm.trans hLookup)).1

/-- A run whose command passes and is not found sends it. -/
theorem SubmitRun.of_notFound {b b₁ b' : β}
    (h : SubmitRun V request now held claims calls held' claims' (.ok res))
    (hPerforms : B.Performs calls b b') (hSends : Sends V request now held command)
    (hMissing : B.getOrderByClientOrderId command.clientOrderId b = (.error .brokerNotFound, b₁)) :
    ∃ held₁ rest, Saves held command held₁ ∧
      SendRun V request command held₁ claims rest held' claims' (.ok res) ∧
      B.Performs rest b₁ b' := by
  cases h with
  | refused screened => cases Except.ok.inj (hSends.screened.symm.trans screened)
  | conflict screened stored differs =>
    obtain rfl := hSends.command_eq screened
    exact absurd (hSends.stored _ stored) differs
  | lookupFails screened _ known =>
    obtain rfl := hSends.command_eq screened
    obtain ⟨_, hLookup, -⟩ := hPerforms
    have hError := Except.error.inj (Prod.mk.inj (hLookup.symm.trans hMissing)).1
    exact absurd hError known
  | found screened saved run =>
    obtain rfl := hSends.command_eq screened
    obtain ⟨_, hLookup, -⟩ := hPerforms
    cases (Prod.mk.inj (hMissing.symm.trans hLookup)).1
  | sends screened saved run =>
    obtain rfl := hSends.command_eq screened
    obtain ⟨_, hLookup, hRest⟩ := hPerforms
    obtain ⟨-, rfl⟩ := Prod.mk.inj (hMissing.symm.trans hLookup)
    exact ⟨_, _, saved, run, hRest⟩

/-- A run whose command passes and whose order the broker reports acknowledges it. -/
theorem SubmitRun.acknowledges {b b₁ b' : β}
    (h : SubmitRun V request now held claims calls held' claims' (.ok res))
    (hPerforms : B.Performs calls b b') (hSends : Sends V request now held command)
    (hReports : Reports B command b order b₁) :
    ∃ success ≠ .rejected, ∃ held₁ rest, Saves held command held₁ ∧ AcknowledgeRun V request command
      order success held₁ claims rest held' claims' (.ok res) ∧ B.Performs rest b₁ b' := by
  cases hReports with
  | found lookup =>
    obtain ⟨_, _, hSaved, hRun, hRest⟩ := h.of_found hPerforms hSends lookup
    exact ⟨_, by simp, _, _, hSaved, hRun, hRest⟩
  | placed lookup submit =>
    obtain ⟨_, _, hSaved, hRun, hRest⟩ := h.of_notFound hPerforms hSends lookup
    cases hRun with
    | acknowledged run =>
      obtain ⟨_, hSubmit, hRest⟩ := hRest
      obtain ⟨hOrder, rfl⟩ := Prod.mk.inj (submit.symm.trans hSubmit)
      obtain rfl := Except.ok.inj hOrder
      exact ⟨_, by simp, _, _, hSaved, run, hRest⟩
    | permanent => cases (Prod.mk.inj (submit.symm.trans hRest.choose_spec.1)).1
    | found => cases (Prod.mk.inj (submit.symm.trans hRest.choose_spec.1)).1
    | ambiguous => cases (Prod.mk.inj (submit.symm.trans hRest.choose_spec.1)).1
  | recovered lookup submit again =>
    obtain ⟨_, _, hSaved, hRun, hRest⟩ := h.of_notFound hPerforms hSends lookup
    cases hRun with
    | acknowledged => cases (Prod.mk.inj (submit.symm.trans hRest.choose_spec.1)).1
    | permanent => cases (Prod.mk.inj (submit.symm.trans hRest.choose_spec.1)).1
    | found run =>
      obtain ⟨_, hSubmit, _, hAgain, hRest⟩ := hRest
      obtain ⟨-, rfl⟩ := Prod.mk.inj (submit.symm.trans hSubmit)
      obtain ⟨hOrder, rfl⟩ := Prod.mk.inj (again.symm.trans hAgain)
      obtain rfl := Except.ok.inj hOrder
      exact ⟨_, by simp, _, _, hSaved, run, hRest⟩
    | ambiguous =>
      obtain ⟨_, hSubmit, _, hAgain, -⟩ := hRest
      obtain ⟨-, rfl⟩ := Prod.mk.inj (submit.symm.trans hSubmit)
      cases (Prod.mk.inj (again.symm.trans hAgain)).1

/-- A declined submission is the end of the run. -/
theorem SubmitRun.declines {b b₁ b' : β}
    (h : SubmitRun V request now held claims calls held' claims' (.ok res))
    (hPerforms : B.Performs calls b b') (hSends : Sends V request now held command)
    (hDeclines : Declines B command b b₁) :
    res.toResultFields = Execution.refused .brokerRejected (some command) none ∧ b' = b₁ := by
  obtain ⟨_, lookup, submit⟩ := hDeclines
  obtain ⟨_, _, -, hRun, hRest⟩ := h.of_notFound hPerforms hSends lookup
  cases hRun with
  | acknowledged => cases (Prod.mk.inj (submit.symm.trans hRest.choose_spec.1)).1
  | permanent yields =>
    obtain ⟨_, hSubmit, rfl⟩ := hRest
    exact ⟨yields.fields_eq, (Prod.mk.inj (hSubmit.symm.trans submit)).2⟩
  | found => cases (Prod.mk.inj (submit.symm.trans hRest.choose_spec.1)).1
  | ambiguous => cases (Prod.mk.inj (submit.symm.trans hRest.choose_spec.1)).1

/-- Each of the three ways makes the run reject, with the order and the broker it names. -/
theorem SubmitRun.of_rejection {order : Option (BrokerOrderSnapshot D)} {b b₁ b' : β}
    (h : SubmitRun V request now held claims calls held' claims' (.ok res))
    (hPerforms : B.Performs calls b b') (hRejection : Rejection V B request now held b order b₁) :
    Rejects res.toResultFields ∧ res.brokerOrder = order ∧ b' = b₁ := by
  cases hRejection with
  | refused screened =>
    cases h with
    | refused _ yields =>
      obtain rfl := hPerforms
      rw [yields.fields_eq]
      exact ⟨rejects_refused, rfl, rfl⟩
    | conflict screened' => cases Except.ok.inj (screened.symm.trans screened')
    | lookupFails screened' => cases Except.ok.inj (screened.symm.trans screened')
    | found screened' => cases Except.ok.inj (screened.symm.trans screened')
    | sends screened' => cases Except.ok.inj (screened.symm.trans screened')
  | declined sends declines =>
    obtain ⟨hFields, rfl⟩ := h.declines hPerforms sends declines
    rw [hFields]
    exact ⟨rejects_refused, rfl, rfl⟩
  | ended sends reports matched ended =>
    obtain ⟨success, hSuccess, _, rest, -, hRun, hRest⟩ := h.acknowledges hPerforms sends reports
    obtain ⟨hIff, hEnd⟩ := hRun.rejects_iff hSuccess
    have hRejects := hIff.mpr ⟨matched, ended⟩
    obtain ⟨rfl, hOrder⟩ := hEnd hRejects
    exact ⟨hRejects, hOrder, hRest⟩

/-- An acknowledged order that is rejected was reported, matches, and has ended. -/
theorem AcknowledgeRun.rejection {held₀ : Commands D} {b b₁ b' : β} (hSuccess : success ≠ .rejected)
    (h : AcknowledgeRun V request command order success held claims calls held' claims' (.ok res))
    (hSends : Sends V request now held₀ command) (hReports : Reports B command b order b₁)
    (hPerforms : B.Performs calls b₁ b') (hRejects : Rejects res.toResultFields) :
    Rejection V B request now held₀ b res.brokerOrder b' := by
  obtain ⟨hIff, hEnd⟩ := h.rejects_iff hSuccess
  obtain ⟨rfl, hOrder⟩ := hEnd hRejects
  obtain ⟨hMatched, hEnded⟩ := hIff.mp hRejects
  obtain rfl := hPerforms
  rw [hOrder]
  exact .ended hSends hReports hMatched hEnded

/-- A run that rejects does so in one of the three ways. -/
theorem SubmitRun.rejection {b b' : β}
    (h : SubmitRun V request now held claims calls held' claims' (.ok res))
    (hPerforms : B.Performs calls b b') (hRejects : Rejects res.toResultFields) :
    Rejection V B request now held b res.brokerOrder b' := by
  cases h with
  | refused screened yields =>
    obtain rfl := hPerforms
    rw [yields.fields_eq]
    exact .refused screened
  | conflict _ _ _ yields => exact absurd (yields.fields_eq ▸ hRejects) not_rejects_unresolved
  | lookupFails _ _ _ ends =>
    obtain hError | hYields := ends
    · cases hError
    · exact absurd (hYields.fields_eq ▸ hRejects) not_rejects_unresolved
  | found screened saved run =>
    obtain ⟨_, hLookup, hRest⟩ := hPerforms
    exact run.rejection (by simp) ⟨screened, saved.same⟩ (.found hLookup) hRest hRejects
  | sends screened saved run =>
    obtain ⟨_, hLookup, hRest⟩ := hPerforms
    cases run with
    | acknowledged run =>
      obtain ⟨_, hSubmit, hRest⟩ := hRest
      exact run.rejection (by simp) ⟨screened, saved.same⟩ (.placed hLookup hSubmit) hRest hRejects
    | permanent yields =>
      obtain ⟨_, hSubmit, rfl⟩ := hRest
      rw [yields.fields_eq]
      exact .declined ⟨screened, saved.same⟩ ⟨_, hLookup, hSubmit⟩
    | found run =>
      obtain ⟨_, hSubmit, _, hAgain, hRest⟩ := hRest
      exact run.rejection (by simp) ⟨screened, saved.same⟩ (.recovered hLookup hSubmit hAgain) hRest
        hRejects
    | ambiguous _ yields => exact absurd (yields.fields_eq ▸ hRejects) not_rejects_unresolved

/-! ### When a rejection leaves no exposure -/

/-- A refused request left no order behind earlier, a declined command was not
accepted, and a matching order that has ended was never filled. -/
structure ExposureFree (V : Derivations D) (B : Broker β D) (accepted : β → List String)
    (request : ExecutionRequest D) (now : Timestamp) (w : World β D) : Prop where
  refused : ∀ reason, screen V request now = .ok (.inl reason) →
    ∀ id ∈ request.entryClientOrderId, id ∉ accepted w.broker
  declined : ∀ command, Sends V request now w.repository.commands command →
    ∀ b, Declines B command w.broker b → command.clientOrderId ∉ accepted b
  ended : ∀ command, Sends V request now w.repository.commands command →
    ∀ order b, Reports B command w.broker order b → Matches command order →
      terminalRejection order = true →
      value order.filledQuantity = 0 ∨ command.clientOrderId ∉ accepted b

theorem Sends.entryClientOrderId (h : Sends V request now held command) :
    request.entryClientOrderId = some command.clientOrderId := by
  obtain ⟨reservation, hReservation, hId, -⟩ := buildEntryCommand_eq_ok (screen_buys h.screened)
  rw [ExecutionRequest.entryClientOrderId, hReservation, hId]
  rfl

/-- A returned rejection leaves no exposure exactly when its condition holds. -/
theorem rejection_unexposed_iff (V : Derivations D) (B : Broker β D) (accepted : β → List String)
    (request : ExecutionRequest D) (now : Timestamp) (w w' : World β D) (res : ExecutionResult D)
    (h : (submit V B request now).exec w = (.ok res, w')) :
    (Rejects res.toResultFields → Unexposed (accepted w'.broker) request res.toResultFields) ↔
      ExposureFree V B accepted request now w := by
  obtain ⟨calls, _, _, hRun, hAdv⟩ := submit_run h
  constructor
  · intro hUnexposed
    -- What the run rejected with, read off the way it went.
    have hLeaves {order : Option (BrokerOrderSnapshot D)} {b : β}
        (hRejection : Rejection V B request now w.repository.commands w.broker order b) :
        (∀ id ∈ request.entryClientOrderId, id ∉ accepted b) ∨
          ∃ o ∈ order, value o.filledQuantity = 0 := by
      obtain ⟨hRejects, rfl, rfl⟩ := hRun.of_rejection hAdv.performs hRejection
      exact hUnexposed hRejects
    refine ⟨fun reason hScreened => ?_, fun command hSends b hDeclines => ?_,
      fun command hSends order b hReports hMatched hEnded => ?_⟩
    · simpa using hLeaves (.refused hScreened)
    · simpa [hSends.entryClientOrderId] using hLeaves (.declined hSends hDeclines)
    · simpa [hSends.entryClientOrderId, or_comm] using
        hLeaves (.ended hSends hReports hMatched hEnded)
  · intro hFree hRejects
    have hRejection := hRun.rejection hAdv.performs hRejects
    unfold Unexposed
    generalize res.brokerOrder = order, w'.broker = b at hRejection ⊢
    cases hRejection with
    | refused screened => exact .inl (hFree.refused _ screened)
    | declined sends declines =>
      simpa [sends.entryClientOrderId] using hFree.declined _ sends _ declines
    | ended sends reports matched ended =>
      simpa [sends.entryClientOrderId, or_comm] using
        hFree.ended _ sends _ _ reports matched ended

/-- The sample entry, canceled before it bought a share. -/
def canceledUnfilled : BrokerOrderSnapshot Decimal :=
  ⟨snapshotFields sampleEntry .canceled 0 "broker-order-1", by decide +kernel⟩

theorem canceledUnfilled_exposureFree :
    ∃ res w, (submit sampleDerivations (ledger Decimal true) sampleExecution
        sampleExecution.requestedAt).exec (.initial [canceledUnfilled]) = (.ok res, w) ∧
      Rejects res.toResultFields ∧ ExposureFree sampleDerivations (ledger Decimal true) acceptedIds
        sampleExecution sampleExecution.requestedAt (.initial [canceledUnfilled]) := by
  let run := (submit sampleDerivations (ledger Decimal true) sampleExecution
    sampleExecution.requestedAt).exec (.initial [canceledUnfilled])
  have hOk : ∃ res, run.1 = .ok res ∧ Rejects res.toResultFields ∧
      Unexposed (acceptedIds run.2.broker) sampleExecution res.toResultFields := by
    decide +kernel
  obtain ⟨res, h, hRejects, hUnexposed⟩ := hOk
  exact ⟨res, _, Prod.ext h rfl, hRejects, (rejection_unexposed_iff _ _ acceptedIds _ _ _ _ res
    (Prod.ext h rfl)).mp fun _ => hUnexposed⟩

/-- Forty of its 107 shares were bought before it was canceled. -/
def canceledPartialFill : BrokerOrderSnapshot Decimal :=
  ⟨snapshotFields sampleEntry .canceled 40 "broker-order-1", by decide +kernel⟩

theorem canceledPartialFill_exposed :
    ∃ res w, (submit sampleDerivations (ledger Decimal true) sampleExecution
        sampleExecution.requestedAt).exec (.initial [canceledPartialFill]) = (.ok res, w) ∧
      Rejects res.toResultFields ∧
      ¬ Unexposed (acceptedIds w.broker) sampleExecution res.toResultFields := by
  let run := (submit sampleDerivations (ledger Decimal true) sampleExecution
    sampleExecution.requestedAt).exec (.initial [canceledPartialFill])
  have hOk : ∃ res, run.1 = .ok res ∧ Rejects res.toResultFields ∧
      ¬ Unexposed (acceptedIds run.2.broker) sampleExecution res.toResultFields := by
    decide +kernel
  obtain ⟨res, h, hRejects, hExposed⟩ := hOk
  exact ⟨res, _, Prod.ext h rfl, hRejects, hExposed⟩

end Daybreak.Execution
