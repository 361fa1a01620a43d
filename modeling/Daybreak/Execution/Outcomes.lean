import Daybreak.Execution.Submission

/-! What a returned result reports. An update that starts a protection reports
the order the broker confirms for its command; every other update of a stored
command is reported as it came. A success of `submit` is always verified, and a
success of `handleTradeUpdate` exactly when the update itself was. -/

namespace Daybreak.Execution

open Numeric DecimalArithmetic Effect Risk

variable {β D : Type} [DecimalArithmetic D]

variable {V : Derivations D} {request : ExecutionRequest D} {update : TradeUpdate D}
  {now : Timestamp} {command : BrokerOrderCommand D} {order : BrokerOrderSnapshot D}
  {success : ExecutionOutcome} {held held' : Commands D} {claims claims' : Claims}
  {calls : List (BrokerCall D)} {res : ExecutionResult D}

/-! ### Returned results -/

theorem Yields.fields_eq {fields : ResultFields D} (h : Yields request fields (.ok res)) :
    res.toResultFields = fields :=
  (h res rfl).1

/-- The update is new and shows a partial fill to protect. -/
def Triggers (claims : Claims) (request : ExecutionRequest D) (update : TradeUpdate D) : Prop :=
  claims.lookup update.eventId = none ∧ NeedsProtection request update.order

instance (claims : Claims) (request : ExecutionRequest D) (update : TradeUpdate D) :
    Decidable (Triggers claims request update) := by
  unfold Triggers; infer_instance

/-- What a returned protection of `order` reports. -/
inductive Protection (command : BrokerOrderCommand D) (order : BrokerOrderSnapshot D) :
    ResultFields D → Prop
  | filled {parent : BrokerOrderSnapshot D} (matched : Matches command parent) :
    Protection command order (reported .existingReconciled command parent)
  | placed (parent stop : BrokerOrderSnapshot D) :
    Protection command order (protectedFill command parent stop)
  | failed : Protection command order
      (unresolved .partialFillProtectionFailed command (some order))

theorem ProtectRun.returned {id : String}
    (h : ProtectRun V request id command held calls held' (.ok res)) :
    Protection command order res.toResultFields := by
  cases h with
  | filled _ matched yields => exact yields.fields_eq ▸ .filled matched
  | sends _ _ _ _ stop =>
    cases stop with
    | placed _ _ yields => exact yields.fields_eq ▸ .placed _ _

/-- The three kinds of result of a trade update. -/
theorem HandleRun.returned
    (h : HandleRun V request update held claims calls held' claims' (.ok res)) :
    (held.lookup update.order.clientOrderId = none ∧
        res.toResultFields = unknownCommand update.order) ∨
      ∃ command, held.lookup update.order.clientOrderId = some command ∧
        ((¬ Triggers claims request update ∧
            res.toResultFields = reported .existingReconciled command update.order) ∨
          (Triggers claims request update ∧
            Protection command update.order res.toResultFields)) := by
  cases h with
  | unknownAgain _ stored yields => exact .inl ⟨stored, yields.fields_eq⟩
  | unknown _ stored yields => exact .inl ⟨stored, yields.fields_eq⟩
  | redelivered known stored yields =>
    have hOld : ¬ Triggers claims request update := by
      intro hTriggers
      rw [hTriggers.1] at known
      cases known
    exact .inr ⟨_, stored, .inl ⟨hOld, yields.fields_eq⟩⟩
  | passed _ stored settled yields =>
    exact .inr ⟨_, stored, .inl ⟨fun hTriggers => settled hTriggers.2, yields.fields_eq⟩⟩
  | protects fresh stored needed run ends =>
    refine .inr ⟨_, stored, .inr ⟨⟨fresh, needed⟩, ?_⟩⟩
    obtain rfl | ⟨_, -, hYields⟩ := ends
    · exact run.returned
    · exact hYields.fields_eq ▸ .failed

/-! ### Verified successes -/

/-- A success that leaves nothing to reconcile. -/
def Succeeds (fields : ResultFields D) : Prop :=
  fields.outcome ∈ [.submitted, .existingReconciled] ∧ fields.reconciliationRequired = false

instance (fields : ResultFields D) : Decidable (Succeeds fields) := by
  unfold Succeeds; infer_instance

/-- The reported order is the one the command asked for. -/
def Verified (fields : ResultFields D) : Prop :=
  ∃ command ∈ fields.command, ∃ order ∈ fields.brokerOrder, Matches command order

instance (fields : ResultFields D) : Decidable (Verified fields) := by
  unfold Verified; infer_instance

theorem not_succeeds_refused {reason : ExecutionRejectionCode}
    {command : Option (BrokerOrderCommand D)} {order : Option (BrokerOrderSnapshot D)} :
    ¬ Succeeds (refused reason command order) := by
  simp [Succeeds, refused]

theorem not_succeeds_unresolved {reason : ExecutionRejectionCode}
    {order : Option (BrokerOrderSnapshot D)} : ¬ Succeeds (unresolved reason command order) := by
  simp [Succeeds, unresolved]

theorem verified_reported_iff {outcome : ExecutionOutcome} :
    Verified (reported outcome command order) ↔ Matches command order := by
  simp [Verified, reported]

theorem Protection.verified {fields : ResultFields D} (h : Protection command order fields)
    (hSuccess : Succeeds fields) :
    Verified fields := by
  cases h with
  | filled matched => exact verified_reported_iff.mpr matched
  | placed => cases hSuccess.2
  | failed => exact absurd hSuccess not_succeeds_unresolved

/-- A handled update is verified by the protection it starts, or by itself. -/
def UpdateVerified (request : ExecutionRequest D) (update : TradeUpdate D) (held : Commands D)
    (claims : Claims) : Prop :=
  ∀ command, held.lookup update.order.clientOrderId = some command →
    Triggers claims request update ∨ Matches command update.order

theorem HandleRun.verified_iff
    (h : HandleRun V request update held claims calls held' claims' (.ok res)) :
    (Succeeds res.toResultFields → Verified res.toResultFields) ↔
      UpdateVerified request update held claims := by
  obtain ⟨hNone, hFields⟩ | ⟨command, hStored, ⟨hPassed, hFields⟩ | ⟨hTriggers, hProtection⟩⟩ :=
    h.returned
  · rw [hFields]
    constructor
    · intro _ command hSome
      rw [hNone] at hSome
      cases hSome
    · intro _ hSuccess
      cases hSuccess.2
  · rw [hFields]
    constructor
    · intro hVerified command' hSome
      obtain rfl := Option.some.inj (hStored.symm.trans hSome)
      exact .inr (verified_reported_iff.mp (hVerified ⟨by simp [reported], rfl⟩))
    · intro hUpdate _
      obtain hTriggers | hMatches := hUpdate command hStored
      · exact absurd hTriggers hPassed
      · exact verified_reported_iff.mpr hMatches
  · constructor
    · intro _ command' hSome
      exact .inl hTriggers
    · intro _ hSuccess
      exact hProtection.verified hSuccess

/-- An order is acknowledged after the match check; a nested update of it finds
the command that was saved, which Python finds equal. -/
theorem AcknowledgeRun.verified {old : Commands D} (hSaved : Saves old command held)
    (h : AcknowledgeRun V request command order success held claims calls held' claims' (.ok res))
    (hSuccess : Succeeds res.toResultFields) : Verified res.toResultFields := by
  cases h with
  | mismatched _ yields =>
    exact absurd (yields.fields_eq ▸ hSuccess) not_succeeds_unresolved
  | terminal _ _ yields =>
    exact absurd (yields.fields_eq ▸ hSuccess) not_succeeds_refused
  | suspended _ _ _ yields =>
    exact absurd (yields.fields_eq ▸ hSuccess) not_succeeds_unresolved
  | handles matched _ _ _ run =>
    have hUpdate : UpdateVerified request (initialUpdate order) held claims := by
      intro stored hStored
      obtain ⟨saved, hLookup, hNumeric⟩ := hSaved.lookup
      rw [matched.1.1] at hLookup
      have hSame : saved = stored := Option.some.inj (hLookup.symm.trans hStored)
      rw [hSame] at hNumeric
      exact .inr ((matches_congr hNumeric order).mpr matched)
    exact run.verified_iff.mpr hUpdate hSuccess
  | settled matched _ _ _ yields =>
    rw [yields.fields_eq]
    exact verified_reported_iff.mpr matched

theorem SubmitRun.verified (h : SubmitRun V request now held claims calls held' claims' (.ok res))
    (hSuccess : Succeeds res.toResultFields) : Verified res.toResultFields := by
  cases h with
  | refused _ yields =>
    exact absurd (yields.fields_eq ▸ hSuccess) not_succeeds_refused
  | conflict _ _ _ yields =>
    exact absurd (yields.fields_eq ▸ hSuccess) not_succeeds_unresolved
  | lookupFails _ _ _ ends =>
    obtain hError | hYields := ends
    · cases hError
    · exact absurd (hYields.fields_eq ▸ hSuccess) not_succeeds_unresolved
  | found _ saved run => exact run.verified saved hSuccess
  | sends _ saved run =>
    cases run with
    | acknowledged run => exact run.verified saved hSuccess
    | permanent yields =>
      exact absurd (yields.fields_eq ▸ hSuccess) not_succeeds_refused
    | found run => exact run.verified saved hSuccess
    | ambiguous e yields =>
      exact absurd (yields.fields_eq ▸ hSuccess) not_succeeds_unresolved

/-- When a success of the call is sure to be verified. -/
def ServiceCall.Verifies (w : World β D) : ServiceCall D → Prop
  | .submit _ _ => True
  | .handleTradeUpdate request update =>
    UpdateVerified request update w.repository.commands w.repository.tradeUpdateIds

theorem success_verified_iff (V : Derivations D) (B : Broker β D) (call : ServiceCall D)
    (w w' : World β D) (res : ExecutionResult D) (h : (call.run V B).exec w = (.ok res, w')) :
    (Succeeds res.toResultFields → Verified res.toResultFields) ↔ call.Verifies w := by
  cases call with
  | submit request now =>
    obtain ⟨_, _, _, hRun, -⟩ := submit_run h
    exact iff_of_true hRun.verified trivial
  | handleTradeUpdate request update =>
    obtain ⟨_, _, _, hRun, -⟩ := handleTradeUpdate_run h
    exact hRun.verified_iff

theorem sampleExecution_verified :
    ∃ res w, ((ServiceCall.submit sampleExecution sampleExecution.requestedAt).run
        sampleDerivations (ledger Decimal true)).exec (.initial []) = (.ok res, w) ∧
      res.outcome = .submitted ∧ Verified res.toResultFields := by
  have hOk : ∃ res, (((ServiceCall.submit sampleExecution sampleExecution.requestedAt).run
      sampleDerivations (ledger Decimal true)).exec (.initial [])).1 = .ok res ∧
      res.outcome = .submitted ∧ Succeeds res.toResultFields := by
    decide +kernel
  obtain ⟨res, h, hSubmitted, hSuccess⟩ := hOk
  exact ⟨res, _, Prod.ext h rfl, hSubmitted, (success_verified_iff sampleDerivations
    (ledger Decimal true) _ (.initial []) _ res (Prod.ext h rfl)).mpr trivial hSuccess⟩

/-- The sample entry was sent and is working. -/
def afterEntry : World (List (BrokerOrderSnapshot Decimal)) Decimal :=
  ((submit sampleDerivations (ledger Decimal true) sampleExecution
    sampleExecution.requestedAt).exec (.initial [])).2

/-- A fill of the sample entry that comes without the legs of its bracket. -/
def leglessFill : TradeUpdate Decimal where
  eventId := "update-1"
  event := "fill"
  eventTimestamp := 1785763802000000
  order := ⟨{ snapshotFields sampleEntry .filled 107 "broker-order-1" with legs := [] },
    by decide +kernel⟩
  rawEventHash := ""

theorem leglessFill_unverified :
    ∃ res w, ((ServiceCall.handleTradeUpdate sampleExecution leglessFill).run
        sampleDerivations (ledger Decimal true)).exec afterEntry = (.ok res, w) ∧
      Succeeds res.toResultFields ∧ ¬ Verified res.toResultFields := by
  have hOk : ∃ res, (((ServiceCall.handleTradeUpdate sampleExecution leglessFill).run
      sampleDerivations (ledger Decimal true)).exec afterEntry).1 = .ok res ∧
      Succeeds res.toResultFields ∧ ¬ Verified res.toResultFields := by
    decide +kernel
  obtain ⟨res, h, hSuccess, hUnverified⟩ := hOk
  exact ⟨res, _, Prod.ext h rfl, hSuccess, hUnverified⟩

end Daybreak.Execution
