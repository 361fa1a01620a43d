import Daybreak.Execution.Exposure

/-! Redelivered trade updates. An event id is claimed before its side effects and
stays claimed, so a call that finds it claimed starts no protection: an update of
a stored command is then reported as settled, whatever became of the first
attempt. Over any history, exactly the redeliveries named here still ask for
reconciliation. -/

namespace Daybreak.Execution

open Numeric DecimalArithmetic Effect Risk

variable {β D : Type} [DecimalArithmetic D]

variable {V : Derivations D} {B : Broker β D} {request : ExecutionRequest D}
  {update : TradeUpdate D} {now : Timestamp} {command : BrokerOrderCommand D}
  {order : BrokerOrderSnapshot D} {success : ExecutionOutcome} {held held' : Commands D}
  {claims claims' : Claims} {calls : List (BrokerCall D)} {r : Result (ExecutionResult D)}
  {res : ExecutionResult D} {eventId : String} {w w' : World β D}

/-! ### Claims -/

def Claimed (w : World β D) (eventId : String) : Prop := eventId ∈ w.repository.tradeUpdateIds

instance (w : World β D) (eventId : String) : Decidable (Claimed w eventId) := by
  unfold Claimed; infer_instance

theorem HandleRun.keeps_claims (h : HandleRun V request update held claims calls held' claims' r)
    (hClaimed : eventId ∈ claims) : eventId ∈ claims' := by
  cases h with
  | claimRefused => exact hClaimed
  | unknownAgain => exact hClaimed
  | redelivered => exact hClaimed
  | unknown => exact AList.mem_insert _ |>.mpr (.inr hClaimed)
  | passed => exact AList.mem_insert _ |>.mpr (.inr hClaimed)
  | protects => exact AList.mem_insert _ |>.mpr (.inr hClaimed)

theorem AcknowledgeRun.keeps_claims
    (h : AcknowledgeRun V request command order success held claims calls held' claims' r)
    (hClaimed : eventId ∈ claims) : eventId ∈ claims' := by
  cases h with
  | mismatched => exact hClaimed
  | terminal => exact hClaimed
  | suspended => exact hClaimed
  | handles _ _ _ _ run => exact run.keeps_claims hClaimed
  | settled => exact hClaimed

theorem SubmitRun.keeps_claims (h : SubmitRun V request now held claims calls held' claims' r)
    (hClaimed : eventId ∈ claims) : eventId ∈ claims' := by
  cases h with
  | raises => exact hClaimed
  | refused => exact hClaimed
  | conflict => exact hClaimed
  | lookupFails => exact hClaimed
  | found _ _ run => exact run.keeps_claims hClaimed
  | sends _ _ run =>
    cases run with
    | acknowledged run => exact run.keeps_claims hClaimed
    | permanent => exact hClaimed
    | submitRaises => exact hClaimed
    | found run => exact run.keeps_claims hClaimed
    | ambiguous => exact hClaimed
    | lookupRaises => exact hClaimed

/-- A claimed event id stays claimed, whatever the call and however it ends. -/
theorem ServiceCall.keeps_claimed (call : ServiceCall D) (h : (call.run V B).exec w = (r, w'))
    (hClaimed : Claimed w eventId) : Claimed w' eventId := by
  cases call with
  | submit request now =>
    obtain ⟨_, _, _, hRun, hAdv⟩ := submit_run h
    rw [Claimed, hAdv.claims]
    exact hRun.keeps_claims hClaimed
  | handleTradeUpdate request update =>
    obtain ⟨_, _, _, hRun, hAdv⟩ := handleTradeUpdate_run h
    rw [Claimed, hAdv.claims]
    exact hRun.keeps_claims hClaimed

/-! ### Redelivery of one event -/

abbrev Record (β D : Type) [DecimalArithmetic D] :=
  Performed (ServiceCall D) (World β D) PyError (ExecutionResult D)

/-- The call is given the update, or is the one that claims its event id. -/
def Processes (record : Record β D) (eventId : String) : Prop :=
  match record.call with
  | .submit _ _ => ¬ Claimed record.before eventId
  | .handleTradeUpdate _ update => update.eventId = eventId

/-- The update of the event is left claimed, and to be reconciled or raising. -/
structure Fails (record : Record β D) (eventId : String) : Prop where
  processes : Processes record eventId
  claimed : Claimed record.after eventId
  unresolved : ∀ res, record.outcome = .ok res → res.reconciliationRequired = true

theorem Fails.of_returned {record : Record β D} (hProcesses : Processes record eventId)
    (hClaimed : Claimed record.after eventId)
    (hReturned : ∃ res, record.outcome = .ok res ∧ res.reconciliationRequired = true) :
    Fails record eventId := by
  obtain ⟨res, hRes, hUnresolved⟩ := hReturned
  refine ⟨hProcesses, hClaimed, ?_⟩
  intro res' hRes'
  have hSame : res = res' := Except.ok.inj (hRes.symm.trans hRes')
  rw [← hSame]
  exact hUnresolved

/-- The event comes back: with an update, or with the order a lookup of `submit` finds. -/
def Redelivers (V : Derivations D) (B : Broker β D) (record : Record β D) (eventId : String) :
    Prop :=
  match record.call with
  | .submit request now => ∃ command order b,
      Sends V request now record.before.repository.commands command ∧
      Reports B command record.before.broker order b ∧ (initialUpdate order).eventId = eventId
  | .handleTradeUpdate _ update => update.eventId = eventId

/-- What makes a call that finds the event claimed ask for reconciliation: an update
of no stored command, or an order that differs from its command or is held up. -/
def StaysUnresolved (V : Derivations D) (B : Broker β D) (record : Record β D) : Prop :=
  match record.call with
  | .submit request now => ∀ command order b,
      Sends V request now record.before.repository.commands command →
      Reports B command record.before.broker order b →
      ¬ Matches command order ∨
        terminalRejection order = false ∧ brokerStateRequiresReconciliation order = true
  | .handleTradeUpdate _ update =>
    record.before.repository.commands.lookup update.order.clientOrderId = none

theorem HandleRun.claimed_unresolved_iff
    (h : HandleRun V request update held claims calls held' claims' (.ok res))
    (hClaimed : update.eventId ∈ claims) :
    res.reconciliationRequired = true ↔ held.lookup update.order.clientOrderId = none := by
  obtain ⟨hNone, hFields⟩ | ⟨command, hStored, ⟨-, hFields⟩ | ⟨hTriggers, -⟩⟩ := h.returned
  · rw [hFields]
    exact iff_of_true rfl hNone
  · rw [hFields, hStored]
    exact iff_of_false (by simp [reported]) (by simp)
  · exact absurd hClaimed (AList.lookup_eq_none.mp hTriggers.1)

theorem AcknowledgeRun.claimed_unresolved_iff {old : Commands D} (hSaved : Saves old command held)
    (h : AcknowledgeRun V request command order success held claims calls held' claims' (.ok res))
    (hClaimed : (initialUpdate order).eventId ∈ claims) :
    res.reconciliationRequired = true ↔ ¬ Matches command order ∨
      terminalRejection order = false ∧ brokerStateRequiresReconciliation order = true := by
  cases h with
  | mismatched differs yields =>
    rw [yields.fields_eq]
    exact iff_of_true rfl (.inl differs)
  | terminal matched ended yields =>
    rw [yields.fields_eq]
    simp [refused, matched, ended]
  | suspended _ active suspended yields =>
    rw [yields.fields_eq]
    exact iff_of_true rfl (.inr ⟨active, suspended⟩)
  | handles matched _ working _ run =>
    obtain ⟨stored, hLookup, -⟩ := hSaved.lookup
    rw [matched.1.1] at hLookup
    have hIff := run.claimed_unresolved_iff hClaimed
    rw [initialUpdate, hLookup] at hIff
    simp [hIff, matched, working]
  | settled matched _ working _ yields =>
    rw [yields.fields_eq]
    simp [reported, matched, working]

/-- What a call that returns asks for when it finds its event claimed. -/
theorem Redelivers.unresolved_iff {record : Record β D} (h : Redelivers V B record eventId)
    (hExec : (record.call.run V B).exec record.before = (.ok res, record.after))
    (hClaimed : Claimed record.before eventId) :
    res.reconciliationRequired = true ↔ StaysUnresolved V B record := by
  unfold Redelivers at h
  unfold StaysUnresolved
  split at h
  · next request now hCall =>
    rw [hCall] at hExec
    obtain ⟨command, order, b, hSends, hReports, rfl⟩ := h
    obtain ⟨_, _, _, hRun, hAdv⟩ := submit_run hExec
    obtain ⟨_, -, _, _, hSaved, hAck, -⟩ := hRun.acknowledges hAdv.performs hSends hReports
    rw [hAck.claimed_unresolved_iff hSaved hClaimed]
    constructor
    · intro hHeld command' order' b' hSends' hReports'
      obtain rfl := hSends.command_eq hSends'.screened
      obtain rfl := hReports.order_eq hReports'
      exact hHeld
    · intro hAll
      exact hAll command order b hSends hReports
  · next request update hCall =>
    rw [hCall] at hExec
    subst h
    obtain ⟨_, _, _, hRun, -⟩ := handleTradeUpdate_run hExec
    exact hRun.claimed_unresolved_iff hClaimed

/-! ### Histories -/

/-- A protective stop of the execution was acknowledged, or its entry was seen
completely filled, which activates the exits of the bracket. -/
def Protected (w : World β D) (request : ExecutionRequest D) : Prop :=
  (∃ event ∈ w.repository.listEvents request.executionId,
      event.eventType = .protectiveStopAcknowledged) ∨
    ∃ entry ∈ w.repository.snapshots.entries,
      request.entryClientOrderId = some entry.2.clientOrderId ∧ entry.2.status = .filled

instance (w : World β D) (request : ExecutionRequest D) : Decidable (Protected w request) := by
  unfold Protected; infer_instance

/-- A partial fill of the sample entry, 40 of its 107 shares. -/
def partialFill : TradeUpdate Decimal where
  eventId := "update-1"
  event := "partial_fill"
  eventTimestamp := 1785763802000000
  order := ⟨snapshotFields sampleEntry .partiallyFilled 40 "broker-order-1", by decide +kernel⟩
  rawEventHash := ""

end Daybreak.Execution
