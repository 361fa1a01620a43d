import Daybreak.Execution.Authority
import Daybreak.Risk.Batch
import Mathlib.Algebra.Order.BigOperators.Group.List

/-! The batch limits at the broker. Every order that buys restates an approved decision of the
batch and bears the id of its reservation, and the broker accepts an id once. So whatever is
retried, lost or delivered twice, the orders that the broker accepts for a batch stay within what
the batch reserved, and with it within the limits of the session. -/

namespace Daybreak.Execution

open Numeric DecimalArithmetic Effect Risk

/-! ### A broker that keeps what it accepts -/

section Broker

variable {β D : Type} [DecimalArithmetic D]

/-- The broker finds every command that it accepted, and accepts what it is sent or nothing. -/
structure Broker.AcceptsSent (B : Broker β D) (accepted : β → List (BrokerOrderCommand D)) :
    Prop where
  lookup_finds : ∀ id b b', B.getOrderByClientOrderId id b = (.error .brokerNotFound, b') →
    id ∉ (accepted b).map (·.clientOrderId)
  lookup_frame : ∀ id b, accepted (B.getOrderByClientOrderId id b).2 = accepted b
  submit_frame : ∀ command b, accepted (B.submitOrder command b).2 = accepted b ∨
    accepted (B.submitOrder command b).2 = command :: accepted b
  cancel_frame : ∀ id b, accepted (B.cancelOrder id b).2 = accepted b
  read_frame : ∀ id b, accepted (B.getOrder id b).2 = accepted b

/-- Between calls the broker moves without accepting a command. -/
structure Settles (accepted : β → List (BrokerOrderCommand D)) (w w' : World β D) : Prop where
  moves : BrokerMoves w w'
  accepted_eq : accepted w'.broker = accepted w.broker

variable {V : Derivations D} {B : Broker β D} {accepted : β → List (BrokerOrderCommand D)}
  {request : ExecutionRequest D} {now : Timestamp} {command : BrokerOrderCommand D}
  {calls : List (BrokerCall D)} {b b' : β}

theorem Broker.AcceptsSent.finds (h : B.AcceptsSent accepted) :
    B.FindsAccepted fun b => (accepted b).map (·.clientOrderId) where
  lookup_finds := h.lookup_finds
  lookup_frame id b := by rw [h.lookup_frame]
  submit_frame command b := by
    obtain hKept | hAdded := h.submit_frame command b
    · exact .inl (by rw [hKept])
    · exact .inr (by rw [hAdded, List.map_cons])
  cancel_frame id b := by rw [h.cancel_frame]
  read_frame id b := by rw [h.read_frame]

/-- What is accepted along a trace was accepted before, or is submitted in it. -/
theorem Broker.AcceptsSent.accepted_of_performs (h : B.AcceptsSent accepted)
    (hPerforms : B.Performs calls b b') :
    ∀ c ∈ accepted b', c ∈ accepted b ∨ c ∈ submitted calls := by
  induction calls generalizing b with
  | nil =>
    obtain rfl := hPerforms
    exact fun c hc => .inl hc
  | cons call calls ih =>
    obtain ⟨middle, hCall, hRest⟩ := hPerforms
    have hLater {c : BrokerOrderCommand D} (hc : c ∈ submitted calls) :
        c ∈ submitted (call :: calls) := by
      rw [submitted, List.filterMap_cons]
      cases submission call with
      | none => exact hc
      | some first => exact List.mem_cons_of_mem first hc
    have hFrame (hSame : accepted middle = accepted b) (c : BrokerOrderCommand D)
        (hc : c ∈ accepted b') : c ∈ accepted b ∨ c ∈ submitted (call :: calls) := by
      obtain hOld | hNew := ih hRest c hc
      · exact .inl (hSame ▸ hOld)
      · exact .inr (hLater hNew)
    cases call with
    | lookup id answer =>
      exact hFrame ((congrArg (accepted ·.2) hCall).symm.trans (h.lookup_frame id b))
    | cancel id answer =>
      exact hFrame ((congrArg (accepted ·.2) hCall).symm.trans (h.cancel_frame id b))
    | read id answer =>
      exact hFrame ((congrArg (accepted ·.2) hCall).symm.trans (h.read_frame id b))
    | submit command answer =>
      have hMiddle : accepted (B.submitOrder command b).2 = accepted middle :=
        congrArg (accepted ·.2) hCall
      obtain hKept | hAdded := h.submit_frame command b
      · exact hFrame (hMiddle.symm.trans hKept)
      · intro c hc
        obtain hOld | hNew := ih hRest c hc
        · rw [← hMiddle, hAdded] at hOld
          obtain rfl | hBefore := List.mem_cons.mp hOld
          · exact .inr List.mem_cons_self
          · exact .inl hBefore
        · exact .inr (hLater hNew)

/-! ### What an entry rests on -/

/-- An approved decision of the list, whose reservation has the id of the command, and which the
command restates. -/
structure Backed (command : BrokerOrderCommand D) (d : RiskDecision D) : Prop where
  approved : d.decision = .approved
  reservation : d.reservation.map (·.clientOrderId) = some command.clientOrderId
  quantity : command.quantity = d.finalQuantity
  limitPrice : command.limitPrice = d.plannedEntryLimit
  stopPrice : command.stopLossStopPrice = d.stopPrice

theorem screen_backed (h : screen V request now = .ok (.inr command)) :
    Backed command request.riskDecision := by
  obtain ⟨hReserved, hRestates⟩ := screen_reserved h
  obtain ⟨reservation, hReservation, hId, -, -⟩ := buildEntryCommand_eq_ok (screen_buys h)
  refine ⟨hReserved.approved, ?_, hRestates.quantity, hRestates.limitPrice, hRestates.stopPrice⟩
  rw [hReservation, hId]
  rfl

theorem SendsStop.backed {held : Commands D} (h : SendsStop held calls) :
    ∀ sent ∈ submitted calls, sent.side = .buy → Backed sent request.riskDecision := by
  intro sent hSent hBuy
  rw [(h.sells sent hSent).1] at hBuy
  cases hBuy

theorem SubmitRun.backed {held held' : Commands D} {claims claims' : Claims}
    {r : Result (ExecutionResult D)}
    (h : SubmitRun V request now held claims calls held' claims' r) :
    ∀ sent ∈ submitted calls, sent.side = .buy → Backed sent request.riskDecision := by
  cases h with
  | raises e => exact (SendsStop.none held (by simp)).backed
  | refused => exact (SendsStop.none held (by simp)).backed
  | conflict => exact (SendsStop.none held (by simp)).backed
  | lookupFails => exact (SendsStop.none held (by simp [submission])).backed
  | found _ _ run => exact (run.sendsStop.cons rfl).backed
  | sends screened _ run =>
    obtain ⟨answer, rest, rfl, hStop⟩ := run.sendsStop
    intro sent hSent hBuy
    obtain rfl | hRest := List.mem_cons.mp hSent
    · exact screen_backed screened
    · exact hStop.backed sent hRest hBuy

/-- Whatever a call sends to buy rests on the decision of its request. -/
theorem ServiceCall.backed {call : ServiceCall D} {w w' : World β D}
    {r : Result (ExecutionResult D)} (h : (call.run V B).exec w = (r, w')) :
    ∃ calls, B.Performs calls w.broker w'.broker ∧ SendsOnce calls ∧
      ∀ sent ∈ submitted calls, sent.side = .buy → Backed sent call.request.riskDecision := by
  cases call with
  | submit request now =>
    obtain ⟨calls, _, _, hRun, hAdvances⟩ := submit_run h
    exact ⟨calls, hAdvances.performs, hRun.sendsOnce, hRun.backed⟩
  | handleTradeUpdate request update =>
    obtain ⟨calls, _, _, hRun, hAdvances⟩ := handleTradeUpdate_run h
    exact ⟨calls, hAdvances.performs, hRun.sendsStop.once, hRun.sendsStop.backed⟩

/-- The ids of the accepted commands differ, and what buys rests on a decision of the list. -/
structure WithinDecisions (decisions : List (RiskDecision D))
    (commands : List (BrokerOrderCommand D)) : Prop where
  nodup : (commands.map (·.clientOrderId)).Nodup
  backed : ∀ command ∈ commands, command.side = .buy → ∃ d ∈ decisions, Backed command d

theorem WithinDecisions.history {decisions : List (RiskDecision D)} (hB : B.AcceptsSent accepted)
    {w₀ w : World β D} (hStart : accepted w₀.broker = [])
    {records : List (Performed (ServiceCall D) (World β D) PyError (ExecutionResult D))}
    (h : History (ServiceCall.run V B) (Settles accepted) w₀ records w)
    (hCalls : ∀ record ∈ records, record.call.request.riskDecision ∈ decisions) :
    WithinDecisions decisions (accepted w.broker) := by
  refine h.invariant_of_calls (fun w => WithinDecisions decisions (accepted w.broker))
    (Q := fun call => call.request.riskDecision ∈ decisions) hCalls ?_ ?_ ?_
  · rw [hStart]
    exact ⟨List.nodup_nil, fun _ hCommand => absurd hCommand List.not_mem_nil⟩
  · intro call s r t hDecision hBefore hExec
    obtain ⟨calls, hPerforms, hOnce, hBacked⟩ := call.backed hExec
    refine ⟨hOnce.guarded.accepted_nodup hB.finds hPerforms hBefore.nodup, ?_⟩
    intro command hCommand hBuy
    obtain hOld | hSent := hB.accepted_of_performs hPerforms command hCommand
    · exact hBefore.backed command hOld hBuy
    · exact ⟨_, hDecision, hBacked command hSent hBuy⟩
  · intro s t hBefore hSettles
    rw [hSettles.accepted_eq]
    exact hBefore

end Broker

/-! ### Exposure of orders and of decisions -/

namespace BrokerOrderCommand

/-- What the order pays at its limit. -/
def notional (command : BrokerOrderCommand ℚ) : ℚ :=
  command.quantity * command.limitPrice.getD 0

/-- What the order loses from its limit to its stop. -/
def riskAtStop (command : BrokerOrderCommand ℚ) : ℚ :=
  command.quantity * (command.limitPrice.getD 0 - command.stopLossStopPrice.getD 0)

end BrokerOrderCommand

/-- The session with the orders counted in. -/
def holding (s : SessionRiskState ℚ) (entries : List (BrokerOrderCommand ℚ)) :
    SessionRiskState ℚ :=
  { s with
    currentTotalOpenRisk :=
      s.currentTotalOpenRisk + (entries.map BrokerOrderCommand.riskAtStop).sum
    reservedEntryNotional :=
      s.reservedEntryNotional + (entries.map BrokerOrderCommand.notional).sum
    reservedEntryPositionCount := s.reservedEntryPositionCount + entries.length }

variable {H : Canonical ℚ} {r : SizingRequest ℚ} {d : RiskDecision ℚ}
  {s s' : SessionRiskState ℚ} {rs : List (SizingRequest ℚ)} {ds : List (RiskDecision ℚ)}

theorem sizePosition_reports (h : sizePosition H r = .ok d) (ha : d.decision = .approved) :
    ∃ c, Computes r c ∧ d.Reports c := by
  obtain ⟨c, hc, ⟨-, hd⟩ | ⟨-, caps, -, ⟨-, hd⟩ | ⟨-, hd⟩⟩⟩ := sizePosition_cases h
  · simp [rejected_decision hd] at ha
  · simp [rejected_decision hd] at ha
  · simp only [approved, Result.bind_eq_ok] at hd
    obtain ⟨_, -, _, -, _, -, hFinal⟩ := hd
    obtain ⟨rfl, -⟩ := finalizeDecision_eq_ok.mp hFinal
    exact ⟨c, calculate_iff.mp hc, rfl, rfl, rfl, rfl, rfl, rfl, rfl, rfl, rfl, rfl⟩

/-- The risk modeled for a share covers the way from its limit to its stop. -/
theorem riskToStop_le {c : Calculations ℚ} (h : Computes r c) (hPolicy : r.policy.Valid)
    (hTrade : r.setup.tradeParameters.Valid) (hTick : IsMoney r.tickSize) :
    c.plannedEntryLimit - c.stopPrice ≤ c.modeledRiskPerShare := by
  have hGrid : (0 : ℚ) < 10 ^ (-10 : ℤ) := by norm_num
  have hQuantized {x y m : ℚ} (hxy : quantizeMoney x = .ok y)
      (hm : Multiple (10 ^ (-10 : ℤ)) m) (hLe : m ≤ x) : m ≤ y := by
    rw [← quantizeMoney_rat.mp hxy]
    exact le_roundTo_halfEven hGrid hm hLe
  have hZero : Multiple (10 ^ (-10 : ℤ)) 0 := ⟨0, by norm_num⟩
  obtain ⟨atrBuffer, spreadBuffer, hAtrBuffer, -, hBuffer⟩ := h.executionRiskBuffer
  -- The buffer is at least that of the volatility, which is not negative.
  have hAtr : 0 ≤ c.atr := hQuantized h.atr hZero hTrade.2.1.le
  have hMultiple : 0 ≤ r.policy.slippageBufferAtrMultiple := by
    obtain ⟨⟨-, -, -, -, -, -, -, -, -, -, hSlippage, -⟩, -⟩ := hPolicy
    exact hSlippage.1
  have hAtrBuffer' : 0 ≤ atrBuffer :=
    hQuantized hAtrBuffer hZero (by rw [mul_rat]; exact mul_nonneg hMultiple hAtr)
  have hBuffer' : 0 ≤ c.executionRiskBuffer :=
    hQuantized hBuffer hZero (by rw [pyMax_rat]; exact le_max_of_le_left hAtrBuffer')
  have hDifference : Multiple (10 ^ (-10 : ℤ)) (c.plannedEntryLimit - c.stopPrice) := by
    have hLimit := (multiple_of_roundToIncrement h.plannedEntryLimit).trans hTick.multiple
    have hStop := (multiple_of_roundToIncrement h.stopPrice).trans hTick.multiple
    exact hLimit.sub hStop
  have hStructural : c.plannedEntryLimit - c.stopPrice ≤ c.structuralRiskPerShare :=
    hQuantized h.structuralRiskPerShare hDifference (by rw [sub_rat])
  refine hQuantized h.modeledRiskPerShare hDifference ?_
  rw [add_rat]
  linarith

/-- What the orders of an approval can pay and lose is what it reserved. -/
structure Reserves (d : RiskDecision ℚ) (limit stop risk notional : ℚ) : Prop where
  plannedEntryLimit : d.plannedEntryLimit = some limit
  stopPrice : d.stopPrice = some stop
  reservedModeledRisk : d.reservedModeledRisk = some risk
  reservedNotional : d.reservedNotional = some notional
  risk_le : d.finalQuantity * (limit - stop) ≤ risk
  risk_nonneg : 0 ≤ risk
  notional_eq : d.finalQuantity * limit = notional
  notional_nonneg : 0 ≤ notional

theorem sizePosition_reserves (h : sizePosition H r = .ok d) (ha : d.decision = .approved)
    (hPolicy : r.policy.Valid) (hTrade : r.setup.tradeParameters.Valid)
    (hTick : IsMoney r.tickSize) :
    ∃ limit stop risk notional, Reserves d limit stop risk notional := by
  obtain ⟨c, caps, hApproves⟩ := sizePosition_approves h ha
  obtain ⟨c', hComputes, hReports⟩ := sizePosition_reports h ha
  have hLimit : c'.plannedEntryLimit = c.plannedEntryLimit :=
    Option.some.inj (hReports.plannedEntryLimit.symm.trans hApproves.reports.plannedEntryLimit)
  have hStop : c'.stopPrice = c.stopPrice :=
    Option.some.inj (hReports.stopPrice.symm.trans hApproves.reports.stopPrice)
  have hModeled : c'.modeledRiskPerShare = c.modeledRiskPerShare :=
    Option.some.inj (hReports.modeledRiskPerShare.symm.trans hApproves.reports.modeledRiskPerShare)
  have hRisk := riskToStop_le hComputes hPolicy hTrade hTick
  rw [hLimit, hStop, hModeled] at hRisk
  have hQuantity : (0 : ℚ) ≤ d.finalQuantity := Nat.cast_nonneg _
  have hPassed := hApproves.passed
  exact ⟨c.plannedEntryLimit, c.stopPrice, _, _, {
    plannedEntryLimit := hApproves.reports.plannedEntryLimit
    stopPrice := hApproves.reports.stopPrice
    reservedModeledRisk := hApproves.reservedModeledRisk_eq
    reservedNotional := hApproves.reservedNotional_eq hTick
    risk_le := mul_le_mul_of_nonneg_left hRisk hQuantity
    risk_nonneg := mul_nonneg hQuantity hPassed.modeledRisk_pos.le
    notional_eq := rfl
    notional_nonneg := mul_nonneg hQuantity (hPassed.stop_pos.trans hPassed.stop_lt_entry).le }⟩

theorem reserves_of_batchRun (h : BatchRun H s rs ds s')
    (hValid : ∀ r ∈ rs, r.policy.Valid ∧ r.setup.tradeParameters.Valid ∧ IsMoney r.tickSize) :
    ∀ d ∈ ds, d.decision = .approved →
      ∃ limit stop risk notional, Reserves d limit stop risk notional := by
  induction h with
  | done s => exact fun _ hd => absurd hd List.not_mem_nil
  | reject hSized hRejected _ ih =>
    obtain ⟨-, hRest⟩ := List.forall_mem_cons.mp hValid
    refine List.forall_mem_cons.mpr ⟨fun ha => ?_, ih hRest⟩
    rw [hRejected] at ha
    cases ha
  | approve hSized _ _ _ _ ih =>
    obtain ⟨⟨hPolicy, hTrade, hTick⟩, hRest⟩ := List.forall_mem_cons.mp hValid
    exact List.forall_mem_cons.mpr
      ⟨fun ha => sizePosition_reserves hSized ha hPolicy hTrade hTick, ih hRest⟩

/-- A rejection reserves nothing, so that every decision of a batch reserves what is not
negative. -/
theorem reserved_nonneg_of_batchRun (h : BatchRun H s rs ds s')
    (hReserves : ∀ d ∈ ds, d.decision = .approved →
      ∃ limit stop risk notional, Reserves d limit stop risk notional) :
    ∀ d ∈ ds, 0 ≤ (d.reservedModeledRisk.map value).getD 0 ∧
      0 ≤ (d.reservedNotional.map value).getD 0 := by
  induction h with
  | done s => exact fun _ hd => absurd hd List.not_mem_nil
  | reject hSized hRejected _ ih =>
    obtain ⟨-, hRest⟩ := List.forall_mem_cons.mp hReserves
    refine List.forall_mem_cons.mpr ⟨?_, ih hRest⟩
    obtain ⟨hRisk, hNotional⟩ := sizePosition_rejected_amounts hSized hRejected
    rw [hRisk, hNotional]
    exact ⟨le_rfl, le_rfl⟩
  | approve _ ha _ _ _ ih =>
    obtain ⟨hFirst, hRest⟩ := List.forall_mem_cons.mp hReserves
    refine List.forall_mem_cons.mpr ⟨?_, ih hRest⟩
    obtain ⟨_, _, _, _, hReserved⟩ := hFirst ha
    rw [hReserved.reservedModeledRisk, hReserved.reservedNotional]
    exact ⟨hReserved.risk_nonneg, hReserved.notional_nonneg⟩

/-! ### Orders against decisions -/

/-- The orders that buy, against the decisions they rest on. -/
structure Covered (entries : List (BrokerOrderCommand ℚ)) (ds : List (RiskDecision ℚ)) : Prop where
  count : entries.length ≤ approvedCount ds
  notional : (entries.map BrokerOrderCommand.notional).sum ≤ reservedTotal (·.reservedNotional) ds
  risk : (entries.map BrokerOrderCommand.riskAtStop).sum ≤
    reservedTotal (·.reservedModeledRisk) ds

/-- What a part of the decisions reserves is at most what all of them reserve. -/
theorem sum_le_of_subperm {part : List (RiskDecision ℚ)} (h : part.Subperm ds)
    (amount : RiskDecision ℚ → ℚ) (hNonneg : ∀ d ∈ ds, 0 ≤ amount d) :
    (part.map amount).sum ≤ (ds.map amount).sum := by
  obtain ⟨middle, hPerm, hSublist⟩ := h
  rw [← (hPerm.map amount).sum_eq]
  refine (hSublist.map amount).sum_le_sum ?_
  simpa using hNonneg

theorem WithinDecisions.covered {commands : List (BrokerOrderCommand ℚ)}
    (h : WithinDecisions ds commands)
    (hReserves : ∀ d ∈ ds, d.decision = .approved →
      ∃ limit stop risk notional, Reserves d limit stop risk notional)
    (hNonneg : ∀ d ∈ ds, 0 ≤ (d.reservedModeledRisk.map value).getD 0 ∧
      0 ≤ (d.reservedNotional.map value).getD 0) :
    Covered (commands.filter (·.side = .buy)) ds := by
  set entries := commands.filter (·.side = .buy) with hEntries
  have hBacked : ∀ c ∈ entries, ∃ d ∈ ds, Backed c d := by
    intro c hc
    obtain ⟨hMem, hBuy⟩ := List.mem_filter.mp hc
    exact h.backed c hMem (of_decide_eq_true hBuy)
  have : Nonempty (RiskDecision ℚ) := ⟨sampleDecision.mapDecimal value⟩
  choose! backing hMem hBacking using hBacked
  -- Orders with different ids rest on different decisions.
  have hNodup : (entries.map backing).Nodup := by
    refine List.Nodup.of_map (fun d => d.reservation.map (·.clientOrderId)) ?_
    have hIds : (entries.map backing).map (fun d => d.reservation.map (·.clientOrderId)) =
        (entries.map (·.clientOrderId)).map some := by
      rw [List.map_map, List.map_map]
      exact List.map_congr_left fun c hc => (hBacking c hc).reservation
    rw [hIds]
    refine List.Nodup.map (Option.some_injective _) ?_
    exact h.nodup.sublist (List.filter_sublist.map _)
  have hSubset : entries.map backing ⊆ ds := by
    intro d hd
    obtain ⟨c, hc, rfl⟩ := List.mem_map.mp hd
    exact hMem c hc
  have hPart := List.subperm_of_subset hNodup hSubset
  have hReserved (c : BrokerOrderCommand ℚ) (hc : c ∈ entries) :=
    hReserves (backing c) (hMem c hc) (hBacking c hc).approved
  refine ⟨?_, ?_, ?_⟩
  · have hApproved : entries.map backing ⊆ ds.filter (·.decision = .approved) := by
      intro d hd
      refine List.mem_filter.mpr ⟨hSubset hd, ?_⟩
      obtain ⟨c, hc, rfl⟩ := List.mem_map.mp hd
      exact decide_eq_true (hBacking c hc).approved
    rw [approvedCount, List.countP_eq_length_filter, ← List.length_map backing]
    exact (List.subperm_of_subset hNodup hApproved).length_le
  · refine le_trans (le_of_eq ?_) (sum_le_of_subperm hPart _ fun d hd => (hNonneg d hd).2)
    rw [List.map_map]
    refine congrArg List.sum (List.map_congr_left fun c hc => ?_)
    obtain ⟨limit, stop, risk, notional, hd⟩ := hReserved c hc
    have hc := hBacking c hc
    simp only [Function.comp_apply, BrokerOrderCommand.notional, hc.quantity, hc.limitPrice,
      hd.plannedEntryLimit, hd.reservedNotional, Option.getD_some, Option.map_some, value_rat,
      hd.notional_eq]
  · refine le_trans ?_ (sum_le_of_subperm hPart _ fun d hd => (hNonneg d hd).1)
    rw [List.map_map]
    refine List.sum_le_sum fun c hc => ?_
    obtain ⟨limit, stop, risk, notional, hd⟩ := hReserved c hc
    have hc := hBacking c hc
    simp only [Function.comp_apply, BrokerOrderCommand.riskAtStop, hc.quantity, hc.limitPrice,
      hc.stopPrice, hd.plannedEntryLimit, hd.stopPrice, hd.reservedModeledRisk, Option.getD_some,
      Option.map_some, value_rat]
    exact hd.risk_le

/-- A session within limits stays so when orders take the place of what was reserved for them. -/
theorem Covered.withinLimits {entries : List (BrokerOrderCommand ℚ)} (h : Covered entries ds)
    {policy : RiskPolicyConfig ℚ} {account : AccountSnapshot ℚ} (hRun : BatchRun H s rs ds s')
    (hLimits : WithinLimits policy account s') : WithinLimits policy account (holding s entries) := by
  obtain ⟨hRisk, hNotional⟩ := hRun.reserved_sums
  have hCount := hRun.positionCount
  have hFrame := hRun.same_but_reservations
  have hRiskLe := h.risk
  have hNotionalLe := h.notional
  have hCountLe := h.count
  obtain ⟨hOpen, hLoss, hGross, hPower, hPositions⟩ := hLimits
  rw [SameButReservations] at hFrame
  rw [hFrame] at hOpen hLoss hGross hPower hPositions
  constructor
  · simp only [holding, value_rat] at hOpen ⊢
    linarith
  · simp only [holding, sessionLoss, value_rat] at hLoss ⊢
    linarith
  · simp only [holding, value_rat] at hGross ⊢
    linarith
  · simp only [holding, value_rat] at hPower ⊢
    linarith
  · simp only [holding] at hPositions ⊢
    omega

variable {β : Type} {accepted : β → List (BrokerOrderCommand ℚ)}

/-- Over every history of calls for the decisions of a batch: the broker accepts an id once, the
orders that buy are covered by what the batch reserved, and with the first of them the session
that counts them in is within the limits of its policy. -/
theorem accepted_entries_within_batch_limits {newYorkDate : Timestamp → Date} (V : Derivations ℚ)
    (H : Canonical ℚ) (B : Broker β ℚ) (hB : B.AcceptsSent accepted)
    (batch : BatchSizingRequest ℚ newYorkDate) (result : BatchSizingResult ℚ)
    (hSized : sizeApprovedBatch H batch = .ok result) (w₀ w : World β ℚ)
    (hStart : accepted w₀.broker = [])
    (records : List (Performed (ServiceCall ℚ) (World β ℚ) PyError (ExecutionResult ℚ)))
    (h : History (ServiceCall.run V B) (Settles accepted) w₀ records w)
    (hCalls : ∀ record ∈ records, record.call.request.riskDecision ∈ result.decisions) :
    ((accepted w.broker).map (·.clientOrderId)).Nodup ∧
      Covered ((accepted w.broker).filter (·.side = .buy)) result.decisions ∧
      ((accepted w.broker).filter (·.side = .buy) ≠ [] →
        WithinLimits batch.first.policy batch.first.account
          (holding batch.first.session ((accepted w.broker).filter (·.side = .buy)))) := by
  have hRun := batchRun_of_sizeRequests hSized
  have hValid : ∀ r ∈ batch.requests,
      r.policy.Valid ∧ r.setup.tradeParameters.Valid ∧ IsMoney r.tickSize := by
    intro r hr
    have hRequest := batch.requests_valid r hr
    exact ⟨hRequest.1.2.2.1, hRequest.1.2.1.2, hRequest.tickSize⟩
  have hReserves := reserves_of_batchRun hRun hValid
  have hWithin := WithinDecisions.history hB hStart h hCalls
  have hCovered := hWithin.covered hReserves (reserved_nonneg_of_batchRun hRun hReserves)
  refine ⟨hWithin.nodup, hCovered, fun hSome => ?_⟩
  obtain ⟨entry, hEntry⟩ := List.exists_mem_of_ne_nil _ hSome
  obtain ⟨hMem, hBuy⟩ := List.mem_filter.mp hEntry
  obtain ⟨d, hd, hBacked⟩ := hWithin.backed entry hMem (of_decide_eq_true hBuy)
  exact hCovered.withinLimits hRun (hRun.withinLimits batch.shared ⟨d, hd, hBacked.approved⟩)

/-! ### A batch that is executed -/

/-- A broker that accepts what it is sent, and whose answers about accepted orders are lost. -/
def silentBroker : Broker (List (BrokerOrderCommand ℚ)) ℚ where
  getOrderByClientOrderId id accepted :=
    (if id ∈ accepted.map (·.clientOrderId) then unreachable else .error .brokerNotFound, accepted)
  submitOrder command accepted := (unreachable, command :: accepted)
  cancelOrder _ accepted := (unreachable, accepted)
  getOrder _ accepted := (unreachable, accepted)

theorem silentBroker_acceptsSent : silentBroker.AcceptsSent id where
  lookup_finds id b b' h := by
    have hAnswer := congrArg Prod.fst h
    simp only [silentBroker] at hAnswer
    split_ifs at hAnswer with hMem
    · cases hAnswer
    · exact hMem
  lookup_frame _ _ := rfl
  submit_frame _ _ := .inr rfl
  cancel_frame _ _ := rfl
  read_frame _ _ := rfl

def batchDerivations : Derivations ℚ where
  commandId _ clientOrderId := "command-" ++ clientOrderId
  commandHash _ := ""
  eventHash _ := ""
  requestHash _ := ""
  resultHash _ _ events _ _ := toString events.length
  resultId executionId resultHash := executionId ++ resultHash
  validationText _ := ""
  decimalText _ := ""

def sampleBatchResult : BatchSizingResult ℚ :=
  (sizeApprovedBatch (sampleCanonical ℚ) sampleBatch).toOption.get (by decide +kernel)

/-- The execution of a decision of the batch, half a second after it was made. -/
def executionOf (d : RiskDecision ℚ) : ExecutionRequest ℚ where
  executionId := "execution-" ++ d.ticker
  runId := d.runId
  tradingDate := d.tradingDate
  requestedAt := 1785763801000000
  submissionCutoffTimestamp := 1785763806000000
  riskDecision := d
  policy := {}
  configurationHash := d.configurationHash

/-- Each decision is submitted, and all of them again. -/
def sampleSubmissions : List (ServiceCall ℚ) :=
  (sampleBatchResult.decisions ++ sampleBatchResult.decisions).map fun d =>
    .submit (executionOf d) (executionOf d).requestedAt

def afterSubmissions : World (List (BrokerOrderCommand ℚ)) ℚ :=
  sampleSubmissions.foldl
    (fun w call => ((call.run batchDerivations silentBroker).exec w).2) (.initial [])

theorem accepted_entries_within_batch_limits_sample :
    afterSubmissions.broker.length = 2 ∧
      WithinLimits sampleBatch.first.policy sampleBatch.first.account
        (holding sampleBatch.first.session
          (afterSubmissions.broker.filter (·.side = .buy))) := by
  have hBuys : afterSubmissions.broker.length = 2 ∧
      afterSubmissions.broker.filter (·.side = .buy) ≠ [] := by decide +kernel
  have hSized : sizeApprovedBatch (sampleCanonical ℚ) sampleBatch = .ok sampleBatchResult := by
    decide +kernel
  obtain ⟨records, hHistory, hCalls⟩ : ∃ records,
      History (ServiceCall.run batchDerivations silentBroker) (Settles id) (.initial []) records
        afterSubmissions ∧ ∀ record ∈ records, record.call ∈ sampleSubmissions :=
    History.exists_of_calls sampleSubmissions
  have hDecisions : ∀ record ∈ records,
      record.call.request.riskDecision ∈ sampleBatchResult.decisions := by
    intro record hRecord
    obtain ⟨d, hd, hCall⟩ := List.mem_map.mp (hCalls record hRecord)
    rw [← hCall]
    exact (List.mem_append.mp hd).elim (fun hFirst => hFirst) fun hAgain => hAgain
  exact ⟨hBuys.1, (accepted_entries_within_batch_limits batchDerivations (sampleCanonical ℚ)
    silentBroker silentBroker_acceptsSent sampleBatch sampleBatchResult hSized (.initial []) _ rfl
    records hHistory hDecisions).2.2 hBuys.2⟩

end Daybreak.Execution
