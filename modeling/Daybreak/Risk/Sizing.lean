import Daybreak.Risk.Engine

/-! What an approval means. First the inversion of `calculate`, of the gates and
of `sizePosition`, for any decimals; then, over exact rationals, the caps as the
largest quantities within eight linear limits, and the decision as the largest
quantity within all of them. -/

namespace Daybreak.Risk

open Numeric DecimalArithmetic

variable {D : Type} [DecimalArithmetic D]

/-! ### Inversion -/

/-- The equations that the numbers of a request satisfy. -/
structure Calculated (r : SizingRequest D) (c : Calculations D) : Prop where
  brokerSessionPnl : c.brokerSessionPnl =
    sub (sub r.account.equity r.session.sessionStartEquity) r.session.netExternalCashFlow
  internalSessionPnl : c.internalSessionPnl =
    add r.session.internalRealizedPnl r.session.internalUnrealizedPnl
  riskSessionPnl : c.riskSessionPnl = pyMin c.brokerSessionPnl c.internalSessionPnl
  hardDailyLossLimit : floorToCent (mul r.session.sessionReferenceEquity
    r.policy.hardDailyLossPct) = .ok c.hardDailyLossLimit
  usableBuyingPower : floorToCent
    (sub (mul (pyMin r.account.nonMarginableBuyingPower r.account.buyingPower)
      (sub (literal 1 0) r.policy.buyingPowerReservePct)) r.session.reservedEntryNotional) =
    .ok c.usableBuyingPower
  premarketLow : quantizeMoney r.setup.tradeParameters.premarketLowUsed = .ok c.premarketLow
  plannedEntryLimit : roundUpToIncrement r.plannedEntryLimit r.tickSize = .ok c.plannedEntryLimit
  modeledRiskPerShare : quantizeMoney (add c.structuralRiskPerShare c.executionRiskBuffer) =
    .ok c.modeledRiskPerShare
  maximumTotalOpenRisk : floorToCent (mul r.session.sessionReferenceEquity
    r.policy.maxOpenRiskPct) = .ok c.maximumTotalOpenRisk
  remainingOpenRiskCapacity : floorToCent
    (sub c.maximumTotalOpenRisk r.session.currentTotalOpenRisk) = .ok c.remainingOpenRiskCapacity
  remainingHardLossCapacity : floorToCent
    (sub (sub c.hardDailyLossLimit (currentLoss c.riskSessionPnl))
      r.session.currentTotalOpenRisk) = .ok c.remainingHardLossCapacity
  maximumPositionNotional : floorToCent (mul r.session.sessionReferenceEquity
    r.policy.maxPositionNotionalPct) = .ok c.maximumPositionNotional
  remainingGrossExposure : ∃ gross,
    floorToCent (mul r.session.sessionReferenceEquity r.policy.maxGrossLongExposurePct) =
      .ok gross ∧
    floorToCent (sub gross (add r.session.currentLongMarketValue r.session.reservedEntryNotional)) =
      .ok c.remainingGrossExposure

/-- All the equations that the numbers of a request satisfy. -/
structure Computes (r : SizingRequest D) (c : Calculations D) : Prop extends Calculated r c where
  softDailyLossLimit : floorToCent (mul r.session.sessionReferenceEquity
    r.policy.softDailyLossPct) = .ok c.softDailyLossLimit
  referencePrice : quantizeMoney r.setup.tradeParameters.referencePrice = .ok c.referencePrice
  atr : quantizeMoney r.setup.tradeParameters.atrValueUsed = .ok c.atr
  stopPrice : roundDownToIncrement (sub c.referencePrice
    (mul r.setup.tradeParameters.riskStopAtrMultiple c.atr)) r.tickSize = .ok c.stopPrice
  targetPrice : roundDownToIncrement (add c.referencePrice
    (mul r.setup.tradeParameters.profitTargetAtrMultiple c.atr)) r.tickSize = .ok c.targetPrice
  spreadPct : ∃ midpoint, r.quote.midpoint = .ok midpoint ∧
    ratioOr999 r.quote.spread midpoint = .ok c.spreadPct
  spreadAtrFraction : ratioOr999 r.quote.spread c.atr = .ok c.spreadAtrFraction
  entryDriftPct : ratioOr999 (abs (sub c.plannedEntryLimit c.referencePrice)) c.referencePrice =
    .ok c.entryDriftPct
  entryDriftAtr : ratioOr999 (abs (sub c.plannedEntryLimit c.referencePrice)) c.atr =
    .ok c.entryDriftAtr
  structuralRiskPerShare : quantizeMoney (sub c.plannedEntryLimit c.stopPrice) =
    .ok c.structuralRiskPerShare
  executionRiskBuffer : ∃ atrBuffer spreadBuffer,
    quantizeMoney (mul r.policy.slippageBufferAtrMultiple c.atr) = .ok atrBuffer ∧
    quantizeMoney (mul r.policy.slippageBufferSpreadMultiple r.quote.spread) = .ok spreadBuffer ∧
    quantizeMoney (pyMax atrBuffer spreadBuffer) = .ok c.executionRiskBuffer
  baseTradeRiskBudget : floorToCent (mul r.session.sessionReferenceEquity
    r.policy.riskPerTradePct) = .ok c.baseTradeRiskBudget
  riskFlagMultiplier : c.riskFlagMultiplier = minMultiplier r.setup.riskFlags
  adjustedTradeRiskBudget : floorToCent (mul c.baseTradeRiskBudget c.riskFlagMultiplier) =
    .ok c.adjustedTradeRiskBudget

/-- The calculation returns exactly the numbers that satisfy its equations. -/
theorem calculate_iff {r : SizingRequest D} {c : Calculations D} :
    calculate r = .ok c ↔ Computes r c := by
  constructor
  · intro h
    unfold calculate at h
    obtain ⟨soft, hSoft, h⟩ := Result.bind_eq_ok.mp h
    obtain ⟨hard, hHard, h⟩ := Result.bind_eq_ok.mp h
    obtain ⟨usable, hUsable, h⟩ := Result.bind_eq_ok.mp h
    obtain ⟨reference, hReference, h⟩ := Result.bind_eq_ok.mp h
    obtain ⟨atr, hAtr, h⟩ := Result.bind_eq_ok.mp h
    obtain ⟨low, hLow, h⟩ := Result.bind_eq_ok.mp h
    obtain ⟨entry, hEntry, h⟩ := Result.bind_eq_ok.mp h
    obtain ⟨stop, hStop, h⟩ := Result.bind_eq_ok.mp h
    obtain ⟨target, hTarget, h⟩ := Result.bind_eq_ok.mp h
    obtain ⟨midpoint, hMidpoint, h⟩ := Result.bind_eq_ok.mp h
    obtain ⟨spreadPct, hSpreadPct, h⟩ := Result.bind_eq_ok.mp h
    obtain ⟨spreadAtr, hSpreadAtr, h⟩ := Result.bind_eq_ok.mp h
    obtain ⟨driftPct, hDriftPct, h⟩ := Result.bind_eq_ok.mp h
    obtain ⟨driftAtr, hDriftAtr, h⟩ := Result.bind_eq_ok.mp h
    obtain ⟨structural, hStructural, h⟩ := Result.bind_eq_ok.mp h
    obtain ⟨atrBuffer, hAtrBuffer, h⟩ := Result.bind_eq_ok.mp h
    obtain ⟨spreadBuffer, hSpreadBuffer, h⟩ := Result.bind_eq_ok.mp h
    obtain ⟨buffer, hBuffer, h⟩ := Result.bind_eq_ok.mp h
    obtain ⟨modeled, hModeled, h⟩ := Result.bind_eq_ok.mp h
    obtain ⟨base, hBase, h⟩ := Result.bind_eq_ok.mp h
    obtain ⟨adjusted, hAdjusted, h⟩ := Result.bind_eq_ok.mp h
    obtain ⟨maxOpen, hMaxOpen, h⟩ := Result.bind_eq_ok.mp h
    obtain ⟨openRisk, hOpenRisk, h⟩ := Result.bind_eq_ok.mp h
    obtain ⟨hardLoss, hHardLoss, h⟩ := Result.bind_eq_ok.mp h
    obtain ⟨notional, hNotional, h⟩ := Result.bind_eq_ok.mp h
    obtain ⟨gross, hGross, h⟩ := Result.bind_eq_ok.mp h
    obtain ⟨remaining, hRemaining, h⟩ := Result.bind_eq_ok.mp h
    obtain rfl := Result.pure_eq_ok.mp h
    exact {
      brokerSessionPnl := rfl
      internalSessionPnl := rfl
      riskSessionPnl := rfl
      softDailyLossLimit := hSoft
      hardDailyLossLimit := hHard
      usableBuyingPower := hUsable
      referencePrice := hReference
      atr := hAtr
      premarketLow := hLow
      plannedEntryLimit := hEntry
      stopPrice := hStop
      targetPrice := hTarget
      spreadPct := ⟨midpoint, hMidpoint, hSpreadPct⟩
      spreadAtrFraction := hSpreadAtr
      entryDriftPct := hDriftPct
      entryDriftAtr := hDriftAtr
      structuralRiskPerShare := hStructural
      executionRiskBuffer := ⟨atrBuffer, spreadBuffer, hAtrBuffer, hSpreadBuffer, hBuffer⟩
      modeledRiskPerShare := hModeled
      baseTradeRiskBudget := hBase
      riskFlagMultiplier := rfl
      adjustedTradeRiskBudget := hAdjusted
      maximumTotalOpenRisk := hMaxOpen
      remainingOpenRiskCapacity := hOpenRisk
      remainingHardLossCapacity := hHardLoss
      maximumPositionNotional := hNotional
      remainingGrossExposure := ⟨gross, hGross, hRemaining⟩ }
  · intro h
    obtain ⟨midpoint, hMidpoint, hSpreadPct⟩ := h.spreadPct
    obtain ⟨atrBuffer, spreadBuffer, hAtrBuffer, hSpreadBuffer, hBuffer⟩ := h.executionRiskBuffer
    obtain ⟨gross, hGross, hRemaining⟩ := h.remainingGrossExposure
    have hHardLoss := h.remainingHardLossCapacity
    have hAdjusted := h.adjustedTradeRiskBudget
    rw [h.riskSessionPnl, h.brokerSessionPnl, h.internalSessionPnl] at hHardLoss
    rw [h.riskFlagMultiplier] at hAdjusted
    unfold calculate
    refine Result.bind_eq_ok.mpr ⟨_, h.softDailyLossLimit, ?_⟩
    refine Result.bind_eq_ok.mpr ⟨_, h.hardDailyLossLimit, ?_⟩
    refine Result.bind_eq_ok.mpr ⟨_, h.usableBuyingPower, ?_⟩
    refine Result.bind_eq_ok.mpr ⟨_, h.referencePrice, ?_⟩
    refine Result.bind_eq_ok.mpr ⟨_, h.atr, ?_⟩
    refine Result.bind_eq_ok.mpr ⟨_, h.premarketLow, ?_⟩
    refine Result.bind_eq_ok.mpr ⟨_, h.plannedEntryLimit, ?_⟩
    refine Result.bind_eq_ok.mpr ⟨_, h.stopPrice, ?_⟩
    refine Result.bind_eq_ok.mpr ⟨_, h.targetPrice, ?_⟩
    refine Result.bind_eq_ok.mpr ⟨_, hMidpoint, ?_⟩
    refine Result.bind_eq_ok.mpr ⟨_, hSpreadPct, ?_⟩
    refine Result.bind_eq_ok.mpr ⟨_, h.spreadAtrFraction, ?_⟩
    refine Result.bind_eq_ok.mpr ⟨_, h.entryDriftPct, ?_⟩
    refine Result.bind_eq_ok.mpr ⟨_, h.entryDriftAtr, ?_⟩
    refine Result.bind_eq_ok.mpr ⟨_, h.structuralRiskPerShare, ?_⟩
    refine Result.bind_eq_ok.mpr ⟨_, hAtrBuffer, ?_⟩
    refine Result.bind_eq_ok.mpr ⟨_, hSpreadBuffer, ?_⟩
    refine Result.bind_eq_ok.mpr ⟨_, hBuffer, ?_⟩
    refine Result.bind_eq_ok.mpr ⟨_, h.modeledRiskPerShare, ?_⟩
    refine Result.bind_eq_ok.mpr ⟨_, h.baseTradeRiskBudget, ?_⟩
    refine Result.bind_eq_ok.mpr ⟨_, hAdjusted, ?_⟩
    refine Result.bind_eq_ok.mpr ⟨_, h.maximumTotalOpenRisk, ?_⟩
    refine Result.bind_eq_ok.mpr ⟨_, h.remainingOpenRiskCapacity, ?_⟩
    refine Result.bind_eq_ok.mpr ⟨_, hHardLoss, ?_⟩
    refine Result.bind_eq_ok.mpr ⟨_, h.maximumPositionNotional, ?_⟩
    refine Result.bind_eq_ok.mpr ⟨_, hGross, ?_⟩
    refine Result.bind_eq_ok.mpr ⟨_, hRemaining, ?_⟩
    refine Result.pure_eq_ok.mpr ?_
    rw [← h.internalSessionPnl, ← h.brokerSessionPnl, ← h.riskSessionPnl, ← h.riskFlagMultiplier]

theorem calculate_eq_ok {r : SizingRequest D} {c : Calculations D} (h : calculate r = .ok c) :
    Calculated r c :=
  (calculate_iff.mp h).toCalculated

/-- Without a reason, no check of the table holds. -/
theorem not_of_gate (code : RiskRejectionCode) {r : SizingRequest D} {c : Calculations D}
    (h : rejectionReasons r c = []) {p : Prop} [Decidable p] (hp : gate p code ∈ gates r c) :
    ¬ p := by
  intro h'
  have : code ∈ rejectionReasons r c :=
    List.mem_map.mpr ⟨gate p code, List.mem_filter.mpr ⟨hp, decide_eq_true h'⟩, rfl⟩
  simp [h] at this

/-- The gates that later results read. -/
structure GatesPassed (r : SizingRequest D) (c : Calculations D) : Prop where
  entries : r.session.completedEntryCount < r.policy.maxNewEntriesPerDay
  positions : r.session.openDaybreakPositionCount + r.session.reservedEntryPositionCount <
    r.policy.maxConcurrentPositions
  stop_pos : 0 < value c.stopPrice
  stop_lt_entry : value c.stopPrice < value c.plannedEntryLimit
  entry_lt_target : value c.plannedEntryLimit < value c.targetPrice
  stop_le_premarketLow : value c.stopPrice ≤ value c.premarketLow
  modeledRisk_pos : 0 < value c.modeledRiskPerShare

theorem gatesPassed_of_nil {r : SizingRequest D} {c : Calculations D}
    (h : rejectionReasons r c = []) : GatesPassed r c := by
  have hEntries : ¬ (r.policy.maxNewEntriesPerDay ≤ r.session.completedEntryCount) :=
    not_of_gate .maxNewEntriesPerDay h
      (by simp only [gates, List.mem_cons, true_or, or_true])
  have hPositions : ¬ (r.policy.maxConcurrentPositions ≤
      r.session.openDaybreakPositionCount + r.session.reservedEntryPositionCount) :=
    not_of_gate .maxConcurrentPositions h
      (by simp only [gates, List.mem_cons, true_or, or_true])
  have hGeometry : ¬ (value c.stopPrice ≤ 0 ∨ value c.targetPrice ≤ value c.plannedEntryLimit ∨
      value c.plannedEntryLimit ≤ value c.stopPrice) :=
    not_of_gate .invalidPriceGeometry h
      (by simp only [gates, List.mem_cons, true_or, or_true])
  have hLow : ¬ (value c.premarketLow < value c.stopPrice) :=
    not_of_gate .stopAbovePremarketLow h
      (by simp only [gates, List.mem_cons, true_or, or_true])
  have hRisk : ¬ (value c.structuralRiskPerShare ≤ 0 ∨ value c.modeledRiskPerShare ≤ 0) :=
    not_of_gate .invalidPriceGeometry h
      (by simp only [gates, List.mem_cons, true_or, or_true])
  push Not at hGeometry hRisk
  exact {
    entries := not_le.mp hEntries
    positions := not_le.mp hPositions
    stop_pos := hGeometry.1
    stop_lt_entry := hGeometry.2.2
    entry_lt_target := hGeometry.2.1
    stop_le_premarketLow := not_lt.mp hLow
    modeledRisk_pos := hRisk.2 }

theorem finalizeDecision_eq_ok {H : Canonical D} {base d : RiskDecision D} :
    finalizeDecision H base = .ok d ↔
      d = { base with decisionHash := H.bodySha256 base } ∧
        RiskDecision.Valid { base with decisionHash := H.bodySha256 base } :=
  validated_eq_ok

theorem rejected_decision {H : Canonical D} {r : SizingRequest D} {c : Calculations D}
    {reasons : List RiskRejectionCode} {kill : Bool} {d : RiskDecision D}
    (h : rejected H r c reasons kill = .ok d) : d.decision = .rejected := by
  rw [(finalizeDecision_eq_ok.mp h).1]
  rfl

/-- `size_position` refuses for the reasons of the gates, refuses because no
quantity fits, or approves. -/
theorem sizePosition_cases {H : Canonical D} {r : SizingRequest D} {d : RiskDecision D}
    (h : sizePosition H r = .ok d) :
    ∃ c, calculate r = .ok c ∧
      ((rejectionReasons r c ≠ [] ∧
          rejected H r c (rejectionReasons r c) (killSwitchRequired r c) = .ok d) ∨
        (rejectionReasons r c = [] ∧ ∃ caps, quantityCaps r c = .ok caps ∧
          ((caps.finalQuantity < 1 ∧ rejected H r c [.finalQuantityBelowMinimum] false = .ok d) ∨
            (1 ≤ caps.finalQuantity ∧ approved H r c caps = .ok d)))) := by
  obtain ⟨c, hc, h⟩ := Result.bind_eq_ok.mp h
  refine ⟨c, hc, ?_⟩
  split_ifs at h with hReasons
  · exact .inl ⟨hReasons, h⟩
  · obtain ⟨caps, hCaps, h⟩ := Result.bind_eq_ok.mp h
    refine .inr ⟨not_not.mp hReasons, caps, hCaps, ?_⟩
    split_ifs at h with hq
    · exact .inl ⟨by unfold RiskPolicyConfig.minimumQuantity at hq; omega, h⟩
    · exact .inr ⟨by unfold RiskPolicyConfig.minimumQuantity at hq; omega, h⟩

/-- What identifies a decision comes from its request. -/
structure RiskDecision.Identifies (d : RiskDecision D) (H : Canonical D) (r : SizingRequest D) :
    Prop where
  decisionId : d.decisionId = "risk-" ++ r.requestId
  requestId : d.requestId = r.requestId
  inputHash : d.inputHash = H.requestSha256 r

theorem sizePosition_identifies_valid {H : Canonical D} {r : SizingRequest D} {d : RiskDecision D}
    (h : sizePosition H r = .ok d) : d.Identifies H r ∧ d.Valid := by
  have hFinal : ∀ base : RiskDecision D, base.Identifies H r → finalizeDecision H base = .ok d →
      d.Identifies H r ∧ d.Valid := by
    intro base hId hBase
    obtain ⟨rfl, hValid⟩ := finalizeDecision_eq_ok.mp hBase
    exact ⟨⟨hId.decisionId, hId.requestId, hId.inputHash⟩, hValid⟩
  obtain ⟨c, -, ⟨-, hRejected⟩ | ⟨-, caps, -, ⟨-, hRejected⟩ | ⟨-, hApproved⟩⟩⟩ :=
    sizePosition_cases h
  · exact hFinal _ ⟨rfl, rfl, rfl⟩ hRejected
  · exact hFinal _ ⟨rfl, rfl, rfl⟩ hRejected
  · simp only [approved, Result.bind_eq_ok] at hApproved
    obtain ⟨_, -, _, -, _, -, hBase⟩ := hApproved
    exact hFinal _ ⟨rfl, rfl, rfl⟩ hBase

/-- The numbers a decision reports are the calculated ones. -/
structure RiskDecision.Reports (d : RiskDecision D) (c : Calculations D) : Prop where
  usableBuyingPower : d.usableBuyingPower = some c.usableBuyingPower
  adjustedTradeRiskBudget : d.adjustedTradeRiskBudget = some c.adjustedTradeRiskBudget
  plannedEntryLimit : d.plannedEntryLimit = some c.plannedEntryLimit
  stopPrice : d.stopPrice = some c.stopPrice
  targetPrice : d.targetPrice = some c.targetPrice
  modeledRiskPerShare : d.modeledRiskPerShare = some c.modeledRiskPerShare
  remainingOpenRiskCapacity : d.remainingOpenRiskCapacity = some c.remainingOpenRiskCapacity
  remainingHardLossCapacity : d.remainingHardLossCapacity = some c.remainingHardLossCapacity
  maximumPositionNotional : d.maximumPositionNotional = some c.maximumPositionNotional
  remainingGrossExposure : d.remainingGrossExposure = some c.remainingGrossExposure

/-- Everything an approval of `r` says, in terms of its calculated numbers. -/
structure Approves (H : Canonical D) (r : SizingRequest D) (d : RiskDecision D)
    (c : Calculations D) (caps : QuantityCaps) : Prop where
  calculated : Calculated r c
  passed : GatesPassed r c
  caps_eq : quantityCaps r c = .ok caps
  reports : d.Reports c
  quantity : d.finalQuantity = caps.finalQuantity
  quantity_pos : 1 ≤ d.finalQuantity
  bindingCap : d.bindingCap = caps.bindingCap
  reservedModeledRisk : ∃ risk, d.reservedModeledRisk = some risk ∧
    quantizeMoney (mul c.modeledRiskPerShare (ofInt d.finalQuantity)) = .ok risk
  reservedNotional : ∃ notional, d.reservedNotional = some notional ∧
    quantizeMoney (mul c.plannedEntryLimit (ofInt d.finalQuantity)) = .ok notional

theorem sizePosition_approves {H : Canonical D} {r : SizingRequest D} {d : RiskDecision D}
    (h : sizePosition H r = .ok d) (ha : d.decision = .approved) :
    ∃ c caps, Approves H r d c caps := by
  obtain ⟨c, hc, ⟨-, h⟩ | ⟨hReasons, caps, hCaps, ⟨-, h⟩ | ⟨hq, h⟩⟩⟩ := sizePosition_cases h
  · simp [rejected_decision h] at ha
  · simp [rejected_decision h] at ha
  · simp only [approved, Result.bind_eq_ok] at h
    obtain ⟨risk, hRisk, notional, hNotional, reservation, -, h⟩ := h
    obtain ⟨rfl, -⟩ := finalizeDecision_eq_ok.mp h
    exact ⟨c, caps, {
      calculated := calculate_eq_ok hc
      passed := gatesPassed_of_nil hReasons
      caps_eq := hCaps
      reports := ⟨rfl, rfl, rfl, rfl, rfl, rfl, rfl, rfl, rfl, rfl⟩
      quantity := rfl
      quantity_pos := hq
      bindingCap := rfl
      reservedModeledRisk := ⟨risk, rfl, hRisk⟩
      reservedNotional := ⟨notional, rfl, hNotional⟩ }⟩

/-- No gate refuses the request and at least one share fits under its caps. -/
def Accepts (r : SizingRequest D) : Prop :=
  ∃ c caps, calculate r = .ok c ∧ rejectionReasons r c = [] ∧ quantityCaps r c = .ok caps ∧
    1 ≤ caps.finalQuantity

theorem sizePosition_approved_iff {H : Canonical D} {r : SizingRequest D} {d : RiskDecision D}
    (h : sizePosition H r = .ok d) : d.decision = .approved ↔ Accepts r := by
  obtain ⟨c, hc, ⟨hReasons, hd⟩ | ⟨hReasons, caps, hCaps, ⟨hq, hd⟩ | ⟨hq, hd⟩⟩⟩ :=
    sizePosition_cases h
  · refine ⟨fun ha => by simp [rejected_decision hd] at ha, ?_⟩
    rintro ⟨c', -, hc', hNil, -⟩
    obtain rfl := Except.ok.inj (hc.symm.trans hc')
    exact absurd hNil hReasons
  · refine ⟨fun ha => by simp [rejected_decision hd] at ha, ?_⟩
    rintro ⟨c', caps', hc', -, hCaps', hq'⟩
    obtain rfl := Except.ok.inj (hc.symm.trans hc')
    obtain rfl := Except.ok.inj (hCaps.symm.trans hCaps')
    omega
  · refine ⟨fun _ => ⟨c, caps, hc, hReasons, hCaps, hq⟩, fun _ => ?_⟩
    simp only [approved, Result.bind_eq_ok] at hd
    obtain ⟨_, -, _, -, _, -, hBase⟩ := hd
    obtain ⟨rfl, -⟩ := finalizeDecision_eq_ok.mp hBase
    rfl

/-! ### Exact rationals -/

section Exact

@[simp] theorem floorToCent_rat {x y : ℚ} :
    floorToCent x = .ok y ↔ roundTo .floor (10 ^ (-2 : ℤ)) x = y := by
  simp [floorToCent]

@[simp] theorem quantizeMoney_rat {x y : ℚ} :
    quantizeMoney x = .ok y ↔ roundTo .halfEven (10 ^ (-10 : ℤ)) x = y := by
  simp [quantizeMoney]

theorem floorToCent_le {x y : ℚ} (h : floorToCent x = .ok y) : y ≤ x := by
  rw [floorToCent_rat] at h
  rw [← h]
  exact roundTo_floor_le (by norm_num) x

theorem floorToInt_rat (x : ℚ) : floorToInt x = ⌊x⌋ := by
  simp [floorToInt, toInt, roundInt, truncate_intCast]

theorem multiple_of_roundToIncrement {mode : RoundingMode} {x increment y : ℚ}
    (h : roundToIncrement mode x increment = .ok y) : Multiple increment y := by
  simp only [roundToIncrement, Result.bind_eq_ok, Result.pure_eq_ok] at h
  obtain ⟨-, -, q, -, rfl⟩ := h
  exact ⟨roundInt mode q, by simp⟩

theorem capField_eq_ok {n : ℤ} {k : ℕ} : capField n = .ok k ↔ (k : ℤ) = n := by
  unfold capField
  split_ifs with h
  · simp only [Except.ok.injEq]
    omega
  · simp only [false_iff]
    omega

/-- The largest quantity whose cost at `b` a share is within `a`. -/
theorem le_quotientCap {a b : ℚ} {k : ℕ} (h : quotientCap a b = .ok k) (hb : 0 < b) (n : ℕ) :
    n ≤ k ↔ n * b ≤ a := by
  simp only [quotientCap, Result.bind_eq_ok, signals_eq_ok, capField_eq_ok] at h
  obtain ⟨q, hq, hk⟩ := h
  rw [(div_rat hq).2, floorToInt_rat] at hk
  rw [← Nat.cast_le (α := ℤ), hk, le_floor_div_iff hb, Int.cast_natCast]

theorem le_shareCap {x : ℚ} {k : ℕ} (h : capField (floorToInt x) = .ok k) (n : ℕ) :
    n ≤ k ↔ n ≤ x := by
  rw [capField_eq_ok, floorToInt_rat] at h
  rw [← Nat.cast_le (α := ℤ), h, Int.le_floor, Int.cast_natCast]

/-- A quantity is within the limit behind a cap. -/
def BindingCap.Allows (r : SizingRequest ℚ) (c : Calculations ℚ) (n : ℕ) : BindingCap → Prop
  | .tradeRisk => n * c.modeledRiskPerShare ≤ c.adjustedTradeRiskBudget
  | .openRisk => n * c.modeledRiskPerShare ≤ c.remainingOpenRiskCapacity
  | .dailyLoss => n * c.modeledRiskPerShare ≤ c.remainingHardLossCapacity
  | .buyingPower => n * c.plannedEntryLimit ≤ c.usableBuyingPower
  | .positionNotional => n * c.plannedEntryLimit ≤ c.maximumPositionNotional
  | .grossExposure => n * c.plannedEntryLimit ≤ c.remainingGrossExposure
  | .advLiquidity => n ≤ r.liquidity.adv20Shares * r.policy.maxPctAdv20
  | .premarketLiquidity => n ≤ r.liquidity.premarketVolume * r.policy.maxPctPremarketVolume

theorem le_cap_iff {r : SizingRequest ℚ} {c : Calculations ℚ} {caps : QuantityCaps}
    (h : quantityCaps r c = .ok caps) (hRisk : 0 < c.modeledRiskPerShare)
    (hEntry : 0 < c.plannedEntryLimit) (n : ℕ) :
    ∀ entry ∈ bindingOrder, n ≤ entry.2 caps ↔ entry.1.Allows r c n := by
  simp only [quantityCaps, Result.bind_eq_ok, Result.pure_eq_ok] at h
  obtain ⟨tradeRisk, h₁, openRisk, h₂, dailyLoss, h₃, buyingPower, h₄, positionNotional, h₅,
    grossExposure, h₆, advLiquidity, h₇, premarketLiquidity, h₈, rfl⟩ := h
  simp only [bindingOrder, List.forall_mem_cons, BindingCap.Allows]
  exact ⟨le_quotientCap h₁ hRisk n, le_quotientCap h₂ hRisk n, le_quotientCap h₃ hRisk n,
    le_quotientCap h₄ hEntry n, le_quotientCap h₅ hEntry n, le_quotientCap h₆ hEntry n,
    le_shareCap h₇ n, le_shareCap h₈ n, by simp⟩

end Exact

/-! ### The least cap -/

theorem QuantityCaps.le_finalQuantity (caps : QuantityCaps) (n : ℕ) :
    n ≤ caps.finalQuantity ↔ ∀ entry ∈ bindingOrder, n ≤ entry.2 caps := by
  have hLeast : (bindingOrder.map (·.2 caps)).min? = some caps.finalQuantity := rfl
  rw [List.le_min?_iff hLeast, List.forall_mem_map]

/-- The binding cap is the first one that a larger quantity exceeds. -/
theorem QuantityCaps.bindingCap_first (caps : QuantityCaps) :
    ∃ before entry after, bindingOrder = before ++ entry :: after ∧
      caps.bindingCap = some entry.1 ∧ ¬ caps.finalQuantity + 1 ≤ entry.2 caps ∧
      ∀ e ∈ before, caps.finalQuantity + 1 ≤ e.2 caps := by
  have hLe := (caps.le_finalQuantity caps.finalQuantity).mp le_rfl
  have hSome : (bindingOrder.find? fun e => e.2 caps == caps.finalQuantity).isSome := by
    by_contra h
    have hNe : ∀ e ∈ bindingOrder, e.2 caps ≠ caps.finalQuantity := by simpa using h
    have : caps.finalQuantity + 1 ≤ caps.finalQuantity :=
      (caps.le_finalQuantity _).mpr fun e he => by
        have := hLe e he
        have := hNe e he
        omega
    omega
  obtain ⟨entry, hEntry⟩ := Option.isSome_iff_exists.mp hSome
  obtain ⟨hEq, before, after, hOrder, hBefore⟩ := List.find?_eq_some_iff_append.mp hEntry
  refine ⟨before, entry, after, hOrder, by rw [bindingCap, hEntry]; rfl, ?_, ?_⟩
  · have := beq_iff_eq.mp hEq
    omega
  · intro e he
    have hNe : e.2 caps ≠ caps.finalQuantity := by simpa using hBefore e he
    have := hLe e (hOrder ▸ List.mem_append_left _ he)
    omega

/-! ### The approved quantity -/

/-- The limits of an approval, read off its caps. -/
theorem Approves.allows_iff {H : Canonical ℚ} {r : SizingRequest ℚ} {d : RiskDecision ℚ}
    {c : Calculations ℚ} {caps : QuantityCaps} (h : Approves H r d c caps) (n : ℕ) :
    ∀ entry ∈ bindingOrder, n ≤ entry.2 caps ↔ entry.1.Allows r c n :=
  le_cap_iff h.caps_eq h.passed.modeledRisk_pos (h.passed.stop_pos.trans h.passed.stop_lt_entry) n

theorem Approves.allows {H : Canonical ℚ} {r : SizingRequest ℚ} {d : RiskDecision ℚ}
    {c : Calculations ℚ} {caps : QuantityCaps} (h : Approves H r d c caps) (cap : BindingCap) :
    cap.Allows r c d.finalQuantity := by
  have hLe := (caps.le_finalQuantity d.finalQuantity).mp h.quantity.le
  have hAll : ∀ entry ∈ bindingOrder, entry.1.Allows r c d.finalQuantity :=
    fun entry he => (h.allows_iff _ entry he).mp (hLe entry he)
  simp only [bindingOrder, List.forall_mem_cons] at hAll
  obtain ⟨h₁, h₂, h₃, h₄, h₅, h₆, h₇, h₈, -⟩ := hAll
  cases cap <;> assumption

/-- A quantity of shares at a price on the grid of ten decimals keeps every digit. -/
theorem quantizeMoney_mul_nat {x y : ℚ} {n : ℕ} (hx : Multiple (10 ^ (-10 : ℤ)) x)
    (h : quantizeMoney (mul x (ofInt n)) = .ok y) : y = n * x := by
  rw [quantizeMoney_rat, mul_rat, ofInt_rat,
    roundTo_of_multiple _ (by norm_num) (hx.intCast_mul n)] at h
  rw [← h, Int.cast_natCast, mul_comm]

theorem Approves.reservedModeledRisk_eq {H : Canonical ℚ} {r : SizingRequest ℚ}
    {d : RiskDecision ℚ} {c : Calculations ℚ} {caps : QuantityCaps} (h : Approves H r d c caps) :
    d.reservedModeledRisk = some (d.finalQuantity * c.modeledRiskPerShare) := by
  obtain ⟨risk, hd, hRisk⟩ := h.reservedModeledRisk
  have hGrid : Multiple (10 ^ (-10 : ℤ)) c.modeledRiskPerShare := by
    rw [← quantizeMoney_rat.mp h.calculated.modeledRiskPerShare]
    exact multiple_roundTo _ _ _
  rw [hd, quantizeMoney_mul_nat hGrid hRisk]

theorem Approves.reservedNotional_eq {H : Canonical ℚ} {r : SizingRequest ℚ}
    {d : RiskDecision ℚ} {c : Calculations ℚ} {caps : QuantityCaps} (h : Approves H r d c caps)
    (hTick : IsMoney r.tickSize) :
    d.reservedNotional = some (d.finalQuantity * c.plannedEntryLimit) := by
  obtain ⟨notional, hd, hNotional⟩ := h.reservedNotional
  have hGrid : Multiple (10 ^ (-10 : ℤ)) c.plannedEntryLimit :=
    (multiple_of_roundToIncrement h.calculated.plannedEntryLimit).trans hTick.multiple
  rw [hd, quantizeMoney_mul_nat hGrid hNotional]

/-- An approved quantity respects the eight limits and the price geometry, one
share more breaks a limit, the binding cap is the first it breaks, and the
reserved amounts are exact products. -/
structure SoundAndMaximal (r : SizingRequest ℚ) (d : RiskDecision ℚ) (c : Calculations ℚ) :
    Prop where
  reports : d.Reports c
  quantity_pos : 1 ≤ d.finalQuantity
  allows : ∀ cap : BindingCap, cap.Allows r c d.finalQuantity
  stop_pos : 0 < c.stopPrice
  stop_lt_entry : c.stopPrice < c.plannedEntryLimit
  entry_lt_target : c.plannedEntryLimit < c.targetPrice
  stop_le_premarketLow :
    c.stopPrice ≤ roundTo .halfEven (10 ^ (-10 : ℤ)) r.setup.tradeParameters.premarketLowUsed
  maximal : ∃ cap : BindingCap, ¬ cap.Allows r c (d.finalQuantity + 1)
  bindingCap : ∃ before cap after, bindingOrder.map (·.1) = before ++ cap :: after ∧
    d.bindingCap = some cap ∧ ¬ cap.Allows r c (d.finalQuantity + 1) ∧
    ∀ earlier ∈ before, BindingCap.Allows r c (d.finalQuantity + 1) earlier
  reservedModeledRisk : d.reservedModeledRisk = some (d.finalQuantity * c.modeledRiskPerShare)
  reservedNotional : d.reservedNotional = some (d.finalQuantity * c.plannedEntryLimit)

theorem Approves.bindingCap_first {H : Canonical ℚ} {r : SizingRequest ℚ} {d : RiskDecision ℚ}
    {c : Calculations ℚ} {caps : QuantityCaps} (h : Approves H r d c caps) :
    ∃ before cap after, bindingOrder.map (·.1) = before ++ cap :: after ∧
      d.bindingCap = some cap ∧ ¬ cap.Allows r c (d.finalQuantity + 1) ∧
      ∀ earlier ∈ before, BindingCap.Allows r c (d.finalQuantity + 1) earlier := by
  obtain ⟨before, entry, after, hOrder, hCap, hBreaks, hBefore⟩ := caps.bindingCap_first
  have hMem : ∀ e ∈ before ++ entry :: after, e ∈ bindingOrder := fun e he => hOrder ▸ he
  refine ⟨before.map (·.1), entry.1, after.map (·.1), by simp [hOrder], h.bindingCap.trans hCap,
    ?_, ?_⟩
  · rw [h.quantity, ← h.allows_iff _ entry (hMem entry (by simp))]
    exact hBreaks
  · rintro _ hEarlier
    obtain ⟨e, he, rfl⟩ := List.mem_map.mp hEarlier
    rw [h.quantity, ← h.allows_iff _ e (hMem e (List.mem_append_left _ he))]
    exact hBefore e he

theorem approved_quantity_sound_and_maximal (H : Canonical ℚ) (newYorkDate : Timestamp → Date)
    (r : SizingRequest ℚ) (d : RiskDecision ℚ) (hr : r.Valid newYorkDate)
    (h : sizePosition H r = .ok d) (ha : d.decision = .approved) :
    ∃ c, SoundAndMaximal r d c := by
  obtain ⟨c, caps, h⟩ := sizePosition_approves h ha
  have hLow := quantizeMoney_rat.mp h.calculated.premarketLow
  obtain ⟨before, cap, after, hOrder, hCap, hBreaks, hBefore⟩ := h.bindingCap_first
  exact ⟨c, {
    reports := h.reports
    quantity_pos := h.quantity_pos
    allows := h.allows
    stop_pos := h.passed.stop_pos
    stop_lt_entry := h.passed.stop_lt_entry
    entry_lt_target := h.passed.entry_lt_target
    stop_le_premarketLow := hLow ▸ h.passed.stop_le_premarketLow
    maximal := ⟨cap, hBreaks⟩
    bindingCap := ⟨before, cap, after, hOrder, hCap, hBreaks, hBefore⟩
    reservedModeledRisk := h.reservedModeledRisk_eq
    reservedNotional := h.reservedNotional_eq hr.tickSize }⟩

/-! ### A request that is approved -/

/-- A paper account of fifty thousand that buys near twenty. -/
def sampleRequest (D : Type) [DecimalArithmetic D] : SizingRequest D where
  requestId := "request-1"
  runId := "run-1"
  tradingDate := ⟨2026, 8, 3⟩
  finalRank := 1
  calculatedAt := 1785763800500000
  executionCutoffTimestamp := 1785763830500000
  setup := {
    ticker := "AAAA"
    riskFlags := []
    tradeParameters := {
      referencePrice := literal 200 (-1)
      atrValueUsed := literal 10 (-1)
      premarketLowUsed := literal 192 (-1)
      riskStopAtrMultiple := literal 10 (-1)
      profitTargetAtrMultiple := literal 20 (-1) }
    evidence := "" }
  policy := .paperV1 D
  account := {
    snapshotTimestamp := 1785763800300000
    status := "ACTIVE"
    accountBlocked := false
    tradingBlocked := false
    tradeSuspendedByUser := false
    equity := literal 50000 0
    lastEquity := literal 50000 0
    cash := literal 20000 0
    buyingPower := literal 20000 0
    nonMarginableBuyingPower := literal 20000 0
    regtBuyingPower := literal 20000 0
    initialMargin := literal 0 0
    maintenanceMargin := literal 0 0
    longMarketValue := literal 0 0
    multiplier := literal 1 0
    pendingTransferIn := literal 0 0
    pendingTransferOut := literal 0 0 }
  quote := {
    quoteTimestamp := 1785763800400000
    lastTradeTimestamp := 1785763800420000
    bidPrice := literal 2004 (-2)
    askPrice := literal 2006 (-2)
    bidSize := 500
    askSize := 500
    lastPrice := literal 2005 (-2)
    firstRegularSessionNbboConfirmed := true }
  liquidity := {
    premarketVolume := 1000000
    adv20Shares := 5000000
    assetTradable := true
    assetFractionable := false
    assetMarginable := false
    assetStatus := "active" }
  session := {
    sessionReferenceEquity := literal 50000 0
    sessionStartEquity := literal 50000 0
    netExternalCashFlow := literal 0 0
    internalRealizedPnl := literal 0 0
    internalUnrealizedPnl := literal 0 0
    currentTotalOpenRisk := literal 0 0
    reservedEntryNotional := literal 0 0
    currentLongMarketValue := literal 0 0
    openDaybreakPositionCount := 0
    reservedEntryPositionCount := 0
    completedEntryCount := 0
    consecutiveClosedLosses := 0
    tradedTickersToday := []
    accountStateReconciled := true
    streamsHealthy := true
    databaseHealthy := true
    killSwitchActive := false }
  plannedEntryLimit := literal 2006 (-2)
  tickSize := literal 1 (-2)
  marketStatusNormal := true
  symbolHalted := false
  configurationHash := "aaaaaaaaaaaaaaaaaaaaaaaaaaaaaaaaaaaaaaaaaaaaaaaaaaaaaaaaaaaaaaaa"

/-- Hashes for evaluation: the true digest of the sample's run, and texts that
tell requests and decisions apart. -/
def sampleCanonical (D : Type) : Canonical D where
  textSha256 _ := "e4eec6448d10579e9dc3ef181f1393b1db18456019de25b0cef8bf29c51f264c"
  requestSha256 r := r.requestId ++ "/" ++ toString r.session.reservedEntryPositionCount
  decisionSha256 d := d.inputHash
  decisionJson d := d.decisionHash

theorem sampleRequest_quantity_sound_and_maximal :
    ∃ d c, sizePosition (sampleCanonical ℚ) (sampleRequest ℚ) = .ok d ∧ d.finalQuantity = 107 ∧
      SoundAndMaximal (sampleRequest ℚ) d c := by
  have hOk : ∃ d, sizePosition (sampleCanonical ℚ) (sampleRequest ℚ) = .ok d ∧
      d.decision = .approved ∧ d.finalQuantity = 107 := by
    decide +kernel
  obtain ⟨d, hd, ha, hq⟩ := hOk
  obtain ⟨c, hc⟩ := approved_quantity_sound_and_maximal (sampleCanonical ℚ)
    (fun _ => ⟨2026, 8, 3⟩) (sampleRequest ℚ) d (by decide +kernel) hd ha
  exact ⟨d, c, hd, hq, hc⟩

end Daybreak.Risk
