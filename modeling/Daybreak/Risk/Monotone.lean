import Daybreak.Risk.Sizing

/-! Sizing against the risk already taken. Of two requests that differ only in what has been
taken on before, the one with less is approved whenever the other is, and for no fewer shares:
every number that a gate or a cap reads moves the right way through each floor. -/

namespace Daybreak.Risk

open Numeric DecimalArithmetic

/-! ### The risk taken -/

/-- What a request says of the risk already taken. -/
structure RiskTaken where
  currentTotalOpenRisk : ℚ
  reservedEntryNotional : ℚ
  currentLongMarketValue : ℚ
  openDaybreakPositionCount : ℕ
  reservedEntryPositionCount : ℕ
  completedEntryCount : ℕ
  consecutiveClosedLosses : ℕ
  tradedTickersToday : List String
  riskFlags : List RiskFlag

def SizingRequest.riskTaken (r : SizingRequest ℚ) : RiskTaken where
  currentTotalOpenRisk := r.session.currentTotalOpenRisk
  reservedEntryNotional := r.session.reservedEntryNotional
  currentLongMarketValue := r.session.currentLongMarketValue
  openDaybreakPositionCount := r.session.openDaybreakPositionCount
  reservedEntryPositionCount := r.session.reservedEntryPositionCount
  completedEntryCount := r.session.completedEntryCount
  consecutiveClosedLosses := r.session.consecutiveClosedLosses
  tradedTickersToday := r.session.tradedTickersToday
  riskFlags := r.setup.riskFlags

/-- The request with another account of the risk taken. -/
def SizingRequest.withRisk (r : SizingRequest ℚ) (taken : RiskTaken) : SizingRequest ℚ :=
  { r with
    session := { r.session with
      currentTotalOpenRisk := taken.currentTotalOpenRisk
      reservedEntryNotional := taken.reservedEntryNotional
      currentLongMarketValue := taken.currentLongMarketValue
      openDaybreakPositionCount := taken.openDaybreakPositionCount
      reservedEntryPositionCount := taken.reservedEntryPositionCount
      completedEntryCount := taken.completedEntryCount
      consecutiveClosedLosses := taken.consecutiveClosedLosses
      tradedTickersToday := taken.tradedTickersToday }
    setup := { r.setup with riskFlags := taken.riskFlags } }

structure RiskTaken.AtMost (less more : RiskTaken) : Prop where
  openRisk : less.currentTotalOpenRisk ≤ more.currentTotalOpenRisk
  reservedNotional : less.reservedEntryNotional ≤ more.reservedEntryNotional
  longMarketValue : less.currentLongMarketValue ≤ more.currentLongMarketValue
  openPositions : less.openDaybreakPositionCount ≤ more.openDaybreakPositionCount
  reservedPositions : less.reservedEntryPositionCount ≤ more.reservedEntryPositionCount
  entries : less.completedEntryCount ≤ more.completedEntryCount
  losses : less.consecutiveClosedLosses ≤ more.consecutiveClosedLosses
  tickers : less.tradedTickersToday ⊆ more.tradedTickersToday
  flags : less.riskFlags ⊆ more.riskFlags

variable {r : SizingRequest ℚ} {taken : RiskTaken} {c c' : Calculations ℚ} {H : Canonical ℚ}
  {caps caps' : QuantityCaps} {d' : RiskDecision ℚ}

/-! ### The multiplier -/

theorem le_foldl_pyMin {x first : ℚ} {rest : List ℚ} :
    x ≤ rest.foldl pyMin first ↔ x ≤ first ∧ ∀ y ∈ rest, x ≤ y := by
  induction rest generalizing first with
  | nil => simp
  | cons y rest ih =>
    rw [List.foldl_cons, ih, pyMin_rat, le_min_iff, List.forall_mem_cons, and_assoc]

theorem riskFlagMultipliers_bounds (flag : RiskFlag) :
    0 < (riskFlagMultipliers flag : ℚ) ∧ (riskFlagMultipliers flag : ℚ) ≤ 1 := by
  cases flag <;> norm_num [riskFlagMultipliers]

theorem le_minMultiplier {flags : List RiskFlag} {x : ℚ} :
    x ≤ minMultiplier flags ↔ x ≤ 1 ∧ ∀ flag ∈ flags, x ≤ riskFlagMultipliers flag := by
  cases flags with
  | nil => norm_num [minMultiplier]
  | cons flag flags =>
    rw [minMultiplier, le_foldl_pyMin, List.forall_mem_map, List.forall_mem_cons]
    constructor
    · intro h
      exact ⟨h.1.trans (riskFlagMultipliers_bounds flag).2, h⟩
    · intro h
      exact h.2

theorem minMultiplier_le_one (flags : List RiskFlag) : (minMultiplier flags : ℚ) ≤ 1 :=
  (le_minMultiplier.mp le_rfl).1

/-- More flags leave no larger multiplier. -/
theorem minMultiplier_anti {flags flags' : List RiskFlag} (h : flags ⊆ flags') :
    (minMultiplier flags' : ℚ) ≤ minMultiplier flags := by
  obtain ⟨hOne, hFlags⟩ := le_minMultiplier.mp (le_refl (minMultiplier flags' : ℚ))
  exact le_minMultiplier.mpr ⟨hOne, fun flag hFlag => hFlags flag (h hFlag)⟩

/-! ### The numbers -/

/-- Six numbers may be larger, and the others are the same. -/
structure Loosens (c c' : Calculations ℚ) : Prop where
  others : c' = { c with
    usableBuyingPower := c'.usableBuyingPower
    riskFlagMultiplier := c'.riskFlagMultiplier
    adjustedTradeRiskBudget := c'.adjustedTradeRiskBudget
    remainingOpenRiskCapacity := c'.remainingOpenRiskCapacity
    remainingHardLossCapacity := c'.remainingHardLossCapacity
    remainingGrossExposure := c'.remainingGrossExposure }
  usableBuyingPower : c'.usableBuyingPower ≤ c.usableBuyingPower
  adjustedTradeRiskBudget : c'.adjustedTradeRiskBudget ≤ c.adjustedTradeRiskBudget
  remainingOpenRiskCapacity : c'.remainingOpenRiskCapacity ≤ c.remainingOpenRiskCapacity
  remainingHardLossCapacity : c'.remainingHardLossCapacity ≤ c.remainingHardLossCapacity
  remainingGrossExposure : c'.remainingGrossExposure ≤ c.remainingGrossExposure

/-- The floor of a larger amount is larger. -/
theorem exists_floorToCent {x y x' : ℚ} (h : floorToCent x' = .ok y) (hLe : x' ≤ x) :
    ∃ z, floorToCent x = .ok z ∧ y ≤ z := by
  refine ⟨_, floorToCent_rat.mpr rfl, ?_⟩
  rw [← floorToCent_rat.mp h]
  exact roundTo_floor_mono (by norm_num) hLe

theorem calculate_withRisk (hMore : r.riskTaken.AtMost taken)
    (hBudget : 0 ≤ r.session.sessionReferenceEquity * r.policy.riskPerTradePct) (h : calculate (r.withRisk taken) = .ok c') :
    ∃ c, calculate r = .ok c ∧ Loosens c c' ∧
      floorToCent (mul c.baseTradeRiskBudget (minMultiplier r.setup.riskFlags)) =
        .ok c.adjustedTradeRiskBudget ∧ 0 ≤ c.baseTradeRiskBudget := by
  have hComputes := calculate_iff.mp h
  obtain ⟨gross, hGross, hRemaining⟩ := hComputes.remainingGrossExposure
  have hAdjusted := hComputes.adjustedTradeRiskBudget
  rw [hComputes.riskFlagMultiplier] at hAdjusted
  have hBaseNonneg : 0 ≤ c'.baseTradeRiskBudget := by
    rw [← floorToCent_rat.mp hComputes.baseTradeRiskBudget]
    exact (by simp [roundTo, roundInt] : (0 : ℚ) ≤ roundTo .floor (10 ^ (-2 : ℤ)) 0).trans
      (roundTo_floor_mono (by norm_num) hBudget)
  -- the numbers that read the risk taken
  obtain ⟨usable, hUsable, hUsableLe⟩ := exists_floorToCent hComputes.usableBuyingPower
    (sub_le_sub_left hMore.reservedNotional _)
  obtain ⟨adjusted, hAdjusted, hAdjustedLe⟩ := exists_floorToCent hAdjusted
    (mul_le_mul_of_nonneg_left (minMultiplier_anti hMore.flags) hBaseNonneg)
  obtain ⟨openRisk, hOpenRisk, hOpenRiskLe⟩ :=
    exists_floorToCent hComputes.remainingOpenRiskCapacity (sub_le_sub_left hMore.openRisk _)
  obtain ⟨hardLoss, hHardLoss, hHardLossLe⟩ :=
    exists_floorToCent hComputes.remainingHardLossCapacity (sub_le_sub_left hMore.openRisk _)
  obtain ⟨remaining, hRemaining, hRemainingLe⟩ := exists_floorToCent hRemaining
    (sub_le_sub_left (add_le_add hMore.longMarketValue hMore.reservedNotional) _)
  refine ⟨{ c' with
    usableBuyingPower := usable
    riskFlagMultiplier := minMultiplier r.setup.riskFlags
    adjustedTradeRiskBudget := adjusted
    remainingOpenRiskCapacity := openRisk
    remainingHardLossCapacity := hardLoss
    remainingGrossExposure := remaining }, calculate_iff.mpr ?_, ?_, hAdjusted, hBaseNonneg⟩
  · exact { hComputes with
      usableBuyingPower := hUsable
      riskFlagMultiplier := rfl
      adjustedTradeRiskBudget := hAdjusted
      remainingOpenRiskCapacity := hOpenRisk
      remainingHardLossCapacity := hHardLoss
      remainingGrossExposure := ⟨gross, hGross, hRemaining⟩ }
  · exact ⟨rfl, hUsableLe, hAdjustedLe, hOpenRiskLe, hHardLossLe, hRemainingLe⟩

/-! ### The gates -/

theorem rejectionReasons_eq_nil_iff :
    rejectionReasons r c = [] ↔ ∀ g ∈ gates r c, g.1 = false := by
  rw [rejectionReasons, List.map_eq_nil_iff, List.filter_eq_nil_iff]
  simp only [Bool.not_eq_true]

theorem gate_refuses {p : Prop} [Decidable p] {code : RiskRejectionCode} :
    (gate p code).1 = true ↔ p := decide_eq_true_iff

/-- A gate that refuses the request with less taken refuses the other one. -/
theorem gates_withRisk (hMore : r.riskTaken.AtMost taken) (hLoose : Loosens c c') :
    List.Forall₂ (fun g g' => g.1 = true → g'.1 = true) (gates r c)
      (gates (r.withRisk taken) c') := by
  have hOthers := hLoose.others
  obtain ⟨-, hUsable, -, hOpenRisk, hHardLoss, hGross⟩ := hLoose
  obtain ⟨-, -, -, hOpen, hReserved, hEntries, hLosses, hTickers, -⟩ := hMore
  rw [hOthers]
  simp only [gates, List.forall₂_cons, gate_refuses, List.Forall₂.nil, and_true]
  simp only [SizingRequest.withRisk, hardLossHit, imp_self, true_and, value_rat]
  exact ⟨fun h => h.trans hLosses, fun h => h.trans hEntries, fun h => hTickers h,
    fun h => h.trans (add_le_add hOpen hReserved), hUsable.trans, hOpenRisk.trans,
    hHardLoss.trans, hGross.trans⟩

theorem forall_false_of_forall₂ {gs gs' : List (Bool × RiskRejectionCode)}
    (h : List.Forall₂ (fun g g' => g.1 = true → g'.1 = true) gs gs')
    (hFalse : ∀ g ∈ gs', g.1 = false) : ∀ g ∈ gs, g.1 = false := by
  induction h with
  | nil => simp
  | @cons g g' gs gs' hFirst _ ih =>
    rw [List.forall_mem_cons] at hFalse ⊢
    constructor
    · rw [← Bool.not_eq_true]
      intro hTrue
      have := hFirst hTrue
      simp [hFalse.1] at this
    · exact ih hFalse.2

theorem rejectionReasons_withRisk (hMore : r.riskTaken.AtMost taken) (hLoose : Loosens c c')
    (h : rejectionReasons (r.withRisk taken) c' = []) : rejectionReasons r c = [] :=
  rejectionReasons_eq_nil_iff.mpr
    (forall_false_of_forall₂ (gates_withRisk hMore hLoose) (rejectionReasons_eq_nil_iff.mp h))

/-! ### The caps -/

theorem quotientCap_mono {a a' b : ℚ} {k : ℕ} (h : quotientCap a' b = .ok k) (hb : 0 < b)
    (hLe : a' ≤ a) : ∃ n, quotientCap a b = .ok n ∧ k ≤ n := by
  have hFloor : ⌊a' / b⌋ ≤ ⌊a / b⌋ := Int.floor_mono ((div_le_div_iff_of_pos_right hb).mpr hLe)
  simp only [quotientCap, Result.bind_eq_ok, signals_eq_ok, capField_eq_ok] at h
  obtain ⟨q, hq, hk⟩ := h
  rw [(div_rat hq).2, floorToInt_rat] at hk
  refine ⟨⌊a / b⌋.toNat, ?_, ?_⟩
  · simp only [quotientCap, Result.bind_eq_ok, signals_eq_ok, capField_eq_ok]
    refine ⟨a / b, if_neg hb.ne', ?_⟩
    rw [floorToInt_rat]
    omega
  · omega

theorem QuantityCaps.finalQuantity_mono
    (h : ∀ entry ∈ bindingOrder, entry.2 caps' ≤ entry.2 caps) :
    caps'.finalQuantity ≤ caps.finalQuantity := by
  rw [caps.le_finalQuantity]
  intro entry hEntry
  exact ((caps'.le_finalQuantity _).mp le_rfl entry hEntry).trans (h entry hEntry)

theorem quantityCaps_withRisk (hLoose : Loosens c c')
    (h : quantityCaps (r.withRisk taken) c' = .ok caps') (hRisk : 0 < c.modeledRiskPerShare)
    (hEntry : 0 < c.plannedEntryLimit) :
    ∃ caps, quantityCaps r c = .ok caps ∧ caps'.finalQuantity ≤ caps.finalQuantity := by
  have hOthers := hLoose.others
  obtain ⟨-, hUsable, hAdjusted, hOpenRisk, hHardLoss, hGross⟩ := hLoose
  rw [hOthers] at h
  simp only [quantityCaps, Result.bind_eq_ok, Result.pure_eq_ok] at h
  obtain ⟨tradeRisk, h₁, openRisk, h₂, dailyLoss, h₃, buyingPower, h₄, positionNotional, h₅,
    grossExposure, h₆, advLiquidity, h₇, premarketLiquidity, h₈, rfl⟩ := h
  obtain ⟨tradeRisk₁, h₁, hLe₁⟩ := quotientCap_mono h₁ hRisk hAdjusted
  obtain ⟨openRisk₁, h₂, hLe₂⟩ := quotientCap_mono h₂ hRisk hOpenRisk
  obtain ⟨dailyLoss₁, h₃, hLe₃⟩ := quotientCap_mono h₃ hRisk hHardLoss
  obtain ⟨buyingPower₁, h₄, hLe₄⟩ := quotientCap_mono h₄ hEntry hUsable
  obtain ⟨grossExposure₁, h₆, hLe₆⟩ := quotientCap_mono h₆ hEntry hGross
  refine ⟨⟨tradeRisk₁, openRisk₁, dailyLoss₁, buyingPower₁, positionNotional, grossExposure₁,
    advLiquidity, premarketLiquidity⟩, ?_, ?_⟩
  · simp only [quantityCaps, Result.bind_eq_ok, Result.pure_eq_ok]
    exact ⟨tradeRisk₁, h₁, openRisk₁, h₂, dailyLoss₁, h₃, buyingPower₁, h₄, positionNotional, h₅,
      grossExposure₁, h₆, advLiquidity, h₇, premarketLiquidity, h₈, rfl⟩
  · apply QuantityCaps.finalQuantity_mono
    simp only [bindingOrder, List.forall_mem_cons]
    exact ⟨hLe₁, hLe₂, hLe₃, hLe₄, le_rfl, hLe₆, le_rfl, le_rfl, by simp⟩

/-! ### The amounts of the decision -/

/-- A positive amount on the grid that is within an amount of money is one. -/
theorem isMoney_of_le {x y : ℚ} (hGrid : Multiple (10 ^ (-10 : ℤ)) x) (hPos : 0 < x)
    (hLe : x ≤ y) (hy : IsMoney y) : IsMoney x := by
  obtain ⟨n, rfl⟩ := hGrid
  constructor
  · have hInt : (n : ℚ) * 10 ^ (-10 : ℤ) * 10 ^ 10 = n := by
      rw [mul_assoc]
      norm_num
    rw [hInt]
    exact Rat.den_intCast n
  · rw [abs_of_pos hPos]
    exact hLe.trans_lt ((le_abs_self y).trans_lt hy.2)

theorem multiple_floorToCent {x y : ℚ} (h : floorToCent x = .ok y) :
    Multiple (10 ^ (-10 : ℤ)) y := by
  rw [← floorToCent_rat.mp h]
  exact (multiple_roundTo _ _ _).trans ⟨10 ^ 8, by norm_num⟩

/-- A share of the equity, floored to the cent, is no more than the equity. -/
theorem floorToCent_share_le {equity pct y : ℚ} (h : floorToCent (mul equity pct) = .ok y)
    (hEquity : 0 < equity) (hPct : pct < 1) : y ≤ equity :=
  (floorToCent_le h).trans (mul_le_of_le_one_right hEquity.le hPct.le)

/-- The five amounts that what was taken reduces are amounts of money while they are positive. -/
theorem isMoney_capacities {newYorkDate : Timestamp → Date} (hr : r.Valid newYorkDate)
    (hCalculated : Calculated r c) (hMaxOpen : IsMoney c.maximumTotalOpenRisk)
    (hUsable : 0 < c.usableBuyingPower) (hOpenRisk : 0 < c.remainingOpenRiskCapacity)
    (hHardLoss : 0 < c.remainingHardLossCapacity) (hGross : 0 < c.remainingGrossExposure) :
    IsMoney c.usableBuyingPower ∧ IsMoney c.remainingOpenRiskCapacity ∧
      IsMoney c.remainingHardLossCapacity ∧ IsMoney c.remainingGrossExposure := by
  obtain ⟨⟨-, -, ⟨hPolicy, -⟩, ⟨hAccount, -⟩, -, -, ⟨hSession, hSigns, -⟩, -⟩, -⟩ := hr
  obtain ⟨-, -, -, ⟨-, hGrossPct⟩, ⟨hReserveNonneg, hReserve⟩, -, -, -, ⟨-, hHardPct⟩, -⟩ := hPolicy
  obtain ⟨hEquityPos, -, hTakenRisk, hTakenNotional, hTakenValue⟩ := hSigns
  have hEquity : IsMoney r.session.sessionReferenceEquity := hSession _ (by simp)
  have hPower : IsMoney r.account.buyingPower := hAccount _ (by simp)
  simp only [value_rat] at *
  refine ⟨?_, ?_, ?_, ?_⟩
  · refine isMoney_of_le (multiple_floorToCent hCalculated.usableBuyingPower) hUsable ?_ hPower
    have hFloor : c.usableBuyingPower ≤
        min r.account.nonMarginableBuyingPower r.account.buyingPower *
          (1 - r.policy.buyingPowerReservePct) - r.session.reservedEntryNotional := by
      simpa using floorToCent_le hCalculated.usableBuyingPower
    have hShare : 0 < 1 - r.policy.buyingPowerReservePct := sub_pos.mpr hReserve
    have hLeast : 0 < min r.account.nonMarginableBuyingPower r.account.buyingPower := by
      rw [← mul_pos_iff_of_pos_right hShare]
      linarith
    calc c.usableBuyingPower
        ≤ min r.account.nonMarginableBuyingPower r.account.buyingPower *
            (1 - r.policy.buyingPowerReservePct) := hFloor.trans (sub_le_self _ hTakenNotional)
      _ ≤ min r.account.nonMarginableBuyingPower r.account.buyingPower :=
          mul_le_of_le_one_right hLeast.le (sub_le_self _ hReserveNonneg)
      _ ≤ r.account.buyingPower := min_le_right _ _
  · refine isMoney_of_le (multiple_floorToCent hCalculated.remainingOpenRiskCapacity) hOpenRisk
      ?_ hMaxOpen
    exact (floorToCent_le hCalculated.remainingOpenRiskCapacity).trans
      (sub_le_self _ hTakenRisk)
  · refine isMoney_of_le (multiple_floorToCent hCalculated.remainingHardLossCapacity) hHardLoss
      ?_ hEquity
    have hLoss : 0 ≤ currentLoss c.riskSessionPnl := by simp [currentLoss]
    calc c.remainingHardLossCapacity
        ≤ c.hardDailyLossLimit - currentLoss c.riskSessionPnl - r.session.currentTotalOpenRisk :=
          floorToCent_le hCalculated.remainingHardLossCapacity
      _ ≤ c.hardDailyLossLimit - currentLoss c.riskSessionPnl := sub_le_self _ hTakenRisk
      _ ≤ c.hardDailyLossLimit := sub_le_self _ hLoss
      _ ≤ r.session.sessionReferenceEquity :=
          floorToCent_share_le hCalculated.hardDailyLossLimit hEquityPos hHardPct
  · obtain ⟨gross, hLimit, hRemaining⟩ := hCalculated.remainingGrossExposure
    refine isMoney_of_le (multiple_floorToCent hRemaining) hGross ?_ hEquity
    calc c.remainingGrossExposure
        ≤ gross - (r.session.currentLongMarketValue + r.session.reservedEntryNotional) :=
          floorToCent_le hRemaining
      _ ≤ gross := sub_le_self _ (add_nonneg hTakenValue hTakenNotional)
      _ ≤ r.session.sessionReferenceEquity := floorToCent_share_le hLimit hEquityPos hGrossPct

theorem approved_quantity (h : approved H r c caps = .ok d') :
    d'.decision = .approved ∧ d'.finalQuantity = caps.finalQuantity := by
  simp only [approved, Result.bind_eq_ok] at h
  obtain ⟨_, -, _, -, _, -, hFinal⟩ := h
  rw [(finalizeDecision_eq_ok.mp hFinal).1]
  exact ⟨rfl, rfl⟩

/-- What an approval needs beyond the gates and the caps: every amount that it states is an
amount of money. -/
theorem approved_of_amounts {newYorkDate : Timestamp → Date} (hr : r.Valid newYorkDate)
    (hCalculated : Calculated r c) (hReasons : rejectionReasons r c = [])
    (hCaps : quantityCaps r c = .ok caps) (hQuantity : 1 ≤ caps.finalQuantity)
    (hBudget : floorToCent (mul c.baseTradeRiskBudget (minMultiplier r.setup.riskFlags)) =
      .ok c.adjustedTradeRiskBudget) (hBase : 0 ≤ c.baseTradeRiskBudget)
    (hAmounts : ∀ x ∈ [c.brokerSessionPnl, c.internalSessionPnl, c.riskSessionPnl,
      c.baseTradeRiskBudget, c.plannedEntryLimit, c.stopPrice, c.targetPrice,
      c.structuralRiskPerShare, c.executionRiskBuffer, c.modeledRiskPerShare,
      c.maximumTotalOpenRisk, c.maximumPositionNotional], IsMoney x)
    (hClient : 1 ≤ (clientOrderId H r).length ∧ (clientOrderId H r).length ≤ 48) :
    ∃ d, approved H r c caps = .ok d := by
  simp only [List.forall_mem_cons] at hAmounts
  obtain ⟨hBroker, hInternal, hPnl, hBaseMoney, hEntryMoney, hStop, hTarget, hStructural, hBuffer,
    hModeledMoney, hMaxOpen, hMaxNotional, -⟩ := hAmounts
  have hPassed := gatesPassed_of_nil hReasons
  have hModeled : 0 < c.modeledRiskPerShare := hPassed.modeledRisk_pos
  have hEntry : 0 < c.plannedEntryLimit := hPassed.stop_pos.trans hPassed.stop_lt_entry
  have hCount : (0 : ℚ) < caps.finalQuantity := by exact_mod_cast hQuantity
  -- the reserved amounts stay within what the caps allow
  have hAllows : ∀ entry ∈ bindingOrder, entry.1.Allows r c caps.finalQuantity := by
    intro entry hMem
    exact (le_cap_iff hCaps hModeled hEntry _ entry hMem).mp
      ((caps.le_finalQuantity _).mp le_rfl entry hMem)
  simp only [bindingOrder, List.forall_mem_cons, BindingCap.Allows] at hAllows
  obtain ⟨hTradeRisk, hOpenRisk, hDailyLoss, hPower, -, hGross, -⟩ := hAllows
  have hRisk : 0 < caps.finalQuantity * c.modeledRiskPerShare := mul_pos hCount hModeled
  have hNotional : 0 < caps.finalQuantity * c.plannedEntryLimit := mul_pos hCount hEntry
  obtain ⟨hUsableMoney, hOpenMoney, hLossMoney, hGrossMoney⟩ := isMoney_capacities hr hCalculated
    hMaxOpen (hNotional.trans_le hPower) (hRisk.trans_le hOpenRisk) (hRisk.trans_le hDailyLoss)
    (hNotional.trans_le hGross)
  have hAdjustedMoney : IsMoney c.adjustedTradeRiskBudget := by
    refine isMoney_of_le (multiple_floorToCent hBudget) (hRisk.trans_le hTradeRisk) ?_ hBaseMoney
    exact (floorToCent_le hBudget).trans (mul_le_of_le_one_right hBase (minMultiplier_le_one _))
  have hRiskGrid : Multiple (10 ^ (-10 : ℤ)) c.modeledRiskPerShare := hModeledMoney.multiple
  have hEntryGrid : Multiple (10 ^ (-10 : ℤ)) c.plannedEntryLimit := hEntryMoney.multiple
  have hRiskMoney : IsMoney (caps.finalQuantity * c.modeledRiskPerShare) :=
    isMoney_of_le (by simpa [mul_comm] using hRiskGrid.intCast_mul caps.finalQuantity) hRisk
      hTradeRisk hAdjustedMoney
  have hNotionalMoney : IsMoney (caps.finalQuantity * c.plannedEntryLimit) :=
    isMoney_of_le (by simpa [mul_comm] using hEntryGrid.intCast_mul caps.finalQuantity) hNotional
      hPower hUsableMoney
  have hRiskEq : quantizeMoney (mul c.modeledRiskPerShare (ofInt caps.finalQuantity)) =
      .ok (caps.finalQuantity * c.modeledRiskPerShare) :=
    quantizeMoney_rat.mpr (quantizeMoney_mul_nat hRiskGrid (quantizeMoney_rat.mpr rfl))
  have hNotionalEq : quantizeMoney (mul c.plannedEntryLimit (ofInt caps.finalQuantity)) =
      .ok (caps.finalQuantity * c.plannedEntryLimit) :=
    quantizeMoney_rat.mpr (quantizeMoney_mul_nat hEntryGrid (quantizeMoney_rat.mpr rfl))
  obtain ⟨⟨hRank, ⟨hTicker, -⟩, -, -, -, -, ⟨hSession, -⟩, -⟩, -⟩ := hr
  have hEquity : IsMoney r.session.sessionReferenceEquity := hSession _ (by simp)
  obtain ⟨cap, hCap⟩ : ∃ cap, caps.bindingCap = some cap := by
    obtain ⟨-, entry, -, -, hEntry, -⟩ := caps.bindingCap_first
    exact ⟨_, hEntry⟩
  obtain ⟨reservation, hReserve⟩ : ∃ reservation, reserve H r caps.finalQuantity
      (caps.finalQuantity * c.plannedEntryLimit) (caps.finalQuantity * c.modeledRiskPerShare) =
        .ok reservation :=
    ⟨_, validated_eq_ok.mpr ⟨rfl, ⟨hTicker, hClient, hQuantity, ⟨hNotionalMoney, hNotional⟩,
      hRiskMoney, hRisk⟩, lt_add_of_pos_right _ (by decide)⟩⟩
  obtain ⟨hReservation, hReservationValid⟩ := validated_eq_ok.mp hReserve
  simp only [approved, Result.bind_eq_ok]
  refine ⟨_, _, hRiskEq, _, hNotionalEq, _, hReserve, finalizeDecision_eq_ok.mpr ⟨rfl, ?_⟩⟩
  refine ⟨⟨hTicker, hRank, ?_, ?_⟩, rfl, ?_, ?_⟩
  · simp only [RiskDecision.moneyFields, decisionBase, List.forall_mem_cons, Option.mem_def,
      Option.some.injEq, forall_eq', value_rat]
    exact ⟨hEquity, hBroker, hInternal, hPnl, hUsableMoney, hBaseMoney, hAdjustedMoney,
      hEntryMoney, hStop, hTarget, hStructural, hBuffer, hModeledMoney, hMaxOpen, hOpenMoney,
      hLossMoney, hMaxNotional, hGrossMoney, hRiskMoney, hNotionalMoney, by simp⟩
  · intro stored hStored
    obtain rfl := Option.some.inj hStored
    rw [hReservation]
    exact hReservationValid
  · intro _
    refine ⟨rfl, hQuantity, by simp [hCap], rfl, rfl, rfl, rfl, rfl, rfl, rfl, reservation, rfl, ?_⟩
    rw [hReservation]
    exact ⟨rfl, rfl, rfl, rfl, rfl, rfl, rfl, rfl⟩
  · intro hRejected
    cases hRejected

/-- An approval was checked when it was constructed, its reservation before. -/
theorem approved_states_money (h : approved H r c caps = .ok d') :
    (∀ x ∈ [c.brokerSessionPnl, c.internalSessionPnl, c.riskSessionPnl,
      c.baseTradeRiskBudget, c.plannedEntryLimit, c.stopPrice, c.targetPrice,
      c.structuralRiskPerShare, c.executionRiskBuffer, c.modeledRiskPerShare,
      c.maximumTotalOpenRisk, c.maximumPositionNotional], IsMoney x) ∧
    1 ≤ (clientOrderId H r).length ∧ (clientOrderId H r).length ≤ 48 := by
  simp only [approved, Result.bind_eq_ok] at h
  obtain ⟨_, -, _, -, _, hReserve, hFinal⟩ := h
  obtain ⟨-, ⟨-, -, hMoney, -⟩, -⟩ := finalizeDecision_eq_ok.mp hFinal
  obtain ⟨-, ⟨-, hClient, -⟩, -⟩ := validated_eq_ok.mp hReserve
  refine ⟨?_, hClient⟩
  simp only [RiskDecision.moneyFields, decisionBase, List.forall_mem_cons, Option.mem_def,
    Option.some.injEq, forall_eq', value_rat] at hMoney
  obtain ⟨-, hBroker, hInternal, hPnl, -, hBase, -, hEntry, hStop, hTarget, hStructural, hBuffer,
    hModeled, hMaxOpen, -, -, hMaxNotional, -⟩ := hMoney
  simp only [List.forall_mem_cons]
  exact ⟨hBroker, hInternal, hPnl, hBase, hEntry, hStop, hTarget, hStructural, hBuffer, hModeled,
    hMaxOpen, hMaxNotional, by simp⟩

theorem SizingRequest.Valid.budget_nonneg {newYorkDate : Timestamp → Date}
    (hr : r.Valid newYorkDate) :
    0 ≤ r.session.sessionReferenceEquity * r.policy.riskPerTradePct := by
  obtain ⟨⟨-, -, ⟨hPolicy, -⟩, -, -, -, ⟨-, hSigns, -⟩, -⟩, -⟩ := hr
  exact mul_nonneg hSigns.1.le hPolicy.1.1.le

/-! ### Monotonicity -/

/-- Of two valid requests that differ only in the risk already taken, the one with less is
approved for at least the quantity for which the other is. -/
theorem sizePosition_monotone (H : Canonical ℚ) (newYorkDate : Timestamp → Date)
    (r r' : SizingRequest ℚ) (d' : RiskDecision ℚ) (hr : r.Valid newYorkDate)
    (hDiffer : r' = r.withRisk r'.riskTaken) (hMore : r.riskTaken.AtMost r'.riskTaken) (h : sizePosition H r' = .ok d')
    (ha : d'.decision = .approved) :
    ∃ d, sizePosition H r = .ok d ∧ d.decision = .approved ∧
      d'.finalQuantity ≤ d.finalQuantity := by
  obtain ⟨c', hc', ⟨-, hd⟩ | ⟨hNone, caps', hCaps', ⟨-, hd⟩ | ⟨hQuantity, hd⟩⟩⟩ :=
    sizePosition_cases h
  · simp [rejected_decision hd] at ha
  · simp [rejected_decision hd] at ha
  · obtain ⟨taken, rfl⟩ : ∃ taken, r' = r.withRisk taken := ⟨_, hDiffer⟩
    replace hMore : r.riskTaken.AtMost taken := hMore
    obtain ⟨c, hc, hLoose, hBudget, hBase⟩ := calculate_withRisk hMore hr.budget_nonneg hc'
    have hReasons := rejectionReasons_withRisk hMore hLoose hNone
    have hPassed := gatesPassed_of_nil hReasons
    obtain ⟨caps, hCaps, hLe⟩ := quantityCaps_withRisk hLoose hCaps' hPassed.modeledRisk_pos
      (hPassed.stop_pos.trans hPassed.stop_lt_entry)
    obtain ⟨hAmounts, hClient⟩ := approved_states_money hd
    rw [hLoose.others] at hAmounts
    obtain ⟨d, hApproved⟩ := approved_of_amounts hr (calculate_eq_ok hc)
      hReasons hCaps (hQuantity.trans hLe) hBudget hBase hAmounts hClient
    obtain ⟨hDecision, hFinal⟩ := approved_quantity hApproved
    obtain ⟨-, hFinal'⟩ := approved_quantity hd
    refine ⟨d, ?_, hDecision, by omega⟩
    refine Result.bind_eq_ok.mpr ⟨c, hc, ?_⟩
    rw [if_neg (not_not.mpr hReasons)]
    refine Result.bind_eq_ok.mpr ⟨caps, hCaps, ?_⟩
    rw [if_neg]
    · exact hApproved
    · unfold RiskPolicyConfig.minimumQuantity
      omega

/-- The sample's request after a trade of another ticker, with a low float. -/
def exposedRequest : SizingRequest ℚ :=
  (sampleRequest ℚ).withRisk {
    currentTotalOpenRisk := 100
    reservedEntryNotional := 1000
    currentLongMarketValue := 2000
    openDaybreakPositionCount := 1
    reservedEntryPositionCount := 0
    completedEntryCount := 1
    consecutiveClosedLosses := 1
    tradedTickersToday := ["BBBB"]
    riskFlags := [.lowFloat] }

theorem exposedRequest_monotone : ∃ d', sizePosition (sampleCanonical ℚ) exposedRequest = .ok d' ∧
    d'.finalQuantity = 53 ∧ ∃ d, sizePosition (sampleCanonical ℚ) (sampleRequest ℚ) = .ok d ∧
      d.decision = .approved ∧ d'.finalQuantity ≤ d.finalQuantity := by
  have hSized : ∃ d', sizePosition (sampleCanonical ℚ) exposedRequest = .ok d' ∧
      d'.decision = .approved ∧ d'.finalQuantity = 53 := by
    decide +kernel
  obtain ⟨d', hd', ha, hQuantity⟩ := hSized
  refine ⟨d', hd', hQuantity, sizePosition_monotone (sampleCanonical ℚ) (fun _ => ⟨2026, 8, 3⟩)
    (sampleRequest ℚ) exposedRequest d' (by decide +kernel) rfl ?_ hd' ha⟩
  constructor <;> decide +kernel

end Daybreak.Risk
