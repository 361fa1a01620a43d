import Daybreak.Risk.Models

/-! Position sizing. `sizePosition` first computes every number of the decision
(`calculate`), then reads the table of gates, and only when no gate refuses
computes the eight quantity caps. `sizeApprovedBatch` threads the session state
through a batch. Hashes are parameters: they are SHA-256 of a canonical text. -/

namespace Daybreak.Risk

open Numeric DecimalArithmetic

variable {D : Type} [DecimalArithmetic D]

/-! ### Rounding -/

def floorToCent (x : D) : Result D := signals (quantize .floor (-2) x)

def floorToInt (x : D) : ℤ := toInt (toIntegralValue .floor x)

def roundToIncrement (mode : RoundingMode) (x increment : D) : Result D := do
  ensure (0 < value increment) (.valueError "increment must be positive")
  let quotient ← signals (div x increment)
  return mul (toIntegralValue mode quotient) increment

def roundDownToIncrement (x increment : D) : Result D := roundToIncrement .floor x increment

def roundUpToIncrement (x increment : D) : Result D := roundToIncrement .ceiling x increment

def quantizeMoney (x : D) : Result D := signals (quantize .halfEven (-10) x)

/-! ### Hashes -/

/-- `canonical_sha256` and `canonical_json_text` on the values the engine
passes to them. -/
structure Canonical (D : Type) where
  textSha256 : String → String
  requestSha256 : SizingRequest D → String
  decisionSha256 : RiskDecision D → String
  decisionJson : RiskDecision D → String

/-- The hash of a decision covers every field but the hash itself. -/
def Canonical.bodySha256 (H : Canonical D) (d : RiskDecision D) : String :=
  H.decisionSha256 { d with decisionHash := "" }

def finalizeDecision (H : Canonical D) (base : RiskDecision D) : Result (RiskDecision D) :=
  validated RiskDecision.Valid (.validationError "RiskDecision")
    { base with decisionHash := H.bodySha256 base }

/-! ### Calculations -/

/-- `_RISK_FLAG_MULTIPLIERS` -/
def riskFlagMultipliers : RiskFlag → D
  | .parabolic => literal 50 (-2)
  | .lowFloat => literal 50 (-2)
  | .spikyVolume => literal 60 (-2)
  | .secondarySource => literal 75 (-2)
  | .hardToBorrow => literal 100 (-2)
  | .unknownBorrow => literal 100 (-2)

/-- `min(multipliers, default=Decimal("1.00"))` -/
def minMultiplier : List RiskFlag → D
  | [] => literal 100 (-2)
  | flag :: flags => (flags.map riskFlagMultipliers).foldl pyMin (riskFlagMultipliers flag)

/-- Every number `size_position` derives from a request before it decides. -/
structure Calculations (D : Type) where
  brokerSessionPnl : D
  internalSessionPnl : D
  riskSessionPnl : D
  softDailyLossLimit : D
  hardDailyLossLimit : D
  usableBuyingPower : D
  referencePrice : D
  atr : D
  premarketLow : D
  plannedEntryLimit : D
  stopPrice : D
  targetPrice : D
  spreadPct : D
  spreadAtrFraction : D
  entryDriftPct : D
  entryDriftAtr : D
  structuralRiskPerShare : D
  executionRiskBuffer : D
  modeledRiskPerShare : D
  baseTradeRiskBudget : D
  riskFlagMultiplier : D
  adjustedTradeRiskBudget : D
  maximumTotalOpenRisk : D
  remainingOpenRiskCapacity : D
  remainingHardLossCapacity : D
  maximumPositionNotional : D
  remainingGrossExposure : D

/-- `a / b if b > 0 else Decimal("999")` -/
def ratioOr999 (a b : D) : Result D :=
  if 0 < value b then signals (div a b) else .ok (literal 999 0)

def currentLoss (riskSessionPnl : D) : D := pyMax (literal 0 0) (neg riskSessionPnl)

def calculate (r : SizingRequest D) : Result (Calculations D) := do
  let policy := r.policy
  let session := r.session
  let equity := session.sessionReferenceEquity
  let trade := r.setup.tradeParameters
  let brokerSessionPnl :=
    sub (sub r.account.equity session.sessionStartEquity) session.netExternalCashFlow
  let internalSessionPnl := add session.internalRealizedPnl session.internalUnrealizedPnl
  let riskSessionPnl := pyMin brokerSessionPnl internalSessionPnl
  let softDailyLossLimit ← floorToCent (mul equity policy.softDailyLossPct)
  let hardDailyLossLimit ← floorToCent (mul equity policy.hardDailyLossPct)
  let usableBuyingPower ← floorToCent
    (sub (mul (pyMin r.account.nonMarginableBuyingPower r.account.buyingPower)
      (sub (literal 1 0) policy.buyingPowerReservePct)) session.reservedEntryNotional)
  let referencePrice ← quantizeMoney trade.referencePrice
  let atr ← quantizeMoney trade.atrValueUsed
  let premarketLow ← quantizeMoney trade.premarketLowUsed
  let plannedEntryLimit ← roundUpToIncrement r.plannedEntryLimit r.tickSize
  let stopPrice ←
    roundDownToIncrement (sub referencePrice (mul trade.riskStopAtrMultiple atr)) r.tickSize
  let targetPrice ←
    roundDownToIncrement (add referencePrice (mul trade.profitTargetAtrMultiple atr)) r.tickSize
  let spread := r.quote.spread
  let midpoint ← r.quote.midpoint
  let spreadPct ← ratioOr999 spread midpoint
  let spreadAtrFraction ← ratioOr999 spread atr
  let entryDrift := abs (sub plannedEntryLimit referencePrice)
  let entryDriftPct ← ratioOr999 entryDrift referencePrice
  let entryDriftAtr ← ratioOr999 entryDrift atr
  let structuralRiskPerShare ← quantizeMoney (sub plannedEntryLimit stopPrice)
  let atrBuffer ← quantizeMoney (mul policy.slippageBufferAtrMultiple atr)
  let spreadBuffer ← quantizeMoney (mul policy.slippageBufferSpreadMultiple spread)
  let executionRiskBuffer ← quantizeMoney (pyMax atrBuffer spreadBuffer)
  let modeledRiskPerShare ← quantizeMoney (add structuralRiskPerShare executionRiskBuffer)
  let baseTradeRiskBudget ← floorToCent (mul equity policy.riskPerTradePct)
  let riskFlagMultiplier := minMultiplier r.setup.riskFlags
  let adjustedTradeRiskBudget ← floorToCent (mul baseTradeRiskBudget riskFlagMultiplier)
  let maximumTotalOpenRisk ← floorToCent (mul equity policy.maxOpenRiskPct)
  let remainingOpenRiskCapacity ←
    floorToCent (sub maximumTotalOpenRisk session.currentTotalOpenRisk)
  let remainingHardLossCapacity ← floorToCent
    (sub (sub hardDailyLossLimit (currentLoss riskSessionPnl)) session.currentTotalOpenRisk)
  let maximumPositionNotional ← floorToCent (mul equity policy.maxPositionNotionalPct)
  let maximumGrossLongExposure ← floorToCent (mul equity policy.maxGrossLongExposurePct)
  let remainingGrossExposure ← floorToCent (sub maximumGrossLongExposure
    (add session.currentLongMarketValue session.reservedEntryNotional))
  return {
    brokerSessionPnl, internalSessionPnl, riskSessionPnl, softDailyLossLimit
    hardDailyLossLimit, usableBuyingPower, referencePrice, atr, premarketLow
    plannedEntryLimit, stopPrice, targetPrice, spreadPct, spreadAtrFraction
    entryDriftPct, entryDriftAtr, structuralRiskPerShare, executionRiskBuffer
    modeledRiskPerShare, baseTradeRiskBudget, riskFlagMultiplier
    adjustedTradeRiskBudget, maximumTotalOpenRisk, remainingOpenRiskCapacity
    remainingHardLossCapacity, maximumPositionNotional, remainingGrossExposure }

/-! ### Gates -/

/-- `int((later - earlier).total_seconds() * 1000)` -/
def ageMs (later earlier : Timestamp) : ℤ := truncate (elapsedMs later earlier)

def hardLossHit (c : Calculations D) : Bool :=
  value c.riskSessionPnl ≤ value (neg c.hardDailyLossLimit)

/-- A check with the reason it appends when it holds. -/
def gate (p : Prop) [Decidable p] (code : RiskRejectionCode) : Bool × RiskRejectionCode :=
  (decide p, code)

/-- The checks of `size_position` in source order. -/
def gates (r : SizingRequest D) (c : Calculations D) : List (Bool × RiskRejectionCode) :=
  let policy := r.policy
  let account := r.account
  let session := r.session
  let quote := r.quote
  let accountAgeMs := ageMs r.calculatedAt account.snapshotTimestamp
  let quoteAgeMs := ageMs r.calculatedAt quote.quoteTimestamp
  let lastTradeAgeMs := ageMs r.calculatedAt quote.lastTradeTimestamp
  [gate (account.status ≠ "ACTIVE") .accountNotActive,
    gate account.accountBlocked .accountBlocked,
    gate account.tradingBlocked .tradingBlocked,
    gate account.tradeSuspendedByUser .tradeSuspendedByUser,
    gate (accountAgeMs < 0 ∨ policy.maxAccountSnapshotAgeMs < accountAgeMs)
      .accountSnapshotStale,
    gate (value account.equity ≤ 0 ∨ value account.lastEquity ≤ 0 ∨
      value account.buyingPower < 0 ∨ value account.nonMarginableBuyingPower < 0 ∨
      value account.maintenanceMargin < 0) .invalidAccountValue,
    gate (0 < value account.pendingTransferOut) .pendingTransferOut,
    gate (session.accountStateReconciled = false) .accountStateUnreconciled,
    gate (session.streamsHealthy = false) .streamHealthFailure,
    gate (session.databaseHealthy = false) .databaseHealthFailure,
    gate session.killSwitchActive .killSwitchActive,
    gate (r.marketStatusNormal = false) .marketNotNormal,
    gate r.symbolHalted .symbolHalted,
    gate (r.executionCutoffTimestamp < r.calculatedAt) .executionCutoffExceeded,
    gate (quoteAgeMs < 0 ∨ policy.maxQuoteAgeMs < quoteAgeMs) .quoteSnapshotStale,
    gate (lastTradeAgeMs < 0 ∨ policy.maxLastTradeAgeMs < lastTradeAgeMs) .lastTradeStale,
    gate (value quote.bidPrice ≤ 0 ∨ value quote.askPrice ≤ 0 ∨
      value quote.askPrice < value quote.bidPrice ∨ value quote.lastPrice ≤ 0 ∨
      quote.bidSize ≤ 0 ∨ quote.askSize ≤ 0) .invalidQuote,
    gate (quote.firstRegularSessionNbboConfirmed = false) .regularSessionNbboNotConfirmed,
    gate (r.liquidity.assetTradable = false ∨ r.liquidity.assetStatus.toLower ≠ "active")
      .invalidLiquidityInput,
    gate (value policy.pnlReconciliationTolerance <
      value (abs (sub c.brokerSessionPnl c.internalSessionPnl)))
      .sessionPnlReconciliationFailure,
    gate (hardLossHit c) .hardDailyLossLimit,
    gate (¬ hardLossHit c ∧ value c.riskSessionPnl ≤ value (neg c.softDailyLossLimit))
      .softDailyLossLimit,
    gate (policy.maxConsecutiveLosses ≤ session.consecutiveClosedLosses) .maxConsecutiveLosses,
    gate (policy.maxNewEntriesPerDay ≤ session.completedEntryCount) .maxNewEntriesPerDay,
    gate (r.setup.ticker ∈ session.tradedTickersToday) .duplicateTickerDay,
    gate (policy.maxConcurrentPositions ≤
      session.openDaybreakPositionCount + session.reservedEntryPositionCount)
      .maxConcurrentPositions,
    gate (value c.plannedEntryLimit < value quote.askPrice) .entryLimitNotMarketable,
    gate (value c.stopPrice ≤ 0 ∨ value c.targetPrice ≤ value c.plannedEntryLimit ∨
      value c.plannedEntryLimit ≤ value c.stopPrice) .invalidPriceGeometry,
    gate (value c.premarketLow < value c.stopPrice) .stopAbovePremarketLow,
    gate (value (pyMin quote.lastPrice quote.bidPrice) < value c.premarketLow)
      .premarketLowBroken,
    gate (value policy.maxSpreadPct < value c.spreadPct ∨
      value policy.maxSpreadAtrFraction < value c.spreadAtrFraction) .spreadTooWide,
    gate (value policy.maxEntryDriftPct < value c.entryDriftPct ∨
      value policy.maxEntryDriftAtrMultiple < value c.entryDriftAtr) .entryPriceDriftTooLarge,
    gate (value c.structuralRiskPerShare ≤ 0 ∨ value c.modeledRiskPerShare ≤ 0)
      .invalidPriceGeometry,
    gate (value c.usableBuyingPower ≤ 0) .noBuyingPowerCapacity,
    gate (value c.remainingOpenRiskCapacity ≤ 0) .noOpenRiskCapacity,
    gate (value c.remainingHardLossCapacity ≤ 0) .noDailyLossCapacity,
    gate (value c.remainingGrossExposure ≤ 0) .noGrossExposureCapacity]

def rejectionReasons (r : SizingRequest D) (c : Calculations D) : List RiskRejectionCode :=
  ((gates r c).filter (·.1)).map (·.2)

def killSwitchRequired (r : SizingRequest D) (c : Calculations D) : Bool :=
  r.session.killSwitchActive || hardLossHit c

/-- The first occurrence of each reason. -/
def uniqueReasons (reasons : List RiskRejectionCode) : List RiskRejectionCode :=
  reasons.foldl (fun result reason => if reason ∈ result then result else result ++ [reason]) []

/-! ### Quantity caps -/

/-- `Field(ge=0)` -/
def capField (n : ℤ) : Result ℕ :=
  if 0 ≤ n then .ok n.toNat else .error (.validationError "QuantityCaps")

/-- `floor_to_int(a / b)` as a cap. -/
def quotientCap (a b : D) : Result ℕ := do
  let quotient ← signals (div a b)
  capField (floorToInt quotient)

def quantityCaps (r : SizingRequest D) (c : Calculations D) : Result QuantityCaps := do
  let tradeRisk ← quotientCap c.adjustedTradeRiskBudget c.modeledRiskPerShare
  let openRisk ← quotientCap c.remainingOpenRiskCapacity c.modeledRiskPerShare
  let dailyLoss ← quotientCap c.remainingHardLossCapacity c.modeledRiskPerShare
  let buyingPower ← quotientCap c.usableBuyingPower c.plannedEntryLimit
  let positionNotional ← quotientCap c.maximumPositionNotional c.plannedEntryLimit
  let grossExposure ← quotientCap c.remainingGrossExposure c.plannedEntryLimit
  let advLiquidity ←
    capField (floorToInt (mul (ofInt r.liquidity.adv20Shares) r.policy.maxPctAdv20))
  let premarketLiquidity ← capField
    (floorToInt (mul (ofInt r.liquidity.premarketVolume) r.policy.maxPctPremarketVolume))
  return { tradeRisk, openRisk, dailyLoss, buyingPower, positionNotional, grossExposure
           advLiquidity, premarketLiquidity }

/-- `_BINDING_ORDER` -/
def bindingOrder : List (BindingCap × (QuantityCaps → ℕ)) :=
  [(.tradeRisk, (·.tradeRisk)), (.openRisk, (·.openRisk)), (.dailyLoss, (·.dailyLoss)),
    (.buyingPower, (·.buyingPower)), (.positionNotional, (·.positionNotional)),
    (.grossExposure, (·.grossExposure)), (.advLiquidity, (·.advLiquidity)),
    (.premarketLiquidity, (·.premarketLiquidity))]

namespace QuantityCaps

def values (caps : QuantityCaps) : List ℕ :=
  [caps.tradeRisk, caps.openRisk, caps.dailyLoss, caps.buyingPower, caps.positionNotional,
    caps.grossExposure, caps.advLiquidity, caps.premarketLiquidity]

/-- `min(cap_values.values())` -/
def finalQuantity (caps : QuantityCaps) : ℕ := caps.values.tail.foldl min caps.tradeRisk

/-- `next(cap for cap, field in _BINDING_ORDER if cap_values[field] == final_quantity)` -/
def bindingCap (caps : QuantityCaps) : Option BindingCap :=
  (bindingOrder.find? fun entry => entry.2 caps == caps.finalQuantity).map (·.1)

end QuantityCaps

/-! ### Decisions -/

/-- The part of a decision that both outcomes share. -/
def decisionBase (H : Canonical D) (r : SizingRequest D) (c : Calculations D) :
    RiskDecision D where
  decisionId := "risk-" ++ r.requestId
  requestId := r.requestId
  runId := r.runId
  tradingDate := r.tradingDate
  profileName := r.policy.profileName
  ticker := r.setup.ticker
  finalRank := r.finalRank
  decision := .rejected
  rejectionReasons := []
  killSwitchRequired := false
  sessionReferenceEquity := some r.session.sessionReferenceEquity
  brokerSessionPnl := some c.brokerSessionPnl
  internalSessionPnl := some c.internalSessionPnl
  riskSessionPnl := some c.riskSessionPnl
  usableBuyingPower := some c.usableBuyingPower
  baseTradeRiskBudget := some c.baseTradeRiskBudget
  riskFlagMultiplier := some c.riskFlagMultiplier
  adjustedTradeRiskBudget := some c.adjustedTradeRiskBudget
  plannedEntryLimit := some c.plannedEntryLimit
  stopPrice := some c.stopPrice
  targetPrice := some c.targetPrice
  structuralRiskPerShare := some c.structuralRiskPerShare
  executionRiskBuffer := some c.executionRiskBuffer
  modeledRiskPerShare := some c.modeledRiskPerShare
  maximumTotalOpenRisk := some c.maximumTotalOpenRisk
  remainingOpenRiskCapacity := some c.remainingOpenRiskCapacity
  remainingHardLossCapacity := some c.remainingHardLossCapacity
  maximumPositionNotional := some c.maximumPositionNotional
  remainingGrossExposure := some c.remainingGrossExposure
  quantityCaps := none
  bindingCap := none
  finalQuantity := 0
  reservedModeledRisk := none
  reservedNotional := none
  reservation := none
  calculatedAt := r.calculatedAt
  accountSnapshotTimestamp := r.account.snapshotTimestamp
  quoteTimestamp := r.quote.quoteTimestamp
  configurationHash := r.configurationHash
  inputHash := H.requestSha256 r
  decisionHash := ""

def rejected (H : Canonical D) (r : SizingRequest D) (c : Calculations D)
    (reasons : List RiskRejectionCode) (kill : Bool) : Result (RiskDecision D) :=
  finalizeDecision H { decisionBase H r c with
    rejectionReasons := uniqueReasons reasons
    killSwitchRequired := kill }

/-- `timedelta(minutes=2)` in microseconds. -/
def reservationLifetime : ℤ := 120000000

def clientOrderId (H : Canonical D) (r : SizingRequest D) : String :=
  "DB-" ++ r.tradingDate.compact ++ "-" ++ slicePrefix (H.textSha256 r.runId) 16 ++ "-" ++
    r.setup.ticker

/-- The `RiskReservation` of an approved request, validated on construction. -/
def reserve (H : Canonical D) (r : SizingRequest D) (quantity : ℕ) (notional modeledRisk : D) :
    Result (RiskReservation D) :=
  validated RiskReservation.Valid (.validationError "RiskReservation")
    { reservationId := "reservation-" ++ r.requestId
      requestId := r.requestId
      runId := r.runId
      tradingDate := r.tradingDate
      ticker := r.setup.ticker
      clientOrderId := clientOrderId H r
      reservedQuantity := quantity
      reservedNotional := notional
      reservedModeledRisk := modeledRisk
      createdAt := r.calculatedAt
      expiresAt := r.calculatedAt + reservationLifetime
      status := .reserved }

def approved (H : Canonical D) (r : SizingRequest D) (c : Calculations D) (caps : QuantityCaps) :
    Result (RiskDecision D) := do
  let quantity := caps.finalQuantity
  let reservedModeledRisk ← quantizeMoney (mul c.modeledRiskPerShare (ofInt quantity))
  let reservedNotional ← quantizeMoney (mul c.plannedEntryLimit (ofInt quantity))
  let reservation ← reserve H r quantity reservedNotional reservedModeledRisk
  finalizeDecision H { decisionBase H r c with
    decision := .approved
    quantityCaps := some caps
    bindingCap := caps.bindingCap
    finalQuantity := quantity
    reservedModeledRisk := some reservedModeledRisk
    reservedNotional := some reservedNotional
    reservation := some reservation }

def sizePosition (H : Canonical D) (r : SizingRequest D) : Result (RiskDecision D) := do
  let c ← calculate r
  if rejectionReasons r c ≠ [] then
    rejected H r c (rejectionReasons r c) (killSwitchRequired r c)
  else
    let caps ← quantityCaps r c
    if (caps.finalQuantity : ℤ) < RiskPolicyConfig.minimumQuantity then
      rejected H r c [.finalQuantityBelowMinimum] false
    else approved H r c caps

/-! ### Batches -/

/-- An approval reserves its risk, its notional and one position; nothing else
of the session is advanced. -/
def SessionRiskState.reserve (session : SessionRiskState D) (risk notional : D) :
    SessionRiskState D :=
  { session with
    currentTotalOpenRisk := add session.currentTotalOpenRisk risk
    reservedEntryNotional := add session.reservedEntryNotional notional
    reservedEntryPositionCount := session.reservedEntryPositionCount + 1 }

def reserveInSession (session : SessionRiskState D) (d : RiskDecision D) :
    Result (SessionRiskState D) :=
  match d.decision with
  | .rejected => .ok session
  | .approved =>
    match d.reservedModeledRisk, d.reservedNotional with
    | some risk, some notional => .ok (session.reserve risk notional)
    | _, _ => .error .assertionError

/-- The loop of `size_approved_batch` from a given session state. -/
def sizeRequests (H : Canonical D) :
    SessionRiskState D → List (SizingRequest D) → Result (BatchSizingResult D)
  | session, [] => .ok ⟨[], session⟩
  | session, original :: rest => do
    let decision ← sizePosition H { original with session := session }
    let next ← reserveInSession session decision
    let result ← sizeRequests H next rest
    return ⟨decision :: result.decisions, result.endingSessionState⟩

def sizeApprovedBatch {newYorkDate : Timestamp → Date} (H : Canonical D)
    (batch : BatchSizingRequest D newYorkDate) : Result (BatchSizingResult D) :=
  sizeRequests H batch.first.session batch.requests

end Daybreak.Risk
