import Daybreak.Contracts.Types

/-! The records of the risk package. Each is generic in the type `D` of its
decimals. A record is raw data, as `model_copy` can produce it; what pydantic
checks on construction is its `Valid` predicate. Python compares records field
by field with numeric decimal equality, which is equality after `mapDecimal
value`. -/

namespace Daybreak.Risk

open Numeric DecimalArithmetic

inductive RiskProfileName where
  | paperV1 | livePilotV1
  deriving DecidableEq, Repr

inductive RiskDecisionStatus where
  | approved | rejected
  deriving DecidableEq, Repr

inductive BindingCap where
  | tradeRisk | openRisk | dailyLoss | buyingPower | positionNotional | grossExposure
  | advLiquidity | premarketLiquidity
  deriving DecidableEq, Repr

inductive RiskRejectionCode where
  | accountNotActive | accountBlocked | tradingBlocked | tradeSuspendedByUser
  | accountSnapshotStale | invalidAccountValue | pendingTransferOut | accountStateUnreconciled
  | streamHealthFailure | databaseHealthFailure | killSwitchActive | marketNotNormal
  | symbolHalted | executionCutoffExceeded | quoteSnapshotStale | lastTradeStale | invalidQuote
  | regularSessionNbboNotConfirmed | spreadTooWide | entryPriceDriftTooLarge
  | entryLimitNotMarketable | invalidPriceGeometry | premarketLowBroken | stopAbovePremarketLow
  | invalidLiquidityInput | softDailyLossLimit | hardDailyLossLimit
  | sessionPnlReconciliationFailure | maxConsecutiveLosses | maxNewEntriesPerDay
  | duplicateTickerDay | maxConcurrentPositions | noBuyingPowerCapacity | noOpenRiskCapacity
  | noDailyLossCapacity | noGrossExposureCapacity | finalQuantityBelowMinimum
  | invalidPolicyConfiguration
  deriving DecidableEq, Repr

inductive ReservationStatus where
  | reserved | submitted | partiallyFilled | filled | released | expired | reconciliationRequired
  deriving DecidableEq, Repr

/-! ### Field types -/

/-- `max_digits=30, decimal_places=10`: ten decimals and twenty whole digits. -/
abbrev IsMoney (x : ℚ) : Prop := (x * 10 ^ 10).den = 1 ∧ |x| < 10 ^ 20

theorem IsMoney.multiple {x : ℚ} (h : IsMoney x) : Multiple (10 ^ (-10 : ℤ)) x :=
  ⟨(x * 10 ^ 10).num, by
    have hx : ((x * 10 ^ 10).num : ℚ) = x * 10 ^ 10 := Rat.den_eq_one_iff _ |>.mp h.1
    rw [hx, mul_assoc]
    norm_num⟩

abbrev IsPositiveRatio (x : ℚ) : Prop := 0 < x ∧ x < 1

abbrev IsNonNegativeRatio (x : ℚ) : Prop := 0 ≤ x ∧ x < 1

/-- `^[0-9a-f]{64}$` -/
def isSha256Hex (s : String) : Bool :=
  s.toList.length == 64 && s.toList.all fun c => c.isDigit || ('a' ≤ c && c ≤ 'f')

/-! ### Policy -/

structure RiskPolicyConfig (D : Type) where
  profileName : RiskProfileName
  riskPerTradePct : D
  maxOpenRiskPct : D
  maxPositionNotionalPct : D
  maxGrossLongExposurePct : D
  buyingPowerReservePct : D
  maxConcurrentPositions : ℕ
  maxNewEntriesPerDay : ℕ
  softDailyLossPct : D
  hardDailyLossPct : D
  maxConsecutiveLosses : ℕ
  slippageBufferAtrMultiple : D
  slippageBufferSpreadMultiple : D
  maxPctAdv20 : D
  maxPctPremarketVolume : D
  maxAccountSnapshotAgeMs : ℕ
  maxQuoteAgeMs : ℕ
  maxLastTradeAgeMs : ℕ
  maxSpreadPct : D
  maxSpreadAtrFraction : D
  maxEntryDriftPct : D
  maxEntryDriftAtrMultiple : D
  pnlReconciliationTolerance : D
  mandatoryFlattenTimeEt : ℕ
  deriving DecidableEq, Repr

namespace RiskPolicyConfig

/-- `Literal[1]` -/
def minimumQuantity : ℤ := 1

variable {D E : Type}

def mapDecimal (f : D → E) (p : RiskPolicyConfig D) : RiskPolicyConfig E where
  profileName := p.profileName
  riskPerTradePct := f p.riskPerTradePct
  maxOpenRiskPct := f p.maxOpenRiskPct
  maxPositionNotionalPct := f p.maxPositionNotionalPct
  maxGrossLongExposurePct := f p.maxGrossLongExposurePct
  buyingPowerReservePct := f p.buyingPowerReservePct
  maxConcurrentPositions := p.maxConcurrentPositions
  maxNewEntriesPerDay := p.maxNewEntriesPerDay
  softDailyLossPct := f p.softDailyLossPct
  hardDailyLossPct := f p.hardDailyLossPct
  maxConsecutiveLosses := p.maxConsecutiveLosses
  slippageBufferAtrMultiple := f p.slippageBufferAtrMultiple
  slippageBufferSpreadMultiple := f p.slippageBufferSpreadMultiple
  maxPctAdv20 := f p.maxPctAdv20
  maxPctPremarketVolume := f p.maxPctPremarketVolume
  maxAccountSnapshotAgeMs := p.maxAccountSnapshotAgeMs
  maxQuoteAgeMs := p.maxQuoteAgeMs
  maxLastTradeAgeMs := p.maxLastTradeAgeMs
  maxSpreadPct := f p.maxSpreadPct
  maxSpreadAtrFraction := f p.maxSpreadAtrFraction
  maxEntryDriftPct := f p.maxEntryDriftPct
  maxEntryDriftAtrMultiple := f p.maxEntryDriftAtrMultiple
  pnlReconciliationTolerance := f p.pnlReconciliationTolerance
  mandatoryFlattenTimeEt := p.mandatoryFlattenTimeEt

/-- Field bounds, then `validate_coherence`. -/
def Valid [DecimalArithmetic D] (p : RiskPolicyConfig D) : Prop :=
  (IsPositiveRatio (value p.riskPerTradePct) ∧ IsPositiveRatio (value p.maxOpenRiskPct) ∧
    IsPositiveRatio (value p.maxPositionNotionalPct) ∧
    IsPositiveRatio (value p.maxGrossLongExposurePct) ∧
    IsNonNegativeRatio (value p.buyingPowerReservePct) ∧
    (0 < p.maxConcurrentPositions ∧ p.maxConcurrentPositions ≤ 3) ∧
    (0 < p.maxNewEntriesPerDay ∧ p.maxNewEntriesPerDay ≤ 3) ∧
    IsPositiveRatio (value p.softDailyLossPct) ∧ IsPositiveRatio (value p.hardDailyLossPct) ∧
    (0 < p.maxConsecutiveLosses ∧ p.maxConsecutiveLosses ≤ 10) ∧
    (0 ≤ value p.slippageBufferAtrMultiple ∧ value p.slippageBufferAtrMultiple ≤ 2) ∧
    (0 ≤ value p.slippageBufferSpreadMultiple ∧ value p.slippageBufferSpreadMultiple ≤ 5) ∧
    IsPositiveRatio (value p.maxPctAdv20) ∧ IsPositiveRatio (value p.maxPctPremarketVolume) ∧
    (0 < p.maxAccountSnapshotAgeMs ∧ p.maxAccountSnapshotAgeMs ≤ 10000) ∧
    (0 < p.maxQuoteAgeMs ∧ p.maxQuoteAgeMs ≤ 10000) ∧
    (0 < p.maxLastTradeAgeMs ∧ p.maxLastTradeAgeMs ≤ 30000) ∧
    IsPositiveRatio (value p.maxSpreadPct) ∧
    (0 < value p.maxSpreadAtrFraction ∧ value p.maxSpreadAtrFraction ≤ 1) ∧
    IsPositiveRatio (value p.maxEntryDriftPct) ∧
    (0 < value p.maxEntryDriftAtrMultiple ∧ value p.maxEntryDriftAtrMultiple ≤ 2) ∧
    (IsMoney (value p.pnlReconciliationTolerance) ∧ 0 ≤ value p.pnlReconciliationTolerance)) ∧
  (value p.softDailyLossPct < value p.hardDailyLossPct ∧
    value p.riskPerTradePct ≤ value p.maxOpenRiskPct ∧
    value p.maxPositionNotionalPct ≤ value p.maxGrossLongExposurePct ∧
    p.maxConcurrentPositions ≤ p.maxNewEntriesPerDay)

instance [DecimalArithmetic D] (p : RiskPolicyConfig D) : Decidable p.Valid := by
  unfold Valid; infer_instance

section Profiles

variable (D) [DecimalArithmetic D]

def paperV1 : RiskPolicyConfig D where
  profileName := .paperV1
  riskPerTradePct := literal 25 (-4)
  maxOpenRiskPct := literal 75 (-4)
  maxPositionNotionalPct := literal 10 (-2)
  maxGrossLongExposurePct := literal 25 (-2)
  buyingPowerReservePct := literal 20 (-2)
  maxConcurrentPositions := 3
  maxNewEntriesPerDay := 3
  softDailyLossPct := literal 75 (-4)
  hardDailyLossPct := literal 100 (-4)
  maxConsecutiveLosses := 2
  slippageBufferAtrMultiple := literal 10 (-2)
  slippageBufferSpreadMultiple := literal 50 (-2)
  maxPctAdv20 := literal 1 (-3)
  maxPctPremarketVolume := literal 5 (-3)
  maxAccountSnapshotAgeMs := 1000
  maxQuoteAgeMs := 1000
  maxLastTradeAgeMs := 2000
  maxSpreadPct := literal 1 (-2)
  maxSpreadAtrFraction := literal 10 (-2)
  maxEntryDriftPct := literal 1 (-2)
  maxEntryDriftAtrMultiple := literal 25 (-2)
  pnlReconciliationTolerance := literal 100 (-2)
  mandatoryFlattenTimeEt := 950

/-- The pilot keeps the defaults of `paperV1` and its slippage buffers. -/
def livePilotV1 : RiskPolicyConfig D :=
  { paperV1 D with
    profileName := .livePilotV1
    riskPerTradePct := literal 10 (-4)
    maxOpenRiskPct := literal 20 (-4)
    maxPositionNotionalPct := literal 5 (-2)
    maxGrossLongExposurePct := literal 10 (-2)
    buyingPowerReservePct := literal 30 (-2)
    maxConcurrentPositions := 1
    maxNewEntriesPerDay := 1
    softDailyLossPct := literal 30 (-4)
    hardDailyLossPct := literal 50 (-4)
    maxConsecutiveLosses := 1
    maxPctAdv20 := literal 5 (-4)
    maxPctPremarketVolume := literal 25 (-4) }

/-- Both shipped profiles pass the checks of a policy. -/
theorem profiles_valid : (paperV1 D).Valid ∧ (livePilotV1 D).Valid := by
  have hRat : (paperV1 ℚ).Valid ∧ (livePilotV1 ℚ).Valid := by decide +kernel
  simpa only [Valid, paperV1, livePilotV1, value_literal] using hRat

end Profiles

end RiskPolicyConfig

/-! ### Request -/

structure AccountSnapshot (D : Type) where
  snapshotTimestamp : Timestamp
  status : String
  accountBlocked : Bool
  tradingBlocked : Bool
  tradeSuspendedByUser : Bool
  equity : D
  lastEquity : D
  cash : D
  buyingPower : D
  nonMarginableBuyingPower : D
  regtBuyingPower : D
  initialMargin : D
  maintenanceMargin : D
  longMarketValue : D
  multiplier : D
  pendingTransferIn : D
  pendingTransferOut : D
  deriving DecidableEq, Repr

namespace AccountSnapshot

variable {D E : Type}

def mapDecimal (f : D → E) (a : AccountSnapshot D) : AccountSnapshot E where
  snapshotTimestamp := a.snapshotTimestamp
  status := a.status
  accountBlocked := a.accountBlocked
  tradingBlocked := a.tradingBlocked
  tradeSuspendedByUser := a.tradeSuspendedByUser
  equity := f a.equity
  lastEquity := f a.lastEquity
  cash := f a.cash
  buyingPower := f a.buyingPower
  nonMarginableBuyingPower := f a.nonMarginableBuyingPower
  regtBuyingPower := f a.regtBuyingPower
  initialMargin := f a.initialMargin
  maintenanceMargin := f a.maintenanceMargin
  longMarketValue := f a.longMarketValue
  multiplier := f a.multiplier
  pendingTransferIn := f a.pendingTransferIn
  pendingTransferOut := f a.pendingTransferOut

abbrev Valid [DecimalArithmetic D] (a : AccountSnapshot D) : Prop :=
  (∀ x ∈ [a.equity, a.lastEquity, a.cash, a.buyingPower, a.nonMarginableBuyingPower,
      a.regtBuyingPower, a.initialMargin, a.maintenanceMargin, a.longMarketValue,
      a.pendingTransferIn, a.pendingTransferOut], IsMoney (value x)) ∧
  0 ≤ value a.multiplier

end AccountSnapshot

structure QuoteSnapshot (D : Type) where
  quoteTimestamp : Timestamp
  lastTradeTimestamp : Timestamp
  bidPrice : D
  askPrice : D
  bidSize : ℕ
  askSize : ℕ
  lastPrice : D
  firstRegularSessionNbboConfirmed : Bool
  deriving DecidableEq, Repr

namespace QuoteSnapshot

variable {D E : Type}

def mapDecimal (f : D → E) (q : QuoteSnapshot D) : QuoteSnapshot E where
  quoteTimestamp := q.quoteTimestamp
  lastTradeTimestamp := q.lastTradeTimestamp
  bidPrice := f q.bidPrice
  askPrice := f q.askPrice
  bidSize := q.bidSize
  askSize := q.askSize
  lastPrice := f q.lastPrice
  firstRegularSessionNbboConfirmed := q.firstRegularSessionNbboConfirmed

variable [DecimalArithmetic D]

abbrev Valid (q : QuoteSnapshot D) : Prop :=
  ∀ x ∈ [q.bidPrice, q.askPrice, q.lastPrice], IsMoney (value x)

def spread (q : QuoteSnapshot D) : D := sub q.askPrice q.bidPrice

def midpoint (q : QuoteSnapshot D) : Result D :=
  signals (div (add q.bidPrice q.askPrice) (literal 2 0))

end QuoteSnapshot

structure LiquiditySnapshot where
  premarketVolume : ℕ
  adv20Shares : ℕ
  assetTradable : Bool
  assetFractionable : Bool
  assetMarginable : Bool
  assetStatus : String
  deriving DecidableEq, Repr

abbrev LiquiditySnapshot.Valid (l : LiquiditySnapshot) : Prop :=
  0 < l.premarketVolume ∧ 0 < l.adv20Shares

/-- Each float is kept as the decimal that `Decimal(str(x))` reads. -/
structure TradeParameters (D : Type) where
  referencePrice : D
  atrValueUsed : D
  premarketLowUsed : D
  riskStopAtrMultiple : D
  profitTargetAtrMultiple : D
  deriving DecidableEq, Repr

namespace TradeParameters

variable {D E : Type}

def mapDecimal (f : D → E) (t : TradeParameters D) : TradeParameters E where
  referencePrice := f t.referencePrice
  atrValueUsed := f t.atrValueUsed
  premarketLowUsed := f t.premarketLowUsed
  riskStopAtrMultiple := f t.riskStopAtrMultiple
  profitTargetAtrMultiple := f t.profitTargetAtrMultiple

abbrev Valid [DecimalArithmetic D] (t : TradeParameters D) : Prop :=
  0 < value t.referencePrice ∧ 0 < value t.atrValueUsed ∧ 0 < value t.premarketLowUsed ∧
    value t.riskStopAtrMultiple = 1 ∧ value t.profitTargetAtrMultiple = 2

end TradeParameters

/-- `evidence` is the canonical text of the score, thesis and source fields,
which sizing never reads but equality compares. -/
structure ApprovedSetup (D : Type) where
  ticker : String
  riskFlags : List RiskFlag
  tradeParameters : TradeParameters D
  evidence : String
  deriving DecidableEq, Repr

namespace ApprovedSetup

variable {D E : Type}

def mapDecimal (f : D → E) (s : ApprovedSetup D) : ApprovedSetup E where
  ticker := s.ticker
  riskFlags := s.riskFlags
  tradeParameters := s.tradeParameters.mapDecimal f
  evidence := s.evidence

abbrev Valid [DecimalArithmetic D] (s : ApprovedSetup D) : Prop :=
  isCanonicalTicker s.ticker = true ∧ s.tradeParameters.Valid

end ApprovedSetup

structure SessionRiskState (D : Type) where
  sessionReferenceEquity : D
  sessionStartEquity : D
  netExternalCashFlow : D
  internalRealizedPnl : D
  internalUnrealizedPnl : D
  currentTotalOpenRisk : D
  reservedEntryNotional : D
  currentLongMarketValue : D
  openDaybreakPositionCount : ℕ
  reservedEntryPositionCount : ℕ
  completedEntryCount : ℕ
  consecutiveClosedLosses : ℕ
  tradedTickersToday : List String
  accountStateReconciled : Bool
  streamsHealthy : Bool
  databaseHealthy : Bool
  killSwitchActive : Bool
  deriving DecidableEq, Repr

namespace SessionRiskState

variable {D E : Type}

def mapDecimal (f : D → E) (s : SessionRiskState D) : SessionRiskState E where
  sessionReferenceEquity := f s.sessionReferenceEquity
  sessionStartEquity := f s.sessionStartEquity
  netExternalCashFlow := f s.netExternalCashFlow
  internalRealizedPnl := f s.internalRealizedPnl
  internalUnrealizedPnl := f s.internalUnrealizedPnl
  currentTotalOpenRisk := f s.currentTotalOpenRisk
  reservedEntryNotional := f s.reservedEntryNotional
  currentLongMarketValue := f s.currentLongMarketValue
  openDaybreakPositionCount := s.openDaybreakPositionCount
  reservedEntryPositionCount := s.reservedEntryPositionCount
  completedEntryCount := s.completedEntryCount
  consecutiveClosedLosses := s.consecutiveClosedLosses
  tradedTickersToday := s.tradedTickersToday
  accountStateReconciled := s.accountStateReconciled
  streamsHealthy := s.streamsHealthy
  databaseHealthy := s.databaseHealthy
  killSwitchActive := s.killSwitchActive

/-- Field bounds, then `tickers_sorted_unique`. -/
abbrev Valid [DecimalArithmetic D] (s : SessionRiskState D) : Prop :=
  (∀ x ∈ [s.sessionReferenceEquity, s.sessionStartEquity, s.netExternalCashFlow,
      s.internalRealizedPnl, s.internalUnrealizedPnl, s.currentTotalOpenRisk,
      s.reservedEntryNotional, s.currentLongMarketValue], IsMoney (value x)) ∧
  (0 < value s.sessionReferenceEquity ∧ 0 < value s.sessionStartEquity ∧
    0 ≤ value s.currentTotalOpenRisk ∧ 0 ≤ value s.reservedEntryNotional ∧
    0 ≤ value s.currentLongMarketValue) ∧
  (∀ t ∈ s.tradedTickersToday, isCanonicalTicker t = true) ∧
  s.tradedTickersToday.Pairwise (· < ·)

end SessionRiskState

structure SizingRequest (D : Type) where
  requestId : String
  runId : String
  tradingDate : Date
  finalRank : ℕ
  calculatedAt : Timestamp
  executionCutoffTimestamp : Timestamp
  setup : ApprovedSetup D
  policy : RiskPolicyConfig D
  account : AccountSnapshot D
  quote : QuoteSnapshot D
  liquidity : LiquiditySnapshot
  session : SessionRiskState D
  plannedEntryLimit : D
  tickSize : D
  marketStatusNormal : Bool
  symbolHalted : Bool
  configurationHash : String
  deriving DecidableEq, Repr

namespace SizingRequest

variable {D E : Type}

def mapDecimal (f : D → E) (r : SizingRequest D) : SizingRequest E where
  requestId := r.requestId
  runId := r.runId
  tradingDate := r.tradingDate
  finalRank := r.finalRank
  calculatedAt := r.calculatedAt
  executionCutoffTimestamp := r.executionCutoffTimestamp
  setup := r.setup.mapDecimal f
  policy := r.policy.mapDecimal f
  account := r.account.mapDecimal f
  quote := r.quote.mapDecimal f
  liquidity := r.liquidity
  session := r.session.mapDecimal f
  plannedEntryLimit := f r.plannedEntryLimit
  tickSize := f r.tickSize
  marketStatusNormal := r.marketStatusNormal
  symbolHalted := r.symbolHalted
  configurationHash := r.configurationHash

/-- Field bounds, then `trading_date_matches_new_york`; `newYorkDate` is the
calendar date of an instant in the exchange's time zone. -/
def Valid [DecimalArithmetic D] (newYorkDate : Timestamp → Date) (r : SizingRequest D) : Prop :=
  ((1 ≤ r.finalRank ∧ r.finalRank ≤ 3) ∧ r.setup.Valid ∧ r.policy.Valid ∧ r.account.Valid ∧
    r.quote.Valid ∧ r.liquidity.Valid ∧ r.session.Valid ∧
    (IsMoney (value r.plannedEntryLimit) ∧ 0 < value r.plannedEntryLimit) ∧
    (IsMoney (value r.tickSize) ∧ 0 < value r.tickSize) ∧
    isSha256Hex r.configurationHash = true) ∧
  r.tradingDate = newYorkDate r.calculatedAt ∧ r.calculatedAt ≤ r.executionCutoffTimestamp

instance [DecimalArithmetic D] (newYorkDate : Timestamp → Date) (r : SizingRequest D) :
    Decidable (r.Valid newYorkDate) := by
  unfold Valid; infer_instance

theorem Valid.policy_coherent [DecimalArithmetic D] {newYorkDate : Timestamp → Date}
    {r : SizingRequest D} (h : r.Valid newYorkDate) :
    r.policy.maxConcurrentPositions ≤ r.policy.maxNewEntriesPerDay := by
  obtain ⟨⟨-, -, hPolicy, -⟩, -⟩ := h
  exact hPolicy.2.2.2.2

theorem Valid.tickSize [DecimalArithmetic D] {newYorkDate : Timestamp → Date}
    {r : SizingRequest D} (h : r.Valid newYorkDate) : IsMoney (value r.tickSize) := by
  obtain ⟨⟨-, -, -, -, -, -, -, -, hTick, -⟩, -⟩ := h
  exact hTick.1

end SizingRequest

/-! ### Decision -/

structure QuantityCaps where
  tradeRisk : ℕ
  openRisk : ℕ
  dailyLoss : ℕ
  buyingPower : ℕ
  positionNotional : ℕ
  grossExposure : ℕ
  advLiquidity : ℕ
  premarketLiquidity : ℕ
  deriving DecidableEq, Repr

structure RiskReservation (D : Type) where
  reservationId : String
  requestId : String
  runId : String
  tradingDate : Date
  ticker : String
  clientOrderId : String
  reservedQuantity : ℕ
  reservedNotional : D
  reservedModeledRisk : D
  createdAt : Timestamp
  expiresAt : Timestamp
  status : ReservationStatus
  deriving DecidableEq, Repr

namespace RiskReservation

variable {D E : Type}

def mapDecimal (f : D → E) (r : RiskReservation D) : RiskReservation E where
  reservationId := r.reservationId
  requestId := r.requestId
  runId := r.runId
  tradingDate := r.tradingDate
  ticker := r.ticker
  clientOrderId := r.clientOrderId
  reservedQuantity := r.reservedQuantity
  reservedNotional := f r.reservedNotional
  reservedModeledRisk := f r.reservedModeledRisk
  createdAt := r.createdAt
  expiresAt := r.expiresAt
  status := r.status

/-- Field bounds, then `expiration_after_creation`. -/
abbrev Valid [DecimalArithmetic D] (r : RiskReservation D) : Prop :=
  (isCanonicalTicker r.ticker = true ∧
    (1 ≤ r.clientOrderId.length ∧ r.clientOrderId.length ≤ 48) ∧ 0 < r.reservedQuantity ∧
    (IsMoney (value r.reservedNotional) ∧ 0 < value r.reservedNotional) ∧
    (IsMoney (value r.reservedModeledRisk) ∧ 0 < value r.reservedModeledRisk)) ∧
  r.createdAt < r.expiresAt

end RiskReservation

structure RiskDecision (D : Type) where
  decisionId : String
  requestId : String
  runId : String
  tradingDate : Date
  profileName : RiskProfileName
  ticker : String
  finalRank : ℕ
  decision : RiskDecisionStatus
  rejectionReasons : List RiskRejectionCode
  killSwitchRequired : Bool
  sessionReferenceEquity : Option D
  brokerSessionPnl : Option D
  internalSessionPnl : Option D
  riskSessionPnl : Option D
  usableBuyingPower : Option D
  baseTradeRiskBudget : Option D
  riskFlagMultiplier : Option D
  adjustedTradeRiskBudget : Option D
  plannedEntryLimit : Option D
  stopPrice : Option D
  targetPrice : Option D
  structuralRiskPerShare : Option D
  executionRiskBuffer : Option D
  modeledRiskPerShare : Option D
  maximumTotalOpenRisk : Option D
  remainingOpenRiskCapacity : Option D
  remainingHardLossCapacity : Option D
  maximumPositionNotional : Option D
  remainingGrossExposure : Option D
  quantityCaps : Option QuantityCaps
  bindingCap : Option BindingCap
  finalQuantity : ℕ
  reservedModeledRisk : Option D
  reservedNotional : Option D
  reservation : Option (RiskReservation D)
  calculatedAt : Timestamp
  accountSnapshotTimestamp : Timestamp
  quoteTimestamp : Timestamp
  configurationHash : String
  inputHash : String
  decisionHash : String
  deriving DecidableEq, Repr

namespace RiskDecision

variable {D E : Type}

def mapDecimal (f : D → E) (d : RiskDecision D) : RiskDecision E where
  decisionId := d.decisionId
  requestId := d.requestId
  runId := d.runId
  tradingDate := d.tradingDate
  profileName := d.profileName
  ticker := d.ticker
  finalRank := d.finalRank
  decision := d.decision
  rejectionReasons := d.rejectionReasons
  killSwitchRequired := d.killSwitchRequired
  sessionReferenceEquity := d.sessionReferenceEquity.map f
  brokerSessionPnl := d.brokerSessionPnl.map f
  internalSessionPnl := d.internalSessionPnl.map f
  riskSessionPnl := d.riskSessionPnl.map f
  usableBuyingPower := d.usableBuyingPower.map f
  baseTradeRiskBudget := d.baseTradeRiskBudget.map f
  riskFlagMultiplier := d.riskFlagMultiplier.map f
  adjustedTradeRiskBudget := d.adjustedTradeRiskBudget.map f
  plannedEntryLimit := d.plannedEntryLimit.map f
  stopPrice := d.stopPrice.map f
  targetPrice := d.targetPrice.map f
  structuralRiskPerShare := d.structuralRiskPerShare.map f
  executionRiskBuffer := d.executionRiskBuffer.map f
  modeledRiskPerShare := d.modeledRiskPerShare.map f
  maximumTotalOpenRisk := d.maximumTotalOpenRisk.map f
  remainingOpenRiskCapacity := d.remainingOpenRiskCapacity.map f
  remainingHardLossCapacity := d.remainingHardLossCapacity.map f
  maximumPositionNotional := d.maximumPositionNotional.map f
  remainingGrossExposure := d.remainingGrossExposure.map f
  quantityCaps := d.quantityCaps
  bindingCap := d.bindingCap
  finalQuantity := d.finalQuantity
  reservedModeledRisk := d.reservedModeledRisk.map f
  reservedNotional := d.reservedNotional.map f
  reservation := d.reservation.map (RiskReservation.mapDecimal f)
  calculatedAt := d.calculatedAt
  accountSnapshotTimestamp := d.accountSnapshotTimestamp
  quoteTimestamp := d.quoteTimestamp
  configurationHash := d.configurationHash
  inputHash := d.inputHash
  decisionHash := d.decisionHash

/-- The fields of type `Money | None`, in order. -/
def moneyFields (d : RiskDecision D) : List (Option D) :=
  [d.sessionReferenceEquity, d.brokerSessionPnl, d.internalSessionPnl, d.riskSessionPnl,
    d.usableBuyingPower, d.baseTradeRiskBudget, d.adjustedTradeRiskBudget,
    d.plannedEntryLimit, d.stopPrice, d.targetPrice, d.structuralRiskPerShare,
    d.executionRiskBuffer, d.modeledRiskPerShare, d.maximumTotalOpenRisk,
    d.remainingOpenRiskCapacity, d.remainingHardLossCapacity, d.maximumPositionNotional,
    d.remainingGrossExposure, d.reservedModeledRisk, d.reservedNotional]

variable [DecimalArithmetic D]

/-- The reservation restates its decision. -/
abbrev MatchesReservation (d : RiskDecision D) (r : RiskReservation D) : Prop :=
  r.requestId = d.requestId ∧ r.runId = d.runId ∧ r.tradingDate = d.tradingDate ∧
    r.ticker = d.ticker ∧ r.reservedQuantity = d.finalQuantity ∧
    some (value r.reservedNotional) = d.reservedNotional.map value ∧
    some (value r.reservedModeledRisk) = d.reservedModeledRisk.map value ∧
    r.createdAt = d.calculatedAt

/-- `validate_terminal_shape`, without the hash. -/
def TerminalShape (d : RiskDecision D) : Prop :=
  d.decisionId = "risk-" ++ d.requestId ∧
  (d.decision = .approved →
    d.rejectionReasons = [] ∧ 1 ≤ d.finalQuantity ∧ d.bindingCap.isSome ∧
      d.quantityCaps.isSome ∧ d.plannedEntryLimit.isSome ∧ d.stopPrice.isSome ∧
      d.targetPrice.isSome ∧ d.modeledRiskPerShare.isSome ∧ d.reservedModeledRisk.isSome ∧
      d.reservedNotional.isSome ∧ ∃ r ∈ d.reservation, MatchesReservation d r) ∧
  (d.decision = .rejected →
    d.rejectionReasons ≠ [] ∧ d.finalQuantity = 0 ∧ d.reservation.isNone ∧
      d.quantityCaps.isNone ∧ d.bindingCap.isNone ∧ d.reservedModeledRisk.isNone ∧
      d.reservedNotional.isNone)

instance (d : RiskDecision D) : Decidable d.TerminalShape := by
  unfold TerminalShape; infer_instance

def Valid (d : RiskDecision D) : Prop :=
  (isCanonicalTicker d.ticker = true ∧ (1 ≤ d.finalRank ∧ d.finalRank ≤ 3) ∧
    (∀ x ∈ d.moneyFields, ∀ m ∈ x, IsMoney (value m)) ∧
    (∀ r ∈ d.reservation, r.Valid)) ∧
  TerminalShape d

instance (d : RiskDecision D) : Decidable d.Valid := by
  unfold Valid; infer_instance

end RiskDecision

/-! ### Batches -/

section Batch

variable {D : Type} [DecimalArithmetic D]

/-- What all requests of a batch have in common. -/
abbrev SizingRequest.SameBatch (first request : SizingRequest D) : Prop :=
  request.runId = first.runId ∧ request.configurationHash = first.configurationHash ∧
    request.calculatedAt = first.calculatedAt ∧
    request.executionCutoffTimestamp = first.executionCutoffTimestamp ∧
    request.policy.mapDecimal value = first.policy.mapDecimal value ∧
    request.account.mapDecimal value = first.account.mapDecimal value ∧
    request.session.mapDecimal value = first.session.mapDecimal value

/-- `validate_rank_order` -/
abbrev ValidRankOrder (requests : List (SizingRequest D)) : Prop :=
  requests.length ≤ 3 ∧
    requests.map (·.finalRank) = List.range' 1 requests.length ∧
    (requests.map (·.requestId)).Nodup ∧ (requests.map (·.setup.ticker)).Nodup ∧
    ∀ first ∈ requests.head?, ∀ request ∈ requests.tail, SizingRequest.SameBatch first request

variable (D) in
structure BatchSizingRequest (newYorkDate : Timestamp → Date) where
  requests : List (SizingRequest D)
  nonempty : requests ≠ []
  requests_valid : ∀ r ∈ requests, r.Valid newYorkDate
  rank_order : ValidRankOrder requests

namespace BatchSizingRequest

variable {newYorkDate : Timestamp → Date}

def first (batch : BatchSizingRequest D newYorkDate) : SizingRequest D :=
  batch.requests.head batch.nonempty

theorem first_mem (batch : BatchSizingRequest D newYorkDate) : batch.first ∈ batch.requests :=
  List.head_mem batch.nonempty

/-- Every request shares what the first one says about the batch. -/
theorem sameBatch (batch : BatchSizingRequest D newYorkDate) :
    ∀ r ∈ batch.requests, SizingRequest.SameBatch batch.first r := by
  intro r hr
  rw [← List.cons_head_tail batch.nonempty] at hr
  rcases List.mem_cons.mp hr with rfl | hTail
  · exact ⟨rfl, rfl, rfl, rfl, rfl, rfl, rfl⟩
  · exact batch.rank_order.2.2.2.2 _ (List.head_mem_head? batch.nonempty) r hTail

end BatchSizingRequest

end Batch

structure BatchSizingResult (D : Type) where
  decisions : List (RiskDecision D)
  endingSessionState : SessionRiskState D
  deriving DecidableEq, Repr

end Daybreak.Risk
