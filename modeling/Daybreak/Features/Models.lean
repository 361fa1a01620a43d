import Daybreak.Contracts.InputModels
import Daybreak.Effect.Dict
import Daybreak.Features.Clock
import Mathlib.Data.PNat.Basic

/-! What the feature engine reads and what it builds. Decimals that must be positive
are a subtype, and a model with validators carries the proof that they hold. The
enumerations are those of the contracts, which share their values. -/

namespace Daybreak.Features

open Contracts Numeric DecimalArithmetic

variable {D : Type} [DecimalArithmetic D]

/-- `PositiveDecimal` -/
abbrev PositiveDecimal (D : Type) [DecimalArithmetic D] := {x : D // 0 < value x}

/-- `NonNegativeDecimal` -/
abbrev NonNegativeDecimal (D : Type) [DecimalArithmetic D] := {x : D // 0 ≤ value x}

/-! ### Errors -/

/-- The codes of `DataQualityError`. -/
inductive DataQualityCode where
  | duplicateIngestSequence | duplicateTradeId | unknownOriginalTrade
  | noEligiblePremarketTrades | invalidPreviousClose | zeroPremarketVolume | invalidAtr
  | insufficientAtrHistory | incompleteRvolSession | insufficientRvolHistory | zeroRvolBaseline
  | invalidPremarketWindow | insufficientDailyHistory | incompleteHistoryForBlueSkyCheck
  | floatDataUnavailable | catalystDataUnavailable | futureCatalystTimestamp
  deriving DecidableEq, Repr

/-- `DataQualityError`, which is caught for each candidate, or another exception. -/
inductive FeatureError where
  | dataQuality (code : DataQualityCode) (detail : String)
  | raised (error : PyError)
  deriving DecidableEq, Repr

abbrev FeatureResult (α : Type) := Except FeatureError α

/-- An exception of a call that knows no `DataQualityError`. -/
def raising {α : Type} : Result α → FeatureResult α := Except.mapError .raised

/-! ### Market data -/

inductive TradeAction where
  | new | correction | cancel
  deriving DecidableEq, Repr

def TradeAction.value : TradeAction → String
  | .new => "new"
  | .correction => "correction"
  | .cancel => "cancel"

inductive QualityStatus where
  | verified | singleSource
  deriving DecidableEq, Repr

inductive FloatSource where
  | fmp | massive | secApi | fixture
  deriving DecidableEq, Repr

/-- `^[0-9a-f]{64}$` -/
def isHash (s : String) : Bool :=
  s.length == 64 && s.toList.all fun c => c.isDigit || ('a' ≤ c && c ≤ 'f')

/-- `validate_ohlc` -/
structure DailyBar (D : Type) [DecimalArithmetic D] where
  sessionDate : Day
  openPrice : PositiveDecimal D
  high : PositiveDecimal D
  low : PositiveDecimal D
  close : PositiveDecimal D
  volume : ℕ
  high_max : value openPrice.1 ≤ value high.1 ∧ value close.1 ≤ value high.1 ∧
    value low.1 ≤ value high.1
  low_min : value low.1 ≤ value openPrice.1 ∧ value low.1 ≤ value close.1

structure EventFields (D : Type) [DecimalArithmetic D] where
  ingestSeq : ℕ+
  tradeId : String
  action : TradeAction
  eventTimestamp : Timestamp
  price : Option (PositiveDecimal D) := none
  size : Option ℕ+ := none
  originalTradeId : Option String := none
  eligible : Bool := true

def ValidTradeId (s : String) : Prop := 1 ≤ s.length ∧ s.length ≤ 128

instance (s : String) : Decidable (ValidTradeId s) := inferInstanceAs (Decidable (_ ∧ _))

/-- Field bounds, then `validate_action_fields`. -/
def EventFields.Valid (e : EventFields D) : Prop :=
  (ValidTradeId e.tradeId ∧ ∀ original ∈ e.originalTradeId, ValidTradeId original) ∧
  match e.action with
  | .new => e.price.isSome ∧ e.size.isSome ∧ e.originalTradeId = none
  | .correction => e.originalTradeId.isSome ∧ e.price.isSome ∧ e.size.isSome
  | .cancel => e.originalTradeId.isSome

instance (e : EventFields D) : Decidable e.Valid := by
  unfold EventFields.Valid
  cases e.action <;> infer_instance

structure TradeLedgerEvent (D : Type) [DecimalArithmetic D] extends EventFields D where
  valid : toEventFields.Valid

structure PremarketSession (D : Type) [DecimalArithmetic D] where
  sessionDate : Day
  events : List (TradeLedgerEvent D)
  complete : Bool := true

/-- `validate_times` -/
structure FloatRecord where
  ticker : String
  floatShares : ℕ+
  effectiveDate : Day
  observedAt : Timestamp
  validatedAt : Timestamp
  expiresAt : Timestamp
  qualityStatus : QualityStatus
  source : FloatSource
  rawResponseHashes : List String
  hashes : ∀ hash ∈ rawResponseHashes, isHash hash = true
  expires_later : validatedAt < expiresAt

structure CatalystRecord where
  catalystId : String
  ticker : String
  catalystText : String
  sourceType : SourceType
  sourceName : String
  sourceTimestamp : Timestamp
  observedAt : Timestamp
  corroborated : Bool
  disqualifierFlags : List DisqualifierFlag
  sourceHash : String
  id_length : 1 ≤ catalystId.length ∧ catalystId.length ≤ 256
  text_length : 1 ≤ catalystText.length
  name_length : 1 ≤ sourceName.length ∧ sourceName.length ≤ 256
  hash : isHash sourceHash = true

/-- `validate_order_and_identity` -/
structure CandidateSourceData (D : Type) [DecimalArithmetic D] where
  ticker : String
  halted : Bool
  borrowStatus : BorrowStatus
  previousRegularClose : PositiveDecimal D
  currentSessionEvents : List (TradeLedgerEvent D)
  historicalPremarketSessions : List (PremarketSession D)
  dailyBars : List (DailyBar D)
  historyCompleteSinceListing : Bool
  floatRecords : List FloatRecord
  catalysts : List CatalystRecord
  canonical : isCanonicalTicker ticker = true
  bars_sorted : (dailyBars.map (·.sessionDate)).Pairwise (· < ·)
  float_ticker : ∀ record ∈ floatRecords, record.ticker = ticker
  catalyst_ticker : ∀ catalyst ∈ catalysts, catalyst.ticker = ticker

/-! ### Configuration -/

structure FeatureEngineConfig (D : Type) [DecimalArithmetic D] where
  moduleVersions : List (String × String) := [
    ("trade_ledger", "1.0.1"), ("gap", "1.0.1"), ("premarket_volume", "1.0.1"),
    ("rvol_time_matched", "1.0.1"), ("atr_wilder_14", "1.0.1"), ("premarket_vwap", "1.0.1"),
    ("volume_profile", "1.0.1"), ("daily_pivot_cluster_v1", "1.0.1"), ("float_join", "1.0.1"),
    ("news_join", "1.0.1"), ("prequalification", "1.0.1"), ("snapshot_builder", "1.0.1")]
  premarketStartEt : String := "04:00:00"
  snapshotTimeEt : String := "09:23:00"
  rvolLookbackSessions : ℕ := 20
  minDailyHistory : ℕ := 30
  clusterToleranceAtr : D := literal 5 (-1)
  blueSkySentinel : D := literal 990 (-1)
  spikyMaxBucketShare : D := literal 35 (-2)
  spikyMinNonemptyCoverage : D := literal 60 (-2)
  gapMinPct : D := literal 40 (-1)
  premarketVolumeMin : ℤ := 500000
  rvolMin : D := literal 50 (-1)
  resistanceMinAtr : D := literal 10 (-1)
  maxEvaluatorCandidates : ℕ := 20
  allowSingleSourceFloat : Bool := true
  versions_nodup : (moduleVersions.map (·.1)).Nodup
  lookback_pos : 1 ≤ rvolLookbackSessions
  history_min : 14 ≤ minDailyHistory
  candidates_bounds : 1 ≤ maxEvaluatorCandidates ∧ maxEvaluatorCandidates ≤ 25
  share_unit : 0 < value spikyMaxBucketShare ∧ value spikyMaxBucketShare ≤ 1
  coverage_unit : 0 < value spikyMinNonemptyCoverage ∧ value spikyMinNonemptyCoverage ≤ 1

namespace FeatureEngineConfig

/-! Fields whose type allows one value only. -/

def atrPeriod : ℕ := 14
def clusterLookbackSessions : ℕ := 180
def pivotLeftWidth : ℕ := 5
def pivotRightWidth : ℕ := 5
def clusterRecencySessions : ℕ := 120
def distanceDecimalPlaces : ℤ := 6
def volumeBucketMinutes : ℕ := 5

end FeatureEngineConfig

def defaultConfig : FeatureEngineConfig Decimal where
  versions_nodup := by decide +kernel
  lookback_pos := by decide
  history_min := by decide
  candidates_bounds := by decide
  share_unit := by decide +kernel
  coverage_unit := by decide +kernel

/-- `validate_context` -/
structure FeatureContext (D : Type) [DecimalArithmetic D] where
  evaluationTimestamp : Timestamp
  payloadTimestamp : Timestamp
  catalystFreshnessThresholdHours : PositiveDecimal D
  marketStatus : MarketStatus
  candidates : List (CandidateSourceData D)
  config : FeatureEngineConfig D
  ordered : payloadTimestamp ≤ evaluationTimestamp
  tickers_nodup : (candidates.map (·.ticker)).Nodup

/-! ### Features -/

structure MaterializedTrade (D : Type) [DecimalArithmetic D] where
  tradeId : String
  eventTimestamp : Timestamp
  price : PositiveDecimal D
  size : ℕ+
  ingestSeq : ℕ+

inductive ResistanceSource where
  | pivotCluster | allTimeHighFallback | noneAboveAllTimeHigh
  deriving DecidableEq, Repr

/-- `rawDistance` is the number whose text the source keeps. -/
structure ResistanceAudit (D : Type) [DecimalArithmetic D] where
  availableCompletedBars : ℕ
  clusterLookbackBars : ℕ
  allTimeHighPrice : PositiveDecimal D
  allTimeHighDate : Day
  confirmedPivotCount : ℕ
  syntheticLookbackHighAdded : Bool
  validClusterCount : ℕ
  selectedResistanceSource : ResistanceSource
  selectedZoneLow : Option D := none
  selectedZoneHigh : Option D := none
  selectedZoneCenter : Option D := none
  selectedTouchCount : Option ℕ := none
  selectedTouchDates : List Day := []
  rawDistance : Option D := none
  distanceToResistanceAtr : D
  chartStructure : ChartStructure
  isBlueSkySentinel : Bool

structure CandidateFeatures (D : Type) [DecimalArithmetic D] where
  ticker : String
  halted : Bool
  currentPrice : PositiveDecimal D
  premarketLow : PositiveDecimal D
  gapPct : D
  premarketVolume : ℕ
  rvolTimeMatched : NonNegativeDecimal D
  atrValue : PositiveDecimal D
  premarketVwap : PositiveDecimal D
  distanceFromVwapAtr : D
  volumeProfile : VolumeProfile
  floatShares : ℕ+
  borrowStatus : BorrowStatus
  resistance : ResistanceAudit D
  catalyst : CatalystRecord
  catalystAgeHours : NonNegativeDecimal D
  featureSourceHash : String

inductive PrequalReason where
  | dataQuality (code : DataQualityCode)
  | halted | gapTooSmall | premarketVolumeTooLow | rvolTooLow | resistanceTooClose | cappedChart
  | unconfirmedSource | disqualifyingCatalyst | staleCatalyst
  deriving DecidableEq, Repr

structure PrequalificationDecision where
  ticker : String
  accepted : Bool
  reasonCodes : List PrequalReason
  featureSourceHash : Option String := none
  deriving DecidableEq, Repr

structure CapacityOmission where
  ticker : String
  finalCapacityRank : ℕ
  deriving DecidableEq, Repr

/-- `terminal_consistency` -/
structure FeatureSnapshot (D : Type) [DecimalArithmetic D] where
  snapshotId : String
  contextHash : String
  auditHash : String
  payload : DaybreakInput
  payloadHash : String
  featureHash : String
  configurationHash : String
  moduleManifest : List (String × String)
  prequalification : List PrequalificationDecision
  capacityOmissions : List CapacityOmission
  acceptedFeatureRecords : List (CandidateFeatures D)
  consistent : payload.tickers.map (·.ticker) = acceptedFeatureRecords.map (·.ticker)

end Daybreak.Features
