import Daybreak.Contracts.OutputModels
import Daybreak.Order.Sorting
import Mathlib.Data.Prod.Lex
import Mathlib.Data.String.Basic

/-! The deterministic part of an evaluation, replayed: the score fields that follow
from a payload and a reported magnitude bucket, the hard gates that a ticker fails,
and the order of the tickers that pass. -/

namespace Daybreak.Contracts

open Daybreak.Order

/-! ### Records -/

inductive TerminalRecord where
  | approved (setup : ApprovedSetup)
  | qualified (record : QualifiedNotSelected)
  | excluded (record : ExcludedTicker)
  deriving DecidableEq, Repr

namespace TerminalRecord

def ticker : TerminalRecord → String
  | .approved setup => setup.ticker
  | .qualified record => record.ticker
  | .excluded record => record.ticker

/-- `score_of` -/
def score : TerminalRecord → ScoreBreakdown
  | .approved setup => setup.scoreBreakdown
  | .qualified record => record.scoreBreakdown
  | .excluded record => record.evaluationSnapshot.toScoreBreakdown

/-- `risk_flags_of` -/
def riskFlags : TerminalRecord → List RiskFlag
  | .approved setup => setup.riskFlags
  | .qualified record => record.riskFlags
  | .excluded record => record.evaluationSnapshot.riskFlags

/-- Only a passing record has a conviction score. -/
def convictionScore : TerminalRecord → Option ℕ
  | .approved setup => some setup.convictionScore
  | .qualified record => some record.convictionScore
  | .excluded _ => none

end TerminalRecord

def terminalRecords (output : DaybreakOutput) : List TerminalRecord :=
  output.approvedSetups.map .approved ++ output.qualifiedNotSelected.map .qualified ++
    output.excludedTickers.map .excluded

/-- `input_by_ticker(payload).get(ticker)`; the tickers of a payload are distinct. -/
def inputByTicker (payload : DaybreakInput) (ticker : String) : Option TickerInput :=
  payload.tickers.find? (·.ticker = ticker)

/-! ### Scores -/

/-- `MAGNITUDE_POINTS` -/
def magnitudePoints : MagnitudeBucket → ℕ
  | .majorConcrete => 4
  | .materialPartiallyQuantified => 3
  | .credibleUnquantified => 2
  | .weakOrPreliminary => 1
  | .noValidDriver => 0

def expectedSourceQuality (entry : TickerInput) : ℕ :=
  match entry.newsContext.sourceType with
  | .primary => 6
  | .secondary => if entry.newsContext.corroborated then 4 else 2
  | .unconfirmed => 0

def expectedZeroReason (payload : DaybreakInput) (entry : TickerInput) (bucket : MagnitudeBucket) :
    Option CatalystZeroReason :=
  let news := entry.newsContext
  if news.disqualifierFlags ≠ [] then some .disqualifierFlag
  else if news.sourceType = .unconfirmed then some .unconfirmedSource
  else if payload.catalystFreshnessThresholdHours.value < news.catalystAgeHours.value then
    some .staleCatalyst
  else if bucket = .noValidDriver then some .noValidDriver
  else none

def expectedEvidencePurpose : Option CatalystZeroReason → EvidencePurpose
  | some .disqualifierFlag => .disqualifier
  | some .noValidDriver => .none
  | _ => .magnitude

def expectedVolumePoints (entry : TickerInput) : ℕ :=
  let liquidity := entry.liquidityMetrics
  if liquidity.volumeProfile = .spiky then 15
  else if liquidity.rvolTimeMatched.value < 5 then 0
  else if liquidity.rvolTimeMatched.value ≤ 10 then 25
  else 35

structure ExpectedTechnical where
  grade : TechnicalGrade
  basePoints : ℕ
  points : ℕ
  parabolicAdjusted : Bool
  deriving DecidableEq, Repr

/-- The grade of a chart with room before its resistance, and its points. -/
def chartGrade : ChartStructure → TechnicalGrade × ℕ
  | .blueSky => (.aPlus, 25)
  | .cleanShortTerm => (.a, 22)
  | .moderateRoom => (.b, 13)
  | .capped => (.c, 0)

def expectedTechnical (entry : TickerInput) : ExpectedTechnical :=
  let technical := entry.technicalContext
  if technical.distanceToResistanceAtr.value < 1 ∨ technical.chartStructure = .capped then
    ⟨.c, 0, 0, false⟩
  else
    let (grade, base) := chartGrade technical.chartStructure
    let adjusted : Bool := 3 < technical.distanceFromVwapAtr.value
    ⟨grade, base, if adjusted then base - 6 else base, adjusted⟩

/-- A flag where its condition holds. -/
def flagIf (condition : Prop) [Decidable condition] (flag : RiskFlag) : List RiskFlag :=
  if condition then [flag] else []

def expectedRiskFlags (entry : TickerInput) (technical : ExpectedTechnical) : List RiskFlag :=
  let liquidity := entry.liquidityMetrics
  flagIf technical.parabolicAdjusted .parabolic ++
    flagIf (liquidity.borrowStatus = .hardToBorrow) .hardToBorrow ++
    flagIf (liquidity.borrowStatus = .unknown) .unknownBorrow ++
    flagIf (liquidity.floatShares < 50000000) .lowFloat ++
    flagIf (liquidity.volumeProfile = .spiky) .spikyVolume ++
    flagIf (entry.newsContext.sourceType = .secondary) .secondarySource

structure ExpectedScore where
  sourceQualityPoints : ℕ
  catalystMagnitudePoints : ℕ
  catalystZeroOverride : Bool
  catalystZeroReason : Option CatalystZeroReason
  evidencePurpose : EvidencePurpose
  catalystScoreRaw : ℕ
  catalystPoints : ℕ
  volumePoints : ℕ
  technicalGrade : TechnicalGrade
  technicalBasePoints : ℕ
  technicalPoints : ℕ
  parabolicAdjusted : Bool
  riskFlags : List RiskFlag
  deriving DecidableEq, Repr

def expectedScoreFields (payload : DaybreakInput) (entry : TickerInput)
    (reported : ScoreBreakdown) : ExpectedScore :=
  let bucket := reported.catalystMagnitudeBucket
  let zeroReason := expectedZeroReason payload entry bucket
  let raw := if zeroReason.isSome then 0 else expectedSourceQuality entry + magnitudePoints bucket
  let technical := expectedTechnical entry
  { sourceQualityPoints := expectedSourceQuality entry
    catalystMagnitudePoints := magnitudePoints bucket
    catalystZeroOverride := zeroReason.isSome
    catalystZeroReason := zeroReason
    evidencePurpose := expectedEvidencePurpose zeroReason
    catalystScoreRaw := raw
    catalystPoints := raw * 4
    volumePoints := expectedVolumePoints entry
    technicalGrade := technical.grade
    technicalBasePoints := technical.basePoints
    technicalPoints := technical.points
    parabolicAdjusted := technical.parabolicAdjusted
    riskFlags := expectedRiskFlags entry technical }

/-! ### Gates -/

/-- `_number_string` of a boolean. -/
def boolString (b : Bool) : String := if b then "true" else "false"

/-- The reason of a gate that fails. -/
def failedGate (fails : Prop) [Decidable fails] (reason : ReasonObject) : List ReasonObject :=
  if fails then [reason] else []

def expectedFailedGates (entry : TickerInput) (catalystScoreRaw : ℕ) : List ReasonObject :=
  let liquidity := entry.liquidityMetrics
  let technical := entry.technicalContext
  let news := entry.newsContext
  failedGate entry.halted
    { reasonCode := .halted
      field := "halted"
      observedValue := boolString entry.halted
      requiredCondition := "halted must equal false"
      reason := "The ticker is halted and cannot be approved." } ++
  failedGate (catalystScoreRaw < 7)
    { reasonCode := .catalystScoreTooLow
      field := "news_context.catalyst_score_raw"
      observedValue := toString catalystScoreRaw
      requiredCondition := "catalyst_score_raw must be greater than or equal to 7"
      reason := "The catalyst score is below the required minimum." } ++
  failedGate (news.corroborated = false ∧ catalystScoreRaw < 9)
    { reasonCode := .uncorroboratedCatalyst
      field := "news_context.corroborated"
      observedValue := boolString news.corroborated
      requiredCondition :=
        "uncorroborated catalysts require catalyst_score_raw greater than or equal to 9"
      reason := "The uncorroborated catalyst does not meet the stricter score requirement." } ++
  failedGate (liquidity.gapPct.value < 4)
    { reasonCode := .gapTooSmall
      field := "liquidity_metrics.gap_pct"
      observedValue := liquidity.gapPct.repr
      requiredCondition := "gap_pct must be greater than or equal to 4.0"
      reason := "The premarket gap is below the required minimum." } ++
  failedGate (liquidity.premarketVolume < 500000)
    { reasonCode := .premarketVolumeTooLow
      field := "liquidity_metrics.premarket_volume"
      observedValue := toString liquidity.premarketVolume
      requiredCondition := "premarket_volume must be greater than or equal to 500000"
      reason := "Premarket volume is below the required minimum." } ++
  failedGate (liquidity.rvolTimeMatched.value < 5)
    { reasonCode := .rvolTooLow
      field := "liquidity_metrics.rvol_time_matched"
      observedValue := liquidity.rvolTimeMatched.repr
      requiredCondition := "rvol_time_matched must be greater than or equal to 5.0"
      reason := "Time-matched RVOL is below the required minimum." } ++
  failedGate (technical.distanceToResistanceAtr.value < 1)
    { reasonCode := .resistanceTooClose
      field := "technical_context.distance_to_resistance_atr"
      observedValue := technical.distanceToResistanceAtr.repr
      requiredCondition := "distance_to_resistance_atr must be greater than or equal to 1.0"
      reason := "The ticker has insufficient room before resistance." } ++
  failedGate (technical.chartStructure = .capped)
    { reasonCode := .cappedChart
      field := "technical_context.chart_structure"
      observedValue := technical.chartStructure.value
      requiredCondition := "chart_structure must not equal capped"
      reason := "The chart is capped by nearby structural resistance." }

/-! ### Ranking -/

structure PassingRecord where
  ticker : String
  convictionScore : ℕ
  catalystAgeHours : ℚ
  catalystScoreRaw : ℕ
  volumePoints : ℕ
  technicalPoints : ℕ
  deriving DecidableEq, Repr

def passingRecords (output : DaybreakOutput) : List PassingRecord :=
  (output.approvedSetups.map fun setup =>
    ⟨setup.ticker, setup.convictionScore, setup.catalystAgeHours.value,
      setup.scoreBreakdown.catalystScoreRaw, setup.scoreBreakdown.volumePoints,
      setup.scoreBreakdown.technicalPoints⟩) ++
  output.qualifiedNotSelected.map fun record =>
    ⟨record.ticker, record.convictionScore, record.catalystAgeHours.value,
      record.scoreBreakdown.catalystScoreRaw, record.scoreBreakdown.volumePoints,
      record.scoreBreakdown.technicalPoints⟩

namespace PassingRecord

/-- `(-item.conviction_score, item.ticker)` -/
def scoreKey (r : PassingRecord) : ℤ ×ₗ String :=
  toLex (-(r.convictionScore : ℤ), r.ticker)

/-- `(item.catalyst_age_hours, -item.catalyst_score_raw, -item.volume_points,
-item.technical_points, item.ticker)` -/
def groupKey (r : PassingRecord) : ℚ ×ₗ ℤ ×ₗ ℤ ×ₗ ℤ ×ₗ String :=
  toLex (r.catalystAgeHours, toLex (-(r.catalystScoreRaw : ℤ),
    toLex (-(r.volumePoints : ℤ), toLex (-(r.technicalPoints : ℤ), r.ticker))))

end PassingRecord

/-- The `while` loop of `expected_passing_order`; every round takes at least the
anchor off the remaining records. -/
def rankRemaining : ℕ → List PassingRecord → List PassingRecord
  | 0, _ => []
  | _, [] => []
  | fuel + 1, anchor :: rest =>
    let remaining := anchor :: rest
    let group := remaining.filter fun item =>
      (anchor.convictionScore : ℤ) - item.convictionScore ≤ 2
    let groupSet := group.map (·.ticker)
    sortedBy PassingRecord.groupKey group ++
      rankRemaining fuel (remaining.filter (·.ticker ∉ groupSet))

def expectedPassingOrder (output : DaybreakOutput) : List String :=
  let remaining := sortedBy PassingRecord.scoreKey (passingRecords output)
  (rankRemaining remaining.length remaining).map (·.ticker)

end Daybreak.Contracts
