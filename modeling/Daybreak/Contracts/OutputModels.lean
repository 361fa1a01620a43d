import Daybreak.Contracts.InputModels

/-! The answer of an evaluator: terminal records for the tickers of its payload,
and the failures and blockers of the run. A `DaybreakOutput` carries the proof
that the validators of every record and of the whole accepted it. -/

namespace Daybreak.Contracts

inductive RunStatus where
  | approved | noSetups | blockedMarket | stalePayload | schemaFailure
  deriving DecidableEq, Repr

inductive MagnitudeBucket where
  | majorConcrete | materialPartiallyQuantified | credibleUnquantified | weakOrPreliminary
  | noValidDriver
  deriving DecidableEq, Repr

inductive EvidencePurpose where
  | magnitude | disqualifier | none
  deriving DecidableEq, Repr

inductive CatalystZeroReason where
  | disqualifierFlag | unconfirmedSource | staleCatalyst | noValidDriver
  deriving DecidableEq, Repr

inductive TechnicalGrade where
  | aPlus | a | b | c
  deriving DecidableEq, Repr

inductive ReasonCode where
  | halted | catalystScoreTooLow | uncorroboratedCatalyst | gapTooSmall | premarketVolumeTooLow
  | rvolTooLow | resistanceTooClose | cappedChart
  deriving DecidableEq, Repr

inductive BlockerCode where
  | marketNotNormal | payloadStale
  deriving DecidableEq, Repr

inductive SchemaFailureScope where
  | payload | ticker
  deriving DecidableEq, Repr

/-- `RISK_FLAG_ORDER` -/
def riskFlagOrder : List RiskFlag :=
  [.parabolic, .hardToBorrow, .unknownBorrow, .lowFloat, .spikyVolume, .secondarySource]

/-- `_validate_risk_flags` -/
abbrev ValidRiskFlags (flags : List RiskFlag) : Prop :=
  flags.Nodup ∧ (flags.map riskFlagOrder.idxOf).Pairwise (· ≤ ·)

/-! ### Scores -/

structure ScoreBreakdown where
  sourceQualityPoints : ℕ
  catalystMagnitudeBucket : MagnitudeBucket
  catalystMagnitudePoints : ℕ
  evidencePurpose : EvidencePurpose
  magnitudeEvidenceExcerpt : String
  magnitudeEvidenceTruncated : Bool
  magnitudeEvidenceStartChar : Option ℤ
  magnitudeEvidenceEndChar : Option ℤ
  catalystZeroOverride : Bool
  catalystZeroReason : Option CatalystZeroReason
  catalystScoreRaw : ℕ
  catalystPoints : ℕ
  volumePoints : ℕ
  technicalGrade : TechnicalGrade
  technicalBasePoints : ℕ
  technicalPoints : ℕ
  parabolicAdjusted : Bool
  deriving DecidableEq, Repr

namespace ScoreBreakdown

/-- What an evidence purpose allows as the zero reason and as the evidence. -/
def PurposeAllowed (s : ScoreBreakdown) : Prop :=
  match s.evidencePurpose with
  | .disqualifier => s.catalystZeroReason = some .disqualifierFlag
  | .none => s.catalystZeroReason = some .noValidDriver ∧ s.magnitudeEvidenceExcerpt = "" ∧
      s.magnitudeEvidenceTruncated = false ∧ s.magnitudeEvidenceStartChar = none ∧
      s.magnitudeEvidenceEndChar = none
  | .magnitude => s.catalystZeroReason ≠ some .disqualifierFlag ∧
      s.catalystZeroReason ≠ some .noValidDriver

instance (s : ScoreBreakdown) : Decidable s.PurposeAllowed := by
  unfold PurposeAllowed; split <;> infer_instance

/-- Field bounds, then `validate_local_consistency`. -/
def Valid (s : ScoreBreakdown) : Prop :=
  (s.sourceQualityPoints ≤ 6 ∧ s.catalystMagnitudePoints ≤ 4 ∧
    s.magnitudeEvidenceExcerpt.length ≤ 200 ∧ s.catalystScoreRaw ≤ 10 ∧ s.catalystPoints ≤ 40 ∧
    s.volumePoints ∈ [0, 15, 25, 35] ∧ s.technicalBasePoints ∈ [0, 13, 22, 25] ∧
    s.technicalPoints ∈ [0, 7, 13, 16, 19, 22, 25]) ∧
  s.magnitudeEvidenceStartChar.isNone = s.magnitudeEvidenceEndChar.isNone ∧
  s.catalystZeroOverride = s.catalystZeroReason.isSome ∧ s.PurposeAllowed

instance (s : ScoreBreakdown) : Decidable s.Valid := by
  unfold Valid; infer_instance

end ScoreBreakdown

structure EvaluationSnapshot extends ScoreBreakdown where
  riskFlags : List RiskFlag
  deriving DecidableEq, Repr

abbrev EvaluationSnapshot.Valid (s : EvaluationSnapshot) : Prop :=
  s.toScoreBreakdown.Valid ∧ ValidRiskFlags s.riskFlags

/-! ### Terminal records -/

structure TradeParameters where
  referencePrice : PyFloat
  atrValueUsed : PyFloat
  premarketLowUsed : PyFloat
  riskStopAtrMultiple : PyFloat
  profitTargetAtrMultiple : PyFloat
  deriving DecidableEq, Repr

abbrev TradeParameters.Valid (t : TradeParameters) : Prop :=
  0 < t.referencePrice.value ∧ 0 < t.atrValueUsed.value ∧ 0 < t.premarketLowUsed.value ∧
    t.riskStopAtrMultiple.value = 1 ∧ t.profitTargetAtrMultiple.value = 2

structure ApprovedSetup where
  ticker : String
  convictionScore : ℕ
  scoreBreakdown : ScoreBreakdown
  masterThesis : String
  catalystSource : String
  sourceType : SourceType
  sourceTimestamp : String
  catalystAgeHours : PyFloat
  corroborated : Bool
  riskFlags : List RiskFlag
  tradeParameters : TradeParameters
  deriving DecidableEq, Repr

def ApprovedSetup.Valid (s : ApprovedSetup) : Prop :=
  isCanonicalTicker s.ticker = true ∧ s.convictionScore ≤ 100 ∧ s.scoreBreakdown.Valid ∧
    0 ≤ s.catalystAgeHours.value ∧ ValidRiskFlags s.riskFlags ∧ s.tradeParameters.Valid

instance (s : ApprovedSetup) : Decidable s.Valid := by
  unfold ApprovedSetup.Valid; infer_instance

structure QualifiedNotSelected where
  ticker : String
  finalRank : ℕ
  convictionScore : ℕ
  scoreBreakdown : ScoreBreakdown
  catalystSource : String
  sourceType : SourceType
  sourceTimestamp : String
  catalystAgeHours : PyFloat
  corroborated : Bool
  riskFlags : List RiskFlag
  deriving DecidableEq, Repr

def QualifiedNotSelected.Valid (q : QualifiedNotSelected) : Prop :=
  isCanonicalTicker q.ticker = true ∧ 4 ≤ q.finalRank ∧ q.convictionScore ≤ 100 ∧
    q.scoreBreakdown.Valid ∧ 0 ≤ q.catalystAgeHours.value ∧ ValidRiskFlags q.riskFlags

instance (q : QualifiedNotSelected) : Decidable q.Valid := by
  unfold QualifiedNotSelected.Valid; infer_instance

structure ReasonObject where
  reasonCode : ReasonCode
  field : String
  observedValue : String
  requiredCondition : String
  reason : String
  deriving DecidableEq, Repr

structure ExcludedTicker where
  ticker : String
  primaryReason : ReasonObject
  additionalReasons : List ReasonObject
  evaluationSnapshot : EvaluationSnapshot
  deriving DecidableEq, Repr

def ExcludedTicker.Valid (e : ExcludedTicker) : Prop :=
  isCanonicalTicker e.ticker = true ∧ e.evaluationSnapshot.Valid

instance (e : ExcludedTicker) : Decidable e.Valid := by
  unfold ExcludedTicker.Valid; infer_instance

/-- The reasons of an exclusion, the primary one first. -/
def ExcludedTicker.reasons (e : ExcludedTicker) : List ReasonObject :=
  e.primaryReason :: e.additionalReasons

/-! ### Runs -/

structure SchemaFailure where
  scope : SchemaFailureScope
  ticker : Option String
  field : String
  reason : String
  deriving DecidableEq, Repr

/-- `payload_scope_has_null_ticker` -/
abbrev SchemaFailure.Valid (f : SchemaFailure) : Prop :=
  f.scope = .payload → f.ticker = none

structure RunBlocker where
  blockerCode : BlockerCode
  field : String
  observedValue : String
  requiredCondition : String
  reason : String
  deriving DecidableEq, Repr

structure OutputFields where
  runStatus : RunStatus
  executionTimestamp : Option String
  payloadTimestampUsed : Option String
  marketStatus : Option MarketStatus
  approvedSetups : List ApprovedSetup
  qualifiedNotSelected : List QualifiedNotSelected
  excludedTickers : List ExcludedTicker
  schemaFailures : List SchemaFailure
  runBlockers : List RunBlocker
  deriving DecidableEq, Repr

namespace OutputFields

def blockerCodes (o : OutputFields) : List BlockerCode := o.runBlockers.map (·.blockerCode)

/-- `validate_status_shape` -/
def StatusShape (o : OutputFields) : Prop :=
  o.approvedSetups.length ≤ 3 ∧ ¬ (o.schemaFailures ≠ [] ∧ o.runBlockers ≠ []) ∧
  (o.runStatus ∈ [.schemaFailure, .blockedMarket, .stalePayload] →
    o.approvedSetups = [] ∧ o.qualifiedNotSelected = [] ∧ o.excludedTickers = []) ∧
  (o.runStatus = .schemaFailure → o.schemaFailures ≠ [] ∧ o.runBlockers = []) ∧
  (o.runStatus ≠ .schemaFailure →
    o.executionTimestamp.isSome ∧ o.payloadTimestampUsed.isSome ∧ o.marketStatus.isSome ∧
      o.schemaFailures = []) ∧
  (o.runStatus = .approved → o.approvedSetups ≠ []) ∧
  (o.runStatus = .noSetups →
    o.approvedSetups = [] ∧ o.qualifiedNotSelected = [] ∧ o.runBlockers = []) ∧
  (o.runStatus = .blockedMarket → .marketNotNormal ∈ o.blockerCodes) ∧
  (o.runStatus = .stalePayload →
    .marketNotNormal ∉ o.blockerCodes ∧ .payloadStale ∈ o.blockerCodes)

instance (o : OutputFields) : Decidable o.StatusShape := by
  unfold StatusShape; infer_instance

def Valid (o : OutputFields) : Prop :=
  ((∀ setup ∈ o.approvedSetups, setup.Valid) ∧
    (∀ qualified ∈ o.qualifiedNotSelected, qualified.Valid) ∧
    (∀ excluded ∈ o.excludedTickers, excluded.Valid) ∧
    ∀ failure ∈ o.schemaFailures, failure.Valid) ∧
  o.StatusShape

instance (o : OutputFields) : Decidable o.Valid := by
  unfold Valid; infer_instance

end OutputFields

structure DaybreakOutput extends OutputFields where
  valid : toOutputFields.Valid

end Daybreak.Contracts
