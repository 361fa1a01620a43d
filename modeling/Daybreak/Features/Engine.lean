import Daybreak.Features.Canonical
import Daybreak.Features.Joins
import Daybreak.Features.Prequalification
import Daybreak.Features.Resistance

/-! The construction of a feature snapshot: the features of every candidate, the
decisions on them, the ranking of those accepted, and the payload of the evaluator. -/

namespace Daybreak.Features

open Contracts Daybreak.Order Effect Fallible Numeric DecimalArithmetic

variable {D : Type} [DecimalArithmetic D]

/-- `source_material` -/
structure SourceMaterial (D : Type) [DecimalArithmetic D] where
  ticker : String
  events : List (TradeLedgerEvent D)
  historicalSessions : List (PremarketSession D)
  dailyBars : List (DailyBar D)
  floatRecord : FloatRecord
  catalyst : CatalystRecord
  config : FeatureEngineConfig D
  payloadTimestamp : Timestamp

def SourceMaterial.numbers (m : SourceMaterial D) : List ℚ :=
  m.events.flatMap (·.numbers) ++ m.historicalSessions.flatMap (·.numbers) ++
    m.dailyBars.flatMap (·.numbers) ++ (m.floatRecord.floatShares : ℚ) :: m.config.numbers

/-- What the engine takes from outside: the time-zone database, the text of a float and
the decimal that is read from it, and the SHA-256 of the canonical JSON of a value. -/
structure Runtime (D : Type) [DecimalArithmetic D] where
  zone : TimeZone
  floatRepr : ℚ → String
  ofFloat : ℚ → D
  sourceSha256 : SourceMaterial D → String
  contextSha256 : FeatureContext D → String
  configSha256 : FeatureEngineConfig D → String
  featuresSha256 : List (CandidateFeatures D) → String
  payloadSha256 : DaybreakInput → String
  auditSha256 : List PrequalificationDecision → List CapacityOmission → String
  snapshotSha256 : List (String × String) → String

/-! ### One candidate -/

def positive (x : D) : FeatureResult (PositiveDecimal D) :=
  if h : 0 < value x then .ok ⟨x, h⟩
  else .error (.raised (.validationError "Input should be greater than 0"))

def nonNegative (x : D) : FeatureResult (NonNegativeDecimal D) :=
  if h : 0 ≤ value x then .ok ⟨x, h⟩
  else .error (.raised (.validationError "Input should be greater than or equal to 0"))

/-- `_calculate_candidate` -/
def calculateCandidate (rt : Runtime D) (context : FeatureContext D)
    (source : CandidateSourceData D) : FeatureResult (CandidateFeatures D) := do
  let snapshot := context.payloadTimestamp
  let config := context.config
  let trades ← currentSessionTrades rt.zone source.currentSessionEvents snapshot config
  let price ← currentPrice trades
  let low ← premarketLow trades
  let volume := premarketVolume trades
  let atr ← wilderAtr14 source.dailyBars
  let vwap ← premarketVwap trades
  let rvol ← rvolTimeMatched rt.zone volume source.historicalPremarketSessions snapshot config
  let profile ← volumeProfile rt.zone trades snapshot config
  let resistance ← dailyPivotClusterV1 source.dailyBars price.1 atr
    source.historyCompleteSinceListing config
  let floatRecord ← selectFloatRecord source.floatRecords source.ticker snapshot config
  let (catalyst, catalystAge) ← selectCatalyst rt.ofFloat source.catalysts source.ticker snapshot
  let material : SourceMaterial D :=
    { ticker := source.ticker
      events := source.currentSessionEvents
      historicalSessions := source.historicalPremarketSessions
      dailyBars := source.dailyBars
      floatRecord := floatRecord
      catalyst := catalyst
      config := config
      payloadTimestamp := snapshot }
  let gap ← gapPct price.1 source.previousRegularClose.1
  let distance ← distanceFromVwapAtr price.1 vwap atr
  let hash ← raising (canonicalSha256 rt.sourceSha256 material.numbers material)
  let rvol ← nonNegative rvol
  let atr ← positive atr
  let vwap ← positive vwap
  let catalystAge ← nonNegative catalystAge
  return {
    ticker := source.ticker
    halted := source.halted
    currentPrice := price
    premarketLow := low
    gapPct := gap
    premarketVolume := volume
    rvolTimeMatched := rvol
    atrValue := atr
    premarketVwap := vwap
    distanceFromVwapAtr := distance
    volumeProfile := profile
    floatShares := floatRecord.floatShares
    borrowStatus := source.borrowStatus
    resistance := resistance
    catalyst := catalyst
    catalystAgeHours := catalystAge
    featureSourceHash := hash }

theorem nonNegative_eq_ok {x : D} {y : NonNegativeDecimal D} (h : nonNegative x = .ok y) :
    y.1 = x := by
  unfold nonNegative at h
  split_ifs at h
  exact congrArg Subtype.val (Except.ok.inj h).symm

theorem positive_eq_ok {x : D} {y : PositiveDecimal D} (h : positive x = .ok y) : y.1 = x := by
  unfold positive at h
  split_ifs at h
  exact congrArg Subtype.val (Except.ok.inj h).symm

/-- Where each of the features of a candidate comes from. -/
structure Calculated (rt : Runtime D) (context : FeatureContext D) (source : CandidateSourceData D)
    (trades : List (MaterializedTrade D)) (features : CandidateFeatures D) : Prop where
  window : currentSessionTrades rt.zone source.currentSessionEvents context.payloadTimestamp
    context.config = .ok trades
  ticker : features.ticker = source.ticker
  price : currentPrice trades = .ok features.currentPrice
  low : premarketLow trades = .ok features.premarketLow
  volume : features.premarketVolume = premarketVolume trades
  atr : wilderAtr14 source.dailyBars = .ok features.atrValue.1
  vwap : premarketVwap trades = .ok features.premarketVwap.1
  rvol : rvolTimeMatched rt.zone features.premarketVolume source.historicalPremarketSessions
    context.payloadTimestamp context.config = .ok features.rvolTimeMatched.1
  profile : volumeProfile rt.zone trades context.payloadTimestamp context.config =
    .ok features.volumeProfile
  resistance : dailyPivotClusterV1 source.dailyBars features.currentPrice.1 features.atrValue.1
    source.historyCompleteSinceListing context.config = .ok features.resistance
  floatShares : ∃ record, selectFloatRecord source.floatRecords source.ticker
    context.payloadTimestamp context.config = .ok record ∧ features.floatShares = record.floatShares
  catalyst : selectCatalyst rt.ofFloat source.catalysts source.ticker context.payloadTimestamp =
    .ok (features.catalyst, features.catalystAgeHours.1)
  gap : gapPct features.currentPrice.1 source.previousRegularClose.1 = .ok features.gapPct
  distance : distanceFromVwapAtr features.currentPrice.1 features.premarketVwap.1
    features.atrValue.1 = .ok features.distanceFromVwapAtr

theorem calculateCandidate_calculated {rt : Runtime D} {context : FeatureContext D}
    {source : CandidateSourceData D} {features : CandidateFeatures D}
    (h : calculateCandidate rt context source = .ok features) :
    ∃ trades, Calculated rt context source trades features := by
  unfold calculateCandidate at h
  obtain ⟨trades, hTrades, h⟩ := bind_eq_ok.mp h
  obtain ⟨price, hPrice, h⟩ := bind_eq_ok.mp h
  obtain ⟨low, hLow, h⟩ := bind_eq_ok.mp h
  obtain ⟨_, hAtr, h⟩ := bind_eq_ok.mp h
  obtain ⟨_, hVwap, h⟩ := bind_eq_ok.mp h
  obtain ⟨_, hRvol, h⟩ := bind_eq_ok.mp h
  obtain ⟨profile, hProfile, h⟩ := bind_eq_ok.mp h
  obtain ⟨resistance, hResistance, h⟩ := bind_eq_ok.mp h
  obtain ⟨record, hRecord, h⟩ := bind_eq_ok.mp h
  obtain ⟨⟨catalyst, _⟩, hCatalyst, h⟩ := bind_eq_ok.mp h
  obtain ⟨gap, hGap, h⟩ := bind_eq_ok.mp h
  obtain ⟨distance, hDistance, h⟩ := bind_eq_ok.mp h
  obtain ⟨_, -, h⟩ := bind_eq_ok.mp h
  obtain ⟨rvol, hRvolField, h⟩ := bind_eq_ok.mp h
  obtain ⟨atr, hAtrField, h⟩ := bind_eq_ok.mp h
  obtain ⟨vwap, hVwapField, h⟩ := bind_eq_ok.mp h
  obtain ⟨age, hAgeField, h⟩ := bind_eq_ok.mp h
  obtain rfl := Except.ok.inj h
  obtain rfl := nonNegative_eq_ok hRvolField
  obtain rfl := positive_eq_ok hAtrField
  obtain rfl := positive_eq_ok hVwapField
  obtain rfl := nonNegative_eq_ok hAgeField
  exact ⟨trades, hTrades, rfl, hPrice, hLow, rfl, hAtr, hVwap, hRvol, hProfile, hResistance,
    ⟨record, hRecord, rfl⟩, hCatalyst, hGap, hDistance⟩

/-- The body of the loop: the decision on a candidate, and its features where it is
accepted. Only a `DataQualityError` is caught. -/
def decideCandidate (rt : Runtime D) (context : FeatureContext D) (source : CandidateSourceData D) :
    Result (PrequalificationDecision × Option (CandidateFeatures D)) :=
  match calculateCandidate rt context source with
  | .error (.dataQuality code _) =>
    .ok ({ ticker := source.ticker, accepted := false, reasonCodes := [.dataQuality code] }, none)
  | .error (.raised e) => .error e
  | .ok features =>
    let reasons := (prequalify features context.config).reasonCodes ++
      reasonIf (value context.catalystFreshnessThresholdHours.1 < value features.catalystAgeHours.1)
        .staleCatalyst
    let decision : PrequalificationDecision :=
      { ticker := features.ticker
        accepted := reasons.isEmpty
        reasonCodes := reasons
        featureSourceHash := some features.featureSourceHash }
    .ok (decision, if decision.accepted then some features else none)

/-! ### The payload -/

/-- `float(x)` in a field of a model, which refuses an infinite one. -/
def finiteFloat (rt : Runtime D) (x : D) : Result PyFloat :=
  match toDouble (value x) with
  | some r => .ok ⟨r, rt.floatRepr r⟩
  | none => .error (.validationError "Input should be a finite number")

/-- A model of the payload, validated. -/
def model {α : Type} (valid : α → Prop) [DecidablePred valid] (a : α) : Result α :=
  validated valid (.validationError "validation error") a

/-- `_ticker_input` -/
def tickerInput (rt : Runtime D) (features : CandidateFeatures D) : Result TickerInput := do
  let catalyst := features.catalyst
  let ageHours ← finiteFloat rt features.catalystAgeHours.1
  let newsContext ← model NewsContext.Valid
    { catalystText := catalyst.catalystText
      sourceType := catalyst.sourceType
      sourceName := catalyst.sourceName
      sourceTimestamp := utcZ catalyst.sourceTimestamp
      catalystAgeHours := ageHours
      corroborated := catalyst.corroborated
      disqualifierFlags := catalyst.disqualifierFlags }
  let gap ← finiteFloat rt features.gapPct
  let rvol ← finiteFloat rt features.rvolTimeMatched.1
  let liquidityMetrics ← model LiquidityMetrics.Valid
    { gapPct := gap
      premarketVolume := features.premarketVolume
      rvolTimeMatched := rvol
      floatShares := features.floatShares
      volumeProfile := features.volumeProfile
      borrowStatus := features.borrowStatus }
  let distanceToResistance ← finiteFloat rt features.resistance.distanceToResistanceAtr
  let distanceFromVwap ← finiteFloat rt features.distanceFromVwapAtr
  let price ← finiteFloat rt features.currentPrice.1
  let atr ← finiteFloat rt features.atrValue.1
  let low ← finiteFloat rt features.premarketLow.1
  let technicalContext ← model TechnicalContext.Valid
    { distanceToResistanceAtr := distanceToResistance
      distanceFromVwapAtr := distanceFromVwap
      chartStructure := features.resistance.chartStructure
      currentPrice := price
      atrValue := atr
      premarketLow := low }
  model TickerInput.Valid
    { ticker := features.ticker
      halted := features.halted
      newsContext := newsContext
      liquidityMetrics := liquidityMetrics
      technicalContext := technicalContext }

/-- `DaybreakInput(...)` -/
def daybreakInput (fields : PayloadFields) : Result DaybreakInput :=
  if h : fields.Valid then .ok ⟨fields, h⟩ else .error (.validationError "validation error")

def payloadOf (rt : Runtime D) (context : FeatureContext D)
    (selected : List (CandidateFeatures D)) : Result DaybreakInput := do
  let payloadAge := truncate (elapsedSeconds context.evaluationTimestamp context.payloadTimestamp)
  let threshold ← finiteFloat rt context.catalystFreshnessThresholdHours.1
  let tickers ← selected.mapM (tickerInput rt)
  ensure (0 ≤ payloadAge) (.validationError "Input should be greater than or equal to 0")
  daybreakInput
    { evaluationTimestamp := utcZ context.evaluationTimestamp
      payloadTimestamp := utcZ context.payloadTimestamp
      payloadAgeSeconds := payloadAge.toNat
      catalystFreshnessThresholdHours := threshold
      marketStatus := context.marketStatus
      tickers := tickers }

/-! ### The snapshot -/

/-- The ranks go on where the capacity ends. -/
def capacityOmissions (capacity : ℕ) (omitted : List (CandidateFeatures D)) :
    List CapacityOmission :=
  (omitted.zipIdx (capacity + 1)).map fun (features, index) => ⟨features.ticker, index⟩

theorem tickers_capacityOmissions (capacity : ℕ) (omitted : List (CandidateFeatures D)) :
    (capacityOmissions capacity omitted).map (·.ticker) = omitted.map (·.ticker) := by
  have hFst : (·.ticker) ∘ (fun (features, index) => ⟨features.ticker, index⟩ :
      CandidateFeatures D × ℕ → CapacityOmission) = (·.ticker) ∘ Prod.fst := rfl
  rw [capacityOmissions, List.map_map, hFst, ← List.map_map, List.zipIdx_map_fst]

theorem ranks_capacityOmissions (capacity : ℕ) (omitted : List (CandidateFeatures D)) :
    (capacityOmissions capacity omitted).map (·.finalCapacityRank) =
      List.range' (capacity + 1) omitted.length := by
  have hSnd : (·.finalCapacityRank) ∘ (fun (features, index) => ⟨features.ticker, index⟩ :
      CandidateFeatures D × ℕ → CapacityOmission) = Prod.snd := rfl
  rw [capacityOmissions, List.map_map, hSnd, List.zipIdx_map_snd]

def buildFeatureSnapshot (rt : Runtime D) (context : FeatureContext D) :
    Result (FeatureSnapshot D) := do
  let candidates := sortedBy (·.ticker) context.candidates
  let results ← candidates.mapM (decideCandidate rt context)
  let decisions := results.map (·.1)
  let successful := results.filterMap (·.2)
  let capacity := context.config.maxEvaluatorCandidates
  let ranked := sortedBy capacitySortKey successful
  let selected := ranked.take capacity
  let omitted := ranked.drop capacity
  let omissions := capacityOmissions capacity omitted
  let payload ← payloadOf rt context selected
  let contextHash ← canonicalSha256 rt.contextSha256 context.numbers context
  let configurationHash ← canonicalSha256 rt.configSha256 context.config.numbers context.config
  let featureHash ← canonicalSha256 rt.featuresSha256 (selected.flatMap (·.numbers)) selected
  let payloadHash := rt.payloadSha256 payload
  let auditHash := rt.auditSha256 decisions omissions
  let snapshotId := rt.snapshotSha256 [("context_hash", contextHash), ("payload_hash", payloadHash),
    ("feature_hash", featureHash), ("configuration_hash", configurationHash),
    ("audit_hash", auditHash)]
  if h : payload.tickers.map (·.ticker) = selected.map (·.ticker) then
    return {
      snapshotId := snapshotId
      contextHash := contextHash
      auditHash := auditHash
      payload := payload
      payloadHash := payloadHash
      featureHash := featureHash
      configurationHash := configurationHash
      moduleManifest := sortedBy (fun item => toLex item) context.config.moduleVersions
      prequalification := decisions
      capacityOmissions := omissions
      acceptedFeatureRecords := selected
      consistent := h }
  else throw (.valueError "payload and accepted feature record order must match")

end Daybreak.Features
