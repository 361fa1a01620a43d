import Daybreak.Validation.Models
import Mathlib.Data.List.Infix

/-! The seventy-seven checks that every evaluation is put through, in their order,
and the registry of them. A check reads the answer of the evaluator, the payload
where it is valid, the payload as it was supplied, and the metadata of the run. -/

namespace Daybreak.Validation

open Contracts Serial

/-! ### What the checks share -/

/-- `text[start:stop]` -/
def slice (text : String) (start stop : ℤ) : String :=
  let position := fun i : ℤ => min (if i < 0 then i + text.length else i).toNat text.length
  String.ofList ((text.toList.take (position stop)).drop (position start))

/-- The distinct elements in the order of their first occurrences. -/
def firstOccurrences (xs : List String) : List String := xs.reverse.dedup.reverse

/-- The tickers that `schema_failures` names. -/
def failureTickers (output : DaybreakOutput) : List String :=
  output.schemaFailures.filterMap fun failure =>
    if failure.scope = .ticker then failure.ticker else none

/-- The tickers of the trading arrays. -/
def tradingTickers (output : DaybreakOutput) : List String :=
  (terminalRecords output).map (·.ticker)

/-- `_score_path` -/
def scorePath : TerminalRecord → String
  | .approved setup => "approved_setups[" ++ setup.ticker ++ "].score_breakdown"
  | .qualified record => "qualified_not_selected[" ++ record.ticker ++ "].score_breakdown"
  | .excluded record => "excluded_tickers[" ++ record.ticker ++ "].evaluation_snapshot"

/-- The violations of the terminal records, one after the other. -/
def perRecord (output : DaybreakOutput) (check : TerminalRecord → List InvariantViolation) :
    List InvariantViolation :=
  (terminalRecords output).flatMap check

/-- The violations of the terminal records whose ticker is in the payload. -/
def perEntry (payload : DaybreakInput) (output : DaybreakOutput)
    (check : TerminalRecord → TickerInput → List InvariantViolation) : List InvariantViolation :=
  perRecord output fun record => (inputByTicker payload record.ticker).elim [] (check record)

def reasonCodes (excluded : ExcludedTicker) : List ReasonCode :=
  excluded.reasons.map (·.reasonCode)

/-- A check that asks the metadata for a trace. -/
def traceCheck (number : ℕ) (name note path message : String) (trace : Option Bool) :
    InvariantCheck :=
  match trace with
  | none => notEvaluated number name note
  | some value => checked number name (violationUnless value number path message)

/-! ### The terminal partition -/

def invariant001 (ctx : ValidationContext) : InvariantCheck :=
  let symbols := tradingTickers ctx.output ++ failureTickers ctx.output
  let repeated := firstOccurrences (symbols.filter fun symbol => 1 < symbols.count symbol)
  checked 1 "terminal categories are mutually exclusive"
    (repeated.map (⟨1, ·, "ticker appears in multiple terminal categories"⟩))

def invariant002 (ctx : ValidationContext) : InvariantCheck :=
  checked 2 "schema-invalid tickers appear only in schema_failures"
    ((failureTickers ctx.output).flatMap fun ticker =>
      violationUnless (ticker ∉ tradingTickers ctx.output) 2 ticker
        "schema-invalid ticker reached trading output")

/-- An excluded ticker of the payload has the reasons that replay gives it. -/
def excludedViolations (payload : DaybreakInput) (item : ExcludedTicker) :
    List InvariantViolation :=
  match inputByTicker payload item.ticker with
  | none => [⟨3, item.ticker, "excluded ticker has no corresponding input"⟩]
  | some entry =>
    let expected := expectedFailedGates entry item.evaluationSnapshot.catalystScoreRaw
    if expected = [] then [⟨3, item.ticker, "excluded ticker passes all hard gates"⟩]
    else violationUnless (item.reasons = expected) 3 item.ticker
      "hard-gate reasons or ordering do not match deterministic replay"

def invariant003 (ctx : ValidationContext) : InvariantCheck :=
  let name := "every excluded ticker fails at least one hard gate"
  withInput ctx 3 name "valid evaluator input is required" fun payload =>
    checked 3 name (ctx.output.excludedTickers.flatMap (excludedViolations payload))

/-- A passing ticker of the payload fails no gate. -/
def passingViolations (payload : DaybreakInput) (ticker : String) (score : ScoreBreakdown) :
    List InvariantViolation :=
  match inputByTicker payload ticker with
  | none => [⟨4, ticker, "passing ticker has no corresponding input"⟩]
  | some entry => violationUnless (expectedFailedGates entry score.catalystScoreRaw = []) 4 ticker
      "passing ticker failed a hard gate"

def invariant004 (ctx : ValidationContext) : InvariantCheck :=
  let name := "passing terminal records pass all eight hard gates"
  withInput ctx 4 name "valid evaluator input is required" fun payload =>
    checked 4 name
      ((ctx.output.approvedSetups.flatMap fun item =>
        passingViolations payload item.ticker item.scoreBreakdown) ++
      ctx.output.qualifiedNotSelected.flatMap fun item =>
        passingViolations payload item.ticker item.scoreBreakdown)

def invariant005 (ctx : ValidationContext) : InvariantCheck :=
  let name := "approved/no-setups terminal partition is exhaustive"
  if ctx.output.runStatus ∉ [.approved, .noSetups] then
    passed 5 name (some "partition equation is not applicable to this run status")
  else withInput ctx 5 name "valid evaluator input is required" fun payload =>
    checked 5 name (violationUnless
      (ctx.output.approvedSetups.length + ctx.output.qualifiedNotSelected.length +
        ctx.output.excludedTickers.length = payload.tickers.length)
      5 "terminal arrays" "terminal partition count mismatch")

def invariant006 (ctx : ValidationContext) : InvariantCheck :=
  checked 6 "approved setup count never exceeds three"
    (violationUnless (ctx.output.approvedSetups.length ≤ 3) 6 "approved_setups"
      "approval cap exceeded")

def invariant007 (_ : ValidationContext) : InvariantCheck :=
  passed 7 "every excluded ticker has exactly one primary reason"
    (some "enforced by the strict ExcludedTicker model")

def invariant008 (_ : ValidationContext) : InvariantCheck :=
  passed 8 "additional reasons use the primary reason schema"
    (some "enforced by the shared ReasonObject model")

def invariant009 (_ : ValidationContext) : InvariantCheck :=
  passed 9 "SCHEMA_FAILURE is never an exclusion reason" (some "enforced by the ReasonCode enum")

def invariant010 (_ : ValidationContext) : InvariantCheck :=
  passed 10 "excluded evaluation snapshots are complete" (some "enforced by EvaluationSnapshot")

def invariant011 (_ : ValidationContext) : InvariantCheck :=
  passed 11 "run blockers use only allowed codes" (some "enforced by BlockerCode")

def invariant012 (_ : ValidationContext) : InvariantCheck :=
  passed 12 "schema failures use allowed scopes" (some "enforced by SchemaFailureScope")

def invariant013 (ctx : ValidationContext) : InvariantCheck :=
  let name := "non-scoring statuses have zero ticker trading results"
  if ctx.output.runStatus ∉ [.schemaFailure, .blockedMarket, .stalePayload] then passed 13 name none
  else checked 13 name (violationUnless
    (ctx.output.approvedSetups.length + ctx.output.qualifiedNotSelected.length +
      ctx.output.excludedTickers.length = 0)
    13 "trading arrays" "non-scoring run contains ticker results")

/-- The status that a payload and the presence of approvals call for. -/
def expectedStatus (payload : DaybreakInput) (output : DaybreakOutput) : RunStatus :=
  if payload.marketStatus ≠ .normal then .blockedMarket
  else if 180 < payload.payloadAgeSeconds then .stalePayload
  else if output.approvedSetups ≠ [] then .approved
  else .noSetups

def invariant014 (ctx : ValidationContext) : InvariantCheck :=
  let name := "run status follows universal precedence"
  match ctx.inputPayload with
  | none =>
    if ctx.output.runStatus = .schemaFailure then
      passed 14 name (some "schema-failure precedence is represented by the output model")
    else notEvaluated 14 name "valid input or staged schema trace is required"
  | some payload => checked 14 name (violationUnless
      (ctx.output.runStatus = expectedStatus payload ctx.output)
      14 "run_status" "run-status precedence mismatch")

def invariant015 (ctx : ValidationContext) : InvariantCheck :=
  traceCheck 15 "all scoring stages complete before hard gates"
    "requires orchestrator evaluation trace" "evaluation_trace"
    "scoring/gate order was not proven" ctx.metadata.scoringCompletedBeforeGates

def invariant016 (_ : ValidationContext) : InvariantCheck :=
  passed 16 "no terminal scoring result is partially populated"
    (some "enforced by ScoreBreakdown and EvaluationSnapshot")

/-! ### Scores -/

/-- The fields of a score that replay fixes, and whether they agree with it. -/
def scoreAgreement (expected : ExpectedScore) (score : ScoreBreakdown) : List (String × Bool) :=
  [("source_quality_points", score.sourceQualityPoints = expected.sourceQualityPoints),
    ("catalyst_magnitude_points", score.catalystMagnitudePoints = expected.catalystMagnitudePoints),
    ("catalyst_zero_override", score.catalystZeroOverride = expected.catalystZeroOverride),
    ("catalyst_zero_reason", score.catalystZeroReason = expected.catalystZeroReason),
    ("catalyst_score_raw", score.catalystScoreRaw = expected.catalystScoreRaw),
    ("catalyst_points", score.catalystPoints = expected.catalystPoints),
    ("volume_points", score.volumePoints = expected.volumePoints),
    ("technical_grade", score.technicalGrade = expected.technicalGrade),
    ("technical_base_points", score.technicalBasePoints = expected.technicalBasePoints),
    ("technical_points", score.technicalPoints = expected.technicalPoints),
    ("parabolic_adjusted", score.parabolicAdjusted = expected.parabolicAdjusted)]

/-- The trade parameters restate the payload, numerically. -/
def TradeEcho (setup : ApprovedSetup) (entry : TickerInput) : Prop :=
  setup.tradeParameters.referencePrice.value = entry.technicalContext.currentPrice.value ∧
    setup.tradeParameters.atrValueUsed.value = entry.technicalContext.atrValue.value ∧
    setup.tradeParameters.premarketLowUsed.value = entry.technicalContext.premarketLow.value

instance (setup : ApprovedSetup) (entry : TickerInput) : Decidable (TradeEcho setup entry) := by
  unfold TradeEcho; infer_instance

def replayViolations (payload : DaybreakInput) (record : TerminalRecord) (entry : TickerInput) :
    List InvariantViolation :=
  let score := record.score
  let expected := expectedScoreFields payload entry score
  ((scoreAgreement expected score).flatMap fun (field, agrees) =>
    violationUnless agrees 17 (scorePath record ++ "." ++ field)
      "deterministic score replay mismatch") ++
  violationUnless (record.riskFlags = expected.riskFlags) 17 (record.ticker ++ ".risk_flags")
    "risk-flag truth replay mismatch" ++
  violationUnless
    (∀ conviction ∈ record.convictionScore,
      conviction = score.catalystPoints + score.volumePoints + score.technicalPoints)
    17 (record.ticker ++ ".conviction_score") "conviction score replay mismatch" ++
  match record with
  | .approved setup => violationUnless (TradeEcho setup entry) 17
      (record.ticker ++ ".trade_parameters") "trade-parameter echo mismatch"
  | _ => []

def invariant017 (ctx : ValidationContext) : InvariantCheck :=
  let name := "hard gates do not alter component scores"
  withInput ctx 17 name "valid evaluator input is required" fun payload =>
    checked 17 name (perEntry payload ctx.output (replayViolations payload))

def invariant018 (_ : ValidationContext) : InvariantCheck :=
  passed 18 "conviction score appears only on passing records"
    (some "enforced by terminal object schemas")

/-! ### Evidence -/

inductive EvidenceMode where
  | substring | full | truncated | pair | bounds
  deriving DecidableEq, Repr

def EvidenceMode.name : EvidenceMode → String
  | .substring => "evidence excerpt is a contiguous substring"
  | .full => "nontruncated excerpt equals the identified span"
  | .truncated => "truncated excerpt is the first 200 code points"
  | .pair => "evidence positions are paired"
  | .bounds => "evidence positions are in bounds"

def evidenceViolations (number : ℕ) (mode : EvidenceMode) (record : TerminalRecord)
    (entry : TickerInput) : List InvariantViolation :=
  let text := entry.newsContext.catalystText
  let score := record.score
  let excerpt := score.magnitudeEvidenceExcerpt
  let path := scorePath record
  let excerptPath := path ++ ".magnitude_evidence_excerpt"
  match mode, score.magnitudeEvidenceStartChar, score.magnitudeEvidenceEndChar with
  | .substring, _, _ => violationUnless (excerpt.toList <:+: text.toList) number excerptPath
      "evidence excerpt is not present verbatim"
  | .full, some start, some stop => violationUnless
      (score.magnitudeEvidenceTruncated = false → excerpt = slice text start stop)
      number excerptPath "nontruncated evidence does not equal indexed span"
  | .full, _, _ => []
  | .truncated, some start, some stop =>
    let span := slice text start stop
    violationUnless (score.magnitudeEvidenceTruncated = true →
      200 < span.length ∧ excerpt = slicePrefix span 200)
      number excerptPath "truncation rule mismatch"
  | .truncated, _, _ => violationUnless (score.magnitudeEvidenceTruncated = false) number path
      "truncated evidence requires positions"
  | .pair, start, stop => violationUnless (start.isNone = stop.isNone) number path
      "evidence positions are not paired"
  | .bounds, some start, some stop => violationUnless
      (0 ≤ start ∧ start < stop ∧ stop ≤ text.length) number path
      "evidence offsets are out of bounds"
  | .bounds, _, _ => []

/-- `_evidence_checks` -/
def evidenceChecks (ctx : ValidationContext) (number : ℕ) (mode : EvidenceMode) :
    InvariantCheck :=
  withInput ctx number mode.name "valid evaluator input is required" fun payload =>
    checked number mode.name (perEntry payload ctx.output (evidenceViolations number mode))

def invariant019 (ctx : ValidationContext) : InvariantCheck := evidenceChecks ctx 19 .substring

def invariant020 (ctx : ValidationContext) : InvariantCheck := evidenceChecks ctx 20 .full

def invariant021 (ctx : ValidationContext) : InvariantCheck := evidenceChecks ctx 21 .truncated

def invariant022 (ctx : ValidationContext) : InvariantCheck := evidenceChecks ctx 22 .pair

def invariant023 (ctx : ValidationContext) : InvariantCheck := evidenceChecks ctx 23 .bounds

/-! ### Volume and charts -/

def invariant024 (_ : ValidationContext) : InvariantCheck :=
  passed 24 "volume points use the exhaustive allowed set"
    (some "enforced by Literal[0,15,25,35]")

/-- `_check_volume_rule` -/
def checkVolumeRule (ctx : ValidationContext) (number : ℕ) (predicate : TickerInput → Bool)
    (expected : ℕ) (name : String) : InvariantCheck :=
  withInput ctx number name "valid evaluator input is required" fun payload =>
    checked number name (perEntry payload ctx.output fun record entry =>
      violationUnless (predicate entry → record.score.volumePoints = expected) number
        (scorePath record ++ ".volume_points") "volume rule mismatch")

def invariant025 (ctx : ValidationContext) : InvariantCheck :=
  checkVolumeRule ctx 25
    (fun entry => entry.liquidityMetrics.volumeProfile = .clean ∧
      entry.liquidityMetrics.rvolTimeMatched.value < 5)
    0 "clean RVOL below 5 scores zero"

def invariant026 (ctx : ValidationContext) : InvariantCheck :=
  checkVolumeRule ctx 26 (·.liquidityMetrics.volumeProfile = .spiky) 15
    "spiky volume always scores 15"

/-- The volume points of a snapshot are never null. -/
def invariant027 (_ : ValidationContext) : InvariantCheck :=
  checked 27 "RVOL gate failures retain volume points" []

def invariant028 (ctx : ValidationContext) : InvariantCheck :=
  checked 28 "resistance/capped failures have grade C zero technical result"
    (ctx.output.excludedTickers.flatMap fun item =>
      let s := item.evaluationSnapshot
      violationUnless
        (.resistanceTooClose ∈ reasonCodes item ∨ .cappedChart ∈ reasonCodes item →
          s.technicalGrade = .c ∧ s.technicalBasePoints = 0 ∧ s.technicalPoints = 0 ∧
            s.parabolicAdjusted = false)
        28 item.ticker "failing chart technical result mismatch")

def invariant029 (ctx : ValidationContext) : InvariantCheck :=
  checked 29 "parabolic penalty never applies to grade C"
    (perRecord ctx.output fun record => violationUnless
      (record.score.technicalGrade = .c → record.score.parabolicAdjusted = false)
      29 record.ticker "grade-C result received parabolic penalty")

def invariant030 (ctx : ValidationContext) : InvariantCheck :=
  checked 30 "technical grade/point combinations are exhaustive"
    (perRecord ctx.output fun record => violationUnless
      ((record.score.technicalGrade, record.score.technicalPoints) ∈
        [(TechnicalGrade.aPlus, 25), (.aPlus, 19), (.a, 22), (.a, 16), (.b, 13), (.b, 7), (.c, 0)])
      30 record.ticker "unsupported technical result")

/-! ### Zero reasons -/

/-- The override of a record that has no zero reason, or none that has one. -/
def overrideViolations (number : ℕ) (output : DaybreakOutput) : List InvariantViolation :=
  perRecord output fun record => violationUnless
    (record.score.catalystZeroOverride = record.score.catalystZeroReason.isSome)
    number record.ticker "zero-override equivalence failed"

def invariant031 (ctx : ValidationContext) : InvariantCheck :=
  checked 31 "zero override is equivalent to non-null zero reason"
    (overrideViolations 31 ctx.output)

def invariant032 (ctx : ValidationContext) : InvariantCheck :=
  checked 32 "zero override zeros raw and weighted catalyst scores"
    (perRecord ctx.output fun record => violationUnless
      (record.score.catalystZeroOverride = true →
        record.score.catalystScoreRaw = 0 ∧ record.score.catalystPoints = 0)
      32 record.ticker "zero override did not zero final catalyst score")

def invariant033 (ctx : ValidationContext) : InvariantCheck :=
  checked 33 "magnitude bucket and points follow ordinary bucket mapping"
    (perRecord ctx.output fun record => violationUnless
      (record.score.catalystMagnitudePoints = magnitudePoints record.score.catalystMagnitudeBucket)
      33 record.ticker "magnitude bucket/points mapping mismatch")

def invariant034 (ctx : ValidationContext) : InvariantCheck :=
  let name := "disqualifier override changes evidence target, not bucket"
  withInput ctx 34 name "valid input is required" fun payload =>
    let applicable := payload.tickers.filter (·.newsContext.disqualifierFlags ≠ [])
    let missing := (applicable.map (·.ticker)).filter
      (· ∉ ctx.metadata.semanticMagnitudeBeforeOverride)
    if missing ≠ [] then
      notEvaluated 34 name ("semantic pre-override trace missing for: " ++
        String.intercalate ", " missing)
    else passed 34 name none

def invariant035 (ctx : ValidationContext) : InvariantCheck :=
  let name := "disqualifier override can retain positive magnitude diagnostics"
  if ∃ record ∈ terminalRecords ctx.output,
      record.score.catalystZeroReason = some .disqualifierFlag ∧
        0 < record.score.catalystMagnitudePoints ∧ record.score.catalystScoreRaw = 0 ∧
        record.score.catalystPoints = 0 then
    passed 35 name (some "reachability fixture observed")
  else notEvaluated 35 name
    "reachability property is asserted by dedicated fixture, not every run"

def invisibleViolations (output : DaybreakOutput) (ticker : String) : List InvariantViolation :=
  match (terminalRecords output).reverse.find? (·.ticker = ticker) with
  | none => [⟨36, ticker, "fixture ticker missing"⟩]
  | some record =>
    let score := record.score
    violationUnless (score.catalystZeroReason = some .disqualifierFlag) 36 ticker
      "wrong zero reason" ++
    violationUnless (score.magnitudeEvidenceExcerpt = "" ∧
      score.magnitudeEvidenceStartChar = none ∧ score.magnitudeEvidenceEndChar = none) 36 ticker
      "invisible disqualifier evidence shape mismatch" ++
    violationUnless
      (score.catalystMagnitudePoints = magnitudePoints score.catalystMagnitudeBucket) 36 ticker
      "bucket points were altered by invisible disqualifier"

def invariant036 (ctx : ValidationContext) : InvariantCheck :=
  let name := "invisible disqualifier evidence does not force no-valid-driver"
  let targets := ctx.metadata.invisibleDisqualifierTickers
  if targets = [] then
    notEvaluated 36 name "requires semantic fixture identifying an invisible supplied disqualifier"
  else checked 36 name
    ((targets.dedup.insertionSort (· ≤ ·)).flatMap (invisibleViolations ctx.output))

def invariant037 (ctx : ValidationContext) : InvariantCheck :=
  let name := "unconfirmed/stale evidence targets content magnitude"
  withInput ctx 37 name "valid input is required" fun _ =>
    checked 37 name (perRecord ctx.output fun record => violationUnless
      (record.score.catalystZeroReason ∈ [some .unconfirmedSource, some .staleCatalyst] →
        record.score.catalystMagnitudeBucket ≠ .noValidDriver →
        record.score.magnitudeEvidenceExcerpt ≠ "")
      37 record.ticker "metadata zero reason appears to have suppressed content evidence")

def invariant038 (ctx : ValidationContext) : InvariantCheck :=
  checked 38 "no-valid-driver zero reason has canonical diagnostics"
    (perRecord ctx.output fun record => violationUnless
      (record.score.catalystZeroReason = some .noValidDriver →
        record.score.catalystMagnitudeBucket = .noValidDriver ∧
          record.score.catalystMagnitudePoints = 0 ∧ record.score.magnitudeEvidenceExcerpt = "" ∧
          record.score.magnitudeEvidenceStartChar = none ∧
          record.score.magnitudeEvidenceEndChar = none)
      38 record.ticker "no-valid-driver diagnostic shape mismatch")

def invariant039 (ctx : ValidationContext) : InvariantCheck :=
  let name := "no-valid-driver is assigned only by ordinary content analysis"
  let targets := (terminalRecords ctx.output).filter fun record =>
    record.score.catalystZeroReason = some .noValidDriver
  let missing := (targets.map (·.ticker)).filter
    (· ∉ ctx.metadata.semanticMagnitudeBeforeOverride)
  if targets = [] then notEvaluated 39 name "no no-valid-driver record in this run"
  else if missing ≠ [] then
    notEvaluated 39 name ("ordinary-content trace missing for: " ++
      String.intercalate ", " missing)
  else passed 39 name none

/-- A zero reason is the one that replay selects. -/
def zeroReasonViolations (number : ℕ) (message : String) (payload : DaybreakInput)
    (output : DaybreakOutput) : List InvariantViolation :=
  perEntry payload output fun record entry => violationUnless
    (record.score.catalystZeroReason =
      (expectedScoreFields payload entry record.score).catalystZeroReason)
    number record.ticker message

def invariant040 (ctx : ValidationContext) : InvariantCheck :=
  let name := "automatic-zero precedence is exact"
  withInput ctx 40 name "valid evaluator input is required" fun payload =>
    checked 40 name (zeroReasonViolations 40 "automatic-zero precedence mismatch" payload
      ctx.output)

/-! ### Orchestration -/

def invariant041 (ctx : ValidationContext) : InvariantCheck :=
  let name := "evaluator candidate count does not exceed hard maximum"
  let count := ctx.metadata.evaluatorCandidateCount <|>
    ctx.inputPayload.map (·.tickers.length)
  match ctx.metadata.maxEvaluatorCandidatesHard, count with
  | none, _ => notEvaluated 41 name "hard maximum metadata is required"
  | some _, none => notEvaluated 41 name "candidate count is required"
  | some maximum, some count => checked 41 name
      (violationUnless (count ≤ maximum) 41 "candidate_count" "candidate hard maximum exceeded")

def invariant042 (ctx : ValidationContext) : InvariantCheck :=
  let symbols := tradingTickers ctx.output ++ failureTickers ctx.output
  let overlap := symbols.dedup.filter (· ∈ ctx.metadata.prequalifiedOutTickers)
  checked 42 "prequalified-out candidates are absent from evaluator output"
    ((overlap.insertionSort (· ≤ ·)).map
      (⟨42, ·, "prequalified-out ticker appeared in evaluator output"⟩))

def invariant043 (ctx : ValidationContext) : InvariantCheck :=
  let name := "capacity omissions are logged with policy version"
  let omitted := ctx.metadata.capacityOmittedTickers
  if omitted = [] then passed 43 name none
  else checked 43 name
    (violationUnless (∀ ticker ∈ omitted, ticker ∈ ctx.metadata.capacityOmissionsLogged) 43
      "capacity_omissions_logged" "capacity omissions were not all logged" ++
    violationUnless (ctx.metadata.preselectionPolicyVersion.getD "" ≠ "") 43
      "preselection_policy_version" "capacity omission lacks policy version")

def invariant044 (ctx : ValidationContext) : InvariantCheck :=
  let name := "late evaluator responses cannot authorize orders"
  match ctx.metadata.evaluatorResponseTimestamp, ctx.metadata.executionCutoffTimestamp,
    ctx.metadata.orderAuthorized with
  | some received, some cutoff, some authorized => checked 44 name
      (violationUnless (cutoff < received → authorized = false) 44 "order_authorized"
        "late response authorized an order")
  | _, _, _ => notEvaluated 44 name
      "response time, cutoff, and authorization metadata are required"

/-! ### Reachable charts -/

inductive ChartMode where
  | blueSkyLowDistance | capped | cappedReasonOrder
  deriving DecidableEq, Repr

def ChartMode.name : ChartMode → String
  | .blueSkyLowDistance => "blue-sky low-distance case receives C and resistance failure"
  | .capped => "every capped case receives C and capped failure"
  | .cappedReasonOrder => "capped reason precedence is deterministic"

def ChartMode.Applies (mode : ChartMode) (technical : TechnicalContext) : Prop :=
  match mode with
  | .blueSkyLowDistance =>
    technical.chartStructure = .blueSky ∧ technical.distanceToResistanceAtr.value < 1
  | _ => technical.chartStructure = .capped

instance (mode : ChartMode) (technical : TechnicalContext) : Decidable (mode.Applies technical) := by
  unfold ChartMode.Applies; split <;> infer_instance

def chartViolations (number : ℕ) (mode : ChartMode) (output : DaybreakOutput)
    (entry : TickerInput) : List InvariantViolation :=
  match output.excludedTickers.reverse.find? (·.ticker = entry.ticker) with
  | none => [⟨number, entry.ticker, "chart reachability case missing exclusion"⟩]
  | some excluded =>
    let grade := excluded.evaluationSnapshot.technicalGrade
    match mode with
    | .blueSkyLowDistance => violationUnless
        (grade = .c ∧ .resistanceTooClose ∈ reasonCodes excluded) number entry.ticker
        "blue-sky low-distance outcome mismatch"
    | .capped => violationUnless
        (grade = .c ∧ .cappedChart ∈ reasonCodes excluded) number entry.ticker
        "capped outcome mismatch"
    | .cappedReasonOrder => violationUnless
        (excluded.primaryReason.reasonCode =
          if entry.technicalContext.distanceToResistanceAtr.value < 1 then .resistanceTooClose
          else .cappedChart)
        number entry.ticker "capped primary reason order mismatch"

/-- `_check_chart_reachability` -/
def checkChartReachability (ctx : ValidationContext) (number : ℕ) (mode : ChartMode) :
    InvariantCheck :=
  withInput ctx number mode.name "valid input is required" fun payload =>
    let applicable := payload.tickers.filter fun entry => mode.Applies entry.technicalContext
    if applicable = [] then
      notEvaluated number mode.name "reachability case is covered by a dedicated fixture"
    else checked number mode.name (applicable.flatMap (chartViolations number mode ctx.output))

def invariant045 (ctx : ValidationContext) : InvariantCheck :=
  checkChartReachability ctx 45 .blueSkyLowDistance

def invariant046 (ctx : ValidationContext) : InvariantCheck := checkChartReachability ctx 46 .capped

def invariant047 (ctx : ValidationContext) : InvariantCheck :=
  checkChartReachability ctx 47 .cappedReasonOrder

/-! ### Schemas and echoes -/

def invariant048 (ctx : ValidationContext) : InvariantCheck :=
  checked 48 "zero reason nullability is consistent in all score records"
    (overrideViolations 48 ctx.output)

def invariant049 (_ : ValidationContext) : InvariantCheck :=
  passed 49 "standalone catalyst/liquidity thesis fields never appear"
    (some "enforced by extra=forbid terminal schemas")

def invariant050 (_ : ValidationContext) : InvariantCheck :=
  passed 50 "every schema-valid terminal record contains risk_flags"
    (some "enforced by terminal schemas")

/-- `raw.get(key) is None` -/
def missing (raw : RawObject) (key : String) : Bool :=
  match raw.lookup key with
  | none => true
  | some .none => true
  | some _ => false

def invariant051 (ctx : ValidationContext) : InvariantCheck :=
  let name := "schema-failure echoes are null only for invalid or missing source fields"
  if ctx.output.runStatus ≠ .schemaFailure then passed 51 name none
  else match ctx.rawInput with
    | none => notEvaluated 51 name "raw invalid input is required"
    | some raw => checked 51 name
        (([("evaluation_timestamp", "execution_timestamp", ctx.output.executionTimestamp.isSome),
          ("payload_timestamp", "payload_timestamp_used", ctx.output.payloadTimestampUsed.isSome),
          ("market_status", "market_status", ctx.output.marketStatus.isSome)] :
            List (String × String × Bool)).flatMap fun (source, target, echoed) =>
          violationUnless (missing raw source → echoed = false) 51 target
            "missing source echo was repaired")

def invariant052 (ctx : ValidationContext) : InvariantCheck :=
  let name := "non-schema-failure echo fields are valid, non-null, and exact"
  if ctx.output.runStatus = .schemaFailure then passed 52 name none
  else checked 52 name
    (violationUnless
      (ctx.output.executionTimestamp.isSome ∧ ctx.output.payloadTimestampUsed.isSome ∧
        ctx.output.marketStatus.isSome)
      52 "echo fields" "non-schema response contains null echo" ++
    violationUnless
      (∀ payload ∈ ctx.inputPayload.map (·.toPayloadFields),
        ctx.output.executionTimestamp = some payload.evaluationTimestamp ∧
          ctx.output.payloadTimestampUsed = some payload.payloadTimestamp ∧
          ctx.output.marketStatus = some payload.marketStatus)
      52 "echo fields" "top-level echo mismatch")

def invariant053 (ctx : ValidationContext) : InvariantCheck :=
  let name := "valid payload tickers are canonical and unique"
  withInput ctx 53 name "valid input model is required" fun payload =>
    checked 53 name (violationUnless (payload.tickers.map (·.ticker)).Nodup 53 "tickers"
      "duplicate symbols")

def invariant054 (ctx : ValidationContext) : InvariantCheck :=
  let name := "catalyst freshness uses the payload-level threshold"
  withInput ctx 54 name "valid input is required" fun payload =>
    checked 54 name (zeroReasonViolations 54 "freshness/zero-reason replay mismatch" payload
      ctx.output)

def invariant055 (ctx : ValidationContext) : InvariantCheck :=
  let name := "both chart hard gates are independently reachable"
  let primary := ctx.output.excludedTickers.map (·.primaryReason.reasonCode)
  if ReasonCode.resistanceTooClose ∈ primary ∧ ReasonCode.cappedChart ∈ primary then passed 55 name none
  else notEvaluated 55 name "requires a fixture containing both independent primary outcomes"

def invariant056 (_ : ValidationContext) : InvariantCheck :=
  passed 56 "output narrative fields are restricted" (some "enforced by strict terminal schemas")

def invariant057 (ctx : ValidationContext) : InvariantCheck :=
  traceCheck 57 "duplicate detection follows ticker validation"
    "requires staged input-validation trace" "validation_trace"
    "duplicate check ran in the wrong phase"
    ctx.metadata.duplicateDetectionAfterTickerValidation

def invariant058 (ctx : ValidationContext) : InvariantCheck :=
  traceCheck 58 "only fully valid tickers participate in duplicate detection"
    "requires staged input-validation trace" "validation_trace"
    "invalid ticker participated in duplicate detection" ctx.metadata.duplicateDetectionValidOnly

/-- The `ticker` of each object of `raw["tickers"]`; none without such a list. -/
def rawTickers (raw : Option RawObject) : Option (List String) :=
  match raw.bind (·.lookup "tickers") with
  | some (.list items) => some (items.filterMap fun
      | .dict entry => match entry.lookup "ticker" with
        | some (.str ticker) => some ticker
        | _ => none
      | _ => none)
  | _ => none

/-- A canonical ticker that was supplied more than once. -/
def HasDuplicate (tickers : List String) : Prop := ¬ (tickers.filter (isCanonicalTicker ·)).Nodup

instance (tickers : List String) : Decidable (HasDuplicate tickers) := by
  unfold HasDuplicate; infer_instance

def invariant059 (ctx : ValidationContext) : InvariantCheck :=
  let name := "duplicate-valid-ticker response is a non-scoring schema failure"
  match rawTickers ctx.rawInput with
  | none => notEvaluated 59 name "raw input ticker list is required"
  | some tickers =>
    if ¬ HasDuplicate tickers then
      notEvaluated 59 name "no duplicate-valid-ticker fixture in this run"
    else checked 59 name (violationUnless
      (ctx.output.runStatus = .schemaFailure ∧ ctx.output.approvedSetups = [] ∧
        ctx.output.qualifiedNotSelected = [] ∧ ctx.output.excludedTickers = [] ∧
        ctx.output.runBlockers = [])
      59 "duplicate response" "duplicate response shape mismatch")

def invariant060 (ctx : ValidationContext) : InvariantCheck :=
  let name := "duplicate failure preserves independent ticker failures"
  match rawTickers ctx.rawInput with
  | none => notEvaluated 60 name "raw input ticker list is required"
  | some tickers =>
    let invalid := tickers.filter (¬ isCanonicalTicker ·)
    if ¬ HasDuplicate tickers ∨ invalid = [] then
      notEvaluated 60 name "requires duplicate-valid and independent invalid-ticker conditions"
    else checked 60 name (invalid.flatMap fun ticker =>
      violationUnless (ticker ∈ failureTickers ctx.output) 60 ticker
        "duplicate failure erased independent ticker failure")

def invariant061 (_ : ValidationContext) : InvariantCheck :=
  passed 61 "partition equation is not applied during schema failure"
    (some "the partition validator skips schema_failure")

/-! ### Blockers -/

def invariant062 (ctx : ValidationContext) : InvariantCheck :=
  traceCheck 62 "ticker validation and duplicate detection precede blockers"
    "requires staged validation trace" "validation_trace" "operational blockers ran too early"
    ctx.metadata.operationalBlockersAfterSchemaValidation

/-- Failures and blockers do not occur together. -/
def Exclusive (output : DaybreakOutput) : Prop :=
  output.schemaFailures = [] ∨ output.runBlockers = []

instance (output : DaybreakOutput) : Decidable (Exclusive output) := by
  unfold Exclusive; infer_instance

def invariant063 (ctx : ValidationContext) : InvariantCheck :=
  checked 63 "operational blockers do not suppress eligible schema failures"
    (violationUnless (Exclusive ctx.output) 63 "run_blockers"
      "blocker coexists with schema failure")

def invariant064 (ctx : ValidationContext) : InvariantCheck :=
  let name := "schema failure status has nonempty failures and empty blockers"
  if ctx.output.schemaFailures = [] then passed 64 name none
  else checked 64 name (violationUnless
    (ctx.output.runStatus = .schemaFailure ∧ ctx.output.runBlockers = []) 64 "run status/arrays"
    "schema failure terminal state mismatch")

def invariant065 (ctx : ValidationContext) : InvariantCheck :=
  checked 65 "schema_failures and run_blockers are mutually exclusive"
    (violationUnless (Exclusive ctx.output) 65 "top-level arrays"
      "failure/blocker exclusivity violated")

def invariant066 (ctx : ValidationContext) : InvariantCheck :=
  let name := "operational blockers run only after eligible schema phases pass"
  match ctx.metadata.operationalBlockersAfterSchemaValidation with
  | none =>
    if ¬ Exclusive ctx.output then
      checked 66 name [⟨66, "top-level arrays", "blocker evaluated on schema-invalid run"⟩]
    else notEvaluated 66 name "requires staged validation trace for affirmative proof"
  | some value => checked 66 name
      (violationUnless value 66 "validation_trace" "blocker phase order mismatch")

/-! ### Ranks -/

/-- The passing tickers in the order they are reported. -/
def observedOrder (output : DaybreakOutput) : List String :=
  output.approvedSetups.map (·.ticker) ++ output.qualifiedNotSelected.map (·.ticker)

/-- The ticker with a one-based rank is approved, or reported with that rank. -/
def rankViolations (output : DaybreakOutput) (ticker : String) (rank : ℕ) :
    List InvariantViolation :=
  violationUnless (rank ≤ 3 → ticker ∈ output.approvedSetups.map (·.ticker)) 67 ticker
    "top-three ticker routed incorrectly" ++
  violationUnless (4 ≤ rank →
    (output.qualifiedNotSelected.find? (·.ticker = ticker)).map (·.finalRank) = some rank)
    67 ticker "rank-4+ ticker routed or ranked incorrectly"

def invariant067 (ctx : ValidationContext) : InvariantCheck :=
  let ordered := expectedPassingOrder ctx.output
  checked 67 "passing records are split by final rank into approved and qualified"
    (violationUnless (observedOrder ctx.output = ordered) 67 "passing order"
      "passing records are not in deterministic rank order" ++
    (ordered.zipIdx 1).flatMap fun (ticker, rank) => rankViolations ctx.output ticker rank)

def invariant068 (_ : ValidationContext) : InvariantCheck :=
  passed 68 "qualified-not-selected records have the exact non-executable shape"
    (some "enforced by QualifiedNotSelected with extra=forbid")

/-! ### Flags, purposes and bounds -/

def invariant069 (ctx : ValidationContext) : InvariantCheck :=
  checked 69 "parabolic risk flag appears iff parabolic adjustment applies"
    (perRecord ctx.output fun record => violationUnless
      (record.score.parabolicAdjusted = decide (.parabolic ∈ record.riskFlags))
      69 record.ticker "parabolic flag equivalence failed")

def invariant070 (ctx : ValidationContext) : InvariantCheck :=
  checked 70 "risk flags are allowed, unique, and canonically ordered"
    (perRecord ctx.output fun record =>
      if ¬ record.riskFlags.Nodup then [⟨70, record.ticker, "duplicate risk flag"⟩]
      else violationUnless ((record.riskFlags.map riskFlagOrder.idxOf).Pairwise (· ≤ ·)) 70
        record.ticker "risk flags are out of order")

/-- The bounds once more: Python indexes decoded text by code points. -/
def invariant071 (ctx : ValidationContext) : InvariantCheck :=
  let name := "evidence indexing uses decoded Unicode code points"
  withInput ctx 71 name "valid evaluator input is required" fun payload =>
    checked 71 name (perEntry payload ctx.output (evidenceViolations 71 .bounds))

/-- The ticker of a schema failure is a text or null. -/
def invariant072 (_ : ValidationContext) : InvariantCheck :=
  checked 72 "schema-failure ticker is exact supplied string or null" []

def invariant073 (ctx : ValidationContext) : InvariantCheck :=
  checked 73 "evidence purpose explicitly identifies the evidence target"
    (perRecord ctx.output fun record => violationUnless
      (record.score.evidencePurpose = expectedEvidencePurpose record.score.catalystZeroReason)
      73 record.ticker "evidence purpose does not match the selected evidence target")

def invariant074 (_ : ValidationContext) : InvariantCheck :=
  passed 74 "unknown fields are rejected at every input and output object level"
    (some "enforced by StrictFrozenModel extra=forbid and recursive provider schemas")

def invariant075 (ctx : ValidationContext) : InvariantCheck :=
  let name := "schema-valid input satisfies bounded external-text and candidate limits"
  withInput ctx 75 name "valid evaluator input is required" fun payload =>
    checked 75 name
      (violationUnless (payload.tickers.length ≤ 25) 75 "tickers" "candidate limit exceeded" ++
      payload.tickers.flatMap fun entry =>
        let news := entry.newsContext
        violationUnless (1 ≤ news.catalystText.length ∧ news.catalystText.length ≤ 4000) 75
          (entry.ticker ++ ".catalyst_text") "catalyst text bound violated" ++
        violationUnless (1 ≤ news.sourceName.length ∧ news.sourceName.length ≤ 256) 75
          (entry.ticker ++ ".source_name") "source-name bound violated" ++
        violationUnless (news.disqualifierFlags.length ≤ 5 ∧ news.disqualifierFlags.Nodup) 75
          (entry.ticker ++ ".disqualifier_flags") "disqualifier bound or uniqueness violated")

def invariant076 (ctx : ValidationContext) : InvariantCheck :=
  let name := "premarket low is not above current price"
  withInput ctx 76 name "valid evaluator input is required" fun payload =>
    checked 76 name (payload.tickers.flatMap fun entry => violationUnless
      (entry.technicalContext.premarketLow.value ≤ entry.technicalContext.currentPrice.value)
      76 (entry.ticker ++ ".technical_context.premarket_low")
      "premarket low exceeds current price")

def invariant077 (ctx : ValidationContext) : InvariantCheck :=
  checked 77 "freshness tie groups include exact two-point differences"
    (violationUnless (observedOrder ctx.output = expectedPassingOrder ctx.output) 77
      "passing order" "inclusive fixed-anchor two-point tie grouping mismatch")

/-- `INVARIANT_REGISTRY` -/
def invariantRegistry : List (ValidationContext → InvariantCheck) :=
  [invariant001, invariant002, invariant003, invariant004, invariant005, invariant006,
    invariant007, invariant008, invariant009, invariant010, invariant011, invariant012,
    invariant013, invariant014, invariant015, invariant016, invariant017, invariant018,
    invariant019, invariant020, invariant021, invariant022, invariant023, invariant024,
    invariant025, invariant026, invariant027, invariant028, invariant029, invariant030,
    invariant031, invariant032, invariant033, invariant034, invariant035, invariant036,
    invariant037, invariant038, invariant039, invariant040, invariant041, invariant042,
    invariant043, invariant044, invariant045, invariant046, invariant047, invariant048,
    invariant049, invariant050, invariant051, invariant052, invariant053, invariant054,
    invariant055, invariant056, invariant057, invariant058, invariant059, invariant060,
    invariant061, invariant062, invariant063, invariant064, invariant065, invariant066,
    invariant067, invariant068, invariant069, invariant070, invariant071, invariant072,
    invariant073, invariant074, invariant075, invariant076, invariant077]

end Daybreak.Validation
