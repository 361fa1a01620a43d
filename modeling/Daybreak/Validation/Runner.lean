import Daybreak.Validation.Invariants

/-! The validation of one run, and what its acceptance means: the conclusions that
the single checks give of a payload and an answer that pass them all. -/

namespace Daybreak.Validation

open Contracts Serial

/-- `EXECUTION_EVIDENCE_INVARIANTS` -/
def executionEvidenceInvariants : List ℕ := [15, 41, 44, 62, 66]

/-- The input and the answer come as what parsing made of them, a model or the text
of an error; `rawInput` is the input where it was a dictionary. -/
def validateDaybreakRun (input : Option (Except String DaybreakInput))
    (rawInput : Option RawObject) (output : Except String DaybreakOutput)
    (metadata : ValidationMetadata) (requireExecutionEvidence : Bool) : ValidationReport :=
  match output with
  | .error e => ⟨false, false, ["output: " ++ e], []⟩
  | .ok parsed =>
    let modelErrors := match input with
      | some (.error e) => if parsed.runStatus ≠ .schemaFailure then ["input: " ++ e] else []
      | _ => []
    let ctx : ValidationContext := ⟨input.bind (·.toOption), parsed, rawInput, metadata⟩
    let checks := invariantRegistry.map (· ctx)
    let failures := checks.filter (·.status = .fail)
    let missingExecutionEvidence := checks.filter fun check =>
      check.invariantNumber ∈ executionEvidenceInvariants ∧ check.status = .notEvaluated
    let valid := modelErrors.isEmpty && failures.isEmpty
    let executionReady := valid && missingExecutionEvidence.isEmpty
    ⟨if requireExecutionEvidence then executionReady else valid, executionReady, modelErrors, checks⟩

variable {payload : DaybreakInput} {output : DaybreakOutput} {rawInput : Option RawObject}
  {metadata : ValidationMetadata} {requireEvidence : Bool} {ctx : ValidationContext}

/-- The run of a payload and an answer is reported as valid. -/
def Validated (payload : DaybreakInput) (output : DaybreakOutput) (rawInput : Option RawObject)
    (metadata : ValidationMetadata) (requireEvidence : Bool) : Prop :=
  (validateDaybreakRun (some (.ok payload)) rawInput (.ok output) metadata requireEvidence).valid =
    true

instance : Decidable (Validated payload output rawInput metadata requireEvidence) :=
  inferInstanceAs (Decidable (_ = true))

/-- No check of a valid run fails. -/
theorem Validated.status_ne_fail
    (h : Validated payload output rawInput metadata requireEvidence) :
    ∀ check ∈ invariantRegistry,
      (check ⟨some payload, output, rawInput, metadata⟩).status ≠ .fail := by
  have hFailures : ((invariantRegistry.map
      (· ⟨some payload, output, rawInput, metadata⟩)).filter (·.status = .fail)).isEmpty = true := by
    unfold Validated validateDaybreakRun at h
    cases requireEvidence <;> simp_all [Except.toOption]
  intro check hCheck hFail
  have hNil := List.isEmpty_iff.mp hFailures
  have hMem := List.filter_eq_nil_iff.mp hNil _ (List.mem_map_of_mem hCheck)
  exact hMem (decide_eq_true hFail)

/-! ### What the checks say -/

theorem perRecord_eq_nil {check : TerminalRecord → List InvariantViolation} :
    perRecord output check = [] ↔ ∀ record ∈ terminalRecords output, check record = [] :=
  List.flatMap_eq_nil_iff

theorem perEntry_eq_nil {check : TerminalRecord → TickerInput → List InvariantViolation} :
    perEntry payload output check = [] ↔ ∀ record ∈ terminalRecords output,
      ∀ entry ∈ inputByTicker payload record.ticker, check record entry = [] := by
  rw [perEntry, perRecord_eq_nil]
  refine forall₂_congr fun record _ => ?_
  cases inputByTicker payload record.ticker <;> simp

theorem firstOccurrences_eq_nil {xs : List String} : firstOccurrences xs = [] ↔ xs = [] := by
  simp only [firstOccurrences, List.eq_nil_iff_forall_not_mem, List.mem_reverse, List.mem_dedup]

theorem symbols_nodup (h : (invariant001 ctx).status ≠ .fail) :
    (tradingTickers ctx.output ++ failureTickers ctx.output).Nodup := by
  simp only [invariant001, checked_status_fail, List.map_eq_nil_iff, firstOccurrences_eq_nil,
    List.filter_eq_nil_iff, decide_eq_true_eq, not_lt] at h
  exact List.nodup_iff_count_le_one.mpr fun symbol => by
    by_cases hMem : symbol ∈ tradingTickers ctx.output ++ failureTickers ctx.output
    · exact h symbol hMem
    · rw [List.count_eq_zero_of_not_mem hMem]
      exact Nat.zero_le 1

theorem excluded_replayed (hPayload : ctx.inputPayload = some payload)
    (h : (invariant003 ctx).status ≠ .fail) : ∀ item ∈ ctx.output.excludedTickers,
      ∃ entry, inputByTicker payload item.ticker = some entry ∧
        expectedFailedGates entry item.evaluationSnapshot.catalystScoreRaw ≠ [] ∧
        item.reasons = expectedFailedGates entry item.evaluationSnapshot.catalystScoreRaw := by
  simp only [invariant003, withInput_some hPayload, checked_status_fail,
    List.flatMap_eq_nil_iff] at h
  intro item hItem
  have hNone := h item hItem
  unfold excludedViolations at hNone
  split at hNone
  · cases hNone
  · next entry hEntry =>
    simp only at hNone
    split_ifs at hNone with hGates
    exact ⟨entry, hEntry, hGates, violationUnless_eq_nil.mp hNone⟩

theorem passingViolations_eq_nil {ticker : String} {score : ScoreBreakdown} :
    passingViolations payload ticker score = [] ↔ ∃ entry,
      inputByTicker payload ticker = some entry ∧
        expectedFailedGates entry score.catalystScoreRaw = [] := by
  unfold passingViolations
  split
  · next hNone => simp [hNone]
  · next entry hEntry => simp [hEntry]

theorem approved_replayed (hPayload : ctx.inputPayload = some payload)
    (h : (invariant004 ctx).status ≠ .fail) : ∀ item ∈ ctx.output.approvedSetups, ∃ entry,
      inputByTicker payload item.ticker = some entry ∧
        expectedFailedGates entry item.scoreBreakdown.catalystScoreRaw = [] := by
  simp only [invariant004, withInput_some hPayload, checked_status_fail, List.append_eq_nil_iff,
    List.flatMap_eq_nil_iff, passingViolations_eq_nil] at h
  exact h.1

theorem qualified_replayed (hPayload : ctx.inputPayload = some payload)
    (h : (invariant004 ctx).status ≠ .fail) : ∀ item ∈ ctx.output.qualifiedNotSelected, ∃ entry,
      inputByTicker payload item.ticker = some entry ∧
        expectedFailedGates entry item.scoreBreakdown.catalystScoreRaw = [] := by
  simp only [invariant004, withInput_some hPayload, checked_status_fail, List.append_eq_nil_iff,
    List.flatMap_eq_nil_iff, passingViolations_eq_nil] at h
  exact h.2

theorem length_terminal (hPayload : ctx.inputPayload = some payload)
    (h : (invariant005 ctx).status ≠ .fail) (hStatus : ctx.output.runStatus ∈ [.approved, .noSetups]) :
    (terminalRecords ctx.output).length = payload.tickers.length := by
  rw [invariant005, if_neg (not_not.mpr hStatus), withInput_some hPayload, checked_status_fail,
    violationUnless_eq_nil] at h
  rw [← h]
  simp only [terminalRecords, List.length_append, List.length_map]

theorem status_expected (hPayload : ctx.inputPayload = some payload)
    (h : (invariant014 ctx).status ≠ .fail) :
    ctx.output.runStatus = expectedStatus payload ctx.output := by
  simpa only [invariant014, hPayload, checked_status_fail, violationUnless_eq_nil] using h

/-- The score, the flags and the conviction of a record are those of its replay. -/
structure Replayed (expected : ExpectedScore) (record : TerminalRecord) : Prop where
  sourceQualityPoints : record.score.sourceQualityPoints = expected.sourceQualityPoints
  catalystMagnitudePoints : record.score.catalystMagnitudePoints = expected.catalystMagnitudePoints
  catalystZeroOverride : record.score.catalystZeroOverride = expected.catalystZeroOverride
  catalystZeroReason : record.score.catalystZeroReason = expected.catalystZeroReason
  catalystScoreRaw : record.score.catalystScoreRaw = expected.catalystScoreRaw
  catalystPoints : record.score.catalystPoints = expected.catalystPoints
  volumePoints : record.score.volumePoints = expected.volumePoints
  technicalGrade : record.score.technicalGrade = expected.technicalGrade
  technicalBasePoints : record.score.technicalBasePoints = expected.technicalBasePoints
  technicalPoints : record.score.technicalPoints = expected.technicalPoints
  parabolicAdjusted : record.score.parabolicAdjusted = expected.parabolicAdjusted
  riskFlags : record.riskFlags = expected.riskFlags
  convictionScore : ∀ conviction ∈ record.convictionScore,
    conviction = expected.catalystPoints + expected.volumePoints + expected.technicalPoints

theorem score_replayed (hPayload : ctx.inputPayload = some payload)
    (h : (invariant017 ctx).status ≠ .fail) : ∀ record ∈ terminalRecords ctx.output,
      ∀ entry ∈ inputByTicker payload record.ticker,
        Replayed (expectedScoreFields payload entry record.score) record := by
  rw [invariant017, withInput_some hPayload, checked_status_fail, perEntry_eq_nil] at h
  intro record hRecord entry hEntry
  have hNone := h record hRecord entry hEntry
  simp only [replayViolations, List.append_eq_nil_iff, violationUnless_eq_nil] at hNone
  obtain ⟨⟨⟨hScore, hFlags⟩, hConviction⟩, -⟩ := hNone
  simp only [scoreAgreement, List.flatMap_cons, List.flatMap_nil, List.append_eq_nil_iff,
    violationUnless_eq_nil, decide_eq_true_eq, and_true] at hScore
  obtain ⟨h₁, h₂, h₃, h₄, h₅, h₆, h₇, h₈, h₉, h₁₀, h₁₁⟩ := hScore
  exact ⟨h₁, h₂, h₃, h₄, h₅, h₆, h₇, h₈, h₉, h₁₀, h₁₁, hFlags, by rwa [h₆, h₇, h₁₀] at hConviction⟩

theorem evidence_checked {number : ℕ} {mode : EvidenceMode}
    (hPayload : ctx.inputPayload = some payload)
    (h : (evidenceChecks ctx number mode).status ≠ .fail) :
    ∀ record ∈ terminalRecords ctx.output, ∀ entry ∈ inputByTicker payload record.ticker,
      evidenceViolations number mode record entry = [] := by
  rwa [evidenceChecks, withInput_some hPayload, checked_status_fail, perEntry_eq_nil] at h

theorem order_expected (h : (invariant067 ctx).status ≠ .fail) :
    observedOrder ctx.output = expectedPassingOrder ctx.output ∧
      ∀ ticker rank, (ticker, rank) ∈ (expectedPassingOrder ctx.output).zipIdx 1 →
        rankViolations ctx.output ticker rank = [] := by
  simp only [invariant067, checked_status_fail, List.append_eq_nil_iff, violationUnless_eq_nil,
    List.flatMap_eq_nil_iff] at h
  exact ⟨h.1, fun ticker rank hMem => h.2 (ticker, rank) hMem⟩

theorem purpose_expected (h : (invariant073 ctx).status ≠ .fail) :
    ∀ record ∈ terminalRecords ctx.output,
      record.score.evidencePurpose = expectedEvidencePurpose record.score.catalystZeroReason := by
  simpa only [invariant073, checked_status_fail, perRecord_eq_nil, violationUnless_eq_nil] using h

/-! ### Acceptance -/

/-- What a payload and an answer have in common once every check passed. -/
structure Accepted (payload : DaybreakInput) (output : DaybreakOutput) : Prop where
  symbols_nodup : (tradingTickers output ++ failureTickers output).Nodup
  excluded : ∀ item ∈ output.excludedTickers, ∃ entry,
    inputByTicker payload item.ticker = some entry ∧
      expectedFailedGates entry item.evaluationSnapshot.catalystScoreRaw ≠ [] ∧
      item.reasons = expectedFailedGates entry item.evaluationSnapshot.catalystScoreRaw
  approved : ∀ item ∈ output.approvedSetups, ∃ entry,
    inputByTicker payload item.ticker = some entry ∧
      expectedFailedGates entry item.scoreBreakdown.catalystScoreRaw = []
  qualified : ∀ item ∈ output.qualifiedNotSelected, ∃ entry,
    inputByTicker payload item.ticker = some entry ∧
      expectedFailedGates entry item.scoreBreakdown.catalystScoreRaw = []
  length : output.runStatus ∈ [.approved, .noSetups] →
    (terminalRecords output).length = payload.tickers.length
  status : output.runStatus = expectedStatus payload output
  score : ∀ record ∈ terminalRecords output, ∀ entry ∈ inputByTicker payload record.ticker,
    Replayed (expectedScoreFields payload entry record.score) record
  evidence : ∀ mode, ∃ number, ∀ record ∈ terminalRecords output,
    ∀ entry ∈ inputByTicker payload record.ticker,
      evidenceViolations number mode record entry = []
  order : observedOrder output = expectedPassingOrder output
  ranks : ∀ ticker rank, (ticker, rank) ∈ (expectedPassingOrder output).zipIdx 1 →
    rankViolations output ticker rank = []
  purpose : ∀ record ∈ terminalRecords output,
    record.score.evidencePurpose = expectedEvidencePurpose record.score.catalystZeroReason

theorem Validated.accepted (h : Validated payload output rawInput metadata requireEvidence) :
    Accepted payload output := by
  have hCheck := h.status_ne_fail
  simp only [invariantRegistry, List.forall_mem_cons] at hCheck
  obtain ⟨h₁, -, h₃, h₄, h₅, -, -, -, -, -, -, -, -, h₁₄, -, -, h₁₇, -, h₁₉, h₂₀, h₂₁, h₂₂, h₂₃, -,
    -, -, -, -, -, -, -, -, -, -, -, -, -, -, -, -, -, -, -, -, -, -, -, -, -, -, -, -, -, -, -, -,
    -, -, -, -, -, -, -, -, -, -, h₆₇, -, -, -, -, -, h₇₃, -⟩ := hCheck
  exact {
    symbols_nodup := symbols_nodup h₁
    excluded := excluded_replayed rfl h₃
    approved := approved_replayed rfl h₄
    qualified := qualified_replayed rfl h₄
    length := length_terminal rfl h₅
    status := status_expected rfl h₁₄
    score := score_replayed rfl h₁₇
    evidence := by
      rintro (_ | _ | _ | _ | _)
      exacts [⟨19, evidence_checked rfl h₁₉⟩, ⟨20, evidence_checked rfl h₂₀⟩,
        ⟨21, evidence_checked rfl h₂₁⟩, ⟨22, evidence_checked rfl h₂₂⟩,
        ⟨23, evidence_checked rfl h₂₃⟩]
    order := (order_expected h₆₇).1
    ranks := (order_expected h₆₇).2
    purpose := purpose_expected h₇₃ }

end Daybreak.Validation
