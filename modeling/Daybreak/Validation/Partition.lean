import Daybreak.Validation.Runner

/-! The terminal partition of a valid run that was scored: every ticker of the
payload has one terminal record, the record says what replay says of it, and it is
an exclusion, with the reasons of replay, exactly when a hard gate fails. -/

namespace Daybreak.Validation

open Contracts

variable {payload : DaybreakInput} {output : DaybreakOutput} {record : TerminalRecord}
  {entry : TickerInput}

/-! ### Where a ticker stands -/

theorem tradingTickers_eq (output : DaybreakOutput) : tradingTickers output =
    observedOrder output ++ output.excludedTickers.map (·.ticker) := by
  simp only [tradingTickers, terminalRecords, observedOrder, List.map_append, List.map_map]
  rfl

theorem mem_of_inputByTicker {ticker : String} (h : inputByTicker payload ticker = some entry) :
    entry ∈ payload.tickers ∧ entry.ticker = ticker := by
  unfold inputByTicker at h
  have hTicker := List.find?_some h
  exact ⟨List.mem_of_find?_eq_some h, of_decide_eq_true hTicker⟩

/-- Where keys are distinct, an element is found under its key. -/
theorem find?_of_nodup {α κ : Type*} [DecidableEq κ] {key : α → κ} {xs : List α} {x : α}
    (hNodup : (xs.map key).Nodup) (hMem : x ∈ xs) : xs.find? (key · = key x) = some x := by
  cases hFind : xs.find? (key · = key x) with
  | none =>
    have hNone := List.find?_eq_none.mp hFind x hMem
    simp at hNone
  | some found =>
    have hFound := List.find?_some hFind
    have hSame : key found = key x := of_decide_eq_true hFound
    rw [List.inj_on_of_nodup_map hNodup (List.mem_of_find?_eq_some hFind) hMem hSame]

theorem inputByTicker_of_mem (h : entry ∈ payload.tickers) :
    inputByTicker payload entry.ticker = some entry :=
  find?_of_nodup payload.tickers_nodup h

/-- The three kinds of a terminal record. -/
theorem mem_terminalRecords : record ∈ terminalRecords output ↔
    (∃ item ∈ output.approvedSetups, record = .approved item) ∨
      (∃ item ∈ output.qualifiedNotSelected, record = .qualified item) ∨
      ∃ item ∈ output.excludedTickers, record = .excluded item := by
  simp only [terminalRecords, List.mem_append, List.mem_map, or_assoc, eq_comm]

/-- Every terminal record is about a ticker of the payload. -/
theorem Accepted.exists_entry (h : Accepted payload output)
    (hRecord : record ∈ terminalRecords output) :
    ∃ entry, inputByTicker payload record.ticker = some entry := by
  obtain ⟨item, hItem, rfl⟩ | ⟨item, hItem, rfl⟩ | ⟨item, hItem, rfl⟩ :=
    mem_terminalRecords.mp hRecord
  · obtain ⟨entry, hEntry, -⟩ := h.approved item hItem
    exact ⟨entry, hEntry⟩
  · obtain ⟨entry, hEntry, -⟩ := h.qualified item hItem
    exact ⟨entry, hEntry⟩
  · obtain ⟨entry, hEntry, -⟩ := h.excluded item hItem
    exact ⟨entry, hEntry⟩

theorem Accepted.trading_nodup (h : Accepted payload output) : (tradingTickers output).Nodup :=
  h.symbols_nodup.of_append_left

theorem Accepted.trading_subset (h : Accepted payload output) :
    tradingTickers output ⊆ payload.tickers.map (·.ticker) := by
  intro ticker hTicker
  obtain ⟨record, hRecord, rfl⟩ := List.mem_map.mp hTicker
  obtain ⟨entry, hEntry⟩ := h.exists_entry hRecord
  obtain ⟨hMem, hSame⟩ := mem_of_inputByTicker hEntry
  exact hSame ▸ List.mem_map_of_mem hMem

/-- Distinct tickers of the payload, as many as it has, are all of them. -/
theorem Accepted.trading_perm (h : Accepted payload output)
    (hStatus : output.runStatus ∈ [.approved, .noSetups]) :
    (tradingTickers output).Perm (payload.tickers.map (·.ticker)) := by
  have hSubperm := List.subperm_of_subset h.trading_nodup h.trading_subset
  refine hSubperm.perm_of_length_le ?_
  rw [List.length_map, tradingTickers, List.length_map, h.length hStatus]

/-! ### What a record says -/

/-- The reasons that replay finds against a record. -/
def replayedGates (payload : DaybreakInput) (entry : TickerInput) (record : TerminalRecord) :
    List ReasonObject :=
  expectedFailedGates entry (expectedScoreFields payload entry record.score).catalystScoreRaw

/-- A record that replays, and stands where its gates put it. -/
structure Sound (payload : DaybreakInput) (output : DaybreakOutput) (entry : TickerInput)
    (record : TerminalRecord) : Prop where
  replayed : Replayed (expectedScoreFields payload entry record.score) record
  evidencePurpose : record.score.evidencePurpose =
    (expectedScoreFields payload entry record.score).evidencePurpose
  excluded_iff : record.ticker ∈ output.excludedTickers.map (·.ticker) ↔
    replayedGates payload entry record ≠ []
  reasons : ∀ item, record = .excluded item → item.reasons = replayedGates payload entry record

/-- A passing ticker is not excluded as well. -/
theorem Accepted.not_excluded (h : Accepted payload output) {ticker : String}
    (hPassing : ticker ∈ observedOrder output) :
    ticker ∉ output.excludedTickers.map (·.ticker) := by
  have hNodup := h.trading_nodup
  rw [tradingTickers_eq] at hNodup
  exact List.disjoint_of_nodup_append hNodup hPassing

theorem Accepted.sound (h : Accepted payload output) (hRecord : record ∈ terminalRecords output)
    (hEntry : inputByTicker payload record.ticker = some entry) :
    Sound payload output entry record := by
  have hReplayed := h.score record hRecord entry hEntry
  have hRaw : replayedGates payload entry record =
      expectedFailedGates entry record.score.catalystScoreRaw := by
    rw [replayedGates, hReplayed.catalystScoreRaw]
  have hPurpose := h.purpose record hRecord
  rw [hReplayed.catalystZeroReason] at hPurpose
  refine ⟨hReplayed, hPurpose, ?_, ?_⟩
  · rw [hRaw]
    obtain ⟨item, hItem, rfl⟩ | ⟨item, hItem, rfl⟩ | ⟨item, hItem, rfl⟩ :=
      mem_terminalRecords.mp hRecord
    · obtain ⟨found, hFound, hGates⟩ := h.approved item hItem
      obtain rfl := Option.some.inj (hEntry.symm.trans hFound)
      have hOut := h.not_excluded (List.mem_append_left _ (List.mem_map_of_mem hItem))
      exact iff_of_false hOut (not_not.mpr hGates)
    · obtain ⟨found, hFound, hGates⟩ := h.qualified item hItem
      obtain rfl := Option.some.inj (hEntry.symm.trans hFound)
      have hOut := h.not_excluded (List.mem_append_right _ (List.mem_map_of_mem hItem))
      exact iff_of_false hOut (not_not.mpr hGates)
    · obtain ⟨found, hFound, hGates, -⟩ := h.excluded item hItem
      obtain rfl := Option.some.inj (hEntry.symm.trans hFound)
      exact iff_of_true (List.mem_map_of_mem hItem) hGates
  · rintro item rfl
    rw [hRaw]
    obtain ⟨_, -, hSame⟩ | ⟨_, -, hSame⟩ | ⟨other, hItem, hSame⟩ := mem_terminalRecords.mp hRecord
    · cases hSame
    · cases hSame
    · obtain rfl := TerminalRecord.excluded.inj hSame
      obtain ⟨found, hFound, -, hReasons⟩ := h.excluded item hItem
      obtain rfl := Option.some.inj (hEntry.symm.trans hFound)
      exact hReasons

/-- A valid run that was scored partitions the tickers of its payload, and every
record is sound. -/
theorem terminal_partition (payload : DaybreakInput) (output : DaybreakOutput)
    (rawInput : Option RawObject) (metadata : ValidationMetadata) (requireEvidence : Bool)
    (h : Validated payload output rawInput metadata requireEvidence)
    (hStatus : output.runStatus ∈ [.approved, .noSetups]) :
    (∀ ticker, (tradingTickers output).count ticker =
      if ticker ∈ payload.tickers.map (·.ticker) then 1 else 0) ∧
    ∀ record ∈ terminalRecords output, ∃ entry,
      inputByTicker payload record.ticker = some entry ∧ Sound payload output entry record := by
  have hAccepted := h.accepted
  constructor
  · intro ticker
    rw [(hAccepted.trading_perm hStatus).count_eq]
    split_ifs with hMem
    · exact List.count_eq_one_of_mem payload.tickers_nodup hMem
    · exact List.count_eq_zero_of_not_mem hMem
  · intro record hRecord
    obtain ⟨entry, hEntry⟩ := hAccepted.exists_entry hRecord
    exact ⟨entry, hEntry, hAccepted.sound hRecord hEntry⟩

/-! ### A run with an approval and an exclusion -/

/-- A primary-source catalyst with room above: it passes every gate unless halted. -/
def sampleTicker (ticker : String) (age : PyFloat) (halted : Bool) : TickerInput where
  ticker := ticker
  halted := halted
  newsContext := {
    catalystText := "FDA approves new therapy"
    sourceType := .primary
    sourceName := "Business Wire"
    sourceTimestamp := "2026-08-03T11:00:00Z"
    catalystAgeHours := age
    corroborated := true
    disqualifierFlags := [] }
  liquidityMetrics := {
    gapPct := ⟨25 / 2, "12.5"⟩
    premarketVolume := 1000000
    rvolTimeMatched := ⟨8, "8.0"⟩
    floatShares := 60000000
    volumeProfile := .clean
    borrowStatus := .easy }
  technicalContext := {
    distanceToResistanceAtr := ⟨5, "5.0"⟩
    distanceFromVwapAtr := ⟨1, "1.0"⟩
    chartStructure := .blueSky
    currentPrice := ⟨20, "20.0"⟩
    atrValue := ⟨1, "1.0"⟩
    premarketLow := ⟨19, "19.0"⟩ }

def sampleScore : ScoreBreakdown where
  sourceQualityPoints := 6
  catalystMagnitudeBucket := .majorConcrete
  catalystMagnitudePoints := 4
  evidencePurpose := .magnitude
  magnitudeEvidenceExcerpt := "FDA approves"
  magnitudeEvidenceTruncated := false
  magnitudeEvidenceStartChar := some 0
  magnitudeEvidenceEndChar := some 12
  catalystZeroOverride := false
  catalystZeroReason := none
  catalystScoreRaw := 10
  catalystPoints := 40
  volumePoints := 25
  technicalGrade := .aPlus
  technicalBasePoints := 25
  technicalPoints := 25
  parabolicAdjusted := false

def sampleApproval (ticker : String) (age : PyFloat) (score : ScoreBreakdown) : ApprovedSetup where
  ticker := ticker
  convictionScore := 90
  scoreBreakdown := score
  masterThesis := "FDA approves new therapy"
  catalystSource := "Business Wire"
  sourceType := .primary
  sourceTimestamp := "2026-08-03T11:00:00Z"
  catalystAgeHours := age
  corroborated := true
  riskFlags := []
  tradeParameters := ⟨⟨20, "20.0"⟩, ⟨1, "1.0"⟩, ⟨19, "19.0"⟩, ⟨1, "1.0"⟩, ⟨2, "2.0"⟩⟩

def sampleExclusion (ticker : String) : ExcludedTicker where
  ticker := ticker
  primaryReason :=
    { reasonCode := .halted
      field := "halted"
      observedValue := "true"
      requiredCondition := "halted must equal false"
      reason := "The ticker is halted and cannot be approved." }
  additionalReasons := []
  evaluationSnapshot := { sampleScore with riskFlags := [] }

def samplePayloadFields (tickers : List TickerInput) : PayloadFields where
  evaluationTimestamp := "2026-08-03T13:00:00Z"
  payloadTimestamp := "2026-08-03T12:59:00Z"
  payloadAgeSeconds := 60
  catalystFreshnessThresholdHours := ⟨24, "24.0"⟩
  marketStatus := .normal
  tickers := tickers

/-- The answer that echoes the sample payload. -/
def sampleOutputFields (approved : List ApprovedSetup) (excluded : List ExcludedTicker) :
    OutputFields where
  runStatus := if approved = [] then .noSetups else .approved
  executionTimestamp := some "2026-08-03T13:00:00Z"
  payloadTimestampUsed := some "2026-08-03T12:59:00Z"
  marketStatus := some .normal
  approvedSetups := approved
  qualifiedNotSelected := []
  excludedTickers := excluded
  schemaFailures := []
  runBlockers := []

def samplePayload : DaybreakInput :=
  ⟨samplePayloadFields
    [sampleTicker "AAAA" ⟨2, "2.0"⟩ false, sampleTicker "HALT" ⟨1, "1.0"⟩ true],
    by decide +kernel⟩

def sampleOutput : DaybreakOutput :=
  ⟨sampleOutputFields [sampleApproval "AAAA" ⟨2, "2.0"⟩ sampleScore] [sampleExclusion "HALT"],
    by decide +kernel⟩

theorem sampleRun_partition :
    (∀ ticker, (tradingTickers sampleOutput).count ticker =
      if ticker ∈ samplePayload.tickers.map (·.ticker) then 1 else 0) ∧
    ∀ record ∈ terminalRecords sampleOutput, ∃ entry,
      inputByTicker samplePayload record.ticker = some entry ∧
        Sound samplePayload sampleOutput entry record :=
  terminal_partition samplePayload sampleOutput none {} false (by decide +kernel)
    (by decide)

end Daybreak.Validation
