import Daybreak.Contracts.Replay
import Daybreak.Features.Isolation

/-! The gates of the evaluator on what was prequalified. The feature engine compares
decimals with its thresholds, the replay compares doubles with its own; a conversion that
is monotone and exact on the thresholds keeps every comparison, so that no gate that the
engine has checked fails, and no catalyst that it has let pass counts for nothing. -/

namespace Daybreak.Features

open Contracts Daybreak.Order Effect Fallible Numeric DecimalArithmetic

variable {rt : Runtime Decimal} {context : FeatureContext Decimal}
  {source : CandidateSourceData Decimal} {features : CandidateFeatures Decimal}
  {snapshot : FeatureSnapshot Decimal} {entry : TickerInput}

/-- The thresholds of the default configuration. -/
structure DefaultThresholds (config : FeatureEngineConfig Decimal) : Prop where
  gap : config.gapMinPct = literal 40 (-1)
  volume : config.premarketVolumeMin = 500000
  rvol : config.rvolMin = literal 50 (-1)
  resistance : config.resistanceMinAtr = literal 10 (-1)

/-! ### What is accepted -/

/-- No comparison of the prequalification refuses the candidate, nor its age. -/
structure Prequalified (context : FeatureContext Decimal) (features : CandidateFeatures Decimal) :
    Prop where
  running : features.halted = false
  gap : value context.config.gapMinPct ≤ value features.gapPct
  volume : context.config.premarketVolumeMin ≤ features.premarketVolume
  rvol : value context.config.rvolMin ≤ value features.rvolTimeMatched.1
  room : value context.config.resistanceMinAtr ≤ value features.resistance.distanceToResistanceAtr
  chart : features.resistance.chartStructure ≠ .capped
  confirmed : features.catalyst.sourceType ≠ .unconfirmed
  unflagged : features.catalyst.disqualifierFlags = []
  fresh : value features.catalystAgeHours.1 ≤ value context.catalystFreshnessThresholdHours.1

theorem reasonIf_eq_nil {condition : Prop} [Decidable condition] {reason : PrequalReason} :
    reasonIf condition reason = [] ↔ ¬ condition := by
  unfold reasonIf
  split_ifs with h <;> simp [h]

theorem prequalified_of_accepted (h : features ∈ acceptedFeatures rt context source) :
    Prequalified context features := by
  unfold acceptedFeatures at h
  split at h
  · obtain ⟨⟨hReasons, hFresh⟩, hSame⟩ := Option.ite_none_right_eq_some.mp h
    obtain rfl := Option.some.inj hSame
    simp only [prequalReasons, List.append_eq_nil_iff, reasonIf_eq_nil, not_lt] at hReasons
    obtain ⟨⟨⟨⟨⟨⟨⟨hHalted, hGap⟩, hVolume⟩, hRvol⟩, hRoom⟩, hChart⟩, hSource⟩, hFlags⟩ := hReasons
    exact ⟨Bool.eq_false_iff.mpr hHalted, hGap, hVolume, hRvol, hRoom, hChart, hSource,
      not_not.mp hFlags, hFresh⟩
  · cases h

/-! ### What is encoded -/

/-- The numbers of an entry are the doubles of those of the features. -/
structure Encodes (features : CandidateFeatures Decimal) (entry : TickerInput) : Prop where
  halted : entry.halted = features.halted
  gap : entry.liquidityMetrics.gapPct.value = roundDouble (value features.gapPct)
  volume : entry.liquidityMetrics.premarketVolume = features.premarketVolume
  rvol : entry.liquidityMetrics.rvolTimeMatched.value = roundDouble (value features.rvolTimeMatched.1)
  room : entry.technicalContext.distanceToResistanceAtr.value =
    roundDouble (value features.resistance.distanceToResistanceAtr)
  chart : entry.technicalContext.chartStructure = features.resistance.chartStructure
  source : entry.newsContext.sourceType = features.catalyst.sourceType
  flags : entry.newsContext.disqualifierFlags = features.catalyst.disqualifierFlags
  age : entry.newsContext.catalystAgeHours.value = roundDouble (value features.catalystAgeHours.1)

theorem finiteFloat_value {x : Decimal} {f : PyFloat} (h : finiteFloat rt x = .ok f) :
    f.value = roundDouble (value x) :=
  (toDouble_eq_some.mp (finiteFloat_eq_ok.mp h).1).1

theorem encodes_of_tickerInput (h : tickerInput rt features = .ok entry) :
    Encodes features entry := by
  simp only [tickerInput, model, Result.bind_eq_ok, validated_eq_ok] at h
  obtain ⟨age, hAge, _, ⟨rfl, -⟩, gap, hGap, rvol, hRvol, _, ⟨rfl, -⟩, room, hRoom, _, -, _, -, _, -,
    _, -, _, ⟨rfl, -⟩, rfl, -⟩ := h
  exact ⟨rfl, finiteFloat_value hGap, rfl, finiteFloat_value hRvol, finiteFloat_value hRoom, rfl, rfl,
    rfl, finiteFloat_value hAge⟩

/-- An entry of the payload is that of a candidate that was accepted. -/
theorem exists_accepted_of_entry (h : buildFeatureSnapshot rt context = .ok snapshot)
    (hEntry : entry ∈ snapshot.payload.tickers) :
    ∃ source ∈ context.candidates, ∃ features ∈ acceptedFeatures rt context source,
      tickerInput rt features = .ok entry := by
  obtain ⟨results, hBuilt⟩ := exists_built h
  have hPayload := hBuilt.payload
  simp only [payloadOf, Result.bind_eq_ok] at hPayload
  obtain ⟨threshold, -, tickers, hTickers, _, -, hInput⟩ := hPayload
  unfold daybreakInput at hInput
  split_ifs at hInput
  rw [← Except.ok.inj hInput] at hEntry
  obtain ⟨features, hFeatures, hOk⟩ := mapM_ok_mem hTickers hEntry
  rw [hBuilt.records] at hFeatures
  obtain ⟨hAccepted, -⟩ := (selected_iff hBuilt.decided).mp hFeatures
  obtain ⟨source, hSource, hMem⟩ := List.mem_filterMap.mp hAccepted
  exact ⟨source, hSource, features, hMem, hOk⟩

theorem payload_threshold (h : buildFeatureSnapshot rt context = .ok snapshot) :
    snapshot.payload.catalystFreshnessThresholdHours.value =
      roundDouble (value context.catalystFreshnessThresholdHours.1) := by
  obtain ⟨results, hBuilt⟩ := exists_built h
  have hPayload := hBuilt.payload
  simp only [payloadOf, Result.bind_eq_ok] at hPayload
  obtain ⟨threshold, hThreshold, tickers, -, _, -, hInput⟩ := hPayload
  unfold daybreakInput at hInput
  split_ifs at hInput
  rw [← Except.ok.inj hInput]
  exact finiteFloat_value hThreshold

/-! ### Gates -/

/-- The gates that the prequalification has checked. -/
def checkedGates : List ReasonCode :=
  [.halted, .gapTooSmall, .premarketVolumeTooLow, .rvolTooLow, .resistanceTooClose, .cappedChart]

/-- The reasons for a catalyst of no value that the prequalification has ruled out. -/
def checkedZeros : List CatalystZeroReason := [.disqualifierFlag, .unconfirmedSource, .staleCatalyst]

/-- An entry that no checked gate refuses. -/
structure Passes (entry : TickerInput) : Prop where
  running : entry.halted = false
  gap : 4 ≤ entry.liquidityMetrics.gapPct.value
  volume : 500000 ≤ entry.liquidityMetrics.premarketVolume
  rvol : 5 ≤ entry.liquidityMetrics.rvolTimeMatched.value
  room : 1 ≤ entry.technicalContext.distanceToResistanceAtr.value
  chart : entry.technicalContext.chartStructure ≠ .capped

/-- A threshold of a decimal is one of its double. -/
theorem natCast_le_roundDouble {n : ℕ} {x : ℚ} (hn : 0 < n) (hSmall : n < 2 ^ 53) (h : n ≤ x) :
    n ≤ roundDouble x :=
  le_roundDouble (by exact_mod_cast hn) (roundDouble_natCast hSmall) h

theorem passes_of_encodes (hDefault : DefaultThresholds context.config)
    (h : Prequalified context features) (hEncodes : Encodes features entry) : Passes entry := by
  obtain ⟨hGapMin, hVolumeMin, hRvolMin, hRoomMin⟩ := hDefault
  have hGap := h.gap
  have hRvol := h.rvol
  have hRoom := h.room
  have hVolume := h.volume
  rw [hGapMin, value_literal] at hGap
  rw [hRvolMin, value_literal] at hRvol
  rw [hRoomMin, value_literal] at hRoom
  rw [hVolumeMin] at hVolume
  refine ⟨hEncodes.halted.trans h.running, ?_, ?_, ?_, ?_, hEncodes.chart ▸ h.chart⟩
  · rw [hEncodes.gap]
    exact_mod_cast natCast_le_roundDouble (n := 4) (by norm_num) (by norm_num) (by norm_num at *; linarith)
  · rw [hEncodes.volume]
    exact_mod_cast hVolume
  · rw [hEncodes.rvol]
    exact_mod_cast natCast_le_roundDouble (n := 5) (by norm_num) (by norm_num) (by norm_num at *; linarith)
  · rw [hEncodes.room]
    exact_mod_cast natCast_le_roundDouble (n := 1) (by norm_num) (by norm_num) (by norm_num at *; linarith)

theorem mem_failedGate {fails : Prop} [Decidable fails] {reason gate : ReasonObject} :
    reason ∈ failedGate fails gate ↔ fails ∧ reason = gate := by
  unfold failedGate
  split_ifs with h <;> simp [h]

theorem Passes.gates (h : Passes entry) (score : ℕ) :
    ∀ reason ∈ expectedFailedGates entry score, reason.reasonCode ∉ checkedGates := by
  intro reason hReason
  simp only [expectedFailedGates, List.mem_append, mem_failedGate] at hReason
  rcases hReason with ((((((⟨hFails, -⟩ | ⟨-, rfl⟩) | ⟨-, rfl⟩) | ⟨hFails, -⟩) | ⟨hFails, -⟩) |
    ⟨hFails, -⟩) | ⟨hFails, -⟩) | ⟨hFails, -⟩
  · exact absurd hFails (by simp [h.running])
  · exact (by decide : ReasonCode.catalystScoreTooLow ∉ checkedGates)
  · exact (by decide : ReasonCode.uncorroboratedCatalyst ∉ checkedGates)
  · exact absurd hFails h.gap.not_gt
  · exact absurd hFails h.volume.not_gt
  · exact absurd hFails h.rvol.not_gt
  · exact absurd hFails h.room.not_gt
  · exact absurd hFails h.chart

/-- The age of a catalyst that was fresh stays within the threshold. -/
theorem fresh_of_encodes (h : Prequalified context features) (hEncodes : Encodes features entry)
    (hBuilt : buildFeatureSnapshot rt context = .ok snapshot) :
    entry.newsContext.catalystAgeHours.value ≤
      snapshot.payload.catalystFreshnessThresholdHours.value := by
  rw [hEncodes.age, payload_threshold hBuilt]
  exact roundDouble_mono_of_nonneg features.catalystAgeHours.2 h.fresh

theorem zeroReason_unchecked {payload : DaybreakInput}
    (hFlags : entry.newsContext.disqualifierFlags = [])
    (hSource : entry.newsContext.sourceType ≠ .unconfirmed)
    (hFresh : entry.newsContext.catalystAgeHours.value ≤ payload.catalystFreshnessThresholdHours.value)
    (bucket : MagnitudeBucket) :
    ∀ zero ∈ expectedZeroReason payload entry bucket, zero ∉ checkedZeros := by
  intro zero hZero
  unfold expectedZeroReason at hZero
  simp only [hFlags, hSource, not_lt.mpr hFresh, ne_eq, not_true_eq_false, if_false] at hZero
  split_ifs at hZero
  · obtain rfl := Option.mem_some_iff.mp hZero
    decide
  · cases hZero

/-! ### Validators -/

/-- The comparisons of `validate_structure_distance_pair` on the doubles of the features. -/
structure ValidatorsAccept (features : CandidateFeatures Decimal) : Prop where
  clean : features.resistance.chartStructure = .cleanShortTerm →
    2 < roundDouble (value features.resistance.distanceToResistanceAtr)
  moderate : features.resistance.chartStructure = .moderateRoom →
    1 ≤ roundDouble (value features.resistance.distanceToResistanceAtr) ∧
      roundDouble (value features.resistance.distanceToResistanceAtr) ≤ 2
  low : roundDouble (value features.premarketLow.1) ≤ roundDouble (value features.currentPrice.1)

theorem validatorsAccept (h : calculateCandidate rt context source = .ok features) :
    ValidatorsAccept features := by
  have hComputed := calculateCandidate_computed h
  obtain ⟨hClean, hModerate⟩ := hComputed.resistance.rounded
  exact ⟨hClean, hModerate, roundDouble_mono features.premarketLow.2 hComputed.low⟩

/-- What was prequalified passes the gates of the replay and its validators. -/
theorem prequalification_agrees (h : buildFeatureSnapshot rt context = .ok snapshot)
    (hDefault : DefaultThresholds context.config) :
    (∀ entry ∈ snapshot.payload.tickers,
      (∀ score, ∀ reason ∈ expectedFailedGates entry score, reason.reasonCode ∉ checkedGates) ∧
      (∀ bucket, ∀ zero ∈ expectedZeroReason snapshot.payload entry bucket, zero ∉ checkedZeros) ∧
      entry.technicalContext.Valid) ∧
    ∀ source ∈ context.candidates, ∀ features,
      calculateCandidate rt context source = .ok features → ValidatorsAccept features := by
  refine ⟨fun entry hEntry => ?_, fun source _ features hFeatures => validatorsAccept hFeatures⟩
  obtain ⟨source, -, features, hAccepted, hInput⟩ := exists_accepted_of_entry h hEntry
  have hPrequalified := prequalified_of_accepted hAccepted
  have hEncodes := encodes_of_tickerInput hInput
  refine ⟨(passes_of_encodes hDefault hPrequalified hEncodes).gates, ?_, (tickerInput_valid hInput).2.2.2⟩
  exact zeroReason_unchecked (hEncodes.flags.trans hPrequalified.unflagged)
    (hEncodes.source ▸ hPrequalified.confirmed) (fresh_of_encodes hPrequalified hEncodes h)

theorem threeCandidates_agree : ∃ snapshot,
    buildFeatureSnapshot sampleRuntime threeCandidates = .ok snapshot ∧
      snapshot.payload.tickers ≠ [] ∧
      ∀ entry ∈ snapshot.payload.tickers, ∀ score,
        ∀ reason ∈ expectedFailedGates entry score, reason.reasonCode ∉ checkedGates := by
  obtain ⟨snapshot, hBuild, hTickers⟩ : ∃ snapshot,
      buildFeatureSnapshot sampleRuntime threeCandidates = .ok snapshot ∧
        snapshot.payload.tickers ≠ [] := by decide +kernel
  refine ⟨snapshot, hBuild, hTickers, fun entry hEntry => ?_⟩
  exact ((prequalification_agrees hBuild ⟨rfl, rfl, rfl, rfl⟩).1 entry hEntry).1

end Daybreak.Features
