import Daybreak.Features.Engine

/-! The conservation of candidates by a snapshot: every candidate is decided once, what
is accepted is ranked and split at the capacity of the evaluator, and the order in
which the candidates are given does not matter. -/

namespace Daybreak.Features

open Contracts Daybreak.Order Effect Fallible Numeric DecimalArithmetic

variable {D : Type} [DecimalArithmetic D] {rt : Runtime D} {context : FeatureContext D}
  {source : CandidateSourceData D} {features : CandidateFeatures D} {snapshot : FeatureSnapshot D}
  {result : PrequalificationDecision × Option (CandidateFeatures D)}
  {results : List (PrequalificationDecision × Option (CandidateFeatures D))}

/-! ### Tickers -/

theorem calculateCandidate_ticker (h : calculateCandidate rt context source = .ok features) :
    features.ticker = source.ticker := by
  obtain ⟨_, hCalculated⟩ := calculateCandidate_calculated h
  exact hCalculated.ticker

/-- A decision is about its candidate, and features are kept where they are accepted. -/
structure Decides (rt : Runtime D) (context : FeatureContext D) (source : CandidateSourceData D)
    (result : PrequalificationDecision × Option (CandidateFeatures D)) : Prop where
  ticker : result.1.ticker = source.ticker
  accepted : result.1.accepted = result.2.isSome
  features : ∀ features ∈ result.2, calculateCandidate rt context source = .ok features

theorem decideCandidate_decides (h : decideCandidate rt context source = .ok result) :
    Decides rt context source result := by
  unfold decideCandidate at h
  split at h
  · obtain rfl := Except.ok.inj h
    exact ⟨rfl, rfl, fun _ hNone => absurd hNone (Option.not_mem_none _)⟩
  · cases h
  · next features hFeatures =>
    obtain rfl := Except.ok.inj h
    refine ⟨calculateCandidate_ticker hFeatures, ?_, ?_⟩
    · split_ifs with hAccepted
      · exact hAccepted
      · exact Bool.eq_false_iff.mpr hAccepted
    · intro kept hKept
      split_ifs at hKept
      · obtain rfl := Option.mem_some_iff.mp hKept
        exact hFeatures
      · cases hKept

theorem Decides.features_ticker (h : Decides rt context source result) :
    ∀ features ∈ result.2, features.ticker = result.1.ticker := by
  intro features hFeatures
  rw [calculateCandidate_ticker (h.features features hFeatures), h.ticker]

theorem tickerInput_ticker {entry : TickerInput} (h : tickerInput rt features = .ok entry) :
    entry.ticker = features.ticker := by
  simp only [tickerInput, model, Result.bind_eq_ok, validated_eq_ok] at h
  obtain ⟨_, -, _, -, _, -, _, -, _, -, _, -, _, -, _, -, _, -, _, -, _, -, rfl, -⟩ := h
  rfl

theorem payloadOf_tickers {selected : List (CandidateFeatures D)} {payload : DaybreakInput}
    (h : payloadOf rt context selected = .ok payload) :
    payload.tickers.map (·.ticker) = selected.map (·.ticker) := by
  simp only [payloadOf, Result.bind_eq_ok] at h
  obtain ⟨_, -, tickers, hTickers, _, -, h⟩ := h
  unfold daybreakInput at h
  split_ifs at h
  obtain rfl := Except.ok.inj h
  exact map_eq_of_mapM hTickers fun _ _ hEntry => tickerInput_ticker hEntry

/-! ### Snapshots that are returned -/

def rankedFeatures (results : List (PrequalificationDecision × Option (CandidateFeatures D))) :
    List (CandidateFeatures D) :=
  sortedBy capacitySortKey (results.filterMap (·.2))

/-- What a snapshot reports of the decisions that it was built from. -/
structure Built (rt : Runtime D) (context : FeatureContext D)
    (results : List (PrequalificationDecision × Option (CandidateFeatures D)))
    (snapshot : FeatureSnapshot D) : Prop where
  decided : (sortedBy (·.ticker) context.candidates).mapM (decideCandidate rt context) = .ok results
  decisions : snapshot.prequalification = results.map (·.1)
  records : snapshot.acceptedFeatureRecords =
    (rankedFeatures results).take context.config.maxEvaluatorCandidates
  omissions : snapshot.capacityOmissions = capacityOmissions context.config.maxEvaluatorCandidates
    ((rankedFeatures results).drop context.config.maxEvaluatorCandidates)
  payload : payloadOf rt context snapshot.acceptedFeatureRecords = .ok snapshot.payload

theorem exists_built (h : buildFeatureSnapshot rt context = .ok snapshot) :
    ∃ results, Built rt context results snapshot := by
  unfold buildFeatureSnapshot at h
  obtain ⟨results, hResults, h⟩ := Result.bind_eq_ok.mp h
  obtain ⟨payload, hPayload, h⟩ := Result.bind_eq_ok.mp h
  obtain ⟨_, -, h⟩ := Result.bind_eq_ok.mp h
  obtain ⟨_, -, h⟩ := Result.bind_eq_ok.mp h
  obtain ⟨_, -, h⟩ := Result.bind_eq_ok.mp h
  split at h
  · obtain rfl := Result.pure_eq_ok.mp h
    exact ⟨results, hResults, rfl, rfl, rfl, hPayload⟩
  · cases h

/-- A snapshot is returned exactly when every candidate is decided, the payload is valid
and the numbers can be written. -/
theorem exists_snapshot_iff : (∃ snapshot, buildFeatureSnapshot rt context = .ok snapshot) ↔
    ∃ results, (sortedBy (·.ticker) context.candidates).mapM (decideCandidate rt context) =
        .ok results ∧
      (∃ payload, payloadOf rt context
        ((rankedFeatures results).take context.config.maxEvaluatorCandidates) = .ok payload) ∧
      (∀ x ∈ context.numbers, Writable x) ∧
      ∀ x ∈ ((rankedFeatures results).take context.config.maxEvaluatorCandidates).flatMap
        (·.numbers), Writable x := by
  unfold buildFeatureSnapshot
  constructor
  · rintro ⟨snapshot, h⟩
    obtain ⟨results, hResults, h⟩ := Result.bind_eq_ok.mp h
    obtain ⟨payload, hPayload, h⟩ := Result.bind_eq_ok.mp h
    obtain ⟨_, hContext, h⟩ := Result.bind_eq_ok.mp h
    obtain ⟨_, -, h⟩ := Result.bind_eq_ok.mp h
    obtain ⟨_, hFeatures, -⟩ := Result.bind_eq_ok.mp h
    exact ⟨results, hResults, ⟨payload, hPayload⟩, (canonicalSha256_eq_ok.mp hContext).2,
      (canonicalSha256_eq_ok.mp hFeatures).2⟩
  · rintro ⟨results, hResults, ⟨payload, hPayload⟩, hContext, hFeatures⟩
    have hConfig : ∀ x ∈ context.config.numbers, Writable x :=
      fun x hx => hContext x (List.mem_append_right _ hx)
    exact ⟨_, Result.bind_eq_ok.mpr ⟨results, hResults,
      Result.bind_eq_ok.mpr ⟨payload, hPayload,
      Result.bind_eq_ok.mpr ⟨_, canonicalSha256_eq_ok.mpr ⟨rfl, hContext⟩,
      Result.bind_eq_ok.mpr ⟨_, canonicalSha256_eq_ok.mpr ⟨rfl, hConfig⟩,
      Result.bind_eq_ok.mpr ⟨_, canonicalSha256_eq_ok.mpr ⟨rfl, hFeatures⟩,
      dif_pos (payloadOf_tickers hPayload)⟩⟩⟩⟩⟩⟩

/-! ### Conservation -/

/-- The tickers of the decisions that accept. -/
def acceptedTickers (decisions : List PrequalificationDecision) : List String :=
  (decisions.filter (·.accepted)).map (·.ticker)

/-- The features of a candidate of the context. -/
def CandidateOf (rt : Runtime D) (context : FeatureContext D) (features : CandidateFeatures D) :
    Prop :=
  ∃ source ∈ context.candidates, calculateCandidate rt context source = .ok features

structure Conserved (rt : Runtime D) (context : FeatureContext D) (snapshot : FeatureSnapshot D) :
    Prop where
  decided : ∀ source ∈ context.candidates,
    (snapshot.prequalification.map (·.ticker)).count source.ticker = 1
  only : ∀ decision ∈ snapshot.prequalification,
    ∃ source ∈ context.candidates, source.ticker = decision.ticker
  accepted : (acceptedTickers snapshot.prequalification).Perm
    (snapshot.payload.tickers.map (·.ticker) ++ snapshot.capacityOmissions.map (·.ticker))
  disjoint : (snapshot.payload.tickers.map (·.ticker) ++
    snapshot.capacityOmissions.map (·.ticker)).Nodup
  size : snapshot.payload.tickers.length =
    min (acceptedTickers snapshot.prequalification).length context.config.maxEvaluatorCandidates
  order : snapshot.payload.tickers.map (·.ticker) =
    snapshot.acceptedFeatureRecords.map (·.ticker)
  ranks : snapshot.capacityOmissions.map (·.finalCapacityRank) =
    List.range' (context.config.maxEvaluatorCandidates + 1) snapshot.capacityOmissions.length
  records : ∀ record ∈ snapshot.acceptedFeatureRecords, CandidateOf rt context record
  fair : ∀ omission ∈ snapshot.capacityOmissions, ∃ features, CandidateOf rt context features ∧
    features.ticker = omission.ticker ∧ ∀ record ∈ snapshot.acceptedFeatureRecords,
      capacitySortKey record ≤ capacitySortKey features

theorem Built.decides (h : Built rt context results snapshot) :
    List.Forall₂ (Decides rt context) (sortedBy (·.ticker) context.candidates) results :=
  (mapM_eq_ok.mp h.decided).imp fun _ _ => decideCandidate_decides

theorem Built.tickers (h : Built rt context results snapshot) :
    snapshot.prequalification.map (·.ticker) =
      (sortedBy (·.ticker) context.candidates).map (·.ticker) := by
  rw [h.decisions, List.map_map]
  exact map_eq_of_mapM h.decided fun _ _ hResult => (decideCandidate_decides hResult).ticker

theorem Built.decides_of_mem (h : Built rt context results snapshot) (hResult : result ∈ results) :
    ∃ source ∈ context.candidates, Decides rt context source result := by
  obtain ⟨source, hSource, hDecided⟩ := mapM_ok_mem h.decided hResult
  exact ⟨source, mem_sortedBy.mp hSource, decideCandidate_decides hDecided⟩

/-- The tickers that are accepted are those of the features that are kept. -/
theorem Built.accepted (h : Built rt context results snapshot) :
    acceptedTickers snapshot.prequalification = (results.filterMap (·.2)).map (·.ticker) := by
  rw [h.decisions, acceptedTickers, List.map_filterMap, List.filter_map, List.map_map,
    ← List.filterMap_eq_map, ← List.filterMap_eq_filter, List.filterMap_filterMap]
  refine List.filterMap_congr fun result hResult => ?_
  obtain ⟨source, -, hDecides⟩ := h.decides_of_mem hResult
  have hAccepted := hDecides.accepted
  have hTicker := hDecides.features_ticker
  cases hFeatures : result.2 with
  | none => simp_all
  | some features => simp_all

theorem Built.ranked (h : Built rt context results snapshot) :
    (rankedFeatures results).map (·.ticker) =
      snapshot.payload.tickers.map (·.ticker) ++ snapshot.capacityOmissions.map (·.ticker) := by
  rw [snapshot.consistent, h.records, h.omissions, tickers_capacityOmissions, ← List.map_append,
    List.take_append_drop]

theorem Built.accepted_perm (h : Built rt context results snapshot) :
    (acceptedTickers snapshot.prequalification).Perm
      (snapshot.payload.tickers.map (·.ticker) ++ snapshot.capacityOmissions.map (·.ticker)) := by
  rw [← h.ranked, h.accepted]
  exact ((sortedBy_perm _ _).map _).symm

theorem Built.nodup (h : Built rt context results snapshot) :
    (snapshot.prequalification.map (·.ticker)).Nodup := by
  rw [h.tickers]
  exact ((sortedBy_perm _ _).map _).nodup_iff.mpr context.tickers_nodup

theorem Built.candidateOf (h : Built rt context results snapshot)
    (hFeatures : features ∈ rankedFeatures results) : CandidateOf rt context features := by
  obtain ⟨result, hResult, hKept⟩ := List.mem_filterMap.mp (mem_sortedBy.mp hFeatures)
  obtain ⟨source, hSource, hDecides⟩ := h.decides_of_mem hResult
  exact ⟨source, hSource, hDecides.features features hKept⟩

/-- Who is selected comes before who is omitted. -/
theorem Built.fair (h : Built rt context results snapshot) {omission : CapacityOmission}
    (hOmission : omission ∈ snapshot.capacityOmissions) :
    ∃ features, CandidateOf rt context features ∧ features.ticker = omission.ticker ∧
      ∀ record ∈ snapshot.acceptedFeatureRecords,
        capacitySortKey record ≤ capacitySortKey features := by
  have hTicker := List.mem_map_of_mem (f := (·.ticker)) hOmission
  rw [h.omissions, tickers_capacityOmissions] at hTicker
  obtain ⟨features, hFeatures, hSame⟩ := List.mem_map.mp hTicker
  refine ⟨features, h.candidateOf (List.mem_of_mem_drop hFeatures), hSame, ?_⟩
  intro record hRecord
  rw [h.records] at hRecord
  have hSorted := pairwise_sortedBy capacitySortKey (results.filterMap (·.2))
  rw [← List.take_append_drop context.config.maxEvaluatorCandidates (sortedBy _ _)] at hSorted
  exact (List.pairwise_append.mp hSorted).2.2 record hRecord features hFeatures

theorem Built.conserved (h : Built rt context results snapshot) :
    Conserved rt context snapshot where
  decided source hSource := by
    refine List.count_eq_one_of_mem h.nodup ?_
    rw [h.tickers]
    exact List.mem_map_of_mem (mem_sortedBy.mpr hSource)
  only decision hDecision := by
    rw [h.decisions] at hDecision
    obtain ⟨result, hResult, rfl⟩ := List.mem_map.mp hDecision
    obtain ⟨source, hSource, hDecides⟩ := h.decides_of_mem hResult
    exact ⟨source, hSource, hDecides.ticker.symm⟩
  accepted := h.accepted_perm
  disjoint := by
    refine h.accepted_perm.nodup_iff.mp (h.nodup.sublist ?_)
    exact List.filter_sublist.map _
  size := by
    have hLength : snapshot.payload.tickers.length = snapshot.acceptedFeatureRecords.length := by
      simpa using congrArg List.length snapshot.consistent
    rw [hLength, h.records, List.length_take, rankedFeatures, length_sortedBy, h.accepted,
      List.length_map, min_comm]
  order := snapshot.consistent
  ranks := by
    rw [h.omissions, ranks_capacityOmissions, capacityOmissions, List.length_map,
      List.length_zipIdx]
  records record hRecord := by
    rw [h.records] at hRecord
    exact h.candidateOf (List.mem_of_mem_take hRecord)
  fair _ hOmission := h.fair hOmission

/-! ### The order of the candidates -/

/-- The context with its candidates in another order. -/
def FeatureContext.reorder (context : FeatureContext D) (candidates : List (CandidateSourceData D))
    (h : candidates.Perm context.candidates) : FeatureContext D :=
  { context with
    candidates := candidates
    tickers_nodup := (h.map (·.ticker)).nodup_iff.mpr context.tickers_nodup }

theorem sortedBy_reorder {candidates : List (CandidateSourceData D)}
    (h : candidates.Perm context.candidates) :
    sortedBy (·.ticker) candidates = sortedBy (·.ticker) context.candidates :=
  sortedBy_eq_of_perm (fun _ ha _ hb hab =>
    List.inj_on_of_nodup_map context.tickers_nodup ha hb hab) h

/-- What is known of a candidate does not depend on the others. -/
theorem decideCandidate_reorder {candidates : List (CandidateSourceData D)}
    (h : candidates.Perm context.candidates) :
    decideCandidate rt (context.reorder candidates h) = decideCandidate rt context := rfl

theorem numbers_reorder {candidates : List (CandidateSourceData D)}
    (h : candidates.Perm context.candidates) :
    (context.reorder candidates h).numbers.Perm context.numbers := by
  simp only [FeatureContext.numbers, FeatureContext.reorder]
  exact ((h.flatMap_right _).append_right _).cons _

theorem decided_reorder {candidates : List (CandidateSourceData D)}
    (h : candidates.Perm context.candidates) :
    (sortedBy (·.ticker) (context.reorder candidates h).candidates).mapM
        (decideCandidate rt (context.reorder candidates h)) =
      (sortedBy (·.ticker) context.candidates).mapM (decideCandidate rt context) := by
  rw [decideCandidate_reorder, FeatureContext.reorder, sortedBy_reorder h]

/-- Snapshots of two orders of the candidates are built from the same decisions. -/
theorem built_reorder {candidates : List (CandidateSourceData D)} {other : FeatureSnapshot D}
    (hPerm : candidates.Perm context.candidates) (h : Built rt context results snapshot)
    (hOther : buildFeatureSnapshot rt (context.reorder candidates hPerm) = .ok other) :
    other.payload = snapshot.payload ∧ other.prequalification = snapshot.prequalification ∧
      other.capacityOmissions = snapshot.capacityOmissions := by
  obtain ⟨results', hBuilt⟩ := exists_built hOther
  have hDecided := hBuilt.decided
  rw [decided_reorder] at hDecided
  obtain rfl := Except.ok.inj (h.decided.symm.trans hDecided)
  have hRecords : other.acceptedFeatureRecords = snapshot.acceptedFeatureRecords :=
    hBuilt.records.trans h.records.symm
  have hPayload := hBuilt.payload
  rw [hRecords] at hPayload
  exact ⟨Except.ok.inj (hPayload.symm.trans h.payload), hBuilt.decisions.trans h.decisions.symm,
    hBuilt.omissions.trans h.omissions.symm⟩

theorem exists_reorder {candidates : List (CandidateSourceData D)}
    (hPerm : candidates.Perm context.candidates)
    (h : buildFeatureSnapshot rt context = .ok snapshot) :
    ∃ other, buildFeatureSnapshot rt (context.reorder candidates hPerm) = .ok other := by
  obtain ⟨results, hDecided, hPayload, hContext, hFeatures⟩ := exists_snapshot_iff.mp ⟨snapshot, h⟩
  refine exists_snapshot_iff.mpr ⟨results, ?_, hPayload, ?_, hFeatures⟩
  · rw [decided_reorder, hDecided]
  · intro x hx
    exact hContext x ((numbers_reorder hPerm).mem_iff.mp hx)

/-- A snapshot conserves its candidates, and does not depend on their order. -/
theorem snapshot_conserved (rt : Runtime D) (context : FeatureContext D)
    (snapshot : FeatureSnapshot D) (h : buildFeatureSnapshot rt context = .ok snapshot) :
    Conserved rt context snapshot ∧
    ∀ candidates, ∀ hPerm : candidates.Perm context.candidates, ∃ other,
      buildFeatureSnapshot rt (context.reorder candidates hPerm) = .ok other ∧
        other.payload = snapshot.payload ∧ other.prequalification = snapshot.prequalification ∧
        other.capacityOmissions = snapshot.capacityOmissions := by
  obtain ⟨results, hBuilt⟩ := exists_built h
  refine ⟨hBuilt.conserved, fun candidates hPerm => ?_⟩
  obtain ⟨other, hOther⟩ := exists_reorder hPerm h
  exact ⟨other, hOther, built_reorder hPerm hBuilt hOther⟩

/-! ### Two candidates for one place -/

/-- Midnight of 3 August 2026 in UTC. -/
def sampleDay : Timestamp := 1785715200000000

def sampleDate : Day := utcDate sampleDay

def hours (n : ℤ) : ℤ := n * 3600000000

/-- New York in August. -/
def sampleZone : TimeZone := fun value =>
  .ok ⟨utcDate (value - hours 4), ((value - hours 4) % 86400000000).toNat⟩

/-- The conversions and a stand-in for the hashes, for whole numbers. -/
def sampleRuntime : Runtime Decimal where
  zone := sampleZone
  floatRepr x := toString ⌊x⌋ ++ ".0"
  ofFloat x := ⟨x < 0, (10 * ⌊x⌋).natAbs, -1⟩
  sourceSha256 _ := "source"
  contextSha256 _ := "context"
  configSha256 _ := "config"
  featuresSha256 _ := "features"
  payloadSha256 _ := "payload"
  auditSha256 _ _ := "audit"
  snapshotSha256 _ := "snapshot"

def dollars (n : ℕ) : PositiveDecimal Decimal :=
  ⟨.ofInt (n.toPNat' : ℕ), by
    change 0 < value (DecimalArithmetic.ofInt ((n.toPNat' : ℕ) : ℤ) : Decimal)
    rw [value_ofInt]
    exact_mod_cast n.toPNat'.pos⟩

theorem validTradeId_t1 : ValidTradeId "t1" := by decide

def sampleEvent (timestamp : Timestamp) (size : ℕ) : TradeLedgerEvent Decimal where
  ingestSeq := Nat.succPNat 0
  tradeId := "t1"
  action := .new
  eventTimestamp := timestamp
  price := some (dollars 20)
  size := some size.toPNat'
  valid :=
    ⟨⟨validTradeId_t1, fun _ h => absurd h (Option.not_mem_none _)⟩,
      rfl, rfl, rfl⟩

def sampleBar (date : Day) : DailyBar Decimal where
  sessionDate := date
  openPrice := dollars 10
  high := dollars 11
  low := dollars 9
  close := dollars 10
  volume := 1000000
  high_max := by decide +kernel
  low_min := by decide +kernel

def sampleFloat (ticker : String) : FloatRecord where
  ticker := ticker
  floatShares := 60000000
  effectiveDate := sampleDate - 30
  observedAt := sampleDay - hours 24
  validatedAt := sampleDay - hours 24
  expiresAt := sampleDay + hours 24
  qualityStatus := .verified
  source := .fixture
  rawResponseHashes := []
  hashes := by decide
  expires_later := by decide

def sampleCatalyst (ticker text : String) (h : 1 ≤ text.length) : CatalystRecord where
  catalystId := "c1"
  ticker := ticker
  catalystText := text
  sourceType := .primary
  sourceName := "Business Wire"
  sourceTimestamp := sampleDay + hours 11
  observedAt := sampleDay + hours 11
  corroborated := true
  disqualifierFlags := []
  sourceHash := String.ofList (List.replicate 64 'a')
  id_length := by decide +kernel
  text_length := h
  name_length := by decide +kernel
  hash := by decide +kernel

/-- Thirty quiet days, and a gap to twice the previous close. -/
def sampleSource (ticker text : String) (events : List (TradeLedgerEvent Decimal))
    (hTicker : isCanonicalTicker ticker = true) (hText : 1 ≤ text.length) :
    CandidateSourceData Decimal where
  ticker := ticker
  halted := false
  borrowStatus := .easy
  previousRegularClose := dollars 10
  currentSessionEvents := events
  historicalPremarketSessions :=
    [{ sessionDate := sampleDate - 3, events := [sampleEvent (sampleDay - hours 60) 60000] }]
  dailyBars := (List.range 30).map fun i => sampleBar (sampleDate - 30 + i)
  historyCompleteSinceListing := true
  floatRecords := [sampleFloat ticker]
  catalysts := [sampleCatalyst ticker text hText]
  canonical := hTicker
  bars_sorted := by decide +kernel
  float_ticker := by simp [sampleFloat]
  catalyst_ticker := by simp [sampleCatalyst]

def sampleTrade : TradeLedgerEvent Decimal := sampleEvent (sampleDay + hours 12) 600000

def sampleConfig : FeatureEngineConfig Decimal :=
  { defaultConfig with
    rvolLookbackSessions := 1
    maxEvaluatorCandidates := 1
    lookback_pos := by decide
    candidates_bounds := by decide }

def sampleContext (candidates : List (CandidateSourceData Decimal))
    (h : (candidates.map (·.ticker)).Nodup) : FeatureContext Decimal where
  evaluationTimestamp := sampleDay + hours 13 + 60000000
  payloadTimestamp := sampleDay + hours 13
  catalystFreshnessThresholdHours := dollars 24
  marketStatus := .normal
  candidates := candidates
  config := sampleConfig
  ordered := by decide
  tickers_nodup := h

theorem canonical_AAAA : isCanonicalTicker "AAAA" = true := by decide

theorem canonical_BBBB : isCanonicalTicker "BBBB" = true := by decide

theorem approval_nonempty : 1 ≤ "FDA approval".length := by decide

/-- Two candidates that are accepted, and one without a trade. -/
def threeCandidates : FeatureContext Decimal :=
  sampleContext
    [sampleSource "BBBB" "FDA approval" [sampleTrade] canonical_BBBB approval_nonempty,
      sampleSource "CCCC" "FDA approval" [] (by decide +kernel) approval_nonempty,
      sampleSource "AAAA" "FDA approval" [sampleTrade] canonical_AAAA approval_nonempty]
    (by decide +kernel)

theorem threeCandidates_conserved : ∃ snapshot,
    buildFeatureSnapshot sampleRuntime threeCandidates = .ok snapshot ∧
      snapshot.capacityOmissions = [⟨"BBBB", 2⟩] ∧
      Conserved sampleRuntime threeCandidates snapshot := by
  obtain ⟨snapshot, hBuild, hOmitted⟩ : ∃ snapshot,
      buildFeatureSnapshot sampleRuntime threeCandidates = .ok snapshot ∧
        snapshot.capacityOmissions = [⟨"BBBB", 2⟩] := by decide +kernel
  exact ⟨snapshot, hBuild, hOmitted,
    (snapshot_conserved sampleRuntime threeCandidates snapshot hBuild).1⟩

end Daybreak.Features
