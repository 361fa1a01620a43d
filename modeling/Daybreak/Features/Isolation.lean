import Daybreak.Features.Encoding

/-! The isolation of faults: what one candidate raises beyond a `DataQualityError`, in its
calculation or in its part of the payload, is raised for all of them. Where nothing is
raised, the decision on a candidate depends on its own data alone. -/

namespace Daybreak.Features

open Contracts Daybreak.Order Effect Fallible Numeric DecimalArithmetic

variable {D : Type} [DecimalArithmetic D]

/-! ### The candidates that are accepted -/

/-- The features of a candidate that is accepted: there is no reason to refuse it, and its
catalyst is not stale. -/
def acceptedFeatures (rt : Runtime D) (context : FeatureContext D)
    (source : CandidateSourceData D) : Option (CandidateFeatures D) :=
  match calculateCandidate rt context source with
  | .ok features =>
    if prequalReasons features context.config = [] ∧ value features.catalystAgeHours.1 ≤
        value context.catalystFreshnessThresholdHours.1 then some features else none
  | .error _ => none

def acceptedOf (rt : Runtime D) (context : FeatureContext D) : List (CandidateFeatures D) :=
  context.candidates.filterMap (acceptedFeatures rt context)

/-- An accepted candidate is selected where the capacity exceeds the number of those
accepted that come before it. -/
def Selected (rt : Runtime D) (context : FeatureContext D) (features : CandidateFeatures D) :
    Prop :=
  features ∈ acceptedOf rt context ∧
    ((acceptedOf rt context).filter fun other =>
      capacitySortKey other < capacitySortKey features).length <
        context.config.maxEvaluatorCandidates

section Accepted

variable {rt : Runtime D} {context : FeatureContext D} {source : CandidateSourceData D}
  {features : CandidateFeatures D}
  {result : PrequalificationDecision × Option (CandidateFeatures D)}
  {results : List (PrequalificationDecision × Option (CandidateFeatures D))}

theorem mem_acceptedFeatures (h : features ∈ acceptedFeatures rt context source) :
    calculateCandidate rt context source = .ok features ∧
      features.catalyst.disqualifierFlags = [] := by
  unfold acceptedFeatures at h
  split at h
  · next found hFound =>
    obtain ⟨⟨hReasons, -⟩, hSame⟩ := Option.ite_none_right_eq_some.mp h
    obtain rfl := Option.some.inj hSame
    refine ⟨hFound, ?_⟩
    by_contra hFlags
    simp [prequalReasons, reasonIf, hFlags] at hReasons
  · cases h

theorem acceptedOf_tickers : ((acceptedOf rt context).map (·.ticker)).Nodup := by
  refine List.pairwise_map.mpr (List.pairwise_filterMap.mpr ?_)
  refine (List.pairwise_map.mp context.tickers_nodup).imp fun hTickers => ?_
  intro a ha b hb
  rw [calculateCandidate_ticker (mem_acceptedFeatures ha).1,
    calculateCandidate_ticker (mem_acceptedFeatures hb).1]
  exact hTickers

theorem acceptedOf_keyOn : KeyOn capacitySortKey (acceptedOf rt context) := by
  intro a ha b hb hKey
  exact List.inj_on_of_nodup_map acceptedOf_tickers ha hb (ticker_of_capacitySortKey hKey)

theorem decideCandidate_features (h : decideCandidate rt context source = .ok result) :
    result.2 = acceptedFeatures rt context source := by
  unfold decideCandidate at h
  unfold acceptedFeatures
  split at h
  · next hError =>
    rw [hError]
    obtain rfl := Except.ok.inj h
    rfl
  · cases h
  · next found hFound =>
    rw [hFound]
    obtain rfl := Except.ok.inj h
    simp [prequalify, reasonIf]

theorem exists_decideCandidate_iff : (∃ result, decideCandidate rt context source = .ok result) ↔
    Caught (calculateCandidate rt context source) := by
  unfold decideCandidate
  split
  · next hError =>
    rw [hError]
    exact iff_of_true ⟨_, rfl⟩ (raisesOnly_error.mpr trivial)
  · next hError =>
    rw [hError]
    exact iff_of_false (fun ⟨_, h⟩ => nomatch h) fun h => h _ rfl
  · next hFeatures =>
    rw [hFeatures]
    exact iff_of_true ⟨_, rfl⟩ raisesOnly_ok

/-- The ranking is that of the accepted candidates, in whatever order they are given. -/
theorem rankedFeatures_eq (h : (sortedBy (·.ticker) context.candidates).mapM
    (decideCandidate rt context) = .ok results) :
    rankedFeatures results = sortedBy capacitySortKey (acceptedOf rt context) := by
  have hFeatures := map_eq_of_mapM h fun _ _ hResult => decideCandidate_features hResult
  have hKept : results.filterMap (·.2) =
      (sortedBy (·.ticker) context.candidates).filterMap (acceptedFeatures rt context) := by
    rw [← Function.id_comp (acceptedFeatures rt context), ← List.filterMap_map, ← hFeatures,
      List.filterMap_map, Function.id_comp]
  unfold rankedFeatures acceptedOf
  rw [hKept]
  refine sortedBy_eq_of_perm acceptedOf_keyOn ?_
  exact (sortedBy_perm _ _).filterMap _

theorem selected_iff (h : (sortedBy (·.ticker) context.candidates).mapM
    (decideCandidate rt context) = .ok results) :
    features ∈ (rankedFeatures results).take context.config.maxEvaluatorCandidates ↔
      Selected rt context features := by
  rw [rankedFeatures_eq h]
  exact mem_take_sortedBy (List.Nodup.of_map _ acceptedOf_tickers) acceptedOf_keyOn

end Accepted

/-! ### Snapshots that are returned -/

/-- Every candidate can be calculated, and the payload takes the selected ones. -/
structure Isolating (rt : Runtime Decimal) (context : FeatureContext Decimal) : Prop where
  calculable : ∀ source ∈ context.candidates, Calculable rt context source
  threshold : FiniteThreshold context
  fits : ∀ features, Selected rt context features → FitsInput features
  writable : ∀ x ∈ context.numbers, Writable x
  selected : ∀ features, Selected rt context features → ∀ x ∈ features.numbers, Writable x

section Isolating

variable {rt : Runtime Decimal} {context : FeatureContext Decimal}
  {features : CandidateFeatures Decimal}
  {results : List (PrequalificationDecision × Option (CandidateFeatures Decimal))}

theorem mem_acceptedOf (h : features ∈ acceptedOf rt context) :
    Computed features ∧ features.catalyst.disqualifierFlags = [] := by
  obtain ⟨source, -, hFeatures⟩ := List.mem_filterMap.mp h
  obtain ⟨hCalculated, hFlags⟩ := mem_acceptedFeatures hFeatures
  exact ⟨calculateCandidate_computed hCalculated, hFlags⟩

/-- The payload of the selected candidates, as the condition says it. -/
theorem exists_payload_iff (h : (sortedBy (·.ticker) context.candidates).mapM
    (decideCandidate rt context) = .ok results) :
    (∃ payload, payloadOf rt context
      ((rankedFeatures results).take context.config.maxEvaluatorCandidates) = .ok payload) ↔
    FiniteThreshold context ∧ ∀ features, Selected rt context features → FitsInput features := by
  have hSelected : ∀ features ∈ (rankedFeatures results).take context.config.maxEvaluatorCandidates,
      features ∈ acceptedOf rt context := fun features hFeatures => ((selected_iff h).mp hFeatures).1
  rw [exists_payloadOf_iff (fun features hFeatures => (mem_acceptedOf (hSelected features hFeatures)).1)
    (fun features hFeatures => (mem_acceptedOf (hSelected features hFeatures)).2)]
  · simp only [selected_iff h]
  · exact (List.length_take_le _ _).trans context.config.candidates_bounds.2
  · rw [rankedFeatures_eq h]
    refine List.Nodup.sublist ((List.take_sublist _ _).map _) ?_
    exact ((sortedBy_perm _ _).map _).nodup_iff.mpr acceptedOf_tickers

theorem exists_snapshot_iff_isolating :
    (∃ snapshot, buildFeatureSnapshot rt context = .ok snapshot) ↔ Isolating rt context := by
  rw [exists_snapshot_iff]
  constructor
  · rintro ⟨results, hResults, hPayload, hContext, hFeatures⟩
    obtain ⟨hThreshold, hFits⟩ := (exists_payload_iff hResults).mp hPayload
    refine ⟨fun source hSource => ?_, hThreshold, hFits, hContext, fun features hSelected x hx => ?_⟩
    · obtain ⟨result, -, hResult⟩ := mapM_ok_of_mem hResults (mem_sortedBy.mpr hSource)
      exact (calculateCandidate_caught_iff hSource hContext).mp
        (exists_decideCandidate_iff.mp ⟨result, hResult⟩)
    · exact hFeatures x (List.mem_flatMap.mpr ⟨features, (selected_iff hResults).mpr hSelected, hx⟩)
  · intro h
    have hDecided : ∀ source ∈ sortedBy (·.ticker) context.candidates,
        ∃ result, decideCandidate rt context source = .ok result := by
      intro source hSource
      have hMem := mem_sortedBy.mp hSource
      exact exists_decideCandidate_iff.mpr
        ((calculateCandidate_caught_iff hMem h.writable).mpr (h.calculable source hMem))
    obtain ⟨results, hResults⟩ := exists_mapM_iff.mpr hDecided
    refine ⟨results, hResults, (exists_payload_iff hResults).mpr ⟨h.threshold, h.fits⟩, h.writable, ?_⟩
    intro x hx
    obtain ⟨features, hFeatures, hx⟩ := List.mem_flatMap.mp hx
    exact h.selected features ((selected_iff hResults).mp hFeatures) x hx

end Isolating

/-! ### The data of one candidate -/

/-- The replacement, for the candidate of its ticker. -/
def CandidateSourceData.instead (replacement source : CandidateSourceData D) :
    CandidateSourceData D :=
  if source.ticker = replacement.ticker then replacement else source

theorem ticker_instead (replacement : CandidateSourceData D) :
    (·.ticker) ∘ replacement.instead = (·.ticker) := by
  funext source
  unfold Function.comp CandidateSourceData.instead
  split_ifs with h
  · exact h.symm
  · rfl

/-- The context with the data of one candidate replaced. -/
def FeatureContext.replace (context : FeatureContext D) (replacement : CandidateSourceData D) :
    FeatureContext D :=
  { context with
    candidates := context.candidates.map replacement.instead
    tickers_nodup := by
      rw [List.map_map, ticker_instead]
      exact context.tickers_nodup }

/-- The snapshot is returned, and each candidate has one decision in it. -/
def Returned (rt : Runtime D) (context : FeatureContext D) : Prop :=
  ∃ snapshot, buildFeatureSnapshot rt context = .ok snapshot ∧
    (snapshot.prequalification.map (·.ticker)).Perm (context.candidates.map (·.ticker))

/-- Both snapshots are returned, and the decisions on other candidates are the same. -/
def OthersKept (rt : Runtime D) (context : FeatureContext D)
    (replacement : CandidateSourceData D) : Prop :=
  ∃ snapshot replaced, buildFeatureSnapshot rt context = .ok snapshot ∧
    buildFeatureSnapshot rt (context.replace replacement) = .ok replaced ∧
    ∀ decision, decision.ticker ≠ replacement.ticker →
      (decision ∈ replaced.prequalification ↔ decision ∈ snapshot.prequalification)

theorem mem_prequalification {rt : Runtime D} {context : FeatureContext D}
    {snapshot : FeatureSnapshot D} {decision : PrequalificationDecision}
    (h : buildFeatureSnapshot rt context = .ok snapshot) :
    decision ∈ snapshot.prequalification ↔ ∃ source ∈ context.candidates, ∃ result,
      decideCandidate rt context source = .ok result ∧ result.1 = decision := by
  obtain ⟨results, hBuilt⟩ := exists_built h
  rw [hBuilt.decisions, List.mem_map]
  constructor
  · rintro ⟨result, hResult, rfl⟩
    obtain ⟨source, hSource, hDecided⟩ := mapM_ok_mem hBuilt.decided hResult
    exact ⟨source, mem_sortedBy.mp hSource, result, hDecided, rfl⟩
  · rintro ⟨source, hSource, result, hDecided, rfl⟩
    obtain ⟨found, hFound, hSame⟩ := mapM_ok_of_mem hBuilt.decided (mem_sortedBy.mpr hSource)
    obtain rfl := Except.ok.inj (hDecided.symm.trans hSame)
    exact ⟨_, hFound, rfl⟩

theorem decideCandidate_replace (rt : Runtime D) (context : FeatureContext D)
    (replacement : CandidateSourceData D) :
    decideCandidate rt (context.replace replacement) = decideCandidate rt context := rfl

/-- Another candidate is in both contexts. -/
theorem mem_replace {context : FeatureContext D} {replacement source : CandidateSourceData D}
    (h : source.ticker ≠ replacement.ticker) :
    source ∈ (context.replace replacement).candidates ↔ source ∈ context.candidates := by
  refine List.mem_map.trans ⟨?_, fun hSource => ⟨source, hSource, if_neg h⟩⟩
  rintro ⟨original, hOriginal, rfl⟩
  unfold CandidateSourceData.instead at h ⊢
  split_ifs at h ⊢ with hTicker
  · exact absurd rfl h
  · exact hOriginal

/-- The decision on a candidate is made from its data alone. -/
theorem decisions_replace {rt : Runtime D} {context : FeatureContext D}
    {replacement : CandidateSourceData D} {snapshot replaced : FeatureSnapshot D}
    (h : buildFeatureSnapshot rt context = .ok snapshot)
    (hReplaced : buildFeatureSnapshot rt (context.replace replacement) = .ok replaced)
    {decision : PrequalificationDecision} (hOther : decision.ticker ≠ replacement.ticker) :
    decision ∈ replaced.prequalification ↔ decision ∈ snapshot.prequalification := by
  rw [mem_prequalification h, mem_prequalification hReplaced, decideCandidate_replace]
  have hTicker : ∀ source : CandidateSourceData D,
      (∃ result, decideCandidate rt context source = .ok result ∧ result.1 = decision) →
        source.ticker ≠ replacement.ticker := by
    rintro source ⟨result, hResult, rfl⟩
    exact (decideCandidate_decides hResult).ticker ▸ hOther
  refine exists_congr fun source => and_congr_left fun hDecided => ?_
  exact mem_replace (hTicker source hDecided)

/-- Faults are isolated exactly where the condition holds: of the context for the snapshot
itself, and of both contexts for a replacement. -/
theorem faults_isolated_iff (rt : Runtime Decimal) (context : FeatureContext Decimal) :
    (Returned rt context ↔ Isolating rt context) ∧ ∀ replacement,
      (OthersKept rt context replacement ↔
        Isolating rt context ∧ Isolating rt (context.replace replacement)) := by
  refine ⟨exists_snapshot_iff_isolating.symm.trans ?_ |>.symm, fun replacement => ?_⟩
  · refine exists_congr fun snapshot => (and_iff_left_of_imp fun h => ?_).symm
    obtain ⟨results, hBuilt⟩ := exists_built h
    rw [hBuilt.tickers]
    exact (sortedBy_perm _ _).map _
  · rw [← exists_snapshot_iff_isolating, ← exists_snapshot_iff_isolating]
    constructor
    · rintro ⟨snapshot, replaced, h, hReplaced, -⟩
      exact ⟨⟨snapshot, h⟩, replaced, hReplaced⟩
    · rintro ⟨⟨snapshot, h⟩, replaced, hReplaced⟩
      exact ⟨snapshot, replaced, h, hReplaced, fun _ hOther => decisions_replace h hReplaced hOther⟩

/-! ### A catalyst text that the payload does not take -/

/-- The catalyst is one of those that the candidate comes with. -/
theorem calculateCandidate_catalyst {rt : Runtime Decimal} {context : FeatureContext Decimal}
    {source : CandidateSourceData Decimal} {features : CandidateFeatures Decimal}
    (h : calculateCandidate rt context source = .ok features) :
    features.catalyst ∈ source.catalysts := by
  obtain ⟨_, hCalculated⟩ := calculateCandidate_calculated h
  exact (selectCatalyst_eq_ok hCalculated.catalyst).1

/-- Where the capacity suffices for all candidates, who is accepted is selected. -/
theorem selected_of_length_le {rt : Runtime D} {context : FeatureContext D}
    {features : CandidateFeatures D}
    (h : context.candidates.length ≤ context.config.maxEvaluatorCandidates)
    (hFeatures : features ∈ acceptedOf rt context) : Selected rt context features := by
  refine ⟨hFeatures, ?_⟩
  calc _ < (acceptedOf rt context).length :=
        List.length_filter_lt_length_iff_exists.mpr ⟨features, hFeatures, by simp⟩
    _ ≤ context.candidates.length := List.length_filterMap_le _ _
    _ ≤ context.config.maxEvaluatorCandidates := h

/-- A text of 4001 characters. -/
def longText : String := String.ofList (List.replicate 4001 'x')

theorem length_longText : longText.length = 4001 := by
  have hLength (n : ℕ) : (String.ofList (List.replicate n 'x')).length = n := by simp
  exact hLength 4001

def longSource : CandidateSourceData Decimal :=
  sampleSource "BBBB" longText [sampleTrade] canonical_BBBB (by rw [length_longText]; decide)

/-- A healthy candidate, and one with a long text. -/
def longCatalyst : FeatureContext Decimal :=
  { sampleContext
      [sampleSource "AAAA" "FDA approval" [sampleTrade] canonical_AAAA approval_nonempty,
        longSource]
      (by decide +kernel) with
    config := { sampleConfig with maxEvaluatorCandidates := 2, candidates_bounds := by decide } }

theorem longCatalyst_not_returned : ¬ Returned sampleRuntime longCatalyst := by
  rintro ⟨snapshot, h, -⟩
  have hIsolating := exists_snapshot_iff_isolating.mp ⟨snapshot, h⟩
  have hAccepted : (acceptedFeatures sampleRuntime longCatalyst longSource).isSome := by
    decide +kernel
  obtain ⟨features, hFeatures⟩ := Option.isSome_iff_exists.mp hAccepted
  have hSource : longSource ∈ longCatalyst.candidates := List.mem_cons_of_mem _ List.mem_cons_self
  have hSelected : Selected sampleRuntime longCatalyst features :=
    selected_of_length_le (le_refl _) (List.mem_filterMap.mpr ⟨longSource, hSource, hFeatures⟩)
  have hText := (hIsolating.fits features hSelected).text
  have hCatalyst := calculateCandidate_catalyst (mem_acceptedFeatures hFeatures).1
  rw [List.mem_singleton.mp hCatalyst] at hText
  exact absurd (length_longText.symm.trans_le hText) (by decide)

end Daybreak.Features
