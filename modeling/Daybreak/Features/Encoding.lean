import Daybreak.Features.Calculation
import Daybreak.Features.Conservation

/-! The payload of the selected candidates: the models of the evaluator are stricter than
those of the features, and what they refuse is not caught. -/

namespace Daybreak.Features

open Contracts Daybreak.Order Effect Fallible Numeric DecimalArithmetic

variable {rt : Runtime Decimal} {context : FeatureContext Decimal}
  {source : CandidateSourceData Decimal} {features : CandidateFeatures Decimal}

/-! ### Features that were calculated -/

/-- What the payload relies on. -/
structure Computed (features : CandidateFeatures Decimal) : Prop where
  ticker : isCanonicalTicker features.ticker = true
  low : value features.premarketLow.1 ≤ value features.currentPrice.1
  gap : SixPlaces features.gapPct
  rvol : SixPlaces features.rvolTimeMatched.1
  atr : SixPlaces features.atrValue.1
  vwapDistance : SixPlaces features.distanceFromVwapAtr
  age : SixPlaces features.catalystAgeHours.1
  resistance : PairedDistance features.resistance

theorem calculateCandidate_computed (h : calculateCandidate rt context source = .ok features) :
    Computed features := by
  obtain ⟨trades, hCalculated⟩ := calculateCandidate_calculated h
  exact {
    ticker := hCalculated.ticker ▸ source.canonical
    low := low_le_price hCalculated.low hCalculated.price
    gap := gapPct_sixPlaces hCalculated.gap
    rvol := (rvolTimeMatched_eq_ok hCalculated.rvol).2
    atr := wilderAtr14_sixPlaces hCalculated.atr
    vwapDistance := distanceFromVwapAtr_sixPlaces hCalculated.distance
    age := (selectCatalyst_eq_ok hCalculated.catalyst).2.2
    resistance := dailyPivotClusterV1_paired hCalculated.resistance }

/-! ### One ticker of the payload -/

theorem finiteFloat_eq_ok {x : Decimal} {f : PyFloat} :
    finiteFloat rt x = .ok f ↔ toDouble (value x) = some f.value ∧ f.repr = rt.floatRepr f.value := by
  unfold finiteFloat
  cases toDouble (value x) with
  | none => simp
  | some r =>
    obtain ⟨v, text⟩ := f
    simp only [Except.ok.injEq, PyFloat.mk.injEq, Option.some.injEq]
    constructor
    · rintro ⟨rfl, rfl⟩
      exact ⟨rfl, rfl⟩
    · rintro ⟨rfl, rfl⟩
      exact ⟨rfl, rfl⟩

theorem finiteFloat_of_toDouble {x : Decimal} {r : ℚ} (h : toDouble (value x) = some r) :
    finiteFloat rt x = .ok ⟨r, rt.floatRepr r⟩ :=
  finiteFloat_eq_ok.mpr ⟨h, rfl⟩

/-- The text is short enough, and numbers that may be large or small are finite as doubles
and keep their signs. -/
structure FitsInput (features : CandidateFeatures Decimal) : Prop where
  text : features.catalyst.catalystText.length ≤ 4000
  price : ∃ r, toDouble (value features.currentPrice.1) = some r ∧ 0 < r
  low : ∃ r, toDouble (value features.premarketLow.1) = some r ∧ 0 < r
  distance : ∃ r, toDouble (value features.resistance.distanceToResistanceAtr) = some r ∧ 0 ≤ r

theorem fitsInput_of_tickerInput {entry : TickerInput} (h : tickerInput rt features = .ok entry) :
    FitsInput features := by
  simp only [tickerInput, model, Result.bind_eq_ok, validated_eq_ok] at h
  obtain ⟨_, -, _, ⟨rfl, hNews⟩, _, -, _, -, _, -, distance, hDistance, _, -, price, hPrice, _, -,
    low, hLow, _, ⟨rfl, hTechnical⟩, -⟩ := h
  exact {
    text := hNews.1.1.2
    price := ⟨_, (finiteFloat_eq_ok.mp hPrice).1, hTechnical.1.2.1⟩
    low := ⟨_, (finiteFloat_eq_ok.mp hLow).1, hTechnical.1.2.2.2⟩
    distance := ⟨_, (finiteFloat_eq_ok.mp hDistance).1, hTechnical.1.1⟩ }

/-- The distance stays on the side of its structure as a double. -/
theorem PairedDistance.rounded {audit : ResistanceAudit Decimal} (h : PairedDistance audit) :
    (audit.chartStructure = .cleanShortTerm →
      2 < roundDouble (value audit.distanceToResistanceAtr)) ∧
    (audit.chartStructure = .moderateRoom →
      1 ≤ roundDouble (value audit.distanceToResistanceAtr) ∧
      roundDouble (value audit.distanceToResistanceAtr) ≤ 2) := by
  have hOne : roundDouble 1 = 1 := by simpa using roundDouble_zpow (k := 0) (by norm_num)
  have hTwo : roundDouble 2 = 2 := by simpa using roundDouble_zpow (k := 1) (by norm_num)
  rcases h with hSky | ⟨hSix, hStructure⟩
  · rw [hSky]
    exact ⟨nofun, nofun⟩
  · rw [hStructure]
    unfold structureOf
    norm_num only [value_literal]
    split_ifs with hClean hRoom
    · exact ⟨fun _ => hSix.two_lt_roundDouble hClean, nofun⟩
    · refine ⟨nofun, fun _ => ⟨le_roundDouble one_pos hOne hRoom, ?_⟩⟩
      exact roundDouble_le (one_pos.trans_le hRoom) hTwo (not_lt.mp hClean)
    · exact ⟨nofun, nofun⟩

theorem exists_tickerInput (hComputed : Computed features)
    (hFlags : features.catalyst.disqualifierFlags = []) (h : FitsInput features) :
    ∃ entry, tickerInput rt features = .ok entry := by
  obtain ⟨price, hPrice, hPricePos⟩ := h.price
  obtain ⟨low, hLow, hLowPos⟩ := h.low
  obtain ⟨distance, hDistance, hDistanceNonneg⟩ := h.distance
  have hStructure := hComputed.resistance.rounded
  rw [← (toDouble_eq_some.mp hDistance).1] at hStructure
  have hOrder : low ≤ price := by
    rw [(toDouble_eq_some.mp hLow).1, (toDouble_eq_some.mp hPrice).1]
    exact roundDouble_mono features.premarketLow.2 hComputed.low
  simp only [tickerInput, model, Result.bind_eq_ok, validated_eq_ok]
  refine ⟨_, _, finiteFloat_of_toDouble hComputed.age.toDouble, _, ⟨rfl, ?news⟩,
    _, finiteFloat_of_toDouble hComputed.gap.toDouble,
    _, finiteFloat_of_toDouble hComputed.rvol.toDouble, _, ⟨rfl, ?liquidity⟩,
    _, finiteFloat_of_toDouble hDistance,
    _, finiteFloat_of_toDouble hComputed.vwapDistance.toDouble,
    _, finiteFloat_of_toDouble hPrice,
    _, finiteFloat_of_toDouble hComputed.atr.toDouble,
    _, finiteFloat_of_toDouble hLow, _, ⟨rfl, ?technical⟩,
    rfl, hComputed.ticker, ?news, ?liquidity, ?technical⟩
  case news =>
    refine ⟨⟨⟨features.catalyst.text_length, h.text⟩, features.catalyst.name_length,
      roundDouble_nonneg features.catalystAgeHours.2, ?_⟩, ?_⟩
    · simp [hFlags]
    · simp [hFlags]
  case liquidity => exact ⟨roundDouble_nonneg features.rvolTimeMatched.2, features.floatShares.pos⟩
  case technical =>
    exact ⟨⟨hDistanceNonneg, hPricePos, hComputed.atr.roundDouble_pos features.atrValue.2, hLowPos⟩,
      hStructure.1, hStructure.2, hOrder⟩

/-! ### The payload -/

theorem tickerInput_valid {entry : TickerInput} (h : tickerInput rt features = .ok entry) :
    entry.Valid := by
  simp only [tickerInput, model, Result.bind_eq_ok, validated_eq_ok] at h
  obtain ⟨_, -, _, -, _, -, _, -, _, -, _, -, _, -, _, -, _, -, _, -, _, -, rfl, hValid⟩ := h
  exact hValid

/-- A threshold that is a positive number as a double. -/
def FiniteThreshold (context : FeatureContext Decimal) : Prop :=
  ∃ r, toDouble (value context.catalystFreshnessThresholdHours.1) = some r ∧ 0 < r

theorem payloadAge_nonneg (context : FeatureContext Decimal) :
    0 ≤ truncate (elapsedSeconds context.evaluationTimestamp context.payloadTimestamp) := by
  have hElapsed : (0 : ℚ) ≤
      ((context.evaluationTimestamp - context.payloadTimestamp : ℤ) : ℚ) / 1000000 :=
    div_nonneg (by exact_mod_cast sub_nonneg.mpr context.ordered) (by norm_num)
  have hSeconds : 0 ≤ elapsedSeconds context.evaluationTimestamp context.payloadTimestamp := by
    exact_mod_cast natCast_le_binary64 (Nat.zero_le _) (by exact_mod_cast hElapsed)
  unfold truncate
  rw [if_pos hSeconds]
  exact Int.floor_nonneg.mpr hSeconds

theorem exists_payloadOf_iff {selected : List (CandidateFeatures Decimal)}
    (hComputed : ∀ features ∈ selected, Computed features)
    (hFlags : ∀ features ∈ selected, features.catalyst.disqualifierFlags = [])
    (hLength : selected.length ≤ 25) (hNodup : (selected.map (·.ticker)).Nodup) :
    (∃ payload, payloadOf rt context selected = .ok payload) ↔
      FiniteThreshold context ∧ ∀ features ∈ selected, FitsInput features := by
  constructor
  · rintro ⟨payload, h⟩
    simp only [payloadOf, Result.bind_eq_ok] at h
    obtain ⟨threshold, hThreshold, tickers, hTickers, _, -, h⟩ := h
    unfold daybreakInput at h
    split_ifs at h with hValid
    refine ⟨⟨_, (finiteFloat_eq_ok.mp hThreshold).1, hValid.1.1⟩, fun features hFeatures => ?_⟩
    obtain ⟨entry, -, hEntry⟩ := mapM_ok_of_mem hTickers hFeatures
    exact fitsInput_of_tickerInput hEntry
  · rintro ⟨⟨threshold, hThreshold, hPositive⟩, hFits⟩
    have hEntries : ∀ features ∈ selected, ∃ entry, tickerInput rt features = .ok entry :=
      fun features hFeatures => exists_tickerInput (hComputed features hFeatures)
        (hFlags features hFeatures) (hFits features hFeatures)
    obtain ⟨tickers, hTickers⟩ := exists_mapM_iff.mpr hEntries
    have hSame := map_eq_of_mapM hTickers fun _ _ hEntry => tickerInput_ticker hEntry
    simp only [payloadOf, Result.bind_eq_ok]
    refine ⟨_, _, finiteFloat_of_toDouble hThreshold, tickers, hTickers, (),
      ensure_eq_ok.mpr (payloadAge_nonneg context), dif_pos ?_⟩
    refine ⟨⟨hPositive, ?_, fun entry hEntry => ?_⟩, ?_⟩
    · have hCount := congrArg List.length hSame
      simp only [List.length_map] at hCount
      exact hCount.trans_le hLength
    · obtain ⟨features, -, hEntry⟩ := mapM_ok_mem hTickers hEntry
      exact tickerInput_valid hEntry
    · exact hSame ▸ hNodup

end Daybreak.Features
