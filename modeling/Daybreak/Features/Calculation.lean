import Daybreak.Features.Windows

/-! The calculation of a candidate, stage by stage: which of its exceptions are caught,
and what the numbers that it returns look like. -/

namespace Daybreak.Features

open Contracts Daybreak.Order Effect Fallible Numeric DecimalArithmetic

variable {D : Type} [DecimalArithmetic D] {rt : Runtime Decimal} {context : FeatureContext Decimal}
  {source : CandidateSourceData Decimal}

/-! ### Numbers that were quantized -/

theorem arith_eq_ok {α : Type} {x : Except DecimalSignal α} {a : α} :
    arith x = .ok a ↔ x = .ok a := by
  cases x <;> simp [arith, raising, signals, Except.mapError]

/-- A number of six decimal places, within the digits of the context. -/
def SixPlaces (x : Decimal) : Prop := Multiple ((10 : ℚ) ^ (-6 : ℤ)) (value x) ∧ |value x| < 10 ^ 22

theorem sixPlaces_of_quantize {x r : Decimal} (h : Decimal.quantize .halfEven (-6) x = .ok r) :
    SixPlaces r := by
  refine ⟨Decimal.multiple_quantize h, (Decimal.abs_quantize_lt h).trans_eq ?_⟩
  norm_num [Decimal.prec]

theorem quantizeSix_sixPlaces {x r : Decimal} (h : quantizeSix x = .ok r) : SixPlaces r :=
  sixPlaces_of_quantize (arith_eq_ok.mp h)

theorem quantizeSix_nonneg {x r : Decimal} (hx : 0 ≤ value x) (h : quantizeSix x = .ok r) :
    0 ≤ value r := Decimal.quantize_nonneg hx (arith_eq_ok.mp h)

theorem SixPlaces.toDouble {x : Decimal} (h : SixPlaces x) :
    toDouble (value x) = some (roundDouble (value x)) :=
  toDouble_of_abs_le (h.2.le.trans (by norm_num))

/-- Six places separate a number from a whole number. -/
theorem SixPlaces.add_le {x : Decimal} (h : SixPlaces x) {n : ℤ} (hn : n < value x) :
    n + (10 : ℚ) ^ (-6 : ℤ) ≤ value x := by
  obtain ⟨k, hk⟩ := h.1
  have hMillion : (10 : ℚ) ^ (-6 : ℤ) = 1 / 1000000 := by norm_num
  rw [hk, hMillion] at hn ⊢
  have hLess : n * 1000000 < k := by
    have hScaled : (n * 1000000 : ℚ) < k := by linarith
    exact_mod_cast hScaled
  have hNext : ((n * 1000000 + 1 : ℤ) : ℚ) ≤ k := Int.cast_le.mpr hLess
  push_cast at hNext
  linarith

/-- What is positive and of six places is positive as a double. -/
theorem SixPlaces.roundDouble_pos {x : Decimal} (h : SixPlaces x) (hx : 0 < value x) :
    0 < roundDouble (value x) := by
  have hSmall : (2 : ℚ) ^ (-20 : ℤ) ≤ value x := by
    have hStep := h.add_le (n := 0) (by exact_mod_cast hx)
    refine le_trans ?_ hStep
    norm_num
  have hPower : (0 : ℚ) < 2 ^ (-20 : ℤ) := zpow_pos (by norm_num) _
  exact hPower.trans_le (le_roundDouble hPower (roundDouble_zpow (by norm_num)) hSmall)

/-- What is above two and of six places is above two as a double. -/
theorem SixPlaces.two_lt_roundDouble {x : Decimal} (h : SixPlaces x) (hx : 2 < value x) :
    2 < roundDouble (value x) := by
  let m : ℚ := 2 + 2 ^ (-20 : ℤ)
  have hm : (2 : ℚ) < m ∧ m < 2 ^ (2 : ℤ) := by norm_num [m]
  have hPositive : 0 < m := by linarith [hm.1]
  have hLog : Int.log 2 m = 1 := by
    have hLow : (1 : ℤ) ≤ Int.log 2 m :=
      (Int.zpow_le_iff_le_log (by norm_num) hPositive).mp (by exact_mod_cast hm.1.le)
    have hHigh : Int.log 2 m < 2 :=
      (Int.lt_zpow_iff_log_lt (by norm_num) hPositive).mp (by exact_mod_cast hm.2)
    omega
  have hDouble : roundDouble m = m := by
    refine roundDouble_of_multiple ⟨2 ^ 52 + 2 ^ 31, ?_⟩
    rw [doubleQuantum, abs_of_pos hPositive, hLog]
    norm_num [m]
  have hAbove : m ≤ value x := by
    have hStep := h.add_le (n := 2) (by exact_mod_cast hx)
    refine le_trans ?_ hStep
    norm_num [m]
  exact hm.1.trans_le (le_roundDouble hPositive hDouble hAbove)

/-! ### What a stage returns -/

theorem low_le_price {trades : List (MaterializedTrade D)}
    {low price : PositiveDecimal D} (hLow : premarketLow trades = .ok low)
    (hPrice : currentPrice trades = .ok price) : value low.1 ≤ value price.1 := by
  unfold premarketLow at hLow
  unfold currentPrice at hPrice
  split at hLow
  · cases hLow
  · next lowest hLowest =>
    obtain rfl := Except.ok.inj hLow
    split at hPrice
    · cases hPrice
    · next last hLast =>
      obtain rfl := Except.ok.inj hPrice
      have hMem := List.mem_map_of_mem (f := (·.price)) (List.mem_of_getLast? hLast)
      exact List.le_of_mem_argmin (f := fun price : PositiveDecimal D => value price.1) hMem hLowest

theorem gapPct_sixPlaces {price previousClose gap : Decimal}
    (h : gapPct price previousClose = .ok gap) : SixPlaces gap := by
  obtain ⟨-, h⟩ := guard_eq_ok.mp h
  obtain ⟨_, -, h⟩ := bind_eq_ok.mp h
  exact quantizeSix_sixPlaces h

theorem wilderAtr14_sixPlaces {bars : List (DailyBar Decimal)} {atr : Decimal}
    (h : wilderAtr14 bars = .ok atr) : SixPlaces atr := by
  obtain ⟨-, h⟩ := guard_eq_ok.mp h
  obtain ⟨_, -, h⟩ := bind_eq_ok.mp h
  obtain ⟨_, -, h⟩ := bind_eq_ok.mp h
  exact quantizeSix_sixPlaces (guard_eq_ok.mp h).2

theorem rvolTimeMatched_eq_ok {zone : TimeZone} {volume : ℕ}
    {sessions : List (PremarketSession Decimal)} {snapshot : Timestamp}
    {config : FeatureEngineConfig Decimal} {rvol : Decimal}
    (h : rvolTimeMatched zone volume sessions snapshot config = .ok rvol) :
    0 ≤ value rvol ∧ SixPlaces rvol := by
  obtain ⟨-, h⟩ := guard_eq_ok.mp h
  obtain ⟨volumes, -, h⟩ := bind_eq_ok.mp h
  obtain ⟨average, -, h⟩ := bind_eq_ok.mp h
  obtain ⟨hAverage, h⟩ := guard_eq_ok.mp h
  obtain ⟨quotient, hQuotient, h⟩ := bind_eq_ok.mp h
  have hVolume : (0 : ℚ) ≤ value (ofInt volume : Decimal) := by
    rw [value_ofInt]
    exact_mod_cast Nat.zero_le volume
  have hNonneg := Decimal.div_nonneg hVolume (not_le.mp hAverage) (arith_eq_ok.mp hQuotient)
  exact ⟨quantizeSix_nonneg hNonneg h, quantizeSix_sixPlaces h⟩

theorem distanceFromVwapAtr_sixPlaces {price vwap atr distance : Decimal}
    (h : distanceFromVwapAtr price vwap atr = .ok distance) : SixPlaces distance := by
  obtain ⟨-, h⟩ := guard_eq_ok.mp h
  obtain ⟨_, -, h⟩ := bind_eq_ok.mp h
  exact quantizeSix_sixPlaces h

theorem selectCatalyst_eq_ok {ofFloat : ℚ → Decimal} {records : List CatalystRecord}
    {ticker : String} {snapshot : Timestamp} {catalyst : CatalystRecord} {age : Decimal}
    (h : selectCatalyst ofFloat records ticker snapshot = .ok (catalyst, age)) :
    catalyst ∈ records ∧ 0 ≤ value age ∧ SixPlaces age := by
  unfold selectCatalyst at h
  simp only at h
  split at h
  · cases h
  next selected hSelected =>
  obtain ⟨hFuture, h⟩ := guard_eq_ok.mp h
  obtain ⟨hours, hHours, h⟩ := bind_eq_ok.mp h
  obtain ⟨rounded, hRounded, h⟩ := bind_eq_ok.mp h
  obtain ⟨rfl, rfl⟩ := Prod.mk.inj (Except.ok.inj h)
  have hMem := List.mem_of_mem_filter (mem_sortedBy.mp (List.mem_of_mem_head? hSelected))
  have hSeconds : (0 : ℚ) < value (ofInt 3600 : Decimal) := by
    rw [value_ofInt]
    norm_num
  have hNonneg := Decimal.div_nonneg (not_lt.mp hFuture) hSeconds (arith_eq_ok.mp hHours)
  exact ⟨hMem, quantizeSix_nonneg hNonneg hRounded, quantizeSix_sixPlaces hRounded⟩

/-- A distance is one of six places with the structure that it stands for, or the sentinel
of a blue sky. -/
def PairedDistance (audit : ResistanceAudit Decimal) : Prop :=
  audit.chartStructure = .blueSky ∨ SixPlaces audit.distanceToResistanceAtr ∧
    audit.chartStructure = structureOf audit.distanceToResistanceAtr

theorem dailyPivotClusterV1_paired {bars : List (DailyBar Decimal)} {price atr : Decimal}
    {complete : Bool} {config : FeatureEngineConfig Decimal} {audit : ResistanceAudit Decimal}
    (h : dailyPivotClusterV1 bars price atr complete config = .ok audit) :
    PairedDistance audit := by
  obtain ⟨-, h⟩ := guard_eq_ok.mp h
  obtain ⟨-, h⟩ := guard_eq_ok.mp h
  obtain ⟨_, -, h⟩ := bind_eq_ok.mp h
  obtain ⟨_, -, h⟩ := bind_eq_ok.mp h
  obtain ⟨⟨_, _⟩, -, h⟩ := bind_eq_ok.mp h
  obtain ⟨_, -, h⟩ := bind_eq_ok.mp h
  obtain ⟨_, -, h⟩ := bind_eq_ok.mp h
  obtain ⟨nearest, -, h⟩ := bind_eq_ok.mp h
  cases nearest with
  | none =>
    obtain rfl := Except.ok.inj (guard_eq_ok.mp h).2
    exact .inl rfl
  | some found =>
    obtain ⟨distance, hDistance, h⟩ := bind_eq_ok.mp h
    obtain rfl := Except.ok.inj h
    exact .inr ⟨sixPlaces_of_quantize (arith_eq_ok.mp hDistance), rfl⟩

/-- No resistance is computed from an average true range that was rounded to zero. -/
theorem atr_pos {bars : List (DailyBar D)} {price atr : D} {complete : Bool}
    {config : FeatureEngineConfig D} {audit : ResistanceAudit D}
    (h : dailyPivotClusterV1 bars price atr complete config = .ok audit) : 0 < value atr := by
  obtain ⟨-, h⟩ := guard_eq_ok.mp h
  obtain ⟨hAtr, -⟩ := guard_eq_ok.mp h
  exact not_le.mp hAtr

/-! ### Fields -/

theorem positive_caught_iff {x : D} : Caught (positive x) ↔ 0 < value x := by
  unfold positive
  split_ifs with h
  · exact iff_of_true raisesOnly_ok h
  · exact iff_of_false (fun hCaught => hCaught _ rfl) h

theorem nonNegative_caught_iff {x : D} : Caught (nonNegative x) ↔ 0 ≤ value x := by
  unfold nonNegative
  split_ifs with h
  · exact iff_of_true raisesOnly_ok h
  · exact iff_of_false (fun hCaught => hCaught _ rfl) h

theorem selectFloatRecord_mem {records : List FloatRecord} {ticker : String} {snapshot : Timestamp}
    {config : FeatureEngineConfig D} {record : FloatRecord}
    (h : selectFloatRecord records ticker snapshot config = .ok record) : record ∈ records := by
  unfold selectFloatRecord at h
  simp only at h
  split at h
  · cases h
  · next found hFound =>
    obtain rfl := Except.ok.inj h
    exact List.mem_of_mem_filter (List.argmax_mem hFound)

/-- What the hash of a candidate covers is a part of what the context covers. -/
theorem material_subset {context : FeatureContext D} {source : CandidateSourceData D}
    (hSource : source ∈ context.candidates) {m : SourceMaterial D}
    (hEvents : m.events = source.currentSessionEvents)
    (hSessions : m.historicalSessions = source.historicalPremarketSessions)
    (hBars : m.dailyBars = source.dailyBars) (hRecord : m.floatRecord ∈ source.floatRecords)
    (hConfig : m.config = context.config) : m.numbers ⊆ context.numbers := by
  have hNumbers : m.events.flatMap (·.numbers) ++ m.historicalSessions.flatMap (·.numbers) ++
      m.dailyBars.flatMap (·.numbers) ++ [(m.floatRecord.floatShares : ℚ)] ⊆ source.numbers := by
    rw [hEvents, hSessions, hBars]
    intro x hx
    simp only [CandidateSourceData.numbers, List.mem_append, List.mem_cons, List.mem_map,
      List.not_mem_nil, or_false] at hx ⊢
    rcases hx with ((hx | hx) | hx) | rfl
    · exact .inl (.inl (.inl (.inr hx)))
    · exact .inl (.inl (.inr hx))
    · exact .inl (.inr hx)
    · exact .inr ⟨_, hRecord, rfl⟩
  intro x hx
  rw [SourceMaterial.numbers, hConfig, ← List.singleton_append, ← List.append_assoc] at hx
  rw [FeatureContext.numbers]
  rcases List.mem_append.mp hx with hx | hx
  · refine List.mem_append_left _ (List.mem_cons_of_mem _ ?_)
    exact List.mem_flatMap.mpr ⟨source, hSource, hNumbers hx⟩
  · exact List.mem_append_right _ hx


/-! ### Stages -/

/-- As far as the calculation gets, times can be converted, no decimal operation signals
and the volume-weighted price is not rounded to zero. -/
def Calculable (rt : Runtime Decimal) (context : FeatureContext Decimal)
    (source : CandidateSourceData Decimal) : Prop :=
  let snapshot := context.payloadTimestamp
  let config := context.config
  (∀ trades, materializeTrades source.currentSessionEvents = .ok trades →
    ∀ trade ∈ trades, Windowed rt.zone snapshot config trade) ∧
  ∀ trades, currentSessionTrades rt.zone source.currentSessionEvents snapshot config = .ok trades →
  ∀ price, currentPrice trades = .ok price → ∀ low, premarketLow trades = .ok low →
    ¬ Signals (wilderAtr14 source.dailyBars) ∧
  ∀ atr, wilderAtr14 source.dailyBars = .ok atr →
    ¬ Signals (premarketVwap trades) ∧
  ∀ vwap, premarketVwap trades = .ok vwap →
    (SessionsConvertible rt.zone snapshot config source.historicalPremarketSessions ∧
      ¬ Signals (rvolTimeMatched rt.zone (premarketVolume trades)
        source.historicalPremarketSessions snapshot config)) ∧
  ∀ rvol, rvolTimeMatched rt.zone (premarketVolume trades) source.historicalPremarketSessions
    snapshot config = .ok rvol →
  ∀ profile, volumeProfile rt.zone trades snapshot config = .ok profile →
    ¬ Signals (dailyPivotClusterV1 source.dailyBars price.1 atr source.historyCompleteSinceListing
      config) ∧
  ∀ resistance, dailyPivotClusterV1 source.dailyBars price.1 atr source.historyCompleteSinceListing
    config = .ok resistance →
  ∀ record, selectFloatRecord source.floatRecords source.ticker snapshot config = .ok record →
    ¬ Signals (selectCatalyst rt.ofFloat source.catalysts source.ticker snapshot) ∧
  ∀ selected, selectCatalyst rt.ofFloat source.catalysts source.ticker snapshot = .ok selected →
    ¬ Signals (gapPct price.1 source.previousRegularClose.1) ∧
  ∀ gap, gapPct price.1 source.previousRegularClose.1 = .ok gap →
    ¬ Signals (distanceFromVwapAtr price.1 vwap atr) ∧
  ∀ distance, distanceFromVwapAtr price.1 vwap atr = .ok distance → 0 < value vwap

theorem calculateCandidate_caught_iff (hSource : source ∈ context.candidates)
    (hWritable : ∀ x ∈ context.numbers, Writable x) :
    Caught (calculateCandidate rt context source) ↔ Calculable rt context source := by
  unfold calculateCandidate Calculable
  rw [caught_bind, currentSessionTrades_caught_iff]
  refine and_congr_right fun _ => forall₂_congr fun trades hTrades => ?_
  rw [caught_bind, and_iff_right (currentPrice_caught trades)]
  refine forall₂_congr fun price hPrice => ?_
  have hNonempty := currentPrice_ne_nil hPrice
  obtain ⟨first, hFirst⟩ := List.exists_mem_of_ne_nil trades hNonempty
  have hInside : ∀ trade ∈ trades, Inside rt.zone context.payloadTimestamp context.config trade :=
    fun _ hTrade => inside_of_mem hTrades hTrade
  rw [caught_bind, and_iff_right (premarketLow_caught trades)]
  refine forall₂_congr fun low _ => ?_
  rw [caught_bind, caught_iff_not_signals (wilderAtr14_raises _)]
  refine and_congr_right fun _ => forall₂_congr fun atr _ => ?_
  rw [caught_bind, caught_iff_not_signals (premarketVwap_raises trades)]
  refine and_congr_right fun _ => forall₂_congr fun vwap _ => ?_
  rw [caught_bind, rvolTimeMatched_caught_iff (hInside first hFirst)]
  refine and_congr_right fun _ => forall₂_congr fun rvol hRvol => ?_
  rw [caught_bind, and_iff_right (volumeProfile_caught hNonempty hInside)]
  refine forall₂_congr fun profile _ => ?_
  rw [caught_bind, caught_iff_not_signals (dailyPivotClusterV1_raises _ _ _ _ _)]
  refine and_congr_right fun _ => forall₂_congr fun resistance hResistance => ?_
  rw [caught_bind, and_iff_right (selectFloatRecord_caught _ _ _ _)]
  refine forall₂_congr fun record hRecord => ?_
  rw [caught_bind, caught_iff_not_signals (selectCatalyst_raises _ _ _ _)]
  refine and_congr_right fun _ => forall₂_congr fun selected hSelected => ?_
  obtain ⟨catalyst, age⟩ := selected
  rw [caught_bind, caught_iff_not_signals (gapPct_raises _ _)]
  refine and_congr_right fun _ => forall₂_congr fun gap _ => ?_
  rw [caught_bind, caught_iff_not_signals (distanceFromVwapAtr_raises _ _ _)]
  refine and_congr_right fun _ => forall₂_congr fun distance _ => ?_
  -- the numbers of the hash are those of the context, and one field alone may be refused
  rw [raising_eq_ok.mpr (canonicalSha256_eq_ok.mpr ⟨rfl, fun x hx => hWritable x
    (material_subset hSource rfl rfl rfl (selectFloatRecord_mem hRecord) rfl hx)⟩), ok_bind,
    nonNegative, dif_pos (rvolTimeMatched_eq_ok hRvol).1, ok_bind, positive,
    dif_pos (atr_pos hResistance), ok_bind, caught_bind, positive_caught_iff]
  refine and_iff_left fun _ _ => .bind ?_ fun _ _ => raisesOnly_pure
  exact nonNegative_caught_iff.mpr (selectCatalyst_eq_ok hSelected).2.1

end Daybreak.Features
