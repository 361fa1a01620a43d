import Daybreak.Features.CoreFeatures
import Daybreak.Scanner.Models

/-! The mechanical signals of the qualifying candidates. A candidate without an average
true range is left out, one whose range is as large as its price, or whose targets pass the
digits of a price, makes the construction raise for all of them. -/

namespace Daybreak.Scanner

open Contracts Daybreak.Order Effect.Fallible Features Numeric

/-! ### The average true range -/

def atrPeriod : ℕ := 14

/-- The true range of every bar after the first. -/
def trueRanges (ordered : List (DailyBar Decimal)) : List Decimal :=
  ordered.zipWith (fun previous current => trueRange current previous.close.1) ordered.tail

/-- The average of the first ranges, which each later range then moves. -/
def smoothed (ranges : List Decimal) : Result Decimal := do
  let initial ← signals
    (Decimal.div (total (ranges.take atrPeriod)) (.ofInt atrPeriod))
  (ranges.drop atrPeriod).foldlM (fun atr range => signals
    (Decimal.div ((atr.mul (.ofInt (atrPeriod - 1))).add range) (.ofInt atrPeriod))) initial

/-- `wilder_atr` -/
def wilderAtr (bars : List (DailyBar Decimal)) : Result (Option Decimal) := do
  let ordered := sortedBy (·.sessionDate) bars
  if ordered.length < atrPeriod + 1 then return none
  let atr ← smoothed (trueRanges ordered)
  let quantized ← signals (Decimal.quantize .halfEven (-6) atr)
  return some quantized

/-! ### Signals -/

abbrev Bars := String → Option (List (DailyBar Decimal))

/-- `Signal(...)`, which validates its prices. -/
def validated (candidate : CandidateQualification) (tradingDate : Day) (generatedAt : Timestamp)
    (trend : Option Decimal) (atr stop target1 target2 : Decimal) : Result Signal := do
  return {
    ticker := candidate.ticker
    tradingDate := tradingDate
    generatedAt := generatedAt
    entryPrice := ← money candidate.price.1
    atrValue := ← money atr
    stopPrice := ← money stop
    targetPrice1 := ← money target1
    targetPrice2 := ← money target2
    percentChange := candidate.percentChange
    relativeVolume := candidate.relativeVolume
    forecastTrendPct := trend
    canonical := candidate.canonical }

/-- A round of the loop: the signal of a candidate, if it has one. -/
def signalFor (bars : Bars) (tradingDate : Day) (generatedAt : Timestamp)
    (trend : String → Option Decimal) (candidate : CandidateQualification) :
    Result (Option Signal) := do
  if candidate.qualifies = false then return none
  match ← wilderAtr ((bars candidate.ticker).getD []) with
  | none => return none
  | some atr =>
    if atr.toRat ≤ 0 then return none
    let entryPrice := candidate.price.1
    let signal ← validated candidate tradingDate generatedAt (trend candidate.ticker) atr
      (entryPrice.sub atr) (entryPrice.add (atr.mul (.ofInt 2))) (entryPrice.add (atr.mul (.ofInt 3)))
    return some signal

/-- `build_signals` -/
def buildSignals (candidates : List CandidateQualification) (bars : Bars) (tradingDate : Day)
    (generatedAt : Timestamp) (trend : String → Option Decimal) : Result (List Signal) :=
  candidates.filterMapM (signalFor bars tradingDate generatedAt trend)

/-! ### The value of the average -/

/-- The true range of a bar after another, as the context rounds it. -/
def rangeOf (previous current : DailyBar Decimal) : ℚ :=
  max (max (Decimal.round (current.high.1.toRat - current.low.1.toRat))
      (Decimal.round |Decimal.round (current.high.1.toRat - previous.close.1.toRat)|))
    (Decimal.round |Decimal.round (current.low.1.toRat - previous.close.1.toRat)|)

def roundedSum (sum : ℚ) (xs : List ℚ) : ℚ := xs.foldl (fun sum x => Decimal.round (sum + x)) sum

def smooth (atr range : ℚ) : ℚ :=
  Decimal.round (Decimal.round (Decimal.round (atr * (atrPeriod - 1 : ℕ)) + range) / atrPeriod)

/-- Wilder's average of the ranges, as the context rounds it. -/
def averageOf (ranges : List ℚ) : ℚ :=
  (ranges.drop atrPeriod).foldl smooth
    (Decimal.round (roundedSum 0 (ranges.take atrPeriod) / atrPeriod))

/-- The average true range of some bars, rounded to the six decimals of a price. -/
def atrOf (bars : List (DailyBar Decimal)) : Option ℚ :=
  let ordered := sortedBy (·.sessionDate) bars
  if ordered.length < atrPeriod + 1 then none
  else some (roundTo .halfEven (10 ^ (-6 : ℤ))
    (averageOf (ordered.zipWith rangeOf ordered.tail)))

theorem toRat_trueRange (previous current : DailyBar Decimal) :
    (trueRange current previous.close.1).toRat = rangeOf previous current := by
  have hMax (a b : Decimal) : (DecimalArithmetic.pyMax a b).toRat = max a.toRat b.toRat :=
    DecimalArithmetic.value_pyMax a b
  have hSub (a b : Decimal) : (DecimalArithmetic.sub a b).toRat =
      Decimal.round (a.toRat - b.toRat) := Decimal.toRat_sub_eq a b
  have hAbs (a : Decimal) : (DecimalArithmetic.abs a).toRat = Decimal.round |a.toRat| :=
    Decimal.toRat_abs_eq a
  rw [trueRange, hMax, hMax, hAbs, hAbs, hSub, hSub, hSub, rangeOf]

theorem map_trueRanges (ordered : List (DailyBar Decimal)) :
    (trueRanges ordered).map Decimal.toRat = ordered.zipWith rangeOf ordered.tail := by
  rw [trueRanges, List.map_zipWith]
  simp only [toRat_trueRange]

theorem toRat_foldl_add (sum : Decimal) (xs : List Decimal) :
    (xs.foldl Decimal.add sum).toRat = roundedSum sum.toRat (xs.map Decimal.toRat) := by
  induction xs generalizing sum with
  | nil => rfl
  | cons x xs ih =>
    rw [List.foldl_cons, ih, Decimal.toRat_add_eq]
    rfl

theorem exists_div_count (a : Decimal) {n : ℕ} (h : n ≠ 0) :
    ∃ r, signals (Decimal.div a (.ofInt n)) = .ok r ∧ r.toRat = Decimal.round (a.toRat / n) := by
  obtain ⟨r, hr, hValue⟩ := Decimal.exists_div_ofInt a (Int.natCast_ne_zero.mpr h)
  exact ⟨r, by rw [hr]; rfl, hValue⟩

theorem exists_smoothed (ranges : List Decimal) :
    ∃ atr, smoothed ranges = .ok atr ∧ atr.toRat = averageOf (ranges.map Decimal.toRat) := by
  have hPeriod : atrPeriod ≠ 0 := by decide
  have hFold (later : List Decimal) (atr : Decimal) : ∃ atr', later.foldlM (fun atr range => signals
      (Decimal.div ((atr.mul (.ofInt (atrPeriod - 1))).add range) (.ofInt atrPeriod))) atr =
        .ok atr' ∧ atr'.toRat = (later.map Decimal.toRat).foldl smooth atr.toRat := by
    induction later generalizing atr with
    | nil => exact ⟨atr, rfl, rfl⟩
    | cons range later ih =>
      obtain ⟨next, hNext, hValue⟩ :=
        exists_div_count ((atr.mul (.ofInt (atrPeriod - 1))).add range) hPeriod
      obtain ⟨last, hLast, hLastValue⟩ := ih next
      refine ⟨last, by rw [List.foldlM_cons, hNext, ok_bind, hLast], ?_⟩
      rw [hLastValue, hValue, Decimal.toRat_add_eq, Decimal.toRat_mul_eq, Decimal.toRat_ofInt]
      rfl
  obtain ⟨initial, hInitial, hValue⟩ :=
    exists_div_count (total (ranges.take atrPeriod)) hPeriod
  obtain ⟨atr, hAtr, hAtrValue⟩ := hFold (ranges.drop atrPeriod) initial
  refine ⟨atr, by rw [smoothed, hInitial, ok_bind, hAtr], ?_⟩
  have hTotal : (total (ranges.take atrPeriod)).toRat =
      roundedSum 0 ((ranges.take atrPeriod).map Decimal.toRat) := by
    refine (toRat_foldl_add (.ofInt 0) _).trans ?_
    rw [Decimal.toRat_ofInt, Int.cast_zero]
  rw [hAtrValue, hValue, hTotal, averageOf, List.map_drop, List.map_take]

theorem round_nonneg {x : ℚ} (h : 0 ≤ x) : 0 ≤ Decimal.round x := by
  rw [← Decimal.round_zero]
  exact Decimal.round_mono h

theorem rangeOf_nonneg (previous current : DailyBar Decimal) : 0 ≤ rangeOf previous current :=
  le_max_of_le_right (round_nonneg (abs_nonneg _))

theorem roundedSum_nonneg {sum : ℚ} {xs : List ℚ} (hSum : 0 ≤ sum) (h : ∀ x ∈ xs, 0 ≤ x) :
    0 ≤ roundedSum sum xs := by
  induction xs generalizing sum with
  | nil => exact hSum
  | cons x xs ih =>
    obtain ⟨hFirst, hRest⟩ := List.forall_mem_cons.mp h
    exact ih (round_nonneg (add_nonneg hSum hFirst)) hRest

theorem smooth_nonneg {atr range : ℚ} (hAtr : 0 ≤ atr) (hRange : 0 ≤ range) :
    0 ≤ smooth atr range := by
  have hKept : 0 ≤ Decimal.round (atr * (atrPeriod - 1 : ℕ)) :=
    round_nonneg (mul_nonneg hAtr (Nat.cast_nonneg _))
  exact round_nonneg (div_nonneg (round_nonneg (add_nonneg hKept hRange)) (Nat.cast_nonneg _))

theorem averageOf_nonneg {ranges : List ℚ} (h : ∀ x ∈ ranges, 0 ≤ x) : 0 ≤ averageOf ranges := by
  have hFold (later : List ℚ) (atr : ℚ) (hAtr : 0 ≤ atr) (hLater : ∀ x ∈ later, 0 ≤ x) :
      0 ≤ later.foldl smooth atr := by
    induction later generalizing atr with
    | nil => exact hAtr
    | cons range later ih =>
      obtain ⟨hFirst, hRest⟩ := List.forall_mem_cons.mp hLater
      exact ih _ (smooth_nonneg hAtr hFirst) hRest
  refine hFold _ _ (round_nonneg (div_nonneg ?_ (Nat.cast_nonneg _)))
    fun x hx => h x (List.mem_of_mem_drop hx)
  exact roundedSum_nonneg le_rfl fun x hx => h x (List.mem_of_mem_take hx)

/-- An average is not negative, and has the six decimals of a price. -/
theorem atrOf_grid {bars : List (DailyBar Decimal)} {atr : ℚ} (h : atrOf bars = some atr) :
    0 ≤ atr ∧ Multiple (10 ^ (-6 : ℤ)) atr := by
  simp only [atrOf] at h
  split_ifs at h
  obtain rfl := Option.some.inj h
  refine ⟨?_, multiple_roundTo _ _ _⟩
  have hZero : roundTo .halfEven (10 ^ (-6 : ℤ)) 0 = 0 := by
    rw [roundTo_of_multiple _ (by norm_num) ⟨0, by simp⟩]
  have hRanges : ∀ x ∈ (sortedBy (·.sessionDate) bars).zipWith rangeOf
      (sortedBy (·.sessionDate) bars).tail, 0 ≤ x := by
    intro x hx
    rw [← List.map_uncurry_zip_eq_zipWith] at hx
    obtain ⟨⟨previous, current⟩, -, rfl⟩ := List.mem_map.mp hx
    exact rangeOf_nonneg previous current
  exact le_roundTo_halfEven (by norm_num) ⟨0, by simp⟩ (averageOf_nonneg hRanges)

/-- Without enough bars there is no average; one that needs more digits than the context has is
not returned. -/
theorem wilderAtr_none {bars : List (DailyBar Decimal)} (h : atrOf bars = none) :
    wilderAtr bars = .ok none := by
  simp only [atrOf] at h
  split_ifs at h with hShort
  rw [wilderAtr, if_pos hShort]
  rfl

theorem wilderAtr_some {bars : List (DailyBar Decimal)} {atr : ℚ} (h : atrOf bars = some atr) :
    (∃ d : Decimal, wilderAtr bars = .ok (some d) ∧ d.toRat = atr) ∨
      10 ^ 22 ≤ atr ∧ ∃ e, wilderAtr bars = .error e := by
  have hGrid := atrOf_grid h
  simp only [atrOf] at h
  split_ifs at h with hShort
  obtain ⟨average, hAverage, hValue⟩ := exists_smoothed (trueRanges (sortedBy (·.sessionDate) bars))
  rw [map_trueRanges] at hValue
  rw [wilderAtr, if_neg hShort, hAverage, ok_bind]
  have hRescaled := Decimal.toRat_rescale (-6) average
  rw [hValue, Option.some.inj h] at hRescaled
  by_cases hDigits : Decimal.prec < Decimal.digits (Decimal.rescale .halfEven (-6) average).coefficient
  · refine Or.inr ⟨?_, _, by rw [Decimal.quantize, if_pos hDigits]; rfl⟩
    have hWide := Decimal.pow_le_of_lt_digits hDigits (by decide)
    have hAbs := congrArg abs hRescaled
    rw [Decimal.toRat, Decimal.rescale_exponent, abs_mul, Decimal.abs_signed,
      abs_of_nonneg hGrid.1] at hAbs
    have hWideRat : (10 ^ 28 : ℚ) ≤ (Decimal.rescale .halfEven (-6) average).coefficient := by
      exact_mod_cast hWide
    rw [← hAbs, abs_of_pos (by norm_num)]
    calc (10 : ℚ) ^ 22 = 10 ^ 28 * 10 ^ (-6 : ℤ) := by norm_num
      _ ≤ _ := mul_le_mul_of_nonneg_right hWideRat (by norm_num)
  · exact Or.inl ⟨_, by rw [Decimal.quantize, if_neg hDigits]; rfl, hRescaled⟩

/-! ### The prices of a signal -/

/-- The stop is a price, and so is the farther target. -/
def Tradable (price atr : ℚ) : Prop := atr < price ∧ price + 3 * atr < 10 ^ 12

instance decidableTradable (price atr : ℚ) : Decidable (Tradable price atr) :=
  inferInstanceAs (Decidable (_ ∧ _))

/-- While the average is below the bound of a price, no price of the signal is rounded. -/
theorem signalPrices (entry : Money) {atr : Decimal} (hGrid : Multiple (10 ^ (-6 : ℤ)) atr.toRat)
    (hPos : 0 < atr.toRat) (hBound : atr.toRat < 10 ^ 12) :
    (entry.1.sub atr).toRat = entry.1.toRat - atr.toRat ∧
      ∀ n ∈ [2, 3], (entry.1.add (atr.mul (.ofInt n))).toRat = entry.1.toRat + n * atr.toRat := by
  obtain ⟨hEntryPos, -, hEntryBound⟩ := entry.2
  obtain ⟨m, hm⟩ := hGrid
  obtain ⟨p, hp⟩ := entry.multiple
  constructor
  · refine Decimal.toRat_sub (representable_of_multiple ⟨p - m, ?_⟩ ?_)
    · rw [hp, hm]
      push_cast
      ring
    · rw [abs_lt]
      constructor <;> linarith
  · intro n hn
    have hRange : (2 : ℚ) ≤ n ∧ (n : ℚ) ≤ 3 := by
      rcases List.mem_pair.mp hn with rfl | rfl <;> norm_num
    have hProduct : (atr.mul (.ofInt n)).toRat = n * atr.toRat := by
      rw [Decimal.toRat_mul]
      · rw [Decimal.toRat_ofInt, mul_comm]
      · rw [Decimal.toRat_ofInt]
        refine representable_of_multiple (Multiple.intCast_mul ⟨m, hm⟩ n) ?_
        rw [abs_lt]
        constructor <;> nlinarith
    rw [Decimal.toRat_add, hProduct]
    rw [hProduct]
    refine representable_of_multiple ⟨p + n * m, ?_⟩ ?_
    · rw [hp, hm]
      push_cast
      ring
    · rw [abs_lt]
      constructor <;> nlinarith

/-- The prices of a signal are accepted, and in the order of a long trade. -/
structure Signal.WellFormed (signal : Signal) : Prop where
  accepted : ∀ price ∈ [signal.entryPrice, signal.atrValue, signal.stopPrice,
    signal.targetPrice1, signal.targetPrice2], IsPrice price.1.toRat
  stop_pos : 0 < signal.stopPrice.1.toRat
  stop_lt : signal.stopPrice.1.toRat < signal.entryPrice.1.toRat
  entry_lt : signal.entryPrice.1.toRat < signal.targetPrice1.1.toRat
  target_lt : signal.targetPrice1.1.toRat < signal.targetPrice2.1.toRat

variable {bars : Bars} {tradingDate : Day} {generatedAt : Timestamp}
  {trend : String → Option Decimal} {candidate : CandidateQualification}

/-- The average true range of a ticker. -/
def rangeFor (bars : Bars) (ticker : String) : Option ℚ := atrOf ((bars ticker).getD [])

/-- The candidate qualifies, and its ticker moves enough to have a range. -/
def Signalled (bars : Bars) (candidate : CandidateQualification) : Prop :=
  candidate.qualifies = true ∧ ∃ atr ∈ rangeFor bars candidate.ticker, 0 < atr

theorem validated_eq_ok (candidate : CandidateQualification) (tradingDate : Day)
    (generatedAt : Timestamp) (trend : Option Decimal) {atr stop target1 target2 : Decimal}
    {signal : Signal} :
    validated candidate tradingDate generatedAt trend atr stop target1 target2 = .ok signal ↔
      ∃ (hAtr : IsPrice atr.toRat) (hStop : IsPrice stop.toRat) (hTarget1 : IsPrice target1.toRat)
        (hTarget2 : IsPrice target2.toRat), signal = {
          ticker := candidate.ticker
          tradingDate := tradingDate
          generatedAt := generatedAt
          entryPrice := candidate.price
          atrValue := ⟨atr, hAtr⟩
          stopPrice := ⟨stop, hStop⟩
          targetPrice1 := ⟨target1, hTarget1⟩
          targetPrice2 := ⟨target2, hTarget2⟩
          percentChange := candidate.percentChange
          relativeVolume := candidate.relativeVolume
          forecastTrendPct := trend
          canonical := candidate.canonical } := by
  simp only [validated, bind_eq_ok, money_eq_ok]
  constructor
  · rintro ⟨⟨_, hEntry⟩, rfl, ⟨_, hAtr⟩, rfl, ⟨_, hStop⟩, rfl, ⟨_, hTarget1⟩, rfl, ⟨_, hTarget2⟩, rfl,
      h⟩
    exact ⟨hAtr, hStop, hTarget1, hTarget2, (Except.ok.inj h).symm⟩
  · rintro ⟨hAtr, hStop, hTarget1, hTarget2, rfl⟩
    exact ⟨candidate.price, rfl, ⟨_, hAtr⟩, rfl, ⟨_, hStop⟩, rfl, ⟨_, hTarget1⟩, rfl,
      ⟨_, hTarget2⟩, rfl, rfl⟩

/-- The prices of a signal are accepted exactly when its stop and its farther target are. -/
theorem prices_iff (entry : Money) {atr : Decimal} (hGrid : Multiple (10 ^ (-6 : ℤ)) atr.toRat)
    (hPos : 0 < atr.toRat) :
    (IsPrice atr.toRat ∧ IsPrice (entry.1.sub atr).toRat ∧
        ∀ n ∈ [2, 3], IsPrice (entry.1.add (atr.mul (.ofInt n))).toRat) ↔
      Tradable entry.1.toRat atr.toRat := by
  obtain ⟨hEntryPos, -, hEntryBound⟩ := entry.2
  by_cases hBound : atr.toRat < 10 ^ 12
  · obtain ⟨hStop, hTargets⟩ := signalPrices entry hGrid hPos hBound
    obtain ⟨m, hm⟩ := id hGrid
    obtain ⟨p, hp⟩ := entry.multiple
    have hStopGrid : Multiple (10 ^ (-6 : ℤ)) (entry.1.toRat - atr.toRat) :=
      ⟨p - m, by rw [hp, hm]; push_cast; ring⟩
    have hTargetGrid (n : ℤ) : Multiple (10 ^ (-6 : ℤ)) (entry.1.toRat + n * atr.toRat) :=
      ⟨p + n * m, by rw [hp, hm]; push_cast; ring⟩
    rw [isPrice_iff hGrid, hStop, isPrice_iff hStopGrid]
    constructor
    · rintro ⟨-, ⟨hStopPos, -⟩, hPrices⟩
      have hSecond := hPrices 3 (by simp)
      rw [hTargets 3 (by simp), isPrice_iff (hTargetGrid 3)] at hSecond
      push_cast at hSecond
      exact ⟨by linarith, hSecond.2⟩
    · rintro ⟨hBelow, hTarget⟩
      refine ⟨⟨hPos, hBound⟩, ⟨by linarith, by linarith⟩, fun n hn => ?_⟩
      have hRange : (2 : ℚ) ≤ n ∧ (n : ℚ) ≤ 3 := by
        rcases List.mem_pair.mp hn with rfl | rfl <;> norm_num
      rw [hTargets n hn, isPrice_iff (hTargetGrid n)]
      constructor <;> nlinarith
  · refine iff_of_false (fun h => hBound h.1.2.2) fun h => hBound (h.1.trans hEntryBound)

/-! ### One candidate -/

theorem signalFor_of_not (h : ¬ Signalled bars candidate) :
    signalFor bars tradingDate generatedAt trend candidate = .ok none := by
  unfold signalFor
  split_ifs with hQualifies
  · rfl
  have hNone : ∀ atr ∈ rangeFor bars candidate.ticker, ¬ 0 < atr := fun atr hAtr hPos =>
    h ⟨by simpa using hQualifies, atr, hAtr, hPos⟩
  cases hAtr : rangeFor bars candidate.ticker with
  | none =>
    rw [wilderAtr_none hAtr]
    rfl
  | some atr =>
    have hZero : atr ≤ 0 := not_lt.mp (hNone atr hAtr)
    obtain ⟨d, hWilder, hValue⟩ | ⟨hWide, -⟩ := wilderAtr_some hAtr
    · rw [hWilder, ok_bind]
      simp only
      rw [if_pos (hValue.trans_le hZero)]
      rfl
    · linarith

/-- A signal that is made is well formed and speaks of its candidate. -/
structure SignalOf (candidate : CandidateQualification) (signal : Signal) : Prop where
  wellFormed : signal.WellFormed
  ticker : signal.ticker = candidate.ticker
  percentChange : signal.percentChange = candidate.percentChange

theorem signalOf_validated {trend : Option Decimal} {atr stop target1 target2 : Decimal}
    {signal : Signal} (hPos : 0 < atr.toRat)
    (hStop : stop.toRat = candidate.price.1.toRat - atr.toRat)
    (hTarget1 : target1.toRat = candidate.price.1.toRat + 2 * atr.toRat)
    (hTarget2 : target2.toRat = candidate.price.1.toRat + 3 * atr.toRat)
    (h : validated candidate tradingDate generatedAt trend atr stop target1 target2 = .ok signal) :
    SignalOf candidate signal := by
  obtain ⟨hAtr, hStopPrice, hPrice1, hPrice2, rfl⟩ := (validated_eq_ok _ _ _ _).mp h
  refine ⟨⟨fun price _ => price.2, hStopPrice.1, ?_, ?_, ?_⟩, rfl, rfl⟩
  · change stop.toRat < candidate.price.1.toRat
    linarith
  · change candidate.price.1.toRat < target1.toRat
    linarith
  · change target1.toRat < target2.toRat
    linarith

/-- The signal of a candidate whose range returns. -/
theorem signalFor_eq {atr : Decimal} (hQualifies : candidate.qualifies = true)
    (hAtr : wilderAtr ((bars candidate.ticker).getD []) = .ok (some atr)) (hPos : 0 < atr.toRat) :
    signalFor bars tradingDate generatedAt trend candidate = do
      let signal ← validated candidate tradingDate generatedAt (trend candidate.ticker) atr
        (candidate.price.1.sub atr) (candidate.price.1.add (atr.mul (.ofInt 2)))
        (candidate.price.1.add (atr.mul (.ofInt 3)))
      return some signal := by
  unfold signalFor
  rw [if_neg (by simp [hQualifies]), hAtr, ok_bind]
  simp only
  rw [if_neg (not_le.mpr hPos)]

/-- The candidate's range decides between a signal and an exception. -/
theorem signalFor_of_range (tradingDate : Day) (generatedAt : Timestamp)
    (trend : String → Option Decimal) {atr : ℚ} (hQualifies : candidate.qualifies = true)
    (hAtr : rangeFor bars candidate.ticker = some atr) (hPos : 0 < atr) :
    (Tradable candidate.price.1.toRat atr ∧ ∃ signal, SignalOf candidate signal ∧
      signalFor bars tradingDate generatedAt trend candidate = .ok (some signal)) ∨
    (¬ Tradable candidate.price.1.toRat atr ∧
      ∃ e, signalFor bars tradingDate generatedAt trend candidate = .error e) := by
  have hGrid := (atrOf_grid hAtr).2
  obtain ⟨d, hWilder, rfl⟩ | ⟨hWide, e, hError⟩ := wilderAtr_some hAtr
  · have hPrices := prices_iff candidate.price hGrid hPos
    rw [signalFor_eq hQualifies hWilder hPos]
    by_cases hTradable : Tradable candidate.price.1.toRat d.toRat
    · obtain ⟨hPrice, hStop, hTargets⟩ := hPrices.mpr hTradable
      have hSignal := (validated_eq_ok candidate tradingDate generatedAt
        (trend candidate.ticker)).mpr
          ⟨hPrice, hStop, hTargets 2 (by simp), hTargets 3 (by simp), rfl⟩
      obtain ⟨hStopValue, hValues⟩ := signalPrices candidate.price hGrid hPos hPrice.2.2
      have hFirst := hValues 2 (by simp)
      have hSecond := hValues 3 (by simp)
      push_cast at hFirst hSecond
      have hOf := signalOf_validated hPos hStopValue hFirst hSecond hSignal
      exact Or.inl ⟨hTradable, _, hOf, by rw [hSignal]; rfl⟩
    · refine Or.inr ⟨hTradable, ?_⟩
      cases hValid : validated candidate tradingDate generatedAt (trend candidate.ticker) d
          (candidate.price.1.sub d) (candidate.price.1.add (d.mul (.ofInt 2)))
          (candidate.price.1.add (d.mul (.ofInt 3))) with
      | error e => exact ⟨e, rfl⟩
      | ok signal =>
        obtain ⟨hPrice, hStop, hTarget1, hTarget2, -⟩ := (validated_eq_ok _ _ _ _).mp hValid
        exact absurd (hPrices.mp ⟨hPrice, hStop, by simpa using ⟨hTarget1, hTarget2⟩⟩) hTradable
  · refine Or.inr ⟨fun hTradable => ?_, e, ?_⟩
    · have hBelow := hTradable.1.trans candidate.price.2.2.2
      linarith
    · unfold signalFor
      rw [if_neg (by simp [hQualifies]), hError]
      rfl

/-- What the source needs of a candidate to return: a range that it trades on is tradable. -/
def Returns (bars : Bars) (candidate : CandidateQualification) : Prop :=
  candidate.qualifies = true → ∀ atr ∈ rangeFor bars candidate.ticker, 0 < atr →
    Tradable candidate.price.1.toRat atr

theorem exists_signalFor_iff (tradingDate : Day) (generatedAt : Timestamp)
    (trend : String → Option Decimal) (candidate : CandidateQualification) :
    (∃ answer, signalFor bars tradingDate generatedAt trend candidate = .ok answer) ↔
      Returns bars candidate := by
  constructor
  · rintro ⟨answer, hAnswer⟩ hQualifies atr hAtr hPos
    obtain ⟨hTradable, -⟩ | ⟨-, e, hError⟩ := signalFor_of_range tradingDate generatedAt
      trend hQualifies hAtr hPos
    · exact hTradable
    · rw [hError] at hAnswer
      cases hAnswer
  · intro h
    by_cases hSignalled : Signalled bars candidate
    · obtain ⟨hQualifies, atr, hAtr, hPos⟩ := hSignalled
      obtain ⟨-, signal, -, hSignal⟩ | ⟨hNot, -⟩ := signalFor_of_range tradingDate generatedAt
        trend hQualifies hAtr hPos
      · exact ⟨_, hSignal⟩
      · exact absurd (h hQualifies atr hAtr hPos) hNot
    · exact ⟨none, signalFor_of_not hSignalled⟩

/-- The answer of a candidate that returned. -/
theorem signalFor_eq_ok {answer : Option Signal}
    (h : signalFor bars tradingDate generatedAt trend candidate = .ok answer) :
    (answer.isSome ↔ Signalled bars candidate) ∧ ∀ signal ∈ answer, SignalOf candidate signal := by
  by_cases hSignalled : Signalled bars candidate
  · obtain ⟨hQualifies, atr, hAtr, hPos⟩ := id hSignalled
    obtain ⟨-, signal, hOf, hSignal⟩ | ⟨-, e, hError⟩ := signalFor_of_range tradingDate generatedAt
      trend hQualifies hAtr hPos
    · obtain rfl := Except.ok.inj (hSignal.symm.trans h)
      exact ⟨iff_of_true rfl hSignalled, by simpa using hOf⟩
    · rw [hError] at h
      cases h
  · obtain rfl := Except.ok.inj ((signalFor_of_not hSignalled).symm.trans h)
    exact ⟨iff_of_false (by simp) hSignalled, by simp⟩

/-! ### All candidates -/

instance decidableSignalled (bars : Bars) (candidate : CandidateQualification) :
    Decidable (Signalled bars candidate) := inferInstanceAs (Decidable (_ ∧ _))

variable {candidates : List CandidateQualification} {signals : List Signal}

/-- The signals are those of the candidates that have one, in their order. -/
theorem buildSignals_eq_ok
    (h : buildSignals candidates bars tradingDate generatedAt trend = .ok signals) :
    List.Forall₂ SignalOf (candidates.filter (Signalled bars ·)) signals := by
  obtain ⟨answers, hAnswers, rfl⟩ := filterMapM_eq_ok.mp h
  clear h
  induction hAnswers with
  | nil => exact .nil
  | @cons candidate answer candidates answers hFirst _ ih =>
    obtain ⟨hIff, hOf⟩ := signalFor_eq_ok hFirst
    cases answer with
    | none =>
      have hNot : ¬ Signalled bars candidate := fun h => nomatch hIff.mpr h
      rwa [List.filter_cons_of_neg (by simpa using hNot)]
    | some signal =>
      have hSignalled : Signalled bars candidate := hIff.mp rfl
      rw [List.filter_cons_of_pos (by simpa using hSignalled)]
      exact .cons (hOf signal rfl) ih

theorem exists_signalOf (h : List.Forall₂ SignalOf candidates signals) {signal : Signal}
    (hSignal : signal ∈ signals) : ∃ candidate ∈ candidates, SignalOf candidate signal := by
  induction h with
  | nil => cases hSignal
  | @cons candidate first candidates signals hFirst _ ih =>
    rcases List.mem_cons.mp hSignal with rfl | hRest
    · exact ⟨candidate, List.mem_cons_self, hFirst⟩
    · obtain ⟨later, hLater, hOf⟩ := ih hRest
      exact ⟨later, List.mem_cons_of_mem _ hLater, hOf⟩

theorem exists_buildSignals_iff :
    (∃ signals, buildSignals candidates bars tradingDate generatedAt trend = .ok signals) ↔
      ∀ candidate ∈ candidates, Returns bars candidate := by
  rw [← forall₂_congr fun candidate _ => exists_signalFor_iff tradingDate generatedAt trend candidate,
    ← exists_mapM_iff]
  simp only [buildSignals, filterMapM_eq_ok, mapM_eq_ok]
  constructor
  · rintro ⟨-, answers, hAnswers, -⟩
    exact ⟨answers, hAnswers⟩
  · rintro ⟨answers, hAnswers⟩
    exact ⟨_, answers, hAnswers, rfl⟩

/-- The construction returns well-formed signals exactly where every range that a candidate
trades on leaves it a stop and targets. -/
theorem buildSignals_wellFormed_iff (candidates : List CandidateQualification) (bars : Bars)
    (tradingDate : Day) (generatedAt : Timestamp) (trend : String → Option Decimal) :
    (∃ signals, buildSignals candidates bars tradingDate generatedAt trend = .ok signals ∧
      ∀ signal ∈ signals, signal.WellFormed) ↔
    ∀ candidate ∈ candidates, candidate.qualifies = true →
      ∀ atr ∈ rangeFor bars candidate.ticker, 0 < atr →
        atr < candidate.price.1.toRat ∧ candidate.price.1.toRat + 3 * atr < 10 ^ 12 := by
  constructor
  · rintro ⟨signals, hSignals, -⟩
    exact exists_buildSignals_iff.mp ⟨signals, hSignals⟩
  · intro h
    obtain ⟨signals, hSignals⟩ := exists_buildSignals_iff.mpr h
    refine ⟨signals, hSignals, fun signal hSignal => ?_⟩
    obtain ⟨candidate, -, hOf⟩ := exists_signalOf (buildSignals_eq_ok hSignals) hSignal
    exact hOf.wellFormed

/-! ### A stock that moves by its price -/

def volatileBar (date : Day) : DailyBar Decimal where
  sessionDate := date
  openPrice := ⟨.ofInt 2, by decide +kernel⟩
  high := ⟨.ofInt 3, by decide +kernel⟩
  low := ⟨.ofInt 1, by decide +kernel⟩
  close := ⟨.ofInt 2, by decide +kernel⟩
  volume := 100000
  high_max := by decide +kernel
  low_min := by decide +kernel

def volatileBars : Bars := fun _ => some ((List.range 15).map fun i => volatileBar i)

theorem canonical_AAAA : isCanonicalTicker "AAAA" = true := by decide

theorem canonical_BBBB : isCanonicalTicker "BBBB" = true := by decide

def risingCandidate (ticker : String) (h : isCanonicalTicker ticker = true) (price : Money) :
    CandidateQualification where
  ticker := ticker
  percentChange := .ofInt 9
  price := price
  volume := 600000
  qualifies := true
  canonical := h

theorem isPrice_twenty : IsPrice (Decimal.ofInt 20).toRat := by decide +kernel

/-- The range of the second is its price, which aborts the signal of the first too. -/
theorem buildSignals_volatile : ¬ ∃ signals, buildSignals
    [risingCandidate "AAAA" canonical_AAAA ⟨.ofInt 20, isPrice_twenty⟩,
      risingCandidate "BBBB" canonical_BBBB ⟨.ofInt 2, by decide +kernel⟩]
    volatileBars 0 0 (fun _ => none) = .ok signals ∧ ∀ signal ∈ signals, signal.WellFormed := by
  rintro ⟨signals, hSignals, -⟩
  have hNone : (buildSignals
    [risingCandidate "AAAA" canonical_AAAA ⟨.ofInt 20, isPrice_twenty⟩,
      risingCandidate "BBBB" canonical_BBBB ⟨.ofInt 2, by decide +kernel⟩]
    volatileBars 0 0 (fun _ => none)).toOption.isNone = true := by decide +kernel
  rw [hSignals] at hNone
  cases hNone

end Daybreak.Scanner
