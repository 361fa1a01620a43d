import Daybreak.Features.Canonical
import Daybreak.Features.Clock
import Daybreak.Serial.FloatText
import Daybreak.Serial.Records

/-! The canonical JSON of a context: every model is dumped with all its fields, dates and times
as ISO 8601 texts. A decimal that is whole is written as an integer, and any other one as the
double nearest to it. -/

namespace Daybreak.Contracts

def MarketStatus.value : MarketStatus → String
  | .normal => "normal"
  | .limitUpDownActive => "limit_up_down_active"
  | .circuitBreakerHalt => "circuit_breaker_halt"

def SourceType.value : SourceType → String
  | .primary => "primary"
  | .secondary => "secondary"
  | .unconfirmed => "unconfirmed"

def BorrowStatus.value : BorrowStatus → String
  | .easy => "easy"
  | .hardToBorrow => "hard_to_borrow"
  | .unknown => "unknown"

def DisqualifierFlag.value : DisqualifierFlag → String
  | .paidPromotion => "paid_promotion"
  | .reverseSplitOnly => "reverse_split_only"
  | .unconfirmedRumor => "unconfirmed_rumor"
  | .nonOperatingPromotion => "non_operating_promotion"
  | .other => "other_disqualifying_catalyst"

theorem MarketStatus.value_inj {a b : MarketStatus} : a.value = b.value ↔ a = b := by
  cases a <;> cases b <;> decide

theorem SourceType.value_inj {a b : SourceType} : a.value = b.value ↔ a = b := by
  cases a <;> cases b <;> decide

theorem BorrowStatus.value_inj {a b : BorrowStatus} : a.value = b.value ↔ a = b := by
  cases a <;> cases b <;> decide

theorem DisqualifierFlag.value_inj {a b : DisqualifierFlag} : a.value = b.value ↔ a = b := by
  cases a <;> cases b <;> decide

end Daybreak.Contracts

namespace Daybreak.Features

open Contracts Numeric DecimalArithmetic Serial

variable {D : Type} [DecimalArithmetic D]

def QualityStatus.value : QualityStatus → String
  | .verified => "verified"
  | .singleSource => "single_source"

def FloatSource.value : FloatSource → String
  | .fmp => "fmp"
  | .massive => "massive"
  | .secApi => "sec_api"
  | .fixture => "fixture"

theorem QualityStatus.value_inj {a b : QualityStatus} : a.value = b.value ↔ a = b := by
  cases a <;> cases b <;> decide

theorem FloatSource.value_inj {a b : FloatSource} : a.value = b.value ↔ a = b := by
  cases a <;> cases b <;> decide

theorem TradeAction.value_inj {a b : TradeAction} : a.value = b.value ↔ a = b := by
  cases a <;> cases b <;> decide

/-! ### Decimals -/

/-- `float(value)`, which may be infinite. -/
def floatOf (x : ℚ) : Serial.PyFloat := floatRepr (x < 0) x

/-- What `to_jsonable` makes of a decimal. -/
def number (x : D) : Decoded :=
  if (value x).den = 1 then .int (value x).num else .float (floatOf (value x))

/-- `float` makes one double of the numbers, with one sign. -/
def SameDouble (p q : ℚ) : Prop := (p < 0 ↔ q < 0) ∧ toDouble p = toDouble q

/-- Decimals of one number. -/
def SameNumber (x y : D) : Prop := value x = value y

/-- Decimals of one number, or decimals that are not whole and share their double. -/
def WrittenAlike (x y : D) : Prop :=
  SameNumber x y ∨ (value x).den ≠ 1 ∧ (value y).den ≠ 1 ∧ SameDouble (value x) (value y)

theorem toDouble_eq (x : ℚ) :
    toDouble x = if roundDouble |x| < 2 ^ 1024 then some (roundDouble x) else none := by
  rw [toDouble, abs_roundDouble]

theorem isfinite_floatOf (x : ℚ) : (floatOf x).isfinite = (toDouble x).isSome := by
  rw [toDouble_eq]
  split_ifs with h
  · obtain ⟨f, hf, -⟩ := floatRepr_of_finite (x < 0) h
    rw [floatOf, hf, f.isfinite_repr]
    rfl
  · rw [PyFloat.isfinite, floatOf, floatRepr_of_infinite _ h]
    split_ifs <;> rfl

/-- Two numbers are made one double where their signs and their nearest doubles agree. -/
theorem floatOf_eq_iff {x y : ℚ} : floatOf x = floatOf y ↔ SameDouble x y := by
  have hText : floatOf x = floatOf y → (toDouble x).isSome = (toDouble y).isSome := by
    intro h
    rw [← isfinite_floatOf, h, isfinite_floatOf]
  rw [SameDouble, toDouble_eq, toDouble_eq] at *
  split_ifs at * with hx hy hy
  · obtain ⟨f, hf, hfSign, hfValue⟩ := floatRepr_of_finite (x < 0) hx
    obtain ⟨g, hg, hgSign, hgValue⟩ := floatRepr_of_finite (y < 0) hy
    have hSame : floatOf x = floatOf y ↔ f = g := by
      rw [floatOf, floatOf, hf, hg]
      exact ⟨FiniteFloat.repr_injective, congrArg _⟩
    rw [hSame, FiniteFloat.ext_iff, hfSign, hgSign, hfValue, hgValue, decide_eq_decide]
    refine and_congr_right fun hSign => ?_
    rw [Option.some.injEq]
    rcases lt_or_ge x 0 with hNegative | hNonneg
    · have hOther := hSign.mp hNegative
      rw [abs_of_neg hNegative, abs_of_neg hOther, roundDouble_neg, roundDouble_neg, neg_inj]
    · have hOther : 0 ≤ y := not_lt.mp fun h => not_lt.mpr hNonneg (hSign.mpr h)
      rw [abs_of_nonneg hNonneg, abs_of_nonneg hOther]
  · simpa using hText
  · simpa using hText
  · have hSame : floatOf x = floatOf y ↔ (floatOf x).text = (floatOf y).text := by
      constructor
      · exact congrArg PyFloat.text
      · intro h
        cases hfx : floatOf x
        cases hfy : floatOf y
        rw [hfx, hfy] at h
        simpa using h
    rw [hSame, floatOf, floatOf, floatRepr_of_infinite _ hx, floatRepr_of_infinite _ hy,
      and_iff_left rfl]
    by_cases hxSign : x < 0 <;> by_cases hySign : y < 0 <;> simp [hxSign, hySign]

theorem canonical_number (x : D) : (number x).canonical = number x := by
  unfold number
  split_ifs <;> rfl

/-- What is written of a decimal tells its number, or that it is not whole and its double. -/
theorem number_eq_iff {x y : D} : (number x).canonical = (number y).canonical ↔
    WrittenAlike x y := by
  have hSame (hx : (value x).den = 1) (hy : (value y).den = 1) :
      (value x).num = (value y).num ↔ value x = value y := by
    constructor
    · intro h
      exact Rat.ext h (hx.trans hy.symm)
    · exact congrArg _
  rw [canonical_number, canonical_number]
  unfold number WrittenAlike SameNumber
  split_ifs with hx hy hy
  · simp [hSame hx hy, hx]
  · refine iff_of_false (by simp) ?_
    rintro (h | ⟨h, -⟩)
    · exact hy (h ▸ hx)
    · exact h hx
  · refine iff_of_false (by simp) ?_
    rintro (h | ⟨-, h, -⟩)
    · exact hx (h ▸ hy)
    · exact h hy
  · rw [Decoded.float.injEq, floatOf_eq_iff]
    constructor
    · intro h
      exact .inr ⟨hx, hy, h⟩
    · rintro (h | ⟨-, -, h⟩)
      · rw [h]
        exact ⟨Iff.rfl, rfl⟩
      · exact h

theorem finite_number {x : D} (h : Writable (value x)) : (number x).finite = true := by
  unfold Writable at h
  unfold number
  split_ifs at h ⊢ with hWhole
  · rfl
  · rw [Decoded.finite, isfinite_floatOf, h]

/-! ### What is dumped -/

def timestamp (t : Timestamp) : Decoded := .str (utcZ t)

def day (d : Day) : Decoded := .str (isoDate d)

def integer (n : ℤ) : Decoded := .int n

/-- `TradeLedgerEvent` -/
def TradeLedgerEvent.fields : List (String × (TradeLedgerEvent D → Decoded)) :=
  [("ingest_seq", fun e => integer (e.ingestSeq : ℕ)), ("trade_id", fun e => .str e.tradeId),
    ("action", fun e => .str e.action.value),
    ("event_timestamp", fun e => timestamp e.eventTimestamp),
    ("price", fun e => .optional (fun price : PositiveDecimal D => number price.1) e.price),
    ("size", fun e => .optional (fun size : ℕ+ => integer (size : ℕ)) e.size),
    ("original_trade_id", fun e => .optional .str e.originalTradeId),
    ("eligible", fun e => .bool e.eligible)]

def TradeLedgerEvent.toJsonable (e : TradeLedgerEvent D) : Decoded := .record fields e

/-- `PremarketSession` -/
def PremarketSession.fields : List (String × (PremarketSession D → Decoded)) :=
  [("session_date", fun s => day s.sessionDate),
    ("events", fun s => .array TradeLedgerEvent.toJsonable s.events),
    ("complete", fun s => .bool s.complete)]

def PremarketSession.toJsonable (s : PremarketSession D) : Decoded := .record fields s

/-- `DailyBar` -/
def DailyBar.fields : List (String × (DailyBar D → Decoded)) :=
  [("session_date", fun b => day b.sessionDate), ("open", fun b => number b.openPrice.1),
    ("high", fun b => number b.high.1), ("low", fun b => number b.low.1),
    ("close", fun b => number b.close.1), ("volume", fun b => integer b.volume),
    ("split_adjusted", fun _ => .bool true), ("dividend_adjusted", fun _ => .bool false)]

def DailyBar.toJsonable (b : DailyBar D) : Decoded := .record fields b

/-- `FloatRecord` -/
def FloatRecord.fields : List (String × (FloatRecord → Decoded)) :=
  [("ticker", fun r => .str r.ticker), ("float_shares", fun r => integer (r.floatShares : ℕ)),
    ("effective_date", fun r => day r.effectiveDate),
    ("observed_at", fun r => timestamp r.observedAt),
    ("validated_at", fun r => timestamp r.validatedAt),
    ("expires_at", fun r => timestamp r.expiresAt),
    ("quality_status", fun r => .str r.qualityStatus.value),
    ("source", fun r => .str r.source.value),
    ("raw_response_hashes", fun r => .array .str r.rawResponseHashes)]

def FloatRecord.toJsonable (r : FloatRecord) : Decoded := .record fields r

/-- `CatalystRecord` -/
def CatalystRecord.fields : List (String × (CatalystRecord → Decoded)) :=
  [("catalyst_id", fun c => .str c.catalystId), ("ticker", fun c => .str c.ticker),
    ("catalyst_text", fun c => .str c.catalystText),
    ("source_type", fun c => .str c.sourceType.value), ("source_name", fun c => .str c.sourceName),
    ("source_timestamp", fun c => timestamp c.sourceTimestamp),
    ("observed_at", fun c => timestamp c.observedAt),
    ("corroborated", fun c => .bool c.corroborated),
    ("disqualifier_flags",
      fun c => .array (fun flag : DisqualifierFlag => .str flag.value) c.disqualifierFlags),
    ("source_hash", fun c => .str c.sourceHash)]

def CatalystRecord.toJsonable (c : CatalystRecord) : Decoded := .record fields c

/-- `CandidateSourceData` -/
def CandidateSourceData.fields : List (String × (CandidateSourceData D → Decoded)) :=
  [("ticker", fun s => .str s.ticker), ("halted", fun s => .bool s.halted),
    ("borrow_status", fun s => .str s.borrowStatus.value),
    ("previous_regular_close", fun s => number s.previousRegularClose.1),
    ("current_session_events",
      fun s => .array TradeLedgerEvent.toJsonable s.currentSessionEvents),
    ("historical_premarket_sessions",
      fun s => .array PremarketSession.toJsonable s.historicalPremarketSessions),
    ("daily_bars", fun s => .array DailyBar.toJsonable s.dailyBars),
    ("history_complete_since_listing", fun s => .bool s.historyCompleteSinceListing),
    ("float_records", fun s => .array FloatRecord.toJsonable s.floatRecords),
    ("catalysts", fun s => .array CatalystRecord.toJsonable s.catalysts)]

def CandidateSourceData.toJsonable (s : CandidateSourceData D) : Decoded := .record fields s

/-- `FeatureEngineConfig` -/
def FeatureEngineConfig.fields : List (String × (FeatureEngineConfig D → Decoded)) :=
  [("engine_version", fun _ => .str "daily_features_v1"),
    ("module_versions",
      fun c => .dict (c.moduleVersions.map fun entry => (entry.1, .str entry.2))),
    ("premarket_start_et", fun c => .str c.premarketStartEt),
    ("snapshot_time_et", fun c => .str c.snapshotTimeEt),
    ("rvol_lookback_sessions", fun c => integer c.rvolLookbackSessions),
    ("atr_period", fun _ => integer FeatureEngineConfig.atrPeriod),
    ("min_daily_history", fun c => integer c.minDailyHistory),
    ("cluster_lookback_sessions", fun _ => integer FeatureEngineConfig.clusterLookbackSessions),
    ("pivot_left_width", fun _ => integer FeatureEngineConfig.pivotLeftWidth),
    ("pivot_right_width", fun _ => integer FeatureEngineConfig.pivotRightWidth),
    ("cluster_tolerance_atr", fun c => number c.clusterToleranceAtr),
    ("cluster_recency_sessions", fun _ => integer FeatureEngineConfig.clusterRecencySessions),
    ("distance_decimal_places", fun _ => integer FeatureEngineConfig.distanceDecimalPlaces),
    ("blue_sky_sentinel", fun c => number c.blueSkySentinel),
    ("volume_bucket_minutes", fun _ => integer FeatureEngineConfig.volumeBucketMinutes),
    ("spiky_max_bucket_share", fun c => number c.spikyMaxBucketShare),
    ("spiky_min_nonempty_coverage", fun c => number c.spikyMinNonemptyCoverage),
    ("gap_min_pct", fun c => number c.gapMinPct),
    ("premarket_volume_min", fun c => integer c.premarketVolumeMin),
    ("rvol_min", fun c => number c.rvolMin),
    ("resistance_min_atr", fun c => number c.resistanceMinAtr),
    ("max_evaluator_candidates", fun c => integer c.maxEvaluatorCandidates),
    ("allow_single_source_float", fun c => .bool c.allowSingleSourceFloat)]

def FeatureEngineConfig.toJsonable (c : FeatureEngineConfig D) : Decoded := .record fields c

/-- `FeatureContext` -/
def FeatureContext.fields : List (String × (FeatureContext D → Decoded)) :=
  [("evaluation_timestamp", fun c => timestamp c.evaluationTimestamp),
    ("payload_timestamp", fun c => timestamp c.payloadTimestamp),
    ("catalyst_freshness_threshold_hours", fun c => number c.catalystFreshnessThresholdHours.1),
    ("market_status", fun c => .str c.marketStatus.value),
    ("candidates", fun c => .array CandidateSourceData.toJsonable c.candidates),
    ("config", fun c => c.config.toJsonable)]

/-- `to_jsonable` of a context. -/
def FeatureContext.toJsonable (c : FeatureContext D) : Decoded := .record fields c

end Daybreak.Features
