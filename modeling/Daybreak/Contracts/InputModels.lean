import Daybreak.Contracts.Types

/-! The payload that an evaluator is given: what is known of each candidate ticker.
Fields that are optional or bounded in the source are checked by `Valid`, and a
`DaybreakInput` carries the proof that its fields are. -/

namespace Daybreak.Contracts

/-- A finite float: its exact value, by which it is compared, and its `repr`. -/
structure PyFloat where
  value : ℚ
  repr : String
  deriving DecidableEq, Repr

inductive MarketStatus where
  | normal | limitUpDownActive | circuitBreakerHalt
  deriving DecidableEq, Repr

inductive SourceType where
  | primary | secondary | unconfirmed
  deriving DecidableEq, Repr

inductive VolumeProfile where
  | clean | spiky
  deriving DecidableEq, Repr

inductive BorrowStatus where
  | easy | hardToBorrow | unknown
  deriving DecidableEq, Repr

inductive ChartStructure where
  | blueSky | cleanShortTerm | moderateRoom | capped
  deriving DecidableEq, Repr

inductive DisqualifierFlag where
  | paidPromotion | reverseSplitOnly | unconfirmedRumor | nonOperatingPromotion | other
  deriving DecidableEq, Repr

def ChartStructure.value : ChartStructure → String
  | .blueSky => "blue_sky"
  | .cleanShortTerm => "clean_short_term"
  | .moderateRoom => "moderate_room"
  | .capped => "capped"

/-! ### Tickers -/

structure NewsContext where
  catalystText : String
  sourceType : SourceType
  sourceName : String
  sourceTimestamp : String
  catalystAgeHours : PyFloat
  corroborated : Bool
  disqualifierFlags : List DisqualifierFlag
  deriving DecidableEq, Repr

structure LiquidityMetrics where
  gapPct : PyFloat
  premarketVolume : ℕ
  rvolTimeMatched : PyFloat
  floatShares : ℕ
  volumeProfile : VolumeProfile
  borrowStatus : BorrowStatus
  deriving DecidableEq, Repr

structure TechnicalContext where
  distanceToResistanceAtr : PyFloat
  distanceFromVwapAtr : PyFloat
  chartStructure : ChartStructure
  currentPrice : PyFloat
  atrValue : PyFloat
  premarketLow : PyFloat
  deriving DecidableEq, Repr

structure TickerInput where
  ticker : String
  halted : Bool
  newsContext : NewsContext
  liquidityMetrics : LiquidityMetrics
  technicalContext : TechnicalContext
  deriving DecidableEq, Repr

/-- Field bounds, then `validate_disqualifier_uniqueness`. -/
abbrev NewsContext.Valid (n : NewsContext) : Prop :=
  ((1 ≤ n.catalystText.length ∧ n.catalystText.length ≤ 4000) ∧
    (1 ≤ n.sourceName.length ∧ n.sourceName.length ≤ 256) ∧ 0 ≤ n.catalystAgeHours.value ∧
    n.disqualifierFlags.length ≤ 5) ∧
  n.disqualifierFlags.Nodup

abbrev LiquidityMetrics.Valid (l : LiquidityMetrics) : Prop :=
  0 ≤ l.rvolTimeMatched.value ∧ 0 < l.floatShares

/-- Field bounds, then `validate_structure_distance_pair`. -/
abbrev TechnicalContext.Valid (t : TechnicalContext) : Prop :=
  (0 ≤ t.distanceToResistanceAtr.value ∧ 0 < t.currentPrice.value ∧ 0 < t.atrValue.value ∧
    0 < t.premarketLow.value) ∧
  (t.chartStructure = .cleanShortTerm → 2 < t.distanceToResistanceAtr.value) ∧
  (t.chartStructure = .moderateRoom →
    1 ≤ t.distanceToResistanceAtr.value ∧ t.distanceToResistanceAtr.value ≤ 2) ∧
  t.premarketLow.value ≤ t.currentPrice.value

abbrev TickerInput.Valid (t : TickerInput) : Prop :=
  isCanonicalTicker t.ticker = true ∧ t.newsContext.Valid ∧ t.liquidityMetrics.Valid ∧
    t.technicalContext.Valid

/-! ### Payloads -/

structure PayloadFields where
  evaluationTimestamp : String
  payloadTimestamp : String
  payloadAgeSeconds : ℕ
  catalystFreshnessThresholdHours : PyFloat
  marketStatus : MarketStatus
  tickers : List TickerInput
  deriving DecidableEq, Repr

/-- Field bounds, then `validate_unique_tickers`. -/
def PayloadFields.Valid (p : PayloadFields) : Prop :=
  (0 < p.catalystFreshnessThresholdHours.value ∧ p.tickers.length ≤ 25 ∧
    ∀ entry ∈ p.tickers, entry.Valid) ∧
  (p.tickers.map (·.ticker)).Nodup

instance (p : PayloadFields) : Decidable p.Valid := by
  unfold PayloadFields.Valid; infer_instance

structure DaybreakInput extends PayloadFields where
  valid : toPayloadFields.Valid

theorem DaybreakInput.tickers_nodup (payload : DaybreakInput) :
    (payload.tickers.map (·.ticker)).Nodup :=
  payload.valid.2

end Daybreak.Contracts
