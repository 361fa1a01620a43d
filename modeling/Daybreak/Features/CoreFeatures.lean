import Daybreak.Effect.Fallible
import Daybreak.Features.Ledger
import Daybreak.Numeric.Largest
import Mathlib.Data.List.MinMax

/-! The core market features of a candidate. Times of day are those of the exchange:
`zone` is the conversion of a timestamp to New York, which the time-zone database
determines and which fails outside the years that it can represent. -/

namespace Daybreak.Features

open Contracts Daybreak.Order Effect.Fallible Numeric DecimalArithmetic

variable {D : Type} [DecimalArithmetic D]

/-- `value.astimezone(NY)`, as far as its date and its time of day. -/
abbrev TimeZone := Timestamp → Result LocalTime

/-- A decimal operation, whose signals are raised. -/
def arith {α : Type} (x : Except DecimalSignal α) : FeatureResult α := raising (signals x)

/-- `value.quantize(SIX, rounding=ROUND_HALF_EVEN)` -/
def quantizeSix (x : D) : FeatureResult D := arith (quantize .halfEven (-6) x)

/-- `sum(values)` -/
def total (xs : List D) : D := xs.foldl add (ofInt 0)

/-! ### Windows -/

/-- `time.fromisoformat(config.premarket_start_et)` -/
def premarketStart (config : FeatureEngineConfig D) : FeatureResult ClockTime :=
  match timeFromIsoformat config.premarketStartEt with
  | some start => .ok start
  | none => .error (.raised (.valueError "Invalid isoformat string"))

/-- `start <= time <= stop`; a time with an offset cannot be compared with one without. -/
def between (start : ClockTime) (time stop : ℕ) : FeatureResult Bool :=
  if start.aware then .error (.raised (.other "TypeError"))
  else .ok (start.micros ≤ time && time ≤ stop)

def inPremarketWindow (zone : TimeZone) (snapshot : Timestamp) (config : FeatureEngineConfig D)
    (trade : MaterializedTrade D) : FeatureResult Bool := do
  let wall ← raising (zone trade.eventTimestamp)
  let now ← raising (zone snapshot)
  let start ← premarketStart config
  if wall.date = now.date then between start wall.time now.time else return false

def currentSessionTrades (zone : TimeZone) (events : List (TradeLedgerEvent D))
    (snapshot : Timestamp) (config : FeatureEngineConfig D) :
    FeatureResult (List (MaterializedTrade D)) := do
  let trades ← materializeTrades events
  filterOk (inPremarketWindow zone snapshot config) trades

/-! ### Prices and volumes -/

def currentPrice (trades : List (MaterializedTrade D)) : FeatureResult (PositiveDecimal D) :=
  match trades.getLast? with
  | none => .error (.dataQuality .noEligiblePremarketTrades
      "no materialized trades in snapshot window")
  | some trade => .ok trade.price

def premarketLow (trades : List (MaterializedTrade D)) : FeatureResult (PositiveDecimal D) :=
  match (trades.map (·.price)).argmin fun price => value price.1 with
  | none => .error (.dataQuality .noEligiblePremarketTrades "cannot calculate premarket low")
  | some price => .ok price

def gapPct (price previousClose : D) : FeatureResult D := do
  if value previousClose ≤ 0 then
    throw (.dataQuality .invalidPreviousClose "previous close must be positive")
  let change ← arith (div (sub price previousClose) previousClose)
  quantizeSix (mul change (ofInt 100))

def premarketVolume (trades : List (MaterializedTrade D)) : ℕ :=
  (trades.map fun trade => (trade.size : ℕ)).sum

def premarketVwap (trades : List (MaterializedTrade D)) : FeatureResult D := do
  let volume := premarketVolume trades
  if volume = 0 then
    throw (.dataQuality .zeroPremarketVolume "cannot calculate VWAP with zero volume")
  let notional := total (trades.map fun trade => mul trade.price.1 (ofInt (trade.size : ℕ)))
  let vwap ← arith (div notional (ofInt volume))
  quantizeSix vwap

def distanceFromVwapAtr (price vwap atr : D) : FeatureResult D := do
  if value atr ≤ 0 then throw (.dataQuality .invalidAtr "ATR must be positive")
  let distance ← arith (div (sub price vwap) atr)
  quantizeSix distance

/-! ### Average true range -/

def trueRange (current : DailyBar D) (previousClose : D) : D :=
  pyMax (pyMax (sub current.high.1 current.low.1) (abs (sub current.high.1 previousClose)))
    (abs (sub current.low.1 previousClose))

def wilderAtr14 (bars : List (DailyBar D)) : FeatureResult D := do
  let period := FeatureEngineConfig.atrPeriod
  if bars.length < period + 1 then
    throw (.dataQuality .insufficientAtrHistory "ATR-14 requires at least 15 daily bars")
  let ranges := bars.tail.zipWith (fun current previous => trueRange current previous.close.1) bars
  let initial ← arith (div (total (ranges.take period)) (ofInt period))
  let atr ← (ranges.drop period).foldlM (fun atr range =>
    arith (div (add (mul atr (ofInt (period - 1))) range) (ofInt period))) initial
  if value atr ≤ 0 then throw (.dataQuality .invalidAtr "computed ATR is nonpositive")
  quantizeSix atr

/-! ### Relative volume -/

def inSessionWindow (zone : TimeZone) (session : PremarketSession D) (start : ClockTime)
    (cutoff : ℕ) (trade : MaterializedTrade D) : FeatureResult Bool := do
  let wall ← raising (zone trade.eventTimestamp)
  if wall.date = session.sessionDate then between start wall.time cutoff else return false

def historicalSessionVolume (zone : TimeZone) (snapshot : Timestamp)
    (config : FeatureEngineConfig D) (session : PremarketSession D) : FeatureResult ℕ := do
  if session.complete = false then
    throw (.dataQuality .incompleteRvolSession
      s!"historical session {isoDate session.sessionDate} incomplete")
  let cutoff ← raising (zone snapshot)
  let start ← premarketStart config
  let materialized ← materializeTrades session.events
  let eligible ← filterOk (inSessionWindow zone session start cutoff.time) materialized
  return premarketVolume eligible

def rvolTimeMatched (zone : TimeZone) (currentVolume : ℕ) (sessions : List (PremarketSession D))
    (snapshot : Timestamp) (config : FeatureEngineConfig D) : FeatureResult D := do
  let lookback := config.rvolLookbackSessions
  if sessions.length < lookback then
    throw (.dataQuality .insufficientRvolHistory
      s!"requires {lookback} complete historical sessions")
  let selected := (sortedBy (·.sessionDate) sessions).drop (sessions.length - lookback)
  let volumes ← selected.mapM (historicalSessionVolume zone snapshot config)
  let average ← arith (div (ofInt (volumes.sum : ℕ) : D) (ofInt (volumes.length : ℕ)))
  if value average ≤ 0 then
    throw (.dataQuality .zeroRvolBaseline "historical premarket average is zero")
  let rvol ← arith (div (ofInt currentVolume) average)
  quantizeSix rvol

/-! ### Volume profile -/

/-- A round of the loop: the size of a trade goes to the bucket of its minute. -/
def addToBucket (zone : TimeZone) (startMinutes bucketCount : ℤ) (buckets : List ℕ)
    (trade : MaterializedTrade D) : FeatureResult (List ℕ) := do
  let wall ← raising (zone trade.eventTimestamp)
  let minute : ℤ := wall.time / microsPerMinute
  let index := min ((minute - startMinutes) / FeatureEngineConfig.volumeBucketMinutes)
    (bucketCount - 1)
  return if 0 ≤ index then buckets.modify index.toNat (· + trade.size) else buckets

def volumeProfile (zone : TimeZone) (trades : List (MaterializedTrade D)) (snapshot : Timestamp)
    (config : FeatureEngineConfig D) : FeatureResult VolumeProfile := do
  let volume := premarketVolume trades
  if volume = 0 then
    throw (.dataQuality .zeroPremarketVolume "cannot classify volume profile")
  let now ← raising (zone snapshot)
  let start ← premarketStart config
  let startMinutes : ℤ := start.micros / microsPerMinute
  let endMinutes : ℤ := now.time / microsPerMinute
  let bucketCount := (endMinutes - startMinutes) / FeatureEngineConfig.volumeBucketMinutes + 1
  if bucketCount ≤ 0 then
    throw (.dataQuality .invalidPremarketWindow "snapshot precedes premarket start")
  let buckets ← trades.foldlM (addToBucket zone startMinutes bucketCount)
    (List.replicate bucketCount.toNat 0)
  let maxShare ← arith (div (ofInt (largest buckets : ℕ) : D) (ofInt volume))
  let coverage ← arith (div (ofInt (buckets.countP (0 < ·) : ℕ) : D) (ofInt bucketCount))
  return if value config.spikyMaxBucketShare < value maxShare ∨
      value coverage < value config.spikyMinNonemptyCoverage then .spiky else .clean

end Daybreak.Features
