import Daybreak.Features.CoreFeatures

/-! The float record and the catalyst of a candidate, as they were known at the time
of the snapshot. -/

namespace Daybreak.Features

open Contracts Daybreak.Order Numeric DecimalArithmetic

variable {D : Type} [DecimalArithmetic D]

/-- The record is of the ticker, in force and of a quality that the configuration allows. -/
def FloatRecord.Usable (ticker : String) (snapshot : Timestamp) (config : FeatureEngineConfig D)
    (record : FloatRecord) : Prop :=
  record.ticker = ticker ∧ record.effectiveDate ≤ utcDate snapshot ∧
    record.observedAt ≤ snapshot ∧ record.validatedAt ≤ snapshot ∧ snapshot < record.expiresAt ∧
    (record.qualityStatus = .verified ∨
      (config.allowSingleSourceFloat = true ∧ record.qualityStatus = .singleSource))

instance (ticker : String) (snapshot : Timestamp) (config : FeatureEngineConfig D)
    (record : FloatRecord) : Decidable (record.Usable ticker snapshot config) :=
  inferInstanceAs (Decidable (_ ∧ _))

/-- `(item.effective_date, item.observed_at, item.validated_at)` -/
def FloatRecord.recency (record : FloatRecord) : Day ×ₗ ℤ ×ₗ ℤ :=
  toLex (record.effectiveDate, toLex (record.observedAt, record.validatedAt))

def selectFloatRecord (records : List FloatRecord) (ticker : String) (snapshot : Timestamp)
    (config : FeatureEngineConfig D) : FeatureResult FloatRecord :=
  let candidates := records.filter (·.Usable ticker snapshot config)
  match candidates.argmax FloatRecord.recency with
  | none => .error (.dataQuality .floatDataUnavailable "no valid point-in-time float record")
  | some record => .ok record

def sourcePriority : SourceType → ℕ
  | .primary => 0
  | .secondary => 1
  | .unconfirmed => 2

/-- `(priority, 0 if corroborated else 1, -source_timestamp.timestamp(), catalyst_id)`, with
the time in seconds as a float. -/
def CatalystRecord.selectionKey (catalyst : CatalystRecord) : ℕ ×ₗ ℕ ×ₗ ℚ ×ₗ String :=
  toLex (sourcePriority catalyst.sourceType, toLex (if catalyst.corroborated then 0 else 1,
    toLex (-binary64 ((catalyst.sourceTimestamp : ℚ) / 1000000), catalyst.catalystId)))

/-- `ofFloat` is `Decimal(str(x))` of a float. -/
def selectCatalyst (ofFloat : ℚ → D) (records : List CatalystRecord) (ticker : String)
    (snapshot : Timestamp) : FeatureResult (CatalystRecord × D) := do
  let known := records.filter fun record => record.ticker = ticker ∧ record.observedAt ≤ snapshot
  match (sortedBy CatalystRecord.selectionKey known).head? with
  | none => throw (.dataQuality .catalystDataUnavailable "no catalyst known by snapshot")
  | some selected =>
    let ageSeconds := ofFloat (elapsedSeconds snapshot selected.sourceTimestamp)
    if value ageSeconds < 0 then
      throw (.dataQuality .futureCatalystTimestamp "source timestamp is after snapshot")
    let ageHours ← arith (div ageSeconds (ofInt 3600))
    let ageHours ← quantizeSix ageHours
    return (selected, ageHours)

end Daybreak.Features
