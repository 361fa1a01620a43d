import Daybreak.Features.Models
import Daybreak.Numeric.Double

/-! What canonical JSON can write. A decimal that is a whole number is written as an
integer and any other one as a float; an integer of more than 4300 digits and an
infinite float are refused, so that a hash may raise. -/

namespace Daybreak.Features

open Numeric DecimalArithmetic

variable {D : Type} [DecimalArithmetic D]

/-- An integer that can be turned into text, or a number that is finite as a float. -/
def Writable (x : ℚ) : Prop := if x.den = 1 then |x.num| < 10 ^ 4300 else (toDouble x).isSome

instance (x : ℚ) : Decidable (Writable x) := by
  unfold Writable; infer_instance

/-- `canonical_sha256`, with `sha256` the hash of the canonical JSON of a value. -/
def canonicalSha256 {α : Type} (sha256 : α → String) (numbers : List ℚ) (a : α) : Result String :=
  if ∀ x ∈ numbers, Writable x then .ok (sha256 a) else .error (.other "ValueError")

theorem canonicalSha256_eq_ok {α : Type} {sha256 : α → String} {numbers : List ℚ} {a : α}
    {hash : String} : canonicalSha256 sha256 numbers a = .ok hash ↔
      hash = sha256 a ∧ ∀ x ∈ numbers, Writable x := by
  unfold canonicalSha256
  split_ifs with h
  · rw [Except.ok.injEq, eq_comm, and_iff_left h]
  · simp [h]

/-! ### The numbers of a model

The numbers that an input sets and the results of decimal operations; what counts the
elements of a list is left out. -/

def EventFields.numbers (e : EventFields D) : List ℚ :=
  (e.ingestSeq : ℚ) :: e.price.toList.map (value ·.1) ++ e.size.toList.map fun size => (size : ℚ)

def PremarketSession.numbers (session : PremarketSession D) : List ℚ :=
  session.events.flatMap (·.numbers)

def DailyBar.numbers (bar : DailyBar D) : List ℚ :=
  [value bar.openPrice.1, value bar.high.1, value bar.low.1, value bar.close.1, bar.volume]

def CandidateSourceData.numbers (source : CandidateSourceData D) : List ℚ :=
  value source.previousRegularClose.1 :: source.currentSessionEvents.flatMap (·.numbers) ++
    source.historicalPremarketSessions.flatMap (·.numbers) ++ source.dailyBars.flatMap (·.numbers) ++
    source.floatRecords.map fun record => (record.floatShares : ℚ)

def FeatureEngineConfig.numbers (config : FeatureEngineConfig D) : List ℚ :=
  [config.rvolLookbackSessions, config.minDailyHistory, value config.clusterToleranceAtr,
    value config.blueSkySentinel, value config.spikyMaxBucketShare,
    value config.spikyMinNonemptyCoverage, value config.gapMinPct, config.premarketVolumeMin,
    value config.rvolMin, value config.resistanceMinAtr]

def FeatureContext.numbers (context : FeatureContext D) : List ℚ :=
  value context.catalystFreshnessThresholdHours.1 :: context.candidates.flatMap (·.numbers) ++
    context.config.numbers

def ResistanceAudit.numbers (audit : ResistanceAudit D) : List ℚ :=
  value audit.allTimeHighPrice.1 :: value audit.distanceToResistanceAtr ::
    (audit.selectedZoneLow.toList ++ audit.selectedZoneHigh.toList ++
      audit.selectedZoneCenter.toList).map value

def CandidateFeatures.numbers (features : CandidateFeatures D) : List ℚ :=
  [value features.currentPrice.1, value features.premarketLow.1, value features.gapPct,
    features.premarketVolume, value features.rvolTimeMatched.1, value features.atrValue.1,
    value features.premarketVwap.1, value features.distanceFromVwapAtr, features.floatShares,
    value features.catalystAgeHours.1] ++ features.resistance.numbers

end Daybreak.Features
