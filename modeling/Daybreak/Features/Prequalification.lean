import Daybreak.Features.Models
import Mathlib.Data.Prod.Lex
import Mathlib.Data.String.Basic

/-! The refusals of a candidate whose features are known, and the order in which
the others compete for the capacity of the evaluator. -/

namespace Daybreak.Features

open Contracts Numeric DecimalArithmetic

variable {D : Type} [DecimalArithmetic D]

/-- The reason, where its condition holds. -/
def reasonIf (condition : Prop) [Decidable condition] (reason : PrequalReason) :
    List PrequalReason :=
  if condition then [reason] else []

def prequalReasons (features : CandidateFeatures D) (config : FeatureEngineConfig D) :
    List PrequalReason :=
  reasonIf features.halted .halted ++
    reasonIf (value features.gapPct < value config.gapMinPct) .gapTooSmall ++
    reasonIf (features.premarketVolume < config.premarketVolumeMin) .premarketVolumeTooLow ++
    reasonIf (value features.rvolTimeMatched.1 < value config.rvolMin) .rvolTooLow ++
    reasonIf (value features.resistance.distanceToResistanceAtr < value config.resistanceMinAtr)
      .resistanceTooClose ++
    reasonIf (features.resistance.chartStructure = .capped) .cappedChart ++
    reasonIf (features.catalyst.sourceType = .unconfirmed) .unconfirmedSource ++
    reasonIf (features.catalyst.disqualifierFlags ≠ []) .disqualifyingCatalyst

def prequalify (features : CandidateFeatures D) (config : FeatureEngineConfig D) :
    PrequalificationDecision where
  ticker := features.ticker
  accepted := (prequalReasons features config).isEmpty
  reasonCodes := prequalReasons features config
  featureSourceHash := some features.featureSourceHash

/-- Source type, corroboration, volume profile, age, relative volume, volume, distance, ticker. -/
def capacitySortKey (features : CandidateFeatures D) :
    ℕ ×ₗ ℕ ×ₗ ℕ ×ₗ ℚ ×ₗ ℚ ×ₗ ℤ ×ₗ ℚ ×ₗ String :=
  toLex (if features.catalyst.sourceType = .primary then 0 else 1,
    toLex (if features.catalyst.corroborated then 0 else 1,
    toLex (if features.volumeProfile = .clean then 0 else 1,
    toLex (value features.catalystAgeHours.1,
    toLex (value (neg features.rvolTimeMatched.1),
    toLex (-(features.premarketVolume : ℤ),
    toLex (value (neg features.resistance.distanceToResistanceAtr), features.ticker)))))))

theorem ticker_of_capacitySortKey {a b : CandidateFeatures D}
    (h : capacitySortKey a = capacitySortKey b) : a.ticker = b.ticker :=
  congrArg (fun key => (ofLex (ofLex (ofLex (ofLex (ofLex (ofLex (ofLex key).2).2).2).2).2).2).2) h

end Daybreak.Features
