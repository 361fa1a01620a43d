import Daybreak.Features.Models
import Daybreak.Numeric.Quotient

/-! What the scanner reads and what it reports. A price is a subtype, so that a model
holds only prices that its validation accepts. -/

namespace Daybreak.Scanner

open Contracts Features Numeric

/-- `gt=0, max_digits=18, decimal_places=6`: six decimals and twelve whole digits. -/
abbrev IsPrice (x : ℚ) : Prop := 0 < x ∧ (x * 10 ^ 6).den = 1 ∧ x < 10 ^ 12

/-- `Money` -/
abbrev Money := {x : Decimal // IsPrice x.toRat}

/-- A row of the gainers. -/
structure MarketMover where
  ticker : String
  percentChange : Decimal
  change : Decimal
  price : Money
  canonical : isCanonicalTicker ticker = true

structure ScannerPolicy where
  gapMinPct : Decimal := .literal 40 (-1)
  premarketVolumeMin : ℕ := 500000
  rvolMin : Decimal := .literal 50 (-1)
  rvolLookbackSessions : ℕ := 20
  maxCandidates : ℕ := 20
  lookback_pos : 1 ≤ rvolLookbackSessions
  candidates_bounds : 1 ≤ maxCandidates ∧ maxCandidates ≤ 25

structure CandidateQualification where
  ticker : String
  percentChange : Decimal
  price : Money
  volume : ℕ
  relativeVolume : Option Decimal := none
  qualifies : Bool
  disqualificationReasons : List String := []
  canonical : isCanonicalTicker ticker = true

structure Signal where
  ticker : String
  tradingDate : Day
  generatedAt : Timestamp
  entryPrice : Money
  atrValue : Money
  stopPrice : Money
  targetPrice1 : Money
  targetPrice2 : Money
  percentChange : Decimal
  relativeVolume : Option Decimal := none
  forecastTrendPct : Option Decimal := none
  canonical : isCanonicalTicker ticker = true

/-- The validation of a price of a `Signal`. -/
def money (x : Decimal) : Result Money :=
  if h : IsPrice x.toRat then .ok ⟨x, h⟩ else .error (.validationError "Signal")

theorem money_eq_ok {x : Decimal} {price : Money} : money x = .ok price ↔ x = price.1 := by
  unfold money
  split_ifs with h
  · rw [Except.ok.injEq, Subtype.ext_iff]
  · exact iff_of_false nofun fun hx => h (hx ▸ price.2)

/-! ### The grid of the prices -/

/-- The context writes every number of six decimals below this bound. -/
theorem representable_of_multiple {x : ℚ} (hGrid : Multiple (10 ^ (-6 : ℤ)) x)
    (h : |x| < 10 ^ 22) : Representable x := by
  obtain ⟨n, rfl⟩ := hGrid
  refine ⟨n, -6, ?_, rfl⟩
  have hPower : (0 : ℚ) < 10 ^ (-6 : ℤ) := by norm_num
  rw [abs_mul, abs_of_pos hPower, ← lt_div_iff₀ hPower] at h
  have hBound : |(n : ℚ)| < 10 ^ 28 := h.trans_eq (by norm_num)
  have hInt : |n| < 10 ^ 28 := by exact_mod_cast hBound
  rw [Int.abs_eq_natAbs] at hInt
  exact_mod_cast hInt

theorem multiple_iff_den {x : ℚ} : Multiple (10 ^ (-6 : ℤ)) x ↔ (x * 10 ^ 6).den = 1 := by
  rw [Rat.den_eq_one_iff]
  constructor
  · rintro ⟨n, rfl⟩
    have hScaled : (n : ℚ) * 10 ^ (-6 : ℤ) * 10 ^ 6 = n := by
      rw [mul_assoc]
      norm_num
    rw [hScaled, Rat.num_intCast]
  · intro h
    refine ⟨(x * 10 ^ 6).num, ?_⟩
    rw [h, mul_assoc]
    norm_num

theorem Money.multiple (price : Money) : Multiple (10 ^ (-6 : ℤ)) price.1.toRat :=
  multiple_iff_den.mpr price.2.2.1

theorem isPrice_iff {x : ℚ} (hGrid : Multiple (10 ^ (-6 : ℤ)) x) :
    IsPrice x ↔ 0 < x ∧ x < 10 ^ 12 :=
  and_congr_right fun _ => and_iff_right (multiple_iff_den.mp hGrid)

end Daybreak.Scanner
