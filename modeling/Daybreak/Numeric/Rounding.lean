import Mathlib.Data.Rat.Floor
import Mathlib.Data.Int.Log
import Mathlib.Tactic.Linarith
import Mathlib.Tactic.Ring
import Mathlib.Tactic.FieldSimp

/-! Rounding of exact rationals to a quantum, in the three modes the decimal
standard calls floor, ceiling and half-even, and to a fixed number of
significant digits in any base. The quantum forms are the specification that a
decimal `quantize` meets; fifty-three binary digits give double precision. -/

namespace Daybreak.Numeric

inductive RoundingMode where
  | floor | ceiling | halfEven
  deriving DecidableEq, Repr

/-- Nearest integer, ties to the even neighbour. -/
def roundHalfEven (x : ℚ) : ℤ :=
  if x - ⌊x⌋ < 1 / 2 then ⌊x⌋
  else if 1 / 2 < x - ⌊x⌋ then ⌊x⌋ + 1
  else if ⌊x⌋ % 2 = 0 then ⌊x⌋ else ⌊x⌋ + 1

def roundInt : RoundingMode → ℚ → ℤ
  | .floor, x => ⌊x⌋
  | .ceiling, x => ⌈x⌉
  | .halfEven, x => roundHalfEven x

/-- The multiple of `q` that `mode` chooses for `x`. -/
def roundTo (mode : RoundingMode) (q x : ℚ) : ℚ := roundInt mode (x / q) * q

/-- `x` is a whole number of quanta. -/
def Multiple (q x : ℚ) : Prop := ∃ n : ℤ, x = n * q

theorem roundHalfEven_intCast (n : ℤ) : roundHalfEven n = n := by
  simp [roundHalfEven]

theorem roundInt_intCast (mode : RoundingMode) (n : ℤ) : roundInt mode n = n := by
  cases mode
  · exact Int.floor_intCast n
  · exact Int.ceil_intCast n
  · exact roundHalfEven_intCast n

theorem multiple_roundTo (mode : RoundingMode) (q x : ℚ) : Multiple q (roundTo mode q x) :=
  ⟨_, rfl⟩

/-- A value already on the grid is unchanged in every mode. -/
theorem roundTo_of_multiple (mode : RoundingMode) {q x : ℚ} (hq : 0 < q) (hx : Multiple q x) :
    roundTo mode q x = x := by
  obtain ⟨n, rfl⟩ := hx
  rw [roundTo, mul_div_cancel_right₀ _ hq.ne', roundInt_intCast]

theorem Multiple.intCast_mul {q x : ℚ} (hx : Multiple q x) (k : ℤ) : Multiple q (x * k) := by
  obtain ⟨n, rfl⟩ := hx
  exact ⟨n * k, by push_cast; ring⟩

theorem Multiple.sub {q x y : ℚ} (hx : Multiple q x) (hy : Multiple q y) :
    Multiple q (x - y) := by
  obtain ⟨n, rfl⟩ := hx
  obtain ⟨m, rfl⟩ := hy
  exact ⟨n - m, by push_cast; ring⟩

theorem Multiple.trans {p q x : ℚ} (hx : Multiple q x) (hq : Multiple p q) : Multiple p x := by
  obtain ⟨n, rfl⟩ := hx
  obtain ⟨m, rfl⟩ := hq
  exact ⟨n * m, by push_cast; ring⟩

theorem roundTo_floor_le {q : ℚ} (hq : 0 < q) (x : ℚ) : roundTo .floor q x ≤ x := by
  have h := mul_le_mul_of_nonneg_right (Int.floor_le (x / q)) hq.le
  rwa [div_mul_cancel₀ _ hq.ne'] at h

theorem roundTo_floor_mono {q x y : ℚ} (hq : 0 < q) (h : x ≤ y) :
    roundTo .floor q x ≤ roundTo .floor q y := by
  have hFloor : ⌊x / q⌋ ≤ ⌊y / q⌋ := Int.floor_mono ((div_le_div_iff_of_pos_right hq).mpr h)
  exact mul_le_mul_of_nonneg_right (Int.cast_le.mpr hFloor) hq.le

/-- Only a floor quotient is ever compared with a quantity, so its two
characteristic bounds are the whole interface of an integer cap. -/
theorem le_floor_div_iff {a b : ℚ} (hb : 0 < b) (n : ℤ) : n ≤ ⌊a / b⌋ ↔ n * b ≤ a := by
  rw [Int.le_floor, le_div_iff₀ hb]

/-- Round half-even to `p` significant base-`b` digits. -/
def roundSignificant (b p : ℕ) (x : ℚ) : ℚ :=
  if x = 0 then 0 else roundTo .halfEven ((b : ℚ) ^ (Int.log b |x| - (p - 1 : ℤ))) x

/-- The double-precision value nearest to `x`, the exponent range left out. -/
def binary64 (x : ℚ) : ℚ := roundSignificant 2 53 x

theorem floor_le_roundHalfEven (x : ℚ) : ⌊x⌋ ≤ roundHalfEven x := by
  unfold roundHalfEven
  split_ifs <;> omega

/-- What is on the grid and below `x` is below the value rounded half-even. -/
theorem le_roundTo_halfEven {q x m : ℚ} (hq : 0 < q) (hm : Multiple q m) (h : m ≤ x) :
    m ≤ roundTo .halfEven q x := by
  obtain ⟨n, rfl⟩ := hm
  have hFloor : n ≤ ⌊x / q⌋ := (le_floor_div_iff hq n).mpr h
  have hRounded : n ≤ roundHalfEven (x / q) := hFloor.trans (floor_le_roundHalfEven _)
  exact mul_le_mul_of_nonneg_right (Int.cast_le.mpr hRounded) hq.le

/-- A double-precision quantum of `x`. -/
theorem binary64_eq {x : ℚ} (hx : 0 < x) :
    binary64 x = roundTo .halfEven (2 ^ (Int.log 2 x - 52)) x := by
  rw [binary64, roundSignificant, if_neg hx.ne', abs_of_pos hx]
  norm_num

theorem zpow_log_le {x : ℚ} (hx : 0 < x) : (2 : ℚ) ^ Int.log 2 x ≤ x :=
  Int.zpow_log_le_self (by norm_num) hx

theorem binary64_pos {x : ℚ} (hx : 0 < x) : 0 < binary64 x := by
  have hQuantum : (0 : ℚ) < 2 ^ (Int.log 2 x - 52) := zpow_pos (by norm_num) _
  have hBelow : (2 : ℚ) ^ (Int.log 2 x - 52) ≤ x := by
    refine le_trans (zpow_le_zpow_right₀ (by norm_num) ?_) (zpow_log_le hx)
    omega
  rw [binary64_eq hx]
  exact hQuantum.trans_le (le_roundTo_halfEven hQuantum ⟨1, by simp⟩ hBelow)

theorem roundHalfEven_le_ceil (x : ℚ) : roundHalfEven x ≤ ⌈x⌉ := by
  have hFloor := Int.floor_le_ceil x
  unfold roundHalfEven
  split_ifs with hLow hHigh hEven
  · exact hFloor
  all_goals
    have hAbove : ⌊x⌋ < ⌈x⌉ := by
      rw [Int.lt_ceil]
      linarith
    omega

theorem binary64_neg {x : ℚ} (hx : x < 0) : binary64 x < 0 := by
  have hAbs : 0 < |x| := abs_pos.mpr hx.ne
  have hQuantum : (0 : ℚ) < 2 ^ (Int.log 2 |x| - 52) := zpow_pos (by norm_num) _
  have hEq : binary64 x = roundTo .halfEven (2 ^ (Int.log 2 |x| - 52)) x := by
    rw [binary64, roundSignificant, if_neg hx.ne]
    norm_num
  have hBelow : (2 : ℚ) ^ (Int.log 2 |x| - 52) ≤ |x| := by
    refine le_trans (zpow_le_zpow_right₀ (by norm_num) ?_) (zpow_log_le hAbs)
    omega
  have hCeil : ⌈x / 2 ^ (Int.log 2 |x| - 52)⌉ ≤ -1 := by
    rw [Int.ceil_le, div_le_iff₀ hQuantum]
    rw [abs_of_neg hx] at hBelow
    rw [abs_of_neg hx]
    push_cast
    linarith
  have hRound : roundHalfEven (x / 2 ^ (Int.log 2 |x| - 52)) < 0 := by
    have hLe := roundHalfEven_le_ceil (x / 2 ^ (Int.log 2 |x| - 52))
    omega
  rw [hEq, roundTo]
  exact mul_neg_of_neg_of_pos (Int.cast_lt_zero.mpr hRound) hQuantum

/-- A dyadic number lies on every finer binary grid. -/
theorem multiple_dyadic {e : ℤ} {k : ℕ} (he : e ≤ -k) (n : ℕ) :
    Multiple (2 ^ e) ((n : ℚ) / 2 ^ k) := by
  refine ⟨n * 2 ^ (-k - e).toNat, ?_⟩
  have hExp : (2 : ℚ) ^ (-k - e).toNat * 2 ^ e = (2 ^ k)⁻¹ := by
    rw [← zpow_natCast, Int.toNat_of_nonneg (by omega), ← zpow_add₀ (by norm_num)]
    simp
  push_cast
  rw [mul_assoc, hExp, div_eq_mul_inv]

/-- Double precision does not fall below a dyadic number that it has exactly. -/
theorem dyadic_le_binary64 {n k : ℕ} (hn : n ≤ 2 ^ 52) {x : ℚ} (h : (n : ℚ) / 2 ^ k ≤ x) :
    (n : ℚ) / 2 ^ k ≤ binary64 x := by
  have hNonneg : (0 : ℚ) ≤ n / 2 ^ k := by positivity
  rcases hNonneg.trans h |>.eq_or_lt with rfl | hx
  · simpa [binary64, roundSignificant] using h
  · have hQuantum : (0 : ℚ) < 2 ^ (Int.log 2 x - 52) := zpow_pos (by norm_num) _
    rw [binary64_eq hx]
    by_cases he : Int.log 2 x - 52 ≤ -k
    · exact le_roundTo_halfEven hQuantum (multiple_dyadic he n) h
    · have hPower : (2 : ℚ) ^ Int.log 2 x ≤ roundTo .halfEven (2 ^ (Int.log 2 x - 52)) x := by
        refine le_roundTo_halfEven hQuantum ⟨2 ^ 52, ?_⟩ (zpow_log_le hx)
        rw [zpow_sub₀ (by norm_num)]
        push_cast
        rw [mul_div_cancel₀]
        norm_num
      refine le_trans ?_ hPower
      calc (n : ℚ) / 2 ^ k ≤ 2 ^ 52 / 2 ^ k := by gcongr; exact_mod_cast hn
        _ = 2 ^ (52 - k : ℤ) := by rw [zpow_sub₀ (by norm_num)]; norm_cast
        _ ≤ 2 ^ Int.log 2 x := zpow_le_zpow_right₀ (by norm_num) (by omega)

/-- Double precision does not fall below a whole number that it has exactly. -/
theorem natCast_le_binary64 {n : ℕ} (hn : n ≤ 2 ^ 52) {x : ℚ} (h : n ≤ x) : n ≤ binary64 x := by
  have hDyadic : (n : ℚ) / 2 ^ 0 ≤ binary64 x := dyadic_le_binary64 hn (by simpa using h)
  simpa using hDyadic

/-- Integer part towards zero, as `int()` takes it. -/
def truncate (x : ℚ) : ℤ := if 0 ≤ x then ⌊x⌋ else ⌈x⌉

theorem truncate_intCast (n : ℤ) : truncate n = n := by
  simp [truncate]

end Daybreak.Numeric
