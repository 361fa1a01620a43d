import Daybreak.Numeric.Rounding

/-! The conversion of an exact number to double precision: fifty-three binary digits,
fewer below the least normal number, and no number from the overflow threshold on.
The conversion is monotone on positive numbers across the changes of its quantum. -/

namespace Daybreak.Numeric

variable {q x y m : ℚ}

/-! ### Half-even rounding -/

theorem roundHalfEven_mono (h : x ≤ y) : roundHalfEven x ≤ roundHalfEven y := by
  rcases (Int.floor_mono h).lt_or_eq with hFloor | hFloor
  · have hBelow : roundHalfEven x ≤ ⌊x⌋ + 1 :=
      (roundHalfEven_le_ceil x).trans (Int.ceil_le_floor_add_one x)
    exact hBelow.trans ((Int.add_one_le_of_lt hFloor).trans (floor_le_roundHalfEven y))
  · unfold roundHalfEven
    rw [hFloor]
    split_ifs with h₁ h₂ h₃ h₄ h₅ h₆ <;> first | omega | (exfalso; linarith)

theorem roundTo_halfEven_mono (hq : 0 < q) (h : x ≤ y) :
    roundTo .halfEven q x ≤ roundTo .halfEven q y := by
  have hQuotient : x / q ≤ y / q := div_le_div_of_nonneg_right h hq.le
  exact mul_le_mul_of_nonneg_right (Int.cast_le.mpr (roundHalfEven_mono hQuotient)) hq.le

/-- What is on the grid and above `x` is above the value rounded half-even. -/
theorem roundTo_halfEven_le (hq : 0 < q) (hm : Multiple q m) (h : x ≤ m) :
    roundTo .halfEven q x ≤ m := by
  rw [← roundTo_of_multiple .halfEven hq hm]
  exact roundTo_halfEven_mono hq h

/-! ### Double precision -/

/-- The distance of neighbouring doubles around `x`. -/
def doubleQuantum (x : ℚ) : ℚ := (2 : ℚ) ^ max (Int.log 2 |x| - 52) (-1074)

/-- The nearest double, the exponent unbounded above. -/
def roundDouble (x : ℚ) : ℚ := roundTo .halfEven (doubleQuantum x) x

/-- `float(x)`, and nothing where it is infinite. -/
def toDouble (x : ℚ) : Option ℚ :=
  if |roundDouble x| < 2 ^ 1024 then some (roundDouble x) else none

theorem doubleQuantum_pos (x : ℚ) : 0 < doubleQuantum x := zpow_pos (by norm_num) _

/-- A power of two at least as large as a quantum is on its grid. -/
theorem multiple_zpow {i j : ℤ} (h : i ≤ j) : Multiple ((2 : ℚ) ^ i) ((2 : ℚ) ^ j) := by
  obtain ⟨k, rfl⟩ := Int.le.dest h
  refine ⟨2 ^ k, ?_⟩
  rw [zpow_add₀ (by norm_num), zpow_natCast]
  push_cast
  ring

theorem roundDouble_of_multiple (h : Multiple (doubleQuantum x) x) : roundDouble x = x :=
  roundTo_of_multiple _ (doubleQuantum_pos x) h

theorem roundDouble_zpow {k : ℤ} (h : -1022 ≤ k) : roundDouble ((2 : ℚ) ^ k) = 2 ^ k := by
  refine roundDouble_of_multiple ?_
  unfold doubleQuantum
  rw [abs_of_pos (zpow_pos (by norm_num) _)]
  refine multiple_zpow ?_
  have hLog : Int.log 2 ((2 : ℚ) ^ k) = k := Int.log_zpow (by norm_num) k
  omega

theorem roundDouble_natCast {n : ℕ} (h : n < 2 ^ 53) : roundDouble n = n := by
  refine roundDouble_of_multiple ?_
  have hOne : Multiple (doubleQuantum n) ((2 : ℚ) ^ (0 : ℤ)) := by
    rw [doubleQuantum, abs_of_nonneg (Nat.cast_nonneg n)]
    have hLog : Int.log 2 (n : ℚ) ≤ 52 := by
      have hNat : Nat.log 2 n < 53 := by
        rcases Nat.eq_zero_or_pos n with rfl | hn
        · norm_num
        · exact Nat.log_lt_of_lt_pow hn.ne' h
      rw [Int.log_natCast]
      omega
    exact multiple_zpow (by omega)
  simpa using hOne.intCast_mul n

theorem roundDouble_nonneg (h : 0 ≤ x) : 0 ≤ roundDouble x :=
  le_roundTo_halfEven (doubleQuantum_pos x) ⟨0, by simp⟩ h

theorem roundDouble_mono (hx : 0 < x) (h : x ≤ y) : roundDouble x ≤ roundDouble y := by
  have hy : 0 < y := hx.trans_le h
  unfold roundDouble doubleQuantum
  rw [abs_of_pos hx, abs_of_pos hy]
  have hLog : Int.log 2 x ≤ Int.log 2 y := Int.log_mono_right hx h
  by_cases hSame : max (Int.log 2 x - 52) (-1074) = max (Int.log 2 y - 52) (-1074)
  · rw [hSame]
    exact roundTo_halfEven_mono (zpow_pos (by norm_num) _) h
  · -- a power of two between the two numbers is on both grids
    have hBetween : x ≤ (2 : ℚ) ^ Int.log 2 y := by
      have hUpper : x < (2 : ℚ) ^ (Int.log 2 x + 1) := Int.lt_zpow_succ_log_self (by norm_num) x
      refine hUpper.le.trans (zpow_le_zpow_right₀ (by norm_num) ?_)
      omega
    calc roundTo .halfEven (2 ^ max (Int.log 2 x - 52) (-1074)) x ≤ 2 ^ Int.log 2 y :=
          roundTo_halfEven_le (zpow_pos (by norm_num) _) (multiple_zpow (by omega)) hBetween
      _ ≤ roundTo .halfEven (2 ^ max (Int.log 2 y - 52) (-1074)) y :=
          le_roundTo_halfEven (zpow_pos (by norm_num) _) (multiple_zpow (by omega))
            (zpow_log_le hy)

theorem roundDouble_mono_of_nonneg (hx : 0 ≤ x) (h : x ≤ y) : roundDouble x ≤ roundDouble y := by
  rcases hx.eq_or_lt with rfl | hPositive
  · have hZero : roundDouble 0 = 0 := by exact_mod_cast roundDouble_natCast (n := 0) (by norm_num)
    rw [hZero]
    exact roundDouble_nonneg h
  · exact roundDouble_mono hPositive h

/-- A double that is not above a number is not above the double of the number. -/
theorem le_roundDouble (hm : 0 < m) (hDouble : roundDouble m = m) (h : m ≤ x) :
    m ≤ roundDouble x := hDouble ▸ roundDouble_mono hm h

theorem roundDouble_le (hx : 0 < x) (hDouble : roundDouble m = m) (h : x ≤ m) :
    roundDouble x ≤ m := hDouble ▸ roundDouble_mono hx h

theorem abs_roundDouble_le {k : ℤ} (hk : 0 ≤ k) (h : |x| ≤ 2 ^ k) : |roundDouble x| ≤ 2 ^ k := by
  have hLog : Int.log 2 |x| ≤ k := by
    rcases eq_or_ne x 0 with rfl | hx
    · simpa using hk
    · have hPower := (zpow_log_le (abs_pos.mpr hx)).trans h
      exact (zpow_le_zpow_iff_right₀ (by norm_num)).mp hPower
  have hGrid : Multiple (doubleQuantum x) (2 ^ k) := multiple_zpow (by omega)
  have hNeg : Multiple (doubleQuantum x) (-2 ^ k) := by
    simpa using hGrid.intCast_mul (-1)
  obtain ⟨hLow, hHigh⟩ := abs_le.mp h
  exact abs_le.mpr ⟨le_roundTo_halfEven (doubleQuantum_pos x) hNeg hLow,
    roundTo_halfEven_le (doubleQuantum_pos x) hGrid hHigh⟩

theorem toDouble_eq_some {r : ℚ} :
    toDouble x = some r ↔ r = roundDouble x ∧ |roundDouble x| < 2 ^ 1024 := by
  unfold toDouble
  split_ifs with h
  · simp [h, eq_comm]
  · simp [h]

/-- A number within a million million million million is finite as a double. -/
theorem toDouble_of_abs_le (h : |x| ≤ 10 ^ 24) : toDouble x = some (roundDouble x) := by
  have hPower : |x| ≤ (2 : ℚ) ^ (80 : ℤ) := h.trans (by norm_num)
  have hBound := abs_roundDouble_le (by norm_num) hPower
  have hFinite : (2 : ℚ) ^ (80 : ℤ) < 2 ^ 1024 := by
    rw [show (80 : ℤ) = (80 : ℕ) from rfl, zpow_natCast]
    exact pow_lt_pow_right₀ (by norm_num) (by norm_num)
  exact toDouble_eq_some.mpr ⟨rfl, hBound.trans_lt hFinite⟩

end Daybreak.Numeric
