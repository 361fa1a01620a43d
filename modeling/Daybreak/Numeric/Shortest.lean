import Daybreak.Numeric.Double
import Daybreak.Numeric.Quotient

/-! The shortest digits that a double is read from. The doubles around a number are so far
apart that seventeen digits always tell them from each other; of the shortest ones the
nearest is written. -/

namespace Daybreak.Numeric

variable {q x v m : ℚ}

/-! ### Grids -/

/-- Distinct numbers of a grid are a quantum apart. -/
theorem Multiple.add_le (hx : Multiple q x) (hm : Multiple q m) (hq : 0 < q) (h : x < m) :
    x + q ≤ m := by
  obtain ⟨i, rfl⟩ := hx
  obtain ⟨j, rfl⟩ := hm
  have hStep : i + 1 ≤ j := Int.add_one_le_of_lt (by
    have hCast : (i : ℚ) < j := lt_of_mul_lt_mul_right h hq.le
    exact_mod_cast hCast)
  have hCast : ((i : ℚ) + 1) ≤ j := by exact_mod_cast hStep
  have hScaled := mul_le_mul_of_nonneg_right hCast hq.le
  linarith

/-- What is less than half a quantum from a number of the grid is rounded to it. -/
theorem roundTo_halfEven_of_near (hq : 0 < q) (hx : Multiple q x) (h : |v - x| < q / 2) :
    roundTo .halfEven q v = x := by
  obtain ⟨n, rfl⟩ := hx
  obtain ⟨hLow, hHigh⟩ := abs_lt.mp h
  have hBelow : (n : ℚ) - 1 / 2 < v / q := by
    rw [lt_div_iff₀ hq]
    linarith
  have hAbove : v / q < n + 1 / 2 := by
    rw [div_lt_iff₀ hq]
    linarith
  have hRound : roundHalfEven (v / q) = n := by
    rcases le_or_gt (n : ℚ) (v / q) with hSide | hSide
    · exact roundHalfEven_of_lt_half hSide hAbove
    · have hHalf : ((n - 1 : ℤ) : ℚ) + 1 / 2 < v / q := by
        push_cast
        linarith
      rw [roundHalfEven_of_half_lt hHalf (by push_cast; linarith), sub_add_cancel]
  rw [roundTo, roundInt, hRound]

theorem abs_roundHalfEven_sub (z : ℚ) : |roundHalfEven z - z| ≤ 1 / 2 := by
  have hLow := Int.floor_le z
  have hHigh := Int.lt_floor_add_one z
  unfold roundHalfEven
  split_ifs <;> push_cast <;> exact abs_le.mpr ⟨by linarith, by linarith⟩

/-- Rounding moves a number by half a quantum at most. -/
theorem abs_roundTo_halfEven_sub (hq : 0 < q) (x : ℚ) : |roundTo .halfEven q x - x| ≤ q / 2 := by
  have hScaled : roundTo .halfEven q x - x = (roundHalfEven (x / q) - x / q) * q := by
    rw [roundTo, roundInt, sub_mul, div_mul_cancel₀ _ hq.ne']
  have hStep := mul_le_mul_of_nonneg_right (abs_roundHalfEven_sub (x / q)) hq.le
  rw [hScaled, abs_mul, abs_of_pos hq]
  linarith

/-! ### Doubles -/

theorem doubleQuantum_of_pos (hx : 0 < x) :
    doubleQuantum x = (2 : ℚ) ^ max (Int.log 2 x - 52) (-1074) := by
  rw [doubleQuantum, abs_of_pos hx]

theorem doubleQuantum_neg (x : ℚ) : doubleQuantum (-x) = doubleQuantum x := by
  rw [doubleQuantum, abs_neg, doubleQuantum]

theorem roundDouble_neg (x : ℚ) : roundDouble (-x) = -roundDouble x := by
  rw [roundDouble, doubleQuantum_neg, roundTo_halfEven_neg, roundDouble]

theorem abs_roundDouble (x : ℚ) : |roundDouble x| = roundDouble |x| := by
  rcases le_or_gt 0 x with h | h
  · rw [abs_of_nonneg h, abs_of_nonneg (roundDouble_nonneg h)]
  · have hFlip := roundDouble_nonneg (neg_nonneg.mpr h.le)
    rw [roundDouble_neg] at hFlip
    rw [abs_of_neg h, roundDouble_neg, abs_of_nonpos (by linarith)]

theorem multiple_doubleQuantum (h : roundDouble x = x) : Multiple (doubleQuantum x) x := by
  have hMultiple := multiple_roundTo .halfEven (doubleQuantum x) x
  rwa [← roundDouble, h] at hMultiple

/-- The grid of a number has the powers of two from its quantum on. -/
theorem multiple_doubleQuantum_zpow (hx : 0 < x) {k : ℤ} (hSmall : -1074 ≤ k)
    (h : Int.log 2 x - 52 ≤ k) : Multiple (doubleQuantum x) (2 ^ k) := by
  rw [doubleQuantum_of_pos hx]
  exact multiple_zpow (max_le h hSmall)

/-- A positive double is at least the least one. -/
theorem log_of_double (hx : 0 < x) (hDouble : roundDouble x = x) : -1074 ≤ Int.log 2 x := by
  have hStep := Multiple.add_le ⟨0, by simp⟩ (multiple_doubleQuantum hDouble)
    (doubleQuantum_pos x) hx
  have hQuantum : (2 : ℚ) ^ (-1074 : ℤ) ≤ doubleQuantum x := by
    rw [doubleQuantum_of_pos hx]
    exact zpow_le_zpow_right₀ (by norm_num) (le_max_right _ _)
  have hLeast : (2 : ℚ) ^ (-1074 : ℤ) ≤ x := by linarith
  exact (Int.zpow_le_iff_le_log (b := 2) (by norm_num) hx).mp (by exact_mod_cast hLeast)

/-- A number of a grid is on the finer ones. -/
theorem Multiple.of_log_le {y : ℚ} (h : Multiple (doubleQuantum x) m) (hx : 0 < x) (hy : 0 < y)
    (hLog : Int.log 2 y ≤ max (Int.log 2 x) (-1022)) : Multiple (doubleQuantum y) m := by
  refine h.trans ?_
  rw [doubleQuantum_of_pos hx, doubleQuantum_of_pos hy]
  exact multiple_zpow (by omega)

theorem roundDouble_roundDouble_of_pos (hx : 0 < x) :
    roundDouble (roundDouble x) = roundDouble x := by
  have hGrid : Multiple (doubleQuantum x) (roundDouble x) := multiple_roundTo _ _ _
  rcases (roundDouble_nonneg hx.le).eq_or_lt with hZero | hPositive
  · rw [← hZero, roundDouble_of_multiple ⟨0, by simp⟩]
  -- the next power of two that is on the grid bounds the double
  have hTop : roundDouble x ≤ 2 ^ max (Int.log 2 x + 1) (-1074) := by
    refine roundTo_halfEven_le (doubleQuantum_pos x)
      (multiple_doubleQuantum_zpow hx (le_max_right _ _) (by omega)) ?_
    have hUpper : x < (2 : ℚ) ^ (Int.log 2 x + 1) := Int.lt_zpow_succ_log_self (by norm_num) x
    exact hUpper.le.trans (zpow_le_zpow_right₀ (by norm_num) (le_max_left _ _))
  rcases hTop.lt_or_eq with hBelow | hPower
  · have hLog : Int.log 2 (roundDouble x) < max (Int.log 2 x + 1) (-1074) :=
      (Int.lt_zpow_iff_log_lt (b := 2) (by norm_num) hPositive).mp (by exact_mod_cast hBelow)
    exact roundDouble_of_multiple (hGrid.of_log_le hx hPositive (by omega))
  · have hLog : Int.log 2 (roundDouble x) = max (Int.log 2 x + 1) (-1074) := by
      rw [hPower]
      exact Int.log_zpow (by norm_num) _
    refine roundDouble_of_multiple ?_
    rw [doubleQuantum_of_pos hPositive, hLog, hPower]
    exact multiple_zpow (by omega)

/-- A double is rounded to itself. -/
theorem roundDouble_roundDouble (x : ℚ) : roundDouble (roundDouble x) = roundDouble x := by
  rcases lt_trichotomy x 0 with hNegative | rfl | hPositive
  · have hFlip := roundDouble_roundDouble_of_pos (neg_pos.mpr hNegative)
    rwa [roundDouble_neg, roundDouble_neg, neg_inj] at hFlip
  · rw [roundDouble_of_multiple (x := 0) ⟨0, by simp⟩, roundDouble_of_multiple ⟨0, by simp⟩]
  · exact roundDouble_roundDouble_of_pos hPositive

/-- No power of two of the grid is between a double and a number within half a quantum. -/
theorem le_zpow_of_near (hx : 0 < x) (hDouble : roundDouble x = x)
    (h : |v - x| < doubleQuantum x / 2) {k : ℤ} (hSmall : -1074 ≤ k) (hk : Int.log 2 x - 52 ≤ k) :
    (v < 2 ^ k → x ≤ 2 ^ k) ∧ (x < 2 ^ k → v < 2 ^ k) := by
  have hGrid := multiple_doubleQuantum hDouble
  have hPower := multiple_doubleQuantum_zpow hx hSmall hk
  have hQuantum := doubleQuantum_pos x
  obtain ⟨hLow, hHigh⟩ := abs_lt.mp h
  constructor
  · intro hv
    by_contra hAbove
    have hStep := hPower.add_le hGrid hQuantum (not_le.mp hAbove)
    linarith
  · intro hBelow
    have hStep := hGrid.add_le hPower hQuantum hBelow
    linarith

/-- A number so near to a double that seventeen digits do not tell them apart is rounded to
the double. -/
theorem roundDouble_of_near (hx : 0 < x) (hDouble : roundDouble x = x)
    (h : |v - x| * (2 * 10 ^ 16) ≤ x) : roundDouble v = x := by
  have hLogX := log_of_double hx hDouble
  -- the distance is less than half the quantum that any power above the double gives
  have hDistance {k : ℤ} (hPower : x ≤ 2 ^ (k + 1)) : |v - x| < (2 : ℚ) ^ (k - 52) / 2 := by
    have hSplit : (2 : ℚ) ^ (k + 1) = 2 ^ (k - 52) / 2 * 2 ^ (54 : ℕ) := by
      rw [← zpow_natCast (2 : ℚ) 54, div_mul_eq_mul_div, ← zpow_add₀ (by norm_num),
        eq_div_iff (by norm_num), ← zpow_add_one₀ (by norm_num)]
      congr 1
      push_cast
      ring
    have hPositive : (0 : ℚ) < 2 ^ (k - 52) := zpow_pos (by norm_num) _
    by_contra hFar
    rw [not_lt] at hFar
    have hScaled : (2 : ℚ) ^ (k - 52) / 2 * (2 * 10 ^ 16) ≤ x := by linarith
    rw [hSplit] at hPower
    nlinarith
  have hUpper : x < (2 : ℚ) ^ (Int.log 2 x + 1) := Int.lt_zpow_succ_log_self (by norm_num) x
  have hNear : |v - x| < doubleQuantum x / 2 := by
    have hQuantum : (2 : ℚ) ^ (Int.log 2 x - 52) ≤ doubleQuantum x := by
      rw [doubleQuantum_of_pos hx]
      exact zpow_le_zpow_right₀ (by norm_num) (le_max_left _ _)
    linarith [hDistance hUpper.le]
  have hHalf : x / 2 ≤ v := by linarith [neg_abs_le (v - x)]
  have hv : 0 < v := by linarith
  have hLogLow : Int.log 2 x - 1 ≤ Int.log 2 v := by
    refine (Int.zpow_le_iff_le_log (b := 2) (by norm_num) hv).mp ?_
    have hPower := zpow_log_le hx
    push_cast
    rw [zpow_sub_one₀ (by norm_num)]
    linarith
  have hLogHigh : Int.log 2 v < Int.log 2 x + 1 := by
    refine (Int.lt_zpow_iff_log_lt (b := 2) (by norm_num) hv).mp ?_
    exact_mod_cast (le_zpow_of_near hx hDouble hNear (by omega) (by omega)).2 hUpper
  have hAbove : v < (2 : ℚ) ^ (Int.log 2 v + 1) := Int.lt_zpow_succ_log_self (by norm_num) v
  have hPower := (le_zpow_of_near hx hDouble hNear (by omega) (by omega)).1 hAbove
  have hGrid : Multiple (doubleQuantum v) x :=
    (multiple_doubleQuantum hDouble).of_log_le hx hv (by omega)
  refine roundTo_halfEven_of_near (doubleQuantum_pos v) hGrid ?_
  have hQuantum : (2 : ℚ) ^ (Int.log 2 v - 52) ≤ doubleQuantum v := by
    rw [doubleQuantum_of_pos hv]
    exact zpow_le_zpow_right₀ (by norm_num) (le_max_left _ _)
  linarith [hDistance hPower]

/-! ### The shortest digits -/

/-- The place of the last of `n` digits. -/
def lastPlace (n : ℕ) (x : ℚ) : ℤ := Int.log 10 x + 1 - n

/-- The `n` digits nearest to a double, or those on its other side, that it is read from. -/
def shortened (n : ℕ) (x : ℚ) : Option ℤ :=
  let unit := (10 : ℚ) ^ lastPlace n x
  let nearest := roundHalfEven (x / unit)
  let other := if nearest = ⌊x / unit⌋ then nearest + 1 else nearest - 1
  [nearest, other].find? fun c => roundDouble (c * unit) = x

/-- Nines that were rounded up are one digit; other digits that end in a zero are found with
fewer ones. -/
def carried (n : ℕ) (x : ℚ) (c : ℤ) : Decimal :=
  if c = 10 ^ n then ⟨false, 1, lastPlace 0 x⟩ else ⟨false, c.toNat, lastPlace n x⟩

/-- The decimal with the fewest digits that a positive double is read from. -/
def shortestDecimal (x : ℚ) : Decimal :=
  ((List.range 17).findSome? fun i => (shortened (i + 1) x).map (carried (i + 1) x)).getD
    ⟨false, 0, 0⟩

example : shortestDecimal (roundDouble (3 / 10)) = ⟨false, 3, -1⟩ ∧
    shortestDecimal (roundDouble (10 ^ 23)) = ⟨false, 1, 23⟩ := by decide +kernel

theorem zpow_lastPlace_mul (n : ℕ) (x : ℚ) :
    (10 : ℚ) ^ lastPlace n x * 10 ^ n = 10 ^ (Int.log 10 x + 1) := by
  rw [← zpow_natCast, ← zpow_add₀ (by norm_num), lastPlace, sub_add_cancel]

theorem shortened_eq_some {n : ℕ} {c : ℤ} (h : shortened n x = some c) :
    roundDouble (c * 10 ^ lastPlace n x) = x ∧
      ⌊x / (10 : ℚ) ^ lastPlace n x⌋ ≤ c ∧ c ≤ ⌊x / (10 : ℚ) ^ lastPlace n x⌋ + 1 := by
  unfold shortened at h
  dsimp only at h
  set z := x / (10 : ℚ) ^ lastPlace n x with hz
  have hLow := floor_le_roundHalfEven z
  have hHigh := (roundHalfEven_le_ceil z).trans (Int.ceil_le_floor_add_one z)
  have hMem := List.mem_of_find?_eq_some h
  have hRead := List.find?_some h
  refine ⟨of_decide_eq_true hRead, ?_⟩
  simp only [List.mem_cons, List.not_mem_nil, or_false] at hMem
  rcases hMem with rfl | rfl
  · exact ⟨hLow, hHigh⟩
  · split_ifs <;> omega

/-- `n` digits are at least a one with zeros and below the next such number. -/
theorem floor_lastPlace (hx : 0 < x) (n : ℕ) :
    (10 : ℚ) ^ Int.log 10 x ≤ (⌊x / (10 : ℚ) ^ lastPlace (n + 1) x⌋ : ℚ) * 10 ^ lastPlace (n + 1) x ∧
      0 < ⌊x / (10 : ℚ) ^ lastPlace (n + 1) x⌋ ∧
      ⌊x / (10 : ℚ) ^ lastPlace (n + 1) x⌋ < 10 ^ (n + 1) := by
  have hUnit : (0 : ℚ) < 10 ^ lastPlace (n + 1) x := zpow_pos (by norm_num) _
  have hPower : (10 : ℚ) ^ Int.log 10 x = (10 ^ n : ℤ) * 10 ^ lastPlace (n + 1) x := by
    have hScale := zpow_lastPlace_mul (n + 1) x
    rw [zpow_add_one₀ (by norm_num), pow_succ] at hScale
    push_cast
    linarith
  have hFirst : (10 : ℤ) ^ n ≤ ⌊x / (10 : ℚ) ^ lastPlace (n + 1) x⌋ := by
    have hLow : (10 : ℚ) ^ Int.log 10 x ≤ x := by
      exact_mod_cast Int.zpow_log_le_self (b := 10) (by norm_num) hx
    rwa [le_floor_div_iff hUnit, ← hPower]
  refine ⟨?_, lt_of_lt_of_le (by positivity) hFirst, ?_⟩
  · rw [hPower]
    exact mul_le_mul_of_nonneg_right (Int.cast_le.mpr hFirst) hUnit.le
  · have hHigh : x < (10 : ℚ) ^ (Int.log 10 x + 1) := by
      exact_mod_cast Int.lt_zpow_succ_log_self (b := 10) (by norm_num) x
    rw [Int.floor_lt, div_lt_iff₀ hUnit]
    push_cast
    rwa [mul_comm, zpow_lastPlace_mul]

/-- Seventeen digits are enough. -/
theorem isSome_shortened (hx : 0 < x) (hDouble : roundDouble x = x) :
    (shortened 17 x).isSome = true := by
  have hUnit : (0 : ℚ) < 10 ^ lastPlace 17 x := zpow_pos (by norm_num) _
  have hRead : roundDouble (roundHalfEven (x / 10 ^ lastPlace 17 x) * 10 ^ lastPlace 17 x) = x := by
    refine roundDouble_of_near hx hDouble ?_
    have hNear := abs_roundTo_halfEven_sub hUnit x
    have hScale := zpow_lastPlace_mul 17 x
    have hLow : (10 : ℚ) ^ Int.log 10 x ≤ x := by
      exact_mod_cast Int.zpow_log_le_self (b := 10) (by norm_num) hx
    rw [zpow_add_one₀ (by norm_num)] at hScale
    rw [roundTo, roundInt] at hNear
    linarith
  rw [shortened, List.find?_cons_of_pos]
  · rfl
  · exact decide_eq_true hRead

/-- What is written of a positive double: at most seventeen digits, that are read as the
double, of a number that is not below the power of ten under it. -/
structure IsShort (x : ℚ) (d : Decimal) : Prop where
  sign : d.sign = false
  positive : 0 < d.coefficient
  digits : d.coefficient < 10 ^ 17
  read : roundDouble d.toRat = x
  low : (10 : ℚ) ^ Int.log 10 x ≤ d.toRat

theorem isShort_carried (hx : 0 < x) {n : ℕ} (hn : n < 17) {c : ℤ}
    (h : shortened (n + 1) x = some c) : IsShort x (carried (n + 1) x c) := by
  obtain ⟨hRead, hLow, hHigh⟩ := shortened_eq_some h
  obtain ⟨hFirst, hPositive, hDigits⟩ := floor_lastPlace hx n
  have hUnit : (0 : ℚ) < 10 ^ lastPlace (n + 1) x := zpow_pos (by norm_num) _
  have hc : c ≤ 10 ^ (n + 1) := by omega
  have hValue : (carried (n + 1) x c).toRat = c * 10 ^ lastPlace (n + 1) x := by
    unfold carried
    split_ifs with hNines
    · have hTop : lastPlace 0 x = Int.log 10 x + 1 := sub_zero _
      have hOne : (Decimal.mk false 1 (lastPlace 0 x)).toRat = 10 ^ lastPlace 0 x := by
        simp [Decimal.toRat, Decimal.signed]
      rw [hOne, hTop, hNines, ← zpow_lastPlace_mul (n + 1), mul_comm]
      push_cast
      rfl
    · have hNat : Decimal.signed c.toNat false = c := Int.toNat_of_nonneg (by omega)
      rw [Decimal.toRat, hNat]
  have hPower : (10 : ℤ) ^ (n + 1) ≤ 10 ^ 17 := pow_le_pow_right₀ (by norm_num) (by omega)
  constructor
  case sign => unfold carried; split_ifs <;> rfl
  case positive =>
    unfold carried
    split_ifs
    · exact one_pos
    · change 0 < c.toNat
      omega
  case digits =>
    unfold carried
    split_ifs with hNines
    · norm_num
    · change c.toNat < 10 ^ 17
      have hBelow : c < 10 ^ 17 := by omega
      zify
      rw [Int.toNat_of_nonneg (by omega)]
      exact hBelow
  case read => rw [hValue, hRead]
  case low =>
    rw [hValue]
    exact hFirst.trans (mul_le_mul_of_nonneg_right (Int.cast_le.mpr hLow) hUnit.le)

/-- A positive double is read from the digits that are written of it. -/
theorem isShort_shortestDecimal (hx : 0 < x) (hDouble : roundDouble x = x) :
    IsShort x (shortestDecimal x) := by
  unfold shortestDecimal
  cases hFind : (List.range 17).findSome? fun i => (shortened (i + 1) x).map (carried (i + 1) x) with
  | none =>
    have hLast := List.findSome?_eq_none_iff.mp hFind 16 (by simp)
    have hSome := isSome_shortened hx hDouble
    rw [Option.map_eq_none_iff] at hLast
    rw [hLast] at hSome
    cases hSome
  | some d =>
    obtain ⟨i, hi, hd⟩ := List.exists_of_findSome?_eq_some hFind
    obtain ⟨c, hc, rfl⟩ := Option.map_eq_some_iff.mp hd
    exact isShort_carried hx (List.mem_range.mp hi) hc

end Daybreak.Numeric
