import Daybreak.Numeric.Significant
import Mathlib.Data.Nat.Cast.Field

/-! Quotients of the decimal context. The long division keeps two digits more than the context
has, and a digit that tells a remainder, so a quotient is the exact one, rounded once. Of two
natural numbers, it differs from the exact quotient by what the division leaves. -/

namespace Daybreak.Numeric

/-! ### Rounding between two integers -/

theorem roundHalfEven_of_lt_half {z : ℚ} {n : ℤ} (hLow : n ≤ z) (hHalf : z < n + 1 / 2) :
    roundHalfEven z = n := by
  have hFloor : ⌊z⌋ = n := Int.floor_eq_iff.mpr ⟨hLow, by linarith⟩
  rw [roundHalfEven, hFloor, if_pos (by linarith)]

theorem roundHalfEven_of_half_lt {z : ℚ} {n : ℤ} (hHalf : n + 1 / 2 < z) (hHigh : z < n + 1) :
    roundHalfEven z = n + 1 := by
  have hFloor : ⌊z⌋ = n := Int.floor_eq_iff.mpr ⟨by linarith, hHigh⟩
  rw [roundHalfEven, hFloor, if_neg (by linarith), if_pos (by linarith)]

/-- The nearest multiple of `d` leaves of `n` at most half of `d`, and of the two nearest that
are as near the even one is chosen. -/
def leftover (n d : ℕ) : ℤ :=
  if 2 * (n % d) < d ∨ 2 * (n % d) = d ∧ n / d % 2 = 0 then (n % d : ℕ)
  else (n % d : ℕ) - (d : ℤ)

theorem roundHalfEven_div {n d : ℕ} (hd : 0 < d) :
    (roundHalfEven ((n : ℚ) / d) : ℚ) = ((n : ℚ) - leftover n d) / d := by
  have hPositive : (0 : ℚ) < d := by exact_mod_cast hd
  have hSplit : ((d * (n / d) + n % d : ℕ) : ℚ) = n := by rw [Nat.div_add_mod]
  have hQuotient : (n : ℚ) / d = (n / d : ℕ) + (n % d : ℕ) / (d : ℚ) := by
    rw [← hSplit]
    push_cast
    field_simp
  have hFloor : ⌊(n : ℚ) / d⌋ = (n / d : ℕ) := by
    rw [Rat.floor_natCast_div_natCast]
    norm_cast
  have hLess : (n : ℚ) / d - ((n / d : ℕ) : ℤ) < 1 / 2 ↔ 2 * (n % d) < d := by
    rw [hQuotient, Int.cast_natCast, add_sub_cancel_left, div_lt_div_iff₀ hPositive (by norm_num)]
    exact_mod_cast (by omega : n % d * 2 < 1 * d ↔ 2 * (n % d) < d)
  have hMore : 1 / 2 < (n : ℚ) / d - ((n / d : ℕ) : ℤ) ↔ d < 2 * (n % d) := by
    rw [hQuotient, Int.cast_natCast, add_sub_cancel_left, div_lt_div_iff₀ (by norm_num) hPositive]
    exact_mod_cast (by omega : 1 * d < n % d * 2 ↔ d < 2 * (n % d))
  have hEven : ((n / d : ℕ) : ℤ) % 2 = 0 ↔ n / d % 2 = 0 := by omega
  rw [eq_div_iff hPositive.ne', roundHalfEven, hFloor]
  simp only [hLess, hMore, hEven, leftover]
  push_cast at hSplit
  generalize n / d = q at hSplit ⊢
  generalize n % d = r at hSplit ⊢
  by_cases hDown : 2 * r < d
  · rw [if_pos hDown, if_pos (.inl hDown)]
    push_cast
    linarith
  · by_cases hUp : d < 2 * r
    · rw [if_neg hDown, if_pos hUp, if_neg (by omega)]
      push_cast
      linarith
    · have hTie : 2 * r = d := by omega
      rw [if_neg hDown, if_neg hUp]
      by_cases hParity : q % 2 = 0
      · rw [if_pos hParity, if_pos (.inr ⟨hTie, hParity⟩)]
        push_cast
        linarith
      · rw [if_neg hParity, if_neg (by omega)]
        push_cast
        linarith

namespace Decimal

/-! ### The rounded quotient -/

theorem round_eq_of_log {z : ℚ} {k : ℕ} (hz : 0 < z) (hLog : Int.log 10 z = k + (prec - 1))
    (e : ℤ) : round (z * (10 : ℚ) ^ e) =
      roundHalfEven (z / 10 ^ k) * (10 : ℚ) ^ ((k : ℤ) + e) := by
  have hPower : (0 : ℚ) < (10 : ℚ) ^ e := zpow_pos (by norm_num) _
  have hPositive : 0 < z * (10 : ℚ) ^ e := mul_pos hz hPower
  have hLow : ((10 : ℕ) : ℚ) ^ (Int.log 10 z + e) ≤ z * (10 : ℚ) ^ e := by
    rw [Nat.cast_ofNat, zpow_add₀ (by norm_num)]
    exact mul_le_mul_of_nonneg_right (Int.zpow_log_le_self (by norm_num) hz) hPower.le
  have hHigh : z * (10 : ℚ) ^ e < ((10 : ℕ) : ℚ) ^ (Int.log 10 z + e + 1) := by
    rw [Nat.cast_ofNat, add_right_comm, zpow_add₀ (by norm_num)]
    exact mul_lt_mul_of_pos_right (Int.lt_zpow_succ_log_self (by norm_num) z) hPower
  have hScaled : Int.log 10 (z * (10 : ℚ) ^ e) = Int.log 10 z + e := by
    have hAtLeast := (Int.zpow_le_iff_le_log (by norm_num) hPositive).mp hLow
    have hBelow := (Int.lt_zpow_iff_log_lt (by norm_num) hPositive).mp hHigh
    omega
  have hQuantum : Int.log 10 z + e - ((prec : ℤ) - 1) = k + e := by
    rw [hLog]
    ring
  rw [round, roundSignificant_of_pos hPositive, hScaled, hQuantum, Nat.cast_ofNat, roundTo, roundInt,
    zpow_add₀ (by norm_num), zpow_natCast, mul_div_mul_right _ _ hPower.ne']

/-- The last digit of a coefficient tells that there is a remainder. -/
def sticky (c : ℕ) : ℕ := if c % 5 = 0 then c + 1 else c

/-- Where two digits or one are dropped, the sticky digit stands for any remainder. -/
theorem roundHalfEven_sticky {c k : ℕ} {z : ℚ} (hk : 0 < k) (hLow : c < z) (hHigh : z < c + 1) :
    roundHalfEven ((sticky c : ℕ) / 10 ^ k) = roundHalfEven (z / 10 ^ k) := by
  obtain ⟨j, rfl⟩ := Nat.exists_eq_succ_of_ne_zero hk.ne'
  obtain ⟨half, hHalf⟩ : ∃ half, 5 * 10 ^ j = half := ⟨_, rfl⟩
  have hPower : 10 ^ (j + 1) = 2 * half := by rw [← hHalf, pow_succ]; ring
  have hPowerRat : (10 : ℚ) ^ (j + 1) = 2 * half := by exact_mod_cast hPower
  have hPositive : 0 < half := by rw [← hHalf]; positivity
  have hHalfRat : (0 : ℚ) < half := by exact_mod_cast hPositive
  have hFive : half % 5 = 0 := by rw [← hHalf, Nat.mul_mod_right]
  obtain ⟨q, hq⟩ : ∃ q, c / (2 * half) = q := ⟨_, rfl⟩
  obtain ⟨r, hr⟩ : ∃ r, c % (2 * half) = r := ⟨_, rfl⟩
  have hSplit : 2 * half * q + r = c := by rw [← hq, ← hr, Nat.div_add_mod]
  have hRest : r < 2 * half := by rw [← hr]; exact Nat.mod_lt _ (by omega)
  have hDigit : c % 5 = r % 5 := by
    have hMultiple : 2 * half * q % 5 = 0 := by
      rw [Nat.mul_mod, Nat.mul_mod 2 half, hFive]
      simp
    omega
  have hSplitRat : (2 * half * q + r : ℚ) = c := by exact_mod_cast hSplit
  have hScale : ∀ y : ℚ, y / (2 * half) - q = (y - 2 * half * q) / (2 * half) := by
    intro y
    field_simp
  -- both numbers are on the same side of the middle
  have hBoth : ∀ y : ℚ, 2 * half * q ≤ y → y < 2 * half * (q + 1) →
      (r < half → y < 2 * half * q + half) → (¬ r < half → 2 * half * q + half < y) →
      roundHalfEven (y / (2 * half)) = if r < half then (q : ℤ) else q + 1 := by
    intro y hAbove hBelow hDown hUp
    split_ifs with hSide
    · refine roundHalfEven_of_lt_half ?_ ?_
      · rw [le_div_iff₀ (by positivity)]
        push_cast
        linarith
      · rw [div_lt_iff₀ (by positivity)]
        push_cast
        linarith [hDown hSide]
    · refine roundHalfEven_of_half_lt ?_ ?_
      · rw [lt_div_iff₀ (by positivity)]
        push_cast
        linarith [hUp hSide]
      · rw [div_lt_iff₀ (by positivity)]
        push_cast
        linarith
  have hSticky : 2 * half * q + r ≤ sticky c ∧ sticky c < 2 * half * q + 2 * half ∧
      (r < half → sticky c < 2 * half * q + half) ∧
      (¬ r < half → 2 * half * q + half < sticky c) := by
    unfold sticky
    split_ifs with hZero <;> omega
  obtain ⟨hAbove, hBelow, hDown, hUp⟩ := hSticky
  rw [hPowerRat, hBoth, hBoth]
  · linarith [(Nat.cast_nonneg r : (0 : ℚ) ≤ r)]
  · have hLess : (r + 1 : ℚ) ≤ 2 * half := by exact_mod_cast hRest
    linarith
  · intro hSide
    have hLess : (r + 1 : ℚ) ≤ half := by exact_mod_cast hSide
    linarith
  · intro hSide
    have hMore : (half : ℚ) ≤ r := by exact_mod_cast not_lt.mp hSide
    linarith
  · exact_mod_cast (Nat.le_add_right _ r).trans hAbove
  · have hBelowRat : (sticky c : ℚ) < 2 * half * q + 2 * half := by exact_mod_cast hBelow
    linarith
  · intro hSide
    exact_mod_cast hDown hSide
  · intro hSide
    exact_mod_cast hUp hSide

theorem log_of_between {z : ℚ} {n : ℕ} (hLow : ((10 ^ n : ℕ) : ℚ) ≤ z)
    (hHigh : z < (10 ^ (n + 1) : ℕ)) : Int.log 10 z = n := by
  have hPositive : 0 < z := lt_of_lt_of_le (by positivity) hLow
  have hAtLeast : (n : ℤ) ≤ Int.log 10 z := by
    refine (Int.zpow_le_iff_le_log (by norm_num) hPositive).mp ?_
    rw [zpow_natCast]
    exact_mod_cast hLow
  have hBelow : Int.log 10 z < (n + 1 : ℕ) := by
    refine (Int.lt_zpow_iff_log_lt (by norm_num) hPositive).mp ?_
    rw [zpow_natCast]
    exact_mod_cast hHigh
  push_cast at hBelow
  omega

/-- A coefficient of more digits than the context with its sticky digit is rounded as the number
that it stands for. -/
theorem round_sticky {c : ℕ} {z : ℚ} (hc : 10 ^ prec ≤ c) (hLow : c < z) (hHigh : z < c + 1)
    (e : ℤ) : round (sticky c * (10 : ℚ) ^ e) = round (z * (10 : ℚ) ^ e) := by
  obtain ⟨n, hn⟩ : ∃ n, Nat.log 10 c = n := ⟨_, rfl⟩
  have hPositive : c ≠ 0 := by
    rintro rfl
    simp at hc
  have hDigits : 10 ^ n ≤ c := hn ▸ Nat.pow_log_le_self 10 hPositive
  have hNext : c < 10 ^ (n + 1) := hn ▸ Nat.lt_pow_succ_log_self (by norm_num) c
  have hWide : prec ≤ n := by
    rw [← hn]
    exact Nat.le_log_of_pow_le (by norm_num) hc
  obtain ⟨k, rfl⟩ : ∃ k, n = k + (prec - 1) := ⟨n - (prec - 1), by unfold prec at *; omega⟩
  have hk : 0 < k := by unfold prec at *; omega
  have hDrop : ((k + (prec - 1) : ℕ) : ℤ) = k + (prec - 1) := by unfold prec; norm_num
  have hSticky : 10 ^ (k + (prec - 1)) ≤ sticky c ∧ sticky c < 10 ^ (k + (prec - 1) + 1) := by
    have hFive : 10 ^ (k + (prec - 1) + 1) % 5 = 0 := by
      rw [pow_succ, Nat.mul_mod]
      simp
    unfold sticky
    split_ifs with hZero <;> omega
  have hzLow : ((10 ^ (k + (prec - 1)) : ℕ) : ℚ) ≤ z :=
    (show ((10 ^ (k + (prec - 1)) : ℕ) : ℚ) ≤ c by exact_mod_cast hDigits).trans hLow.le
  have hzHigh : z < (10 ^ (k + (prec - 1) + 1) : ℕ) :=
    hHigh.trans_le (by exact_mod_cast hNext)
  have hzPositive : 0 < z := lt_of_le_of_lt (Nat.cast_nonneg c) hLow
  have hStickyPositive : (0 : ℚ) < sticky c := by
    exact_mod_cast lt_of_lt_of_le (by positivity) hSticky.1
  have hStickyLog : Int.log 10 (sticky c : ℚ) = (k + (prec - 1) : ℕ) :=
    log_of_between (by exact_mod_cast hSticky.1) (by exact_mod_cast hSticky.2)
  rw [round_eq_of_log hzPositive ((log_of_between hzLow hzHigh).trans hDrop) e,
    round_eq_of_log hStickyPositive (hStickyLog.trans hDrop) e, roundHalfEven_sticky hk hLow hHigh]

theorem stripZeros_value (fuel c : ℕ) (e : ℤ) :
    ((stripZeros fuel c e).1 : ℚ) * (10 : ℚ) ^ (stripZeros fuel c e).2 = c * (10 : ℚ) ^ e := by
  induction fuel generalizing c e with
  | zero => rfl
  | succ fuel ih =>
    rw [stripZeros]
    split_ifs with hZero
    · have hTen : 10 * (c / 10) = c := by omega
      have hTenRat : (10 * (c / 10 : ℕ) : ℚ) = c := by exact_mod_cast hTen
      rw [ih, zpow_add₀ (by norm_num), zpow_one, ← hTenRat]
      ring
    · rfl

/-- What the context makes of the quotient of two decimals. -/
theorem toRat_div_eq {a b r : Decimal} (h : div a b = .ok r) :
    r.toRat = round (a.toRat / b.toRat) := by
  unfold div at h
  split_ifs at h with hb ha
  · obtain rfl := Except.ok.inj h
    rw [toRat_eq_zero.mpr ha, zero_div, round_zero]
    exact toRat_eq_zero.mpr rfl
  obtain ⟨shift, hShift⟩ : ∃ shift : ℤ,
      (digits b.coefficient : ℤ) - digits a.coefficient + prec + 1 = shift := ⟨_, rfl⟩
  obtain ⟨n, hn⟩ : ∃ n, a.coefficient * 10 ^ shift.toNat = n := ⟨_, rfl⟩
  obtain ⟨m, hm⟩ : ∃ m, b.coefficient * 10 ^ (-shift).toNat = m := ⟨_, rfl⟩
  simp only [hShift, hn, hm] at h
  have hbPositive : (0 : ℚ) < b.coefficient := by exact_mod_cast Nat.pos_of_ne_zero hb
  have hmPositive : 0 < m := by rw [← hm]; positivity
  have hmRat : (0 : ℚ) < m := by exact_mod_cast hmPositive
  have hScaled : (n : ℚ) / m = a.coefficient / b.coefficient * (10 : ℚ) ^ shift := by
    have hSplit : (10 : ℚ) ^ shift = (10 : ℚ) ^ shift.toNat / (10 : ℚ) ^ (-shift).toNat := by
      rw [← zpow_natCast, ← zpow_natCast, ← zpow_sub₀ (by norm_num)]
      congr 1
      omega
    rw [← hn, ← hm, hSplit]
    push_cast
    field_simp
  have hValue : a.toRat / b.toRat = (if (a.sign != b.sign) = true then -1 else 1) *
      ((n : ℚ) / m * (10 : ℚ) ^ (a.exponent - b.exponent - shift)) := by
    have hPower : (10 : ℚ) ^ shift * (10 : ℚ) ^ (a.exponent - b.exponent - shift) =
        (10 : ℚ) ^ a.exponent / (10 : ℚ) ^ b.exponent := by
      rw [← zpow_add₀ (by norm_num), ← zpow_sub₀ (by norm_num)]
      congr 1
      ring
    rw [hScaled, mul_assoc, hPower]
    unfold toRat signed
    cases a.sign <;> cases b.sign <;> simp <;> field_simp
  have hSigned : ∀ (c : ℕ) (e : ℤ), (fix ⟨a.sign != b.sign, c, e⟩).toRat =
      (if (a.sign != b.sign) = true then -1 else 1) * round (c * (10 : ℚ) ^ e) := by
    intro c e
    rw [toRat_fix_eq]
    unfold toRat signed
    split_ifs <;> simp [round_neg]
  have hRound : round (a.toRat / b.toRat) = (if (a.sign != b.sign) = true then -1 else 1) *
      round ((n : ℚ) / m * (10 : ℚ) ^ (a.exponent - b.exponent - shift)) := by
    rw [hValue]
    split_ifs <;> simp [round_neg]
  by_cases hExact : n % m = 0
  · rw [if_pos hExact] at h
    obtain rfl := Except.ok.inj h
    have hQuotient : ((n / m : ℕ) : ℚ) = (n : ℚ) / m :=
      Nat.cast_div (Nat.dvd_of_mod_eq_zero hExact) hmRat.ne'
    rw [hSigned, hRound, stripZeros_value, hQuotient]
  · rw [if_neg hExact] at h
    obtain rfl := Except.ok.inj h
    have hWide : 10 ^ prec ≤ n / m := by
      rw [Nat.le_div_iff_mul_le hmPositive]
      have haLow : 10 ^ Nat.log 10 a.coefficient ≤ a.coefficient := Nat.pow_log_le_self 10 ha
      have hbHigh : b.coefficient < 10 ^ (Nat.log 10 b.coefficient + 1) :=
        Nat.lt_pow_succ_log_self (by norm_num) _
      unfold digits at hShift
      calc 10 ^ prec * m ≤ 10 ^ prec * (10 ^ (Nat.log 10 b.coefficient + 1) * 10 ^ (-shift).toNat) := by
            rw [← hm]
            gcongr
        _ = 10 ^ Nat.log 10 a.coefficient * 10 ^ shift.toNat := by
            rw [← pow_add, ← pow_add, ← pow_add]
            congr 1
            push_cast at hShift
            omega
        _ ≤ n := by
            rw [← hn]
            gcongr
    have hLow : ((n / m : ℕ) : ℚ) < n / m := by
      rw [lt_div_iff₀ hmRat]
      have hRest : n / m * m < n := by
        have := Nat.div_add_mod' n m
        omega
      exact_mod_cast hRest
    have hHigh : (n : ℚ) / m < (n / m : ℕ) + 1 := by
      rw [div_lt_iff₀ hmRat]
      have hRest : n < (n / m + 1) * m := by
        have := Nat.div_add_mod' n m
        have := Nat.mod_lt n hmPositive
        rw [Nat.add_mul]
        omega
      exact_mod_cast hRest
    rw [hRound, ← round_sticky hWide hLow hHigh, ← hSigned]
    rfl

theorem toRat_ofInt (n : ℤ) : (ofInt n).toRat = n := DecimalArithmetic.value_ofInt (D := Decimal) n

/-- Every number can be divided by a count that is not zero. -/
theorem exists_div_ofInt (a : Decimal) {n : ℤ} (h : n ≠ 0) :
    ∃ r, div a (ofInt n) = .ok r ∧ r.toRat = round (a.toRat / n) := by
  have hCoefficient : (ofInt n).coefficient ≠ 0 := Int.natAbs_ne_zero.mpr h
  obtain ⟨r, hr⟩ := exists_div a hCoefficient
  have hValue := toRat_div_eq hr
  rw [toRat_ofInt] at hValue
  exact ⟨r, hr, hValue⟩

/-! ### Products -/

theorem toRat_product (a b : Decimal) : toRat ⟨a.sign != b.sign, a.coefficient * b.coefficient,
    a.exponent + b.exponent⟩ = a.toRat * b.toRat := by
  unfold toRat signed
  rw [zpow_add₀ (by norm_num)]
  cases a.sign <;> cases b.sign <;> simp <;> ring

theorem toRat_mul_eq (a b : Decimal) : (mul a b).toRat = round (a.toRat * b.toRat) := by
  rw [mul, toRat_fix_eq, toRat_product]

theorem toRat_mul {a b : Decimal} (h : Representable (a.toRat * b.toRat)) :
    (mul a b).toRat = a.toRat * b.toRat := by
  rw [mul, toRat_fix ((toRat_product a b).symm ▸ h), toRat_product]

theorem toRat_abs_eq (d : Decimal) : (abs d).toRat = round |d.toRat| := by
  have hPower : (0 : ℚ) < (10 : ℚ) ^ d.exponent := zpow_pos (by norm_num) _
  have hAbs : toRat { d with sign := false } = |d.toRat| := by
    rw [toRat, toRat, abs_mul, abs_signed, abs_of_pos hPower]
    rfl
  rw [abs, toRat_fix_eq, hAbs]

/-! ### Quotients of natural numbers -/

/-- The decimal places that the context keeps of a quotient that is at most one. -/
def quotientPlaces (n d : ℕ) : ℕ := (prec - 1 - Int.log 10 ((n : ℚ) / d)).toNat

/-- The rounded quotient is the exact one less what the long division leaves. -/
theorem round_natCast_div {n d : ℕ} (hd : 0 < d) (h : n ≤ d) :
    round ((n : ℚ) / d) =
      n / d - leftover (n * 10 ^ quotientPlaces n d) d / (d * 10 ^ quotientPlaces n d) := by
  have hdRat : (0 : ℚ) < d := by exact_mod_cast hd
  rcases Nat.eq_zero_or_pos n with rfl | hn
  · simp [leftover, hd]
  have hPositive : (0 : ℚ) < (n : ℚ) / d := div_pos (by exact_mod_cast hn) hdRat
  have hLog : Int.log 10 ((n : ℚ) / d) ≤ 0 := by
    have hOne : (n : ℚ) / d ≤ 1 := (div_le_one hdRat).mpr (by exact_mod_cast h)
    have hMono := Int.log_mono_right (b := 10) hPositive hOne
    rwa [Int.log_one_right] at hMono
  have hPlaces : Int.log 10 ((n : ℚ) / d) - (prec - 1 : ℤ) = -(quotientPlaces n d : ℤ) := by
    unfold quotientPlaces prec
    omega
  have hScaled : (n : ℚ) / d / (10 : ℚ) ^ (-(quotientPlaces n d : ℤ)) =
      ((n * 10 ^ quotientPlaces n d : ℕ) : ℚ) / d := by
    rw [zpow_neg, zpow_natCast]
    push_cast
    field_simp
  rw [round, roundSignificant_of_pos hPositive, hPlaces, Nat.cast_ofNat, roundTo, roundInt, hScaled,
    roundHalfEven_div hd, zpow_neg, zpow_natCast]
  push_cast
  field_simp

/-- A rounded number has the digits of the context. -/
theorem representable_round (x : ℚ) : Representable (round x) := by
  rcases eq_or_ne x 0 with rfl | hx
  · exact ⟨0, 0, by norm_num [prec], by simp⟩
  have hAbs : 0 < |x| := abs_pos.mpr hx
  obtain ⟨e, he⟩ : ∃ e : ℤ, Int.log 10 |x| - (prec - 1 : ℤ) = e := ⟨_, rfl⟩
  have hPower : (0 : ℚ) < (10 : ℚ) ^ e := zpow_pos (by norm_num) _
  have hRound : round x = roundHalfEven (x / (10 : ℚ) ^ e) * (10 : ℚ) ^ e := by
    rw [round, roundSignificant, if_neg hx, Nat.cast_ofNat, he, roundTo, roundInt]
  have hBound : |x / (10 : ℚ) ^ e| ≤ (10 ^ prec : ℤ) := by
    have hUpper : |x| < ((10 : ℕ) : ℚ) ^ (Int.log 10 |x| + 1) :=
      Int.lt_zpow_succ_log_self (by norm_num) _
    rw [abs_div, abs_of_pos hPower, div_le_iff₀ hPower]
    push_cast at hUpper ⊢
    rw [← zpow_natCast, ← zpow_add₀ (by norm_num), ← he]
    convert hUpper.le using 2
    ring
  have hDigits : |roundHalfEven (x / (10 : ℚ) ^ e)| ≤ 10 ^ prec := by
    rw [abs_le] at hBound ⊢
    have hFloor := floor_le_roundHalfEven (x / (10 : ℚ) ^ e)
    have hCeil := roundHalfEven_le_ceil (x / (10 : ℚ) ^ e)
    have hLow : -(10 ^ prec : ℤ) ≤ ⌊x / (10 : ℚ) ^ e⌋ := Int.le_floor.mpr (by
      push_cast at hBound ⊢
      exact hBound.1)
    have hHigh : ⌈x / (10 : ℚ) ^ e⌉ ≤ 10 ^ prec := Int.ceil_le.mpr (by
      push_cast at hBound ⊢
      exact hBound.2)
    exact ⟨hLow.trans hFloor, hCeil.trans hHigh⟩
  rw [hRound]
  generalize roundHalfEven (x / (10 : ℚ) ^ e) = m at hDigits ⊢
  rcases hDigits.lt_or_eq with hLess | hFull
  · rw [Int.abs_eq_natAbs] at hLess
    exact ⟨m, e, by exact_mod_cast hLess, rfl⟩
  · -- a power of ten is written with one digit
    refine ⟨m / 10, e + 1, ?_, ?_⟩
    · rw [Int.abs_eq_natAbs] at hFull
      unfold prec at hFull ⊢
      omega
    · have hTen : 10 ∣ m := by
        rw [← dvd_abs, hFull]
        exact dvd_pow_self 10 (by norm_num [prec])
      obtain ⟨t, rfl⟩ := hTen
      rw [Int.mul_ediv_cancel_left t (by norm_num), zpow_add₀ (by norm_num), zpow_one]
      push_cast
      ring

theorem representable_mul_hundred {x : ℚ} (h : Representable x) : Representable (x * 100) := by
  obtain ⟨m, e, hm, rfl⟩ := h
  refine ⟨m, e + 2, hm, ?_⟩
  rw [zpow_add₀ (by norm_num)]
  norm_num
  ring

end Decimal

end Daybreak.Numeric
