import Daybreak.Numeric.Double
import Daybreak.Numeric.Quantized

/-! Rounding to a number of significant digits, in any base: it is odd and monotone
across the changes of its quantum. The decimal context rounds every result to
twenty-eight of them, so that a sum, a difference and a negation are the rounded exact
ones, and numbers that agree in those digits may have the same negation. -/

namespace Daybreak.Numeric

variable {b p : ℕ} {q x y : ℚ}

/-! ### Negation -/

theorem roundHalfEven_neg (x : ℚ) : roundHalfEven (-x) = -roundHalfEven x := by
  have hFloor : ⌊-x⌋ = -⌈x⌉ := Int.floor_neg
  rcases eq_or_ne (x : ℚ) ⌊x⌋ with hInt | hInt
  · rw [hInt, ← Int.cast_neg, roundHalfEven_intCast, roundHalfEven_intCast]
  · have hBelow : (⌊x⌋ : ℚ) < x := lt_of_le_of_ne (Int.floor_le x) (Ne.symm hInt)
    have hCeil : ⌈x⌉ = ⌊x⌋ + 1 := by
      have hUpper : ⌈x⌉ ≤ ⌊x⌋ + 1 := Int.ceil_le_floor_add_one x
      have hLower : ⌊x⌋ < ⌈x⌉ := Int.lt_ceil.mpr hBelow
      omega
    unfold roundHalfEven
    rw [hFloor, hCeil]
    push_cast
    split_ifs <;> first | omega | (exfalso; linarith)

theorem roundTo_halfEven_neg (q x : ℚ) : roundTo .halfEven q (-x) = -roundTo .halfEven q x := by
  have hRound : roundHalfEven (-x / q) = -roundHalfEven (x / q) := by
    rw [neg_div, roundHalfEven_neg]
  simp only [roundTo, roundInt]
  rw [hRound]
  push_cast
  ring

@[simp] theorem roundSignificant_zero (b p : ℕ) : roundSignificant b p 0 = 0 := if_pos rfl

theorem roundSignificant_neg (b p : ℕ) (x : ℚ) :
    roundSignificant b p (-x) = -roundSignificant b p x := by
  rcases eq_or_ne x 0 with rfl | hx
  · simp
  · rw [roundSignificant, roundSignificant, if_neg (neg_ne_zero.mpr hx), if_neg hx, abs_neg,
      roundTo_halfEven_neg]

/-! ### Order -/

/-- A power of the base at least as large as a quantum is on its grid. -/
theorem multiple_zpow_base (hb : 1 < b) {i j : ℤ} (h : i ≤ j) :
    Multiple ((b : ℚ) ^ i) ((b : ℚ) ^ j) := by
  have hBase : (b : ℚ) ≠ 0 := by
    have : b ≠ 0 := by omega
    exact_mod_cast this
  obtain ⟨k, rfl⟩ := Int.le.dest h
  refine ⟨b ^ k, ?_⟩
  rw [zpow_add₀ hBase, zpow_natCast]
  push_cast
  ring

theorem base_zpow_pos (hb : 1 < b) (k : ℤ) : (0 : ℚ) < (b : ℚ) ^ k := by
  have : (0 : ℚ) < b := by exact_mod_cast (by omega : 0 < b)
  exact zpow_pos this k

theorem roundSignificant_of_pos (hx : 0 < x) :
    roundSignificant b p x = roundTo .halfEven ((b : ℚ) ^ (Int.log b x - (p - 1 : ℤ))) x := by
  rw [roundSignificant, if_neg hx.ne', abs_of_pos hx]

theorem roundSignificant_nonneg (hb : 1 < b) (h : 0 ≤ x) : 0 ≤ roundSignificant b p x := by
  rcases h.eq_or_lt with rfl | hx
  · simp
  · rw [roundSignificant_of_pos hx]
    exact le_roundTo_halfEven (base_zpow_pos hb _) ⟨0, by simp⟩ h

theorem roundSignificant_pos (hb : 1 < b) (hp : 0 < p) (hx : 0 < x) :
    0 < roundSignificant b p x := by
  have hQuantum : (0 : ℚ) < (b : ℚ) ^ (Int.log b x - (p - 1 : ℤ)) := base_zpow_pos hb _
  have hBelow : (b : ℚ) ^ (Int.log b x - (p - 1 : ℤ)) ≤ x := by
    have hBase : (1 : ℚ) < b := by exact_mod_cast hb
    refine le_trans (zpow_le_zpow_right₀ hBase.le ?_) (Int.zpow_log_le_self hb hx)
    omega
  rw [roundSignificant_of_pos hx]
  exact hQuantum.trans_le (le_roundTo_halfEven hQuantum ⟨1, by simp⟩ hBelow)

theorem roundSignificant_mono_of_pos (hb : 1 < b) (hp : 0 < p) (hx : 0 < x) (h : x ≤ y) :
    roundSignificant b p x ≤ roundSignificant b p y := by
  have hy : 0 < y := hx.trans_le h
  have hLog : Int.log b x ≤ Int.log b y := Int.log_mono_right hx h
  rw [roundSignificant_of_pos hx, roundSignificant_of_pos hy]
  rcases hLog.eq_or_lt with hSame | hLess
  · rw [hSame]
    exact roundTo_halfEven_mono (base_zpow_pos hb _) h
  · -- the power of the base below the larger number is on both grids
    have hBase : (1 : ℚ) < b := by exact_mod_cast hb
    have hBetween : x ≤ (b : ℚ) ^ Int.log b y := by
      have hUpper : x < (b : ℚ) ^ (Int.log b x + 1) := Int.lt_zpow_succ_log_self hb x
      exact hUpper.le.trans (zpow_le_zpow_right₀ hBase.le (by omega))
    have hBelow : (b : ℚ) ^ Int.log b y ≤ y := Int.zpow_log_le_self hb hy
    calc roundTo .halfEven ((b : ℚ) ^ (Int.log b x - (p - 1 : ℤ))) x
        ≤ (b : ℚ) ^ Int.log b y :=
          roundTo_halfEven_le (base_zpow_pos hb _) (multiple_zpow_base hb (by omega)) hBetween
      _ ≤ roundTo .halfEven ((b : ℚ) ^ (Int.log b y - (p - 1 : ℤ))) y :=
          le_roundTo_halfEven (base_zpow_pos hb _) (multiple_zpow_base hb (by omega)) hBelow

theorem roundSignificant_mono (hb : 1 < b) (hp : 0 < p) (h : x ≤ y) :
    roundSignificant b p x ≤ roundSignificant b p y := by
  rcases lt_or_ge 0 x with hx | hx
  · exact roundSignificant_mono_of_pos hb hp hx h
  have hLeft : roundSignificant b p x ≤ 0 := by
    have hNeg := roundSignificant_nonneg (p := p) hb (neg_nonneg.mpr hx)
    rw [roundSignificant_neg] at hNeg
    linarith
  rcases le_or_gt 0 y with hy | hy
  · exact hLeft.trans (roundSignificant_nonneg hb hy)
  · have hFlipped := roundSignificant_mono_of_pos hb hp (neg_pos.mpr hy) (neg_le_neg h)
    rw [roundSignificant_neg, roundSignificant_neg] at hFlipped
    linarith

namespace Decimal

/-! ### The context -/

/-- An exact result rounded to the digits of the context. -/
def round (x : ℚ) : ℚ := roundSignificant 10 prec x

theorem round_mono (h : x ≤ y) : round x ≤ round y :=
  roundSignificant_mono (by norm_num) (by norm_num [prec]) h

theorem round_pos (h : 0 < x) : 0 < round x :=
  roundSignificant_pos (by norm_num) (by norm_num [prec]) h

@[simp] theorem round_zero : round 0 = 0 := roundSignificant_zero 10 prec

theorem round_neg (x : ℚ) : round (-x) = -round x := roundSignificant_neg 10 prec x

/-- Dropping digits half-even is rounding the quotient. -/
theorem dropDigits_halfEven (sign : Bool) (n k : ℕ) :
    (dropDigits .halfEven sign n k : ℤ) = roundHalfEven ((n : ℚ) / 10 ^ k) := by
  have hPower : 0 < 10 ^ k := by positivity
  have hPowerRat : (0 : ℚ) < 10 ^ k := by positivity
  have hSplit : 10 ^ k * (n / 10 ^ k) + n % 10 ^ k = n := Nat.div_add_mod n (10 ^ k)
  have hFloor : ⌊(n : ℚ) / 10 ^ k⌋ = (n / 10 ^ k : ℕ) := by
    have hCast := Rat.floor_natCast_div_natCast n (10 ^ k)
    rw [Nat.cast_pow, Nat.cast_ofNat] at hCast
    rw [hCast]
    norm_cast
  have hRest : (n : ℚ) / 10 ^ k - ((n / 10 ^ k : ℕ) : ℤ) = (n % 10 ^ k : ℕ) / 10 ^ k := by
    have hCast : ((10 ^ k * (n / 10 ^ k) + n % 10 ^ k : ℕ) : ℚ) = n := by rw [hSplit]
    rw [Nat.cast_add, Nat.cast_mul, Nat.cast_pow, Nat.cast_ofNat] at hCast
    rw [Int.cast_natCast, eq_div_iff hPowerRat.ne', sub_mul, div_mul_cancel₀ _ hPowerRat.ne']
    linarith
  have hLess : (n % 10 ^ k : ℕ) / (10 : ℚ) ^ k < 1 / 2 ↔ 2 * (n % 10 ^ k) < 10 ^ k := by
    rw [div_lt_div_iff₀ hPowerRat (by norm_num)]
    exact_mod_cast (by omega : n % 10 ^ k * 2 < 1 * 10 ^ k ↔ 2 * (n % 10 ^ k) < 10 ^ k)
  have hMore : 1 / 2 < (n % 10 ^ k : ℕ) / (10 : ℚ) ^ k ↔ 10 ^ k < 2 * (n % 10 ^ k) := by
    rw [div_lt_div_iff₀ (by norm_num) hPowerRat]
    exact_mod_cast (by omega : 1 * 10 ^ k < n % 10 ^ k * 2 ↔ 10 ^ k < 2 * (n % 10 ^ k))
  unfold roundHalfEven dropDigits
  rw [hFloor, hRest]
  simp only [hLess, hMore]
  by_cases hUp : 10 ^ k < 2 * (n % 10 ^ k)
  · simp [hUp, not_lt.mpr hUp.le]
  · by_cases hDown : 2 * (n % 10 ^ k) < 10 ^ k
    · simp [hUp, hDown, hDown.ne]
    · have hTie : 2 * (n % 10 ^ k) = 10 ^ k := by omega
      have hParity : ((n / 10 ^ k : ℕ) : ℤ) % 2 = 0 ↔ ¬ n / 10 ^ k % 2 = 1 := by omega
      simp only [hParity]
      by_cases hOdd : n / 10 ^ k % 2 = 1
      · simp [hTie, hOdd]
      · simp [hTie, hOdd]

theorem log_abs_toRat {d : Decimal} (h : d.coefficient ≠ 0) :
    Int.log 10 |d.toRat| = Nat.log 10 d.coefficient + d.exponent := by
  have hPower : (0 : ℚ) < (10 : ℚ) ^ d.exponent := zpow_pos (by norm_num) _
  have hAbs : |d.toRat| = d.coefficient * (10 : ℚ) ^ d.exponent := by
    rw [toRat, abs_mul, abs_of_pos hPower, abs_signed]
  have hPositive : (0 : ℚ) < d.coefficient * (10 : ℚ) ^ d.exponent :=
    mul_pos (by exact_mod_cast Nat.pos_of_ne_zero h) hPower
  have hLow : ((10 : ℕ) : ℚ) ^ ((Nat.log 10 d.coefficient : ℤ) + d.exponent) ≤
      d.coefficient * (10 : ℚ) ^ d.exponent := by
    rw [Nat.cast_ofNat, zpow_add₀ (by norm_num), zpow_natCast]
    refine mul_le_mul_of_nonneg_right ?_ hPower.le
    exact_mod_cast Nat.pow_log_le_self 10 h
  have hHigh : d.coefficient * (10 : ℚ) ^ d.exponent <
      ((10 : ℕ) : ℚ) ^ ((Nat.log 10 d.coefficient : ℤ) + d.exponent + 1) := by
    rw [Nat.cast_ofNat, add_right_comm, zpow_add₀ (by norm_num)]
    refine mul_lt_mul_of_pos_right ?_ hPower
    exact_mod_cast Nat.lt_pow_succ_log_self (by norm_num) d.coefficient
  rw [hAbs]
  have hAtLeast := (Int.zpow_le_iff_le_log (by norm_num) hPositive).mp hLow
  have hBelow := (Int.lt_zpow_iff_log_lt (by norm_num) hPositive).mp hHigh
  omega

/-- Rounding of a signed quotient, the sign kept apart. -/
theorem signed_dropDigits (sign : Bool) (n k : ℕ) :
    signed (dropDigits .halfEven sign n k) sign = roundHalfEven ((signed n sign : ℚ) / 10 ^ k) := by
  cases sign
  · simpa [signed] using dropDigits_halfEven false n k
  · have hDrop := dropDigits_halfEven true n k
    simp only [signed, if_true]
    push_cast
    rw [hDrop, neg_div, roundHalfEven_neg]

/-- A coefficient that is rounded to one digit too many ends in a zero. -/
theorem ten_dvd_dropDigits {sign : Bool} {n k : ℕ} (hk : digits n = prec + k)
    (h : prec < digits (dropDigits .halfEven sign n k)) : 10 ∣ dropDigits .halfEven sign n k := by
  have hDigits : digits (n / 10 ^ k) = prec := by
    rw [digits_div_pow (by unfold prec at *; omega)]
    omega
  have hQuotient : n / 10 ^ k < 10 ^ prec := by
    have hBound := Nat.lt_pow_succ_log_self (b := 10) (by norm_num) (n / 10 ^ k)
    rwa [Nat.succ_eq_add_one, ← digits, hDigits] at hBound
  have hRounded : dropDigits .halfEven sign n k ≤ n / 10 ^ k + 1 := by
    unfold dropDigits
    simp only
    split_ifs
    · exact le_rfl
    · exact Nat.le_succ _
  have hWide : 10 ^ prec ≤ dropDigits .halfEven sign n k :=
    pow_le_of_lt_digits h (by norm_num [prec])
  have hExact : dropDigits .halfEven sign n k = 10 ^ prec := by omega
  rw [hExact]
  exact dvd_pow_self 10 (by norm_num [prec])

/-- The context rounds an exact result to its digits. -/
theorem toRat_fix_eq (d : Decimal) : (fix d).toRat = round d.toRat := by
  rcases eq_or_ne d.coefficient 0 with hZero | hNonzero
  · have hFits : digits d.coefficient - prec = 0 := by simp [hZero, digits, prec]
    have hValue : d.toRat = 0 := toRat_eq_zero.mpr hZero
    rw [fix, if_pos hFits, hValue, round, roundSignificant_zero]
  have hTen : (10 : ℚ) ≠ 0 := by norm_num
  have hValue : d.toRat ≠ 0 := mt toRat_eq_zero.mp hNonzero
  have hRound : round d.toRat =
      roundTo .halfEven ((10 : ℚ) ^ (digits d.coefficient + d.exponent - prec)) d.toRat := by
    rw [round, roundSignificant, if_neg hValue, Nat.cast_ofNat, log_abs_toRat hNonzero]
    congr 2
    unfold digits
    push_cast
    ring
  rw [hRound]
  unfold fix
  simp only
  split_ifs with hFits hWide
  · -- the number is on its grid
    refine (roundTo_of_multiple _ (zpow_pos (by norm_num) _) ?_).symm
    have hGrid := multiple_zpow_base (b := 10) (by norm_num)
      (i := digits d.coefficient + d.exponent - prec) (j := d.exponent) (by omega)
    rw [Nat.cast_ofNat] at hGrid
    have hMultiple := hGrid.intCast_mul (signed d.coefficient d.sign)
    rwa [mul_comm] at hMultiple
  all_goals
    obtain ⟨k, hk⟩ : ∃ k : ℕ, digits d.coefficient - prec = k := ⟨_, rfl⟩
    have hQuantum : (digits d.coefficient : ℤ) + d.exponent - prec = d.exponent + k := by omega
    have hDropped : roundTo .halfEven ((10 : ℚ) ^ (d.exponent + k)) d.toRat =
        signed (dropDigits .halfEven d.sign d.coefficient k) d.sign *
          (10 : ℚ) ^ (d.exponent + k) := by
      rw [signed_dropDigits, roundTo, roundInt, toRat, zpow_add₀ hTen, zpow_natCast,
        mul_comm ((10 : ℚ) ^ d.exponent), mul_div_mul_right _ _ (zpow_ne_zero _ hTen)]
    rw [hQuantum, hDropped]
    simp only [toRat, hk] at *
  · obtain ⟨c, hc⟩ := ten_dvd_dropDigits (by omega) hWide
    rw [hc, Nat.mul_div_cancel_left c (by norm_num), mul_comm 10 c, signed_mul,
      zpow_add_one₀ hTen]
    push_cast
    ring

theorem toRat_add_eq (a b : Decimal) : (add a b).toRat = round (a.toRat + b.toRat) := by
  have hSum : a.toRat + b.toRat = ((align a (min a.exponent b.exponent) +
      align b (min a.exponent b.exponent) : ℤ) : ℚ) * (10 : ℚ) ^ min a.exponent b.exponent := by
    rw [← align_mul a (min_le_left _ _), ← align_mul b (min_le_right _ _)]
    push_cast
    ring
  unfold add
  simp only
  rw [toRat_fix_eq, toRat_signed, hSum]

theorem toRat_flip (d : Decimal) : toRat { d with sign := !d.sign } = -d.toRat := by
  cases hSign : d.sign <;> simp [toRat, signed, hSign]

theorem toRat_sub_eq (a b : Decimal) : (sub a b).toRat = round (a.toRat - b.toRat) := by
  rw [sub, toRat_add_eq, toRat_flip, sub_eq_add_neg]

theorem toRat_neg_eq (d : Decimal) : (neg d).toRat = -round d.toRat := by
  have hFlip : toRat { d with sign := if d.coefficient = 0 then false else !d.sign } = -d.toRat := by
    by_cases hZero : d.coefficient = 0
    · simp [toRat, signed, hZero]
    · simpa [hZero] using toRat_flip d
  rw [neg, toRat_fix_eq, hFlip, round_neg]

/-! ### Quantized numbers -/

theorem toRat_rescale (e : ℤ) (d : Decimal) :
    (rescale .halfEven e d).toRat = roundTo .halfEven ((10 : ℚ) ^ e) d.toRat := by
  have hTen : (10 : ℚ) ≠ 0 := by norm_num
  have hPower : (0 : ℚ) < (10 : ℚ) ^ e := zpow_pos (by norm_num) _
  unfold rescale
  split_ifs with hZero hFine
  · have hValue : d.toRat = 0 := toRat_eq_zero.mpr hZero
    rw [hValue, roundTo_of_multiple _ hPower ⟨0, by simp⟩]
    exact toRat_eq_zero.mpr rfl
  · -- no digit is dropped
    obtain ⟨k, hk⟩ := Int.le.dest hFine
    have hShift : (d.exponent - e).toNat = k := by omega
    have hSame : toRat ⟨d.sign, d.coefficient * 10 ^ k, e⟩ = d.toRat := by
      rw [toRat, toRat, ← hk, zpow_add₀ hTen, zpow_natCast, signed_mul]
      push_cast
      ring
    have hMultiple : Multiple ((10 : ℚ) ^ e) d.toRat := ⟨_, hSame.symm⟩
    rw [hShift, hSame, roundTo_of_multiple _ hPower hMultiple]
  · obtain ⟨k, hk⟩ := Int.le.dest (not_le.mp hFine).le
    have hShift : (e - d.exponent).toNat = k := by omega
    rw [hShift, toRat, toRat, signed_dropDigits, roundTo, roundInt, ← hk, zpow_add₀ hTen,
      zpow_natCast, mul_comm ((10 : ℚ) ^ d.exponent),
      mul_div_mul_right _ _ (zpow_ne_zero _ hTen)]

/-- A quantized number is the nearest multiple of the quantum. -/
theorem toRat_quantize {d r : Decimal} {e : ℤ} (h : quantize .halfEven e d = .ok r) :
    r.toRat = roundTo .halfEven ((10 : ℚ) ^ e) d.toRat := by
  obtain ⟨rfl, -⟩ := quantize_eq_ok.mp h
  exact toRat_rescale e d

end Decimal

end Daybreak.Numeric
