import Daybreak.Numeric.Arithmetic

/-! When a decimal context does not round. A number that needs at most twenty-eight
digits is the result of an addition or a subtraction exactly when it is the exact
result, and the absolute value of a number is zero only for zero. Both hold of the
rational instance too, where every result is exact. -/

namespace Daybreak.Numeric

/-- The number is written with at most twenty-eight significant digits. -/
def Representable (x : ℚ) : Prop :=
  ∃ (m : ℤ) (e : ℤ), m.natAbs < 10 ^ Decimal.prec ∧ x = m * (10 : ℚ) ^ e

theorem representable_intCast {n : ℤ} (h : n.natAbs < 10 ^ Decimal.prec) : Representable n :=
  ⟨n, 0, h, by simp⟩

theorem representable_neg {x : ℚ} (h : Representable x) : Representable (-x) := by
  obtain ⟨m, e, hm, rfl⟩ := h
  exact ⟨-m, e, by rwa [Int.natAbs_neg], by push_cast; ring⟩

namespace Decimal

theorem abs_signed (n : ℕ) (sign : Bool) : |(signed n sign : ℚ)| = n := by
  cases sign <;> simp [signed]

theorem signed_mul (n k : ℕ) (sign : Bool) : signed (n * k) sign = signed n sign * k := by
  cases sign <;> simp [signed]

theorem signed_eq_zero {n : ℕ} {sign : Bool} : signed n sign = 0 ↔ n = 0 := by
  cases sign <;> simp [signed]

theorem toRat_eq_zero {d : Decimal} : d.toRat = 0 ↔ d.coefficient = 0 := by
  have hPower : (10 : ℚ) ^ d.exponent ≠ 0 := zpow_ne_zero _ (by norm_num)
  rw [toRat, mul_eq_zero, or_iff_left hPower, Int.cast_eq_zero, signed_eq_zero]

/-- Digits that are all zeros are dropped without rounding. -/
theorem dropDigits_of_dvd (mode : RoundingMode) (sign : Bool) {n k : ℕ} (h : 10 ^ k ∣ n) :
    dropDigits mode sign n k = n / 10 ^ k := by
  have hRest : n % 10 ^ k = 0 := Nat.mod_eq_zero_of_dvd h
  have hPower : 0 < 10 ^ k := by positivity
  have hUp : ¬ (10 ^ k < 2 * 0 ∨ (2 * 0 = 10 ^ k ∧ n / 10 ^ k % 2 = 1)) := by omega
  unfold dropDigits
  rw [hRest]
  cases mode with
  | floor => simp
  | ceiling => simp
  | halfEven => simpa using hUp

theorem pow_le_of_lt_digits {n k : ℕ} (h : k < digits n) (hk : 0 < k) : 10 ^ k ≤ n := by
  unfold digits at h
  rcases Nat.eq_zero_or_pos n with rfl | hn
  · simp at h
    omega
  · exact Nat.pow_le_of_le_log hn.ne' (by omega)

theorem digits_div_pow {n k : ℕ} (h : k < digits n) : digits (n / 10 ^ k) = digits n - k := by
  unfold digits at *
  rw [Nat.log_div_base_pow]
  omega

theorem div_pow_pos {n k : ℕ} (h : k < digits n) (hn : n ≠ 0) : 0 < n / 10 ^ k := by
  unfold digits at h
  exact Nat.div_pos (Nat.pow_le_of_le_log hn (by omega)) (by positivity)

/-- Two ways to write a number: the longer one ends in zeros. -/
theorem pow_dvd_of_representable {c k : ℕ} {m e f : ℤ} (hm : m.natAbs < 10 ^ prec)
    (hk : digits c = prec + k) (hk₀ : 0 < k) {sign : Bool}
    (h : (signed c sign : ℚ) * (10 : ℚ) ^ e = m * (10 : ℚ) ^ f) : 10 ^ k ∣ c := by
  have hTen : (10 : ℚ) ≠ 0 := by norm_num
  have hLow : 10 ^ (prec + k - 1) ≤ c := pow_le_of_lt_digits (by omega) (by unfold prec; omega)
  have hAbs : (c : ℚ) * (10 : ℚ) ^ e = m.natAbs * (10 : ℚ) ^ f := by
    have hBoth := congrArg (|·|) h
    simp only [abs_mul] at hBoth
    rw [abs_of_pos (zpow_pos (by norm_num : (0 : ℚ) < 10) e),
      abs_of_pos (zpow_pos (by norm_num : (0 : ℚ) < 10) f), abs_signed, ← Int.cast_abs,
      ← Nat.cast_natAbs] at hBoth
    exact hBoth
  rcases le_or_gt e f with hef | hef
  · obtain ⟨j, hj⟩ := Int.le.dest hef
    have hc : c = m.natAbs * 10 ^ j := by
      rw [← hj, zpow_add₀ hTen, ← mul_assoc, mul_right_comm] at hAbs
      have hCancel := mul_right_cancel₀ (zpow_ne_zero e hTen) hAbs
      rw [zpow_natCast] at hCancel
      exact_mod_cast hCancel
    have hkj : k ≤ j := by
      by_contra hLess
      have hLess' : prec + j ≤ prec + k - 1 := by omega
      have hTooBig : c < 10 ^ (prec + j) := by
        rw [hc, pow_add]
        exact Nat.mul_lt_mul_of_pos_right hm (by positivity)
      exact absurd (hLow.trans_lt hTooBig) (not_lt.mpr (Nat.pow_le_pow_right (by norm_num) hLess'))
    exact hc ▸ Dvd.dvd.mul_left (pow_dvd_pow 10 hkj) _
  · obtain ⟨j, hj⟩ := Int.le.dest hef.le
    have hc : m.natAbs = c * 10 ^ j := by
      rw [← hj, zpow_add₀ hTen, ← mul_assoc, mul_right_comm] at hAbs
      have hCancel := mul_right_cancel₀ (zpow_ne_zero f hTen) hAbs.symm
      rw [zpow_natCast] at hCancel
      exact_mod_cast hCancel
    have hBig : 10 ^ prec ≤ c := (Nat.pow_le_pow_right (by norm_num) (by omega)).trans hLow
    have hSmall : c ≤ m.natAbs := hc ▸ Nat.le_mul_of_pos_right c (by positivity)
    omega

/-- A representable number is not changed by rounding to the context. -/
theorem toRat_fix {d : Decimal} (h : Representable d.toRat) : (fix d).toRat = d.toRat := by
  obtain ⟨m, f, hm, hd⟩ := h
  have hKept {k : ℕ} (hk : digits d.coefficient - prec = k) (hk₀ : ¬ k = 0) :
      dropDigits .halfEven d.sign d.coefficient k * 10 ^ k = d.coefficient ∧
        digits (dropDigits .halfEven d.sign d.coefficient k) = prec := by
    have hDigits : digits d.coefficient = prec + k := by omega
    have hZeros : 10 ^ k ∣ d.coefficient :=
      pow_dvd_of_representable hm hDigits (Nat.pos_of_ne_zero hk₀) hd
    rw [dropDigits_of_dvd _ _ hZeros]
    refine ⟨Nat.div_mul_cancel hZeros, ?_⟩
    rw [digits_div_pow (by unfold prec at *; omega)]
    omega
  unfold fix
  simp only
  split_ifs with hFits hWide
  · rfl
  · rw [(hKept rfl hFits).2] at hWide
    omega
  · obtain ⟨hCoefficient, -⟩ := hKept rfl hFits
    simp only [toRat]
    rw [zpow_add₀ (by norm_num), zpow_natCast, mul_comm ((10 : ℚ) ^ d.exponent), ← mul_assoc]
    congr 1
    have hSigned := congrArg (fun n => ((signed n d.sign : ℤ) : ℚ)) hCoefficient
    rw [signed_mul] at hSigned
    push_cast at hSigned
    exact hSigned

/-- Rounding to the context never gives zero for another number. -/
theorem toRat_fix_ne_zero {d : Decimal} (h : d.toRat ≠ 0) : (fix d).toRat ≠ 0 := by
  rw [Ne, toRat_eq_zero] at h ⊢
  have hPositive : d.coefficient ≠ 0 := h
  unfold fix
  simp only
  split_ifs with hFits hWide
  · exact h
  · have hTen : 10 ^ 1 ≤ dropDigits .halfEven d.sign d.coefficient (digits d.coefficient - prec) :=
      pow_le_of_lt_digits (by unfold prec at *; omega) (by norm_num)
    simp only
    omega
  · have hQuotient : 0 < d.coefficient / 10 ^ (digits d.coefficient - prec) :=
      div_pow_pos (by unfold prec at *; omega) hPositive
    have hRounded : d.coefficient / 10 ^ (digits d.coefficient - prec) ≤
        dropDigits .halfEven d.sign d.coefficient (digits d.coefficient - prec) := by
      unfold dropDigits
      simp only
      split_ifs
      · exact Nat.le_succ _
      · exact le_rfl
    simp only
    omega

/-- An aligned coefficient times the power of its new exponent is the number. -/
theorem align_mul (d : Decimal) {e : ℤ} (h : e ≤ d.exponent) :
    (align d e : ℚ) * (10 : ℚ) ^ e = d.toRat := by
  obtain ⟨k, hk⟩ := Int.le.dest h
  have hShift : (d.exponent - e).toNat = k := by omega
  rw [align, hShift, toRat, ← hk, zpow_add₀ (by norm_num), zpow_natCast]
  push_cast
  ring

/-- The number with an integer coefficient; the sign of a zero is free. -/
theorem toRat_signed (n e : ℤ) (zero : Bool) :
    toRat ⟨if n = 0 then zero else n < 0, n.natAbs, e⟩ = n * (10 : ℚ) ^ e := by
  have hSigned : signed n.natAbs (if n = 0 then zero else n < 0) = n := by
    by_cases hZero : n = 0
    · subst hZero
      cases zero <;> simp [signed]
    · rcases lt_or_gt_of_ne hZero with hNegative | hPositive
      · simp only [signed, hZero, hNegative, decide_true, if_true, if_false]
        omega
      · simp only [signed, hZero, not_lt.mpr hPositive.le, decide_false, if_false]
        simp [abs_of_pos hPositive]
  simp only [toRat]
  rw [hSigned]

theorem toRat_add {a b : Decimal} (h : Representable (a.toRat + b.toRat)) :
    (add a b).toRat = a.toRat + b.toRat := by
  have hSum : toRat ⟨
      if align a (min a.exponent b.exponent) + align b (min a.exponent b.exponent) = 0
      then a.sign && b.sign
      else align a (min a.exponent b.exponent) + align b (min a.exponent b.exponent) < 0,
      (align a (min a.exponent b.exponent) + align b (min a.exponent b.exponent)).natAbs,
      min a.exponent b.exponent⟩ = a.toRat + b.toRat := by
    rw [toRat_signed, ← align_mul a (min_le_left _ _), ← align_mul b (min_le_right _ _)]
    push_cast
    ring
  rw [← hSum] at h
  rw [← hSum]
  exact toRat_fix h

theorem toRat_sub {a b : Decimal} (h : Representable (a.toRat - b.toRat)) :
    (sub a b).toRat = a.toRat - b.toRat := by
  have hNeg : toRat { b with sign := !b.sign } = -b.toRat := by
    cases hSign : b.sign <;> simp [toRat, signed, hSign]
  rw [sub_eq_add_neg, ← hNeg] at h ⊢
  exact toRat_add h

theorem toRat_abs_pos {d : Decimal} (h : d.toRat ≠ 0) : 0 < (abs d).toRat := by
  have hNonneg : 0 ≤ (abs d).toRat := by
    have hSign : (abs d).sign = false := by
      unfold abs fix
      simp only
      split_ifs <;> rfl
    rw [toRat, hSign]
    exact mul_nonneg (by simp [signed]) (zpow_pos (by norm_num) _).le
  refine lt_of_le_of_ne hNonneg (Ne.symm (toRat_fix_ne_zero ?_))
  rw [Ne, toRat_eq_zero] at h ⊢
  exact h

end Decimal

/-- Arithmetic that rounds only what the context cannot represent. -/
class ContextArithmetic (D : Type) [DecimalArithmetic D] : Prop where
  value_add : ∀ x y : D, Representable (DecimalArithmetic.value x + DecimalArithmetic.value y) →
    DecimalArithmetic.value (DecimalArithmetic.add x y) =
      DecimalArithmetic.value x + DecimalArithmetic.value y
  value_sub : ∀ x y : D, Representable (DecimalArithmetic.value x - DecimalArithmetic.value y) →
    DecimalArithmetic.value (DecimalArithmetic.sub x y) =
      DecimalArithmetic.value x - DecimalArithmetic.value y
  value_abs_pos : ∀ x : D, DecimalArithmetic.value x ≠ 0 →
    0 < DecimalArithmetic.value (DecimalArithmetic.abs x)

instance : ContextArithmetic Decimal where
  value_add _ _ h := Decimal.toRat_add h
  value_sub _ _ h := Decimal.toRat_sub h
  value_abs_pos _ h := Decimal.toRat_abs_pos h

instance : ContextArithmetic ℚ where
  value_add _ _ _ := rfl
  value_sub _ _ _ := rfl
  value_abs_pos _ h := abs_pos.mpr h

end Daybreak.Numeric
