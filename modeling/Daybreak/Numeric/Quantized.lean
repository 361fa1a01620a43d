import Daybreak.Numeric.Context

/-! Quotients and quantized numbers of the decimal context: their signs, and the grid
and the size of a number that was quantized. -/

namespace Daybreak.Numeric.Decimal

variable {d a b r : Decimal} {mode : RoundingMode} {e : ℤ}

theorem toRat_nonneg_iff : 0 ≤ d.toRat ↔ d.sign = false ∨ d.coefficient = 0 := by
  have hPower : (0 : ℚ) < (10 : ℚ) ^ d.exponent := zpow_pos (by norm_num) _
  rw [toRat, mul_nonneg_iff_of_pos_right hPower]
  cases d.sign
  · simp [signed]
  · simp [signed]

theorem toRat_pos_iff : 0 < d.toRat ↔ d.sign = false ∧ d.coefficient ≠ 0 := by
  have hPower : (0 : ℚ) < (10 : ℚ) ^ d.exponent := zpow_pos (by norm_num) _
  rw [toRat, mul_pos_iff_of_pos_right hPower]
  cases d.sign
  · simp [signed, Nat.pos_iff_ne_zero]
  · simp [signed]

theorem sign_fix (d : Decimal) : (fix d).sign = d.sign := by
  unfold fix
  simp only
  split_ifs <;> rfl

theorem fix_of_zero (h : d.coefficient = 0) : fix d = d := by
  simp [fix, h, digits, prec]

theorem fix_nonneg (h : d.sign = false ∨ d.coefficient = 0) : 0 ≤ (fix d).toRat := by
  rcases h with hSign | hZero
  · exact toRat_nonneg_iff.mpr (.inl ((sign_fix d).trans hSign))
  · rw [fix_of_zero hZero]
    exact toRat_nonneg_iff.mpr (.inr hZero)

/-! ### Quotients -/

theorem exists_div (a : Decimal) (h : b.coefficient ≠ 0) : ∃ r, div a b = .ok r := by
  unfold div
  rw [if_neg h]
  simp only
  split_ifs <;> exact ⟨_, rfl⟩

theorem div_nonneg (ha : 0 ≤ a.toRat) (hb : 0 < b.toRat) (h : div a b = .ok r) :
    0 ≤ r.toRat := by
  obtain ⟨hSign, hNonzero⟩ := toRat_pos_iff.mp hb
  unfold div at h
  rw [if_neg hNonzero] at h
  simp only [hSign, Bool.bne_false] at h
  split_ifs at h with hZero hExact
  · obtain rfl := Except.ok.inj h
    exact toRat_nonneg_iff.mpr (.inr rfl)
  all_goals
    obtain rfl := Except.ok.inj h
    exact fix_nonneg (.inl ((toRat_nonneg_iff.mp ha).resolve_right hZero))

/-! ### Quantized numbers -/

theorem quantize_eq_ok :
    quantize mode e d = .ok r ↔ r = rescale mode e d ∧ digits (rescale mode e d).coefficient ≤ prec := by
  unfold quantize
  simp only
  split_ifs with h
  · simp [not_le.mpr h]
  · simp [not_lt.mp h, eq_comm]

theorem rescale_exponent (mode : RoundingMode) (e : ℤ) (d : Decimal) :
    (rescale mode e d).exponent = e := by
  unfold rescale
  split_ifs <;> rfl

theorem quantize_nonneg (hd : 0 ≤ d.toRat) (h : quantize mode e d = .ok r) : 0 ≤ r.toRat := by
  obtain ⟨rfl, -⟩ := quantize_eq_ok.mp h
  rw [toRat_nonneg_iff] at hd ⊢
  unfold rescale
  split_ifs with hZero hFine
  · exact .inr rfl
  all_goals exact .inl (hd.resolve_right hZero)

theorem multiple_quantize (h : quantize mode e d = .ok r) : Multiple ((10 : ℚ) ^ e) r.toRat := by
  obtain ⟨rfl, -⟩ := quantize_eq_ok.mp h
  exact ⟨_, by rw [toRat, rescale_exponent]⟩

/-- A quantized number has at most the digits of the context. -/
theorem abs_quantize_lt (h : quantize mode e d = .ok r) : |r.toRat| < (10 : ℚ) ^ (prec + e) := by
  obtain ⟨rfl, hDigits⟩ := quantize_eq_ok.mp h
  have hPower : (0 : ℚ) < (10 : ℚ) ^ e := zpow_pos (by norm_num) _
  have hCoefficient : (rescale mode e d).coefficient < 10 ^ prec := by
    refine (Nat.lt_pow_succ_log_self (b := 10) (by norm_num) _).trans_le ?_
    exact Nat.pow_le_pow_right (by norm_num) hDigits
  rw [toRat, rescale_exponent, abs_mul, abs_of_pos hPower, abs_signed, zpow_add₀ (by norm_num),
    zpow_natCast]
  exact mul_lt_mul_of_pos_right (by exact_mod_cast hCoefficient) hPower

end Daybreak.Numeric.Decimal
