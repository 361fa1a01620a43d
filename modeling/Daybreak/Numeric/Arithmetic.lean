import Daybreak.Numeric.Decimal

/-! The decimal operations a program calls, over an arbitrary type of numbers.
Two instances: `Decimal`, with the twenty-eight digit context, and the exact
rationals, where no operation ever rounds except a `quantize` or a conversion
to an integral value, which round on purpose. Comparisons are exact in both,
through `value`. -/

namespace Daybreak.Numeric

class DecimalArithmetic (D : Type) where
  value : D → ℚ
  ofInt : ℤ → D
  literal : ℕ → ℤ → D
  add : D → D → D
  sub : D → D → D
  mul : D → D → D
  neg : D → D
  abs : D → D
  div : D → D → Except DecimalSignal D
  quantize : RoundingMode → ℤ → D → Except DecimalSignal D
  toIntegralValue : RoundingMode → D → D
  value_ofInt : ∀ n, value (ofInt n) = n
  value_literal : ∀ m e, value (literal m e) = m * (10 : ℚ) ^ e
  exists_int_toIntegralValue : ∀ mode x, ∃ n : ℤ, value (toIntegralValue mode x) = n

instance : DecimalArithmetic Decimal where
  value := Decimal.toRat
  ofInt := Decimal.ofInt
  literal := Decimal.literal
  add := Decimal.add
  sub := Decimal.sub
  mul := Decimal.mul
  neg := Decimal.neg
  abs := Decimal.abs
  div := Decimal.div
  quantize := Decimal.quantize
  toIntegralValue := Decimal.toIntegralValue
  value_ofInt n := by
    rcases lt_or_ge n 0 with h | h
    · have : ((n.natAbs : ℕ) : ℤ) = -n := by omega
      simp [Decimal.toRat, Decimal.ofInt, Decimal.signed, h, this]
    · have : ((n.natAbs : ℕ) : ℤ) = n := by omega
      simp [Decimal.toRat, Decimal.ofInt, Decimal.signed, not_lt.mpr h, this]
  value_literal m e := by simp [Decimal.toRat, Decimal.literal, Decimal.signed]
  exists_int_toIntegralValue := Decimal.exists_int_toIntegralValue

instance : DecimalArithmetic ℚ where
  value := id
  ofInt n := n
  literal m e := m * 10 ^ e
  add := (· + ·)
  sub := (· - ·)
  mul := (· * ·)
  neg x := -x
  abs x := |x|
  div a b := if b = 0 then
      .error (if a = 0 then .invalidOperation else .divisionByZero) else .ok (a / b)
  quantize mode e x := .ok (roundTo mode (10 ^ e) x)
  toIntegralValue mode x := roundTo mode 1 x
  value_ofInt _ := rfl
  value_literal _ _ := rfl
  exists_int_toIntegralValue mode x := ⟨roundInt mode (x / 1), by simp [roundTo]⟩

namespace DecimalArithmetic

/-! ### The exact instance, spelled in rational arithmetic -/

@[simp] theorem value_rat (x : ℚ) : value x = x := rfl
@[simp] theorem ofInt_rat (n : ℤ) : (ofInt n : ℚ) = n := rfl
@[simp] theorem literal_rat (m : ℕ) (e : ℤ) : (literal m e : ℚ) = m * 10 ^ e := rfl
@[simp] theorem add_rat (x y : ℚ) : add x y = x + y := rfl
@[simp] theorem sub_rat (x y : ℚ) : sub x y = x - y := rfl
@[simp] theorem mul_rat (x y : ℚ) : mul x y = x * y := rfl
@[simp] theorem neg_rat (x : ℚ) : neg x = -x := rfl

@[simp] theorem quantize_rat (mode : RoundingMode) (e : ℤ) (x : ℚ) :
    quantize mode e x = .ok (roundTo mode (10 ^ e) x) := rfl

@[simp] theorem toIntegralValue_rat (mode : RoundingMode) (x : ℚ) :
    toIntegralValue mode x = roundInt mode x := by
  simp [toIntegralValue, roundTo]

theorem div_rat {x y z : ℚ} (h : div x y = .ok z) : y ≠ 0 ∧ z = x / y := by
  simp only [div] at h
  split_ifs at h with hy
  exact ⟨hy, (Except.ok.inj h).symm⟩

variable {D : Type} [DecimalArithmetic D]

/-- Numeric equality, blind to trailing zeros. -/
def eqv (a b : D) : Prop := value a = value b

instance (a b : D) : Decidable (eqv a b) := inferInstanceAs (Decidable (value a = value b))

/-- `min(a, b)`: the first argument unless the second is smaller. -/
def pyMin (a b : D) : D := if value b < value a then b else a

/-- `max(a, b)`: the first argument unless the second is larger. -/
def pyMax (a b : D) : D := if value a < value b then b else a

/-- `int(x)`. -/
def toInt (x : D) : ℤ := truncate (value x)

/-- A value equal to its own integral value is read exactly by `int`. -/
theorem value_eq_toInt {mode : RoundingMode} {x : D}
    (h : value x = value (toIntegralValue mode x)) :
    value x = toInt x := by
  obtain ⟨n, hn⟩ := exists_int_toIntegralValue mode x
  rw [toInt, h, hn, truncate_intCast]

theorem value_pyMin (a b : D) : value (pyMin a b) = min (value a) (value b) := by
  unfold pyMin
  split_ifs with h
  · exact (min_eq_right h.le).symm
  · exact (min_eq_left (not_lt.mp h)).symm

theorem value_pyMax (a b : D) : value (pyMax a b) = max (value a) (value b) := by
  unfold pyMax
  split_ifs with h
  · exact (max_eq_right h.le).symm
  · exact (max_eq_left (not_lt.mp h)).symm

@[simp] theorem pyMin_rat (x y : ℚ) : pyMin x y = min x y := value_pyMin x y
@[simp] theorem pyMax_rat (x y : ℚ) : pyMax x y = max x y := value_pyMax x y

end DecimalArithmetic

end Daybreak.Numeric
