import Daybreak.Numeric.Rounding
import Mathlib.Data.Nat.Log

/-! Finite decimal floating-point numbers and the arithmetic of a context with
twenty-eight digits and half-even rounding: sign, coefficient and exponent are
kept apart, so that equal values may differ in their digits (`1.0` and `1.00`),
and every operation rounds its exact result once. The exponent range of the
context (six digits) is left out, and so are infinities and not-a-number. -/

namespace Daybreak.Numeric

inductive DecimalSignal where
  | invalidOperation | divisionByZero
  deriving DecidableEq, Repr

structure Decimal where
  sign : Bool
  coefficient : ℕ
  exponent : ℤ
  deriving DecidableEq, Repr

namespace Decimal

/-- Significant digits of the context. -/
def prec : ℕ := 28

def signed (n : ℕ) (sign : Bool) : ℤ := if sign then -n else n

def toRat (d : Decimal) : ℚ := signed d.coefficient d.sign * (10 : ℚ) ^ d.exponent

/-- Digits in the written form of a coefficient; zero is written with one. -/
def digits (n : ℕ) : ℕ := Nat.log 10 n + 1

def ofInt (n : ℤ) : Decimal := ⟨n < 0, n.natAbs, 0⟩

/-- The literal `m × 10 ^ e`. -/
def literal (m : ℕ) (e : ℤ) : Decimal := ⟨false, m, e⟩

/-- Drop `k` digits of a coefficient; the mode sees the sign. -/
def dropDigits (mode : RoundingMode) (sign : Bool) (n k : ℕ) : ℕ :=
  let quotient := n / 10 ^ k
  let rest := n % 10 ^ k
  let up := match mode with
    | .floor => sign && rest != 0
    | .ceiling => !sign && rest != 0
    | .halfEven => 10 ^ k < 2 * rest || (2 * rest == 10 ^ k && quotient % 2 == 1)
  if up then quotient + 1 else quotient

/-- Round an exact result to the precision of the context. -/
def fix (d : Decimal) : Decimal :=
  let excess := digits d.coefficient - prec
  if excess = 0 then d
  else
    let c := dropDigits .halfEven d.sign d.coefficient excess
    if prec < digits c then ⟨d.sign, c / 10, d.exponent + excess + 1⟩
    else ⟨d.sign, c, d.exponent + excess⟩

/-- Coefficient of `d` written with exponent `e ≤ d.exponent`. -/
def align (d : Decimal) (e : ℤ) : ℤ :=
  signed d.coefficient d.sign * 10 ^ (d.exponent - e).toNat

def add (a b : Decimal) : Decimal :=
  let e := min a.exponent b.exponent
  let n := align a e + align b e
  fix ⟨if n = 0 then a.sign && b.sign else n < 0, n.natAbs, e⟩

def sub (a b : Decimal) : Decimal := add a { b with sign := !b.sign }

def mul (a b : Decimal) : Decimal :=
  fix ⟨a.sign != b.sign, a.coefficient * b.coefficient, a.exponent + b.exponent⟩

/-- Unary minus; a zero loses its sign. -/
def neg (d : Decimal) : Decimal :=
  fix { d with sign := if d.coefficient = 0 then false else !d.sign }

def abs (d : Decimal) : Decimal := fix { d with sign := false }

/-- Strip trailing zeros of an exact quotient up to the ideal exponent. -/
def stripZeros : ℕ → ℕ → ℤ → ℕ × ℤ
  | 0, c, e => (c, e)
  | fuel + 1, c, e => if c % 10 = 0 then stripZeros fuel (c / 10) (e + 1) else (c, e)

/-- Long division to one digit more than the precision; a nonzero remainder is
kept as a sticky digit so that the final rounding is correct. -/
def div (a b : Decimal) : Except DecimalSignal Decimal :=
  if b.coefficient = 0 then
    .error (if a.coefficient = 0 then .invalidOperation else .divisionByZero)
  else
    let sign := a.sign != b.sign
    let ideal := a.exponent - b.exponent
    if a.coefficient = 0 then .ok ⟨sign, 0, ideal⟩
    else
      let shift : ℤ := digits b.coefficient - digits a.coefficient + prec + 1
      let numerator := a.coefficient * 10 ^ shift.toNat
      let denominator := b.coefficient * 10 ^ (-shift).toNat
      let c := numerator / denominator
      if numerator % denominator = 0 then
        let s := stripZeros shift.toNat c (ideal - shift)
        .ok (fix ⟨sign, s.1, s.2⟩)
      else .ok (fix ⟨sign, if c % 5 = 0 then c + 1 else c, ideal - shift⟩)

/-- The same number with exponent `e`, rounded where digits are lost. -/
def rescale (mode : RoundingMode) (e : ℤ) (d : Decimal) : Decimal :=
  if d.coefficient = 0 then ⟨d.sign, 0, e⟩
  else if e ≤ d.exponent then ⟨d.sign, d.coefficient * 10 ^ (d.exponent - e).toNat, e⟩
  else ⟨d.sign, dropDigits mode d.sign d.coefficient (e - d.exponent).toNat, e⟩

/-- Fails when the coefficient needs more digits than the context has. -/
def quantize (mode : RoundingMode) (e : ℤ) (d : Decimal) : Except DecimalSignal Decimal :=
  let r := rescale mode e d
  if prec < digits r.coefficient then .error .invalidOperation else .ok r

def toIntegralValue (mode : RoundingMode) (d : Decimal) : Decimal :=
  if 0 ≤ d.exponent then d else rescale mode 0 d

theorem exists_int_toRat {d : Decimal} (h : 0 ≤ d.exponent) : ∃ n : ℤ, d.toRat = n := by
  obtain ⟨k, hk⟩ := Int.eq_ofNat_of_zero_le h
  exact ⟨signed d.coefficient d.sign * 10 ^ k, by rw [toRat, hk]; push_cast; rfl⟩

theorem exists_int_toIntegralValue (mode : RoundingMode) (d : Decimal) :
    ∃ n : ℤ, (toIntegralValue mode d).toRat = n := by
  refine exists_int_toRat ?_
  unfold toIntegralValue rescale
  split_ifs <;> simp_all

end Decimal

end Daybreak.Numeric
