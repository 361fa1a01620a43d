import Daybreak.Numeric.Shortest
import Daybreak.Serial.DecimalText
import Daybreak.Serial.JsonText

/-! Finite doubles and their texts. A double is written with its shortest digits, in full
or, from the seventeenth digit before the point and the fifth zero after it on, with an
exponent; doubles of one text are one double with one sign. -/

namespace Daybreak.Serial

open Numeric

/-! ### Texts of digits -/

/-- The place of the first digit. -/
def firstPlace (d : Decimal) : ℤ := d.exponent + leadingPlaces d

/-- Whether `repr` writes the digits without an exponent. -/
def InFull (d : Decimal) : Prop := -4 ≤ firstPlace d ∧ firstPlace d < 16

instance decidableInFull (d : Decimal) : Decidable (InFull d) := by
  unfold InFull
  infer_instance

/-- An exponent, with two digits at least. -/
def exponentMark (exponent : ℤ) : String :=
  "e" ++ ((if exponent < 0 then "-" else "+") ++ zeroPad 2 exponent.natAbs)

/-- `repr(x)` of a double with these digits. -/
def floatText (d : Decimal) : String :=
  if InFull d then fixedText d ++ if 0 ≤ d.exponent then ".0" else ""
  else signText d.sign ++ (pointed d.coefficient (leadingPlaces d) ++ exponentMark (firstPlace d))

example : floatText ⟨false, 25, -1⟩ = "2.5" ∧ floatText ⟨true, 3, 2⟩ = "-300.0" ∧
    floatText ⟨false, 12, -6⟩ = "1.2e-05" ∧ floatText ⟨false, 1, 23⟩ = "1e+23" ∧
    floatText ⟨true, 0, 0⟩ = "-0.0" := by decide

/-- The decimal that the text is of: a whole number is written with one place. -/
def written (d : Decimal) : Decimal :=
  if InFull d ∧ 0 ≤ d.exponent then ⟨d.sign, units d * 10, -1⟩ else d

theorem sign_written (d : Decimal) : (written d).sign = d.sign := by
  unfold written
  split_ifs <;> rfl

theorem toRat_written (d : Decimal) : (written d).toRat = d.toRat := by
  unfold written
  split_ifs with h
  · have hUnits := toRat_fixed d
    have hPlaces : places d = 0 := by
      unfold places
      omega
    rw [hPlaces] at hUnits
    rw [← hUnits, Decimal.toRat, Decimal.toRat, zpow_neg_one]
    cases d.sign <;> simp [Decimal.signed]
  · rfl

theorem pointed_whole (n : ℕ) : pointed (n * 10) 1 = toString n ++ ".0" := by
  have hZero : "." ++ zeroPad 1 0 = ".0" := by decide
  rw [pointed, if_neg one_ne_zero, pow_one, Nat.mul_div_cancel n (by norm_num), Nat.mul_mod_left,
    hZero]

/-- The text is a sign, digits with a point, and perhaps an exponent. -/
theorem floatText_eq_pointed (d : Decimal) :
    floatText d = signText d.sign ++
      if InFull d then pointed (written d).coefficient (places (written d))
      else pointed d.coefficient (leadingPlaces d) ++ exponentMark (firstPlace d) := by
  unfold floatText
  split_ifs with hFull hWhole
  · have hPlaces : places d = 0 := by
      unfold places
      omega
    rw [fixedText_eq_pointed, hPlaces, written, if_pos ⟨hFull, hWhole⟩, String.append_assoc]
    change _ = _ ++ pointed (units d * 10) 1
    rw [pointed_whole, pointed, if_pos rfl, String.append_empty, pow_zero, Nat.div_one]
  · have hUnits : units d = d.coefficient := by
      rw [units, Int.toNat_of_nonpos (by omega), pow_zero, mul_one]
    rw [written, if_neg (fun h => hWhole h.2), fixedText_eq_pointed, hUnits, String.append_empty]
  · rfl

/-! ### Reading -/

theorem readDigits_zeroPad (width n : ℕ) : readDigits (zeroPad width n).toList = some n := by
  have hSome : (zeroPad width n).toList ≠ [] := by
    simp [zeroPad, Nat.toDigits_ne_nil]
  rw [readDigits, if_pos ⟨hSome, all_isDigit_zeroPad width n⟩, number, ofDigitChars_zeroPad]

theorem toList_exponentMark (exponent : ℤ) : (exponentMark exponent).toList =
    'e' :: (if exponent < 0 then '-' else '+') :: (zeroPad 2 exponent.natAbs).toList := by
  unfold exponentMark
  split_ifs <;> simp [String.toList_append]

theorem readTail_exponentMark (exponent : ℤ) :
    readTail (exponentMark exponent).toList = some exponent := by
  have hRead := readDigits_zeroPad 2 exponent.natAbs
  rw [toList_exponentMark]
  split_ifs with h
  · have hValue : -(exponent.natAbs : ℤ) = exponent := by omega
    simp only [readTail, readExponent, true_or, if_true]
    rw [hRead, Option.map_some, hValue]
  · have hValue : (exponent.natAbs : ℤ) = exponent := by omega
    simp only [readTail, readExponent, true_or, if_true]
    rw [hRead, Option.map_some, hValue]

theorem endsNumber_exponentMark (exponent : ℤ) : EndsNumber (exponentMark exponent).toList := by
  intro c hc
  rw [toList_exponentMark] at hc
  obtain rfl : 'e' = c := by simpa using hc
  decide

/-- The text of a double is read, digit by digit, as the decimal it is of. -/
theorem readUnsigned_floatText (d : Decimal) : ∃ c cs,
    (floatText d).toList = (signText d.sign).toList ++ c :: cs ∧ c.isDigit = true ∧
      readUnsigned d.sign (c :: cs) = some (written d) := by
  rw [floatText_eq_pointed]
  split_ifs with hFull
  · obtain ⟨c, cs, hList, hDigit⟩ :=
      exists_cons_pointed (written d).coefficient (places (written d))
    refine ⟨c, cs, by rw [String.toList_append, hList], hDigit, ?_⟩
    have hRead := readUnsigned_pointed d.sign (written d).coefficient (places (written d)) []
      (by intro c hc; cases hc)
    rw [List.append_nil, hList] at hRead
    have hExponent : 0 - (places (written d) : ℤ) = (written d).exponent := by
      unfold places written
      split_ifs with hWhole
      · rfl
      · have hNegative : d.exponent < 0 := not_le.mp fun h => hWhole ⟨hFull, h⟩
        omega
    rw [hRead, readTail, Option.map_some, hExponent, ← sign_written d]
  · obtain ⟨c, cs, hList, hDigit⟩ := exists_cons_pointed d.coefficient (leadingPlaces d)
    have hRead := readUnsigned_pointed d.sign d.coefficient (leadingPlaces d) _
      (endsNumber_exponentMark (firstPlace d))
    rw [hList, List.cons_append] at hRead
    refine ⟨c, cs ++ (exponentMark (firstPlace d)).toList, ?_, hDigit, ?_⟩
    · rw [String.toList_append, String.toList_append, hList, List.cons_append]
    rw [hRead, readTail_exponentMark, Option.map_some, firstPlace, add_sub_cancel_right, written,
      if_neg fun h => hFull h.1]

/-- Texts of one kind are of one number and one sign. -/
theorem floatText_inj {a b : Decimal} (h : floatText a = floatText b) :
    a.sign = b.sign ∧ a.toRat = b.toRat := by
  obtain ⟨c, cs, haList, haDigit, haRead⟩ := readUnsigned_floatText a
  obtain ⟨c', cs', hbList, hbDigit, hbRead⟩ := readUnsigned_floatText b
  rw [h, hbList] at haList
  obtain ⟨hSign, hBody⟩ := signText_append_inj haDigit hbDigit haList.symm
  rw [hSign, hBody, hbRead] at haRead
  have hSame := Option.some.inj haRead
  exact ⟨hSign, by rw [← toRat_written a, ← hSame, toRat_written]⟩

/-! ### Characters -/

theorem all_isFloatChar_of_isDigit {cs : List Char} (h : cs.all Char.isDigit = true) :
    cs.all isFloatChar = true :=
  List.all_eq_true.mpr fun c hc => isFloatChar_of_isDigit (List.all_eq_true.mp h c hc)

theorem all_isFloatChar_pointed (n places : ℕ) :
    (pointed n places).toList.all isFloatChar = true := by
  unfold pointed
  rw [String.toList_append, List.all_append,
    all_isFloatChar_of_isDigit (all_isDigit_toString _), Bool.true_and]
  split_ifs
  · rfl
  · rw [String.toList_append, List.all_append, all_isFloatChar_of_isDigit (all_isDigit_zeroPad _ _)]
    decide

theorem any_point_pointed (n : ℕ) {places : ℕ} (h : places ≠ 0) :
    (pointed n places).toList.any (· ∈ ['.', 'e']) = true := by
  rw [pointed, if_neg h, String.toList_append, String.toList_append, List.any_append,
    List.any_append]
  simp

theorem isFloatText_floatText (d : Decimal) : isFloatText (floatText d) = true := by
  have hSign : (signText d.sign).toList.all isFloatChar = true := by
    cases d.sign <;> decide
  rw [floatText_eq_pointed, isFloatText, Bool.and_eq_true, String.toList_append, List.all_append,
    List.any_append, hSign, Bool.true_and]
  split_ifs with hFull
  · have hPlaces : places (written d) ≠ 0 := by
      unfold places written
      split_ifs with hWhole
      · exact one_ne_zero
      · have hNegative : d.exponent < 0 := not_le.mp fun h => hWhole ⟨hFull, h⟩
        omega
    exact ⟨all_isFloatChar_pointed _ _, by rw [any_point_pointed _ hPlaces, Bool.or_true]⟩
  · rw [String.toList_append, List.all_append, List.any_append, all_isFloatChar_pointed,
      toList_exponentMark, List.all_cons, List.all_cons, List.any_cons,
      all_isFloatChar_of_isDigit (all_isDigit_zeroPad _ _)]
    split_ifs <;> simp [isFloatChar]

/-! ### Doubles -/

/-- A finite double; a zero has a sign too. -/
@[ext]
structure FiniteFloat where
  negative : Bool
  magnitude : ℚ
  nonneg : 0 ≤ magnitude
  exact : roundDouble magnitude = magnitude
  finite : magnitude < 2 ^ 1024

namespace FiniteFloat

/-- `float` of a number with this sign, where it is finite. -/
def ofNumber (negative : Bool) (x : ℚ) : Option FiniteFloat :=
  if h : roundDouble |x| < 2 ^ 1024 then
    some ⟨negative, roundDouble |x|, roundDouble_nonneg (abs_nonneg x), roundDouble_roundDouble _, h⟩
  else none

/-- The digits that the double is written with. -/
def digits (f : FiniteFloat) : Decimal :=
  if f.magnitude = 0 then ⟨f.negative, 0, 0⟩
  else { shortestDecimal f.magnitude with sign := f.negative }

/-- `repr(x)` -/
def repr (f : FiniteFloat) : PyFloat := ⟨floatText f.digits, .inr (isFloatText_floatText _)⟩

theorem sign_digits (f : FiniteFloat) : f.digits.sign = f.negative := by
  unfold digits
  split_ifs <;> rfl

theorem isShort_digits {f : FiniteFloat} (h : f.magnitude ≠ 0) :
    IsShort f.magnitude (shortestDecimal f.magnitude) :=
  isShort_shortestDecimal (f.nonneg.lt_of_ne' h) f.exact

theorem abs_digits {f : FiniteFloat} (h : f.magnitude ≠ 0) :
    |f.digits.toRat| = (shortestDecimal f.magnitude).toRat := by
  have hPositive : (0 : ℚ) < 10 ^ (shortestDecimal f.magnitude).exponent :=
    zpow_pos (by norm_num) _
  rw [digits, if_neg h, Decimal.toRat, Decimal.toRat, (isShort_digits h).sign, abs_mul,
    abs_of_pos hPositive]
  cases f.negative <;> simp [Decimal.signed]

/-- The double is read from its digits. -/
theorem roundDouble_digits (f : FiniteFloat) : roundDouble |f.digits.toRat| = f.magnitude := by
  by_cases h : f.magnitude = 0
  · have hZero : |f.digits.toRat| = 0 := by
      rw [digits, if_pos h]
      cases f.negative <;> simp [Decimal.toRat, Decimal.signed]
    rw [hZero, h, ← h]
    exact f.exact
  · rw [abs_digits h]
    exact (isShort_digits h).read

/-- Doubles of one text have one sign and one value. -/
theorem repr_injective {f g : FiniteFloat} (h : f.repr = g.repr) : f = g := by
  obtain ⟨hSign, hValue⟩ := floatText_inj (congrArg PyFloat.text h)
  rw [sign_digits, sign_digits] at hSign
  refine FiniteFloat.ext hSign ?_
  rw [← roundDouble_digits f, hValue, roundDouble_digits]

theorem isfinite_repr (f : FiniteFloat) : f.repr.isfinite = true := by
  have hText : isFloatText f.repr.text = true := isFloatText_floatText _
  unfold PyFloat.isfinite
  refine decide_eq_true fun hMem => ?_
  simp only [nonFiniteTexts, List.mem_cons, List.not_mem_nil, or_false] at hMem
  rcases hMem with hInf | hInf | hNan
  · rw [hInf] at hText
    exact absurd hText (by decide)
  · rw [hInf] at hText
    exact absurd hText (by decide)
  · rw [hNan] at hText
    exact absurd hText (by decide)

end FiniteFloat

/-- `repr(float(x))` of a number with this sign. -/
def floatRepr (negative : Bool) (x : ℚ) : PyFloat :=
  match FiniteFloat.ofNumber negative x with
  | some f => f.repr
  | none => if negative then ⟨"-inf", .inl (by decide)⟩ else ⟨"inf", .inl (by decide)⟩

theorem floatRepr_of_finite (negative : Bool) {x : ℚ} (h : roundDouble |x| < 2 ^ 1024) :
    ∃ f : FiniteFloat, floatRepr negative x = f.repr ∧ f.negative = negative ∧
      f.magnitude = roundDouble |x| := by
  refine ⟨⟨negative, roundDouble |x|, roundDouble_nonneg (abs_nonneg x), roundDouble_roundDouble _,
    h⟩, ?_, rfl, rfl⟩
  rw [floatRepr, FiniteFloat.ofNumber, dif_pos h]

theorem floatRepr_of_infinite (negative : Bool) {x : ℚ} (h : ¬roundDouble |x| < 2 ^ 1024) :
    (floatRepr negative x).text = if negative then "-inf" else "inf" := by
  rw [floatRepr, FiniteFloat.ofNumber, dif_neg h]
  cases negative <;> rfl

/-- A double is made of its digits. -/
theorem floatRepr_digits (f : FiniteFloat) : floatRepr f.negative f.digits.toRat = f.repr := by
  have hFinite : roundDouble |f.digits.toRat| < 2 ^ 1024 := by
    rw [f.roundDouble_digits]
    exact f.finite
  obtain ⟨g, hg, hSign, hValue⟩ := floatRepr_of_finite f.negative hFinite
  rw [f.roundDouble_digits] at hValue
  rw [hg, FiniteFloat.ext hSign hValue]

end Daybreak.Serial
