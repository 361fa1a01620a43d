import Daybreak.Serial.Canonical

/-! Decimals and the texts that they are constructed from. A text is read after its outer
white space and its underscores are dropped and every decimal digit of Unicode is written
in ASCII; one that is no number, and one whose number has an exponent out of the range of
the type, is refused. What is written in full or with an exponent is read back. -/

namespace Daybreak.Serial

open Numeric

/-! ### Characters -/

/-- `Py_UNICODE_ISSPACE` -/
def isSpace (c : Char) : Bool :=
  let n := c.toNat
  (9 ≤ n && n ≤ 13) || (28 ≤ n && n ≤ 32) || (0x2000 ≤ n && n ≤ 0x200A) ||
    n ∈ [0x85, 0xA0, 0x1680, 0x2028, 0x2029, 0x202F, 0x205F, 0x3000]

/-- The zeros of the scripts other than ASCII; the nine digits follow each. -/
def scriptZeros : List ℕ :=
  [0x660, 0x6F0, 0x7C0, 0x966, 0x9E6, 0xA66, 0xAE6, 0xB66, 0xBE6, 0xC66, 0xCE6, 0xD66, 0xDE6,
    0xE50, 0xED0, 0xF20, 0x1040, 0x1090, 0x17E0, 0x1810, 0x1946, 0x19D0, 0x1A80, 0x1A90, 0x1B50,
    0x1BB0, 0x1C40, 0x1C50, 0xA620, 0xA8D0, 0xA900, 0xA9D0, 0xA9F0, 0xAA50, 0xABF0, 0xFF10,
    0x104A0, 0x10D30, 0x11066, 0x110F0, 0x11136, 0x111D0, 0x112F0, 0x11450, 0x114D0, 0x11650,
    0x116C0, 0x11730, 0x118E0, 0x11950, 0x11C50, 0x11D50, 0x11DA0, 0x11F50, 0x16A60, 0x16AC0,
    0x16B50, 0x1D7CE, 0x1D7D8, 0x1D7E2, 0x1D7EC, 0x1D7F6, 0x1E140, 0x1E2F0, 0x1E4F0, 0x1E950,
    0x1FBF0]

/-- A character as the reader of numbers sees it. -/
def asciiChar (c : Char) : Option Char :=
  if 0 < c.toNat ∧ c.toNat ≤ 127 then some c
  else if isSpace c then some ' '
  else (scriptZeros.find? fun first => first ≤ c.toNat ∧ c.toNat < first + 10).map fun first =>
    Nat.digitChar (c.toNat - first)

/-- `numeric_as_ascii` -/
def numericAsAscii (text : String) : Option (List Char) :=
  let stripped := ((text.toList.dropWhile isSpace).reverse.dropWhile isSpace).reverse
  (stripped.filter (· ≠ '_')).mapM asciiChar

/-! ### Numbers -/

/-- The number that digits are of. -/
def number (cs : List Char) : ℕ := Nat.ofDigitChars 10 cs 0

/-- Digits, and at least one. -/
def readDigits (cs : List Char) : Option ℕ :=
  if cs ≠ [] ∧ cs.all Char.isDigit then some (number cs) else none

def readExponent : List Char → Option ℤ
  | '+' :: cs => (readDigits cs).map fun n : ℕ => (n : ℤ)
  | '-' :: cs => (readDigits cs).map fun n : ℕ => -(n : ℤ)
  | cs => (readDigits cs).map fun n : ℕ => (n : ℤ)

/-- What may follow the digits of a number. -/
def readTail : List Char → Option ℤ
  | [] => some 0
  | c :: cs => if c = 'e' ∨ c = 'E' then readExponent cs else none

/-- The digits after a point, if there is one, and what follows. -/
def readFraction : List Char → List Char × List Char
  | '.' :: cs => (cs.takeWhile Char.isDigit, cs.dropWhile Char.isDigit)
  | cs => ([], cs)

def readUnsigned (sign : Bool) (cs : List Char) : Option Decimal :=
  let whole := cs.takeWhile Char.isDigit
  let fraction := readFraction (cs.dropWhile Char.isDigit)
  if whole ++ fraction.1 = [] then none
  else (readTail fraction.2).map fun exponent =>
    ⟨sign, number (whole ++ fraction.1), exponent - fraction.1.length⟩

def readSign : List Char → Bool × List Char
  | '-' :: cs => (true, cs)
  | '+' :: cs => (false, cs)
  | cs => (false, cs)

/-- A decimal, or what is not a finite number. -/
inductive DecimalValue where
  | finite (d : Decimal)
  | infinity (sign : Bool)
  | nan (signaling : Bool)
  deriving DecidableEq, Repr

/-- The names of what is not finite, in letters of any case; digits may follow `nan`. -/
def readSpecial (sign : Bool) (cs : List Char) : Option DecimalValue :=
  let lower := cs.map Char.toLower
  if lower = "inf".toList ∨ lower = "infinity".toList then some (.infinity sign)
  else if lower.take 3 = "nan".toList ∧ (lower.drop 3).all Char.isDigit then some (.nan false)
  else if lower.take 4 = "snan".toList ∧ (lower.drop 4).all Char.isDigit then some (.nan true)
  else none

/-- The exponents of the type: that of the first digit is at most the largest one, and that
of the last digit at least the smallest. -/
def Representable (d : Decimal) : Prop :=
  d.exponent + Decimal.digits d.coefficient - 1 ≤ 999999999999999999 ∧
    -1999999999999999997 ≤ d.exponent

instance decidableRepresentable (d : Decimal) : Decidable (Representable d) := by
  unfold Representable
  infer_instance

/-- `Decimal(text)`; `none` where it signals an invalid operation. -/
def readDecimal (text : String) : Option DecimalValue := do
  let cs ← numericAsAscii text
  let (sign, body) := readSign cs
  match readSpecial sign body with
  | some value => some value
  | none => ((readUnsigned sign body).filter fun d => Representable d).map .finite

example : readDecimal " -1_0.50e2 " = some (.finite ⟨true, 1050, 0⟩) := by decide
example : readDecimal "1e" = none ∧ readDecimal "1e1000000000000000000" = none ∧
    readDecimal "sNaN" = some (.nan true) := by decide

/-! ### Reading what is written -/

/-- The digits of a number with a point before the last places of it. -/
def pointed (n places : ℕ) : String :=
  toString (n / 10 ^ places) ++
    if places = 0 then "" else "." ++ zeroPad places (n % 10 ^ places)

theorem fixedText_eq_pointed (d : Decimal) :
    fixedText d = signText d.sign ++ pointed (units d) (places d) := rfl

theorem number_append (as bs : List Char) :
    number (as ++ bs) = number as * 10 ^ bs.length + number bs := by
  unfold number
  rw [Nat.ofDigitChars_append, Nat.ofDigitChars_eq_ofDigitChars_zero, mul_comm]

theorem number_toString (n : ℕ) : number (toString n).toList = n := by
  simp [number]

theorem toList_toString_ne_nil (n : ℕ) : (toString n).toList ≠ [] := by
  simp [Nat.toDigits_ne_nil]

theorem all_isDigit_toString (n : ℕ) : (toString n).toList.all Char.isDigit = true :=
  List.all_eq_true.mpr fun _ => isDigit_of_mem_toString

theorem all_isDigit_zeroPad (width n : ℕ) : (zeroPad width n).toList.all Char.isDigit = true := by
  rw [zeroPad, String.toList_ofList, List.all_append, all_isDigit_toString, Bool.and_true,
    List.all_eq_true]
  intro c hc
  rw [List.eq_of_mem_replicate hc]
  rfl

theorem readDigits_toString (n : ℕ) : readDigits (toString n).toList = some n := by
  rw [readDigits, if_pos ⟨toList_toString_ne_nil n, all_isDigit_toString n⟩, number_toString]

/-- Digits are read up to the first character that is none. -/
theorem span_digits {digits : List Char} (hDigits : digits.all Char.isDigit = true)
    (tail : List Char) (hTail : ∀ c ∈ tail.head?, c.isDigit = false) :
    (digits ++ tail).takeWhile Char.isDigit = digits ∧
      (digits ++ tail).dropWhile Char.isDigit = tail := by
  have hAll : ∀ c ∈ digits, c.isDigit = true := List.all_eq_true.mp hDigits
  rw [List.takeWhile_append_of_pos hAll, List.dropWhile_append_of_pos hAll]
  cases tail with
  | nil => simp
  | cons c tail => simp [hTail c rfl]

/-- No digit and no point. -/
def EndsNumber (tail : List Char) : Prop := ∀ c ∈ tail.head?, c.isDigit = false ∧ c ≠ '.'

theorem EndsNumber.readFraction {tail : List Char} (h : EndsNumber tail) :
    readFraction tail = ([], tail) := by
  unfold Serial.readFraction
  split
  · rename_i cs
    exact absurd rfl (h '.' rfl).2
  · rfl

/-- A number with a point is read as its digits, with as many places as there are after
the point. -/
theorem readUnsigned_pointed (sign : Bool) (n places : ℕ) (tail : List Char)
    (hTail : EndsNumber tail) :
    readUnsigned sign ((pointed n places).toList ++ tail) =
      (readTail tail).map fun exponent => ⟨sign, n, exponent - places⟩ := by
  have hDigits := all_isDigit_toString (n / 10 ^ places)
  have hSome := toList_toString_ne_nil (n / 10 ^ places)
  unfold readUnsigned pointed
  by_cases hPlaces : places = 0
  · subst hPlaces
    have hSpan := span_digits hDigits tail fun c hc => (hTail c hc).1
    rw [if_pos rfl, String.append_empty, hSpan.1, hSpan.2, hTail.readFraction]
    simp only [List.append_nil, number_toString, pow_zero, Nat.div_one, List.length_nil]
    rw [if_neg (toList_toString_ne_nil n)]
  · have hRest := all_isDigit_zeroPad places (n % 10 ^ places)
    have hLength : (zeroPad places (n % 10 ^ places)).toList.length = places := by
      rw [String.length_toList]
      exact length_zeroPad (Nat.pos_of_ne_zero hPlaces) (Nat.mod_lt _ (by positivity))
    have hList : (toString (n / 10 ^ places) ++ ("." ++ zeroPad places (n % 10 ^ places))).toList
        ++ tail = (toString (n / 10 ^ places)).toList ++
          ('.' :: ((zeroPad places (n % 10 ^ places)).toList ++ tail)) := by
      simp [String.toList_append]
    have hPoint := span_digits hDigits
      ('.' :: ((zeroPad places (n % 10 ^ places)).toList ++ tail)) (by simp)
    have hSpan := span_digits hRest tail fun c hc => (hTail c hc).1
    have hNumber : number ((toString (n / 10 ^ places)).toList ++
        (zeroPad places (n % 10 ^ places)).toList) = n := by
      rw [number_append, number_toString, hLength, number, ofDigitChars_zeroPad]
      exact Nat.div_add_mod' n (10 ^ places)
    rw [if_neg hPlaces, hList, hPoint.1, hPoint.2]
    simp only [readFraction, hSpan.1, hSpan.2, hNumber, hLength, List.append_eq_nil_iff, hSome,
      false_and, if_false]

/-- The characters that numbers are written with. -/
def isNumeral (c : Char) : Bool := c.isDigit || c ∈ ['-', '.', 'E', '+']

theorem isDigit_iff {c : Char} : c.isDigit = true ↔ 48 ≤ c.toNat ∧ c.toNat ≤ 57 := by
  simp only [Char.isDigit, Bool.and_eq_true, decide_eq_true_eq, ge_iff_le, UInt32.le_iff_toNat_le]
  rfl

/-- A numeral is seen as it is. -/
theorem asciiChar_of_isNumeral {c : Char} (h : isNumeral c = true) :
    isSpace c = false ∧ c ≠ '_' ∧ asciiChar c = some c := by
  rcases Bool.or_eq_true_iff.mp h with hDigit | hMark
  · have hCode := isDigit_iff.mp hDigit
    refine ⟨?_, ?_, if_pos (by omega)⟩
    · simp only [isSpace, Bool.or_eq_false_iff, Bool.and_eq_false_iff, decide_eq_false_iff_not,
        List.mem_cons, List.not_mem_nil, or_false]
      omega
    · rintro rfl
      cases hDigit
  · simp only [List.mem_cons, List.not_mem_nil, or_false, decide_eq_true_eq] at hMark
    rcases hMark with rfl | rfl | rfl | rfl <;> decide

theorem numericAsAscii_of_isNumeral {text : String} (h : text.toList.all isNumeral = true) :
    numericAsAscii text = some text.toList := by
  have hAll : ∀ c ∈ text.toList, isNumeral c = true := List.all_eq_true.mp h
  have hDrop {cs : List Char} (hcs : ∀ c ∈ cs, isNumeral c = true) : cs.dropWhile isSpace = cs := by
    cases cs with
    | nil => rfl
    | cons c cs => simp [(asciiChar_of_isNumeral (hcs c List.mem_cons_self)).1]
  have hReverse : ∀ c ∈ text.toList.reverse, isNumeral c = true :=
    fun c hc => hAll c (List.mem_reverse.mp hc)
  have hFilter : text.toList.filter (· ≠ '_') = text.toList :=
    List.filter_eq_self.mpr fun c hc => decide_eq_true (asciiChar_of_isNumeral (hAll c hc)).2.1
  have hMap {cs : List Char} (hcs : ∀ c ∈ cs, isNumeral c = true) : cs.mapM asciiChar = some cs := by
    induction cs with
    | nil => rfl
    | cons c cs ih =>
      rw [List.mapM_cons, (asciiChar_of_isNumeral (hcs c List.mem_cons_self)).2.2,
        ih fun d hd => hcs d (List.mem_cons_of_mem c hd)]
      rfl
  simp only [numericAsAscii, hDrop hAll, hDrop hReverse, List.reverse_reverse, hFilter, hMap hAll]

theorem readSpecial_of_isDigit {sign : Bool} {c : Char} {cs : List Char} (h : c.isDigit = true) :
    readSpecial sign (c :: cs) = none := by
  have hCode := isDigit_iff.mp h
  have hLower : c.toLower = c := by
    unfold Char.toLower
    rw [dif_neg]
    simp only [ge_iff_le, UInt32.le_iff_toNat_le]
    have : c.val.toNat = c.toNat := rfl
    have : ('A' : Char).val.toNat = 65 := rfl
    omega
  have hLetter {d : Char} (hd : 57 < d.toNat) : c ≠ d := by
    rintro rfl
    omega
  have hI : c ≠ 'i' := hLetter (by decide)
  have hN : c ≠ 'n' := hLetter (by decide)
  have hS : c ≠ 's' := hLetter (by decide)
  have hInf : "inf".toList = ['i', 'n', 'f'] := by decide
  have hInfinity : "infinity".toList = ['i', 'n', 'f', 'i', 'n', 'i', 't', 'y'] := by decide
  have hNan : "nan".toList = ['n', 'a', 'n'] := by decide
  have hSnan : "snan".toList = ['s', 'n', 'a', 'n'] := by decide
  simp [readSpecial, hLower, hInf, hInfinity, hNan, hSnan, hI, hN, hS]

theorem readSign_append (sign : Bool) {c : Char} {cs : List Char} (h : c.isDigit = true) :
    readSign ((signText sign).toList ++ c :: cs) = (sign, c :: cs) := by
  cases sign with
  | true => rfl
  | false =>
    have hMinus : c ≠ '-' := by
      rintro rfl
      cases h
    have hPlus : c ≠ '+' := by
      rintro rfl
      cases h
    simp [signText, readSign, hMinus, hPlus]

/-- Where a digit follows the sign, texts tell their signs and what follows. -/
theorem signText_append_inj {sign sign' : Bool} {c c' : Char} {cs cs' : List Char}
    (hc : c.isDigit = true) (hc' : c'.isDigit = true)
    (h : (signText sign).toList ++ c :: cs = (signText sign').toList ++ c' :: cs') :
    sign = sign' ∧ c :: cs = c' :: cs' := by
  have hSigns := congrArg readSign h
  rw [readSign_append sign hc, readSign_append sign' hc'] at hSigns
  exact Prod.mk.inj hSigns

theorem exists_cons_pointed (n places : ℕ) :
    ∃ c cs, (pointed n places).toList = c :: cs ∧ c.isDigit = true := by
  have hSome := toList_toString_ne_nil (n / 10 ^ places)
  have hDigits := all_isDigit_toString (n / 10 ^ places)
  unfold pointed
  rw [String.toList_append]
  cases hList : (toString (n / 10 ^ places)).toList with
  | nil => exact absurd hList hSome
  | cons c cs =>
    rw [hList, List.all_cons, Bool.and_eq_true] at hDigits
    exact ⟨c, _, rfl, hDigits.1⟩

theorem all_isNumeral_pointed (n places : ℕ) : (pointed n places).toList.all isNumeral = true := by
  have hDigits {cs : List Char} (h : cs.all Char.isDigit = true) : cs.all isNumeral = true :=
    List.all_eq_true.mpr fun c hc => Bool.or_eq_true_iff.mpr (.inl (List.all_eq_true.mp h c hc))
  unfold pointed
  rw [String.toList_append, List.all_append, hDigits (all_isDigit_toString _), Bool.true_and]
  split_ifs
  · rfl
  · rw [String.toList_append, List.all_append, hDigits (all_isDigit_zeroPad _ _)]
    decide

/-- A sign, a number with a point and what may follow: the decimal that the text is of. -/
theorem readDecimal_pointed {sign : Bool} {n places : ℕ} {tail : String} (exponent : ℤ)
    (hEnds : EndsNumber tail.toList) (hNumeral : tail.toList.all isNumeral = true)
    (hTail : readTail tail.toList = some exponent)
    (hRange : Representable ⟨sign, n, exponent - places⟩) :
    readDecimal (signText sign ++ (pointed n places ++ tail)) =
      some (.finite ⟨sign, n, exponent - places⟩) := by
  have hSign : (signText sign).toList.all isNumeral = true := by
    cases sign <;> decide
  have hAscii : numericAsAscii (signText sign ++ (pointed n places ++ tail)) =
      some ((signText sign).toList ++ ((pointed n places).toList ++ tail.toList)) := by
    rw [numericAsAscii_of_isNumeral, String.toList_append, String.toList_append]
    rw [String.toList_append, String.toList_append, List.all_append, List.all_append, hSign,
      all_isNumeral_pointed, hNumeral]
    rfl
  have hRead := readUnsigned_pointed sign n places tail.toList hEnds
  rw [hTail, Option.map_some] at hRead
  obtain ⟨c, cs, hList, hDigit⟩ := exists_cons_pointed n places
  rw [hList] at hAscii hRead
  simp only [readDecimal, hAscii, Option.bind_eq_bind, Option.bind_some, List.cons_append,
    readSign_append sign hDigit, readSpecial_of_isDigit hDigit]
  rw [List.cons_append] at hRead
  rw [hRead, Option.filter_some, if_pos (decide_eq_true hRange), Option.map_some]

/-- An integer is read back. -/
theorem readDecimal_toString {n : ℕ} (h : Representable ⟨false, n, 0⟩) :
    readDecimal (toString n) = some (.finite ⟨false, n, 0⟩) := by
  have hText : toString n = signText false ++ (pointed n 0 ++ "") := by
    simp [signText, pointed]
  rw [hText, readDecimal_pointed 0 (by intro c hc; cases hc) rfl rfl (by simpa using h)]
  simp

/-- What is written in full is read as the same number. -/
theorem readDecimal_fixedText {d : Decimal} (h : Representable ⟨d.sign, units d, -places d⟩) :
    readDecimal (fixedText d) = some (.finite ⟨d.sign, units d, -places d⟩) := by
  have hText : fixedText d = signText d.sign ++ (pointed (units d) (places d) ++ "") := by
    rw [fixedText_eq_pointed, String.append_empty]
  rw [hText, readDecimal_pointed 0 (by intro c hc; cases hc) rfl rfl (by simpa using h)]
  simp

/-- The decimal that is read has the number of the one that was written. -/
theorem toRat_fixed (d : Decimal) : (⟨d.sign, units d, -places d⟩ : Decimal).toRat = d.toRat := by
  rw [toRat_eq_units d, Decimal.toRat, zpow_neg, zpow_natCast, div_eq_mul_inv]

theorem digits_mul_pow {n : ℕ} (hn : n ≠ 0) (k : ℕ) :
    Decimal.digits (n * 10 ^ k) = Decimal.digits n + k := by
  induction k with
  | zero => rw [pow_zero, mul_one, add_zero]
  | succ k ih =>
    have hPositive : n * 10 ^ k ≠ 0 := by positivity
    rw [pow_succ, ← mul_assoc, Decimal.digits, Nat.log_mul_base (by norm_num) hPositive,
      ← Decimal.digits, ih, add_assoc]

/-- Written in full, a decimal keeps the place of its first digit. -/
theorem Representable.fixed {d : Decimal} (h : Representable d) (hNonzero : d.coefficient ≠ 0) :
    Representable ⟨d.sign, units d, -places d⟩ := by
  have hDigits : Decimal.digits (units d) = Decimal.digits d.coefficient + d.exponent.toNat :=
    digits_mul_pow hNonzero _
  obtain ⟨hFirst, hLast⟩ := h
  unfold Representable places
  rw [hDigits]
  push_cast
  omega

/-! ### The text of a decimal -/

def exponentText (exponent : ℤ) : String :=
  "E" ++ ((if exponent < 0 then "-" else "+") ++ toString exponent.natAbs)

/-- The places of a coefficient that is written with one digit before the point. -/
def leadingPlaces (d : Decimal) : ℕ := Decimal.digits d.coefficient - 1

/-- `str(value)`: in full, unless that takes zeros that are no digits of the decimal. -/
def scientificText (d : Decimal) : String :=
  if d.exponent ≤ 0 ∧ -6 ≤ d.exponent + leadingPlaces d then fixedText d
  else signText d.sign ++
    (pointed d.coefficient (leadingPlaces d) ++ exponentText (d.exponent + leadingPlaces d))

example : scientificText ⟨false, 100, -2⟩ = "1.00" ∧ scientificText ⟨true, 120, 3⟩ = "-1.20E+5" ∧
    scientificText ⟨false, 5, -9⟩ = "5E-9" := by decide

theorem readTail_exponentText (exponent : ℤ) :
    readTail (exponentText exponent).toList = some exponent := by
  have hE : "E".toList = ['E'] := rfl
  have hRead := readDigits_toString exponent.natAbs
  unfold exponentText
  rw [String.toList_append, hE, String.toList_append]
  split_ifs with h
  · have hMinus : "-".toList = ['-'] := rfl
    have hValue : -(exponent.natAbs : ℤ) = exponent := by omega
    simp only [hMinus, List.cons_append, List.nil_append, readTail, readExponent, or_true, if_true]
    rw [hRead, Option.map_some, hValue]
  · have hPlus : "+".toList = ['+'] := rfl
    have hValue : (exponent.natAbs : ℤ) = exponent := by omega
    simp only [hPlus, List.cons_append, List.nil_append, readTail, readExponent, or_true, if_true]
    rw [hRead, Option.map_some, hValue]

theorem endsNumber_exponentText (exponent : ℤ) : EndsNumber (exponentText exponent).toList := by
  have hE : "E".toList = ['E'] := rfl
  intro c hc
  rw [exponentText, String.toList_append, hE] at hc
  obtain rfl : 'E' = c := by simpa using hc
  decide

/-- What `str` writes is read, digit by digit, as the decimal it is of. -/
theorem readUnsigned_scientificText (d : Decimal) : ∃ c cs,
    (scientificText d).toList = (signText d.sign).toList ++ c :: cs ∧ c.isDigit = true ∧
      readUnsigned d.sign (c :: cs) = some d := by
  unfold scientificText
  split_ifs with hFull
  · obtain ⟨c, cs, hList, hDigit⟩ := exists_cons_pointed (units d) (places d)
    refine ⟨c, cs, by rw [fixedText_eq_pointed, String.toList_append, hList], hDigit, ?_⟩
    have hRead := readUnsigned_pointed d.sign (units d) (places d) [] (by intro c hc; cases hc)
    rw [List.append_nil, hList] at hRead
    have hUnits : units d = d.coefficient := by
      rw [units, Int.toNat_of_nonpos hFull.1, pow_zero, mul_one]
    have hExponent : 0 - (places d : ℤ) = d.exponent := by
      unfold places
      omega
    rw [hRead, readTail, Option.map_some, hUnits, hExponent]
  · obtain ⟨c, cs, hList, hDigit⟩ := exists_cons_pointed d.coefficient (leadingPlaces d)
    have hRead := readUnsigned_pointed d.sign d.coefficient (leadingPlaces d) _
      (endsNumber_exponentText (d.exponent + leadingPlaces d))
    rw [hList, List.cons_append] at hRead
    refine ⟨c, cs ++ (exponentText (d.exponent + leadingPlaces d)).toList, ?_, hDigit, ?_⟩
    · rw [String.toList_append, String.toList_append, hList, List.cons_append]
    rw [hRead, readTail_exponentText, Option.map_some, add_sub_cancel_right]

/-- Decimals of one text have the same digits and the same exponent. -/
theorem scientificText_injective {a b : Decimal} (h : scientificText a = scientificText b) :
    a = b := by
  obtain ⟨c, cs, haList, haDigit, haRead⟩ := readUnsigned_scientificText a
  obtain ⟨c', cs', hbList, hbDigit, hbRead⟩ := readUnsigned_scientificText b
  rw [h, hbList] at haList
  obtain ⟨hSign, hBody⟩ := signText_append_inj haDigit hbDigit haList.symm
  rw [hSign, hBody, hbRead] at haRead
  exact (Option.some.inj haRead).symm

end Daybreak.Serial
