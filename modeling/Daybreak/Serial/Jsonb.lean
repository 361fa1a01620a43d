import Daybreak.Serial.FloatText
import Daybreak.Serial.Records
import Mathlib.Data.Prod.Lex

/-! What a `jsonb` column gives back. A number is kept as its plain decimal, without an exponent
and without the sign of a zero, so that a double is read back as a double exactly where its
digits reach behind the point and it is no negative zero. -/

namespace Daybreak.Serial

open Daybreak.Order Numeric

/-! ### Numbers -/

/-- The decimal of the text of a number. -/
def readNumber (text : String) : Option Decimal :=
  let signed := readSign text.toList
  readUnsigned signed.1 signed.2

/-- The text that `jsonb` keeps of a number. -/
def jsonbText (text : String) : String :=
  match readNumber text with
  | some d => fixedText (if d.coefficient = 0 then { d with sign := false } else d)
  | none => text

/-- The number that `json.loads` reads: a text without a point and an exponent is an integer. -/
def loadsNumber (text : String) : Decoded :=
  match readNumber text with
  | some d =>
    if text.toList.any (· ∈ ['.', 'e', 'E']) then .float (floatRepr d.sign d.toRat)
    else .int (Decimal.signed d.coefficient d.sign)
  | none => .none

example : jsonbText "1.5e-07" = "0.00000015" ∧ jsonbText "-0.0" = "0.0" ∧
    jsonbText "1e+16" = "10000000000000000" := by decide

theorem readNumber_of_toList {text : String} {sign : Bool} {c : Char} {cs : List Char} {d : Decimal}
    (hText : text.toList = (signText sign).toList ++ c :: cs) (hDigit : c.isDigit = true)
    (hRead : readUnsigned sign (c :: cs) = some d) : readNumber text = some d := by
  rw [readNumber, hText, readSign_append sign hDigit]
  exact hRead

theorem readNumber_floatText (d : Decimal) : readNumber (floatText d) = some (written d) := by
  obtain ⟨c, cs, hList, hDigit, hRead⟩ := readUnsigned_floatText d
  exact readNumber_of_toList hList hDigit hRead

theorem readNumber_fixedText (d : Decimal) :
    readNumber (fixedText d) = some ⟨d.sign, units d, -places d⟩ := by
  obtain ⟨c, cs, hList, hDigit⟩ := exists_cons_pointed (units d) (places d)
  have hRead := readUnsigned_pointed d.sign (units d) (places d) [] (by intro c hc; cases hc)
  rw [List.append_nil, hList, readTail, Option.map_some, zero_sub] at hRead
  refine readNumber_of_toList ?_ hDigit hRead
  rw [fixedText_eq_pointed, String.toList_append, hList]

/-- A point is written exactly where there are places after it. -/
theorem any_point_fixedText (d : Decimal) :
    (fixedText d).toList.any (· ∈ ['.', 'e', 'E']) = decide (places d ≠ 0) := by
  rw [fixedText_eq_pointed, String.toList_append, List.any_append]
  by_cases hPlaces : places d = 0
  · have hSign : (signText d.sign).toList.any (· ∈ ['.', 'e', 'E']) = false := by
      cases d.sign <;> decide
    have hDigits : (toString (units d / 10 ^ 0)).toList.any (· ∈ ['.', 'e', 'E']) = false := by
      rw [List.any_eq_false]
      intro c hc hMark
      have hDigit := isDigit_of_mem_toString hc
      simp only [List.mem_cons, List.not_mem_nil, or_false, decide_eq_true_eq] at hMark
      rcases hMark with rfl | rfl | rfl <;> cases hDigit
    rw [hSign, hPlaces, pointed, if_pos rfl, String.append_empty, hDigits]
    rfl
  · rw [pointed, if_neg hPlaces, String.toList_append, String.toList_append, List.any_append,
      List.any_append]
    simp [hPlaces]

/-- A plain decimal with places is read as a double, one without as an integer. -/
theorem loadsNumber_fixedText (d : Decimal) : loadsNumber (fixedText d) =
    if places d = 0 then .int (Decimal.signed (units d) d.sign)
    else .float (floatRepr d.sign d.toRat) := by
  rw [loadsNumber, readNumber_fixedText]
  simp only [any_point_fixedText]
  by_cases hPlaces : places d = 0
  · simp [hPlaces]
  · simp [hPlaces, toRat_fixed]

theorem toString_eq_fixedText (n : ℤ) : toString n = fixedText (.ofInt n) := by
  apply String.toList_injective
  have hUnits : units (.ofInt n) = n.natAbs := by simp [units, Decimal.ofInt]
  have hPlaces : places (.ofInt n) = 0 := by simp [places, Decimal.ofInt]
  rw [toList_toString_int, fixedText_eq_pointed, hUnits, hPlaces, pointed, if_pos rfl, pow_zero,
    Nat.div_one, String.append_empty, String.toList_append]
  by_cases hn : n < 0 <;> simp [Decimal.ofInt, hn, signText]

/-- An integer is read back. -/
theorem loadsNumber_int (n : ℤ) : loadsNumber (jsonbText (toString n)) = .int n := by
  have hUnits : units ⟨decide (n < 0), n.natAbs, 0⟩ = n.natAbs := by simp [units]
  have hPlaces : places ⟨decide (n < 0), n.natAbs, 0⟩ = 0 := by simp [places]
  have hRead : readNumber (toString n) = some ⟨decide (n < 0), n.natAbs, 0⟩ := by
    rw [toString_eq_fixedText, readNumber_fixedText]
    simp [Decimal.ofInt, units, places]
  have hText : jsonbText (toString n) = fixedText ⟨decide (n < 0), n.natAbs, 0⟩ := by
    rw [jsonbText, hRead]
    by_cases hZero : n = 0 <;> simp [hZero]
  rw [hText, loadsNumber_fixedText, if_pos hPlaces, hUnits]
  rcases lt_or_ge n 0 with hn | hn
  · have hAbs : (n.natAbs : ℤ) = -n := by omega
    rw [Decimal.signed, if_pos (by simpa using hn), hAbs, neg_neg]
  · have hAbs : (n.natAbs : ℤ) = n := by omega
    rw [Decimal.signed, if_neg (by simpa using hn), hAbs]

/-! ### Doubles -/

/-- The double has digits behind its point, and is no negative zero. -/
def FiniteFloat.Plain (f : FiniteFloat) : Prop :=
  f.magnitude < 10 ^ 16 ∧ ¬ (f.negative = true ∧ f.magnitude = 0)

instance FiniteFloat.decidablePlain (f : FiniteFloat) : Decidable f.Plain :=
  inferInstanceAs (Decidable (_ ∧ _))

theorem firstPlace_eq_log {d : Decimal} (h : d.coefficient ≠ 0) :
    firstPlace d = Int.log 10 |d.toRat| := by
  rw [Decimal.log_abs_toRat h, firstPlace, leadingPlaces, Decimal.digits]
  omega

/-- The place of the first digit, told by the double. -/
theorem firstPlace_digits_lt {f : FiniteFloat} (h : f.magnitude ≠ 0) :
    firstPlace f.digits < 16 ↔ f.magnitude < 10 ^ 16 := by
  have hPos := f.nonneg.lt_of_ne' h
  have hShort := FiniteFloat.isShort_digits h
  have hCoefficient : f.digits.coefficient ≠ 0 := by
    rw [FiniteFloat.digits, if_neg h]
    exact hShort.positive.ne'
  have hAbs := FiniteFloat.abs_digits h
  have hRead := f.roundDouble_digits
  have hDigitsPos : 0 < |f.digits.toRat| := by
    rw [hAbs]
    exact (zpow_pos (by norm_num) _).trans_le hShort.low
  have hPower : roundDouble (10 ^ 16) = 10 ^ 16 := by decide +kernel
  rw [firstPlace_eq_log hCoefficient, ← Int.lt_zpow_iff_log_lt (by norm_num) hDigitsPos]
  constructor
  · intro hDigits
    by_contra hLarge
    have hLog : (16 : ℤ) ≤ Int.log 10 f.magnitude :=
      (Int.zpow_le_iff_le_log (by norm_num) hPos).mp (by exact_mod_cast not_lt.mp hLarge)
    have hLow := hShort.low
    rw [← hAbs] at hLow
    have hSixteen : (10 : ℚ) ^ (16 : ℤ) ≤ 10 ^ Int.log 10 f.magnitude :=
      zpow_le_zpow_right₀ (by norm_num) hLog
    exact absurd (hSixteen.trans hLow) (not_le.mpr (by exact_mod_cast hDigits))
  · intro hSmall
    by_contra hLarge
    have hMono := le_roundDouble (by norm_num) hPower (by exact_mod_cast not_lt.mp hLarge)
    rw [hRead] at hMono
    exact absurd hMono (not_le.mpr hSmall)

/-- The text has places after the point until its digits fill sixteen places before it. -/
theorem places_written {d : Decimal} (hDigits : d.coefficient < 10 ^ 17) :
    places (written d) ≠ 0 ↔ firstPlace d < 16 := by
  have hLeading : leadingPlaces d ≤ 16 := by
    rw [leadingPlaces, Decimal.digits]
    rcases Nat.eq_zero_or_pos d.coefficient with hZero | hPos
    · simp [hZero]
    · have hLog := Nat.log_lt_of_lt_pow hPos.ne' hDigits
      omega
  unfold written
  split_ifs with hFull
  · exact iff_of_true (by simp [places]) hFull.1.2
  · have hFirst : firstPlace d = d.exponent + leadingPlaces d := rfl
    have hPlaces : places d = (-d.exponent).toNat := rfl
    unfold InFull at hFull
    omega

/-- A double is kept as a double exactly where it is plain. -/
theorem loadsNumber_float_iff (f : FiniteFloat) :
    loadsNumber (jsonbText f.repr.text) = .float f.repr ↔ f.Plain := by
  have hRead : readNumber f.repr.text = some (written f.digits) := readNumber_floatText f.digits
  rw [jsonbText, hRead]
  simp only
  by_cases h : f.magnitude = 0
  · have hDigits : f.digits = ⟨f.negative, 0, 0⟩ := if_pos h
    have hWritten : written f.digits = ⟨f.negative, 0, -1⟩ := by
      rw [hDigits]
      cases f.negative <;> decide
    have hZero : (Decimal.mk false 0 (-1)).toRat = 0 := by simp [Decimal.toRat, Decimal.signed]
    have hDouble : roundDouble |(0 : ℚ)| = 0 := by
      rw [abs_zero, ← h]
      exact f.exact
    obtain ⟨g, hg, hSign, hValue⟩ := floatRepr_of_finite (x := 0) false (by
      rw [hDouble]
      norm_num)
    rw [hWritten, if_pos rfl, loadsNumber_fixedText, if_neg (by simp [places]), hZero, hg,
      Decoded.float.injEq]
    constructor
    · intro hSame
      obtain rfl := FiniteFloat.repr_injective hSame
      refine ⟨by rw [h]; norm_num, fun hNegative => ?_⟩
      rw [hSign] at hNegative
      cases hNegative.1
    · intro hPlain
      have hPositive : f.negative = false := by
        by_contra hNegative
        exact hPlain.2 ⟨by simpa using hNegative, h⟩
      have hSame : g = f :=
        FiniteFloat.ext (hSign.trans hPositive.symm) (hValue.trans (hDouble.trans h.symm))
      rw [hSame]
  · have hShort := FiniteFloat.isShort_digits h
    have hCoefficient : f.digits.coefficient = (shortestDecimal f.magnitude).coefficient := by
      rw [FiniteFloat.digits, if_neg h]
    have hNonzero : (written f.digits).coefficient ≠ 0 := by
      intro hZero
      have hValue := toRat_written f.digits
      rw [Decimal.toRat_eq_zero.mpr hZero, eq_comm, Decimal.toRat_eq_zero, hCoefficient] at hValue
      exact hShort.positive.ne' hValue
    have hPlaces := places_written (hCoefficient ▸ hShort.digits)
    rw [firstPlace_digits_lt h] at hPlaces
    have hPlain : f.Plain ↔ places (written f.digits) ≠ 0 := by
      rw [hPlaces]
      exact and_iff_left fun hBoth => h hBoth.2
    rw [if_neg hNonzero, loadsNumber_fixedText, sign_written, toRat_written,
      FiniteFloat.sign_digits, floatRepr_digits, hPlain]
    by_cases hPoint : places (written f.digits) = 0
    · simp [hPoint]
    · simp [hPoint]

/-! ### Values -/

/-- The order of the keys of an object: the shorter first. -/
def jsonbKey (entry : String × Decoded) : Lex (ℕ × String) := toLex (entry.1.utf8ByteSize, entry.1)

mutual

/-- `json.loads` of what a column keeps of a value. -/
def jsonbLoads : Decoded → Decoded
  | .int n => loadsNumber (jsonbText (toString n))
  | .float x => loadsNumber (jsonbText x.text)
  | .list items => .list (jsonbItems items)
  | .dict items => .dict (sortedBy jsonbKey (jsonbEntries items))
  | v => v

def jsonbItems : List Decoded → List Decoded
  | [] => []
  | item :: items => jsonbLoads item :: jsonbItems items

def jsonbEntries : List (String × Decoded) → List (String × Decoded)
  | [] => []
  | (key, item) :: items => (key, jsonbLoads item) :: jsonbEntries items

end

mutual

/-- A JSON value: its doubles are finite, and its objects have each key once. -/
def IsJson : Decoded → Prop
  | .float x => ∃ f : FiniteFloat, x = f.repr
  | .list items => AreJson items
  | .dict items => (items.map (·.1)).Nodup ∧ EntriesAreJson items
  | _ => True

def AreJson : List Decoded → Prop
  | [] => True
  | item :: items => IsJson item ∧ AreJson items

def EntriesAreJson : List (String × Decoded) → Prop
  | [] => True
  | (_, item) :: items => IsJson item ∧ EntriesAreJson items

end

mutual

/-- Every double of the value is plain. -/
def PlainFloats : Decoded → Prop
  | .float x => ∀ f : FiniteFloat, x = f.repr → f.Plain
  | .list items => ArePlain items
  | .dict items => EntriesArePlain items
  | _ => True

def ArePlain : List Decoded → Prop
  | [] => True
  | item :: items => PlainFloats item ∧ ArePlain items

def EntriesArePlain : List (String × Decoded) → Prop
  | [] => True
  | (_, item) :: items => PlainFloats item ∧ EntriesArePlain items

end

theorem jsonbEntries_eq_map (entries : Entries) :
    jsonbEntries entries = entries.map fun entry => (entry.1, jsonbLoads entry.2) := by
  induction entries with
  | nil => rfl
  | cons entry entries ih =>
    obtain ⟨key, item⟩ := entry
    rw [jsonbEntries, ih, List.map_cons]

/-- The order of the keys does not matter to the canonical form. -/
theorem canonical_dict_perm {as bs : Entries} (hNodup : (as.map (·.1)).Nodup) (h : bs.Perm as) :
    (Decoded.dict bs).canonical = (Decoded.dict as).canonical := by
  have hKeys : ((as.map fun entry => (entry.1, entry.2.canonical)).map Prod.fst).Nodup := by
    rwa [List.map_map]
  rw [Decoded.canonical, Decoded.canonical, Decoded.canonicalEntries_eq_map,
    Decoded.canonicalEntries_eq_map]
  congr 1
  refine sortedBy_eq_of_perm ?_ (h.map _)
  exact fun x hx y hy hSame => List.inj_on_of_nodup_map hKeys hx hy hSame

/-- An object as it is read back, with the entries of its canonical text. -/
theorem canonical_jsonbLoads_dict {entries : Entries} (hNodup : (entries.map (·.1)).Nodup) :
    (jsonbLoads (Decoded.dict entries).canonical).canonical =
      (Decoded.dict (entries.map fun entry =>
        (entry.1, jsonbLoads entry.2.canonical))).canonical := by
  have hKeys : ((entries.map fun entry => (entry.1, jsonbLoads entry.2.canonical)).map
      (·.1)).Nodup := by rwa [List.map_map]
  rw [Decoded.canonical, jsonbLoads, jsonbEntries_eq_map, Decoded.canonicalEntries_eq_map]
  refine canonical_dict_perm hKeys ((sortedBy_perm _ _).trans ?_)
  have hMapped := (sortedBy_perm Prod.fst (entries.map fun entry =>
    (entry.1, entry.2.canonical))).map fun entry => (entry.1, jsonbLoads entry.2)
  rwa [List.map_map] at hMapped

/-- Objects with the same keys have one canonical form where their values have one under each. -/
theorem dict_map_canonical_iff {entries : Entries} (hNodup : (entries.map (·.1)).Nodup)
    {f : Decoded → Decoded} :
    (Decoded.dict (entries.map fun entry => (entry.1, f entry.2))).canonical =
        (Decoded.dict entries).canonical ↔
      ∀ entry ∈ entries, (f entry.2).canonical = entry.2.canonical := by
  let fields : List (String × (Bool → Decoded)) := entries.map fun entry =>
    (entry.1, fun changed => if changed then f entry.2 else entry.2)
  have hFields : (fields.map (·.1)).Nodup := by rwa [List.map_map]
  have hChanged : Decoded.record fields true =
      .dict (entries.map fun entry => (entry.1, f entry.2)) := by
    rw [Decoded.record, List.map_map]
    rfl
  have hSame : Decoded.record fields false = .dict entries := by
    rw [Decoded.record, List.map_map]
    exact congrArg Decoded.dict (List.map_id entries)
  rw [← hChanged, ← hSame, Decoded.record_eq_iff hFields, List.forall_mem_map]
  rfl

theorem canonical_loadsNumber (text : String) :
    (loadsNumber text).canonical = loadsNumber text := by
  unfold loadsNumber
  cases readNumber text with
  | none => rfl
  | some d =>
    simp only
    split_ifs <;> rfl

theorem jsonbLoads_float_iff {x : PyFloat} (h : IsJson (.float x)) :
    (jsonbLoads (Decoded.float x).canonical).canonical = (Decoded.float x).canonical ↔
      PlainFloats (.float x) := by
  obtain ⟨f, rfl⟩ := h
  change (loadsNumber (jsonbText f.repr.text)).canonical = .float f.repr ↔
    ∀ g : FiniteFloat, f.repr = g.repr → g.Plain
  rw [canonical_loadsNumber, loadsNumber_float_iff]
  constructor
  · intro hPlain g hSame
    rwa [← FiniteFloat.repr_injective hSame]
  · intro hPlain
    exact hPlain f rfl

mutual

/-- A JSON value is read back from its canonical text, up to the order of its keys, exactly
where its doubles are plain. -/
theorem jsonbLoads_canonical_iff : ∀ {v : Decoded}, IsJson v →
    ((jsonbLoads v.canonical).canonical = v.canonical ↔ PlainFloats v)
  | .none, _ => iff_of_true rfl trivial
  | .bool _, _ => iff_of_true rfl trivial
  | .str _, _ => iff_of_true rfl trivial
  | .int n, _ => by
    have hRead : jsonbLoads (.int n) = .int n := loadsNumber_int n
    exact iff_of_true (congrArg Decoded.canonical hRead) trivial
  | .float x, h => jsonbLoads_float_iff h
  | .list items, h => by
    rw [Decoded.canonical, jsonbLoads, Decoded.canonical, Decoded.list.injEq]
    exact jsonbItems_canonical_iff h
  | .dict items, h => by
    rw [canonical_jsonbLoads_dict h.1,
      dict_map_canonical_iff (f := fun item => jsonbLoads item.canonical) h.1]
    exact jsonbEntries_canonical_iff h.2

theorem jsonbItems_canonical_iff : ∀ {items : List Decoded}, AreJson items →
    (Decoded.canonicalItems (jsonbItems (Decoded.canonicalItems items)) =
      Decoded.canonicalItems items ↔ ArePlain items)
  | [], _ => iff_of_true rfl trivial
  | item :: items, h => by
    rw [Decoded.canonicalItems, jsonbItems, Decoded.canonicalItems, List.cons.injEq, ArePlain,
      jsonbLoads_canonical_iff h.1, jsonbItems_canonical_iff h.2]

theorem jsonbEntries_canonical_iff : ∀ {items : Entries}, EntriesAreJson items →
    ((∀ entry ∈ items, (jsonbLoads entry.2.canonical).canonical = entry.2.canonical) ↔
      EntriesArePlain items)
  | [], _ => iff_of_true nofun trivial
  | (key, item) :: items, h => by
    rw [List.forall_mem_cons, EntriesArePlain, jsonbLoads_canonical_iff h.1,
      jsonbEntries_canonical_iff h.2]

end

end Daybreak.Serial
