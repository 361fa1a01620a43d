import Daybreak.Contracts.Types
import Daybreak.Numeric.Decimal
import Daybreak.Order.Sorting
import Daybreak.Serial.StrictModel
import Mathlib.Data.String.Basic

/-! Canonical JSON. An object has its entries sorted by their keys; dates, times and decimals
are written as texts. What is written tells the entries of an object, a date, a time and
the value of a decimal. -/

namespace Daybreak.Serial

open Numeric Daybreak.Order

/-! ### Objects, arrays and optional values -/

namespace Json

/-- A dictionary with its entries sorted by their keys. -/
def object (entries : List (String × Json)) : Json := .obj (sortedBy Prod.fst entries)

/-- `None`, or a value. -/
def optional {α : Type} (write : α → Json) : Option α → Json
  | none => .null
  | some a => write a

/-- Two lists of entries with the same keys, each once, are the same where they are a
permutation of each other. -/
theorem entries_eq_of_perm {as bs : List (String × Json)} (hKeys : as.map (·.1) = bs.map (·.1))
    (hNodup : (as.map (·.1)).Nodup) (hPerm : as.Perm bs) : as = bs := by
  induction as generalizing bs with
  | nil => exact hPerm.nil_eq
  | cons a as ih =>
    cases bs with
    | nil => cases hKeys
    | cons b bs =>
      obtain ⟨hKey, hRest⟩ := List.cons.inj hKeys
      obtain ⟨hNew, hNodup⟩ := List.nodup_cons.mp hNodup
      have hSame : a = b := by
        rcases List.mem_cons.mp (hPerm.subset List.mem_cons_self) with hFirst | hLater
        · exact hFirst
        · have hMem : a.1 ∈ bs.map (·.1) := List.mem_map_of_mem hLater
          exact absurd (hRest ▸ hMem) hNew
      subst hSame
      rw [ih hRest hNodup (List.perm_cons a |>.mp hPerm)]

/-- An object tells the values of its keys. -/
theorem object_inj {as bs : List (String × Json)} (hKeys : as.map (·.1) = bs.map (·.1))
    (hNodup : (as.map (·.1)).Nodup) (h : object as = object bs) : as = bs := by
  have hSorted : sortedBy Prod.fst as = sortedBy Prod.fst bs := Json.obj.inj h
  refine entries_eq_of_perm hKeys hNodup ((sortedBy_perm Prod.fst as).symm.trans ?_)
  rw [hSorted]
  exact sortedBy_perm Prod.fst bs

/-- A model as it is dumped and normalized: every field with what it is written as. -/
def record {α : Type} (fields : List (String × (α → Json))) (a : α) : Json :=
  object (fields.map fun field => (field.1, field.2 a))

/-- The fields that a dump does not exclude. -/
def without {α : Type} (names : List String) (fields : List (String × (α → Json))) :
    List (String × (α → Json)) := fields.filter fun field => field.1 ∉ names

/-- A dump tells its fields. -/
theorem record_inj {α : Type} {fields : List (String × (α → Json))} {a b : α}
    (hNodup : (fields.map (·.1)).Nodup) (h : record fields a = record fields b) :
    ∀ field ∈ fields, field.2 a = field.2 b := by
  have hNames (c : α) : (fields.map fun field => (field.1, field.2 c)).map (·.1) =
      fields.map (·.1) := by
    rw [List.map_map]
    rfl
  have hEntries := object_inj ((hNames a).trans (hNames b).symm) (by rwa [hNames a]) h
  intro field hField
  exact (Prod.mk.inj (List.map_inj_left.mp hEntries field hField)).2

theorem record_without_inj {α : Type} {fields : List (String × (α → Json))} {names : List String}
    {a b : α} (hNodup : (fields.map (·.1)).Nodup)
    (h : record (without names fields) a = record (without names fields) b) :
    ∀ field ∈ fields, field.1 ∉ names → field.2 a = field.2 b := by
  have hSublist : ((without names fields).map (·.1)).Sublist (fields.map (·.1)) :=
    List.filter_sublist.map _
  intro field hField hName
  exact record_inj (hNodup.sublist hSublist) h field
    (List.mem_filter.mpr ⟨hField, decide_eq_true hName⟩)

/-- What the elements of an array tell, the array tells. -/
theorem arr_map_inj {α β : Type} {write : α → Json} {v : α → β} {xs ys : List α}
    (hWrite : ∀ a b, write a = write b → v a = v b)
    (h : Json.arr (xs.map write) = .arr (ys.map write)) : xs.map v = ys.map v := by
  have hItems := Json.arr.inj h
  clear h
  induction xs generalizing ys with
  | nil =>
    cases ys with
    | nil => rfl
    | cons y ys => cases hItems
  | cons x xs ih =>
    cases ys with
    | nil => cases hItems
    | cons y ys =>
      obtain ⟨hFirst, hRest⟩ := List.cons.inj hItems
      rw [List.map_cons, List.map_cons, hWrite x y hFirst, ih hRest]

theorem optional_inj {α β : Type} {write : α → Json} {v : α → β} {a b : Option α}
    (hNull : ∀ a, write a ≠ .null) (hWrite : ∀ a b, write a = write b → v a = v b)
    (h : optional write a = optional write b) : a.map v = b.map v := by
  cases a with
  | none =>
    cases b with
    | none => rfl
    | some b => exact absurd h.symm (hNull b)
  | some a =>
    cases b with
    | none => exact absurd h (hNull a)
    | some b => exact congrArg some (hWrite a b h)

end Json

/-! ### Numbers with leading zeros -/

theorem append_inj_of_length {a b c d : String} (h : a ++ c = b ++ d) (hLength : a.length = b.length) :
    a = b ∧ c = d := by
  have hLists := congrArg String.toList h
  rw [String.toList_append, String.toList_append] at hLists
  obtain ⟨hFirst, hSecond⟩ := List.append_inj hLists (by rwa [String.length_toList, String.length_toList])
  exact ⟨String.toList_injective hFirst, String.toList_injective hSecond⟩

/-- The number that a padded text is of. -/
theorem ofDigitChars_zeroPad (width n : ℕ) :
    Nat.ofDigitChars 10 (zeroPad width n).toList 0 = n := by
  simp [zeroPad, Nat.ofDigitChars_append]

theorem zeroPad_injective {width a b : ℕ} (h : zeroPad width a = zeroPad width b) : a = b := by
  rw [← ofDigitChars_zeroPad width a, h, ofDigitChars_zeroPad]

/-! ### Dates and times -/

structure CalendarDate extends Date where
  year_le : year ≤ 9999
  month_le : month ≤ 12
  day_le : day ≤ 31
  deriving DecidableEq, Repr

/-- `date.isoformat()` -/
def CalendarDate.isoformat (d : CalendarDate) : String :=
  zeroPad 4 d.year ++ "-" ++ zeroPad 2 d.month ++ "-" ++ zeroPad 2 d.day

theorem CalendarDate.length_isoformat (d : CalendarDate) : d.isoformat.length = 10 := by
  have hYear := d.year_le
  have hMonth := d.month_le
  have hDay := d.day_le
  have hDash : "-".length = 1 := by decide
  simp only [isoformat, String.length_append, hDash]
  rw [length_zeroPad (by omega) (by omega), length_zeroPad (by omega) (by omega),
    length_zeroPad (by omega) (by omega)]

theorem CalendarDate.isoformat_injective {a b : CalendarDate} (h : a.isoformat = b.isoformat) :
    a = b := by
  have hLength (d : CalendarDate) : (zeroPad 4 d.year).length = 4 ∧ (zeroPad 2 d.month).length = 2 := by
    have hYear := d.year_le
    have hMonth := d.month_le
    exact ⟨length_zeroPad (by omega) (by omega), length_zeroPad (by omega) (by omega)⟩
  simp only [isoformat, String.append_assoc] at h
  obtain ⟨hYear, h⟩ := append_inj_of_length h ((hLength a).1.trans (hLength b).1.symm)
  obtain ⟨-, h⟩ := append_inj_of_length h rfl
  obtain ⟨hMonth, h⟩ := append_inj_of_length h ((hLength a).2.trans (hLength b).2.symm)
  obtain ⟨-, hDay⟩ := append_inj_of_length h rfl
  obtain ⟨⟨_, _, _⟩, _, _, _⟩ := a
  obtain ⟨⟨_, _, _⟩, _, _, _⟩ := b
  obtain rfl := zeroPad_injective hYear
  obtain rfl := zeroPad_injective hMonth
  obtain rfl := zeroPad_injective hDay
  rfl

/-- The hour, the minute and the second that a text shows with two digits each. -/
theorem clockText_inj {hour minute second hour' minute' second' : ℕ} {rest rest' : String}
    (ha : hour < 100 ∧ minute < 100 ∧ second < 100)
    (hb : hour' < 100 ∧ minute' < 100 ∧ second' < 100)
    (h : zeroPad 2 hour ++ (":" ++ (zeroPad 2 minute ++ (":" ++ (zeroPad 2 second ++ rest)))) =
      zeroPad 2 hour' ++ (":" ++ (zeroPad 2 minute' ++ (":" ++ (zeroPad 2 second' ++ rest'))))) :
    hour = hour' ∧ minute = minute' ∧ second = second' ∧ rest = rest' := by
  have hLength {n n' : ℕ} (hn : n < 100) (hn' : n' < 100) :
      (zeroPad 2 n).length = (zeroPad 2 n').length := by
    rw [length_zeroPad (by omega) (by omega), length_zeroPad (by omega) (by omega)]
  obtain ⟨hHour, h⟩ := append_inj_of_length h (hLength ha.1 hb.1)
  obtain ⟨-, h⟩ := append_inj_of_length h rfl
  obtain ⟨hMinute, h⟩ := append_inj_of_length h (hLength ha.2.1 hb.2.1)
  obtain ⟨-, h⟩ := append_inj_of_length h rfl
  obtain ⟨hSecond, h⟩ := append_inj_of_length h (hLength ha.2.2 hb.2.2)
  exact ⟨zeroPad_injective hHour, zeroPad_injective hMinute, zeroPad_injective hSecond, h⟩

/-- A `datetime` in UTC. -/
structure UtcDatetime where
  date : CalendarDate
  hour : ℕ
  minute : ℕ
  second : ℕ
  microsecond : ℕ
  hour_lt : hour < 24
  minute_lt : minute < 60
  second_lt : second < 60
  microsecond_lt : microsecond < 1000000
  deriving DecidableEq, Repr

namespace UtcDatetime

variable (t : UtcDatetime)

/-- The fields as one number, which is less for an earlier time. -/
def rank : ℕ :=
  (((((t.date.year * 100 + t.date.month) * 100 + t.date.day) * 100 + t.hour) * 100 + t.minute) * 100
    + t.second) * 1000000 + t.microsecond

/-- The microseconds, which are left out where there are none. -/
def fraction : String := if t.microsecond = 0 then "" else "." ++ zeroPad 6 t.microsecond

/-- `value.isoformat().replace("+00:00", "Z")` -/
def isoformat : String :=
  t.date.isoformat ++ "T" ++ zeroPad 2 t.hour ++ ":" ++ zeroPad 2 t.minute ++ ":" ++
    zeroPad 2 t.second ++ t.fraction ++ "Z"

theorem clock_lt : t.hour < 100 ∧ t.minute < 100 ∧ t.second < 100 := by
  have hHour := t.hour_lt
  have hMinute := t.minute_lt
  have hSecond := t.second_lt
  omega

theorem fraction_injective {a b : UtcDatetime} (h : a.fraction = b.fraction) :
    a.microsecond = b.microsecond := by
  unfold fraction at h
  split_ifs at h with ha hb hb
  · rw [ha, hb]
  · exact absurd (congrArg String.length h.symm) (by simp)
  · exact absurd (congrArg String.length h) (by simp)
  · exact zeroPad_injective (append_inj_of_length h rfl).2

theorem isoformat_injective {a b : UtcDatetime} (h : a.isoformat = b.isoformat) : a = b := by
  simp only [isoformat, String.append_assoc] at h
  obtain ⟨hDate, h⟩ := append_inj_of_length h
    (a.date.length_isoformat.trans b.date.length_isoformat.symm)
  obtain ⟨-, h⟩ := append_inj_of_length h rfl
  obtain ⟨hHour, hMinute, hSecond, h⟩ := clockText_inj a.clock_lt b.clock_lt h
  have hFraction := fraction_injective (String.append_left_inj _ |>.mp h)
  have hDates := CalendarDate.isoformat_injective hDate
  cases a
  cases b
  simp only [mk.injEq]
  exact ⟨hDates, hHour, hMinute, hSecond, hFraction⟩

end UtcDatetime

/-! ### Decimals -/

/-- The decimal places that a decimal is written with. -/
def places (d : Decimal) : ℕ := (-d.exponent).toNat

/-- The decimal without its sign, in units of its last place. -/
def units (d : Decimal) : ℕ := d.coefficient * 10 ^ d.exponent.toNat

/-- The places after the point, and no point where there are none. -/
def fractionText (d : Decimal) : String :=
  if places d = 0 then "" else "." ++ zeroPad (places d) (units d % 10 ^ places d)

def signText : Bool → String
  | true => "-"
  | false => ""

/-- `format(value, "f")` -/
def fixedText (d : Decimal) : String :=
  signText d.sign ++ (toString (units d / 10 ^ places d) ++ fractionText d)

example : fixedText ⟨true, 120, -2⟩ = "-1.20" ∧ fixedText ⟨false, 7, 2⟩ = "700" := by decide

theorem toRat_eq_units (d : Decimal) :
    d.toRat = (Decimal.signed (units d) d.sign : ℚ) / 10 ^ places d := by
  have hExponent : d.exponent = (d.exponent.toNat : ℤ) - (places d : ℤ) := by
    unfold places
    omega
  have hSigned : (Decimal.signed (units d) d.sign : ℚ) =
      Decimal.signed d.coefficient d.sign * 10 ^ d.exponent.toNat := by
    unfold Decimal.signed units
    split_ifs <;> push_cast <;> ring
  have hPower : (10 : ℚ) ^ d.exponent = 10 ^ d.exponent.toNat / 10 ^ places d := by
    rw [← zpow_natCast, ← zpow_natCast, ← zpow_sub₀ (by norm_num), ← hExponent]
  rw [Decimal.toRat, hSigned, hPower, mul_div_assoc]

theorem isDigit_of_mem_toString {n : ℕ} {c : Char} (h : c ∈ (toString n).toList) :
    c.isDigit = true :=
  Nat.isDigit_of_mem_toDigits (by norm_num : 0 < 10) le_rfl (by simpa using h)

/-- A number starts with a digit, not with a sign. -/
theorem minus_ne_digits {n : ℕ} {s t : String} : "-" ++ t ≠ toString n ++ s := by
  intro h
  have hHead := congrArg (fun text => text.toList.head?) h
  cases hDigits : (toString n).toList with
  | nil => simp at hDigits
  | cons c rest =>
    have hDigit := isDigit_of_mem_toString (hDigits ▸ List.mem_cons_self : c ∈ (toString n).toList)
    simp only [String.toList_append, hDigits, List.cons_append, List.head?_cons] at hHead
    obtain rfl : '-' = c := Option.some.inj hHead
    cases hDigit

theorem signText_inj {p q : Bool} {m n : ℕ} {s t : String}
    (h : signText p ++ (toString m ++ s) = signText q ++ (toString n ++ t)) : p = q := by
  cases p with
  | true =>
    cases q with
    | true => rfl
    | false => exact absurd (h.trans String.empty_append) minus_ne_digits
  | false =>
    cases q with
    | true => exact absurd (h.symm.trans String.empty_append) minus_ne_digits
    | false => rfl

/-- The digits of a number, and then something that is no digit: where the text is cut is
told by the text. -/
theorem digits_append_inj {m n : ℕ} {s t : String} (hs : ∀ c ∈ s.toList.head?, c.isDigit = false)
    (ht : ∀ c ∈ t.toList.head?, c.isDigit = false) (h : toString m ++ s = toString n ++ t) :
    m = n ∧ s = t := by
  have hTake {k : ℕ} {u : String} (hu : ∀ c ∈ u.toList.head?, c.isDigit = false) :
      (toString k ++ u).toList.takeWhile Char.isDigit = (toString k).toList := by
    rw [String.toList_append, List.takeWhile_append_of_pos fun c => isDigit_of_mem_toString]
    cases hList : u.toList with
    | nil => simp
    | cons c rest => simp [hu c (by rw [hList]; rfl)]
  have hFirst : (toString m).toList = (toString n).toList := by
    rw [← hTake hs, h, hTake ht]
  have hText : toString m = toString n := String.toList_injective hFirst
  rw [hText] at h
  refine ⟨?_, String.append_right_inj _ |>.mp h⟩
  have hValue := congrArg (Nat.ofDigitChars 10 · 0) hFirst
  simpa using hValue

theorem fractionText_head (d : Decimal) :
    ∀ c ∈ (fractionText d).toList.head?, c.isDigit = false := by
  unfold fractionText
  split_ifs with h
  · simp
  · simp

theorem fractionText_inj {a b : Decimal} (h : fractionText a = fractionText b) :
    places a = places b ∧ units a % 10 ^ places a = units b % 10 ^ places b := by
  have hLength (d : Decimal) (hd : places d ≠ 0) :
      (zeroPad (places d) (units d % 10 ^ places d)).length = places d :=
    length_zeroPad (Nat.pos_of_ne_zero hd) (Nat.mod_lt _ (by positivity))
  unfold fractionText at h
  split_ifs at h with ha hb hb
  · simp [ha, hb, Nat.mod_one]
  · exact absurd (congrArg String.length h.symm) (by simp)
  · exact absurd (congrArg String.length h) (by simp)
  · have hText := (append_inj_of_length h rfl).2
    have hPlaces : places a = places b := by rw [← hLength a ha, hText, hLength b hb]
    refine ⟨hPlaces, ?_⟩
    rw [hPlaces] at hText ⊢
    exact zeroPad_injective hText

/-- The text of a decimal tells its value. -/
theorem toRat_eq_of_fixedText {a b : Decimal} (h : fixedText a = fixedText b) : a.toRat = b.toRat := by
  unfold fixedText at h
  have hSign : a.sign = b.sign := signText_inj h
  rw [hSign] at h
  obtain ⟨hWhole, hFraction⟩ :=
    digits_append_inj (fractionText_head a) (fractionText_head b) (String.append_right_inj _ |>.mp h)
  obtain ⟨hPlaces, hRest⟩ := fractionText_inj hFraction
  rw [hPlaces] at hWhole hRest
  have hUnits : units a = units b := by
    rw [← Nat.div_add_mod (units a) (10 ^ places b), hWhole, hRest, Nat.div_add_mod]
  rw [toRat_eq_units, toRat_eq_units, hSign, hPlaces, hUnits]

end Daybreak.Serial
