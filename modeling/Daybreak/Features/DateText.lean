import Daybreak.Features.Clock
import Daybreak.Serial.Canonical

/-! The texts of days and timestamps. A calendar date tells its ordinal, so that days of the
years one to 9999 have different texts, and so have timestamps to the microsecond. -/

namespace Daybreak.Features

open Serial

/-! ### Ordinals -/

/-- `_is_leap` -/
def isLeap (year : ℕ) : Bool := year % 4 = 0 ∧ (year % 100 ≠ 0 ∨ year % 400 = 0)

/-- `_days_before_year` -/
def daysBeforeYear (year : ℕ) : ℕ :=
  let y := year - 1
  y * 365 + y / 4 - y / 100 + y / 400

/-- `date.toordinal()` -/
def ordinalOf (date : Date) : ℕ :=
  daysBeforeYear date.year + daysBeforeMonth date.month +
    (if 2 < date.month ∧ isLeap date.year then 1 else 0) + date.day

/-- The month and the day of a year, by the days of the year before it. -/
def monthAndDay (leap n : ℕ) : ℕ × ℕ :=
  let month := (n + 50) / 32
  let preceding := daysBeforeMonth month + if 2 < month then leap else 0
  if preceding > n then
    (month - 1,
      n - (preceding - (daysInMonth (month - 1) + if month - 1 = 2 then leap else 0)) + 1)
  else (month, n - preceding + 1)

theorem monthAndDay_spec : ∀ leap < 2, ∀ n < 365,
    (monthAndDay leap n).1 ≤ 12 ∧ (monthAndDay leap n).2 ≤ 31 ∧
      daysBeforeMonth (monthAndDay leap n).1 + (if 2 < (monthAndDay leap n).1 then leap else 0) +
        (monthAndDay leap n).2 = n + 1 := by
  decide +kernel

/-- The cycles of 400, 100, 4 years and of one year that an ordinal has. -/
structure Cycles (ordinal n400 n100 n4 n1 n : ℕ) : Prop where
  ordinal : ordinal = n400 * 146097 + n100 * 36524 + n4 * 1461 + n1 * 365 + n + 1
  hundreds : n100 < 4 ∧ n4 < 25 ∨ n100 = 4 ∧ n4 = 0 ∧ n1 = 0 ∧ n = 0
  years : n1 < 4 ∧ n < 365 ∨ n1 = 4 ∧ n = 0
  last : n4 = 24 → n1 < 4

theorem cycles_ordinal {ordinal : ℕ} (h : 0 < ordinal) :
    Cycles ordinal ((ordinal - 1) / 146097) ((ordinal - 1) % 146097 / 36524)
      ((ordinal - 1) % 146097 % 36524 / 1461) ((ordinal - 1) % 146097 % 36524 % 1461 / 365)
      ((ordinal - 1) % 146097 % 36524 % 1461 % 365) := by
  constructor <;> omega

variable {ordinal n400 n100 n4 n1 n : ℕ}

/-- The first days of the years within the cycles. -/
theorem daysBeforeYear_cycles (hHundreds : n100 < 4) (hFours : n4 < 25) (hYears : n1 < 4) :
    daysBeforeYear (n400 * 400 + 1 + n100 * 100 + n4 * 4 + n1) =
      n400 * 146097 + n100 * 36524 + n4 * 1461 + n1 * 365 := by
  simp only [daysBeforeYear]
  omega

theorem isLeap_cycles (hHundreds : n100 < 4) (hFours : n4 < 25) (hYears : n1 < 4) :
    isLeap (n400 * 400 + 1 + n100 * 100 + n4 * 4 + n1) =
      decide (n1 = 3 ∧ (n4 ≠ 24 ∨ n100 = 3)) := by
  unfold isLeap
  refine decide_eq_decide.mpr ?_
  omega

/-- The date of an ordinal: the last day of a leap year, or a day with its month. -/
theorem ordinal_cases (h : Cycles ordinal n400 n100 n4 n1 n) :
    (n1 = 4 ∨ n100 = 4) ∧ (∃ year, n400 * 400 + 1 + n100 * 100 + n4 * 4 + n1 = year + 1 ∧
        isLeap year = true ∧ ordinal = daysBeforeYear year + 366) ∨
      ¬(n1 = 4 ∨ n100 = 4) ∧ n < 365 ∧
        ordinal = daysBeforeYear (n400 * 400 + 1 + n100 * 100 + n4 * 4 + n1) + n + 1 := by
  obtain ⟨hOrdinal, hHundreds, hYears, hLast⟩ := h
  by_cases hEnd : n1 = 4 ∨ n100 = 4
  · refine .inl ⟨hEnd, n400 * 400 + n100 * 100 + n4 * 4 + n1, by omega, ?_, ?_⟩
    · unfold isLeap
      refine decide_eq_true ?_
      omega
    · simp only [daysBeforeYear]
      omega
  · have hCycles := @daysBeforeYear_cycles n400 n100 n4 n1
      (by omega) (by omega) (by omega)
    exact .inr ⟨hEnd, by omega, by omega⟩

theorem date_monthAndDay (year leap n : ℕ) :
    (let month := (n + 50) / 32
      let preceding := daysBeforeMonth month + if 2 < month then leap else 0
      if preceding > n then
        let preceding := preceding - (daysInMonth (month - 1) + if month - 1 = 2 then leap else 0)
        Date.mk year (month - 1) (n - preceding + 1)
      else ⟨year, month, n - preceding + 1⟩) =
      ⟨year, (monthAndDay leap n).1, (monthAndDay leap n).2⟩ := by
  unfold monthAndDay
  dsimp only
  split_ifs <;> rfl

/-- What is known of the date of an ordinal. -/
structure DateOf (ordinal : ℕ) (date : Date) : Prop where
  found : ordinalOf date = ordinal
  year : daysBeforeYear date.year < ordinal
  month : date.month ≤ 12
  day : date.day ≤ 31

theorem dateOf_dateOfOrdinal (h : 0 < ordinal) : DateOf ordinal (dateOfOrdinal ordinal) := by
  have hCycles := cycles_ordinal h
  unfold dateOfOrdinal
  dsimp only
  revert hCycles
  generalize (ordinal - 1) / 146097 = n400
  generalize (ordinal - 1) % 146097 / 36524 = n100
  generalize (ordinal - 1) % 146097 % 36524 / 1461 = n4
  generalize (ordinal - 1) % 146097 % 36524 % 1461 / 365 = n1
  generalize (ordinal - 1) % 146097 % 36524 % 1461 % 365 = n
  intro hCycles
  rcases ordinal_cases hCycles with ⟨hEnd, year, hYear, hLeap, hOrdinal⟩ | ⟨hEnd, hDay, hOrdinal⟩
  · rw [if_pos hEnd, hYear, Nat.add_sub_cancel]
    have hBefore : daysBeforeMonth 12 = 334 := rfl
    constructor
    · simp only [ordinalOf, hLeap, hBefore]
      norm_num
      omega
    · change daysBeforeYear year < ordinal
      omega
    · exact le_rfl
    · exact le_rfl
  · rw [if_neg hEnd]
    have hLeap := @isLeap_cycles n400 n100 n4 n1
      (by have := hCycles.hundreds; omega) (by have := hCycles.hundreds; omega)
      (by have := hCycles.years; omega)
    generalize n400 * 400 + 1 + n100 * 100 + n4 * 4 + n1 = year at hLeap hOrdinal ⊢
    generalize hFlag : (if n1 = 3 ∧ (n4 ≠ 24 ∨ n100 = 3) then 1 else 0) = leap
    have hBit : leap < 2 := by
      rw [← hFlag]
      split_ifs <;> norm_num
    obtain ⟨hMonth, hDays, hSum⟩ := monthAndDay_spec leap hBit n hDay
    have hDate := date_monthAndDay year leap n
    dsimp only at hDate
    rw [hDate]
    constructor
    · have hFlagged : (if isLeap year = true then 1 else 0) = leap := by
        simp only [hLeap, ← hFlag, decide_eq_true_eq]
      simp only [ordinalOf, ite_and, hFlagged]
      omega
    · change daysBeforeYear year < ordinal
      omega
    · exact hMonth
    · exact hDays

/-! ### Texts -/

/-- A day of the years one to 9999, which a `date` can be. -/
def InCalendar (day : Day) : Prop := 0 < day.toNat ∧ day.toNat ≤ 3652059

instance decidableInCalendar (day : Day) : Decidable (InCalendar day) := by
  unfold InCalendar
  infer_instance

theorem dateOf_day {day : Day} (h : InCalendar day) :
    DateOf day.toNat (dateOfOrdinal day.toNat) := dateOf_dateOfOrdinal h.1

theorem year_le {day : Day} (h : InCalendar day) : (dateOfOrdinal day.toNat).year ≤ 9999 := by
  have hYear := (dateOf_day h).year
  obtain ⟨-, hLast⟩ := h
  generalize (dateOfOrdinal day.toNat).year = year at hYear ⊢
  simp only [daysBeforeYear] at hYear
  omega

/-- The date of a day, with the bounds of its fields. -/
def calendarDate (day : Day) (h : InCalendar day) : CalendarDate where
  toDate := dateOfOrdinal day.toNat
  year_le := year_le h
  month_le := (dateOf_day h).month
  day_le := (dateOf_day h).day

theorem isoDate_eq (day : Day) (h : InCalendar day) :
    isoDate day = (calendarDate day h).isoformat := rfl

theorem length_isoDate {day : Day} (h : InCalendar day) : (isoDate day).length = 10 := by
  rw [isoDate_eq day h, CalendarDate.length_isoformat]

/-- Different days have different texts. -/
theorem isoDate_injective {a b : Day} (ha : InCalendar a) (hb : InCalendar b)
    (h : isoDate a = isoDate b) : a = b := by
  rw [isoDate_eq a ha, isoDate_eq b hb] at h
  have hDates : dateOfOrdinal a.toNat = dateOfOrdinal b.toNat :=
    congrArg CalendarDate.toDate (CalendarDate.isoformat_injective h)
  have hOrdinals : a.toNat = b.toNat := by
    rw [← (dateOf_day ha).found, hDates, (dateOf_day hb).found]
  obtain ⟨haFirst, -⟩ := ha
  obtain ⟨hbFirst, -⟩ := hb
  change @Eq ℤ a b
  omega

/-- Different timestamps have different texts. -/
theorem utcZ_injective {a b : Timestamp} (ha : InCalendar (utcDate a)) (hb : InCalendar (utcDate b))
    (h : utcZ a = utcZ b) : a = b := by
  have hClock (t : Timestamp) : (t % 86400000000).toNat / 1000000 / 3600 < 100 ∧
      (t % 86400000000).toNat / 1000000 / 60 % 60 < 100 ∧
      (t % 86400000000).toNat / 1000000 % 60 < 100 := by omega
  simp only [utcZ, String.append_assoc] at h
  obtain ⟨hDate, h⟩ := append_inj_of_length h ((length_isoDate ha).trans (length_isoDate hb).symm)
  obtain ⟨-, h⟩ := append_inj_of_length h rfl
  obtain ⟨hHour, hMinute, hSecond, h⟩ := clockText_inj (hClock a) (hClock b) h
  obtain ⟨-, h⟩ := append_inj_of_length h rfl
  have hMicros := zeroPad_injective (String.append_left_inj _ |>.mp h)
  have hDays := isoDate_injective ha hb hDate
  change @Eq ℤ (719163 + a / 86400000000) (719163 + b / 86400000000) at hDays
  change @Eq ℤ a b
  omega

end Daybreak.Features
