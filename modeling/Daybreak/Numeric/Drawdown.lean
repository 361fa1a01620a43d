import Daybreak.Numeric.Significant
import Mathlib.Algebra.BigOperators.Group.List.Lemmas
import Mathlib.Algebra.Order.Group.MinMax
import Mathlib.Order.Bounds.Basic

/-! The largest fall of a running sum, from one of its values to a later one. One pass over the
terms finds it, which keeps the sum, its peak and the largest fall so far; with decimals it does
as long as no sum of consecutive terms is rounded. -/

namespace Daybreak.Numeric

/-! ### Running sums -/

section RunningSum

variable {α : Type*} [AddCommGroup α]

/-- The sum of the first `k` terms. -/
def partialSum (xs : List α) (k : ℕ) : α := (xs.take k).sum

@[simp] theorem partialSum_zero (xs : List α) : partialSum xs 0 = 0 := rfl

theorem partialSum_length (xs : List α) : partialSum xs xs.length = xs.sum := by
  rw [partialSum, List.take_length]

theorem partialSum_append {xs : List α} {k : ℕ} (h : k ≤ xs.length) (x : α) :
    partialSum (xs ++ [x]) k = partialSum xs k := by
  rw [partialSum, List.take_append_of_le_length h, partialSum]

theorem partialSum_last (xs : List α) (x : α) :
    partialSum (xs ++ [x]) (xs.length + 1) = xs.sum + x := by
  have hLength := partialSum_length (xs ++ [x])
  rwa [List.length_append, List.length_singleton, List.sum_append, List.sum_singleton] at hLength

/-- The difference of two values is a sum of consecutive terms. -/
theorem partialSum_sub {i j : ℕ} (h : i ≤ j) (xs : List α) :
    partialSum xs i - partialSum xs j = -((xs.take j).drop i).sum := by
  have hParts := List.sum_take_add_sum_drop (xs.take j) i
  rw [List.take_take, min_eq_left h] at hParts
  rw [partialSum, partialSum, ← hParts]
  abel

variable [LinearOrder α]

/-- The sum so far, its peak and its largest fall from a peak. -/
structure RunningSum (α : Type*) where
  cumulative : α
  peak : α
  fall : α

namespace RunningSum

def start : RunningSum α := ⟨0, 0, 0⟩

def next (s : RunningSum α) (x : α) : RunningSum α where
  cumulative := s.cumulative + x
  peak := max s.peak (s.cumulative + x)
  fall := max s.fall (max s.peak (s.cumulative + x) - (s.cumulative + x))

end RunningSum

/-- The greatest difference of a value of the running sum and a later one. -/
def IsLargestFall (xs : List α) (fall : α) : Prop :=
  IsGreatest {d | ∃ i j, i ≤ j ∧ j ≤ xs.length ∧ d = partialSum xs i - partialSum xs j} fall

/-- What the pass has found in the terms so far. -/
structure Tracks (xs : List α) (s : RunningSum α) : Prop where
  cumulative : s.cumulative = xs.sum
  peak : IsGreatest {c | ∃ i ≤ xs.length, c = partialSum xs i} s.peak
  fall : IsLargestFall xs s.fall

theorem tracks_nil : Tracks ([] : List α) .start where
  cumulative := rfl
  peak := by
    refine ⟨⟨0, le_rfl, rfl⟩, ?_⟩
    rintro c ⟨i, hi, rfl⟩
    obtain rfl : i = 0 := by simpa using hi
    exact le_rfl
  fall := by
    refine ⟨⟨0, 0, le_rfl, le_rfl, (sub_self _).symm⟩, ?_⟩
    rintro d ⟨i, j, hij, hj, rfl⟩
    obtain rfl : j = 0 := by simpa using hj
    obtain rfl : i = 0 := by omega
    exact (sub_self _).le

variable [IsOrderedAddMonoid α]

theorem Tracks.next {xs : List α} {s : RunningSum α} (h : Tracks xs s) (x : α) :
    Tracks (xs ++ [x]) (s.next x) := by
  have hLength : (xs ++ [x]).length = xs.length + 1 := by simp
  have hLast : s.cumulative + x = partialSum (xs ++ [x]) (xs.length + 1) := by
    rw [partialSum_last, h.cumulative]
  have hPeak : IsGreatest {c | ∃ i ≤ (xs ++ [x]).length, c = partialSum (xs ++ [x]) i}
      (max s.peak (s.cumulative + x)) := by
    constructor
    · rcases max_choice s.peak (s.cumulative + x) with hMax | hMax
      · obtain ⟨i, hi, hValue⟩ := h.peak.1
        exact ⟨i, by omega, by rw [hMax, hValue, partialSum_append hi]⟩
      · exact ⟨xs.length + 1, by omega, by rw [hMax, hLast]⟩
    · rintro c ⟨i, hi, rfl⟩
      rw [hLength] at hi
      rcases Nat.lt_or_ge xs.length i with hNew | hOld
      · obtain rfl : i = xs.length + 1 := by omega
        exact hLast ▸ le_max_right _ _
      · rw [partialSum_append hOld]
        exact (h.peak.2 ⟨i, hOld, rfl⟩).trans (le_max_left _ _)
  refine ⟨?_, hPeak, ?_⟩
  · rw [List.sum_append, List.sum_singleton, ← h.cumulative]
    rfl
  · constructor
    · rcases max_choice s.fall (max s.peak (s.cumulative + x) - (s.cumulative + x)) with hMax | hMax
      · obtain ⟨i, j, hij, hj, hValue⟩ := h.fall.1
        refine ⟨i, j, hij, by omega, hMax.trans ?_⟩
        rw [hValue, partialSum_append (hij.trans hj), partialSum_append hj]
      · obtain ⟨i, hi, hValue⟩ := hPeak.1
        refine ⟨i, xs.length + 1, by omega, by omega, hMax.trans ?_⟩
        rw [hValue, hLast]
    · rintro d ⟨i, j, hij, hj, rfl⟩
      rw [hLength] at hj
      rcases Nat.lt_or_ge xs.length j with hNew | hOld
      · -- a fall to the last value is at most that from the peak
        obtain rfl : j = xs.length + 1 := by omega
        rw [← hLast]
        exact (sub_le_sub_right (hPeak.2 ⟨i, by omega, rfl⟩) _).trans (le_max_right _ _)
      · rw [partialSum_append (hij.trans hOld), partialSum_append hOld]
        exact (h.fall.2 ⟨i, j, hij, hOld, rfl⟩).trans (le_max_left _ _)

/-- The pass finds the largest fall. -/
theorem tracks_foldl (xs : List α) : Tracks xs (xs.foldl RunningSum.next .start) := by
  induction xs using List.reverseRecOn with
  | nil => exact tracks_nil
  | append_singleton xs x ih =>
    rw [List.foldl_append]
    exact ih.next x

end RunningSum

/-! ### Decimals -/

namespace Decimal

/-- `sum(values, Decimal("0"))` -/
def total (values : List Decimal) : Decimal := values.foldl add (literal 0 0)

/-- Each sum of consecutive values is exact. -/
def ExactSums (values : List ℚ) : Prop :=
  ∀ part : List ℚ, part <:+: values → Representable part.sum

theorem ExactSums.init {values : List ℚ} {x : ℚ} (h : ExactSums (values ++ [x])) :
    ExactSums values := fun _ hPart => h _ (hPart.trans (List.prefix_append _ _).isInfix)

theorem toRat_total {values : List Decimal} (h : ExactSums (values.map toRat)) :
    (total values).toRat = (values.map toRat).sum := by
  induction values using List.reverseRecOn with
  | nil => simp [total, literal, toRat, signed]
  | append_singleton values x ih =>
    rw [List.map_append] at h
    have hSum := h _ (List.infix_refl _)
    rw [List.map_singleton, List.sum_append, List.sum_singleton, ← ih h.init] at hSum
    rw [List.map_append, List.sum_append, List.map_singleton, List.sum_singleton, ← ih h.init,
      total, List.foldl_append]
    exact toRat_add hSum

/-- One value of the loop over the net results. -/
def nextSum (s : RunningSum Decimal) (value : Decimal) : RunningSum Decimal :=
  let cumulative := s.cumulative.add value
  let peak := DecimalArithmetic.pyMax s.peak cumulative
  ⟨cumulative, peak, DecimalArithmetic.pyMax s.fall (peak.sub cumulative)⟩

/-- The loop over the net results. -/
def runningSum (values : List Decimal) : RunningSum Decimal :=
  values.foldl nextSum ⟨literal 0 0, literal 0 0, literal 0 0⟩

/-- A running sum of decimals has the values of the sum of their values. -/
def ValuesOf (s : RunningSum Decimal) (t : RunningSum ℚ) : Prop :=
  s.cumulative.toRat = t.cumulative ∧ s.peak.toRat = t.peak ∧ s.fall.toRat = t.fall

theorem ValuesOf.next {s : RunningSum Decimal} {t : RunningSum ℚ} (h : ValuesOf s t)
    {value : Decimal} (hSum : Representable (t.next value.toRat).cumulative)
    (hFall : Representable ((t.next value.toRat).peak - (t.next value.toRat).cumulative)) :
    ValuesOf (nextSum s value) (t.next value.toRat) := by
  obtain ⟨hCumulative, hPeak, hLargest⟩ := h
  have hNext : (s.cumulative.add value).toRat = t.cumulative + value.toRat := by
    rw [toRat_add (by rwa [hCumulative]), hCumulative]
  have hNewPeak : (DecimalArithmetic.pyMax s.peak (s.cumulative.add value)).toRat =
      max t.peak (t.cumulative + value.toRat) := by
    have hMax := DecimalArithmetic.value_pyMax s.peak (s.cumulative.add value)
    rw [← hPeak, ← hNext]
    exact hMax
  refine ⟨hNext, hNewPeak, ?_⟩
  have hNewFall : ((DecimalArithmetic.pyMax s.peak (s.cumulative.add value)).sub
      (s.cumulative.add value)).toRat =
      max t.peak (t.cumulative + value.toRat) - (t.cumulative + value.toRat) := by
    rw [toRat_sub (by rwa [hNewPeak, hNext]), hNewPeak, hNext]
  have hMax := DecimalArithmetic.value_pyMax s.fall
    ((DecimalArithmetic.pyMax s.peak (s.cumulative.add value)).sub (s.cumulative.add value))
  rw [RunningSum.next, ← hLargest, ← hNewFall]
  exact hMax

/-- Where its sums are exact, the loop finds the largest fall. -/
theorem valuesOf_runningSum {values : List Decimal} (h : ExactSums (values.map toRat)) :
    ValuesOf (runningSum values) ((values.map toRat).foldl RunningSum.next .start) := by
  induction values using List.reverseRecOn with
  | nil => simp [ValuesOf, runningSum, RunningSum.start, literal, toRat, signed]
  | append_singleton values x ih =>
    have hTracks := tracks_foldl ((values ++ [x]).map toRat)
    rw [List.map_append, List.map_singleton] at h hTracks ⊢
    rw [List.foldl_append, List.foldl_cons, List.foldl_nil] at hTracks ⊢
    rw [runningSum, List.foldl_append]
    apply (ih h.init).next
    · rw [hTracks.cumulative]
      exact h _ (List.infix_refl _)
    · obtain ⟨i, hi, hPeak⟩ := hTracks.peak.1
      rw [hPeak, hTracks.cumulative, ← partialSum_length, partialSum_sub hi, List.take_length]
      exact representable_neg (h _ (List.drop_suffix _ _).isInfix)

theorem isLargestFall_runningSum {values : List Decimal} (h : ExactSums (values.map toRat)) :
    IsLargestFall (values.map toRat) (runningSum values).fall.toRat := by
  rw [(valuesOf_runningSum h).2.2]
  exact (tracks_foldl _).fall

end Decimal

end Daybreak.Numeric
