import Mathlib.Data.List.MinMax

/-! The largest of some numbers, and zero where there is no larger one. -/

namespace Daybreak.Numeric

variable {α : Type*} [LinearOrder α] [Zero α] {x : α} {xs ys : List α}

def largest (xs : List α) : α := xs.foldr max 0

@[simp] theorem largest_nil : largest ([] : List α) = 0 := rfl

@[simp] theorem largest_cons (x : α) (xs : List α) : largest (x :: xs) = max x (largest xs) := rfl

theorem largest_nonneg (xs : List α) : 0 ≤ largest xs := by
  induction xs with
  | nil => exact le_rfl
  | cons x xs ih => exact ih.trans (le_max_right x _)

theorem le_largest (h : x ∈ 0 :: xs) : x ≤ largest xs := by
  rcases List.mem_cons.mp h with rfl | h
  · exact largest_nonneg xs
  · exact List.le_max_of_le' 0 h le_rfl

/-- A bound that is not negative bounds the largest exactly when it bounds them all. -/
theorem largest_le_iff (hx : 0 ≤ x) : largest xs ≤ x ↔ ∀ y ∈ xs, y ≤ x := by
  induction xs with
  | nil => simpa using hx
  | cons y ys ih => rw [largest_cons, max_le_iff, ih, List.forall_mem_cons]

theorem largest_perm (h : xs.Perm ys) : largest xs = largest ys := by
  have hSwap : ∀ x ∈ xs, ∀ y ∈ xs, ∀ z : α, max y (max x z) = max x (max y z) := by
    intro x _ y _ z
    exact max_left_comm y x z
  exact h.foldr_eq' hSwap 0

theorem largest_append (xs ys : List α) : largest (xs ++ ys) = max (largest xs) (largest ys) := by
  induction xs with
  | nil => exact (max_eq_right (largest_nonneg ys)).symm
  | cons x xs ih => rw [List.cons_append, largest_cons, largest_cons, ih, max_assoc]

end Daybreak.Numeric
