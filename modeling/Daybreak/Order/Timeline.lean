import Daybreak.Order.Sorting

/-! The first element of a timeline that is of a kind. What is found up to a moment is found on
the whole timeline, so that looking early and looking late agree. -/

namespace Daybreak.Order

variable {α κ : Type*} [LinearOrder κ] {key : α → κ} {xs : List α} {a : α} {p : α → Bool} {t : κ}

/-- The first element by the key that is of the kind. -/
def firstBy (key : α → κ) (p : α → Bool) (xs : List α) : Option α := (sortedBy key xs).find? p

theorem firstBy_eq_none : firstBy key p xs = none ↔ ∀ b ∈ xs, ¬ p b := by
  rw [firstBy, List.find?_eq_none]
  simp only [mem_sortedBy]

theorem firstBy_eq_some (h : firstBy key p xs = some a) :
    a ∈ xs ∧ p a ∧ ∀ b ∈ xs, p b → key a ≤ key b := by
  obtain ⟨hKind, before, after, hSorted, hBefore⟩ := List.find?_eq_some_iff_append.mp h
  have hMem : a ∈ sortedBy key xs := hSorted ▸ List.mem_append_right before List.mem_cons_self
  refine ⟨mem_sortedBy.mp hMem, hKind, fun b hb hbKind => ?_⟩
  have hOrder := pairwise_sortedBy key xs
  rw [hSorted, List.pairwise_append] at hOrder
  have hbSorted : b ∈ before ++ a :: after := hSorted ▸ mem_sortedBy.mpr hb
  obtain hEarly | hLate := List.mem_append.mp hbSorted
  · have hNot := hBefore b hEarly
    rw [hbKind] at hNot
    cases hNot
  · obtain rfl | hAfter := List.mem_cons.mp hLate
    · exact le_rfl
    · exact (List.pairwise_cons.mp hOrder.2.1).1 b hAfter

/-- What is first up to a moment is first of all. -/
theorem firstBy_of_filter (h : firstBy key p (xs.filter (key · ≤ t)) = some a) :
    firstBy key p xs = some a := by
  rw [firstBy, filter_sortedBy] at h
  have hOrder := pairwise_sortedBy key xs
  rw [firstBy]
  generalize sortedBy key xs = sorted at h hOrder ⊢
  induction sorted with
  | nil => simp at h
  | cons b rest ih =>
    obtain ⟨hFirst, hRest⟩ := List.pairwise_cons.mp hOrder
    by_cases hEarly : key b ≤ t
    · rw [List.filter_cons_of_pos (by simpa using hEarly), List.find?_cons] at h
      rw [List.find?_cons]
      cases hKind : p b with
      | true => simpa only [hKind] using h
      | false =>
        rw [hKind] at h
        exact ih h hRest
    · -- Nothing after `b` is up to the moment either.
      have hNone : (b :: rest).filter (key · ≤ t) = [] := by
        rw [List.filter_eq_nil_iff]
        intro c hc hLe
        rw [decide_eq_true_eq] at hLe
        obtain rfl | hLater := List.mem_cons.mp hc
        · exact hEarly hLe
        · exact hEarly ((hFirst c hLater).trans hLe)
      rw [hNone] at h
      simp at h

end Daybreak.Order
