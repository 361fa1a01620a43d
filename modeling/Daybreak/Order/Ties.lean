import Daybreak.Order.Sorting
import Mathlib.Data.List.MinMax

/-! Choices among the best elements of a list by their position. Such a choice is the same for
every order of the list exactly when nothing tells its best elements apart. -/

namespace Daybreak.Order

variable {α β κ : Type*} [LinearOrder κ] {best : List α → α → Prop} {choose : List α → Option α}
  {xs : List α} {a : α}

/-- A choice of a best element, and of the first element where that is a best one. -/
structure PositionalChoice (best : List α → α → Prop) (choose : List α → Option α) : Prop where
  mem : ∀ {xs a}, best xs a → a ∈ xs
  perm : ∀ {xs ys a}, xs.Perm ys → best xs a → best ys a
  chosen : ∀ {xs a}, choose xs = some a → best xs a
  exists_chosen : ∀ {xs a}, best xs a → ∃ b, choose xs = some b
  first : ∀ {xs a}, best (a :: xs) a → choose (a :: xs) = some a

namespace PositionalChoice

/-- Each best element is chosen in some order of the list. -/
theorem exists_perm (h : PositionalChoice best choose) (ha : best xs a) :
    ∃ ys, ys.Perm xs ∧ choose ys = some a := by
  obtain ⟨earlier, later, rfl⟩ := List.append_of_mem (h.mem ha)
  exact ⟨a :: (earlier ++ later), List.perm_middle.symm, h.first (h.perm List.perm_middle ha)⟩

/-- The order of the list does not matter to `f` if and only if `f` tells no two best elements
apart. -/
theorem forall_perm_iff (h : PositionalChoice best choose) (f : Option α → β) :
    (∀ ys, ys.Perm xs → f (choose ys) = f (choose xs)) ↔
      ∀ a b, best xs a → best xs b → f (some a) = f (some b) := by
  constructor
  · intro hSame a b ha hb
    obtain ⟨as, hAs, hChosenA⟩ := h.exists_perm ha
    obtain ⟨bs, hBs, hChosenB⟩ := h.exists_perm hb
    rw [← hChosenA, ← hChosenB, hSame as hAs, hSame bs hBs]
  · intro hAlike ys hPerm
    cases hChosen : choose xs with
    | some a =>
      have ha := h.chosen hChosen
      obtain ⟨b, hb⟩ := h.exists_chosen (h.perm hPerm.symm ha)
      rw [hb]
      exact hAlike b a (h.perm hPerm (h.chosen hb)) ha
    | none =>
      cases hOther : choose ys with
      | none => rfl
      | some b =>
        obtain ⟨a, ha⟩ := h.exists_chosen (h.perm hPerm (h.chosen hOther))
        exact absurd (ha.symm.trans hChosen) (by simp)

end PositionalChoice

/-! ### The two choices of a key -/

variable {key : α → κ} {p : α → Prop} [DecidablePred p]

/-- An element that passes the filter, with the greatest key of those that do. -/
def IsGreatestOf (p : α → Prop) (key : α → κ) (xs : List α) (a : α) : Prop :=
  (a ∈ xs ∧ p a) ∧ ∀ b ∈ xs, p b → key b ≤ key a

/-- An element that passes the filter, with the least key of those that do. -/
def IsLeastOf (p : α → Prop) (key : α → κ) (xs : List α) (a : α) : Prop :=
  (a ∈ xs ∧ p a) ∧ ∀ b ∈ xs, p b → key a ≤ key b

/-- `max(filtered, key=key)`: the first of the greatest. -/
theorem positionalChoice_argmax :
    PositionalChoice (IsGreatestOf p key) fun xs => (xs.filter p).argmax key where
  mem h := h.1.1
  perm hPerm h := ⟨⟨hPerm.mem_iff.mp h.1.1, h.1.2⟩, fun b hb => h.2 b (hPerm.mem_iff.mpr hb)⟩
  chosen h := by
    obtain ⟨hMem, hPasses⟩ := List.mem_filter.mp (List.argmax_mem h)
    refine ⟨⟨hMem, by simpa using hPasses⟩, fun b hb hb' => ?_⟩
    exact List.le_of_mem_argmax (List.mem_filter.mpr ⟨hb, by simpa using hb'⟩) h
  exists_chosen := by
    intro xs a h
    refine Option.ne_none_iff_exists'.mp fun hNone => ?_
    have hMem : a ∈ xs.filter p := List.mem_filter.mpr ⟨h.1.1, by simpa using h.1.2⟩
    rw [List.argmax_eq_none.mp hNone] at hMem
    cases hMem
  first := by
    classical
    intro xs a h
    have hMem : a ∈ (a :: xs).filter p := List.mem_filter.mpr ⟨h.1.1, by simpa using h.1.2⟩
    rw [← Option.mem_def, List.mem_argmax_iff]
    refine ⟨hMem, fun b hb => ?_, fun b hb hGreatest => ?_⟩
    · obtain ⟨hb, hPasses⟩ := List.mem_filter.mp hb
      exact h.2 b hb (by simpa using hPasses)
    · rw [List.filter_cons_of_pos (by simpa using h.1.2), List.idxOf_cons_self]
      exact Nat.zero_le _

/-- `sorted(filtered, key=key)[0]`: the first of the least. -/
theorem positionalChoice_sortedBy :
    PositionalChoice (IsLeastOf p key) fun xs => (sortedBy key (xs.filter p)).head? where
  mem h := h.1.1
  perm hPerm h := ⟨⟨hPerm.mem_iff.mp h.1.1, h.1.2⟩, fun b hb => h.2 b (hPerm.mem_iff.mpr hb)⟩
  chosen h := by
    obtain ⟨hMem, hLeast⟩ := head_sortedBy h
    obtain ⟨hMem, hPasses⟩ := List.mem_filter.mp hMem
    refine ⟨⟨hMem, by simpa using hPasses⟩, fun b hb hb' => ?_⟩
    exact hLeast b (List.mem_filter.mpr ⟨hb, by simpa using hb'⟩)
  exists_chosen := by
    intro xs a h
    refine Option.ne_none_iff_exists'.mp fun hNone => ?_
    have hMem : a ∈ sortedBy key (xs.filter p) :=
      mem_sortedBy.mpr (List.mem_filter.mpr ⟨h.1.1, by simpa using h.1.2⟩)
    rw [List.head?_eq_none_iff.mp hNone] at hMem
    cases hMem
  first := by
    intro xs a h
    rw [List.filter_cons_of_pos (by simpa using h.1.2), sortedBy, List.insertionSort_cons]
    change ((sortedBy key (xs.filter p)).orderedInsert (fun a b => key a ≤ key b) a).head? = _
    cases hSorted : sortedBy key (xs.filter p) with
    | nil => rfl
    | cons b rest =>
      have hb : b ∈ xs.filter p := by
        have hMem : b ∈ sortedBy key (xs.filter p) := hSorted ▸ List.mem_cons_self
        exact mem_sortedBy.mp hMem
      obtain ⟨hb, hPasses⟩ := List.mem_filter.mp hb
      rw [List.orderedInsert_cons, if_pos (h.2 b (List.mem_cons_of_mem _ hb) (by simpa using hPasses))]
      rfl

end Daybreak.Order
