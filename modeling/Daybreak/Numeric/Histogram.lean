import Mathlib.Algebra.BigOperators.Group.List.Basic

/-! Weights collected by an index. Every item adds its weight to the bin of its index,
so a bin holds what the items of its index weigh, and the bins together hold what
all items weigh where no index is beyond them. -/

namespace Daybreak.Numeric

variable {α M : Type*} [AddCommMonoid M] {index : α → ℕ} {weight : α → M} {bins : List M}
  {items : List α}

def collect (index : α → ℕ) (weight : α → M) (bins : List M) (items : List α) : List M :=
  items.foldl (fun bins item => bins.modify (index item) (· + weight item)) bins

@[simp] theorem collect_nil : collect index weight bins [] = bins := rfl

@[simp] theorem collect_cons (item : α) : collect index weight bins (item :: items) =
    collect index weight (bins.modify (index item) (· + weight item)) items := rfl

/-- What the items of one index weigh. -/
def weightAt (index : α → ℕ) (weight : α → M) (items : List α) (i : ℕ) : M :=
  ((items.filter (index · = i)).map weight).sum

@[simp] theorem weightAt_nil (i : ℕ) : weightAt index weight [] i = 0 := rfl

theorem weightAt_cons (item : α) (i : ℕ) : weightAt index weight (item :: items) i =
    (if index item = i then weight item else 0) + weightAt index weight items i := by
  by_cases h : index item = i <;> simp [weightAt, h]

@[simp] theorem length_collect : (collect index weight bins items).length = bins.length := by
  induction items generalizing bins with
  | nil => rfl
  | cons item items ih => rw [collect_cons, ih, List.length_modify]

theorem getElem?_collect {i : ℕ} (h : i < bins.length) :
    (collect index weight bins items)[i]? = some (bins[i] + weightAt index weight items i) := by
  induction items generalizing bins with
  | nil => rw [collect_nil, weightAt_nil, add_zero, List.getElem?_eq_getElem h]
  | cons item items ih =>
    have hLength : i < (bins.modify (index item) (· + weight item)).length := by
      rwa [List.length_modify]
    rw [collect_cons, ih hLength, weightAt_cons, List.getElem_modify, ← add_assoc]
    split_ifs with hIndex
    · rfl
    · rw [add_zero]

theorem sum_modify {i : ℕ} (h : i < bins.length) (x : M) :
    (bins.modify i (· + x)).sum = bins.sum + x := by
  induction bins generalizing i with
  | nil => cases h
  | cons bin bins ih =>
    cases i with
    | zero => rw [List.modify_zero_cons, List.sum_cons, List.sum_cons, add_right_comm]
    | succ i =>
      rw [List.modify_succ_cons, List.sum_cons, List.sum_cons, add_assoc,
        ih (Nat.lt_of_succ_lt_succ h)]

theorem sum_collect (h : ∀ item ∈ items, index item < bins.length) :
    (collect index weight bins items).sum = bins.sum + (items.map weight).sum := by
  induction items generalizing bins with
  | nil => simp
  | cons item items ih =>
    obtain ⟨hFirst, hRest⟩ := List.forall_mem_cons.mp h
    rw [collect_cons, ih fun x hx => by rw [List.length_modify]; exact hRest x hx,
      sum_modify hFirst, List.map_cons, List.sum_cons, add_assoc]

end Daybreak.Numeric
