import Mathlib.Data.List.Sort

/-! Stable sorting by a key. A key that tells the elements of a list apart leaves one
sorted arrangement of it, so that two keys sort the list alike exactly when they
order its elements alike. -/

namespace Daybreak.Order

variable {α β κ κ' : Type*} [LinearOrder κ] [LinearOrder κ'] {key : α → κ} {key' : α → κ'}
  {xs ys : List α}

/-- `sorted(xs, key=key)`: elements with equal keys keep their order. -/
def sortedBy (key : α → κ) (xs : List α) : List α := xs.insertionSort fun a b => key a ≤ key b

instance isTrans_key : IsTrans α fun a b => key a ≤ key b := ⟨fun _ _ _ => le_trans⟩

instance total_key : Std.Total fun a b : α => key a ≤ key b := ⟨fun a b => le_total (key a) (key b)⟩

theorem sortedBy_perm (key : α → κ) (xs : List α) : (sortedBy key xs).Perm xs :=
  List.perm_insertionSort _ xs

@[simp] theorem mem_sortedBy {a : α} : a ∈ sortedBy key xs ↔ a ∈ xs := List.mem_insertionSort _

@[simp] theorem length_sortedBy (key : α → κ) (xs : List α) :
    (sortedBy key xs).length = xs.length := List.length_insertionSort _ xs

theorem pairwise_sortedBy (key : α → κ) (xs : List α) :
    (sortedBy key xs).Pairwise fun a b => key a ≤ key b := List.pairwise_insertionSort _ xs

theorem orderedInsert_of_forall {a : α} (h : ∀ b ∈ xs, key a ≤ key b) :
    xs.orderedInsert (fun a b => key a ≤ key b) a = a :: xs := by
  cases xs with
  | nil => rfl
  | cons b rest => exact List.orderedInsert_cons_of_le _ rest (h b List.mem_cons_self)

/-- Into a sorted list and into a part of it an element is inserted at the same place. -/
theorem filter_orderedInsert (q : α → Bool) (a : α)
    (h : xs.Pairwise fun a b => key a ≤ key b) :
    (xs.orderedInsert (fun a b => key a ≤ key b) a).filter q =
      if q a then (xs.filter q).orderedInsert (fun a b => key a ≤ key b) a else xs.filter q := by
  induction xs with
  | nil => simp [List.filter_singleton]
  | cons b rest ih =>
    obtain ⟨hFirst, hRest⟩ := List.pairwise_cons.mp h
    by_cases hab : key a ≤ key b
    · have hAll : ∀ c ∈ (b :: rest).filter q, key a ≤ key c := by
        intro c hc
        obtain rfl | hLater := List.mem_cons.mp (List.mem_of_mem_filter hc)
        · exact hab
        · exact hab.trans (hFirst c hLater)
      rw [List.orderedInsert_cons_of_le _ rest hab, orderedInsert_of_forall hAll, List.filter_cons]
    · rw [List.orderedInsert_of_not_le _ rest hab, List.filter_cons, ih hRest, List.filter_cons]
      cases q b with
      | false => rfl
      | true =>
        cases q a with
        | false => rfl
        | true => exact (List.orderedInsert_of_not_le _ (rest.filter q) hab).symm

/-- A part of a list is sorted as it stands in the sorted list. -/
theorem filter_sortedBy (key : α → κ) (q : α → Bool) (xs : List α) :
    sortedBy key (xs.filter q) = (sortedBy key xs).filter q := by
  induction xs with
  | nil => rfl
  | cons a rest ih =>
    have hInsert := filter_orderedInsert q a (pairwise_sortedBy key rest)
    rw [← ih] at hInsert
    rw [List.filter_cons]
    refine Eq.trans ?_ hInsert.symm
    cases q a with
    | true => rfl
    | false => rfl

/-- The first of the sorted elements is one with the least key. -/
theorem head_sortedBy {x : α} (h : (sortedBy key xs).head? = some x) :
    x ∈ xs ∧ ∀ y ∈ xs, key x ≤ key y := by
  refine ⟨mem_sortedBy.mp (List.mem_of_mem_head? h), fun y hy => ?_⟩
  have hSorted := pairwise_sortedBy key xs
  have hMem : y ∈ sortedBy key xs := mem_sortedBy.mpr hy
  cases hList : sortedBy key xs with
  | nil =>
    rw [hList] at hMem
    cases hMem
  | cons first rest =>
    rw [hList] at h hSorted hMem
    obtain rfl := Option.some.inj h
    rcases List.mem_cons.mp hMem with rfl | hRest
    · exact le_rfl
    · exact (List.pairwise_cons.mp hSorted).1 y hRest

/-- A key that no two elements of the list share. -/
def KeyOn (key : α → κ) (xs : List α) : Prop := ∀ a ∈ xs, ∀ b ∈ xs, key a = key b → a = b

omit [LinearOrder κ] in
theorem KeyOn.mono (h : KeyOn key xs) (hSubset : ys ⊆ xs) : KeyOn key ys :=
  fun a ha b hb => h a (hSubset ha) b (hSubset hb)

theorem eq_sortedBy (hKey : KeyOn key xs) (hPerm : ys.Perm xs)
    (hSorted : ys.Pairwise fun a b => key a ≤ key b) : ys = sortedBy key xs := by
  refine List.Perm.eq_of_pairwise ?_ hSorted (pairwise_sortedBy key xs)
    (hPerm.trans (sortedBy_perm key xs).symm)
  intro a b ha hb hab hba
  exact hKey a (hPerm.mem_iff.mp ha) b (mem_sortedBy.mp hb) (le_antisymm hab hba)

/-- Where keys tell elements apart, the order of the input does not matter. -/
theorem sortedBy_eq_of_perm (hKey : KeyOn key xs) (hPerm : ys.Perm xs) :
    sortedBy key ys = sortedBy key xs :=
  eq_sortedBy hKey ((sortedBy_perm key ys).trans hPerm) (pairwise_sortedBy key ys)

theorem sortedBy_eq_iff (hKey : KeyOn key xs) (hKey' : KeyOn key' xs) :
    sortedBy key xs = sortedBy key' xs ↔
      ∀ a ∈ xs, ∀ b ∈ xs, key a ≤ key b → key' a ≤ key' b := by
  constructor
  · intro hSame a ha b hb hab
    have hBoth : (sortedBy key xs).Pairwise fun a b => key a ≤ key b ∧ key' a ≤ key' b :=
      (pairwise_sortedBy key xs).and (hSame ▸ pairwise_sortedBy key' xs)
    -- one of the two comes first, and the other order would make them equal
    let R := fun a b => (key a ≤ key b ∧ key' a ≤ key' b) ∨ (key b ≤ key a ∧ key' b ≤ key' a)
    have hEither : R a b :=
      List.Pairwise.forall_of_forall_of_flip (R := R) (fun _ _ => .inl ⟨le_rfl, le_rfl⟩)
        (hBoth.imp .inl) (hBoth.imp .inr) (mem_sortedBy.mpr ha) (mem_sortedBy.mpr hb)
    rcases hEither with h | h
    · exact h.2
    · rw [hKey a ha b hb (le_antisymm hab h.1)]
  · intro hOrder
    refine eq_sortedBy hKey' (sortedBy_perm key xs) ?_
    refine (pairwise_sortedBy key xs).imp_of_mem fun ha hb hab => ?_
    exact hOrder _ (mem_sortedBy.mp ha) _ (mem_sortedBy.mp hb) hab

/-- A list without repetitions is sorted strictly where keys tell elements apart. -/
theorem pairwise_lt_sortedBy (hNodup : xs.Nodup) (hKey : KeyOn key xs) :
    (sortedBy key xs).Pairwise fun a b => key a < key b := by
  have hDistinct : (sortedBy key xs).Nodup := (sortedBy_perm key xs).nodup_iff.mpr hNodup
  refine ((pairwise_sortedBy key xs).and hDistinct).imp_of_mem fun ha hb hab => ?_
  refine hab.1.lt_of_ne fun hSame => hab.2 ?_
  exact hKey _ (mem_sortedBy.mp ha) _ (mem_sortedBy.mp hb) hSame

theorem mem_take_iff_of_pairwise {n : ℕ} {a : α} (h : xs.Pairwise fun a b => key a < key b) :
    a ∈ xs.take n ↔ a ∈ xs ∧ (xs.filter fun b => key b < key a).length < n := by
  induction xs generalizing n with
  | nil => simp
  | cons x xs ih =>
    obtain ⟨hFirst, hRest⟩ := List.pairwise_cons.mp h
    cases n with
    | zero => simp
    | succ n =>
      rw [List.take_succ_cons, List.mem_cons, List.mem_cons, ih hRest]
      by_cases ha : a = x
      · subst ha
        have hNone : xs.filter (fun b => key b < key a) = [] :=
          List.filter_eq_nil_iff.mpr fun b hb => by simpa using (hFirst b hb).le
        simp [hNone]
      · simp only [ha, false_or]
        refine and_congr_right fun hMem => ?_
        rw [List.filter_cons_of_pos (by simpa using hFirst a hMem), List.length_cons,
          Nat.add_lt_add_iff_right]

/-- The first `n` of a sorted list are the elements with fewer than `n` others before them. -/
theorem mem_take_sortedBy {n : ℕ} {a : α} (hNodup : xs.Nodup) (hKey : KeyOn key xs) :
    a ∈ (sortedBy key xs).take n ↔
      a ∈ xs ∧ (xs.filter fun b => key b < key a).length < n := by
  rw [mem_take_iff_of_pairwise (pairwise_lt_sortedBy hNodup hKey), mem_sortedBy,
    ((sortedBy_perm key xs).filter _).length_eq]

theorem map_sortedBy (f : β → α) (xs : List β) :
    (sortedBy (key ∘ f) xs).map f = sortedBy key (xs.map f) :=
  List.map_insertionSort _ _ f xs fun _ _ _ _ => Iff.rfl

end Daybreak.Order
