import Daybreak.Effect.Dict
import Mathlib.Algebra.BigOperators.Group.List.Basic
import Mathlib.Data.List.Induction

/-! Items grouped under their keys, in a dictionary of lists. A group has the items that have its
key, in their order; where each item has one key of a kind, the groups of that kind add up to the
items. -/

namespace Daybreak.Effect.Dict

universe u

variable {κ α : Type u} [DecidableEq κ]

/-- `groups[key].append(item)` -/
def appendTo (groups : Dict κ (List α)) (key : κ) (item : α) : Dict κ (List α) :=
  groups.insert key ((groups.lookup key).getD [] ++ [item])

/-- Each item is appended to the groups of its keys. -/
def grouped (keys : α → List κ) (items : List α) : Dict κ (List α) :=
  items.foldl (fun groups item => (keys item).foldl (fun groups key => groups.appendTo key item)
    groups) ∅

/-- The items with a key, or no group where there is none. -/
def groupOf (keys : α → List κ) (items : List α) (key : κ) : Option (List α) :=
  if ∃ item ∈ items, key ∈ keys item then some (items.filter fun item => key ∈ keys item) else none

theorem lookup_appendTo (groups : Dict κ (List α)) (key key' : κ) (item : α) :
    (groups.appendTo key item).lookup key' =
      if key' = key then some ((groups.lookup key').getD [] ++ [item]) else groups.lookup key' := by
  rw [appendTo, lookup_insert_eq]
  split_ifs with h
  · rw [h]
  · rfl

theorem lookup_foldl_appendTo (groups : Dict κ (List α)) {keys : List κ} (hKeys : keys.Nodup)
    (key : κ) (item : α) :
    (keys.foldl (fun groups key => groups.appendTo key item) groups).lookup key =
      if key ∈ keys then some ((groups.lookup key).getD [] ++ [item]) else groups.lookup key := by
  induction keys generalizing groups with
  | nil => rfl
  | cons first keys ih =>
    obtain ⟨hFirst, hRest⟩ := List.nodup_cons.mp hKeys
    rw [List.foldl_cons, ih _ hRest, lookup_appendTo]
    by_cases hSame : key = first
    · subst hSame
      simp [hFirst]
    · simp [hSame]

/-- A group has the items with its key. -/
theorem lookup_grouped {keys : α → List κ} {items : List α}
    (hKeys : ∀ item ∈ items, (keys item).Nodup) (key : κ) :
    (grouped keys items).lookup key = groupOf keys items key := by
  induction items using List.reverseRecOn with
  | nil => simp [grouped, groupOf]
  | append_singleton items item ih =>
    have hItems : ∀ item ∈ items, (keys item).Nodup :=
      fun other hOther => hKeys other (List.mem_append_left _ hOther)
    rw [grouped, List.foldl_append, List.foldl_cons, List.foldl_nil,
      lookup_foldl_appendTo _ (hKeys item (by simp))]
    change (if key ∈ keys item then some (((grouped keys items).lookup key).getD [] ++ [item])
      else (grouped keys items).lookup key) = _
    rw [ih hItems]
    unfold groupOf
    by_cases hNew : key ∈ keys item
    · by_cases hOld : ∃ item ∈ items, key ∈ keys item
      · simp [hNew, hOld, List.filter_append]
      · have hNone : items.filter (fun item => key ∈ keys item) = [] :=
          List.filter_eq_nil_iff.mpr fun other hOther => by
            simpa using fun hMem => hOld ⟨other, hOther, hMem⟩
        rw [if_pos hNew, if_neg hOld, if_pos ⟨item, by simp, hNew⟩, List.filter_append, hNone]
        simp [hNew]
    · simp [hNew, or_and_right, exists_or, List.filter_append]

theorem mem_entries_grouped {keys : α → List κ} {items : List α}
    (hKeys : ∀ item ∈ items, (keys item).Nodup) {key : κ} {group : List α} :
    ⟨key, group⟩ ∈ (grouped keys items).entries ↔
      (∃ item ∈ items, key ∈ keys item) ∧ group = items.filter fun item => key ∈ keys item := by
  rw [← AList.mem_lookup_iff, lookup_grouped hKeys, groupOf]
  split_ifs with h
  · simp [h, eq_comm]
  · simp [h]

/-- What the items of each key sum to sums to what the items do. -/
theorem sum_map_filter {ι β γ : Type*} [DecidableEq ι] [AddCommMonoid γ] {keys : List ι}
    (hKeys : keys.Nodup) {items : List β} {keyOf : β → ι} (hMem : ∀ item ∈ items, keyOf item ∈ keys)
    (f : β → γ) :
    (keys.map fun key => ((items.filter fun item => keyOf item = key).map f).sum).sum =
      (items.map f).sum := by
  induction items with
  | nil => simp
  | cons item items ih =>
    obtain ⟨hItem, hRest⟩ := List.forall_mem_cons.mp hMem
    have hEach : ∀ key, (((item :: items).filter fun item => keyOf item = key).map f).sum =
        (if keyOf item = key then f item else 0) +
          ((items.filter fun item => keyOf item = key).map f).sum := by
      intro key
      by_cases h : keyOf item = key <;> simp [h]
    have hOne : (keys.map fun key => if keyOf item = key then f item else 0).sum = f item := by
      rw [List.sum_map_eq_nsmul_single (keyOf item) _ fun key hOther _ => if_neg hOther.symm,
        if_pos rfl, List.count_eq_one_of_mem hKeys hItem, one_nsmul]
    simp only [hEach]
    rw [List.sum_map_add, hOne, ih hRest, List.map_cons, List.sum_cons]

/-- The groups of a kind add up to the items, where each item has one key of the kind. -/
theorem sum_map_grouped {γ : Type*} [AddCommMonoid γ] {keys : α → List κ} {items : List α}
    (hKeys : ∀ item ∈ items, (keys item).Nodup) (kind : κ → Prop) [DecidablePred kind]
    (keyOf : α → κ) (hKind : ∀ item ∈ items, kind (keyOf item))
    (hOne : ∀ item ∈ items, ∀ key, kind key → (key ∈ keys item ↔ keyOf item = key)) (f : α → γ) :
    ((((grouped keys items).entries.filter fun entry => kind entry.1).map
      fun entry => (entry.2.map f).sum)).sum = (items.map f).sum := by
  have hNodup : (((grouped keys items).entries.filter fun entry => kind entry.1).map
      (·.1)).Nodup := (grouped keys items).nodupKeys.sublist List.filter_sublist
  rw [← sum_map_filter hNodup ?_ f, List.map_map]
  · refine congrArg List.sum (List.map_congr_left fun entry hEntry => ?_)
    obtain ⟨hEntry, hEntryKind⟩ := List.mem_filter.mp hEntry
    obtain ⟨-, hGroup⟩ := (mem_entries_grouped hKeys).mp hEntry
    rw [hGroup, Function.comp_apply]
    refine congrArg (fun group => (group.map f).sum) (List.filter_congr fun item hItem => ?_)
    rw [decide_eq_decide]
    exact hOne item hItem entry.1 (by simpa using hEntryKind)
  · intro item hItem
    have hMem := (hOne item hItem (keyOf item) (hKind item hItem)).mpr rfl
    refine List.mem_map.mpr ⟨⟨keyOf item, items.filter fun other => keyOf item ∈ keys other⟩, ?_, rfl⟩
    refine List.mem_filter.mpr ⟨?_, decide_eq_true (hKind item hItem)⟩
    exact (mem_entries_grouped hKeys).mpr ⟨⟨item, hItem, hMem⟩, rfl⟩

end Daybreak.Effect.Dict
