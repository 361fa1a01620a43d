import Daybreak.Numeric.Largest
import Daybreak.Order.Sorting
import Mathlib.Algebra.GroupWithZero.Nat

/-! Rankings by groups with fixed anchors. The highest score of the elements that
remain is the anchor of a group, which takes in every element within a width of it;
a group is sorted by a key of its own. The ranking does not depend on the order in
which its elements are given, and two keys rank alike exactly when they order every
group alike. What such a ranking is, `RankedBy` says without an algorithm, and there
is only one. -/

namespace Daybreak.Order

open Numeric

variable {α β κ κ' : Type*} [LinearOrder κ] [LinearOrder κ'] {score : α → ℕ} {width fuel : ℕ}
  {key : α → κ} {key' : α → κ'} {xs ys : List α}

/-- `x` belongs to the group that the highest score of `xs` anchors. -/
def InGroup (score : α → ℕ) (width : ℕ) (xs : List α) (x : α) : Prop :=
  largest (xs.map score) ≤ score x + width

instance (xs : List α) (x : α) : Decidable (InGroup score width xs x) :=
  inferInstanceAs (Decidable (_ ≤ _))

/-- The groups, the highest anchor first; as many rounds as there are elements suffice. -/
def anchoredGroups (score : α → ℕ) (width : ℕ) : ℕ → List α → List (List α)
  | 0, _ => []
  | _, [] => []
  | fuel + 1, x :: xs =>
    (x :: xs).filter (InGroup score width (x :: xs) ·) ::
      anchoredGroups score width fuel ((x :: xs).filter (¬ InGroup score width (x :: xs) ·))

def anchoredRanking (score : α → ℕ) (width : ℕ) (key : α → κ) (xs : List α) : List α :=
  (anchoredGroups score width xs.length xs).flatMap (sortedBy key)

theorem subset_of_mem_anchoredGroups {group : List α}
    (h : group ∈ anchoredGroups score width fuel xs) : group ⊆ xs := by
  induction fuel generalizing xs with
  | zero => cases h
  | succ fuel ih =>
    cases xs with
    | nil => cases h
    | cons x xs =>
      rcases List.mem_cons.mp h with rfl | h
      · exact List.filter_subset_self _
      · exact List.Subset.trans (ih h) (List.filter_subset_self _)

theorem anchoredRanking_subset (key : α → κ) (xs : List α) :
    anchoredRanking score width key xs ⊆ xs := by
  intro x hx
  obtain ⟨group, hGroup, hMem⟩ := List.mem_flatMap.mp hx
  exact subset_of_mem_anchoredGroups hGroup (mem_sortedBy.mp hMem)

/-! ### Permutations -/

theorem inGroup_perm (h : xs.Perm ys) : InGroup score width xs = InGroup score width ys := by
  have hTop : largest (xs.map score) = largest (ys.map score) :=
    largest_perm (h.map score)
  funext x
  rw [InGroup, InGroup, hTop]

theorem flatMap_groups_perm (hKey : KeyOn key ys) (h : xs.Perm ys) :
    (anchoredGroups score width fuel xs).flatMap (sortedBy key) =
      (anchoredGroups score width fuel ys).flatMap (sortedBy key) := by
  induction fuel generalizing xs ys with
  | zero => rfl
  | succ fuel ih =>
    match xs, ys with
    | [], [] => rfl
    | [], y :: ys => exact absurd h.symm.eq_nil (List.cons_ne_nil _ _)
    | x :: xs, [] => exact absurd h.eq_nil (List.cons_ne_nil _ _)
    | x :: xs, y :: ys =>
      simp only [anchoredGroups, List.flatMap_cons, inGroup_perm h]
      congr 1
      · exact sortedBy_eq_of_perm (hKey.mono (List.filter_subset_self _)) (h.filter _)
      · exact ih (hKey.mono (List.filter_subset_self _)) (h.filter _)

/-- The order in which the elements are given does not matter. -/
theorem anchoredRanking_perm (hKey : KeyOn key ys) (h : xs.Perm ys) :
    anchoredRanking score width key xs = anchoredRanking score width key ys := by
  rw [anchoredRanking, anchoredRanking, h.length_eq, flatMap_groups_perm hKey h]

/-! ### Images -/

omit [LinearOrder κ] in
theorem inGroup_map {score' : β → ℕ} {f : α → β} (hScore : score' ∘ f = score) (x : α) :
    InGroup score' width (xs.map f) (f x) ↔ InGroup score width xs x := by
  subst hScore
  rw [InGroup, List.map_map]
  exact Iff.rfl

theorem anchoredGroups_map {score' : β → ℕ} {f : α → β} (hScore : score' ∘ f = score) :
    anchoredGroups score' width fuel (xs.map f) =
      (anchoredGroups score width fuel xs).map (List.map f) := by
  induction fuel generalizing xs with
  | zero => rfl
  | succ fuel ih =>
    cases xs with
    | nil => rfl
    | cons x xs =>
      simp only [List.map_cons, anchoredGroups]
      rw [← List.map_cons, List.filter_map, List.filter_map, ih]
      simp only [Function.comp_def, inGroup_map hScore]

/-- Elements that keep their scores keep their groups. -/
theorem anchoredRanking_map {score' : β → ℕ} {f : α → β} (hScore : score' ∘ f = score)
    (key : β → κ) (xs : List α) :
    anchoredRanking score' width key (xs.map f) =
      (anchoredRanking score width (key ∘ f) xs).map f := by
  rw [anchoredRanking, List.length_map, anchoredGroups_map hScore, List.flatMap_map,
    anchoredRanking, List.map_flatMap]
  simp only [map_sortedBy]

/-! ### Two keys -/

/-- Pieces of the same lengths make up the same list exactly when they are the same. -/
theorem flatMap_eq_iff {f g : α → List β} (hLength : ∀ x, (f x).length = (g x).length) :
    xs.flatMap f = xs.flatMap g ↔ ∀ x ∈ xs, f x = g x := by
  induction xs with
  | nil => simp
  | cons x xs ih =>
    rw [List.flatMap_cons, List.flatMap_cons, List.forall_mem_cons, ← ih]
    constructor
    · intro h
      exact List.append_inj h (hLength x)
    · rintro ⟨hHead, hTail⟩
      rw [hHead, hTail]

theorem anchoredRanking_eq_iff (hKey : KeyOn key xs) (hKey' : KeyOn key' xs) :
    anchoredRanking score width key xs = anchoredRanking score width key' xs ↔
      ∀ group ∈ anchoredGroups score width xs.length xs,
        ∀ a ∈ group, ∀ b ∈ group, key a ≤ key b → key' a ≤ key' b := by
  have hLength : ∀ group : List α,
      (sortedBy key group).length = (sortedBy key' group).length := by
    intro group
    rw [length_sortedBy, length_sortedBy]
  rw [anchoredRanking, anchoredRanking, flatMap_eq_iff hLength]
  refine forall₂_congr fun group hGroup => ?_
  have hSubset := subset_of_mem_anchoredGroups hGroup
  exact sortedBy_eq_iff (hKey.mono hSubset) (hKey'.mono hSubset)

/-! ### What a ranking is -/

section RankedBy

variable {before : α → α → Prop} {groups groups' : List (List α)} {group : List α} {anchor : α}

/-- The groups rank `xs`: an element of the highest score that remains anchors a group, which
is all that remains within the width of its score, in order; the rest is ranked in turn. -/
inductive RankedBy (score : α → ℕ) (width : ℕ) (before : α → α → Prop) :
    List α → List (List α) → Prop
  | done : RankedBy score width before [] []
  | group {xs group : List α} {groups : List (List α)} {anchor : α} (anchored : anchor ∈ xs)
      (highest : ∀ x ∈ xs, score x ≤ score anchor)
      (members : group.Perm (xs.filter (score anchor ≤ score · + width)))
      (ordered : group.Pairwise before)
      (rest : RankedBy score width before (xs.filter (¬ score anchor ≤ score · + width)) groups) :
      RankedBy score width before xs (group :: groups)

theorem filter_append_filter_not_perm (p : α → Prop) [DecidablePred p] (xs : List α) :
    (xs.filter (p ·) ++ xs.filter (¬ p ·)).Perm xs := by
  have hNot : xs.filter (¬ p ·) = xs.filter fun x => !decide (p x) :=
    List.filter_congr fun x _ => decide_not
  rw [hNot]
  exact List.filter_append_perm _ xs

/-- A ranking leaves nothing out and adds nothing. -/
theorem RankedBy.perm (h : RankedBy score width before xs groups) : groups.flatten.Perm xs := by
  induction h with
  | done => exact List.Perm.nil
  | @group xs group groups anchor anchored highest members ordered rest ih =>
    rw [List.flatten_cons]
    exact (members.append ih).trans (filter_append_filter_not_perm _ xs)

/-- Every score of a group is higher than those of the groups after it. -/
theorem RankedBy.descending (h : RankedBy score width before xs groups) :
    groups.Pairwise fun group later => ∀ a ∈ group, ∀ b ∈ later, score b < score a := by
  induction h with
  | done => exact List.Pairwise.nil
  | @group xs group groups anchor anchored highest members ordered rest ih =>
    refine List.pairwise_cons.mpr ⟨fun later hLater a ha b hb => ?_, ih⟩
    have hNear := (List.mem_filter.mp (members.subset ha)).2
    have hRest := rest.perm.subset (List.mem_flatten.mpr ⟨later, hLater, hb⟩)
    have hFar := (List.mem_filter.mp hRest).2
    simp only [decide_eq_true_eq] at hNear hFar
    omega

/-- The same elements, in any order, have one ranking. -/
theorem RankedBy.unique (h : RankedBy score width before xs groups)
    (h' : RankedBy score width before ys groups') (hPerm : xs.Perm ys)
    (hAsymm : ∀ a ∈ xs, ∀ b ∈ xs, before a b → before b a → a = b) : groups = groups' := by
  induction h generalizing ys groups' with
  | done =>
    obtain rfl := hPerm.nil_eq
    cases h' with
    | done => rfl
    | group anchored => cases anchored
  | @group xs group groups anchor anchored highest members ordered rest ih =>
    cases h' with
    | done => exact absurd (hPerm.subset anchored) List.not_mem_nil
    | @group _ group' groups' anchor' anchored' highest' members' ordered' rest' =>
      -- two elements of the highest score take in the same group
      have hScore : score anchor = score anchor' :=
        (highest' _ (hPerm.subset anchored)).antisymm
          (highest _ (hPerm.symm.subset anchored'))
      rw [← hScore] at members' rest'
      have hGroup : group.Perm group' :=
        members.trans ((hPerm.filter _).trans members'.symm)
      have hMembers : ∀ a ∈ group, a ∈ xs := fun a ha => List.mem_of_mem_filter (members.subset ha)
      have hFirst : group = group' := by
        refine List.Perm.eq_of_pairwise ?_ ordered ordered' hGroup
        intro a b ha hb
        exact hAsymm a (hMembers a ha) b (hMembers b (hGroup.symm.subset hb))
      have hRest : groups = groups' := by
        refine ih rest' (hPerm.filter _) fun a ha b hb => ?_
        exact hAsymm a (List.mem_of_mem_filter ha) b (List.mem_of_mem_filter hb)
      rw [hFirst, hRest]

theorem exists_anchor (h : xs ≠ []) :
    ∃ anchor ∈ xs, (∀ x ∈ xs, score x ≤ score anchor) ∧
      largest (xs.map score) = score anchor := by
  obtain ⟨anchor, hAnchor⟩ : ∃ anchor, xs.argmax score = some anchor := by
    rw [← Option.ne_none_iff_exists', Ne, List.argmax_eq_none]
    exact h
  have hHighest : ∀ x ∈ xs, score x ≤ score anchor := fun x hx => List.le_of_mem_argmax hx hAnchor
  refine ⟨anchor, List.argmax_mem hAnchor, hHighest, le_antisymm ?_ ?_⟩
  · rw [largest_le_iff (Nat.zero_le _), List.forall_mem_map]
    exact hHighest
  · exact le_largest (List.mem_cons_of_mem _ (List.mem_map_of_mem (List.argmax_mem hAnchor)))

/-- The groups that are computed, each sorted by a key that tells its elements apart. -/
theorem rankedBy_anchoredGroups (hNodup : xs.Nodup) (hKey : KeyOn key xs)
    (hFuel : xs.length ≤ fuel) :
    RankedBy score width (fun a b => key a < key b) xs
      ((anchoredGroups score width fuel xs).map (sortedBy key)) := by
  induction fuel generalizing xs with
  | zero =>
    obtain rfl := List.eq_nil_of_length_eq_zero (Nat.le_zero.mp hFuel)
    exact .done
  | succ fuel ih =>
    match xs with
    | [] => exact .done
    | x :: xs =>
      obtain ⟨anchor, hAnchor, hHighest, hTop⟩ : ∃ anchor ∈ x :: xs,
          (∀ y ∈ x :: xs, score y ≤ score anchor) ∧ largest ((x :: xs).map score) = score anchor :=
        exists_anchor (List.cons_ne_nil x xs)
      have hIn : InGroup score width (x :: xs) = fun y => score anchor ≤ score y + width := by
        funext y
        rw [InGroup, hTop]
      have hShorter : ((x :: xs).filter (¬ InGroup score width (x :: xs) ·)).length <
          (x :: xs).length := by
        refine List.length_filter_lt_length_iff_exists.mpr ⟨anchor, hAnchor, ?_⟩
        simp [hIn]
      simp only [anchoredGroups, List.map_cons]
      refine .group hAnchor hHighest ?_ ?_ ?_
      · simp only [hIn]
        exact sortedBy_perm _ _
      · exact pairwise_lt_sortedBy (hNodup.filter _) (hKey.mono (List.filter_subset_self _))
      · have hRest := ih (hNodup.filter _) (hKey.mono (List.filter_subset_self _))
          (Nat.le_of_lt_succ (hShorter.trans_le hFuel))
        simp only [hIn] at hRest ⊢
        exact hRest

end RankedBy

end Daybreak.Order
