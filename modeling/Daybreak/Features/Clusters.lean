import Daybreak.Features.Faults
import Daybreak.Numeric.Quantized
import Daybreak.Numeric.Significant

/-! The greedy clustering of pivots. Each round of the loop is led by the first pivot
that is not assigned, and takes in the others within the tolerance; the rounds
partition the pivots into descending clusters whose anchors are further apart than the
tolerance. A round is led by the highest of its pivots exactly when no other one is
higher by less than the context can tell from the negated prices. -/

namespace Daybreak.Features

open Contracts Daybreak.Order Effect Fallible Numeric DecimalArithmetic

variable {D : Type} [DecimalArithmetic D] {dates : List Day} {fuel sequence : ℕ}

/-! ### Members -/

theorem entries_foldl_insert {members : List (Pivot D)} {d : Dict Day (Pivot D)}
    (hDates : (members.map (·.sessionDate)).Nodup)
    (hFresh : ∀ pivot ∈ members, pivot.sessionDate ∉ d) :
    ((members.foldl (fun d p => d.insert p.sessionDate p) d).entries.map (·.2)).Perm
      (members ++ d.entries.map (·.2)) := by
  induction members generalizing d with
  | nil => exact .refl _
  | cons first rest ih =>
    obtain ⟨hFirst, hRest⟩ := List.nodup_cons.mp hDates
    obtain ⟨hNew, hLater⟩ := List.forall_mem_cons.mp hFresh
    have hStep := ih (d := d.insert first.sessionDate first) hRest ?_
    · rw [List.foldl_cons]
      refine hStep.trans ?_
      rw [AList.entries_insert_of_notMem hNew]
      exact List.perm_middle
    · intro pivot hPivot hMem
      rcases (AList.mem_insert d).mp hMem with hSame | hOld
      · exact hFirst (List.mem_map.mpr ⟨pivot, hPivot, hSame⟩)
      · exact hLater pivot hPivot hOld

/-- Members on distinct dates are all kept. -/
theorem uniqueByDate_perm {members : List (Pivot D)}
    (hDates : (members.map (·.sessionDate)).Nodup) : (uniqueByDate members).Perm members := by
  have hEntries := entries_foldl_insert (d := ∅) hDates fun _ _ => AList.notMem_empty _
  refine (sortedBy_perm _ _).trans (hEntries.trans ?_)
  rw [AList.empty_entries, List.map_nil, List.append_nil]

/-- A cluster of an anchor and its members: the ends of its zone are the lowest and the
highest of their prices. -/
structure IsCluster (anchor : Pivot D) (members : List (Pivot D)) (cluster : Cluster D) : Prop where
  anchor_eq : cluster.anchor = anchor.price
  members_perm : cluster.members.Perm members
  low_mem : ∃ pivot ∈ members, cluster.zoneLow = pivot.price
  low_le : ∀ pivot ∈ members, value cluster.zoneLow.1 ≤ value pivot.price.1
  high_mem : ∃ pivot ∈ members, cluster.zoneHigh = pivot.price
  le_high : ∀ pivot ∈ members, value pivot.price.1 ≤ value cluster.zoneHigh.1

/-- A cluster keeps one member for each date. -/
theorem clusterOf_unique {anchor : Pivot D} {members : List (Pivot D)} {cluster : Cluster D}
    (h : clusterOf dates sequence anchor members = .ok cluster) :
    IsCluster anchor (uniqueByDate members) cluster := by
  unfold clusterOf at h
  obtain ⟨_, -, h⟩ := bind_eq_ok.mp h
  obtain ⟨_, -, h⟩ := bind_eq_ok.mp h
  obtain ⟨zoneLow, hLow, h⟩ := bind_eq_ok.mp h
  obtain ⟨zoneHigh, hHigh, h⟩ := bind_eq_ok.mp h
  rw [nonempty_eq_ok] at hLow hHigh
  obtain ⟨lowest, hLowest, hLowEq⟩ := List.mem_map.mp (List.argmin_mem hLow)
  obtain ⟨highest, hHighest, hHighEq⟩ := List.mem_map.mp (List.argmax_mem hHigh)
  split at h
  · cases h
  · obtain rfl := Except.ok.inj h
    refine ⟨rfl, .refl _, ⟨lowest, hLowest, hLowEq.symm⟩, fun pivot hPivot => ?_,
      ⟨highest, hHighest, hHighEq.symm⟩, fun pivot hPivot => ?_⟩
    · exact List.le_of_mem_argmin (f := fun price : PositiveDecimal D => value price.1)
        (List.mem_map_of_mem hPivot) hLow
    · exact List.le_of_mem_argmax (f := fun price : PositiveDecimal D => value price.1)
        (List.mem_map_of_mem hPivot) hHigh

namespace IsCluster

variable {anchor : Pivot D} {members members' : List (Pivot D)} {cluster : Cluster D}

theorem perm (h : IsCluster anchor members cluster) (hPerm : members.Perm members') :
    IsCluster anchor members' cluster where
  anchor_eq := h.anchor_eq
  members_perm := h.members_perm.trans hPerm
  low_mem := by
    obtain ⟨lowest, hLowest, hLow⟩ := h.low_mem
    exact ⟨lowest, hPerm.mem_iff.mp hLowest, hLow⟩
  low_le pivot hPivot := h.low_le pivot (hPerm.mem_iff.mpr hPivot)
  high_mem := by
    obtain ⟨highest, hHighest, hHigh⟩ := h.high_mem
    exact ⟨highest, hPerm.mem_iff.mp hHighest, hHigh⟩
  le_high pivot hPivot := h.le_high pivot (hPerm.mem_iff.mpr hPivot)

theorem low_le_high (h : IsCluster anchor members cluster) :
    value cluster.zoneLow.1 ≤ value cluster.zoneHigh.1 := by
  obtain ⟨highest, hHighest, hHigh⟩ := h.high_mem
  rw [hHigh]
  exact h.low_le highest hHighest

end IsCluster

theorem clusterOf_eq_ok {anchor : Pivot D} {members : List (Pivot D)} {cluster : Cluster D}
    (hDates : (members.map (·.sessionDate)).Nodup)
    (h : clusterOf dates sequence anchor members = .ok cluster) :
    IsCluster anchor members cluster :=
  (clusterOf_unique h).perm (uniqueByDate_perm hDates)

/-! ### Rounds -/

/-- Within the tolerance of an anchor. -/
def Near (tolerance : D) (anchor candidate : Pivot D) : Prop :=
  value (sub anchor.price.1 candidate.price.1) ≤ value tolerance

instance (tolerance : D) (anchor candidate : Pivot D) : Decidable (Near tolerance anchor candidate) :=
  inferInstanceAs (Decidable (_ ≤ _))

/-- The rounds of the loop over pivots that are not assigned, with their clusters. -/
inductive Rounds (tolerance : D) : List (Pivot D) → List (Cluster D) → Prop
  | done : Rounds tolerance [] []
  | round {anchor : Pivot D} {rest : List (Pivot D)} {cluster : Cluster D}
      {others : List (Cluster D)} :
      IsCluster anchor (anchor :: rest.filter (Near tolerance anchor ·)) cluster →
      Rounds tolerance (rest.filter (¬ Near tolerance anchor ·)) others →
      Rounds tolerance (anchor :: rest) (cluster :: others)

theorem rounds_of_clustersFrom {tolerance : D} {pivots : List (Pivot D)}
    {found : List (Cluster D)} (hDates : (pivots.map (·.sessionDate)).Nodup)
    (hFuel : pivots.length ≤ fuel)
    (h : clustersFrom dates tolerance fuel sequence pivots = .ok found) :
    Rounds tolerance pivots found := by
  induction fuel generalizing sequence pivots found with
  | zero =>
    obtain rfl := List.length_eq_zero_iff.mp (Nat.le_zero.mp hFuel)
    obtain rfl := Except.ok.inj h
    exact .done
  | succ fuel ih =>
    cases pivots with
    | nil =>
      obtain rfl := Except.ok.inj h
      exact .done
    | cons anchor rest =>
      unfold clustersFrom at h
      obtain ⟨cluster, hCluster, h⟩ := bind_eq_ok.mp h
      obtain ⟨others, hOthers, h⟩ := bind_eq_ok.mp h
      obtain rfl := Except.ok.inj h
      have hNear : ∀ p : Pivot D → Bool,
          ((anchor :: rest.filter p).map (·.sessionDate)).Nodup := by
        intro p
        exact hDates.sublist ((List.filter_sublist.cons_cons anchor).map _)
      have hNot : (fun pivot => !decide (Near tolerance anchor pivot)) =
          fun pivot => decide (¬ Near tolerance anchor pivot) := by
        funext pivot
        exact (decide_not ..).symm
      refine .round (clusterOf_eq_ok (hNear _) hCluster) (ih ?_ ?_ (hNot ▸ hOthers))
      · exact (hNear _).of_cons
      · have hLength := List.length_filter_le (fun pivot => decide (¬ Near tolerance anchor pivot)) rest
        rw [List.length_cons] at hFuel
        omega

namespace Rounds

variable {tolerance : D} {pivots : List (Pivot D)} {found : List (Cluster D)}

theorem members_perm (h : Rounds tolerance pivots found) :
    (found.flatMap (·.members)).Perm pivots := by
  induction h with
  | done => exact .refl _
  | @round anchor rest cluster others hCluster hOthers ih =>
    rw [List.flatMap_cons]
    have hSplit := List.filter_append_perm (fun pivot => decide (Near tolerance anchor pivot)) rest
    have hNot : (fun pivot => decide (¬ Near tolerance anchor pivot)) =
        fun pivot => !decide (Near tolerance anchor pivot) := by
      funext pivot
      exact decide_not
    refine (hCluster.members_perm.append ih).trans ?_
    rw [List.cons_append, hNot]
    exact hSplit.cons anchor

/-- Every cluster is one of a round over some of the pivots. -/
theorem exists_mem (h : Rounds tolerance pivots found) {cluster : Cluster D}
    (hCluster : cluster ∈ found) :
    ∃ anchor members, IsCluster anchor members cluster ∧ anchor ∈ members ∧ members ⊆ pivots := by
  induction h with
  | done => cases hCluster
  | @round anchor rest first others hFirst hOthers ih =>
    rcases List.mem_cons.mp hCluster with rfl | hLater
    · refine ⟨anchor, _, hFirst, List.mem_cons_self, ?_⟩
      exact List.cons_subset_cons anchor (List.filter_subset_self rest)
    · obtain ⟨later, members, hMembers, hAnchor, hSubset⟩ := ih hLater
      refine ⟨later, members, hMembers, hAnchor, fun pivot hPivot => ?_⟩
      exact List.mem_cons_of_mem anchor (List.mem_of_mem_filter (hSubset hPivot))

/-- What holds of a cluster and of the pivots that are left after its round holds of it
and of every later cluster. -/
theorem pairwise {R : Cluster D → Cluster D → Prop} (h : Rounds tolerance pivots found)
    (hR : ∀ (anchor : Pivot D) (rest : List (Pivot D)) (cluster : Cluster D),
      IsCluster anchor (anchor :: rest.filter (Near tolerance anchor ·)) cluster →
      ∀ later members other, IsCluster later members other → later ∈ members →
      (∀ pivot ∈ members, ¬ Near tolerance anchor pivot) → R cluster other) :
    found.Pairwise R := by
  induction h with
  | done => exact .nil
  | @round anchor rest cluster others hCluster hOthers ih =>
    refine .cons (fun other hOther => ?_) ih
    obtain ⟨later, members, hMembers, hLater, hSubset⟩ := hOthers.exists_mem hOther
    refine hR anchor rest cluster hCluster later members other hMembers hLater ?_
    intro pivot hPivot
    exact of_decide_eq_true (List.mem_filter.mp (hSubset hPivot)).2

end Rounds

/-! ### The decimal context -/

section Context

variable {tolerance : Decimal} {pivots : List (Pivot Decimal)} {found : List (Cluster Decimal)}

theorem value_sub (a b : Decimal) : value (sub a b) = Decimal.round (value a - value b) :=
  Decimal.toRat_sub_eq a b

theorem value_neg (a : Decimal) : value (neg a) = -Decimal.round (value a) := Decimal.toRat_neg_eq a

/-- What is as near to an anchor as a nearer price is near too. -/
theorem Near.mono {anchor pivot other : Pivot Decimal} (h : Near tolerance anchor pivot)
    (hPrice : value pivot.price.1 ≤ value other.price.1) : Near tolerance anchor other := by
  unfold Near at *
  rw [value_sub] at *
  exact (Decimal.round_mono (by linarith)).trans h

theorem near_of_le (hTolerance : 0 ≤ value tolerance) {anchor pivot : Pivot Decimal}
    (h : value anchor.price.1 ≤ value pivot.price.1) : Near tolerance anchor pivot := by
  have hRound : Decimal.round (value anchor.price.1 - value pivot.price.1) ≤ Decimal.round 0 :=
    Decimal.round_mono (by linarith)
  unfold Near
  rw [value_sub]
  rw [Decimal.round_zero] at hRound
  exact hRound.trans hTolerance

/-- A lower price does not come first in the order of the loop, but for what the negation
rounds away. -/
theorem neg_eq_of_lt {anchor pivot : Pivot Decimal} (hKey : anchor.priceKey ≤ pivot.priceKey)
    (h : value anchor.price.1 < value pivot.price.1) :
    value (neg pivot.price.1) = value (neg anchor.price.1) := by
  have hOrder : value (neg anchor.price.1) ≤ value (neg pivot.price.1) := by
    rcases Prod.Lex.le_iff.mp hKey with hLess | ⟨hEqual, -⟩
    · exact hLess.le
    · exact hEqual.le
  refine le_antisymm ?_ hOrder
  rw [value_neg, value_neg]
  exact neg_le_neg (Decimal.round_mono h.le)

/-- A pivot is near the anchor of its own cluster. -/
theorem near_of_mem (hTolerance : 0 ≤ value tolerance) {anchor pivot : Pivot Decimal}
    {rest : List (Pivot Decimal)}
    (h : pivot ∈ anchor :: rest.filter (Near tolerance anchor ·)) : Near tolerance anchor pivot := by
  rcases List.mem_cons.mp h with rfl | hRest
  · exact near_of_le hTolerance le_rfl
  · exact of_decide_eq_true (List.mem_filter.mp hRest).2

namespace Rounds

/-- The zones come in strictly descending order, without overlaps. -/
theorem zones_descending (hTolerance : 0 ≤ value tolerance) (h : Rounds tolerance pivots found) :
    found.Pairwise fun cluster other => value other.zoneHigh.1 < value cluster.zoneLow.1 := by
  refine h.pairwise fun anchor rest cluster hCluster later members other hOther _ hFar => ?_
  obtain ⟨lowest, hLowest, hLow⟩ := hCluster.low_mem
  obtain ⟨highest, hHighest, hHigh⟩ := hOther.high_mem
  rw [hLow, hHigh]
  by_contra hOverlap
  exact hFar highest hHighest ((near_of_mem hTolerance hLowest).mono (not_lt.mp hOverlap))

theorem anchors_separated (h : Rounds tolerance pivots found) :
    found.Pairwise fun cluster other =>
      value tolerance < value (sub cluster.anchor.1 other.anchor.1) := by
  refine h.pairwise fun anchor rest cluster hCluster later members other hOther hLater hFar => ?_
  rw [hCluster.anchor_eq, hOther.anchor_eq]
  exact not_le.mp (hFar later hLater)

end Rounds

/-! ### The highest pivot first -/

/-- The pivots that are not assigned before a round of the loop, in their order. -/
inductive Unassigned (tolerance : Decimal) (ordered : List (Pivot Decimal)) :
    List (Pivot Decimal) → Prop
  | first : Unassigned tolerance ordered ordered
  | next {anchor : Pivot Decimal} {rest : List (Pivot Decimal)} :
      Unassigned tolerance ordered (anchor :: rest) →
      Unassigned tolerance ordered (rest.filter (¬ Near tolerance anchor ·))

/-- Before no round is an unassigned pivot higher than the first one, whose price has the
same negation in the digits of the context. -/
def HighestFirst (tolerance : Decimal) (ordered : List (Pivot Decimal)) : Prop :=
  ∀ anchor rest, Unassigned tolerance ordered (anchor :: rest) → ∀ pivot ∈ rest,
    value (neg pivot.price.1) = value (neg anchor.price.1) →
    value pivot.price.1 ≤ value anchor.price.1

theorem Unassigned.trans {ordered middle later : List (Pivot Decimal)}
    (h : Unassigned tolerance ordered middle) (hLater : Unassigned tolerance middle later) :
    Unassigned tolerance ordered later := by
  induction hLater with
  | first => exact h
  | next _ ih => exact ih.next

theorem Unassigned.sublist {ordered later : List (Pivot Decimal)}
    (h : Unassigned tolerance ordered later) : later.Sublist ordered := by
  induction h with
  | first => exact .refl _
  | next _ ih => exact List.filter_sublist.trans ((List.sublist_cons_self _ _).trans ih)

/-- Rounds over all pivots pass through the rounds over those that are left. -/
theorem Rounds.of_unassigned {later : List (Pivot Decimal)} (h : Unassigned tolerance pivots later)
    (hRounds : Rounds tolerance pivots found) :
    ∃ others ⊆ found, Rounds tolerance later others := by
  induction h with
  | first => exact ⟨found, List.Subset.refl found, hRounds⟩
  | next _ ih =>
    obtain ⟨others, hSubset, hOthers⟩ := ih
    cases hOthers with
    | @round _ _ cluster later hCluster hLater =>
      exact ⟨later, fun other hOther => hSubset (List.mem_cons_of_mem cluster hOther), hLater⟩

theorem Rounds.highestFirst (hTolerance : 0 ≤ value tolerance) (h : Rounds tolerance pivots found)
    (hAnchored : ∀ cluster ∈ found, value cluster.zoneHigh.1 = value cluster.anchor.1) :
    HighestFirst tolerance pivots := by
  intro anchor rest hUnassigned pivot hPivot _
  obtain ⟨others, hSubset, hOthers⟩ := h.of_unassigned hUnassigned
  cases hOthers with
  | @round _ _ cluster later hCluster _ =>
    by_contra hHigher
    have hNear : Near tolerance anchor pivot := near_of_le hTolerance (not_le.mp hHigher).le
    have hMember : pivot ∈ anchor :: rest.filter (Near tolerance anchor ·) :=
      List.mem_cons_of_mem anchor (List.mem_filter.mpr ⟨hPivot, decide_eq_true hNear⟩)
    have hHigh := hCluster.le_high pivot hMember
    rw [hAnchored cluster (hSubset List.mem_cons_self), hCluster.anchor_eq] at hHigh
    exact hHigher hHigh

theorem Rounds.anchored (h : Rounds tolerance pivots found)
    (hOrdered : pivots.Pairwise fun a b => a.priceKey ≤ b.priceKey)
    (hHighest : HighestFirst tolerance pivots) :
    ∀ cluster ∈ found, value cluster.zoneHigh.1 = value cluster.anchor.1 := by
  induction h with
  | done => exact fun _ hMem => nomatch hMem
  | @round anchor rest cluster others hCluster hOthers ih =>
    obtain ⟨hBefore, hRest⟩ := List.pairwise_cons.mp hOrdered
    refine List.forall_mem_cons.mpr ⟨?_, ih (hRest.sublist List.filter_sublist) ?_⟩
    · rw [hCluster.anchor_eq]
      refine le_antisymm ?_ (hCluster.le_high anchor List.mem_cons_self)
      obtain ⟨highest, hMem, hHigh⟩ := hCluster.high_mem
      rw [hHigh]
      rcases List.mem_cons.mp hMem with rfl | hMem
      · exact le_rfl
      · have hLater := List.mem_of_mem_filter hMem
        by_contra hHigher
        have hSame := neg_eq_of_lt (hBefore highest hLater) (not_le.mp hHigher)
        exact hHigher (hHighest anchor rest .first highest hLater hSame)
    · intro later left hLeft
      exact hHighest later left (Unassigned.first.next.trans hLeft)

/-- A zone that ends at its anchor is no wider than the tolerance. -/
theorem Rounds.narrow (hTolerance : 0 ≤ value tolerance) (h : Rounds tolerance pivots found)
    (hAnchored : ∀ cluster ∈ found, value cluster.zoneHigh.1 = value cluster.anchor.1) :
    ∀ cluster ∈ found, value (sub cluster.zoneHigh.1 cluster.zoneLow.1) ≤ value tolerance := by
  induction h with
  | done => exact fun _ hMem => nomatch hMem
  | @round anchor rest cluster others hCluster hOthers ih =>
    obtain ⟨hFirst, hLater⟩ := List.forall_mem_cons.mp hAnchored
    refine List.forall_mem_cons.mpr ⟨?_, ih hLater⟩
    obtain ⟨lowest, hLowest, hLow⟩ := hCluster.low_mem
    rw [value_sub, hFirst, hCluster.anchor_eq, hLow, ← value_sub]
    exact near_of_mem hTolerance hLowest

end Context

/-! ### The clusters of some pivots -/

section Clustered

variable {pivots : List (Pivot Decimal)} {bars : List (DailyBar Decimal)} {atr : Decimal}
  {config : FeatureEngineConfig Decimal}

/-- Every pivot is in exactly one cluster; a cluster ends at its anchor and is no wider
than the tolerance; the zones come in strictly descending order without overlaps, and
their anchors are further apart than the tolerance. -/
structure Clustered (tolerance : Decimal) (pivots : List (Pivot Decimal))
    (found : List (Cluster Decimal)) : Prop where
  members_perm : (found.flatMap (·.members)).Perm pivots
  anchored : ∀ cluster ∈ found, value cluster.zoneHigh.1 = value cluster.anchor.1
  narrow : ∀ cluster ∈ found,
    value (sub cluster.zoneHigh.1 cluster.zoneLow.1) ≤ value tolerance
  descending : found.Pairwise fun cluster other =>
    value other.zoneHigh.1 < value cluster.zoneLow.1
  separated : found.Pairwise fun cluster other =>
    value tolerance < value (sub cluster.anchor.1 other.anchor.1)

/-- The pivots are clustered, and the same whatever the order in which they are given. -/
def ClustersWell (pivots : List (Pivot Decimal)) (bars : List (DailyBar Decimal)) (atr : Decimal)
    (config : FeatureEngineConfig Decimal) : Prop :=
  ∃ found, clusters pivots bars atr config = .ok found ∧
    Clustered (mul config.clusterToleranceAtr atr) pivots found ∧
    ∀ pivots', pivots'.Perm pivots → clusters pivots' bars atr config = .ok found

theorem div_two_ok (x : Decimal) : RaisesOnly (fun _ => False) (arith (div x (ofInt 2))) := by
  obtain ⟨r, hr⟩ := Decimal.exists_div x (b := Decimal.ofInt 2) (by decide)
  have hArith : arith (div x (ofInt 2)) = .ok r := by
    rw [show div x (ofInt 2 : Decimal) = .ok r from hr]
    rfl
  rw [hArith]
  exact raisesOnly_ok

theorem exists_clusters (hBars : ∀ pivot ∈ pivots, pivot.sessionDate ∈ bars.map (·.sessionDate)) :
    ∃ found, clusters pivots bars atr config = .ok found := by
  have hRaises : RaisesOnly (fun _ => False) (clusters pivots bars atr config) := by
    refine clustersFrom_raises div_two_ok _ _ _ fun pivot hPivot => ?_
    exact hBars pivot (mem_sortedBy.mp hPivot)
  cases hFound : clusters pivots bars atr config with
  | ok found => exact ⟨found, rfl⟩
  | error e => exact (hRaises e hFound).elim

theorem rounds_of_clusters {found : List (Cluster Decimal)}
    (hDates : (pivots.map (·.sessionDate)).Nodup)
    (h : clusters pivots bars atr config = .ok found) :
    Rounds (mul config.clusterToleranceAtr atr) (sortedBy Pivot.priceKey pivots) found := by
  refine rounds_of_clustersFrom ?_ le_rfl h
  exact ((sortedBy_perm _ _).map _).nodup_iff.mpr hDates

theorem keyOn_priceKey (hDates : (pivots.map (·.sessionDate)).Nodup) :
    KeyOn Pivot.priceKey pivots := by
  intro a ha b hb hKey
  have hDate : a.sessionDate = b.sessionDate := (Prod.mk.inj (toLex.injective hKey)).2
  exact List.inj_on_of_nodup_map hDates ha hb hDate

/-- The order in which the pivots are given does not matter. -/
theorem clusters_perm {pivots' : List (Pivot Decimal)}
    (hDates : (pivots.map (·.sessionDate)).Nodup) (h : pivots'.Perm pivots) :
    clusters pivots' bars atr config = clusters pivots bars atr config := by
  unfold clusters
  rw [sortedBy_eq_of_perm (keyOn_priceKey hDates) h]

theorem clustersWell_iff (hDates : (pivots.map (·.sessionDate)).Nodup)
    (hBars : ∀ pivot ∈ pivots, pivot.sessionDate ∈ bars.map (·.sessionDate))
    (hTolerance : 0 ≤ value (mul config.clusterToleranceAtr atr)) :
    ClustersWell pivots bars atr config ↔
      HighestFirst (mul config.clusterToleranceAtr atr) (sortedBy Pivot.priceKey pivots) := by
  constructor
  · rintro ⟨found, hFound, hClustered, -⟩
    exact (rounds_of_clusters hDates hFound).highestFirst hTolerance hClustered.anchored
  · intro hHighest
    obtain ⟨found, hFound⟩ : ∃ found, clusters pivots bars atr config = .ok found :=
      exists_clusters hBars
    have hRounds := rounds_of_clusters hDates hFound
    have hAnchored := hRounds.anchored (pairwise_sortedBy _ _) hHighest
    refine ⟨found, hFound, ⟨?_, hAnchored, hRounds.narrow hTolerance hAnchored,
      hRounds.zones_descending hTolerance, hRounds.anchors_separated⟩, fun pivots' hPerm => ?_⟩
    · exact hRounds.members_perm.trans (sortedBy_perm _ _)
    · rw [clusters_perm hDates hPerm, hFound]

end Clustered

/-! ### Prices that the context writes in full -/

/-- Prices of at most twenty-eight digits are never confused. -/
theorem highestFirst_of_representable {tolerance : Decimal} {ordered : List (Pivot Decimal)}
    (h : ∀ pivot ∈ ordered, Representable (value pivot.price.1)) :
    HighestFirst tolerance ordered := by
  intro anchor rest hUnassigned pivot hPivot hSame
  have hNeg : ∀ other ∈ anchor :: rest, value (neg other.price.1) = -value other.price.1 := by
    intro other hOther
    have hMem := hUnassigned.sublist.subset hOther
    have hFix : Decimal.round (value other.price.1) = value other.price.1 :=
      (Decimal.toRat_fix_eq other.price.1).symm.trans (Decimal.toRat_fix (h other hMem))
    rw [value_neg, hFix]
  have hPrices : value pivot.price.1 = value anchor.price.1 := by
    have hBoth := hSame
    rw [hNeg pivot (List.mem_cons_of_mem anchor hPivot), hNeg anchor List.mem_cons_self] at hBoth
    exact neg_injective hBoth
  exact hPrices.le

/-- A day that opens, trades and closes at one price. -/
def flatBar (date : Day) (price : PositiveDecimal Decimal) : DailyBar Decimal where
  sessionDate := date
  openPrice := price
  high := price
  low := price
  close := price
  volume := 1000
  high_max := ⟨le_rfl, le_rfl, le_rfl⟩
  low_min := ⟨le_rfl, le_rfl⟩

def confirmedPivot (bar : DailyBar Decimal) : Pivot Decimal := ⟨bar.sessionDate, bar.high, true, false⟩

theorem touched_pos : 0 < value (Decimal.literal 1050 (-2)) := by decide +kernel

def tickHighs : List (DailyBar Decimal) :=
  [flatBar 1 ⟨.literal 1050 (-2), touched_pos⟩,
    flatBar 2 ⟨.literal 1000 (-2), by decide +kernel⟩,
    flatBar 3 ⟨.literal 1025 (-2), by decide +kernel⟩]

theorem tickHighs_clustered :
    ClustersWell (tickHighs.map confirmedPivot) tickHighs (.literal 5 (-1)) defaultConfig := by
  refine (clustersWell_iff (by decide +kernel) (by decide +kernel) (by decide +kernel)).mpr ?_
  refine highestFirst_of_representable fun pivot hPivot => ?_
  have hCases : pivot ∈ tickHighs.map confirmedPivot := mem_sortedBy.mp hPivot
  simp only [tickHighs, List.map_cons, List.map_nil, List.mem_cons, List.not_mem_nil, or_false]
    at hCases
  rcases hCases with rfl | rfl | rfl
  · exact ⟨1050, -2, by decide, value_literal 1050 (-2)⟩
  · exact ⟨1000, -2, by decide, value_literal 1000 (-2)⟩
  · exact ⟨1025, -2, by decide, value_literal 1025 (-2)⟩

/-- Two highs that agree in twenty-eight digits, the higher one a day later. -/
def closeHighs : List (DailyBar Decimal) :=
  [flatBar 1 ⟨.literal 1 0, by decide +kernel⟩,
    flatBar 2 ⟨.literal (10 ^ 28 + 1) (-28), by decide +kernel⟩]

theorem closeHighs_not_clustered :
    ((closeHighs.map confirmedPivot).map (·.sessionDate)).Nodup ∧
      (∀ pivot ∈ closeHighs.map confirmedPivot, pivot.sessionDate ∈ closeHighs.map (·.sessionDate)) ∧
      0 ≤ value (mul defaultConfig.clusterToleranceAtr (ofInt 1)) ∧
      ¬ ClustersWell (closeHighs.map confirmedPivot) closeHighs (ofInt 1) defaultConfig := by
  refine ⟨by decide +kernel, by decide +kernel, by decide +kernel, ?_⟩
  rintro ⟨found, hFound, hClustered, -⟩
  have hHighest := (rounds_of_clusters (by decide) hFound).highestFirst
    (by decide +kernel) hClustered.anchored
  have hOrdered : sortedBy Pivot.priceKey (closeHighs.map confirmedPivot) =
      closeHighs.map confirmedPivot := List.Pairwise.insertionSort_eq (by decide +kernel)
  rw [hOrdered] at hHighest
  have hLower := hHighest _ _ .first _ List.mem_cons_self (by decide +kernel)
  exact absurd hLower (by decide +kernel)

end Daybreak.Features
