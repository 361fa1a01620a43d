import Daybreak.Features.Calculation
import Daybreak.Features.Clusters

/-! The nearest resistance above a price. Whatever the bars, the distance of a candidate
is the quantized least room below the valid clusters that are not below the price, or
else the room below the all-time high, and a blue sky is left to a price that is not
below any of them. -/

namespace Daybreak.Features

open Contracts Daybreak.Order Effect Fallible Numeric DecimalArithmetic

variable {bars : List (DailyBar Decimal)} {price atr : Decimal} {complete : Bool}
  {config : FeatureEngineConfig Decimal} {audit : ResistanceAudit Decimal}
  {cluster : Cluster Decimal} {valid found : List (Cluster Decimal)}

/-! ### What is meant -/

/-- The valid clusters of the last sessions of a history. -/
def validClusters (bars : List (DailyBar Decimal)) (atr : Decimal)
    (config : FeatureEngineConfig Decimal) : FeatureResult (List (Cluster Decimal)) := do
  let lookback := min FeatureEngineConfig.clusterLookbackSessions bars.length
  let clusterBars := bars.drop (bars.length - lookback)
  let (pivots, _) ← pivotCandidates clusterBars
  let found ← clusters pivots clusterBars atr config
  return found.filter (·.Valid)

/-- `zone_high >= price` -/
def above (price : Decimal) (valid : List (Cluster Decimal)) : List (Cluster Decimal) :=
  valid.filter fun cluster => value price ≤ value cluster.zoneHigh.1

/-- `max(0, low - price) / atr` -/
def roomBelow (low price atr : Decimal) : Except DecimalSignal Decimal :=
  div (pyMax (ofInt 0) (sub low price)) atr

/-- The distance is the quantized least room below the zones of some clusters. -/
def LeastRoom (clusters : List (Cluster Decimal)) (price atr distance : Decimal) : Prop :=
  ∃ nearest ∈ clusters, ∃ room, roomBelow nearest.zoneLow.1 price atr = .ok room ∧
    value distance = roundTo .halfEven (10 ^ (-6 : ℤ)) (value room) ∧
    ∀ other ∈ clusters, ∃ further, roomBelow other.zoneLow.1 price atr = .ok further ∧
      value room ≤ value further

/-- The structure that a distance stands for, in numbers. -/
def structureFor (distance : ℚ) : ChartStructure :=
  if 2 < distance then .cleanShortTerm else if 1 ≤ distance then .moderateRoom else .capped

/-- The selection among the valid clusters and the all-time high. -/
structure ResistanceSelected (valid : List (Cluster Decimal)) (price atr : Decimal) (complete : Bool)
    (sentinel : Decimal) (audit : ResistanceAudit Decimal) : Prop where
  cluster : above price valid ≠ [] →
    LeastRoom (above price valid) price atr audit.distanceToResistanceAtr ∧
      audit.isBlueSkySentinel = false
  fallback : above price valid = [] → value price < value audit.allTimeHighPrice.1 →
    (∃ room, div (sub audit.allTimeHighPrice.1 price) atr = .ok room ∧
      value audit.distanceToResistanceAtr = roundTo .halfEven (10 ^ (-6 : ℤ)) (value room)) ∧
      audit.isBlueSkySentinel = false
  blueSky : above price valid = [] → value audit.allTimeHighPrice.1 ≤ value price →
    audit.distanceToResistanceAtr = sentinel ∧ audit.isBlueSkySentinel = true ∧ complete = true
  nonneg : 0 ≤ value audit.distanceToResistanceAtr
  chart : audit.isBlueSkySentinel = false →
    audit.chartStructure = structureFor (value audit.distanceToResistanceAtr)

/-- The all-time high is the highest high of the bars. -/
def IsAllTimeHigh (bars : List (DailyBar Decimal)) (high : PositiveDecimal Decimal) : Prop :=
  (∃ bar ∈ bars, bar.high = high) ∧ ∀ bar ∈ bars, value bar.high.1 ≤ value high.1

/-! ### Zones -/

theorem zoneLow_le_zoneHigh_of_clustersFrom {dates : List Day} {tolerance : Decimal}
    {fuel sequence : ℕ} {pivots : List (Pivot Decimal)}
    (h : clustersFrom dates tolerance fuel sequence pivots = .ok found) :
    ∀ cluster ∈ found, value cluster.zoneLow.1 ≤ value cluster.zoneHigh.1 := by
  induction fuel generalizing sequence pivots found with
  | zero =>
    obtain rfl := Except.ok.inj h
    exact fun _ hMem => nomatch hMem
  | succ fuel ih =>
    cases pivots with
    | nil =>
      obtain rfl := Except.ok.inj h
      exact fun _ hMem => nomatch hMem
    | cons anchor rest =>
      unfold clustersFrom at h
      obtain ⟨cluster, hCluster, h⟩ := bind_eq_ok.mp h
      obtain ⟨others, hOthers, h⟩ := bind_eq_ok.mp h
      obtain rfl := Except.ok.inj h
      exact List.forall_mem_cons.mpr ⟨(clusterOf_unique hCluster).low_le_high, ih hOthers⟩

/-! ### Rooms -/

theorem value_sub_pos {a b : Decimal} (h : value b < value a) : 0 < value (sub a b) := by
  rw [value_sub]
  exact Decimal.round_pos (sub_pos.mpr h)

theorem value_sub_nonpos {a b : Decimal} (h : value a ≤ value b) : value (sub a b) ≤ 0 := by
  rw [value_sub, ← Decimal.round_zero]
  exact Decimal.round_mono (sub_nonpos.mpr h)

theorem value_div_zero {zero quotient : Decimal} (hZero : value zero = 0)
    (h : div zero atr = .ok quotient) : value quotient = 0 := by
  have hCoefficient : zero.coefficient = 0 := Decimal.toRat_eq_zero.mp hZero
  change Decimal.div zero atr = .ok quotient at h
  unfold Decimal.div at h
  simp only [hCoefficient, if_true] at h
  split_ifs at h with hAtr
  obtain rfl := Except.ok.inj h
  exact Decimal.toRat_eq_zero.mpr rfl

/-- The room below a zone above the price is its distance. -/
theorem roomBelow_of_lt {low : Decimal} (h : value price < value low) :
    roomBelow low price atr = div (sub low price) atr := by
  have hPositive : value (ofInt 0 : Decimal) < value (sub low price) := by
    rw [value_ofInt]
    exact_mod_cast value_sub_pos h
  rw [roomBelow, pyMax, if_pos hPositive]

theorem roomBelow_of_le {low : Decimal} (h : value low ≤ value price) :
    roomBelow low price atr = div (ofInt 0) atr := by
  have hNot : ¬ value (ofInt 0 : Decimal) < value (sub low price) := by
    rw [value_ofInt, not_lt]
    exact_mod_cast value_sub_nonpos h
  rw [roomBelow, pyMax, if_neg hNot]

theorem exists_div_of_pos (x : Decimal) (h : 0 < value atr) : ∃ r, div x atr = .ok r :=
  Decimal.exists_div x (Decimal.toRat_pos_iff.mp h).2

theorem roomBelow_nonneg {low room : Decimal} (hAtr : 0 < value atr)
    (h : roomBelow low price atr = .ok room) : 0 ≤ value room := by
  refine Decimal.div_nonneg ?_ hAtr h
  change 0 ≤ value (pyMax (ofInt 0) (sub low price))
  rw [value_pyMax, value_ofInt]
  exact le_max_left _ _

/-- A cluster that is not below the price has the room below it as its distance, and one
that is below it has none. -/
theorem eligibleDistance_spec (hAtr : 0 < value atr)
    (hZone : value cluster.zoneLow.1 ≤ value cluster.zoneHigh.1) :
    (value price ≤ value cluster.zoneHigh.1 → ∃ distance room,
      eligibleDistance price atr cluster = .ok (some (distance, cluster)) ∧
      roomBelow cluster.zoneLow.1 price atr = .ok room ∧ value distance = value room) ∧
    (value cluster.zoneHigh.1 < value price → eligibleDistance price atr cluster = .ok none) := by
  constructor
  · intro hAbove
    unfold eligibleDistance
    by_cases hLow : value price < value cluster.zoneLow.1
    · obtain ⟨room, hRoom⟩ := exists_div_of_pos (sub cluster.zoneLow.1 price) hAtr
      refine ⟨room, room, ?_, (roomBelow_of_lt hLow).trans hRoom, rfl⟩
      rw [if_pos hLow, arith_eq_ok.mpr hRoom]
      rfl
    · obtain ⟨room, hRoom⟩ := exists_div_of_pos (ofInt 0) hAtr
      refine ⟨ofInt 0, room, ?_, (roomBelow_of_le (not_lt.mp hLow)).trans hRoom, ?_⟩
      · rw [if_neg hLow, if_pos hAbove]
        rfl
      · have hNone : value (ofInt 0 : Decimal) = 0 := by simp [value_ofInt]
        rw [hNone, value_div_zero hNone hRoom]
  · intro hBelow
    unfold eligibleDistance
    rw [if_neg (hZone.trans hBelow.le).not_gt, if_neg (not_le.mpr hBelow)]
    rfl

/-! ### The nearest of the eligible clusters -/

/-- The distances are those of the clusters that are not below the price. -/
theorem distances_spec {distances : List (Option (Decimal × Cluster Decimal))}
    (hAtr : 0 < value atr)
    (hZones : ∀ cluster ∈ valid, value cluster.zoneLow.1 ≤ value cluster.zoneHigh.1)
    (h : valid.mapM (eligibleDistance price atr) = .ok distances) :
    (∀ distance cluster, some (distance, cluster) ∈ distances → cluster ∈ above price valid ∧
      ∃ room, roomBelow cluster.zoneLow.1 price atr = .ok room ∧ value distance = value room) ∧
    ∀ cluster ∈ above price valid, ∃ distance, some (distance, cluster) ∈ distances := by
  constructor
  · intro distance cluster hMem
    obtain ⟨origin, hOrigin, hDistance⟩ := mapM_ok_mem h hMem
    have hSpec := @eligibleDistance_spec price atr origin hAtr (hZones origin hOrigin)
    obtain ⟨hAbove, hBelow⟩ := hSpec
    rcases le_or_gt (value price) (value origin.zoneHigh.1) with hHigh | hHigh
    · obtain ⟨_, room, hEligible, hRoom, hValue⟩ := hAbove hHigh
      obtain ⟨rfl, rfl⟩ := Prod.mk.inj (Option.some.inj (Except.ok.inj (hEligible.symm.trans hDistance)))
      exact ⟨List.mem_filter.mpr ⟨hOrigin, decide_eq_true hHigh⟩, room, hRoom, hValue⟩
    · cases (hBelow hHigh).symm.trans hDistance
  · intro cluster hMem
    obtain ⟨hValid, hHigh⟩ := List.mem_filter.mp hMem
    obtain ⟨hAbove, -⟩ := @eligibleDistance_spec price atr cluster hAtr (hZones cluster hValid)
    obtain ⟨distance, room, hEligible, -, -⟩ := hAbove (of_decide_eq_true hHigh)
    obtain ⟨answer, hAnswer, hOk⟩ := mapM_ok_of_mem h hValid
    obtain rfl := Except.ok.inj (hEligible.symm.trans hOk)
    exact ⟨distance, hAnswer⟩

/-- The first eligible cluster has the least room below it. -/
theorem leastRoom_of_head {distances : List (Option (Decimal × Cluster Decimal))}
    {raw distance : Decimal} (hAtr : 0 < value atr)
    (hZones : ∀ cluster ∈ valid, value cluster.zoneLow.1 ≤ value cluster.zoneHigh.1)
    (h : valid.mapM (eligibleDistance price atr) = .ok distances)
    (hHead : (sortedBy eligibleKey (distances.filterMap id)).head? = some (raw, cluster))
    (hQuantize : quantize .halfEven (-6) raw = .ok distance) :
    LeastRoom (above price valid) price atr distance ∧ 0 ≤ value distance := by
  obtain ⟨hSound, hComplete⟩ := distances_spec hAtr hZones h
  have hMem : ∀ pair, pair ∈ distances.filterMap id ↔ some pair ∈ distances := by
    intro pair
    simp
  obtain ⟨hFirst, hLeast⟩ := head_sortedBy hHead
  obtain ⟨hAbove, room, hRoom, hValue⟩ := hSound raw cluster ((hMem _).mp hFirst)
  refine ⟨⟨cluster, hAbove, room, hRoom, ?_, fun other hOther => ?_⟩, ?_⟩
  · rw [← hValue]
    exact Decimal.toRat_quantize hQuantize
  · obtain ⟨further, hFurther⟩ := hComplete other hOther
    obtain ⟨-, otherRoom, hOtherRoom, hOtherValue⟩ := hSound further other hFurther
    refine ⟨otherRoom, hOtherRoom, ?_⟩
    have hKey := hLeast (further, other) ((hMem _).mpr hFurther)
    rw [← hValue, ← hOtherValue]
    rcases Prod.Lex.le_iff.mp hKey with hLess | ⟨hSame, -⟩
    · exact hLess.le
    · exact hSame.le
  · have hNonneg : 0 ≤ value raw := by
      rw [hValue]
      exact roomBelow_nonneg hAtr hRoom
    exact Decimal.quantize_nonneg hNonneg hQuantize

/-! ### The selection -/

theorem structureOf_eq (distance : Decimal) : structureOf distance = structureFor (value distance) := by
  have hTwo : value (literal 20 (-1) : Decimal) = 2 := by
    rw [value_literal]
    norm_num
  have hOne : value (literal 10 (-1) : Decimal) = 1 := by
    rw [value_literal]
    norm_num
  rw [structureOf, structureFor, hTwo, hOne]

theorem isAllTimeHigh {top : DailyBar Decimal}
    (h : bars.argmax (fun bar => value bar.high.1) = some top) : IsAllTimeHigh bars top.high :=
  ⟨⟨top, List.argmax_mem h, rfl⟩, fun _ hBar =>
    List.le_of_mem_argmax (f := fun bar : DailyBar Decimal => value bar.high.1) hBar h⟩

theorem resistance_selected (hSentinel : 0 ≤ value config.blueSkySentinel)
    (h : dailyPivotClusterV1 bars price atr complete config = .ok audit) :
    IsAllTimeHigh bars audit.allTimeHighPrice ∧ ∃ valid, validClusters bars atr config = .ok valid ∧
      ResistanceSelected valid price atr complete config.blueSkySentinel audit := by
  have hAtr := atr_pos h
  obtain ⟨-, h⟩ := guard_eq_ok.mp h
  obtain ⟨-, h⟩ := guard_eq_ok.mp h
  obtain ⟨top, hTop, h⟩ := bind_eq_ok.mp h
  obtain ⟨topDate, -, h⟩ := bind_eq_ok.mp h
  obtain ⟨⟨pivots, synthetic⟩, hPivots, h⟩ := bind_eq_ok.mp h
  obtain ⟨found, hFound, h⟩ := bind_eq_ok.mp h
  obtain ⟨distances, hDistances, h⟩ := bind_eq_ok.mp h
  obtain ⟨nearest, hNearest, h⟩ := bind_eq_ok.mp h
  have hHigh := isAllTimeHigh (nonempty_eq_ok.mp hTop)
  have hValid : validClusters bars atr config = .ok (found.filter (·.Valid)) := by
    unfold validClusters
    exact bind_eq_ok.mpr ⟨_, hPivots, bind_eq_ok.mpr ⟨found, hFound, rfl⟩⟩
  have hZones : ∀ cluster ∈ found.filter (·.Valid),
      value cluster.zoneLow.1 ≤ value cluster.zoneHigh.1 := by
    intro cluster hMem
    exact zoneLow_le_zoneHigh_of_clustersFrom hFound cluster (List.mem_of_mem_filter hMem)
  obtain ⟨hSound, hComplete⟩ := distances_spec hAtr hZones hDistances
  unfold nearestResistance at hNearest
  split at hNearest
  · next raw selected hHead =>
    obtain rfl := Except.ok.inj hNearest
    obtain ⟨distance, hDistance, h⟩ := bind_eq_ok.mp h
    obtain rfl := Except.ok.inj h
    obtain ⟨hLeast, hNonneg⟩ :=
      leastRoom_of_head hAtr hZones hDistances hHead (arith_eq_ok.mp hDistance)
    have hAbove : above price (found.filter (·.Valid)) ≠ [] := by
      obtain ⟨cluster, hCluster, -⟩ := hLeast
      exact List.ne_nil_of_mem hCluster
    exact ⟨hHigh, _, hValid, fun _ => ⟨hLeast, rfl⟩, fun hNone => absurd hNone hAbove,
      fun hNone => absurd hNone hAbove, hNonneg, fun _ => structureOf_eq distance⟩
  · next hHead =>
    have hNone : above price (found.filter (·.Valid)) = [] := by
      refine List.eq_nil_iff_forall_not_mem.mpr fun cluster hCluster => ?_
      obtain ⟨distance, hDistance⟩ := hComplete cluster hCluster
      have hEligible : (distance, cluster) ∈ distances.filterMap id := by simpa using hDistance
      have hSorted : (distance, cluster) ∈ sortedBy eligibleKey (distances.filterMap id) :=
        mem_sortedBy.mpr hEligible
      rw [List.head?_eq_none_iff.mp hHead] at hSorted
      cases hSorted
    split_ifs at hNearest with hBelow
    · obtain ⟨room, hRoom, hNearest⟩ := bind_eq_ok.mp hNearest
      obtain rfl := Except.ok.inj hNearest
      obtain ⟨distance, hDistance, h⟩ := bind_eq_ok.mp h
      obtain rfl := Except.ok.inj h
      have hRoom := arith_eq_ok.mp hRoom
      have hQuantize := arith_eq_ok.mp hDistance
      have hNonneg : 0 ≤ value room := Decimal.div_nonneg (value_sub_pos hBelow).le hAtr hRoom
      exact ⟨hHigh, _, hValid, fun hSome => absurd hNone hSome,
        fun _ _ => ⟨⟨room, hRoom, Decimal.toRat_quantize hQuantize⟩, rfl⟩,
        fun _ hNot => absurd hBelow (not_lt.mpr hNot), Decimal.quantize_nonneg hNonneg hQuantize,
        fun _ => structureOf_eq distance⟩
    · obtain rfl := Except.ok.inj hNearest
      obtain ⟨hComplete', h⟩ := guard_eq_ok.mp h
      obtain rfl := Except.ok.inj h
      exact ⟨hHigh, _, hValid, fun hSome => absurd hNone hSome, fun _ hLess => absurd hLess hBelow,
        fun _ _ => ⟨rfl, rfl, Bool.eq_true_of_not_eq_false hComplete'⟩, hSentinel,
        fun hSentinel => nomatch hSentinel⟩

/-- With the default configuration the sentinel is ninety-nine. -/
theorem default_resistance_selected
    (h : dailyPivotClusterV1 bars price atr complete defaultConfig = .ok audit) :
    IsAllTimeHigh bars audit.allTimeHighPrice ∧
      ∃ valid, validClusters bars atr defaultConfig = .ok valid ∧
        ResistanceSelected valid price atr complete (literal 990 (-1)) audit := by
  have hSentinel : 0 ≤ value defaultConfig.blueSkySentinel := by decide +kernel
  exact resistance_selected hSentinel h

/-- Sixty days at 9.80, but for two touches of 10.50. -/
def twoTouches : List (DailyBar Decimal) :=
  (List.range 60).map fun i =>
    if i = 20 ∨ i = 40 then flatBar i ⟨.literal 1050 (-2), touched_pos⟩
    else flatBar i ⟨.literal 980 (-2), by decide +kernel⟩

theorem twoTouches_selected : ∃ audit,
    dailyPivotClusterV1 twoTouches (.ofInt 10) (.ofInt 1) true defaultConfig = .ok audit ∧
      IsAllTimeHigh twoTouches audit.allTimeHighPrice ∧
      ∃ valid, validClusters twoTouches (.ofInt 1) defaultConfig = .ok valid ∧
        ResistanceSelected valid (.ofInt 10) (.ofInt 1) true (literal 990 (-1)) audit := by
  have hReturns : (dailyPivotClusterV1 twoTouches (.ofInt 10) (.ofInt 1) true
      defaultConfig).isOk = true := by decide +kernel
  cases hAudit : dailyPivotClusterV1 twoTouches (.ofInt 10) (.ofInt 1) true defaultConfig with
  | ok audit => exact ⟨audit, rfl, default_resistance_selected hAudit⟩
  | error e =>
    rw [hAudit] at hReturns
    cases hReturns

end Daybreak.Features
