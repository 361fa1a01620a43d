import Daybreak.Features.CoreFeatures

/-! The daily pivot clusters above the price of a candidate, and its distance to the
nearest of them. -/

namespace Daybreak.Features

open Contracts Daybreak.Order Effect Numeric DecimalArithmetic

variable {D : Type} [DecimalArithmetic D]

structure Pivot (D : Type) [DecimalArithmetic D] where
  sessionDate : Day
  price : PositiveDecimal D
  confirmed : Bool
  lookbackHigh : Bool

structure Cluster (D : Type) [DecimalArithmetic D] where
  sequence : ℕ
  anchor : PositiveDecimal D
  members : List (Pivot D)
  zoneLow : PositiveDecimal D
  zoneHigh : PositiveDecimal D
  zoneCenter : D
  touchDates : List Day
  mostRecentTouchAge : ℕ
  containsLookbackHigh : Bool

/-- `max(...)` and `min(...)` of a generator, which raise on an empty one. -/
def nonempty {α : Type} : Option α → FeatureResult α
  | some a => .ok a
  | none => .error (.raised (.valueError "iterable argument is empty"))

/-! ### Pivots -/

/-- The price exceeds the high of every bar. -/
def Exceeds (price : PositiveDecimal D) (bars : List (DailyBar D)) : Prop :=
  ∀ bar ∈ bars, value bar.high.1 < value price.1

instance (price : PositiveDecimal D) (bars : List (DailyBar D)) : Decidable (Exceeds price bars) :=
  inferInstanceAs (Decidable (∀ _ ∈ _, _))

/-- The bar at an index is a pivot where its high exceeds those of the bars beside it. -/
def pivotAt (bars : List (DailyBar D)) (index : ℕ) : Option (Pivot D) :=
  let left := FeatureEngineConfig.pivotLeftWidth
  let right := FeatureEngineConfig.pivotRightWidth
  match bars[index]? with
  | none => none
  | some bar =>
    if Exceeds bar.high ((bars.drop (index - left)).take left) ∧
        Exceeds bar.high ((bars.drop (index + 1)).take right) then
      some ⟨bar.sessionDate, bar.high, true, false⟩
    else none

def pivotCandidates (bars : List (DailyBar D)) : FeatureResult (List (Pivot D) × Bool) := do
  let left := FeatureEngineConfig.pivotLeftWidth
  let right := FeatureEngineConfig.pivotRightWidth
  let pivots := (List.range' left (bars.length - right - left)).filterMap (pivotAt bars)
  let maxPrice ← nonempty (bars.argmax fun bar => value bar.high.1)
  let tops := bars.filter fun bar => value bar.high.1 = value maxPrice.high.1
  let representative ← nonempty (tops.argmax (·.sessionDate))
  let synthetic := !pivots.any (·.sessionDate == representative.sessionDate)
  if synthetic then
    return (pivots ++ [⟨representative.sessionDate, representative.high, false, true⟩], true)
  else
    return (pivots.map fun p =>
      { p with lookbackHigh := p.sessionDate == representative.sessionDate }, false)

/-! ### Clusters -/

/-- `statistics.median` of sorted data. -/
def median (sorted : List D) : FeatureResult D :=
  let middle := sorted.length / 2
  if sorted.length % 2 = 1 then nonempty sorted[middle]?
  else do
    let below ← nonempty sorted[middle - 1]?
    let above ← nonempty sorted[middle]?
    arith (div (add below above) (ofInt 2))

/-- `{member.session_date: member for member in members}`, sorted by date. -/
def uniqueByDate (members : List (Pivot D)) : List (Pivot D) :=
  let byDate : Dict Day (Pivot D) := members.foldl (fun d p => d.insert p.sessionDate p) ∅
  sortedBy (·.sessionDate) (byDate.entries.map (·.2))

/-- The cluster of an anchor and its members; `dates` are those of the bars, the
latest of which has age zero. -/
def clusterOf (dates : List Day) (sequence : ℕ) (anchor : Pivot D) (members : List (Pivot D)) :
    FeatureResult (Cluster D) := do
  let uniqueMembers := uniqueByDate members
  let prices := uniqueMembers.map (·.price)
  let touchDates := uniqueMembers.map (·.sessionDate)
  let center ← median ((sortedBy (fun price => value price.1) prices).map (·.1))
  let mostRecent ← nonempty (touchDates.argmax id)
  let zoneLow ← nonempty (prices.argmin fun price => value price.1)
  let zoneHigh ← nonempty (prices.argmax fun price => value price.1)
  match dates.reverse.idxOf? mostRecent with
  | none => throw (.raised (.other "KeyError"))
  | some age => return {
      sequence := sequence
      anchor := anchor.price
      members := uniqueMembers
      zoneLow := zoneLow
      zoneHigh := zoneHigh
      zoneCenter := center
      touchDates := touchDates
      mostRecentTouchAge := age
      containsLookbackHigh := uniqueMembers.any (·.lookbackHigh) }

/-- The loop over the sorted pivots: the first one that is not assigned anchors a
cluster, and a round assigns it and every later one within the tolerance. -/
def clustersFrom (dates : List Day) (tolerance : D) :
    ℕ → ℕ → List (Pivot D) → FeatureResult (List (Cluster D))
  | 0, _, _ => return []
  | _, _, [] => return []
  | fuel + 1, sequence, anchor :: rest => do
    let near := fun candidate : Pivot D =>
      decide (value (sub anchor.price.1 candidate.price.1) ≤ value tolerance)
    let cluster ← clusterOf dates sequence anchor (anchor :: rest.filter near)
    let others ← clustersFrom dates tolerance fuel (sequence + 1) (rest.filter (!near ·))
    return cluster :: others

/-- `(-item.price, item.session_date)` -/
def Pivot.priceKey (pivot : Pivot D) : ℚ ×ₗ Day :=
  toLex (value (neg pivot.price.1), pivot.sessionDate)

def clusters (pivots : List (Pivot D)) (bars : List (DailyBar D)) (atr : D)
    (config : FeatureEngineConfig D) : FeatureResult (List (Cluster D)) :=
  let tolerance := mul config.clusterToleranceAtr atr
  let sortedPivots := sortedBy Pivot.priceKey pivots
  clustersFrom (bars.map (·.sessionDate)) tolerance sortedPivots.length 1 sortedPivots

/-! ### The nearest resistance -/

/-- Two touches or the lookback high, and not stale. -/
def Cluster.Valid (cluster : Cluster D) : Prop :=
  (2 ≤ cluster.touchDates.length ∨ cluster.containsLookbackHigh = true) ∧
    ¬ (FeatureEngineConfig.clusterRecencySessions < cluster.mostRecentTouchAge ∧
      cluster.touchDates.length < 3)

instance (cluster : Cluster D) : Decidable cluster.Valid := inferInstanceAs (Decidable (_ ∧ _))

/-- A cluster above the price, or around it, with its distance. -/
def eligibleDistance (currentPrice atr : D) (cluster : Cluster D) :
    FeatureResult (Option (D × Cluster D)) := do
  if value currentPrice < value cluster.zoneLow.1 then
    let distance ← arith (div (sub cluster.zoneLow.1 currentPrice) atr)
    return some (distance, cluster)
  else if value currentPrice ≤ value cluster.zoneHigh.1 then return some (ofInt 0, cluster)
  else return none

def eligibleKey (pair : D × Cluster D) : ℚ ×ₗ ℤ ×ₗ ℤ ×ₗ ℚ ×ₗ ℕ :=
  toLex (value pair.1, toLex (-(pair.2.touchDates.getLast?.getD 0),
    toLex (-(pair.2.touchDates.length : ℤ), toLex (value pair.2.zoneLow.1, pair.2.sequence))))

/-- The nearest eligible cluster, or else the all-time high above the price, with the
distance; nothing where the price is above all of them. -/
def nearestResistance (eligible : List (D × Cluster D)) (allTimeHigh currentPrice atr : D) :
    FeatureResult (Option (ResistanceSource × Option (Cluster D) × D)) :=
  match (sortedBy eligibleKey eligible).head? with
  | some (distance, cluster) => .ok (some (.pivotCluster, some cluster, distance))
  | none =>
    if value currentPrice < value allTimeHigh then do
      let distance ← arith (div (sub allTimeHigh currentPrice) atr)
      return some (.allTimeHighFallback, none, distance)
    else .ok none

/-- The structure that a quantized distance stands for. -/
def structureOf (distance : D) : ChartStructure :=
  if value (literal 20 (-1) : D) < value distance then .cleanShortTerm
  else if value (literal 10 (-1) : D) ≤ value distance then .moderateRoom
  else .capped

def dailyPivotClusterV1 (bars : List (DailyBar D)) (currentPrice atr : D)
    (historyCompleteSinceListing : Bool) (config : FeatureEngineConfig D) :
    FeatureResult (ResistanceAudit D) := do
  if bars.length < config.minDailyHistory then
    throw (.dataQuality .insufficientDailyHistory "fewer than 30 completed daily bars")
  if value atr ≤ 0 then throw (.dataQuality .invalidAtr "ATR must be positive")
  let lookback := min FeatureEngineConfig.clusterLookbackSessions bars.length
  let clusterBars := bars.drop (bars.length - lookback)
  let top ← nonempty (bars.argmax fun bar => value bar.high.1)
  let allTimeHigh := top.high
  let topDates := (bars.filter fun bar => value bar.high.1 = value allTimeHigh.1).map (·.sessionDate)
  let allTimeHighDate ← nonempty (topDates.argmax id)
  let (pivots, synthetic) ← pivotCandidates clusterBars
  let found ← clusters pivots clusterBars atr config
  let valid := found.filter (·.Valid)
  let distances ← valid.mapM (eligibleDistance currentPrice atr)
  let nearest ← nearestResistance (distances.filterMap id) allTimeHigh.1 currentPrice atr
  let confirmedPivotCount := pivots.countP (·.confirmed)
  match nearest with
  | none =>
    if historyCompleteSinceListing = false then
      throw (.dataQuality .incompleteHistoryForBlueSkyCheck
        "cannot assign blue_sky without complete listing history")
    return {
      availableCompletedBars := bars.length
      clusterLookbackBars := clusterBars.length
      allTimeHighPrice := allTimeHigh
      allTimeHighDate := allTimeHighDate
      confirmedPivotCount := confirmedPivotCount
      syntheticLookbackHighAdded := synthetic
      validClusterCount := valid.length
      selectedResistanceSource := .noneAboveAllTimeHigh
      distanceToResistanceAtr := config.blueSkySentinel
      chartStructure := .blueSky
      isBlueSkySentinel := true }
  | some (source, selected, rawDistance) =>
    let distance ← arith (quantize .halfEven (-FeatureEngineConfig.distanceDecimalPlaces) rawDistance)
    return {
      availableCompletedBars := bars.length
      clusterLookbackBars := clusterBars.length
      allTimeHighPrice := allTimeHigh
      allTimeHighDate := allTimeHighDate
      confirmedPivotCount := confirmedPivotCount
      syntheticLookbackHighAdded := synthetic
      validClusterCount := valid.length
      selectedResistanceSource := source
      selectedZoneLow := selected.map (·.zoneLow.1)
      selectedZoneHigh := selected.map (·.zoneHigh.1)
      selectedZoneCenter := selected.map (·.zoneCenter)
      selectedTouchCount := selected.map (·.touchDates.length)
      selectedTouchDates := (selected.map (·.touchDates)).getD []
      rawDistance := some rawDistance
      distanceToResistanceAtr := distance
      chartStructure := structureOf distance
      isBlueSkySentinel := false }

end Daybreak.Features
