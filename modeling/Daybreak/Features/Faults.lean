import Daybreak.Features.Engine

/-! The exceptions of the ledger, of the joins and of the calculations on prices and
bars: nothing but `DataQualityError` and the signals of decimal operations. -/

namespace Daybreak.Features

open Contracts Daybreak.Order Effect Fallible Numeric DecimalArithmetic

variable {D : Type} [DecimalArithmetic D] {α : Type}

/-! ### Kinds of errors -/

def FeatureError.IsDataQuality : FeatureError → Prop
  | .dataQuality _ _ => True
  | .raised _ => False

/-- A data-quality error or the signal of a decimal operation. -/
def FeatureError.IsArithmetic : FeatureError → Prop
  | .dataQuality _ _ => True
  | .raised e => ∃ signal, e = .arithmeticError signal

/-- The loop catches what the computation raises. -/
abbrev Caught (x : FeatureResult α) : Prop := RaisesOnly FeatureError.IsDataQuality x

/-- A decimal operation signals: its result has more digits than the context. -/
def Signals (x : FeatureResult α) : Prop := ∃ signal, x = .error (.raised (.arithmeticError signal))

theorem caught_bind {β : Type} {x : FeatureResult α} {f : α → FeatureResult β} :
    Caught (x >>= f) ↔ Caught x ∧ ∀ a, x = .ok a → Caught (f a) := raisesOnly_bind

theorem caught_iff_not_signals {x : FeatureResult α}
    (h : RaisesOnly FeatureError.IsArithmetic x) : Caught x ↔ ¬ Signals x := by
  constructor
  · rintro hCaught ⟨signal, hSignal⟩
    exact hCaught _ hSignal
  · intro hNone e he
    cases e with
    | dataQuality => trivial
    | raised e =>
      obtain ⟨signal, rfl⟩ := h _ he
      exact hNone ⟨signal, he⟩

theorem arith_raises (x : Except DecimalSignal α) :
    RaisesOnly FeatureError.IsArithmetic (arith x) := by
  cases x with
  | ok a => exact raisesOnly_ok
  | error signal => exact raisesOnly_error.mpr ⟨signal, rfl⟩

theorem quantizeSix_raises (x : D) : RaisesOnly FeatureError.IsArithmetic (quantizeSix x) :=
  arith_raises _

/-! ### Arithmetic alone -/

theorem wilderAtr14_raises (bars : List (DailyBar D)) :
    RaisesOnly FeatureError.IsArithmetic (wilderAtr14 bars) := by
  refine .guard trivial fun _ => ?_
  refine .bind (arith_raises _) fun initial _ => ?_
  refine .bind (.foldlM (fun _ _ _ => arith_raises _) initial) fun atr _ => ?_
  exact .guard trivial fun _ => quantizeSix_raises atr

theorem premarketVwap_raises (trades : List (MaterializedTrade D)) :
    RaisesOnly FeatureError.IsArithmetic (premarketVwap trades) := by
  refine .guard trivial fun _ => ?_
  exact .bind (arith_raises _) fun vwap _ => quantizeSix_raises vwap

theorem gapPct_raises (price previousClose : D) :
    RaisesOnly FeatureError.IsArithmetic (gapPct price previousClose) := by
  refine .guard trivial fun _ => ?_
  exact .bind (arith_raises _) fun _ _ => quantizeSix_raises _

theorem distanceFromVwapAtr_raises (price vwap atr : D) :
    RaisesOnly FeatureError.IsArithmetic (distanceFromVwapAtr price vwap atr) := by
  refine .guard trivial fun _ => ?_
  exact .bind (arith_raises _) fun _ _ => quantizeSix_raises _

theorem selectFloatRecord_caught (records : List FloatRecord) (ticker : String)
    (snapshot : Timestamp) (config : FeatureEngineConfig D) :
    Caught (selectFloatRecord records ticker snapshot config) := by
  unfold selectFloatRecord
  simp only
  split
  · exact raisesOnly_error.mpr trivial
  · exact raisesOnly_ok

theorem selectCatalyst_raises (ofFloat : ℚ → D) (records : List CatalystRecord) (ticker : String)
    (snapshot : Timestamp) :
    RaisesOnly FeatureError.IsArithmetic (selectCatalyst ofFloat records ticker snapshot) := by
  unfold selectCatalyst
  simp only
  split
  · exact raisesOnly_error.mpr trivial
  · refine .guard trivial fun _ => ?_
    refine .bind (arith_raises _) fun hours _ => ?_
    exact .bind (quantizeSix_raises hours) fun _ _ => raisesOnly_pure

theorem currentPrice_caught (trades : List (MaterializedTrade D)) :
    Caught (currentPrice trades) := by
  unfold currentPrice
  split
  · exact raisesOnly_error.mpr trivial
  · exact raisesOnly_ok

theorem currentPrice_ne_nil {trades : List (MaterializedTrade D)} {price : PositiveDecimal D}
    (h : currentPrice trades = .ok price) : trades ≠ [] := by
  rintro rfl
  cases h

theorem premarketLow_caught (trades : List (MaterializedTrade D)) :
    Caught (premarketLow trades) := by
  unfold premarketLow
  split
  · exact raisesOnly_error.mpr trivial
  · exact raisesOnly_ok

/-! ### The ledger -/

/-- The two errors of a round of the loop. -/
def FeatureError.IsLedger : FeatureError → Prop
  | .dataQuality code _ => code = .duplicateTradeId ∨ code = .unknownOriginalTrade
  | .raised _ => False

theorem FeatureError.IsLedger.isDataQuality {e : FeatureError} (h : e.IsLedger) :
    e.IsDataQuality := by
  cases e with
  | dataQuality => trivial
  | raised => exact h

theorem activate_raises (s : LedgerState D) {event : TradeLedgerEvent D}
    (hPrice : event.price.isSome) (hSize : event.size.isSome) :
    RaisesOnly FeatureError.IsLedger (s.activate event) := by
  obtain ⟨price, hPrice⟩ := Option.isSome_iff_exists.mp hPrice
  obtain ⟨size, hSize⟩ := Option.isSome_iff_exists.mp hSize
  unfold LedgerState.activate
  rw [hPrice, hSize]
  exact raisesOnly_ok

theorem applyNew_raises (s : LedgerState D) {event : TradeLedgerEvent D}
    (hPrice : event.price.isSome) (hSize : event.size.isSome) :
    RaisesOnly FeatureError.IsLedger (s.applyNew event) := by
  unfold LedgerState.applyNew
  split_ifs
  · exact raisesOnly_error.mpr (.inl rfl)
  · exact activate_raises _ hPrice hSize
  · exact raisesOnly_ok

theorem applyRevision_raises (s : LedgerState D) {event : TradeLedgerEvent D} (original : String)
    (hFields : event.action = .cancel ∨ (event.price.isSome ∧ event.size.isSome)) :
    RaisesOnly FeatureError.IsLedger (s.applyRevision event original) := by
  unfold LedgerState.applyRevision
  simp only
  split
  · exact raisesOnly_error.mpr (.inr rfl)
  · split_ifs with hDone
    · exact raisesOnly_ok
    · obtain ⟨hPrice, hSize⟩ := hFields.resolve_left (not_or.mp hDone).1
      exact activate_raises _ hPrice hSize

/-- The assertions of the loop hold of valid events. -/
theorem apply_raises (s : LedgerState D) (event : TradeLedgerEvent D) :
    RaisesOnly FeatureError.IsLedger (s.apply event) := by
  have hValid := event.valid.2
  unfold LedgerState.apply
  cases hAction : event.action with
  | new =>
    simp only [hAction] at hValid
    exact applyNew_raises s hValid.1 hValid.2.1
  | correction =>
    simp only [hAction] at hValid
    obtain ⟨original, hOriginal⟩ := Option.isSome_iff_exists.mp hValid.1
    rw [hOriginal]
    exact applyRevision_raises s original (.inr hValid.2)
  | cancel =>
    simp only [hAction] at hValid
    obtain ⟨original, hOriginal⟩ := Option.isSome_iff_exists.mp hValid
    rw [hOriginal]
    exact applyRevision_raises s original (.inl hAction)

theorem materializeTrades_caught (events : List (TradeLedgerEvent D)) :
    Caught (materializeTrades events) := by
  refine .guard trivial fun _ => ?_
  refine .bind (.foldlM (fun s event _ => ?_) _) fun _ _ => raisesOnly_pure
  exact (apply_raises s event).mono fun _ h => h.isDataQuality

/-! ### Resistance -/

theorem nonempty_eq_ok {o : Option α} {a : α} : nonempty o = .ok a ↔ o = some a := by
  cases o <;> simp [nonempty]

theorem nonempty_raises {allowed : FeatureError → Prop} {o : Option α} (h : o ≠ none) :
    RaisesOnly allowed (nonempty o) := by
  obtain ⟨a, rfl⟩ := Option.ne_none_iff_exists'.mp h
  exact raisesOnly_ok

theorem argmax_raises {β : Type} [LinearOrder β] {allowed : FeatureError → Prop} {f : α → β}
    {xs : List α} (h : xs ≠ []) : RaisesOnly allowed (nonempty (xs.argmax f)) :=
  nonempty_raises (mt List.argmax_eq_none.mp h)

theorem argmin_raises {β : Type} [LinearOrder β] {allowed : FeatureError → Prop} {f : α → β}
    {xs : List α} (h : xs ≠ []) : RaisesOnly allowed (nonempty (xs.argmin f)) :=
  nonempty_raises (mt List.argmin_eq_none.mp h)

/-- The bars with the highest high. -/
theorem tops_ne_nil {bars : List (DailyBar D)} {top : DailyBar D}
    (h : bars.argmax (fun bar => value bar.high.1) = some top) :
    bars.filter (fun bar => value bar.high.1 = value top.high.1) ≠ [] := by
  refine List.ne_nil_of_mem (a := top) (List.mem_filter.mpr ⟨List.argmax_mem h, ?_⟩)
  exact decide_eq_true rfl

theorem pivotCandidates_raises {bars : List (DailyBar D)} (h : bars ≠ []) :
    RaisesOnly FeatureError.IsArithmetic (pivotCandidates bars) := by
  refine .bind (argmax_raises h) fun top hTop => ?_
  refine .bind (argmax_raises (tops_ne_nil (nonempty_eq_ok.mp hTop))) fun _ _ => ?_
  simp only
  split_ifs
  · exact raisesOnly_pure
  · exact raisesOnly_pure

theorem pivotAt_date {bars : List (DailyBar D)} {index : ℕ} {pivot : Pivot D}
    (h : pivotAt bars index = some pivot) : pivot.sessionDate ∈ bars.map (·.sessionDate) := by
  unfold pivotAt at h
  simp only at h
  split at h
  · cases h
  · next bar hBar =>
    split_ifs at h
    obtain rfl := Option.some.inj h
    exact List.mem_map_of_mem (List.mem_of_getElem? hBar)

/-- A pivot is on the date of a bar. -/
theorem pivotCandidates_dates {bars : List (DailyBar D)} {pivots : List (Pivot D)}
    {synthetic : Bool} (h : pivotCandidates bars = .ok (pivots, synthetic)) :
    ∀ pivot ∈ pivots, pivot.sessionDate ∈ bars.map (·.sessionDate) := by
  have hFound : ∀ pivot ∈ (List.range' FeatureEngineConfig.pivotLeftWidth
      (bars.length - FeatureEngineConfig.pivotRightWidth -
        FeatureEngineConfig.pivotLeftWidth)).filterMap (pivotAt bars),
      pivot.sessionDate ∈ bars.map (·.sessionDate) := by
    intro pivot hPivot
    obtain ⟨_, -, hPivot⟩ := List.mem_filterMap.mp hPivot
    exact pivotAt_date hPivot
  unfold pivotCandidates at h
  obtain ⟨top, -, h⟩ := bind_eq_ok.mp h
  obtain ⟨representative, hRepresentative, h⟩ := bind_eq_ok.mp h
  have hBar : representative.sessionDate ∈ bars.map (·.sessionDate) := by
    have hTop := List.argmax_mem (nonempty_eq_ok.mp hRepresentative)
    exact List.mem_map_of_mem (List.mem_of_mem_filter hTop)
  simp only at h
  split_ifs at h
  · obtain ⟨rfl, -⟩ := Prod.mk.inj (Except.ok.inj h)
    intro pivot hPivot
    rcases List.mem_append.mp hPivot with hPivot | hPivot
    · exact hFound pivot hPivot
    · obtain rfl := List.mem_singleton.mp hPivot
      exact hBar
  · obtain ⟨rfl, -⟩ := Prod.mk.inj (Except.ok.inj h)
    intro pivot hPivot
    obtain ⟨found, hMem, rfl⟩ := List.mem_map.mp hPivot
    exact hFound found hMem

/-- One member is kept for each date. -/
theorem mem_of_mem_uniqueByDate {members : List (Pivot D)} {pivot : Pivot D}
    (h : pivot ∈ uniqueByDate members) : pivot ∈ members := by
  let Kept (d : Dict Day (Pivot D)) : Prop := ∀ entry ∈ d.entries, entry.2 ∈ members
  have hKept : Kept (members.foldl (fun d p => d.insert p.sessionDate p) ∅) := by
    refine List.foldlRecOn (motive := Kept) members _ ?_ fun d hd p hp entry hEntry => ?_
    · intro entry hEntry
      exact absurd hEntry List.not_mem_nil
    · rcases Dict.mem_entries_insert hEntry with rfl | hEntry
      · exact hp
      · exact hd entry hEntry
  obtain ⟨entry, hEntry, rfl⟩ := List.mem_map.mp (mem_sortedBy.mp h)
  exact hKept entry hEntry

theorem uniqueByDate_ne_nil {members : List (Pivot D)} (h : members ≠ []) :
    uniqueByDate members ≠ [] := by
  have hEntries : (members.foldl (fun d p => d.insert p.sessionDate p)
      (∅ : Dict Day (Pivot D))).entries ≠ [] := by
    obtain ⟨earlier, last, rfl⟩ := (List.eq_nil_or_concat members).resolve_left h
    rw [List.concat_eq_append, List.foldl_append, List.foldl_cons, List.foldl_nil,
      AList.entries_insert]
    exact List.cons_ne_nil _ _
  unfold uniqueByDate
  rw [Ne, ← List.length_eq_zero_iff, length_sortedBy, List.length_map, List.length_eq_zero_iff]
  exact hEntries

section Halving

variable {allowed : FeatureError → Prop}
  (hHalf : ∀ x : D, RaisesOnly allowed (arith (div x (ofInt 2))))

include hHalf

theorem median_raises {sorted : List D} (h : sorted ≠ []) :
    RaisesOnly allowed (median sorted) := by
  have hLength : 0 < sorted.length := List.length_pos_iff.mpr h
  have hMiddle : sorted.length / 2 < sorted.length := Nat.div_lt_self hLength (by norm_num)
  have hBelow : sorted.length / 2 - 1 < sorted.length := by omega
  unfold median
  simp only
  split_ifs
  · exact nonempty_raises (by simp [hMiddle])
  · refine .bind (nonempty_raises (by simp [hBelow])) fun _ _ => ?_
    exact .bind (nonempty_raises (by simp [hMiddle])) fun _ _ => hHalf _

theorem clusterOf_raises {dates : List Day} (sequence : ℕ) (anchor : Pivot D)
    {members : List (Pivot D)} (h : members ≠ [])
    (hDates : ∀ pivot ∈ members, pivot.sessionDate ∈ dates) :
    RaisesOnly allowed (clusterOf dates sequence anchor members) := by
  have hUnique := uniqueByDate_ne_nil h
  have hPrices : (uniqueByDate members).map (·.price) ≠ [] := by simpa using hUnique
  have hSorted : (sortedBy (fun price : PositiveDecimal D => value price.1)
      ((uniqueByDate members).map (·.price))).map (·.1) ≠ [] := by
    rw [Ne, ← List.length_eq_zero_iff, List.length_map, length_sortedBy, List.length_eq_zero_iff]
    exact hPrices
  refine .bind (median_raises hHalf hSorted) fun _ _ => ?_
  refine .bind (argmax_raises (by simpa using hUnique)) fun mostRecent hRecent => ?_
  refine .bind (argmin_raises hPrices) fun _ _ => ?_
  refine .bind (argmax_raises hPrices) fun _ _ => ?_
  -- the most recent touch is on a date of the bars
  have hAge : dates.reverse.idxOf? mostRecent ≠ none := by
    obtain ⟨pivot, hPivot, rfl⟩ := List.mem_map.mp (List.argmax_mem (nonempty_eq_ok.mp hRecent))
    rw [Ne, List.idxOf?_eq_none_iff, List.mem_reverse, not_not]
    exact hDates pivot (mem_of_mem_uniqueByDate hPivot)
  split
  · next hNone => exact absurd hNone hAge
  · exact raisesOnly_pure

theorem clustersFrom_raises {dates : List Day} (tolerance : D) (fuel sequence : ℕ)
    {pivots : List (Pivot D)} (hDates : ∀ pivot ∈ pivots, pivot.sessionDate ∈ dates) :
    RaisesOnly allowed (clustersFrom dates tolerance fuel sequence pivots) := by
  induction fuel generalizing sequence pivots with
  | zero => exact raisesOnly_pure
  | succ fuel ih =>
    cases pivots with
    | nil => exact raisesOnly_pure
    | cons anchor rest =>
      obtain ⟨hAnchor, hRest⟩ := List.forall_mem_cons.mp hDates
      refine .bind (clusterOf_raises hHalf sequence anchor (List.cons_ne_nil _ _) ?_)
        fun cluster _ => ?_
      · refine List.forall_mem_cons.mpr ⟨hAnchor, fun pivot hPivot => ?_⟩
        exact hRest pivot (List.mem_of_mem_filter hPivot)
      · refine .bind (ih (sequence + 1) fun pivot hPivot => ?_) fun _ _ => raisesOnly_pure
        exact hRest pivot (List.mem_of_mem_filter hPivot)

end Halving

theorem eligibleDistance_raises (currentPrice atr : D) (cluster : Cluster D) :
    RaisesOnly FeatureError.IsArithmetic (eligibleDistance currentPrice atr cluster) := by
  unfold eligibleDistance
  split_ifs
  · exact .bind (arith_raises _) fun _ _ => raisesOnly_pure
  · exact raisesOnly_pure
  · exact raisesOnly_pure

theorem nearestResistance_raises (eligible : List (D × Cluster D)) (allTimeHigh currentPrice atr : D) :
    RaisesOnly FeatureError.IsArithmetic
      (nearestResistance eligible allTimeHigh currentPrice atr) := by
  unfold nearestResistance
  split
  · exact raisesOnly_ok
  · split_ifs
    · exact .bind (arith_raises _) fun _ _ => raisesOnly_pure
    · exact raisesOnly_ok

theorem dailyPivotClusterV1_raises (bars : List (DailyBar D)) (currentPrice atr : D)
    (complete : Bool) (config : FeatureEngineConfig D) :
    RaisesOnly FeatureError.IsArithmetic
      (dailyPivotClusterV1 bars currentPrice atr complete config) := by
  refine .guard trivial fun hEnough => ?_
  refine .guard trivial fun _ => ?_
  have hLength : 0 < bars.length := by
    have hMinimum := config.history_min
    omega
  have hBars : bars ≠ [] := List.length_pos_iff.mp hLength
  have hRecent : bars.drop (bars.length -
      min FeatureEngineConfig.clusterLookbackSessions bars.length) ≠ [] := by
    rw [Ne, ← List.length_eq_zero_iff, List.length_drop]
    unfold FeatureEngineConfig.clusterLookbackSessions
    omega
  refine .bind (argmax_raises hBars) fun top hTop => ?_
  refine .bind (argmax_raises ?_) fun _ _ => ?_
  · rw [Ne, List.map_eq_nil_iff]
    exact tops_ne_nil (nonempty_eq_ok.mp hTop)
  refine .bind (pivotCandidates_raises hRecent) fun found hFound => ?_
  obtain ⟨pivots, synthetic⟩ := found
  refine .bind (clustersFrom_raises (fun _ => arith_raises _) _ _ _ fun pivot hPivot => ?_)
    fun clusters _ => ?_
  · exact pivotCandidates_dates hFound pivot (mem_sortedBy.mp hPivot)
  refine .bind (.mapM fun cluster _ => eligibleDistance_raises _ _ cluster) fun distances _ => ?_
  refine .bind (nearestResistance_raises _ _ _ _) fun nearest _ => ?_
  cases nearest with
  | none => exact .guard trivial fun _ => raisesOnly_pure
  | some nearest => exact .bind (arith_raises _) fun _ _ => raisesOnly_pure

end Daybreak.Features
