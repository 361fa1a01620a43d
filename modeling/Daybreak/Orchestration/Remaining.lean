import Daybreak.Orchestration.Completeness
import Daybreak.Orchestration.Ownership

/-! What remains after a flatten run in which nothing was raised. A target is read as the
whole quantity of the account, up to that of the target, so that shares of its symbol that
Daybreak does not own go on being read once everything that was submitted has filled. -/

namespace Daybreak.Orchestration

open Numeric DecimalArithmetic Effect AlpacaPaperOperations

variable {β D : Type} [DecimalArithmetic D]

/-! ### Runs in which nothing was raised -/

section Run

variable {ops : SessionBrokerOperations β D} {timing : Timing β} {polls : ℕ} {plan : SessionPlan}
  {now deadline : Timestamp} {targets : List (ManagedPositionTarget D)} {run run' : FlattenRun β D}
  {position : SessionPosition D} {positions remaining left : List (SessionPosition D)}
  {start : FlattenLog β D} {result : FlattenResult D}

theorem ClosesUncovered.succeeds (h : ClosesUncovered position run run')
    (hRun : run.errors = [] → AllSucceed run.log) (hErrors : run'.errors = []) :
    AllSucceed run'.log := by
  cases h with
  | covered => exact hRun hErrors
  | accepted => exact allSucceed_append.mpr ⟨hRun hErrors, trivial⟩
  | raised => exact absurd hErrors (List.append_ne_nil_of_right_ne_nil _ (List.cons_ne_nil _ _))

theorem ClosesAll.succeeds (h : ClosesAll positions run run')
    (hRun : run.errors = [] → AllSucceed run.log) (hErrors : run'.errors = []) :
    AllSucceed run'.log := by
  induction h with
  | nil => exact hRun hErrors
  | cons first _ ih => exact ih (first.succeeds hRun) hErrors

/-- A close that raises is an error of the run. -/
theorem flattenInvariant_succeeds (ops : SessionBrokerOperations β D)
    (targets : List (ManagedPositionTarget D)) :
    FlattenInvariant ops targets fun run => run.errors = [] → AllSucceed run.log where
  unlogged hErrors hRun hNone := hRun (List.prefix_nil.mp (hNone ▸ hErrors))
  idle hIdle hRun hNone := allSucceed_append.mpr ⟨hRun hNone, hIdle.2.2⟩
  poll hRun := hRun
  read _ hCloses hRun :=
    hCloses.succeeds fun hNone => allSucceed_append.mpr ⟨hRun hNone, trivial⟩

/-- A run for some targets in which nothing was raised: it is complete if nothing was read
last, and it has read the targets before it closed any. -/
theorem flattenTargets_ends
    (h : (flattenTargets ops timing polls plan now targets).exec run = (.ok (some result), run'))
    (hErrors : result.errors = []) :
    run'.errors = [] ∧ (result.complete = true ↔ lastReading run'.log = []) ∧
      ∃ canceled before positions listed,
        run.log ++ [(.cancel canceled, before)] ++ [(.list targets (.ok positions), listed)] <+:
          run'.log := by
  have hRead : ReadingEstablishes ops targets fun left log => left = lastReading log := by
    intro run run' broker positions _ hCloses
    have hReading := hCloses.onlyCloses.lastReading
    rw [lastReading_append] at hReading
    exact hReading.symm
  obtain ⟨hSame, hComplete, hLeaves⟩ := flattenTargets_leaves hRead h
  have hNone : run'.errors = [] := hSame.symm.trans hErrors
  obtain ⟨hRemaining, hLog⟩ := hLeaves hNone
  refine ⟨hNone, ?_, hLog⟩
  rw [hComplete, hErrors, ← hRemaining]
  simp

/-- A run in which nothing was raised: it is complete if nothing was read last, every close was
accepted, and the merged targets were read before any was closed. -/
theorem flatten_ends {managedQuantities : List (String × RawQuantity D)} {b : β}
    (h : (flatten ops timing polls plan now managedQuantities).exec (.start b) =
      (.ok (some result), run)) (hErrors : result.errors = []) :
    (result.complete = true ↔ lastReading run.log = []) ∧ AllSucceed run.log ∧
      ∃ before targets positions broker after,
        mergeTargets (discoveredTargets ops plan b) managedQuantities = .ok targets ∧
        (∀ symbol, submittedTo before symbol = 0) ∧
        run.log = before ++ (.list targets (.ok positions), broker) :: after := by
  rw [flatten, Program.exec_bind, exec_request] at h
  simp only at h
  obtain ⟨discovered, found, hFound, h⟩ := Program.exec_bind_ok.mp h
  obtain ⟨targets, merged, hMerge, h⟩ := Program.exec_bind_ok.mp h
  rw [Program.exec_ofExcept] at hMerge
  obtain ⟨hMerged, rfl⟩ := Prod.mk.inj hMerge
  obtain ⟨hRun, hComplete, canceled, canceler, positions, broker, after, hLog⟩ :=
    flattenTargets_ends h hErrors
  rcases orDefault_ok hFound with ⟨hDiscovered, rfl⟩ | ⟨-, hRaised, -⟩
  · have hStart : AllSucceed ([] : FlattenLog β D) := fun _ hEntry => absurd hEntry List.not_mem_nil
    have hSucceeds := (flattenInvariant_succeeds ops targets).maintains_flattenTargets timing polls
      plan now |>.of_exec h fun _ => allSucceed_append.mpr ⟨hStart, trivial⟩
    refine ⟨hComplete, hSucceeds hRun, [(.discover (ops.discoverDaybreakTargets plan b).1,
      (ops.discoverDaybreakTargets plan b).2), (.cancel canceled, canceler)], targets, positions,
      broker, after, ?_, ?_, hLog.symm⟩
    · rw [discoveredTargets, show (ops.discoverDaybreakTargets plan b).1 = .ok discovered from
        hDiscovered]
      exact hMerged
    · intro symbol
      simp [submittedTo, OperationCall.submitted, OperationCall.accepted]
  · have hKept := (flattenInvariant_errors ops targets).maintains_flattenTargets timing polls plan
      now |>.of_exec h hRaised
    exact absurd hRun hKept

end Run

/-! ### The last listing -/

/-- The last listing that was answered, with the broker then. -/
def lastListing (log : FlattenLog β D) : Option (List (SessionPosition D) × β) :=
  (log.filterMap fun entry => entry.1.positions.map fun positions => (positions, entry.2)).getLast?

theorem lastListing_readings (log : FlattenLog β D) :
    (lastListing log).map (·.1) = (readings log).getLast? := by
  rw [lastListing, ← List.getLast?_map, List.map_filterMap, readings]
  simp only [Option.map_map, Function.comp_def, Option.map_id']

theorem lastListing_listed {log : FlattenLog β D} {listing : List (SessionPosition D) × β}
    (h : lastListing log = some listing) :
    lastReading log = listing.1 ∧
      ∃ targets, (.list targets (.ok listing.1), listing.2) ∈ log := by
  constructor
  · rw [lastReading, ← lastListing_readings, h]
    rfl
  · obtain ⟨⟨call, broker⟩, hEntry, hPositions⟩ :=
      List.mem_filterMap.mp (List.mem_of_getLast? h)
    obtain ⟨positions, hRead, rfl⟩ := Option.map_eq_some_iff.mp hPositions
    obtain ⟨targets, rfl⟩ := OperationCall.positions_eq_some.mp hRead
    exact ⟨targets, hEntry⟩

theorem exists_lastListing {log : FlattenLog β D} {targets : List (ManagedPositionTarget D)}
    {positions : List (SessionPosition D)} {broker : β}
    (h : (.list targets (.ok positions), broker) ∈ log) :
    ∃ listing, lastListing log = some listing := by
  have hListing : (positions, broker) ∈ log.filterMap fun entry =>
      entry.1.positions.map fun positions => (positions, entry.2) :=
    List.mem_filterMap.mpr ⟨_, h, rfl⟩
  exact ⟨_, List.getLast?_eq_some_getLast (List.ne_nil_of_mem hListing)⟩

/-! ### What the account holds -/

/-- What is answered of a position is what the account holds of its symbol. -/
structure AlpacaApi.Shows (api : AlpacaApi β D) (held : β → String → ℚ) : Prop where
  missing : ∀ b symbol, api.Flat b symbol → held b symbol = 0
  found : ∀ b symbol raw quantity, api.position b symbol = .ok (some raw) →
    raw.qty.getD (ofInt 0) = .ok quantity →
    raw.symbol.str = symbol ∧ value (abs quantity) = held b symbol

/-- The account changes only by the fills of the closes of a run: whenever the positions are
listed, what it has lost is what has filled of the closes that were submitted. -/
def OnlyClosesFill (held filled : β → String → ℚ) (b : β) (log : FlattenLog β D) : Prop :=
  ∀ before targets positions broker after,
    log = before ++ (.list targets (.ok positions), broker) :: after → ∀ symbol,
      held broker symbol = held b symbol - filled broker symbol ∧
        0 ≤ filled broker symbol ∧ filled broker symbol ≤ submittedTo before symbol

section Account

variable [ContextArithmetic D] {api : AlpacaApi β D} {held filled : β → String → ℚ} {b : β}
  {discovered targets : List (ManagedPositionTarget D)}
  {managedQuantities : List (String × RawQuantity D)} {positions : List (SessionPosition D)}
  {log : FlattenLog β D}

omit [ContextArithmetic D] in
/-- A position that is read is what is held of a target, up to its quantity. -/
theorem AlpacaApi.Shows.position (hShows : api.Shows held)
    (h : listPositions api targets b = .ok positions)
    {position : SessionPosition D} (hPosition : position ∈ positions) :
    ∃ target ∈ targets, target.symbol = position.symbol ∧
      value position.quantity = min (held b target.symbol) (value target.quantity) := by
  obtain ⟨answers, hAnswers, hPresent⟩ := Fallible.bind_eq_ok.mp h
  have hSome : some position ∈ answers := by
    rw [← List.reduceOption_mem_iff, Except.ok.inj hPresent]
    exact hPosition
  obtain ⟨target, hTarget, hRead⟩ := Fallible.mapM_ok_mem hAnswers hSome
  obtain ⟨raw, hRaw, hReads⟩ := listPosition_some hRead
  obtain ⟨quantity, hQty, hSymbol, hQuantity⟩ := readPosition_ok hReads
  obtain ⟨hSame, hHeld⟩ := hShows.found b target.symbol raw quantity hRaw hQty
  refine ⟨target, (List.mem_insertionSort _).mp hTarget, (hSymbol.trans hSame).symm, ?_⟩
  rw [hQuantity, value_pyMin, hHeld]

/-- A target of which something is held is read. -/
theorem AlpacaApi.Shows.target (hShows : api.Shows held)
    (h : listPositions api targets b = .ok positions)
    {target : ManagedPositionTarget D} (hTarget : target ∈ targets)
    (hHeld : held b target.symbol ≠ 0) :
    ∃ position ∈ positions, position.symbol = target.symbol ∧
      value position.quantity = min (held b target.symbol) (value target.quantity) := by
  obtain ⟨answers, hAnswers, hPresent⟩ := Fallible.bind_eq_ok.mp h
  obtain ⟨answer, hMem, hRead⟩ :=
    Fallible.mapM_ok_of_mem hAnswers ((List.mem_insertionSort _).mpr hTarget)
  cases answer with
  | none => exact absurd (hShows.missing b _ (listPosition_none hRead)) hHeld
  | some position =>
    obtain ⟨raw, hRaw, hReads⟩ := listPosition_some hRead
    obtain ⟨quantity, hQty, hSymbol, hQuantity⟩ := readPosition_ok hReads
    obtain ⟨hSame, hAccount⟩ := hShows.found b target.symbol raw quantity hRaw hQty
    refine ⟨position, ?_, hSymbol.trans hSame, ?_⟩
    · rw [← Except.ok.inj hPresent]
      exact List.reduceOption_mem_iff.mpr hMem
    · rw [hQuantity, value_pyMin, hAccount]

/-- Nothing is read exactly where nothing is held of any target. -/
theorem AlpacaApi.Shows.nil_iff (hShows : api.Shows held)
    (h : listPositions api targets b = .ok positions) :
    positions = [] ↔ ∀ target ∈ targets, held b target.symbol = 0 := by
  constructor
  · rintro rfl target hTarget
    exact hShows.missing b _ (listPositions_nil h hTarget)
  · intro hNothing
    refine List.eq_nil_iff_forall_not_mem.mpr fun position hPosition => ?_
    obtain ⟨target, hTarget, -, hQuantity⟩ := hShows.position h hPosition
    have hPositive := position.positive
    rw [hQuantity, hNothing target hTarget] at hPositive
    exact absurd (min_le_left _ _) (not_le.mpr hPositive)

/-- What holds of the log of a run that read its targets before it closed any. -/
structure Accounting (api : AlpacaApi β D) (held filled : β → String → ℚ) (b : β)
    (discovered targets : List (ManagedPositionTarget D))
    (managedQuantities : List (String × RawQuantity D)) (log : FlattenLog β D) : Prop where
  shows : api.Shows held
  listed : Listed api.operations discovered managedQuantities log
  merged : mergeTargets discovered managedQuantities = .ok targets
  fills : OnlyClosesFill held filled b log
  first : ∃ before positions broker after, (∀ symbol, submittedTo before symbol = 0) ∧
    log = before ++ (.list targets (.ok positions), broker) :: after

omit [ContextArithmetic D] in
/-- A listing of the log is answered by the account of its moment. -/
theorem Accounting.answered
    (h : Accounting api held filled b discovered targets managedQuantities log)
    {listed : List (ManagedPositionTarget D)} {broker : β}
    (hEntry : (.list listed (.ok positions), broker) ∈ log) :
    listPositions api targets broker = .ok positions ∧ ∃ before, before <+: log ∧
      ∀ symbol, held broker symbol = held b symbol - filled broker symbol ∧
        0 ≤ filled broker symbol ∧ filled broker symbol ≤ submittedTo before symbol := by
  obtain ⟨hMerge, start, hAnswer⟩ := h.listed _ _ _ hEntry
  obtain rfl := Except.ok.inj (h.merged.symm.trans hMerge)
  obtain ⟨hPositions, rfl⟩ := Prod.mk.inj hAnswer
  obtain ⟨before, after, hLog⟩ := List.append_of_mem hEntry
  exact ⟨hPositions, before, ⟨_, hLog.symm⟩, h.fills _ _ _ _ _ hLog⟩

omit [ContextArithmetic D] in
/-- What is read of a symbol is at most what is held of a target at the start, and at most its
quantity. -/
theorem Accounting.read_le
    (h : Accounting api held filled b discovered targets managedQuantities log) {symbol : String}
    {x : ℚ} (hRead : x ∈ readQuantities log symbol) :
    ∃ target ∈ targets, target.symbol = symbol ∧
      x ≤ min (held b symbol) (value target.quantity) := by
  obtain ⟨positions, hReading, hx⟩ := List.mem_flatMap.mp hRead
  obtain ⟨⟨call, broker⟩, hEntry, hPositions⟩ := List.mem_filterMap.mp hReading
  match call with
  | .list listed (.ok _) =>
    obtain rfl := Option.some.inj hPositions
    obtain ⟨position, hPosition, rfl⟩ := List.mem_map.mp hx
    obtain ⟨hMem, hSymbol⟩ := List.mem_filter.mp hPosition
    obtain ⟨hAnswer, _, -, hFills⟩ := h.answered hEntry
    obtain ⟨target, hTarget, hSame, hQuantity⟩ := h.shows.position hAnswer hMem
    obtain rfl : target.symbol = symbol := hSame.trans (of_decide_eq_true hSymbol)
    obtain ⟨hHeld, hFilled, -⟩ := hFills target.symbol
    refine ⟨target, hTarget, rfl, hQuantity.trans_le (min_le_min_right _ ?_)⟩
    rw [hHeld]
    exact sub_le_self _ hFilled

/-- The largest reading of a target is what is held at the start, up to its quantity. -/
theorem Accounting.largestRead_target
    (h : Accounting api held filled b discovered targets managedQuantities log)
    {target : ManagedPositionTarget D} (hTarget : target ∈ targets) :
    largestRead log target.symbol = min (held b target.symbol) (value target.quantity) := by
  obtain ⟨before, positions, broker, after, hNothing, hLog⟩ := h.first
  have hEntry : (.list targets (.ok positions), broker) ∈ log := by
    rw [hLog]
    exact List.mem_append_right _ (List.mem_cons_self ..)
  obtain ⟨hAnswer, -⟩ := h.answered hEntry
  have hStart : held broker target.symbol = held b target.symbol := by
    obtain ⟨hHeld, hFilled, hSubmitted⟩ := h.fills _ _ _ _ _ hLog target.symbol
    rw [hNothing] at hSubmitted
    rw [hHeld, le_antisymm hSubmitted hFilled, sub_zero]
  have hFirst : held b target.symbol = 0 ∨
      min (held b target.symbol) (value target.quantity) ∈ readQuantities log target.symbol ∧
        0 < min (held b target.symbol) (value target.quantity) := by
    rw [← hStart]
    by_cases hZero : held broker target.symbol = 0
    · exact .inl hZero
    · obtain ⟨position, hPosition, hSymbol, hQuantity⟩ := h.shows.target hAnswer hTarget hZero
      rw [← hQuantity]
      refine .inr ⟨List.mem_flatMap.mpr ⟨positions, ?_, ?_⟩, position.positive⟩
      · exact List.mem_filterMap.mpr ⟨_, hEntry, rfl⟩
      · exact List.mem_map.mpr ⟨position, List.mem_filter.mpr ⟨hPosition, by simp [hSymbol]⟩, rfl⟩
  have hWithin : ∀ x ∈ readQuantities log target.symbol,
      x ≤ min (held b target.symbol) (value target.quantity) := by
    intro x hx
    obtain ⟨other, hOther, hSame, hLe⟩ := h.read_le hx
    rwa [mergeTargets_quantity h.merged hOther, hSame, ← mergeTargets_quantity h.merged hTarget]
      at hLe
  rcases hFirst with hZero | ⟨hRead, hPositive⟩
  · have hNone : min (held b target.symbol) (value target.quantity) = 0 := by
      rw [hZero, min_eq_left target.positive.le]
    rw [hNone] at hWithin ⊢
    exact le_antisymm ((largest_le_iff le_rfl).mpr hWithin) (largest_nonneg _)
  · refine le_antisymm ((largest_le_iff hPositive.le).mpr hWithin) ?_
    exact le_largest (List.mem_cons_of_mem _ hRead)

omit [ContextArithmetic D] in
/-- A symbol of no target was never read. -/
theorem Accounting.largestRead_other
    (h : Accounting api held filled b discovered targets managedQuantities log) {symbol : String}
    (hOther : ∀ target ∈ targets, target.symbol ≠ symbol) : largestRead log symbol = 0 := by
  refine le_antisymm ((largest_le_iff le_rfl).mpr fun x hx => ?_) (largest_nonneg _)
  obtain ⟨target, hTarget, hSymbol, -⟩ := h.read_le hx
  exact absurd hSymbol (hOther target hTarget)

/-- Once a quantity that is capped was brought in as far as it was submitted, nothing is left
exactly where the cap did not matter and all of it was brought in. -/
theorem sub_eq_zero_iff_capped {quantity cap part : ℚ} (hPart : part ≤ min quantity cap) :
    quantity - part = 0 ↔ quantity ≤ cap ∧ part = min quantity cap := by
  rw [sub_eq_zero]
  constructor
  · rintro rfl
    have hCap := le_min_iff.mp hPart
    exact ⟨hCap.2, (min_eq_left hCap.2).symm⟩
  · rintro ⟨hCap, rfl⟩
    exact (min_eq_left hCap).symm

/-- Nothing is left of the targets at a listing exactly where none of them was capped and every
close had filled. -/
theorem Accounting.left_iff
    (h : Accounting api held filled b discovered targets managedQuantities log)
    (hCovered : ∀ symbol, submittedTo log symbol = largestRead log symbol) {broker : β}
    (hFills : ∃ before, before <+: log ∧ ∀ symbol,
      held broker symbol = held b symbol - filled broker symbol ∧
        0 ≤ filled broker symbol ∧ filled broker symbol ≤ submittedTo before symbol) :
    (∀ target ∈ targets, held broker target.symbol = 0) ↔
      (∀ target ∈ targets, held b target.symbol ≤ value target.quantity) ∧
        ∀ symbol, filled broker symbol = submittedTo log symbol := by
  obtain ⟨before, hPrefix, hFills⟩ := hFills
  have hFilled : ∀ symbol, filled broker symbol ≤ submittedTo log symbol :=
    fun symbol => (hFills symbol).2.2.trans (submittedTo_mono hPrefix symbol)
  have hTargets : ∀ target ∈ targets, held broker target.symbol = 0 ↔
      held b target.symbol ≤ value target.quantity ∧
        filled broker target.symbol = submittedTo log target.symbol := by
    intro target hTarget
    have hPart := hFilled target.symbol
    rw [hCovered, h.largestRead_target hTarget] at hPart ⊢
    rw [(hFills target.symbol).1]
    exact sub_eq_zero_iff_capped hPart
  constructor
  · intro hNothing
    refine ⟨fun target hTarget => ((hTargets target hTarget).mp (hNothing target hTarget)).1, ?_⟩
    intro symbol
    by_cases hSymbol : ∃ target ∈ targets, target.symbol = symbol
    · obtain ⟨target, hTarget, rfl⟩ := hSymbol
      exact ((hTargets target hTarget).mp (hNothing target hTarget)).2
    · have hOther : ∀ target ∈ targets, target.symbol ≠ symbol :=
        fun target hTarget hSame => hSymbol ⟨target, hTarget, hSame⟩
      refine le_antisymm (hFilled symbol) ?_
      rw [hCovered, h.largestRead_other hOther]
      exact (hFills symbol).2.1
  · rintro ⟨hUncapped, hAll⟩ target hTarget
    exact (hTargets target hTarget).mpr ⟨hUncapped target hTarget, hAll target.symbol⟩

end Account

/-! ### Successful runs -/

variable [ContextArithmetic D]

/-- A flatten run in which nothing was raised, on an account that changes only by the fills of
its closes: the result is complete exactly when the account held at the start no more of any
target than its quantity, and every close had filled when the positions were last read. -/
theorem flatten_complete_iff (api : AlpacaApi β D) (timing : Timing β) (polls : ℕ)
    (plan : SessionPlan) (now : Timestamp) (managedQuantities : List (String × RawQuantity D))
    (b : β) (held filled : β → String → ℚ) (hShows : api.Shows held) (result : FlattenResult D)
    (hResult : ((flatten api.operations timing polls plan now managedQuantities).exec
      (.start b)).1 = .ok (some result))
    (hErrors : result.errors = [])
    (hExact : ExactReadings
      (flattenRun api.operations timing polls plan now managedQuantities b).log)
    (hFills : OnlyClosesFill held filled b
      (flattenRun api.operations timing polls plan now managedQuantities b).log) :
    result.complete = true ↔
      (∀ targets, mergeTargets (discoveredTargets api.operations plan b) managedQuantities =
        .ok targets → ∀ target ∈ targets, held b target.symbol ≤ value target.quantity) ∧
      ∀ listing ∈ lastListing
          (flattenRun api.operations timing polls plan now managedQuantities b).log,
        ∀ symbol, filled listing.2 symbol = submittedTo
          (flattenRun api.operations timing polls plan now managedQuantities b).log symbol := by
  have hBalanced := flattenRun_balanced api.operations timing polls plan now managedQuantities b
  have hListed : Listed api.operations (discoveredTargets api.operations plan b) managedQuantities
      (flattenRun api.operations timing polls plan now managedQuantities b).log :=
    flattenRun_invariant (idleInvariant_listed _ _ _) (fun _ => flattenInvariant_listed)
      (fun _ _ _ hEntry => absurd hEntry List.not_mem_nil)
  have hExec : (flatten api.operations timing polls plan now managedQuantities).exec (.start b) =
      (.ok (some result), flattenRun api.operations timing polls plan now managedQuantities b) :=
    Prod.ext hResult rfl
  obtain ⟨hComplete, hAll, before, targets, positions, broker, after, hMerge, hNothing, hLog⟩ :=
    flatten_ends hExec hErrors
  clear hExec
  generalize flattenRun api.operations timing polls plan now managedQuantities b = run at *
  have hAccounting : Accounting api held filled b (discoveredTargets api.operations plan b) targets
      managedQuantities run.log :=
    ⟨hShows, hListed, hMerge, hFills, before, positions, broker, after, hNothing, hLog⟩
  have hFirst : (.list targets (.ok positions), broker) ∈ run.log := by
    rw [hLog]
    exact List.mem_append_right _ (List.mem_cons_self ..)
  obtain ⟨listing, hListing⟩ := exists_lastListing hFirst
  obtain ⟨hReading, listed, hEntry⟩ := lastListing_listed hListing
  obtain ⟨hAnswer, hFilled⟩ := hAccounting.answered hEntry
  rw [hComplete, hReading, hShows.nil_iff hAnswer,
    hAccounting.left_iff (hBalanced.covered hExact hAll) hFilled]
  refine and_congr ⟨fun h other hOther => ?_, fun h => h targets hMerge⟩ ?_
  · obtain rfl := Except.ok.inj (hMerge.symm.trans hOther)
    exact h
  · rw [hListing]
    exact ⟨fun h _ hSame => Option.some.inj hSame ▸ h, fun h => h listing rfl⟩

/-- What is answered of the positions of a paper account. -/
def Paper.shown (paper : Paper) (symbol : String) : ℚ :=
  if symbol = "AAPL" ∧ 0 < value paper.held then value (abs paper.held) else 0

theorem paper_shows : paperApi.Shows Paper.shown where
  missing paper symbol hFlat := by
    refine if_neg fun hHeld => ?_
    have hPosition : paperApi.position paper symbol =
        .ok (some ⟨.text "AAPL", .number paper.held, .absent⟩) := if_pos hHeld
    rcases hFlat with ⟨_, _, hMissing⟩ | ⟨raw, quantity, hRaw, hQuantity, hZero⟩
    · rw [hPosition] at hMissing
      cases hMissing
    · rw [hPosition] at hRaw
      obtain rfl := Option.some.inj (Except.ok.inj hRaw)
      obtain rfl := Except.ok.inj hQuantity
      exact hHeld.2.ne' hZero
  found paper symbol raw quantity hRaw hQuantity := by
    by_cases hHeld : symbol = "AAPL" ∧ 0 < value paper.held
    · have hPosition : paperApi.position paper symbol =
          .ok (some ⟨.text "AAPL", .number paper.held, .absent⟩) := if_pos hHeld
      rw [hPosition] at hRaw
      obtain rfl := Option.some.inj (Except.ok.inj hRaw)
      obtain rfl := Except.ok.inj hQuantity
      exact ⟨hHeld.1.symm, (if_pos hHeld).symm⟩
    · have hPosition : paperApi.position paper symbol =
          .error (.alpacaOperationsError "Alpaca returned HTTP 404" false (some 404)) :=
        if_neg hHeld
      rw [hPosition] at hRaw
      cases hRaw

/-- What the closes of a symbol have filled. -/
def Paper.filled (paper : Paper) (symbol : String) : ℚ :=
  if symbol = "AAPL" then value paper.closed else 0

/-- The account changes by its closes only, if it does at the listings of a log. -/
theorem paper_onlyClosesFill {paper : Paper} {log : FlattenLog Paper Decimal}
    (h : ∀ n < log.length, ∀ entry ∈ log[n]?, entry.1.positions.isSome = true →
      entry.2.shown "AAPL" = paper.shown "AAPL" - value entry.2.closed ∧
        0 ≤ value entry.2.closed ∧ value entry.2.closed ≤ submittedTo (log.take n) "AAPL") :
    OnlyClosesFill Paper.shown Paper.filled paper log := by
  rintro before targets positions broker after rfl symbol
  by_cases hSymbol : symbol = "AAPL"
  · subst hSymbol
    have hHere := h before.length (by simp) (.list targets (.ok positions), broker) (by simp) rfl
    rwa [List.take_left] at hHere
  · have hShown : ∀ paper : Paper, paper.shown symbol = 0 := fun _ => if_neg fun h => hSymbol h.1
    have hFilled : broker.filled symbol = 0 := if_neg hSymbol
    rw [hShown, hShown, hFilled, sub_zero]
    exact ⟨rfl, le_rfl, submittedTo_nonneg before symbol⟩

/-- Five shares, all of them Daybreak's. -/
def alonePaper : Paper := .start (.ofInt 5) [] (.ofInt 0)

theorem alone_complete : ∃ result,
    paperResult 1 [] alonePaper = .ok (some result) ∧ result.complete = true := by
  have hDone : (paperResult 1 [] alonePaper).toOption.join.any (·.errors.isEmpty) = true := by
    decide +kernel
  obtain ⟨result, hResult, hErrors⟩ := exists_result hDone
  refine ⟨result, hResult, ?_⟩
  refine (flatten_complete_iff paperApi paperTiming 1 samplePlan 0 [] alonePaper Paper.shown
    Paper.filled paper_shows result hResult (List.isEmpty_iff.mp hErrors)
    (exactReadings_of_whole (by decide +kernel))
    (paper_onlyClosesFill (by decide +kernel))).mpr ⟨?_, ?_⟩
  · have hTargets : ∀ target ∈ (mergeTargets
        (discoveredTargets paperApi.operations samplePlan alonePaper) []).toOption.getD [],
        alonePaper.shown target.symbol ≤ value target.quantity := by decide +kernel
    intro targets hMerge
    rwa [hMerge] at hTargets
  · intro listing hListing symbol
    by_cases hSymbol : symbol = "AAPL"
    · subst hSymbol
      have hClosed : ∀ listing ∈ lastListing (paperRun 1 [] alonePaper).log,
          listing.2.filled "AAPL" = submittedTo (paperRun 1 [] alonePaper).log "AAPL" := by
        decide +kernel
      exact hClosed listing hListing
    · have hCloses : ∀ entry ∈ (paperRun 1 [] alonePaper).log, ∀ close ∈ entry.1.accepted,
          close.2.symbol = "AAPL" := by decide +kernel
      rw [Paper.filled, if_neg hSymbol]
      exact (submittedTo_eq_zero fun entry hEntry close hClose hSame =>
        hSymbol (hSame.symm.trans (hCloses entry hEntry close hClose))).symm

/-- Every reading of the clock takes a hundred seconds. -/
def slowTiming : Timing Paper where
  clock paper := (paper.now, { paper with now := paper.now + 100000000 })
  sleep _ paper := paper

/-- Nothing was raised, all closes filled at once and nothing is owned any more, but the
result is not complete. -/
theorem shared_incomplete :
    let ended := (flatten paperApi.operations slowTiming 4 samplePlan 0 []).exec
      (.start sharedPaper)
    ended.1.toOption.join.map (fun result => (result.errors, result.complete)) =
        some ([], false) ∧
      value ended.2.broker.closed = submittedTo ended.2.log "AAPL" ∧
      own ended.2.broker.account "AAPL" = 0 := by
  decide +kernel

end Daybreak.Orchestration
