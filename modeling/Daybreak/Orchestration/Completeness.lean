import Daybreak.Orchestration.Closes
import Daybreak.Orchestration.Targets
import Mathlib.Data.List.ReduceOption

/-! What a complete flatten result says of the shares that Daybreak bought. The last
reading of the run answered no position for any target, so that nothing is held of
the symbols that had a target. The targets are settled before the orders are
canceled: shares of another symbol, whose entry fills afterwards, are still held. -/

namespace Daybreak.Orchestration

open Numeric DecimalArithmetic Effect

variable {β D : Type} [DecimalArithmetic D]

/-! ### An empty reading -/

open AlpacaPaperOperations

/-- The account has no position in a symbol: there is none, or its quantity is zero. -/
def AlpacaApi.Flat (api : AlpacaApi β D) (b : β) (symbol : String) : Prop :=
  (∃ message transient, api.position b symbol =
    .error (.alpacaOperationsError message transient (some 404))) ∨
    ∃ raw quantity, api.position b symbol = .ok (some raw) ∧
      raw.qty.getD (ofInt 0) = .ok quantity ∧ value quantity = 0

variable [ContextArithmetic D] {api : AlpacaApi β D} {b : β} {symbol : String}
  {targets : List (ManagedPositionTarget D)}

/-- No position is read of a target only where the account has none. -/
theorem listPosition_none {target : ManagedPositionTarget D}
    (h : listPosition api b target = .ok none) : api.Flat b target.symbol := by
  unfold listPosition at h
  split at h
  · next message transient status hPosition =>
    split_ifs at h with hStatus
    subst hStatus
    exact .inl ⟨message, transient, hPosition⟩
  · cases h
  · cases h
  · next raw hPosition =>
    obtain ⟨quantity, hQty, hNone⟩ := readPosition_ok h
    refine .inr ⟨raw, quantity, hPosition, hQty, ?_⟩
    by_contra hHeld
    have hCapped : 0 < value (pyMin (abs quantity) target.quantity) := by
      rw [value_pyMin]
      exact lt_min (ContextArithmetic.value_abs_pos quantity hHeld) target.positive
    exact absurd hNone (not_le.mpr hCapped)

/-- Nothing is read of the targets only where the account has no position in them. -/
theorem listPositions_nil (h : listPositions api targets b = .ok [])
    {target : ManagedPositionTarget D} (hTarget : target ∈ targets) :
    api.Flat b target.symbol := by
  obtain ⟨answers, hAnswers, h⟩ := Fallible.bind_eq_ok.mp h
  have hNone := Except.ok.inj h
  obtain ⟨answer, hMem, hPosition⟩ :=
    Fallible.mapM_ok_of_mem hAnswers ((List.mem_insertionSort _).mpr hTarget)
  cases answer with
  | none => exact listPosition_none hPosition
  | some position =>
    have hRead : position ∈ answers.reduceOption := List.reduceOption_mem_iff.mpr hMem
    rw [hNone] at hRead
    cases hRead

/-! ### The last reading -/

section Run

omit [ContextArithmetic D]

variable {ops : SessionBrokerOperations β D} {run run' : FlattenRun β D}

/-- The last request was a listing of the targets, and no position was answered. -/
def EndsEmpty (ops : SessionBrokerOperations β D) (targets : List (ManagedPositionTarget D))
    (log : FlattenLog β D) : Prop :=
  ∃ broker, (∃ b, ops.listPositions targets b = (.ok [], broker)) ∧
    log.getLast? = some (.list targets (.ok []), broker)

/-- A reading without a position, of which nothing is closed, ends the log. -/
theorem readingEstablishes_endsEmpty (ops : SessionBrokerOperations β D)
    (targets : List (ManagedPositionTarget D)) :
    ReadingEstablishes ops targets fun left log => left = [] → EndsEmpty ops targets log := by
  intro run run' broker positions hListed hCloses hNone
  subst hNone
  cases hCloses
  exact ⟨broker, hListed, List.getLast?_concat⟩

theorem flattenTargets_complete {timing : Timing β} {polls : ℕ} {plan : SessionPlan}
    {now : Timestamp} {result : FlattenResult D}
    (h : (flattenTargets ops timing polls plan now targets).exec run = (.ok (some result), run'))
    (hComplete : result.complete = true) :
    run'.errors = [] ∧ EndsEmpty ops targets run'.log := by
  obtain ⟨hErrors, hResult, hLeaves⟩ :=
    flattenTargets_leaves (readingEstablishes_endsEmpty ops targets) h
  rw [hComplete, eq_comm, Bool.and_eq_true_iff, List.isEmpty_iff, List.isEmpty_iff] at hResult
  have hNone : run'.errors = [] := hErrors.symm.trans hResult.2
  exact ⟨hNone, (hLeaves hNone).1 hResult.1⟩

/-- A complete result: the targets were merged of what was discovered, and the last
reading answered no position of them. -/
theorem complete_endsEmpty {timing : Timing β} {polls : ℕ} {plan : SessionPlan} {now : Timestamp}
    {managedQuantities : List (String × RawQuantity D)} {b : β} {result : FlattenResult D}
    (h : (flatten ops timing polls plan now managedQuantities).exec (.start b) =
      (.ok (some result), run)) (hComplete : result.complete = true) :
    ∃ targets, mergeTargets (discoveredTargets ops plan b) managedQuantities = .ok targets ∧
      EndsEmpty ops targets run.log := by
  unfold flatten at h
  rw [Program.exec_bind, exec_request] at h
  simp only at h
  obtain ⟨discovered, found, hFound, h⟩ := Program.exec_bind_ok.mp h
  obtain ⟨targets, merged, hMerge, h⟩ := Program.exec_bind_ok.mp h
  rw [Program.exec_ofExcept] at hMerge
  obtain ⟨hMerged, rfl⟩ := Prod.mk.inj hMerge
  obtain ⟨hErrors, hEmpty⟩ := flattenTargets_complete h hComplete
  suffices hDiscovered : discovered = discoveredTargets ops plan b from
    ⟨targets, hDiscovered ▸ hMerged, hEmpty⟩
  have hStart : (FlattenRun.start b : FlattenRun β D).broker = b := rfl
  rw [hStart] at hFound
  rw [discoveredTargets]
  cases hAnswer : (ops.discoverDaybreakTargets plan b).1 with
  | ok _ =>
    rw [hAnswer] at hFound
    exact (Except.ok.inj (Prod.mk.inj hFound).1).symm
  | error e =>
    rw [hAnswer] at hFound
    refine absurd hErrors ?_
    have hKept := (flattenInvariant_errors ops targets).maintains_flattenTargets timing polls plan
      now found
    rw [h] at hKept
    refine hKept ?_
    rw [← (Prod.mk.inj hFound).2]
    exact List.append_ne_nil_of_right_ne_nil _ (List.cons_ne_nil _ _)

end Run

/-! ### Complete results -/

/-- After a complete result, nothing that Daybreak bought is held at the last reading
exactly when every symbol still held was discovered or managed at the start. -/
theorem complete_unheld_iff (api : AlpacaApi β D) (timing : Timing β) (polls : ℕ)
    (plan : SessionPlan) (now : Timestamp) (managedQuantities : List (String × RawQuantity D))
    (b : β) (held : β → String → ℚ)
    (hHeld : ∀ broker symbol, api.Flat broker symbol → held broker symbol = 0)
    (result : FlattenResult D)
    (hResult : ((flatten api.operations timing polls plan now managedQuantities).exec
      (.start b)).1 = .ok (some result))
    (hComplete : result.complete = true) :
    ∃ targets broker,
      (flattenRun api.operations timing polls plan now managedQuantities b).log.getLast? =
        some (.list targets (.ok []), broker) ∧
      ((∀ symbol, held broker symbol = 0) ↔ ∀ symbol, held broker symbol ≠ 0 →
        symbol ∈ (discoveredTargets api.operations plan b).map (·.symbol) ∨
          Managed managedQuantities symbol) := by
  obtain ⟨targets, hMerge, broker, ⟨start, hListed⟩, hLast⟩ :=
    complete_endsEmpty (Prod.ext hResult rfl) hComplete
  refine ⟨targets, broker, hLast, fun hNone symbol hSome => absurd (hNone symbol) hSome, ?_⟩
  intro hTargets symbol
  by_contra hSome
  obtain ⟨target, hTarget, rfl⟩ := mergeTargets_symbols hMerge (hTargets symbol hSome)
  obtain ⟨hAnswer, hMoved⟩ := Prod.mk.inj hListed
  rw [hMoved] at hAnswer
  exact hSome (hHeld broker _ (listPositions_nil hAnswer hTarget))

/-- What the account holds of a symbol. -/
def Paper.heldOf (paper : Paper) (symbol : String) : ℚ :=
  if symbol = "AAPL" then max 0 (value paper.held) else 0

theorem paper_flat {paper : Paper} (h : paperApi.Flat paper symbol) : paper.heldOf symbol = 0 := by
  unfold Paper.heldOf
  split_ifs with hSymbol
  · refine max_eq_left (not_lt.mp fun hPositive => ?_)
    have hPosition : paperApi.position paper symbol =
        .ok (some ⟨.text "AAPL", .number paper.held, .absent⟩) := if_pos ⟨hSymbol, hPositive⟩
    rcases h with ⟨_, _, hMissing⟩ | ⟨raw, quantity, hRaw, hQuantity, hZero⟩
    · rw [hPosition] at hMissing
      cases hMissing
    · rw [hPosition] at hRaw
      obtain rfl := Option.some.inj (Except.ok.inj hRaw)
      obtain rfl := Except.ok.inj hQuantity
      exact hPositive.ne' hZero
  · rfl

/-- The result of a run of a paper account. -/
def paperResult (polls : ℕ) (managedQuantities : List (String × RawQuantity Decimal))
    (paper : Paper) : Except Exc (Option (FlattenResult Decimal)) :=
  ((flatten paperApi.operations paperTiming polls samplePlan 0 managedQuantities).exec
    (.start paper)).1

omit [ContextArithmetic D] in
theorem exists_result {answer : Except Exc (Option (FlattenResult D))} {p : FlattenResult D → Bool}
    (h : answer.toOption.join.any p = true) :
    ∃ result, answer = .ok (some result) ∧ p result = true := by
  match answer with
  | .error _ => cases h
  | .ok none => cases h
  | .ok (some result) => exact ⟨result, rfl, h⟩

/-- Shares that filled before the run are all sold. -/
theorem entryBefore_unheld :
    ∃ targets broker,
      (paperRun 1 [] (.start (.ofInt 5) [] (.ofInt 0))).log.getLast? =
        some (.list targets (.ok []), broker) ∧ ∀ symbol, broker.heldOf symbol = 0 := by
  have hDone : (paperResult 1 [] (.start (.ofInt 5) [] (.ofInt 0))).toOption.join.any
      (·.complete) = true := by decide +kernel
  obtain ⟨result, hResult, hComplete⟩ := exists_result hDone
  obtain ⟨targets, broker, hLast, hIff⟩ := complete_unheld_iff paperApi paperTiming 1 samplePlan 0
    [] (.start (.ofInt 5) [] (.ofInt 0)) Paper.heldOf (fun _ _ => paper_flat) result hResult
    hComplete
  refine ⟨targets, broker, hLast, hIff.mpr fun symbol hHeld => .inl ?_⟩
  have hSymbol : symbol = "AAPL" := by
    by_contra hOther
    exact hHeld (if_neg hOther)
  rw [hSymbol]
  decide +kernel

/-- The entry fills between the discovery of the targets and the cancellation. -/
theorem entryAfterDiscovery_held :
    (paperResult 1 [] (.start (.ofInt 0) [.ofInt 0, .ofInt 5] (.ofInt 0))).toOption.join.map
        (·.complete) = some true ∧
      (paperRun 1 [] (.start (.ofInt 0) [.ofInt 0, .ofInt 5] (.ofInt 0))).log.getLast?.map
        (fun entry => (entry.1.positions.map (·.length), entry.2.heldOf "AAPL")) =
          some (some 0, 5) := by
  decide +kernel

end Daybreak.Orchestration
