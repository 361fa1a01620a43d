import Daybreak.Orchestration.Closes
import Daybreak.Orchestration.Targets
import Mathlib.Data.List.ReduceOption

/-! Whose shares a flatten run sells. What is closed of a symbol is what the account
holds of it, up to the largest quantity that is claimed: the net of the orders with the
prefix of the day, or the quantity recorded at entry. Neither is what Daybreak owns once
an exit or an earlier close has filled, so that unrelated shares of the symbol are sold. -/

namespace Daybreak.Orchestration

open Numeric DecimalArithmetic Effect AlpacaPaperOperations

variable {β D : Type} [DecimalArithmetic D]

/-! ### Ownership -/

/-- A fill of the account, by the purpose of its order: an entry, an exit or a protective
stop of Daybreak, a close of a flatten run, or anything else. -/
inductive AccountFill where
  | daybreakBuy (symbol : String) (quantity : ℚ)
  | daybreakSell (symbol : String) (quantity : ℚ)
  | flattenClose (symbol : String) (quantity : ℚ)
  | unrelated (symbol : String) (quantity : ℚ)

/-- What a fill adds to the Daybreak quantity of a symbol. -/
def AccountFill.owned (symbol : String) : AccountFill → ℚ
  | .daybreakBuy name quantity => if name = symbol then quantity else 0
  | .daybreakSell name quantity => if name = symbol then -quantity else 0
  | .flattenClose name quantity => if name = symbol then -quantity else 0
  | .unrelated _ _ => 0

/-- The net Daybreak quantity of a symbol. -/
def own (fills : List AccountFill) (symbol : String) : ℚ := (fills.map (·.owned symbol)).sum

/-! ### Readings -/

/-- The position was read in the last listing of the log, when the account showed a
quantity of the symbol: it is that quantity, up to the largest that is claimed. -/
structure ReadAs (api : AlpacaApi β D) (claims : String → List D) (log : FlattenLog β D)
    (read : SessionPosition D) (symbol : String) (quantity : D) : Prop where
  shown : ∃ targets broker raw, (.list targets (.ok (lastReading log)), broker) ∈ log ∧
    api.position broker symbol = .ok (some raw) ∧ raw.symbol.str = read.symbol ∧
    raw.qty.getD (ofInt 0) = .ok quantity
  capped : value read.quantity = min (value (abs quantity)) (largest ((claims symbol).map value))

/-- Of every position whose close was accepted, the account showed when it was read, or
everybody claims, at most what is owned. -/
def ClosesWithin (api : AlpacaApi β D) (claims : String → List D) (owned : String → ℚ)
    (log : FlattenLog β D) : Prop :=
  ∀ before read target order broker after,
    log = before ++ (.close read target (.ok order), broker) :: after →
    ∃ symbol quantity, ReadAs api claims before read symbol quantity ∧
      (value (abs quantity) ≤ owned read.symbol ∨
        ∀ claimed ∈ claims symbol, value claimed ≤ owned read.symbol)

/-- Every listing of the log is of the merged targets, and was answered by the broker. -/
def Listed (ops : SessionBrokerOperations β D) (discovered : List (ManagedPositionTarget D))
    (managedQuantities : List (String × RawQuantity D)) (log : FlattenLog β D) : Prop :=
  ∀ targets positions broker, (.list targets (.ok positions), broker) ∈ log →
    mergeTargets discovered managedQuantities = .ok targets ∧
      ∃ b, ops.listPositions targets b = (.ok positions, broker)

variable {api : AlpacaApi β D} {ops : SessionBrokerOperations β D}
  {discovered targets : List (ManagedPositionTarget D)}
  {managedQuantities : List (String × RawQuantity D)} {log : FlattenLog β D}

theorem idleInvariant_listed (ops : SessionBrokerOperations β D)
    (discovered : List (ManagedPositionTarget D))
    (managedQuantities : List (String × RawQuantity D)) :
    IdleInvariant fun run : FlattenRun β D => Listed ops discovered managedQuantities run.log where
  unlogged _ hRun := hRun
  poll hRun := hRun
  idle hIdle hRun targets positions broker hEntry := by
    rcases List.mem_append.mp hEntry with hOld | hNew
    · exact hRun targets positions broker hOld
    · obtain ⟨rfl, -⟩ := Prod.mk.inj (List.mem_singleton.mp hNew)
      cases hIdle.1

theorem flattenInvariant_listed
    (hMerge : mergeTargets discovered managedQuantities = .ok targets) :
    FlattenInvariant ops targets fun run => Listed ops discovered managedQuantities run.log where
  toIdleInvariant := idleInvariant_listed ops discovered managedQuantities
  read hListed hCloses hRun targets' positions broker hEntry := by
    rcases List.mem_append.mp (hCloses.listed hEntry) with hOld | hNew
    · exact hRun targets' positions broker hOld
    · obtain ⟨hList, rfl⟩ := Prod.mk.inj (List.mem_singleton.mp hNew)
      cases hList
      exact ⟨hMerge, hListed⟩

/-- What a close closes was read from the account. -/
theorem readAs_of_mem {read : SessionPosition D}
    (hListed : Listed api.operations discovered managedQuantities log)
    (hRead : read ∈ lastReading log) :
    ∃ symbol quantity,
      ReadAs api (claimedQuantities discovered managedQuantities) log read symbol quantity := by
  obtain ⟨targets, broker, hEntry⟩ := lastReading_listed hRead
  obtain ⟨hMerge, before, hAnswer⟩ := hListed _ _ _ hEntry
  obtain ⟨hPositions, rfl⟩ := Prod.mk.inj hAnswer
  obtain ⟨answers, hAnswers, hPresent⟩ := Fallible.bind_eq_ok.mp hPositions
  have hSome : some read ∈ answers := by
    rw [← List.reduceOption_mem_iff, Except.ok.inj hPresent]
    exact hRead
  obtain ⟨target, hTarget, hPosition⟩ := Fallible.mapM_ok_mem hAnswers hSome
  obtain ⟨raw, hRaw, hReads⟩ := listPosition_some hPosition
  obtain ⟨quantity, hQty, hSymbol, hQuantity⟩ := readPosition_ok hReads
  refine ⟨target.symbol, quantity, ⟨targets, _, raw, hEntry, hRaw, hSymbol.symm, hQty⟩, ?_⟩
  rw [hQuantity, value_pyMin,
    mergeTargets_quantity hMerge ((List.mem_insertionSort _).mp hTarget)]

theorem OperationCall.accepted_of_submitted (call : OperationCall D) {symbol : String}
    (h : call.submitted symbol ≠ 0) :
    ∃ read target, call.accepted = some (read, target) ∧ target.symbol = symbol := by
  unfold submitted at h
  cases hAccepted : call.accepted with
  | none => exact absurd (by rw [hAccepted]; rfl) h
  | some close =>
    refine ⟨close.1, close.2, rfl, ?_⟩
    by_contra hOther
    rw [hAccepted] at h
    exact h (if_neg hOther)

theorem submittedTo_eq_zero {symbol : String}
    (h : ∀ entry ∈ log, ∀ close ∈ entry.1.accepted, close.2.symbol ≠ symbol) :
    submittedTo log symbol = 0 := by
  refine List.sum_eq_zero fun x hx => ?_
  obtain ⟨entry, hEntry, rfl⟩ := List.mem_map.mp hx
  by_contra hSome
  obtain ⟨read, target, hAccepted, hTarget⟩ := entry.1.accepted_of_submitted hSome
  exact h entry hEntry _ hAccepted hTarget

/-- What is submitted of a symbol is nothing, or was brought there by an accepted close. -/
theorem submittedTo_cases (symbol : String) (log : FlattenLog β D)
    (hSymbols : ∀ entry ∈ log, ∀ read target, entry.1.accepted = some (read, target) →
      target.symbol = read.symbol) :
    submittedTo log symbol = 0 ∨ ∃ before entry after read target, log = before ++ entry :: after ∧
      entry.1.accepted = some (read, target) ∧ read.symbol = symbol ∧
      submittedTo log symbol = submittedTo (before ++ [entry]) symbol := by
  induction log using List.reverseRecOn with
  | nil => exact .inl rfl
  | append_singleton log entry ih =>
    by_cases hNothing : entry.1.submitted symbol = 0
    · rw [submittedTo_append, hNothing, add_zero]
      rcases ih fun other hOther => hSymbols other (List.mem_append_left _ hOther) with
        hZero | ⟨before, closed, after, read, target, rfl, hClosed⟩
      · exact .inl hZero
      · exact .inr ⟨before, closed, after ++ [entry], read, target, by simp, hClosed⟩
    · obtain ⟨read, target, hAccepted, hTarget⟩ := entry.1.accepted_of_submitted hNothing
      refine .inr ⟨log, entry, [], read, target, rfl, hAccepted, ?_, rfl⟩
      rw [← hTarget]
      have hEntry : entry ∈ log ++ [entry] :=
        List.mem_append_right _ (List.mem_singleton_self _)
      exact (hSymbols entry hEntry _ _ hAccepted).symm

variable [ContextArithmetic D]

/-- The fills of a paper account. -/
def Paper.account (paper : Paper) : List AccountFill :=
  [.daybreakBuy "AAPL" (value paper.entry), .unrelated "AAPL" (value paper.others),
    .flattenClose "AAPL" (value paper.closed)]

/-- Five Daybreak shares and ten others. -/
def sharedPaper : Paper := .start (.ofInt 5) [] (.ofInt 10)

end Daybreak.Orchestration
