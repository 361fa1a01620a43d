import Daybreak.Effect.Fallible
import Daybreak.Numeric.Largest
import Daybreak.Orchestration.AlpacaOps

/-! The targets of a flatten run. A symbol that is discovered or managed has a target,
whose quantity is the largest that is claimed of the symbol, and what is read of a
position is the quantity of the account up to that of its target. -/

namespace Daybreak.Orchestration

open Numeric DecimalArithmetic Effect

variable {β D : Type} [DecimalArithmetic D]

/-! ### Symbols -/

variable {claims claims' : Dict String (Claimed D)} {symbol : String}
  {discovered targets : List (ManagedPositionTarget D)}
  {managedQuantities : List (String × RawQuantity D)}

theorem mem_foldl_addDiscovered
    (h : symbol ∈ claims ∨ symbol ∈ discovered.map (·.symbol)) :
    symbol ∈ discovered.foldl addDiscovered claims := by
  induction discovered generalizing claims with
  | nil => exact h.resolve_right List.not_mem_nil
  | cons target discovered ih =>
    refine ih ?_
    rw [addDiscovered, addClaim, AList.mem_insert]
    rcases h with hOld | hNew
    · exact .inl (.inr hOld)
    · rcases List.mem_cons.mp hNew with rfl | hNew
      · exact .inl (.inl rfl)
      · exact .inr hNew

theorem addManaged_keeps {managed : String × RawQuantity D}
    (h : addManaged claims managed = .ok claims') (hSymbol : symbol ∈ claims) :
    symbol ∈ claims' := by
  unfold addManaged at h
  split at h
  · cases h
  · split_ifs at h
    · exact Except.ok.inj h ▸ hSymbol
    · rw [← Except.ok.inj h, addClaim, AList.mem_insert]
      exact .inr hSymbol

theorem addManaged_new {quantity : D} (hPositive : 0 < value quantity)
    (h : addManaged claims (symbol, some quantity) = .ok claims') : symbol ∈ claims' := by
  unfold addManaged at h
  simp only [if_neg (not_le.mpr hPositive)] at h
  rw [← Except.ok.inj h, addClaim, AList.mem_insert]
  exact .inl rfl

/-- A positive quantity of the entry-time ledger. -/
def Managed (managedQuantities : List (String × RawQuantity D)) (symbol : String) : Prop :=
  ∃ quantity, (symbol, some quantity) ∈ managedQuantities ∧ 0 < value quantity

theorem claimedTarget_ok {target : ManagedPositionTarget D}
    (h : claimedTarget claims symbol = .ok target) :
    target.symbol = symbol ∧ target.quantity = claimedQuantity claims symbol := by
  unfold claimedTarget at h
  simp only at h
  by_cases hValid : isCanonicalTicker symbol = true ∧ 0 < value (claimedQuantity claims symbol)
  · rw [dif_pos hValid] at h
    rw [← Except.ok.inj h]
    exact ⟨rfl, rfl⟩
  · rw [dif_neg hValid] at h
    cases h

/-- A symbol that is discovered or managed has a target. -/
theorem mergeTargets_symbols (h : mergeTargets discovered managedQuantities = .ok targets)
    (hSymbol : symbol ∈ discovered.map (·.symbol) ∨ Managed managedQuantities symbol) :
    ∃ target ∈ targets, target.symbol = symbol := by
  obtain ⟨claims, hFold, h⟩ := Fallible.bind_eq_ok.mp h
  have hKeeps : ∀ (claims : Dict String (Claimed D)) managed claims', symbol ∈ claims →
      addManaged claims managed = .ok claims' → symbol ∈ claims' :=
    fun _ _ _ hMem hAdd => addManaged_keeps hAdd hMem
  have hMem : symbol ∈ claims := by
    rcases hSymbol with hDiscovered | ⟨quantity, hManaged, hPositive⟩
    · refine Fallible.foldlM_keeps (P := (symbol ∈ ·)) hFold hKeeps ?_
      exact mem_foldl_addDiscovered (.inr hDiscovered)
    · exact Fallible.foldlM_establishes (P := (symbol ∈ ·)) hFold hKeeps hManaged
        fun _ _ hAdd => addManaged_new hPositive hAdd
  have hKey : symbol ∈ claims.keys.insertionSort (· ≤ ·) :=
    (List.mem_insertionSort _).mpr (AList.mem_keys.mp hMem)
  obtain ⟨target, hTarget, hClaimed⟩ := Fallible.mapM_ok_of_mem h hKey
  exact ⟨target, hTarget, (claimedTarget_ok hClaimed).1⟩

/-! ### Quantities -/

/-- The quantities that are claimed of a symbol. -/
def claimedQuantities (discovered : List (ManagedPositionTarget D))
    (managedQuantities : List (String × RawQuantity D)) (symbol : String) : List D :=
  (discovered.filter (·.symbol = symbol)).map (·.quantity) ++
    (managedQuantities.filter (·.1 = symbol)).filterMap (·.2)

theorem value_claimedQuantity_addClaim (claims : Dict String (Claimed D)) (name symbol : String)
    (quantity : D) (source : ManagedTargetSource) :
    value (claimedQuantity (addClaim claims name quantity source) symbol) =
      if name = symbol then max (value (claimedQuantity claims symbol)) (value quantity)
      else value (claimedQuantity claims symbol) := by
  unfold addClaim
  rw [claimedQuantity, Dict.lookup_insert_eq]
  by_cases h : name = symbol
  · subst h
    rw [if_pos rfl, if_pos rfl, ← value_pyMax]
    rfl
  · rw [if_neg (Ne.symm h), if_neg h]
    rfl

theorem value_foldl_addDiscovered (discovered : List (ManagedPositionTarget D))
    (h : 0 ≤ value (claimedQuantity claims symbol)) :
    value (claimedQuantity (discovered.foldl addDiscovered claims) symbol) =
      max (value (claimedQuantity claims symbol))
        (largest (((discovered.filter (·.symbol = symbol)).map (·.quantity)).map value)) := by
  induction discovered generalizing claims with
  | nil => exact (max_eq_left h).symm
  | cons target discovered ih =>
    have hFirst := value_claimedQuantity_addClaim claims target.symbol symbol target.quantity
      target.source
    by_cases hSymbol : target.symbol = symbol
    · rw [if_pos hSymbol] at hFirst
      rw [List.foldl_cons, ih (hFirst ▸ h.trans (le_max_left _ _)), addDiscovered, hFirst]
      simp [hSymbol, max_assoc]
    · rw [if_neg hSymbol] at hFirst
      rw [List.foldl_cons, ih (hFirst ▸ h), addDiscovered, hFirst]
      simp [hSymbol]

theorem value_addManaged {managed : String × RawQuantity D}
    (h : addManaged claims managed = .ok claims')
    (hClaimed : 0 ≤ value (claimedQuantity claims symbol)) :
    ∃ quantity, managed.2 = some quantity ∧ value (claimedQuantity claims' symbol) =
      if managed.1 = symbol then max (value (claimedQuantity claims symbol)) (value quantity)
      else value (claimedQuantity claims symbol) := by
  unfold addManaged at h
  split at h
  · cases h
  · next quantity hQuantity =>
    refine ⟨quantity, hQuantity, ?_⟩
    split_ifs at h with hZero
    · obtain rfl := Except.ok.inj h
      rw [max_eq_left (hZero.trans hClaimed), ite_self]
    · rw [← Except.ok.inj h]
      exact value_claimedQuantity_addClaim claims managed.1 symbol quantity .executionLedger

theorem value_foldlM_addManaged (hFold : managedQuantities.foldlM addManaged claims = .ok claims')
    (h : 0 ≤ value (claimedQuantity claims symbol)) :
    value (claimedQuantity claims' symbol) = max (value (claimedQuantity claims symbol))
      (largest (((managedQuantities.filter (·.1 = symbol)).filterMap (·.2)).map value)) := by
  induction managedQuantities generalizing claims with
  | nil =>
    obtain rfl := Except.ok.inj hFold
    exact (max_eq_left h).symm
  | cons managed rest ih =>
    obtain ⟨mid, hFirst, hRest⟩ := Fallible.bind_eq_ok.mp ((List.foldlM_cons ..).symm.trans hFold)
    obtain ⟨quantity, hQuantity, hValue⟩ := value_addManaged hFirst h
    by_cases hSymbol : managed.1 = symbol
    · rw [if_pos hSymbol] at hValue
      rw [ih hRest (hValue ▸ h.trans (le_max_left _ _)), hValue]
      simp [hSymbol, hQuantity, max_assoc]
    · rw [if_neg hSymbol] at hValue
      rw [ih hRest (hValue ▸ h), hValue]
      simp [hSymbol]

/-- The quantity of a target is the largest that is claimed of its symbol. -/
theorem mergeTargets_quantity (h : mergeTargets discovered managedQuantities = .ok targets)
    {target : ManagedPositionTarget D} (hTarget : target ∈ targets) :
    value target.quantity =
      largest ((claimedQuantities discovered managedQuantities target.symbol).map value) := by
  obtain ⟨claims, hFold, h⟩ := Fallible.bind_eq_ok.mp h
  obtain ⟨symbol, -, hClaimed⟩ := Fallible.mapM_ok_mem h hTarget
  obtain ⟨rfl, hQuantity⟩ := claimedTarget_ok hClaimed
  have hNothing : value (claimedQuantity (∅ : Dict String (Claimed D)) target.symbol) = 0 :=
    (value_ofInt 0).trans Int.cast_zero
  have hDiscovered := value_foldl_addDiscovered discovered hNothing.ge
  rw [hNothing, max_eq_right (largest_nonneg _)] at hDiscovered
  have hManaged := value_foldlM_addManaged hFold (hDiscovered ▸ largest_nonneg _)
  rw [hDiscovered] at hManaged
  rw [claimedQuantities, List.map_append, largest_append, ← hManaged, hQuantity]

/-! ### Readings -/

open AlpacaPaperOperations

/-- What is read of a position: its quantity, up to that of the target. -/
theorem readPosition_ok {target : ManagedPositionTarget D} {raw : PositionJson D}
    {answer : Option (SessionPosition D)} (h : readPosition target raw = .ok answer) :
    ∃ quantity, raw.qty.getD (ofInt 0) = .ok quantity ∧
      match answer with
      | none => value (pyMin (abs quantity) target.quantity) ≤ 0
      | some position => position.symbol = raw.symbol.str ∧
          position.quantity = pyMin (abs quantity) target.quantity := by
  obtain ⟨quantity, hQty, h⟩ := Fallible.bind_eq_ok.mp h
  refine ⟨quantity, hQty, ?_⟩
  by_cases hZero : value (pyMin (abs quantity) target.quantity) ≤ 0
  · rw [dif_pos hZero] at h
    obtain rfl := Except.ok.inj h
    exact hZero
  · rw [dif_neg hZero] at h
    simp only at h
    split_ifs at h
    · cases h
    · split at h
      · obtain ⟨average, -, h⟩ := Fallible.bind_eq_ok.mp h
        split_ifs at h
        · obtain rfl := Except.ok.inj h
          exact ⟨rfl, rfl⟩
      · obtain ⟨average, -, h⟩ := Fallible.bind_eq_ok.mp h
        split_ifs at h
        · obtain rfl := Except.ok.inj h
          exact ⟨rfl, rfl⟩
      · cases h

/-- A position that is read is one of the account. -/
theorem listPosition_some {api : AlpacaApi β D} {b : β} {target : ManagedPositionTarget D}
    {read : SessionPosition D} (h : listPosition api b target = .ok (some read)) :
    ∃ raw, api.position b target.symbol = .ok (some raw) ∧
      readPosition target raw = .ok (some read) := by
  unfold listPosition at h
  split at h
  · split_ifs at h
    cases h
  · cases h
  · cases h
  · next raw hPosition => exact ⟨raw, hPosition, h⟩

end Daybreak.Orchestration
