import Daybreak.Risk.Service

/-! The in-memory risk store. What each call does to it, and when a reservation that is
refused leaves it as it was: the decision is stored before the reservation is checked, so
that it stays behind unless it was there already. -/

namespace Daybreak.Risk

open Numeric DecimalArithmetic Effect MemoryRiskRepository

variable {D : Type} [DecimalArithmetic D] {repo repo' : MemoryRiskRepository D}
  {d : RiskDecision D} {r : RiskReservation D}

/-! ### Requests and decisions -/

theorem saveRequest_exec (repo : MemoryRiskRepository D) (request : SizingRequest D) :
    (saveRequest request).exec repo =
      if ∀ existing ∈ repo.requests.lookup request.requestId,
          existing.mapDecimal value = request.mapDecimal value then
        (.ok (), { repo with requests := repo.requests.setDefault request.requestId request })
      else (.error (.runtimeError "risk sizing request identity collision"), repo) := by
  simp only [saveRequest, Program.exec_bind, Program.exec_get, Program.exec_ofExcept,
    Dict.saveOnce_eq]
  split_ifs <;> rfl

/-- A decision that is stored under the id equals this one. -/
def DecisionFits (repo : MemoryRiskRepository D) (d : RiskDecision D) : Prop :=
  ∀ existing ∈ repo.decisions.lookup d.decisionId, existing.mapDecimal value = d.mapDecimal value

instance : Decidable (DecisionFits repo d) := by
  unfold DecisionFits; infer_instance

/-- The store with the decision, if it is new. -/
def MemoryRiskRepository.withDecision (repo : MemoryRiskRepository D) (d : RiskDecision D) :
    MemoryRiskRepository D :=
  { repo with decisions := repo.decisions.setDefault d.decisionId d }

theorem saveDecision_exec (repo : MemoryRiskRepository D) (d : RiskDecision D) :
    (saveDecision d).exec repo =
      if DecisionFits repo d then (.ok (), repo.withDecision d)
      else (.error (.runtimeError "risk decision identity collision"), repo) := by
  simp only [saveDecision, Program.exec_bind, Program.exec_get, Program.exec_ofExcept,
    Dict.saveOnce_eq]
  by_cases h : ∀ existing ∈ repo.decisions.lookup d.decisionId,
      existing.mapDecimal value = d.mapDecimal value
  · rw [if_pos h, if_pos (show DecisionFits repo d from h)]
    rfl
  · rw [if_neg h, if_neg (show ¬ DecisionFits repo d from h)]

/-! ### Reservations -/

/-- Another reservation is stored under the id, or the client order id is taken under
another id. -/
def Collides (repo : MemoryRiskRepository D) (r : RiskReservation D) : Prop :=
  ¬ (∀ existing ∈ repo.reservations.lookup r.reservationId,
      existing.mapDecimal value = r.mapDecimal value) ∨
    ∃ item ∈ repo.reservations.entries.map (·.2),
      item.clientOrderId = r.clientOrderId ∧ item.reservationId ≠ r.reservationId

instance : Decidable (Collides repo r) := by
  unfold Collides; infer_instance

/-- The store with the decision and its reservation. -/
def MemoryRiskRepository.withReservation (repo : MemoryRiskRepository D) (d : RiskDecision D)
    (r : RiskReservation D) : MemoryRiskRepository D :=
  { repo.withDecision d with reservations := repo.reservations.insert r.reservationId r }

theorem reserve_refused (h : ¬ DecisionFits repo d) :
    (MemoryRiskRepository.reserve d).exec repo =
      (.error (.runtimeError "risk decision identity collision"), repo) := by
  rw [MemoryRiskRepository.reserve, Program.exec_bind, saveDecision_exec, if_neg h]

theorem reserve_unreserved (h : DecisionFits repo d) (hNone : d.reservation = none) :
    (MemoryRiskRepository.reserve d).exec repo = (.ok (), repo.withDecision d) := by
  rw [MemoryRiskRepository.reserve, Program.exec_bind, saveDecision_exec, if_pos h, hNone]
  rfl

theorem reserve_collides (h : DecisionFits repo d) (hSome : d.reservation = some r)
    (hCollides : Collides repo r) :
    ∃ message, (MemoryRiskRepository.reserve d).exec repo =
      (.error (.runtimeError message), repo.withDecision d) := by
  rw [MemoryRiskRepository.reserve, Program.exec_bind, saveDecision_exec, if_pos h, hSome]
  simp only [Program.exec_bind, Program.exec_get, Program.exec_ofExcept, ensure]
  by_cases hFits : ∀ existing ∈ (repo.withDecision d).reservations.lookup r.reservationId,
      existing.mapDecimal value = r.mapDecimal value
  · have hTaken : ∃ item ∈ (repo.withDecision d).reservations.entries.map (·.2),
        item.clientOrderId = r.clientOrderId ∧ item.reservationId ≠ r.reservationId :=
      hCollides.resolve_left (not_not.mpr hFits)
    rw [if_pos hFits]
    simp only [if_neg (not_not.mpr hTaken)]
    exact ⟨_, rfl⟩
  · rw [if_neg hFits]
    exact ⟨_, rfl⟩

theorem reserve_reserves (h : DecisionFits repo d) (hSome : d.reservation = some r)
    (hFree : ¬ Collides repo r) :
    (MemoryRiskRepository.reserve d).exec repo = (.ok (), repo.withReservation d r) := by
  rw [MemoryRiskRepository.reserve, Program.exec_bind, saveDecision_exec, if_pos h, hSome]
  obtain ⟨hFits, hTaken⟩ := not_or.mp hFree
  have hSame : ∀ existing ∈ (repo.withDecision d).reservations.lookup r.reservationId,
      existing.mapDecimal value = r.mapDecimal value := not_not.mp hFits
  have hUnused : ¬ ∃ item ∈ (repo.withDecision d).reservations.entries.map (·.2),
      item.clientOrderId = r.clientOrderId ∧ item.reservationId ≠ r.reservationId := hTaken
  simp only [Program.exec_bind, Program.exec_get, Program.exec_ofExcept, ensure]
  rw [if_pos hSame]
  simp only [if_pos hUnused]
  rfl

/-! ### When a refused reservation changes nothing -/

omit [DecimalArithmetic D] in
theorem withDecision_eq_self_iff :
    repo.withDecision d = repo ↔ d.decisionId ∈ repo.decisions := by
  constructor
  · intro h
    have hDecisions : repo.decisions.setDefault d.decisionId d = repo.decisions :=
      congrArg MemoryRiskRepository.decisions h
    rw [← hDecisions, ← AList.lookup_isSome, Dict.lookup_setDefault, if_pos rfl]
    rfl
  · intro h
    obtain ⟨existing, hExisting⟩ := Option.isSome_iff_exists.mp (AList.lookup_isSome.mpr h)
    rw [MemoryRiskRepository.withDecision, Dict.setDefault_of_some hExisting]

theorem decisionFits_of_notMem (h : d.decisionId ∉ repo.decisions) : DecisionFits repo d := by
  intro existing hExisting
  exact absurd (AList.lookup_isSome.mp (Option.isSome_of_mem hExisting)) h

/-- A reservation that raises leaves the store as it was if and only if its decision was
stored before, or nothing stands against its reservation. -/
theorem reserve_atomic_iff (repo : MemoryRiskRepository D) (d : RiskDecision D) :
    (∀ e repo', (MemoryRiskRepository.reserve d).exec repo = (.error e, repo') → repo' = repo) ↔
      d.decisionId ∈ repo.decisions ∨ ∀ r ∈ d.reservation, ¬ Collides repo r := by
  constructor
  · intro h
    by_cases hStored : d.decisionId ∈ repo.decisions
    · exact .inl hStored
    · right
      intro r hSome hCollides
      obtain ⟨message, hExec⟩ :=
        reserve_collides (decisionFits_of_notMem hStored) hSome hCollides
      exact hStored (withDecision_eq_self_iff.mp (h _ _ hExec))
  · intro h e repo' hExec
    by_cases hFits : DecisionFits repo d
    · cases hSome : d.reservation with
      | none =>
        rw [reserve_unreserved hFits hSome] at hExec
        simp at hExec
      | some r =>
        by_cases hCollides : Collides repo r
        · have hStored := h.resolve_right fun hFree => hFree r hSome hCollides
          obtain ⟨message, hRaised⟩ := reserve_collides hFits hSome hCollides
          rw [hRaised] at hExec
          rw [← (Prod.mk.inj hExec).2, withDecision_eq_self_iff.mpr hStored]
        · rw [reserve_reserves hFits hSome hCollides] at hExec
          simp at hExec
    · rw [reserve_refused hFits] at hExec
      exact (Prod.mk.inj hExec).2.symm

/-- The sample's request, sized once more in its run under an id of its own. -/
def resizedRequest (D : Type) [DecimalArithmetic D] : SizingRequest D :=
  { sampleRequest D with requestId := "request-2" }

/-- A ticker that is sized twice in one run has one client order id for two reservations. The
second one is refused, and its decision is stored all the same. -/
theorem resized_reservation_leaves_decision :
    ∃ (repo repo' : MemoryRiskRepository ℚ) (d : RiskDecision ℚ) (e : PyError),
      repo = ((evaluate (sampleCanonical ℚ) (sampleRequest ℚ)).exec empty).2 ∧
      sizePosition (sampleCanonical ℚ) (resizedRequest ℚ) = .ok d ∧ d.Valid ∧
      (MemoryRiskRepository.reserve d).exec repo = (.error e, repo') ∧ repo' ≠ repo := by
  obtain ⟨repo, hRepo⟩ : ∃ repo, repo =
    ((evaluate (sampleCanonical ℚ) (sampleRequest ℚ)).exec empty).2 := ⟨_, rfl⟩
  have hSized : ∃ d, sizePosition (sampleCanonical ℚ) (resizedRequest ℚ) = .ok d ∧ d.Valid ∧
      d.decisionId ∉ repo.decisions ∧ ∃ r ∈ d.reservation, Collides repo r := by
    rw [hRepo]
    decide +kernel
  obtain ⟨d, hOk, hValid, hNew, r, hSome, hCollides⟩ := hSized
  obtain ⟨message, hExec⟩ := reserve_collides (decisionFits_of_notMem hNew) hSome hCollides
  exact ⟨repo, _, d, _, hRepo, hOk, hValid, hExec,
    fun h => hNew (withDecision_eq_self_iff.mp h)⟩

/-! ### Every order of calls -/

/-- A call to the store with an object that pydantic constructed. -/
inductive Call (D : Type) [DecimalArithmetic D] where
  | saveRequest (request : SizingRequest D)
  | saveDecision (decision : {d : RiskDecision D // d.Valid})
  | reserve (decision : {d : RiskDecision D // d.Valid})

namespace Call

def perform : Call D → Store D Unit
  | saveRequest request => MemoryRiskRepository.saveRequest request
  | saveDecision decision => MemoryRiskRepository.saveDecision decision.1
  | reserve decision => MemoryRiskRepository.reserve decision.1

/-- The store after a call, whether the call returned or raised. -/
def after (repo : MemoryRiskRepository D) (call : Call D) : MemoryRiskRepository D :=
  (call.perform.exec repo).2

/-- The store after a sequence of calls. -/
def afterAll (repo : MemoryRiskRepository D) (calls : List (Call D)) : MemoryRiskRepository D :=
  calls.foldl after repo

/-- What a call can do to the store. -/
theorem after_cases (repo : MemoryRiskRepository D) (call : Call D) :
    after repo call = repo ∨
    (∃ request, after repo call =
      { repo with requests := repo.requests.setDefault request.requestId request }) ∨
    (∃ d, after repo call = repo.withDecision d) ∨
    ∃ d r, d.Valid ∧ DecisionFits repo d ∧ d.reservation = some r ∧ ¬ Collides repo r ∧
      after repo call = repo.withReservation d r := by
  cases call with
  | saveRequest request =>
    simp only [after, perform, saveRequest_exec]
    split_ifs with hFits
    · exact .inr (.inl ⟨request, rfl⟩)
    · exact .inl rfl
  | saveDecision decision =>
    simp only [after, perform, saveDecision_exec]
    split_ifs with hFits
    · exact .inr (.inr (.inl ⟨decision.1, rfl⟩))
    · exact .inl rfl
  | reserve decision =>
    obtain ⟨d, hValid⟩ := decision
    simp only [after, perform]
    by_cases hFits : DecisionFits repo d
    · cases hSome : d.reservation with
      | none =>
        rw [reserve_unreserved hFits hSome]
        exact .inr (.inr (.inl ⟨d, rfl⟩))
      | some r =>
        by_cases hCollides : Collides repo r
        · obtain ⟨message, hExec⟩ := reserve_collides hFits hSome hCollides
          rw [hExec]
          exact .inr (.inr (.inl ⟨d, rfl⟩))
        · rw [reserve_reserves hFits hSome hCollides]
          exact .inr (.inr (.inr ⟨d, r, hValid, hFits, hSome, hCollides, rfl⟩))
    · rw [reserve_refused hFits]
      exact .inl rfl

end Call

/-! ### Nothing stored is replaced -/

/-- The later store holds every object of the earlier one. A repeated reservation is written
again, so that its amounts may be spelled with other digits. -/
structure Keeps (earlier later : MemoryRiskRepository D) : Prop where
  requests : ∀ id request, earlier.requests.lookup id = some request →
    later.requests.lookup id = some request
  decisions : ∀ id d, earlier.decisions.lookup id = some d → later.decisions.lookup id = some d
  reservations : ∀ id r, earlier.reservations.lookup id = some r →
    ∃ r', later.reservations.lookup id = some r' ∧ r'.mapDecimal value = r.mapDecimal value

theorem Keeps.refl (repo : MemoryRiskRepository D) : Keeps repo repo :=
  ⟨fun _ _ h => h, fun _ _ h => h, fun _ r h => ⟨r, h, rfl⟩⟩

theorem Keeps.trans {first second third : MemoryRiskRepository D} (h : Keeps first second)
    (h' : Keeps second third) : Keeps first third where
  requests id request hStored := h'.requests id request (h.requests id request hStored)
  decisions id d hStored := h'.decisions id d (h.decisions id d hStored)
  reservations id r hStored := by
    obtain ⟨r', hKept, hSame⟩ := h.reservations id r hStored
    obtain ⟨r'', hLater, hSame'⟩ := h'.reservations id r' hKept
    exact ⟨r'', hLater, hSame'.trans hSame⟩

theorem keeps_withDecision (repo : MemoryRiskRepository D) (d : RiskDecision D) :
    Keeps repo (repo.withDecision d) where
  requests _ _ h := h
  decisions _ _ h := Dict.lookup_setDefault_of_some h
  reservations _ r h := ⟨r, h, rfl⟩

theorem keeps_withReservation (d : RiskDecision D) (hFree : ¬ Collides repo r) :
    Keeps repo (repo.withReservation d r) where
  requests _ _ h := h
  decisions _ _ h := Dict.lookup_setDefault_of_some h
  reservations id old h := by
    simp only [MemoryRiskRepository.withReservation, Dict.lookup_insert_eq]
    by_cases hId : id = r.reservationId
    · rw [if_pos hId]
      exact ⟨r, rfl, (not_not.mp (not_or.mp hFree).1 old (hId ▸ h)).symm⟩
    · rw [if_neg hId]
      exact ⟨old, h, rfl⟩

theorem Call.keeps_after (repo : MemoryRiskRepository D) (call : Call D) :
    Keeps repo (call.after repo) := by
  obtain h | ⟨request, h⟩ | ⟨d, h⟩ | ⟨d, r, -, -, -, hFree, h⟩ := Call.after_cases repo call
  · rw [h]
    exact .refl repo
  · rw [h]
    exact ⟨fun _ _ hStored => Dict.lookup_setDefault_of_some hStored, fun _ _ hStored => hStored,
      fun _ r hStored => ⟨r, hStored, rfl⟩⟩
  · rw [h]
    exact keeps_withDecision repo d
  · rw [h]
    exact keeps_withReservation d hFree

theorem Call.keeps_afterAll (repo : MemoryRiskRepository D) (calls : List (Call D)) :
    Keeps repo (Call.afterAll repo calls) := by
  induction calls generalizing repo with
  | nil => exact .refl repo
  | cons call rest ih => exact (call.keeps_after repo).trans (ih (call.after repo))

/-! ### The invariant of the store -/

/-- The decision that a reservation belongs to. -/
structure Backs (d : RiskDecision D) (r : RiskReservation D) : Prop where
  reservation : d.reservation.map (RiskReservation.mapDecimal value) = some (r.mapDecimal value)
  requestId : d.requestId = r.requestId
  quantity : d.finalQuantity = r.reservedQuantity
  notional : d.reservedNotional.map value = some (value r.reservedNotional)
  modeledRisk : d.reservedModeledRisk.map value = some (value r.reservedModeledRisk)

/-- A constructed decision backs its own reservation. -/
theorem RiskDecision.Valid.backs (hValid : d.Valid) (hSome : d.reservation = some r) :
    Backs d r := by
  obtain ⟨-, -, hApproved, hRejected⟩ := hValid
  cases hDecision : d.decision with
  | approved =>
    obtain ⟨-, -, -, -, -, -, -, -, -, -, r', hMem, hRequest, -, -, -, hQuantity, hNotional, hRisk,
      -⟩ := hApproved hDecision
    obtain rfl : r = r' := Option.some.inj (hSome.symm.trans hMem)
    exact ⟨by rw [hSome]; rfl, hRequest.symm, hQuantity.symm, hNotional.symm, hRisk.symm⟩
  | rejected =>
    obtain ⟨-, -, hNone, -⟩ := hRejected hDecision
    simp [hSome] at hNone

/-- A decision equal to one that backs a reservation backs it too. -/
theorem Backs.congr {d' : RiskDecision D} (h : Backs d r)
    (hSame : d'.mapDecimal value = d.mapDecimal value) : Backs d' r where
  reservation := (congrArg RiskDecision.reservation hSame).trans h.reservation
  requestId := (congrArg RiskDecision.requestId hSame).trans h.requestId
  quantity := (congrArg RiskDecision.finalQuantity hSame).trans h.quantity
  notional := (congrArg RiskDecision.reservedNotional hSame).trans h.notional
  modeledRisk := (congrArg RiskDecision.reservedModeledRisk hSame).trans h.modeledRisk

structure StoreConsistent (repo : MemoryRiskRepository D) : Prop where
  keyed : ∀ id r, repo.reservations.lookup id = some r → r.reservationId = id
  backed : ∀ id r, repo.reservations.lookup id = some r →
    ∃ key d, repo.decisions.lookup key = some d ∧ Backs d r
  distinct : ∀ id id' r r', repo.reservations.lookup id = some r →
    repo.reservations.lookup id' = some r' → id ≠ id' → r.clientOrderId ≠ r'.clientOrderId

theorem empty_consistent : StoreConsistent (empty : MemoryRiskRepository D) :=
  ⟨by simp [empty], by simp [empty], by simp [empty]⟩

/-- The reservations stay as they are and no decision is lost. -/
theorem StoreConsistent.of_keeps (h : StoreConsistent repo) (hKeeps : Keeps repo repo')
    (hSame : repo'.reservations = repo.reservations) : StoreConsistent repo' where
  keyed := by
    rw [hSame]
    exact h.keyed
  backed := by
    rw [hSame]
    intro id r hStored
    obtain ⟨key, d, hDecision, hBacks⟩ := h.backed id r hStored
    exact ⟨key, d, hKeeps.decisions key d hDecision, hBacks⟩
  distinct := by
    rw [hSame]
    exact h.distinct

/-- The decision stored under an id after a write that was not refused. -/
theorem exists_withDecision (hFits : DecisionFits repo d) :
    ∃ stored, (repo.withDecision d).decisions.lookup d.decisionId = some stored ∧
      stored.mapDecimal value = d.mapDecimal value := by
  cases hOld : repo.decisions.lookup d.decisionId with
  | none =>
    exact ⟨d, by simp [MemoryRiskRepository.withDecision, Dict.setDefault_of_none hOld], rfl⟩
  | some stored =>
    refine ⟨stored, ?_, hFits stored hOld⟩
    rw [MemoryRiskRepository.withDecision, Dict.setDefault_of_some hOld]
    exact hOld

/-- A client order id that is free under every other id. -/
theorem clientOrderId_ne (hFree : ¬ Collides repo r) (h : StoreConsistent repo) {id : String}
    {item : RiskReservation D} (hItem : repo.reservations.lookup id = some item)
    (hId : id ≠ r.reservationId) : item.clientOrderId ≠ r.clientOrderId := by
  intro hSame
  refine (not_or.mp hFree).2 ⟨item, ?_, hSame, ?_⟩
  · exact List.mem_map_of_mem (AList.mem_lookup_iff.mp hItem)
  · rw [h.keyed id item hItem]
    exact hId

theorem StoreConsistent.withReservation (h : StoreConsistent repo) (hValid : d.Valid)
    (hFits : DecisionFits repo d) (hSome : d.reservation = some r) (hFree : ¬ Collides repo r) :
    StoreConsistent (repo.withReservation d r) := by
  have hKeeps := keeps_withReservation d hFree
  constructor
  · intro id item hItem
    simp only [MemoryRiskRepository.withReservation, Dict.lookup_insert_eq] at hItem
    split_ifs at hItem with hId
    · rw [← Option.some.inj hItem, hId]
    · exact h.keyed id item hItem
  · intro id item hItem
    simp only [MemoryRiskRepository.withReservation, Dict.lookup_insert_eq] at hItem
    split_ifs at hItem with hId
    · obtain ⟨stored, hStored, hSame⟩ := exists_withDecision hFits
      obtain rfl := Option.some.inj hItem
      exact ⟨d.decisionId, stored, hStored, (hValid.backs hSome).congr hSame⟩
    · obtain ⟨key, old, hDecision, hBacks⟩ := h.backed id item hItem
      exact ⟨key, old, hKeeps.decisions key old hDecision, hBacks⟩
  · intro id id' item item' hItem hItem' hNe
    simp only [MemoryRiskRepository.withReservation, Dict.lookup_insert_eq] at hItem hItem'
    split_ifs at hItem with hId
    · obtain rfl := Option.some.inj hItem
      rw [if_neg (hId ▸ hNe.symm)] at hItem'
      exact (clientOrderId_ne hFree h hItem' (hId ▸ hNe.symm)).symm
    · split_ifs at hItem' with hId'
      · obtain rfl := Option.some.inj hItem'
        exact clientOrderId_ne hFree h hItem hId
      · exact h.distinct id id' item item' hItem hItem' hNe

theorem Call.consistent_after (call : Call D) (h : StoreConsistent repo) :
    StoreConsistent (call.after repo) := by
  have hKeeps := call.keeps_after repo
  obtain hEq | ⟨request, hEq⟩ | ⟨d, hEq⟩ | ⟨d, r, hValid, hFits, hSome, hFree, hEq⟩ :=
    Call.after_cases repo call
  · rw [hEq]
    exact h
  · exact h.of_keeps hKeeps (by rw [hEq])
  · exact h.of_keeps hKeeps (by rw [hEq]; rfl)
  · rw [hEq]
    exact h.withReservation hValid hFits hSome hFree

theorem Call.consistent_afterAll (calls : List (Call D)) (h : StoreConsistent repo) :
    StoreConsistent (Call.afterAll repo calls) := by
  induction calls generalizing repo with
  | nil => exact h
  | cons call rest ih => exact ih (call.consistent_after h)

/-- After every sequence of calls the store is consistent, and whatever is called next leaves
each stored object in place. -/
theorem risk_store_invariant (calls later : List (Call D)) :
    StoreConsistent (Call.afterAll empty calls) ∧
      Keeps (Call.afterAll empty calls) (Call.afterAll empty (calls ++ later)) := by
  constructor
  · exact Call.consistent_afterAll calls empty_consistent
  · rw [Call.afterAll, Call.afterAll, List.foldl_append]
    exact Call.keeps_afterAll _ later

end Daybreak.Risk
