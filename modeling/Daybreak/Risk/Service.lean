import Daybreak.Effect.Dict
import Daybreak.Effect.Program
import Daybreak.Risk.Batch

/-! The risk service over its in-memory repository. A sequence of calls that all
return leaves decisions that replay from the stored requests, provided that no
call stores a request whose decision was sized on another session. A batch with
an approval before its last request does exactly that. -/

namespace Daybreak.Risk

open Numeric DecimalArithmetic Effect

variable {D : Type} [DecimalArithmetic D]

/-! ### Repository -/

structure MemoryRiskRepository (D : Type) where
  requests : Dict String (SizingRequest D)
  decisions : Dict String (RiskDecision D)
  reservations : Dict String (RiskReservation D)

namespace MemoryRiskRepository

abbrev Store (D α : Type) := Program (MemoryRiskRepository D) PyError α

def empty : MemoryRiskRepository D := ⟨∅, ∅, ∅⟩

def saveRequest (request : SizingRequest D) : Store D Unit := do
  let repo ← get
  let requests ← Program.ofExcept (repo.requests.saveOnce (SizingRequest.mapDecimal value)
    (.runtimeError "risk sizing request identity collision") request.requestId request)
  set { repo with requests }

def saveDecision (decision : RiskDecision D) : Store D Unit := do
  let repo ← get
  let decisions ← Program.ofExcept (repo.decisions.saveOnce (RiskDecision.mapDecimal value)
    (.runtimeError "risk decision identity collision") decision.decisionId decision)
  set { repo with decisions }

def reserve (decision : RiskDecision D) : Store D Unit := do
  saveDecision decision
  match decision.reservation with
  | none => pure ()
  | some reservation =>
    let repo ← get
    let id := reservation.reservationId
    Program.ofExcept (ensure (∀ existing ∈ repo.reservations.lookup id,
      existing.mapDecimal value = reservation.mapDecimal value)
      (.runtimeError "risk reservation identity collision"))
    Program.ofExcept (ensure (¬ ∃ item ∈ repo.reservations.entries.map (·.2),
      item.clientOrderId = reservation.clientOrderId ∧ item.reservationId ≠ id)
      (.runtimeError "duplicate client_order_id reservation"))
    set { repo with reservations := repo.reservations.insert id reservation }

end MemoryRiskRepository

/-! ### Service -/

open MemoryRiskRepository

def storeOutcome (decision : RiskDecision D) : Store D Unit :=
  if decision.reservation.isSome then MemoryRiskRepository.reserve decision
  else saveDecision decision

def evaluate (H : Canonical D) (request : SizingRequest D) : Store D (RiskDecision D) := do
  saveRequest request
  let decision ← Program.ofExcept (sizePosition H request)
  storeOutcome decision
  return decision

/-- The loop of `evaluate_batch`; its two lists always have one length. -/
def storePairs : List (SizingRequest D × RiskDecision D) → Store D Unit
  | [] => pure ()
  | (request, decision) :: rest => do
    saveRequest request
    storeOutcome decision
    storePairs rest

def evaluateBatch {newYorkDate : Timestamp → Date} (H : Canonical D)
    (batch : BatchSizingRequest D newYorkDate) : Store D (BatchSizingResult D) := do
  let result ← Program.ofExcept (sizeApprovedBatch H batch)
  storePairs (batch.requests.zip result.decisions)
  return result

def verifyRiskReplay (H : Canonical D) (request : SizingRequest D) (stored : RiskDecision D) :
    Result Unit := do
  let replayed ← sizePosition H request
  ensure (H.decisionJson replayed = H.decisionJson stored) (.runtimeError "risk replay mismatch")

/-! ### What a call that returns has stored -/

theorem saveRequest_ok {r : SizingRequest D} {repo repo' : MemoryRiskRepository D} {u : Unit}
    (h : (saveRequest r).exec repo = (.ok u, repo')) :
    repo' = { repo with requests := repo.requests.setDefault r.requestId r } := by
  simp only [saveRequest, Program.exec_bind_ok, Program.exec_get, Program.exec_ofExcept,
    Program.exec_set, Prod.mk.injEq, Dict.saveOnce_eq_ok, Except.ok.injEq] at h
  obtain ⟨_, _, ⟨rfl, rfl⟩, _, _, ⟨⟨rfl, -⟩, rfl⟩, -, rfl⟩ := h
  rfl

theorem saveDecision_ok {d : RiskDecision D} {repo repo' : MemoryRiskRepository D} {u : Unit}
    (h : (saveDecision d).exec repo = (.ok u, repo')) :
    repo' = { repo with decisions := repo.decisions.setDefault d.decisionId d } := by
  simp only [saveDecision, Program.exec_bind_ok, Program.exec_get, Program.exec_ofExcept,
    Program.exec_set, Prod.mk.injEq, Dict.saveOnce_eq_ok, Except.ok.injEq] at h
  obtain ⟨_, _, ⟨rfl, rfl⟩, _, _, ⟨⟨rfl, -⟩, rfl⟩, -, rfl⟩ := h
  rfl

theorem storeOutcome_ok {d : RiskDecision D} {repo repo' : MemoryRiskRepository D} {u : Unit}
    (h : (storeOutcome d).exec repo = (.ok u, repo')) :
    repo'.requests = repo.requests ∧
      repo'.decisions = repo.decisions.setDefault d.decisionId d := by
  unfold storeOutcome at h
  split_ifs at h with hSome
  · obtain ⟨reservation, hReservation⟩ := Option.isSome_iff_exists.mp hSome
    simp only [MemoryRiskRepository.reserve, hReservation, Program.exec_bind_ok, Program.exec_get,
      Program.exec_ofExcept, Program.exec_set, Prod.mk.injEq] at h
    obtain ⟨_, _, hSave, _, _, ⟨hRepo, rfl⟩, _, _, ⟨-, rfl⟩, _, _, ⟨-, rfl⟩, -, rfl⟩ := h
    obtain rfl := Except.ok.inj hRepo
    rw [saveDecision_ok hSave]
    exact ⟨rfl, rfl⟩
  · rw [saveDecision_ok h]
    exact ⟨rfl, rfl⟩

/-- Decisions are stored under the id of their request, one for each request. -/
structure Paired (repo : MemoryRiskRepository D) : Prop where
  keyed : ∀ k d, repo.decisions.lookup k = some d → k = "risk-" ++ d.requestId
  decided : ∀ id, repo.decisions.lookup ("risk-" ++ id) = none ↔ repo.requests.lookup id = none

/-- Every stored decision names and reproduces the request stored under its id. -/
def Replayable (H : Canonical D) (repo : MemoryRiskRepository D) : Prop :=
  ∀ k d, repo.decisions.lookup k = some d →
    ∃ r, repo.requests.lookup d.requestId = some r ∧ d.inputHash = H.requestSha256 r ∧
      verifyRiskReplay H r d = .ok ()

omit [DecimalArithmetic D] in
theorem empty_paired : Paired (empty : MemoryRiskRepository D) :=
  ⟨by simp [empty], by simp [empty]⟩

theorem empty_replayable (H : Canonical D) : Replayable H (empty : MemoryRiskRepository D) := by
  simp [Replayable, empty]

/-- A request that is new to the repository was sized as it stands. -/
def SizedAsStored (repo : MemoryRiskRepository D) (r : SizingRequest D)
    (session : SessionRiskState D) : Prop :=
  repo.requests.lookup r.requestId = none → r.session = session

/-- A request and its decision stored together. -/
theorem store_replayable {H : Canonical D} {repo repo₁ repo₂ : MemoryRiskRepository D}
    {r : SizingRequest D} {session : SessionRiskState D} {d : RiskDecision D} {u v : Unit}
    (hPaired : Paired repo) (hReplay : Replayable H repo) (hFaithful : SizedAsStored repo r session)
    (hSized : sizePosition H { r with session := session } = .ok d)
    (hRequest : (saveRequest r).exec repo = (.ok u, repo₁))
    (hOutcome : (storeOutcome d).exec repo₁ = (.ok v, repo₂)) :
    Paired repo₂ ∧ Replayable H repo₂ := by
  obtain ⟨hDecisionId, hRequestId, hHash⟩ := (sizePosition_identifies_valid hSized).1
  simp only at hDecisionId hRequestId hHash
  obtain ⟨hRequests, hDecisions⟩ := storeOutcome_ok hOutcome
  rw [saveRequest_ok hRequest] at hRequests hDecisions
  simp only [hDecisionId] at hRequests hDecisions
  cases hOld : repo.requests.lookup r.requestId with
  | some old =>
    obtain ⟨stored, hStored⟩ : ∃ stored, repo.decisions.lookup ("risk-" ++ r.requestId) =
        some stored := by
      rw [← Option.ne_none_iff_exists', Ne, hPaired.decided, hOld]
      simp
    rw [Dict.setDefault_of_some hOld] at hRequests
    rw [Dict.setDefault_of_some hStored] at hDecisions
    obtain ⟨requests, decisions, reservations⟩ := repo₂
    obtain ⟨rfl, rfl⟩ := And.intro hRequests hDecisions
    exact ⟨⟨hPaired.keyed, hPaired.decided⟩, hReplay⟩
  | none =>
    have hFree := (hPaired.decided _).mpr hOld
    obtain rfl := hFaithful hOld
    rw [Dict.setDefault_of_none hOld] at hRequests
    rw [Dict.setDefault_of_none hFree] at hDecisions
    have hReplayed : verifyRiskReplay H r d = .ok () := by
      simp [verifyRiskReplay, Result.bind_eq_ok, hSized]
    constructor
    · constructor
      · intro k e he
        rw [hDecisions, Dict.lookup_insert_eq] at he
        split_ifs at he with hk
        · rw [hk, ← Option.some.inj he, hRequestId]
        · exact hPaired.keyed k e he
      · intro id
        rw [hDecisions, hRequests, Dict.lookup_insert_eq, Dict.lookup_insert_eq]
        by_cases hId : id = r.requestId
        · simp [hId]
        · simp [hId, hPaired.decided]
    · intro k e he
      rw [hDecisions, Dict.lookup_insert_eq] at he
      rw [hRequests, Dict.lookup_insert_eq]
      split_ifs at he with hk
      · obtain rfl := Option.some.inj he
        exact ⟨r, by simp [hRequestId], hHash, hReplayed⟩
      · have hOther : e.requestId ≠ r.requestId := by
          intro hEq
          exact hk (hEq ▸ hPaired.keyed k e he)
        rw [if_neg hOther]
        exact hReplay k e he

theorem store_requests {repo repo₁ repo₂ : MemoryRiskRepository D} {r : SizingRequest D}
    {d : RiskDecision D} {u v : Unit} (hRequest : (saveRequest r).exec repo = (.ok u, repo₁))
    (hOutcome : (storeOutcome d).exec repo₁ = (.ok v, repo₂)) (id : String)
    (hNone : repo₂.requests.lookup id = none) : repo.requests.lookup id = none := by
  rw [(storeOutcome_ok hOutcome).1, saveRequest_ok hRequest] at hNone
  by_contra h
  obtain ⟨old, hOld⟩ := Option.ne_none_iff_exists'.mp h
  simp [Dict.lookup_setDefault_of_some hOld] at hNone

/-- Each request that is new to the repository carries the session `s` that the
loop starts from, and follows only requests that are refused in it. -/
def FreshSizedAsStored (repo : MemoryRiskRepository D) (s : SessionRiskState D)
    (requests : List (SizingRequest D)) : Prop :=
  ∀ before r after, requests = before ++ r :: after →
    repo.requests.lookup r.requestId = none →
    r.session = s ∧ ∀ q ∈ before, ¬ Accepts { q with session := s }

theorem FreshSizedAsStored.head {repo : MemoryRiskRepository D} {s : SessionRiskState D}
    {r : SizingRequest D} {rs : List (SizingRequest D)} (h : FreshSizedAsStored repo s (r :: rs)) :
    SizedAsStored repo r s :=
  fun hFresh => (h [] r rs rfl hFresh).1

theorem FreshSizedAsStored.tail_of_refused {repo repo' : MemoryRiskRepository D}
    {s : SessionRiskState D} {r : SizingRequest D} {rs : List (SizingRequest D)}
    (h : FreshSizedAsStored repo s (r :: rs))
    (hGrows : ∀ id, repo'.requests.lookup id = none → repo.requests.lookup id = none) :
    FreshSizedAsStored repo' s rs := by
  rintro before q after rfl hFresh
  obtain ⟨hSession, hRefused⟩ := h (r :: before) q after rfl (hGrows _ hFresh)
  exact ⟨hSession, fun p hp => hRefused p (List.mem_cons_of_mem _ hp)⟩

/-- After an approval nothing may be new. -/
theorem FreshSizedAsStored.tail_of_accepted {repo repo' : MemoryRiskRepository D}
    {s s' : SessionRiskState D} {r : SizingRequest D} {rs : List (SizingRequest D)}
    (h : FreshSizedAsStored repo s (r :: rs)) (hAccepts : Accepts { r with session := s })
    (hGrows : ∀ id, repo'.requests.lookup id = none → repo.requests.lookup id = none) :
    FreshSizedAsStored repo' s' rs := by
  rintro before q after rfl hFresh
  obtain ⟨-, hRefused⟩ := h (r :: before) q after rfl (hGrows _ hFresh)
  exact absurd hAccepts (hRefused r List.mem_cons_self)

theorem storePairs_replayable {H : Canonical D} {s s' : SessionRiskState D}
    {rs : List (SizingRequest D)} {ds : List (RiskDecision D)} (hRun : BatchRun H s rs ds s')
    {repo repo' : MemoryRiskRepository D} {u : Unit} (hPaired : Paired repo)
    (hReplay : Replayable H repo) (hFresh : FreshSizedAsStored repo s rs)
    (h : (storePairs (rs.zip ds)).exec repo = (.ok u, repo')) :
    Paired repo' ∧ Replayable H repo' := by
  induction hRun generalizing repo with
  | done s =>
    simp only [List.zip_nil_left, storePairs, Program.exec_pure, Prod.mk.injEq] at h
    exact h.2 ▸ ⟨hPaired, hReplay⟩
  | reject hSized _ _ ih =>
    simp only [List.zip_cons_cons, storePairs, Program.exec_bind_ok] at h
    obtain ⟨_, _, hRequest, _, _, hOutcome, hRest⟩ := h
    obtain ⟨hPaired', hReplay'⟩ :=
      store_replayable hPaired hReplay hFresh.head hSized hRequest hOutcome
    exact ih hPaired' hReplay' (hFresh.tail_of_refused (store_requests hRequest hOutcome)) hRest
  | approve hSized ha _ _ _ ih =>
    simp only [List.zip_cons_cons, storePairs, Program.exec_bind_ok] at h
    obtain ⟨_, _, hRequest, _, _, hOutcome, hRest⟩ := h
    obtain ⟨hPaired', hReplay'⟩ :=
      store_replayable hPaired hReplay hFresh.head hSized hRequest hOutcome
    have hAccepts := (sizePosition_approved_iff hSized).mp ha
    exact ih hPaired' hReplay'
      (hFresh.tail_of_accepted hAccepts (store_requests hRequest hOutcome)) hRest

/-! ### Runs -/

inductive RiskCall (D : Type) [DecimalArithmetic D] (newYorkDate : Timestamp → Date) where
  | evaluate (request : SizingRequest D)
  | evaluateBatch (batch : BatchSizingRequest D newYorkDate)

namespace RiskCall

variable {newYorkDate : Timestamp → Date}

def run (H : Canonical D) : RiskCall D newYorkDate → Store D Unit
  | .evaluate request => do let _ ← Risk.evaluate H request
  | .evaluateBatch batch => do let _ ← Risk.evaluateBatch H batch

/-- The condition on a call, in the repository it finds. -/
def StoresWhatItSizes (repo : MemoryRiskRepository D) : RiskCall D newYorkDate → Prop
  | .evaluate _ => True
  | .evaluateBatch batch => FreshSizedAsStored repo batch.first.session batch.requests

theorem run_step {H : Canonical D} {call : RiskCall D newYorkDate}
    {repo repo' : MemoryRiskRepository D} {u : Unit} (h : (call.run H).exec repo = (.ok u, repo'))
    (hPaired : Paired repo) (hReplay : Replayable H repo) (hCall : call.StoresWhatItSizes repo) :
    Paired repo' ∧ Replayable H repo' := by
  cases call with
  | evaluate request =>
    simp only [run, Risk.evaluate, Program.exec_bind_ok, Program.exec_ofExcept, Program.exec_pure,
      Prod.mk.injEq] at h
    obtain ⟨_, _, ⟨_, _, hRequest, d, _, ⟨hSized, rfl⟩, _, _, hOutcome, -, rfl⟩, -, rfl⟩ := h
    have hStands : SizedAsStored repo request request.session := fun _ => rfl
    exact store_replayable hPaired hReplay hStands hSized hRequest hOutcome
  | evaluateBatch batch =>
    simp only [run, Risk.evaluateBatch, Program.exec_bind_ok, Program.exec_ofExcept,
      Program.exec_pure, Prod.mk.injEq] at h
    obtain ⟨_, _, ⟨result, _, ⟨hSized, rfl⟩, _, _, hStore, -, rfl⟩, -, rfl⟩ := h
    exact storePairs_replayable (batchRun_of_sizeRequests hSized) hPaired hReplay hCall hStore

end RiskCall

def runCalls {newYorkDate : Timestamp → Date} (H : Canonical D) :
    List (RiskCall D newYorkDate) → Store D Unit
  | [] => pure ()
  | call :: rest => do
    call.run H
    runCalls H rest

theorem runCalls_append {newYorkDate : Timestamp → Date} {H : Canonical D}
    {xs ys : List (RiskCall D newYorkDate)} {repo repo' : MemoryRiskRepository D} :
    (runCalls H (xs ++ ys)).exec repo = (.ok (), repo') ↔
      ∃ mid, (runCalls H xs).exec repo = (.ok (), mid) ∧
        (runCalls H ys).exec mid = (.ok (), repo') := by
  induction xs generalizing repo with
  | nil => simp [runCalls, eq_comm]
  | cons x xs ih =>
    simp only [List.cons_append, runCalls, Program.exec_bind_ok, ih]
    constructor
    · rintro ⟨u, first, hFirst, mid, hMid, hRest⟩
      exact ⟨mid, ⟨u, first, hFirst, hMid⟩, hRest⟩
    · rintro ⟨mid, ⟨u, first, hFirst, hMid⟩, hRest⟩
      exact ⟨u, first, hFirst, mid, hMid, hRest⟩

/-- In a run whose calls all return, and each store what they size, the
repository replays. -/
theorem run_replayable {newYorkDate : Timestamp → Date} (H : Canonical D)
    (calls : List (RiskCall D newYorkDate)) (repo : MemoryRiskRepository D)
    (h : (runCalls H calls).exec empty = (.ok (), repo))
    (hCalls : ∀ before call after state, calls = before ++ call :: after →
      (runCalls H before).exec empty = (.ok (), state) → call.StoresWhatItSizes state) :
    Replayable H repo := by
  suffices Paired repo ∧ Replayable H repo from this.2
  induction calls using List.reverseRecOn generalizing repo with
  | nil =>
    simp only [runCalls, Program.exec_pure, Prod.mk.injEq] at h
    exact h.2 ▸ ⟨empty_paired, empty_replayable H⟩
  | append_singleton calls call ih =>
    obtain ⟨mid, hMid, hLast⟩ := runCalls_append.mp h
    simp only [runCalls, Program.exec_bind_ok, Program.exec_pure, Prod.mk.injEq] at hLast
    obtain ⟨u, last, hCall, -, rfl⟩ := hLast
    have hBefore := ih mid hMid fun before c after state hSplit =>
      hCalls before c (after ++ [call]) state (by simp [hSplit])
    exact RiskCall.run_step hCall hBefore.1 hBefore.2 (hCalls calls call [] mid rfl hMid)

/-- The second setup as a batch of its own. -/
def secondBatch : BatchSizingRequest Decimal sampleDate where
  requests := [{ secondRequest Decimal with finalRank := 1 }]
  nonempty := by simp
  requests_valid := by decide +kernel
  rank_order := by decide +kernel

theorem FreshSizedAsStored.singleton (repo : MemoryRiskRepository D) (r : SizingRequest D) :
    FreshSizedAsStored repo r.session [r] := by
  intro before q after hSplit hFresh
  obtain ⟨rfl, hTail⟩ | ⟨before', rfl, hTail⟩ := List.cons_eq_append_iff.mp hSplit
  · obtain ⟨rfl, -⟩ := List.cons.inj hTail
    exact ⟨rfl, by simp⟩
  · simp at hTail

/-- A request on its own, then a batch of one. -/
def sampleCalls : List (RiskCall Decimal sampleDate) :=
  [.evaluate (sampleRequest Decimal), .evaluateBatch secondBatch]

theorem sampleCalls_replayable :
    ∃ repo, (runCalls (sampleCanonical Decimal) sampleCalls).exec empty = (.ok (), repo) ∧
      Replayable (sampleCanonical Decimal) repo := by
  have h : ((runCalls (sampleCanonical Decimal) sampleCalls).exec empty).1 = .ok () := by
    decide +kernel
  have hCalls : ∀ call ∈ sampleCalls, ∀ state, call.StoresWhatItSizes state := by
    simp only [sampleCalls, List.forall_mem_cons]
    exact ⟨fun _ => trivial, fun state => .singleton state _, by simp⟩
  exact ⟨_, Prod.ext h rfl, run_replayable (sampleCanonical Decimal) sampleCalls _ (Prod.ext h rfl)
    fun before call after state hSplit _ => hCalls call (hSplit ▸ by simp) state⟩

/-- The sample batch in decimals: both requests are approved. -/
def approvedBatch : BatchSizingRequest Decimal sampleDate where
  requests := [sampleRequest Decimal, secondRequest Decimal]
  nonempty := by simp
  requests_valid := by decide +kernel
  rank_order := by decide +kernel

def approvedOutcome : Except PyError Unit × MemoryRiskRepository Decimal :=
  (runCalls (sampleCanonical Decimal) [.evaluateBatch approvedBatch]).exec empty

/-- The second decision of the batch hashes a request that was not stored. -/
theorem approvedBatch_not_replayable :
    ∃ repo, (runCalls (sampleCanonical Decimal) [.evaluateBatch approvedBatch]).exec empty =
      (.ok (), repo) ∧ ¬ Replayable (sampleCanonical Decimal) repo := by
  have h : approvedOutcome.1 = .ok () := by decide +kernel
  have hDecision : (approvedOutcome.2.decisions.lookup "risk-request-2").map
      (fun d => (d.requestId, d.inputHash)) = some ("request-2", "request-2/1") := by
    decide +kernel
  have hRequest : (approvedOutcome.2.requests.lookup "request-2").map
      (sampleCanonical Decimal).requestSha256 = some "request-2/0" := by
    decide +kernel
  refine ⟨approvedOutcome.2, Prod.ext h rfl, fun hReplay => ?_⟩
  obtain ⟨d, hd, hFields⟩ := Option.map_eq_some_iff.mp hDecision
  obtain ⟨hId, hHash⟩ := Prod.mk.inj hFields
  obtain ⟨r, hr, hMatch, -⟩ := hReplay _ d hd
  rw [hId] at hr
  rw [hr, Option.map_some, ← hMatch, hHash] at hRequest
  exact absurd (Option.some.inj hRequest) (by decide)

end Daybreak.Risk
