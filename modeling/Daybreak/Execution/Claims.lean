import Daybreak.Effect.KeyedInserts
import Daybreak.Execution.Persistence
import Daybreak.Features.Models

/-! Claims of trade updates on the database. Each `claim_trade_update` is a transaction of its own,
and the stream's deliveries of one update may be claimed by several connections at once. The table
refuses a hash that is no hash, and an execution that has no stored request. -/

namespace Daybreak.Execution

open Numeric DecimalArithmetic Effect

variable {D : Type} [DecimalArithmetic D] {ω : Type} [DecidableEq ω]

abbrev Claim := Answered String (String × String)

namespace Claim

def eventId (c : Claim) : String :=
  c.key

def executionId (c : Claim) : String :=
  c.row.1

def rawEventHash (c : Claim) : String :=
  c.row.2

end Claim

structure ClaimDatabase (ω : Type) where
  requests : List String
  updates : KeyedInserts String (String × String) ω

namespace ClaimDatabase

def empty : ClaimDatabase ω := ⟨[], .empty⟩

/-- The end of `claim_trade_update`: `row` is what its `SELECT` finds where nothing was inserted. -/
def claimAnswer (executionId rawEventHash : String) (inserted : Bool)
    (row : Option (String × String)) : Result Bool :=
  if !inserted then
    match row with
    | none => .error (.runtimeError "trade update identity collision")
    | some row =>
      if row.1 ≠ executionId ∨ row.2 ≠ rawEventHash then
        .error (.runtimeError "trade update identity collision")
      else .ok inserted
  else .ok inserted

def answer (c : Claim) : Result Bool :=
  claimAnswer c.executionId c.rawEventHash c.existing.isNone c.existing

/-- The checks of the table `execution_trade_updates`. The hash is checked also where the key is
taken; the reference only of a row that is inserted. -/
def Accepts (db : ClaimDatabase ω) : Inserting String (String × String) → Prop
  | .inserted _ row => row.1 ∈ db.requests ∧ Features.isHash row.2 = true
  | .taken _ row => Features.isHash row.2 = true

/-- A request is stored, or a claim takes a step; what it starts, the table accepts. -/
inductive Step (db : ClaimDatabase ω) : List Claim → ClaimDatabase ω → Prop
  | saveRequest (executionId : String) :
      Step db [] { db with requests := executionId :: db.requests }
  | claim {answered : List Claim} {updates : KeyedInserts String (String × String) ω} :
      KeyedInserts.Step db.updates answered updates →
      (∀ w x, updates.writing w = some x → db.updates.writing w ≠ some x → db.Accepts x) →
      Step db answered { db with updates }

inductive Run (db : ClaimDatabase ω) : List Claim → ClaimDatabase ω → Prop
  | start : Run db [] db
  | step {history more : List Claim} {db' db'' : ClaimDatabase ω} :
      Run db history db' → Step db' more db'' → Run db (history ++ more) db''

end ClaimDatabase

namespace MemoryExecutionRepository

/-- The answers of claims made one after the other. -/
def claimAll (repo : MemoryExecutionRepository D) :
    List Claim → List (Result Bool) × MemoryExecutionRepository D
  | [] => ([], repo)
  | c :: rest =>
    match repo.claimTradeUpdate c.eventId c.executionId c.rawEventHash with
    | .ok (claimed, repo') => ((claimAll repo' rest).1.cons (.ok claimed), (claimAll repo' rest).2)
    | .error e => ((claimAll repo rest).1.cons (.error e), (claimAll repo rest).2)

end MemoryExecutionRepository

namespace ClaimDatabase

variable {db db' : ClaimDatabase ω} {history more : List Claim}

/-! ### One claim -/

/-- A claim on its own is answered by the database as by the repository in memory. -/
theorem claimTradeUpdate_eq (repo : MemoryExecutionRepository D) {c : Claim}
    (h : c.existing = repo.tradeUpdateIds.lookup c.key) :
    repo.claimTradeUpdate c.eventId c.executionId c.rawEventHash =
      (answer c).map fun claimed => (claimed,
        { repo with tradeUpdateIds := KeyedInserts.perform repo.tradeUpdateIds c }) := by
  unfold MemoryExecutionRepository.claimTradeUpdate answer claimAnswer KeyedInserts.perform
  rw [h, Claim.eventId]
  cases hLookup : repo.tradeUpdateIds.lookup c.key with
  | none => rfl
  | some row =>
    by_cases hSame : row = (c.executionId, c.rawEventHash)
    · subst hSame
      simp [Except.map]
    · have hDiffers : row.1 ≠ c.executionId ∨ row.2 ≠ c.rawEventHash := by
        by_contra hBoth
        push Not at hBoth
        exact hSame (Prod.ext hBoth.1 hBoth.2)
      simp [hSame, hDiffers, Except.map]

theorem perform_of_error {rows : Dict String (String × String)} {c : Claim} {e : PyError}
    (h : c.existing = rows.lookup c.key) (hError : answer c = .error e) :
    KeyedInserts.perform rows c = rows := by
  unfold answer claimAnswer at hError
  unfold KeyedInserts.perform
  cases hLookup : rows.lookup c.key with
  | none =>
    rw [h, hLookup] at hError
    cases hError
  | some row => rfl

/-! ### All claims -/

omit [DecidableEq ω] in
theorem answer_eq_true {c : Claim} : answer c = .ok true ↔ c.existing = none := by
  unfold answer claimAnswer
  cases hExisting : c.existing with
  | none => simp
  | some row =>
    by_cases hDiffers : row.1 ≠ c.executionId ∨ row.2 ≠ c.rawEventHash <;> simp [hDiffers]

theorem claimAll_append (repo : MemoryExecutionRepository D) (history more : List Claim) :
    repo.claimAll (history ++ more) =
      ((repo.claimAll history).1 ++ ((repo.claimAll history).2.claimAll more).1,
        ((repo.claimAll history).2.claimAll more).2) := by
  induction history generalizing repo with
  | nil => rfl
  | cons c rest ih =>
    simp only [List.cons_append, MemoryExecutionRepository.claimAll]
    cases repo.claimTradeUpdate c.eventId c.executionId c.rawEventHash with
    | ok claimed => simp only [ih, List.cons_append]
    | error e => simp only [ih, List.cons_append]

/-- Claims that each find what the ones before them left are those of the repository in memory. -/
theorem claimAll_of_sequential {rows : Dict String (String × String)}
    (h : KeyedInserts.Sequential history rows) :
    (MemoryExecutionRepository.empty : MemoryExecutionRepository D).claimAll history =
      (history.map answer, { MemoryExecutionRepository.empty with tradeUpdateIds := rows }) := by
  induction h with
  | nil => rfl
  | @concat history rows prior c finds ih =>
    rw [claimAll_append, ih, List.map_append]
    simp only [MemoryExecutionRepository.claimAll,
      claimTradeUpdate_eq { MemoryExecutionRepository.empty with tradeUpdateIds := rows } finds]
    cases hAnswer : answer c with
    | ok claimed => simp [Except.map, hAnswer]
    | error e => simp [Except.map, hAnswer, perform_of_error finds hAnswer]

theorem Run.updates (h : Run db history db') :
    KeyedInserts.Run db.updates history db'.updates := by
  induction h with
  | start => exact .start
  | @step history more db' db'' _ hStep ih =>
    cases hStep with
    | saveRequest executionId => rwa [List.append_nil]
    | claim hClaim _ => exact ih.step hClaim

theorem Step.begin {answered : List Claim} {updates : KeyedInserts String (String × String) ω}
    {w : ω} {x : Inserting String (String × String)}
    (hClaim : KeyedInserts.Step db.updates answered updates)
    (hWriting : updates.writing = Function.update db.updates.writing w (some x))
    (hAccepts : db.Accepts x) : Step db answered { db with updates } := by
  refine .claim hClaim fun w' x' hAfter hNew => ?_
  rw [hWriting] at hAfter
  obtain ⟨-, hTried⟩ | ⟨-, hBefore⟩ := update_eq_some hAfter
  · cases hTried
    exact hAccepts
  · exact absurd hBefore hNew

theorem Step.finish {answered : List Claim} {updates : KeyedInserts String (String × String) ω}
    {w : ω} (hClaim : KeyedInserts.Step db.updates answered updates)
    (hWriting : updates.writing = Function.update db.updates.writing w none) :
    Step db answered { db with updates } := by
  refine .claim hClaim fun w' x' hAfter hNew => ?_
  rw [hWriting] at hAfter
  obtain ⟨-, hNone⟩ | ⟨-, hBefore⟩ := update_eq_some hAfter
  · cases hNone
  · exact absurd hBefore hNew

/-- Every row that is stored or under way is accepted. -/
structure Sound (db : ClaimDatabase ω) : Prop where
  stored : ∀ eventId row, db.updates.rows.lookup eventId = some row →
    row.1 ∈ db.requests ∧ Features.isHash row.2 = true
  started : ∀ w x, db.updates.writing w = some x → db.Accepts x

omit [DecidableEq ω] in
theorem Accepts.request {x : Inserting String (String × String)} (h : db.Accepts x)
    (executionId : String) :
    ({ db with requests := executionId :: db.requests } : ClaimDatabase ω).Accepts x := by
  cases x with
  | inserted key row => exact ⟨List.mem_cons_of_mem _ h.1, h.2⟩
  | taken key row => exact h

theorem Step.sound (hStep : Step db more db') (h : db.Sound) : db'.Sound := by
  cases hStep with
  | saveRequest executionId =>
    refine ⟨fun eventId row hStored => ?_, fun w x hStarted => (h.started w x hStarted).request _⟩
    have hAccepted := h.stored eventId row hStored
    exact ⟨List.mem_cons_of_mem _ hAccepted.1, hAccepted.2⟩
  | @claim _ updates hClaim hAccepts =>
    refine ⟨fun eventId row hStored => ?_, fun w x hStarted => ?_⟩
    · obtain hBefore | ⟨w, hInserted⟩ := hClaim.stored hStored
      · exact h.stored eventId row hBefore
      · exact h.started w _ hInserted
    · by_cases hBefore : db.updates.writing w = some x
      · exact h.started w x hBefore
      · exact hAccepts w x hStarted hBefore

theorem Run.sound (h : Run empty history db) : db.Sound := by
  induction h with
  | start => exact ⟨fun _ _ h => (by cases h), fun _ _ h => (by cases h)⟩
  | step _ hStep ih => exact hStep.sound ih

/-- In the order of their answers, concurrent claims get the answers that the repository in memory
gives to one claim after the other, and leave what it holds. The first claim of an event id that
takes effect is told so, no other is. What is claimed belongs to a stored request, and a claim under
way always can be answered. -/
theorem claims_linearizable (h : Run (empty : ClaimDatabase ω) history db) :
    (MemoryExecutionRepository.empty : MemoryExecutionRepository D).claimAll history =
      (history.map answer,
        { MemoryExecutionRepository.empty with tradeUpdateIds := db.updates.rows }) ∧
    (∀ earlier c later, history = earlier ++ c :: later →
      (answer c = .ok true ↔ ∀ c' ∈ earlier, c'.eventId ≠ c.eventId)) ∧
    (∀ eventId row, db.updates.rows.lookup eventId = some row →
      row.1 ∈ db.requests ∧ Features.isHash row.2 = true) ∧
    ∀ w x, db.updates.writing w = some x →
      ∃ c db', Step db [c] db' ∧ (c.eventId, c.executionId, c.rawEventHash) = x.tried := by
  obtain ⟨hSound, hSequential⟩ := h.updates.sequential
  refine ⟨claimAll_of_sequential hSequential, fun earlier c later hHistory => ?_,
    h.sound.stored, fun w x hStarted => ?_⟩
  · obtain ⟨before, hBefore, hFinds⟩ :=
      KeyedInserts.Sequential.of_append (hHistory ▸ hSequential)
    rw [answer_eq_true, hFinds, AList.lookup_eq_none, hBefore.mem_rows]
    push Not
    rfl
  · obtain ⟨c, updates, hAnswers, hTried, hWriting⟩ := hSound.can_answer hStarted
    exact ⟨c, _, .finish hAnswers hWriting, hTried⟩

def sampleClaimed : String × String :=
  ("exec-1", "817443d9abef03c52db28ee2bc8cd7981786e6810fa12622a09933f1e639393b")

def sampleClaims : List Claim :=
  [⟨"update-1", sampleClaimed, none, false⟩, ⟨"update-1", sampleClaimed, some sampleClaimed, true⟩]

/-- The first claim takes effect, but its answer is lost; the update is delivered again. -/
theorem sampleClaims_run : ∃ db : ClaimDatabase Bool, Run empty sampleClaims db := by
  have hHash : Features.isHash sampleClaimed.2 = true := by decide
  have hRequested : Run (empty : ClaimDatabase Bool) [] _ := .step .start (.saveRequest "exec-1")
  have hInserted := hRequested.step (.begin (.insert false "update-1" sampleClaimed rfl
    (by decide) fun _ _ h => absurd h (by simp [empty, KeyedInserts.empty])) rfl
    ⟨List.mem_cons_self, hHash⟩)
  have hCommitted := hInserted.step
    (.finish (.commit false "update-1" sampleClaimed false rfl) rfl)
  have hTaken := hCommitted.step
    (.begin (.conflict true "update-1" sampleClaimed rfl (by decide)) rfl hHash)
  exact ⟨_, hTaken.step (.finish (.read true "update-1" sampleClaimed sampleClaimed rfl rfl) rfl)⟩

theorem claims_linearizable_sample :
    ((MemoryExecutionRepository.empty : MemoryExecutionRepository Decimal).claimAll
      sampleClaims).1 = [.ok true, .ok false] := by
  obtain ⟨db, hRun⟩ := sampleClaims_run
  rw [(claims_linearizable hRun).1]
  rfl

end ClaimDatabase

end Daybreak.Execution
