import Daybreak.Evaluator.Service
import Daybreak.Validation.Partition

/-! The evaluator fails closed: an attempt is repeated after a transport error alone, and an
output that may be executed is the one that a timely answer of the provider parses to and
the validation of the run accepts. -/

namespace Daybreak.Evaluator

open Contracts (DaybreakInput DaybreakOutput)
open Effect Effect.Program
open Validation (Validated)

variable {W : Type} {service : EvaluatorService W} {request : EvaluationRequest}
  {prompt : PromptBundle} {role : AttemptRole} {model : String} {attemptNumber : ℕ}
  {attempt : EvaluationAttempt} {s t : Session W}

/-! ### What the transport answered -/

/-- The program does not call the transport. -/
def Quiet {α : Type} (p : Program (Session W) PyException α) : Prop :=
  ∀ exchanges, Maintains (fun s => s.exchanges = exchanges) p

theorem Quiet.outside {α : Type} (p : Program W PyException α) :
    Quiet (EvaluatorService.outside p) := fun _ _ h => h

theorem Quiet.pure {α : Type} (a : α) : Quiet (Pure.pure a : Program (Session W) PyException α) :=
  fun _ => Maintains.pure a

theorem Quiet.ofExcept {α : Type} (x : Except PyException α) :
    Quiet (Program.ofExcept x : Program (Session W) PyException α) := fun _ => Maintains.ofExcept x

theorem Quiet.bind {α β : Type} {p : Program (Session W) PyException α}
    {f : α → Program (Session W) PyException β} (hp : Quiet p) (hf : ∀ a, Quiet (f a)) :
    Quiet (p >>= f) := fun exchanges => (hp exchanges).bind fun a => hf a exchanges

theorem Quiet.exchanges_eq {α : Type} {p : Program (Session W) PyException α} (h : Quiet p)
    {r : Except PyException α} (hExec : p.exec s = (r, t)) : t.exchanges = s.exchanges :=
  (h s.exchanges).of_exec hExec rfl

/-! ### One attempt -/

/-- An attempt has the outcome that was recorded, and what it has of an answer is from it. -/
structure Recorded (request : EvaluationRequest) (role : AttemptRole) (outcome : Outcome)
    (provider : Option ProviderResult) (attempt : EvaluationAttempt) : Prop where
  role_eq : attempt.role = role
  runId_eq : attempt.runId = request.runId
  status_eq : attempt.status = outcome.status
  output_eq : attempt.output = outcome.output
  received : ∀ answer ∈ provider, attempt.responseReceivedAt = some answer.completedAt
  text_eq : attempt.rawOutputText = provider.bind (·.outputText)

theorem Quiet.receivedAt {provider : Option ProviderResult} : Quiet (service.receivedAt provider) := by
  cases provider with
  | some answer => exact .pure _
  | none => exact .outside _

theorem Quiet.record {started : Reading} {outcome : Outcome} {provider : Option ProviderResult} :
    Quiet (service.record request prompt role model attemptNumber started outcome provider) := by
  have hAttempt : Quiet
      (service.attempt request prompt role model attemptNumber started outcome provider) :=
    (Quiet.outside _).bind fun _ => Quiet.receivedAt.bind fun _ => .ofExcept _
  exact hAttempt.bind fun attempt => (Quiet.outside _).bind fun _ => .pure attempt

theorem recorded_of_attemptOf {started received : Reading} {outcome : Outcome}
    {provider : Option ProviderResult} {attemptId : String}
    (hReceived : ∀ answer ∈ provider, received = .aware answer.completedAt)
    (h : service.attemptOf request prompt role model attemptNumber started outcome provider
      attemptId received = .ok attempt) : Recorded request role outcome provider attempt := by
  simp only [EvaluatorService.attemptOf, Fallible.bind_eq_ok] at h
  obtain ⟨_, -, _, -, _, -, _, -, _, -, _, -, instant, hInstant, hValid⟩ := h
  have hFields := EvaluationAttempt.validate_eq_ok hValid
  refine ⟨?_, ?_, ?_, ?_, fun answer hAnswer => ?_, ?_⟩ <;> rw [hFields]
  rw [hReceived answer hAnswer] at hInstant
  rw [← Except.ok.inj hInstant]

theorem record_recorded {started : Reading} {outcome : Outcome} {provider : Option ProviderResult}
    (h : (service.record request prompt role model attemptNumber started outcome provider).exec s =
      (.ok attempt, t)) : Recorded request role outcome provider attempt := by
  obtain ⟨made, s₁, hMade, h⟩ := exec_bind_ok.mp h
  obtain ⟨_, s₂, -, h⟩ := exec_bind_ok.mp h
  obtain rfl := Except.ok.inj (Prod.mk.inj h).1
  obtain ⟨attemptId, s₃, -, hMade⟩ := exec_bind_ok.mp hMade
  obtain ⟨received, s₄, hReceived, hMade⟩ := exec_bind_ok.mp hMade
  rw [exec_ofExcept] at hMade
  refine recorded_of_attemptOf (fun answer hAnswer => ?_) (Prod.mk.inj hMade).1
  obtain rfl := Option.mem_def.mp hAnswer
  exact (Except.ok.inj (Prod.mk.inj hReceived).1).symm

/-! ### What a successful attempt stands on -/

/-- The answer came in time, neither refused nor incomplete; its text parses to the output,
which the validation of the run accepts. -/
structure Supports (service : EvaluatorService W) (request : EvaluationRequest)
    (provider : ProviderResult) (output : DaybreakOutput) : Prop where
  timely : provider.completedAt ≤ request.responseCutoffTimestamp
  not_refused : ∀ refusal ∈ provider.refusal, refusal = ""
  not_incomplete : ∀ reason ∈ provider.incompleteReason, reason = ""
  parses : ∃ text, provider.outputText = some text ∧ service.modelValidateJson text = .ok output
  valid : Validated request.inputPayload output none
    (service.metadata request provider.completedAt) false

theorem text?_eq_none {field : Option String} :
    EvaluatorService.text? field = none ↔ ∀ text ∈ field, text = "" := by
  simp [EvaluatorService.text?, Option.filter_eq_none_iff]

theorem eq_some_of_text? {field : Option String} {text : String}
    (h : EvaluatorService.text? field = some text) : field = some text :=
  (Option.filter_eq_some_iff.mp h).1

theorem parsed_succeeded {provider : ProviderResult} {text : String} {outcome : Outcome}
    (h : service.parsed request provider text = .ok outcome) (hStatus : outcome.status = .succeeded) :
    ∃ output, outcome.output = some output ∧ service.modelValidateJson text = .ok output ∧
      Validated request.inputPayload output none
        (service.metadata request provider.completedAt) false := by
  unfold EvaluatorService.parsed at h
  split at h
  · split_ifs at h
    obtain rfl := Except.ok.inj h
    cases hStatus
  · split at h
    · split_ifs at h
      obtain rfl := Except.ok.inj h
      cases hStatus
    · next output hOutput =>
      simp only [Except.ok.injEq] at h
      split_ifs at h with hValid
      · subst h
        exact ⟨output, rfl, hOutput, hValid⟩
      · subst h
        cases hStatus

theorem assess_succeeded {provider : ProviderResult} {outcome : Outcome}
    (h : service.assess request .primary provider = .ok outcome)
    (hStatus : outcome.status = .succeeded) :
    ∃ output, outcome.output = some output ∧ Supports service request provider output := by
  unfold EvaluatorService.assess at h
  split_ifs at h with hLate
  · obtain rfl := Except.ok.inj h
    cases hStatus
  · have hTimely : provider.completedAt ≤ request.responseCutoffTimestamp :=
      not_lt.mp fun hAfter => hLate ⟨rfl, hAfter⟩
    split at h
    · obtain rfl := Except.ok.inj h
      cases hStatus
    · obtain rfl := Except.ok.inj h
      cases hStatus
    · obtain rfl := Except.ok.inj h
      cases hStatus
    · next text hRefusal hReason hText =>
      obtain ⟨output, hOutput, hParsed, hValid⟩ := parsed_succeeded h hStatus
      exact ⟨output, hOutput, hTimely, text?_eq_none.mp hRefusal, text?_eq_none.mp hReason,
        ⟨text, eq_some_of_text? hText, hParsed⟩, hValid⟩

/-- A successful attempt has the output that the last answer of the transport supports. -/
structure Backed (service : EvaluatorService W) (request : EvaluationRequest)
    (exchanges : List Exchange) (attempt : EvaluationAttempt) (output : DaybreakOutput) : Prop where
  output_eq : attempt.output = some output
  answered : ∃ call provider, exchanges.getLast? = some ⟨call, .ok provider⟩ ∧
    Supports service request provider output ∧
    attempt.responseReceivedAt = some provider.completedAt ∧
    attempt.rawOutputText = provider.outputText

/-- What one primary attempt comes to. -/
structure Called (service : EvaluatorService W) (request : EvaluationRequest)
    (exchanges : List Exchange) (attempt : EvaluationAttempt) : Prop where
  role_eq : attempt.role = .primary
  runId_eq : attempt.runId = request.runId
  backed : attempt.status = .succeeded → ∃ output, Backed service request exchanges attempt output

theorem called_of_recorded {outcome : Outcome} {provider : Option ProviderResult}
    {exchanges : List Exchange} (h : Recorded request .primary outcome provider attempt)
    (hOther : outcome.status ≠ .succeeded) : Called service request exchanges attempt :=
  ⟨h.role_eq, h.runId_eq, fun hStatus => absurd (h.status_eq.symm.trans hStatus) hOther⟩

theorem exchanges_callTransport {call : TransportCall} {answer : Except PyException ProviderResult}
    (h : (service.callTransport call).exec s = (.ok answer, t)) :
    t.exchanges = s.exchanges ++ [⟨call, answer⟩] := by
  obtain ⟨hAnswer, rfl⟩ := Prod.mk.inj h
  obtain rfl := Except.ok.inj hAnswer
  rfl

theorem callOnce_called
    (h : (service.callOnce request prompt .primary model attemptNumber).exec s = (.ok attempt, t)) :
    Called service request t.exchanges attempt := by
  obtain ⟨started, s₁, -, h⟩ := exec_bind_ok.mp h
  obtain ⟨timeout, s₂, -, h⟩ := exec_bind_ok.mp h
  cases timeout with
  | none => exact called_of_recorded (record_recorded h) nofun
  | some timeoutSeconds =>
    obtain ⟨answer, s₃, hAnswer, h⟩ := exec_bind_ok.mp h
    cases answer with
    | error e =>
      simp only at h
      split at h
      · exact called_of_recorded (record_recorded h) nofun
      · exact called_of_recorded (record_recorded h) nofun
      · cases h
    | ok provider =>
      obtain ⟨outcome, s₄, hOutcome, h⟩ := exec_bind_ok.mp h
      rw [exec_ofExcept] at hOutcome
      obtain ⟨hAssess, rfl⟩ := Prod.mk.inj hOutcome
      have hRecorded := record_recorded h
      refine ⟨hRecorded.role_eq, hRecorded.runId_eq, fun hStatus => ?_⟩
      obtain ⟨output, hOutput, hSupports⟩ :=
        assess_succeeded hAssess (hRecorded.status_eq.symm.trans hStatus)
      have hExchanges := (Quiet.record.exchanges_eq h).trans (exchanges_callTransport hAnswer)
      exact ⟨output, hRecorded.output_eq.trans hOutput, _, provider,
        (congrArg List.getLast? hExchanges).trans List.getLast?_concat, hSupports,
        hRecorded.received provider rfl, hRecorded.text_eq⟩

/-! ### Attempts in turn -/

/-- What the attempts of a primary evaluation come to, where at most so many were allowed. -/
structure Tried (service : EvaluatorService W) (request : EvaluationRequest)
    (exchanges : List Exchange) (allowed : ℕ) (attempts : List EvaluationAttempt) : Prop where
  length_le : attempts.length ≤ allowed
  role_eq : ∀ attempt ∈ attempts, attempt.role = .primary
  runId_eq : ∀ attempt ∈ attempts, attempt.runId = request.runId
  retried : ∀ earlier attempt later, attempts = earlier ++ attempt :: later → later ≠ [] →
    attempt.status = .transportError
  backed : ∀ attempt ∈ attempts, attempt.status = .succeeded →
    ∃ output, Backed service request exchanges attempt output

theorem Tried.nil {exchanges : List Exchange} {left : ℕ} :
    Tried service request exchanges left [] where
  length_le := Nat.zero_le left
  role_eq := List.forall_mem_nil _
  runId_eq := List.forall_mem_nil _
  retried := fun earlier _ _ hSplit => absurd hSplit.symm (List.append_ne_nil_of_right_ne_nil earlier
    (List.cons_ne_nil _ _))
  backed := List.forall_mem_nil _

theorem Tried.single {exchanges : List Exchange} {left : ℕ}
    (h : Called service request exchanges attempt) :
    Tried service request exchanges (left + 1) [attempt] where
  length_le := Nat.le_add_left 1 left
  role_eq := List.forall_mem_singleton.mpr h.role_eq
  runId_eq := List.forall_mem_singleton.mpr h.runId_eq
  retried := by
    intro earlier other later hSplit hLater
    have hLength := congrArg List.length hSplit
    have hSome : 0 < later.length := List.length_pos_iff.mpr hLater
    simp only [List.length_append, List.length_cons, List.length_nil] at hLength
    omega
  backed := List.forall_mem_singleton.mpr h.backed

theorem Tried.cons {exchanges : List Exchange} {left : ℕ} {rest : List EvaluationAttempt}
    (hRole : attempt.role = .primary) (hRun : attempt.runId = request.runId)
    (hStatus : attempt.status = .transportError) (h : Tried service request exchanges left rest) :
    Tried service request exchanges (left + 1) (attempt :: rest) where
  length_le := Nat.succ_le_succ h.length_le
  role_eq := List.forall_mem_cons.mpr ⟨hRole, h.role_eq⟩
  runId_eq := List.forall_mem_cons.mpr ⟨hRun, h.runId_eq⟩
  retried := by
    intro earlier other later hSplit hLater
    cases earlier with
    | nil =>
      obtain ⟨rfl, -⟩ := List.cons.inj hSplit
      exact hStatus
    | cons first earlier =>
      obtain ⟨-, hRest⟩ := List.cons.inj hSplit
      exact h.retried earlier other later hRest hLater
  backed := by
    refine List.forall_mem_cons.mpr ⟨fun hSucceeded => ?_, h.backed⟩
    rw [hStatus] at hSucceeded
    cases hSucceeded

/-- The loop makes at most as many attempts as are left, by induction on their number. -/
theorem attemptsFrom_tried {left : ℕ} {attempts : List EvaluationAttempt}
    (h : (service.attemptsFrom request prompt .primary model attemptNumber left).exec s =
      (.ok attempts, t)) : Tried service request t.exchanges left attempts := by
  induction left generalizing attemptNumber s attempts with
  | zero =>
    rw [EvaluatorService.attemptsFrom] at h
    obtain rfl := Except.ok.inj (Prod.mk.inj h).1
    exact .nil
  | succ left ih =>
    rw [EvaluatorService.attemptsFrom] at h
    obtain ⟨attempt, s₁, hCall, h⟩ := exec_bind_ok.mp h
    have hCalled := callOnce_called hCall
    split_ifs at h with hStatus
    · obtain ⟨hAttempts, rfl⟩ := Prod.mk.inj h
      obtain rfl := Except.ok.inj hAttempts
      exact .single hCalled
    · obtain ⟨passed, s₂, hPassed, h⟩ := exec_bind_ok.mp h
      split_ifs at h with hOver
      · obtain ⟨hAttempts, rfl⟩ := Prod.mk.inj h
        obtain rfl := Except.ok.inj hAttempts
        exact Tried.nil.cons hCalled.role_eq hCalled.runId_eq (not_not.mp hStatus)
      · obtain ⟨_, s₃, -, h⟩ := exec_bind_ok.mp h
        obtain ⟨rest, s₄, hRest, h⟩ := exec_bind_ok.mp h
        obtain ⟨hAttempts, rfl⟩ := Prod.mk.inj h
        obtain rfl := Except.ok.inj hAttempts
        exact (ih hRest).cons hCalled.role_eq hCalled.runId_eq (not_not.mp hStatus)

/-! ### The primary evaluation -/

/-- An evaluation that returned. -/
structure FailsClosed (service : EvaluatorService W) (request : EvaluationRequest)
    (exchanges : List Exchange) (r : EvaluationRunResult) : Prop where
  coherent : r.Coherent
  request_eq : r.request = request
  length_le : r.primaryAttempts.length ≤ service.policy.maxAttempts
  retried : ∀ earlier attempt later, r.primaryAttempts = earlier ++ attempt :: later → later ≠ [] →
    attempt.status = .transportError
  executable : ∀ output ∈ r.executableCandidateOutput, ∃ attempt ∈ r.primaryAttempts,
    r.selectedPrimaryAttemptId = some attempt.attemptId ∧ attempt.role = .primary ∧
      attempt.status = .succeeded ∧ Backed service request exchanges attempt output

theorem executable_of_ne {r : EvaluationRunResult} (h : r.status ≠ .primaryValid)
    (output : DaybreakOutput) : output ∉ r.executableCandidateOutput := by
  rw [EvaluationRunResult.executableCandidateOutput, if_pos (.inl h)]
  exact Option.not_mem_none output

theorem output_of_executable {r : EvaluationRunResult} {output : DaybreakOutput}
    (h : output ∈ r.executableCandidateOutput) : r.output = some output := by
  unfold EvaluationRunResult.executableCandidateOutput at h
  split_ifs at h
  · cases h
  · exact h

/-- The output of the result is that of the successful attempt that was made last. -/
theorem resultOf_executable {exchanges : List Exchange} {allowed : ℕ}
    {attempts : List EvaluationAttempt} {r : EvaluationRunResult}
    (hTried : Tried service request exchanges allowed attempts)
    (hResult : r.toResultFields = EvaluatorService.resultOf request attempts) :
    ∀ output ∈ r.executableCandidateOutput, ∃ attempt ∈ attempts,
      r.selectedPrimaryAttemptId = some attempt.attemptId ∧ attempt.role = .primary ∧
        attempt.status = .succeeded ∧ Backed service request exchanges attempt output := by
  intro output hOutput
  unfold EvaluatorService.resultOf at hResult
  split at hResult
  · refine absurd hOutput (executable_of_ne ?_ output)
    rw [hResult]
    simp only
    split_ifs <;> nofun
  · next primary hPrimary =>
    have hMem : primary ∈ attempts := List.mem_reverse.mp (List.mem_of_find?_eq_some hPrimary)
    have hFound := List.find?_some hPrimary
    have hStatus : primary.status = .succeeded := of_decide_eq_true hFound
    obtain ⟨backedOutput, hBacked⟩ := hTried.backed primary hMem hStatus
    have hSame := output_of_executable hOutput
    rw [hResult] at hSame
    obtain rfl := Option.some.inj (hBacked.output_eq.symm.trans hSame)
    exact ⟨primary, hMem, by rw [hResult], hTried.role_eq primary hMem, hStatus, hBacked⟩

theorem finish_eq {fields : ResultFields} {r : EvaluationRunResult}
    (h : (service.finish fields).exec s = (.ok r, t)) :
    r.toResultFields = fields ∧ t.exchanges = s.exchanges := by
  constructor
  · obtain ⟨result, s₁, hValid, h⟩ := exec_bind_ok.mp h
    obtain ⟨_, s₂, -, h⟩ := exec_bind_ok.mp h
    obtain rfl := Except.ok.inj (Prod.mk.inj h).1
    rw [exec_ofExcept] at hValid
    exact EvaluationRunResult.validate_eq_ok (Prod.mk.inj hValid).1
  · have hQuiet : Quiet (service.finish fields) :=
      (Quiet.ofExcept _).bind fun result => (Quiet.outside _).bind fun _ => .pure result
    exact hQuiet.exchanges_eq h

@[simp] theorem resultOf_request {attempts : List EvaluationAttempt} :
    (EvaluatorService.resultOf request attempts).request = request := by
  unfold EvaluatorService.resultOf
  split <;> rfl

@[simp] theorem resultOf_primaryAttempts {attempts : List EvaluationAttempt} :
    (EvaluatorService.resultOf request attempts).primaryAttempts = attempts := by
  unfold EvaluatorService.resultOf
  split <;> rfl

/-- Whatever the clock, the ids, the transport and the repository do, an evaluation that
returns has failed closed. -/
theorem evaluatePrimary_failsClosed {r : EvaluationRunResult}
    (h : (service.evaluatePrimary request).exec s = (.ok r, t)) :
    FailsClosed service request t.exchanges r := by
  obtain ⟨_, s₁, -, h⟩ := exec_bind_ok.mp h
  split_ifs at h with hTooMany
  · obtain ⟨hFields, -⟩ := finish_eq h
    refine ⟨r.coherent, by rw [hFields], by rw [hFields]; exact Nat.zero_le _, ?_, ?_⟩
    · intro earlier attempt later hSplit
      rw [hFields] at hSplit
      exact absurd hSplit.symm (List.append_ne_nil_of_right_ne_nil earlier (List.cons_ne_nil _ _))
    · intro output hOutput
      refine absurd hOutput (executable_of_ne ?_ output)
      rw [hFields]
      nofun
  · obtain ⟨prompt, s₂, -, h⟩ := exec_bind_ok.mp h
    obtain ⟨attempts, s₃, hAttempts, h⟩ := exec_bind_ok.mp h
    obtain ⟨hFields, hExchanges⟩ := finish_eq h
    have hTried := attemptsFrom_tried hAttempts
    rw [← hExchanges] at hTried
    have hSame : r.primaryAttempts = attempts := by rw [hFields, resultOf_primaryAttempts]
    have hExecutable := resultOf_executable hTried hFields
    rw [← hSame] at hTried hExecutable
    exact ⟨r.coherent, by rw [hFields, resultOf_request], hTried.length_le, hTried.retried,
      hExecutable⟩

/-! ### An evaluation with one retry -/

def emptyPayload : DaybreakInput := ⟨Validation.samplePayloadFields [], by decide +kernel⟩

def emptyOutput : DaybreakOutput := ⟨Validation.sampleOutputFields [] [], by decide +kernel⟩

/-- The JSON of that answer. -/
def emptyText : String :=
  "\x7b\"run_status\":\"no_setups\",\"execution_timestamp\":\"2026-08-03T13:00:00Z\"," ++
  "\"payload_timestamp_used\":\"2026-08-03T12:59:00Z\",\"market_status\":\"normal\"," ++
  "\"approved_setups\":[],\"qualified_not_selected\":[],\"excluded_tickers\":[]," ++
  "\"schema_failures\":[],\"run_blockers\":[]\x7d"

/-- How often the clock, the transport and the ids were asked. -/
structure SampleWorld where
  ticks : ℕ := 0
  calls : ℕ := 0
  ids : ℕ := 0

/-- 2026-08-03T13:00:00Z, and one second more with every reading. -/
def SampleWorld.now (world : SampleWorld) : Timestamp := 1785762000000000 + world.ticks * 1000000

def sampleRequest : EvaluationRequest where
  runId := "run-1"
  inputPayload := emptyPayload
  evidence :=
    { payloadHash := String.ofList (List.replicate 64 'a')
      configurationHash := String.ofList (List.replicate 64 'c') }
  responseCutoffTimestamp := 1785762060000000
  requestedAt := 1785762000000000
  runId_length := by decide
  requested_before := by decide

/-- A service whose transport fails once and then answers. -/
def sampleService : EvaluatorService SampleWorld where
  policy := ⟨{}, by decide +kernel⟩
  create call := .step fun world =>
    if world.calls = 0 then
      (.error ⟨.transport, "EvaluatorTransportError", "OpenAI Responses request failed"⟩,
        { world with calls := 1 })
    else
      (.ok { model := call.model, completedAt := world.now, outputText := some emptyText },
        { world with calls := world.calls + 1 })
  clock := .step fun world => (.ok (.aware world.now), { world with ticks := world.ticks + 1 })
  idFactory := .step fun world =>
    (.ok (String.ofList (List.replicate (world.ids + 1) 'a')), { world with ids := world.ids + 1 })
  buildPrompt _ := pure ⟨"directive", "payload", String.ofList (List.replicate 64 '0')⟩
  sleep := pure ()
  saveRequest _ := pure ()
  saveAttempt _ := pure ()
  saveResult _ := pure ()
  requestHash _ _ _ _ := .ok (String.ofList (List.replicate 64 '1'))
  promptHash _ := .ok (String.ofList (List.replicate 64 '2'))
  schemaSha256 := .ok (String.ofList (List.replicate 64 '3'))
  hashText _ := .ok (String.ofList (List.replicate 64 '4'))
  hashJson _ := .ok (String.ofList (List.replicate 64 '5'))
  jsonLoads text := if text = emptyText then .ok () else .error ⟨.jsonDecode, "JSONDecodeError", ""⟩
  modelValidateJson text := if text = emptyText then .ok emptyOutput else .error (validationError "")

theorem sampleService_failsClosed : ∃ r t,
    (sampleService.evaluatePrimary sampleRequest).exec ⟨{}, []⟩ = (.ok r, t) ∧
      r.executableCandidateOutput = some emptyOutput ∧ r.primaryAttempts.length = 2 ∧
      FailsClosed sampleService sampleRequest t.exchanges r := by
  have hResult : ((sampleService.evaluatePrimary sampleRequest).exec ⟨{}, []⟩).1.toOption.map
      (fun r => (r.executableCandidateOutput, r.primaryAttempts.length)) =
        some (some emptyOutput, 2) := by
    decide +kernel
  rcases hExec : (sampleService.evaluatePrimary sampleRequest).exec ⟨{}, []⟩ with ⟨_ | r, t⟩
  · rw [hExec] at hResult
    cases hResult
  · rw [hExec] at hResult
    obtain ⟨hOutput, hLength⟩ := Prod.mk.inj (Option.some.inj hResult)
    exact ⟨r, t, rfl, hOutput, hLength, evaluatePrimary_failsClosed hExec⟩

end Daybreak.Evaluator
