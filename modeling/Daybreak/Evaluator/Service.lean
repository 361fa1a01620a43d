import Daybreak.Effect.Program
import Daybreak.Evaluator.Models

/-! The evaluator service. Its clock, its ids, its transport and its repository belong to a
world that they read and change; what the transport answered is kept beside that world. -/

namespace Daybreak.Evaluator

open Contracts (DaybreakInput DaybreakOutput)
open Effect
open Validation (RawObject ValidationMetadata ValidationReport validateDaybreakRun)

structure PromptBundle where
  directive : String
  payloadText : String
  specHash : String
  deriving DecidableEq, Repr

/-- The arguments of `StructuredOutputTransport.create`. -/
structure TransportCall where
  model : String
  directive : String
  payloadText : String
  schemaName : String
  reasoningEffort : ReasoningEffort
  maxOutputTokens : ℕ
  timeoutSeconds : ℚ
  deriving DecidableEq, Repr

/-- A call of the transport, and what it returned or raised. -/
structure Exchange where
  call : TransportCall
  answer : Except PyException ProviderResult

structure Session (W : Type) where
  world : W
  exchanges : List Exchange := []

/-- The service with what it calls: the hashes, the parser of a JSON text and the model that
reads one are those of the libraries. -/
structure EvaluatorService (W : Type) where
  policy : EvaluatorPolicy
  create : TransportCall → Program W PyException ProviderResult
  clock : Program W PyException Reading
  idFactory : Program W PyException String
  buildPrompt : DaybreakInput → Program W PyException PromptBundle
  sleep : Program W PyException Unit
  saveRequest : EvaluationRequest → Program W PyException Unit
  saveAttempt : EvaluationAttempt → Program W PyException Unit
  saveResult : EvaluationRunResult → Program W PyException Unit
  requestHash : EvaluationRequest → PromptBundle → String → AttemptRole → Except PyException String
  promptHash : PromptBundle → Except PyException String
  schemaSha256 : Except PyException String
  hashText : String → Except PyException String
  hashJson : RawObject → Except PyException String
  jsonLoads : String → Except PyException Unit
  modelValidateJson : String → Except PyException DaybreakOutput

/-- What an attempt comes to: its status, and what it has of an output, a report and an error. -/
structure Outcome where
  status : AttemptStatus
  output : Option DaybreakOutput := none
  report : Option ValidationReport := none
  error : Option PyException := none

namespace EvaluatorService

variable {W : Type} (service : EvaluatorService W)

/-- What happens in the world outside. -/
def outside {α : Type} (p : Program W PyException α) : Program (Session W) PyException α :=
  .step fun s => ((p.exec s.world).1, { s with world := (p.exec s.world).2 })

/-- A call of the transport, with its exceptions. -/
def callTransport (call : TransportCall) :
    Program (Session W) PyException (Except PyException ProviderResult) :=
  .step fun s =>
    let (answer, world) := (service.create call).exec s.world
    (.ok answer, { world := world, exchanges := s.exchanges ++ [⟨call, answer⟩] })

variable (request : EvaluationRequest) (prompt : PromptBundle) (role : AttemptRole) (model : String)
  (attemptNumber : ℕ)

/-- `_metadata` -/
def metadata (responseReceivedAt : Timestamp) : ValidationMetadata where
  evaluatorCandidateCount := some request.inputPayload.tickers.length
  maxEvaluatorCandidatesHard := some service.policy.maxEvaluatorCandidatesHard
  prequalifiedOutTickers := request.evidence.prequalifiedOutTickers
  capacityOmittedTickers := request.evidence.capacityOmittedTickers
  capacityOmissionsLogged := request.evidence.capacityOmissionsLogged
  preselectionPolicyVersion := request.evidence.preselectionPolicyVersion
  evaluatorResponseTimestamp := some responseReceivedAt
  executionCutoffTimestamp := some request.responseCutoffTimestamp
  orderAuthorized := some false
  scoringCompletedBeforeGates := some true
  duplicateDetectionAfterTickerValidation := some true
  duplicateDetectionValidOnly := some true
  operationalBlockersAfterSchemaValidation := some true

/-! ### One attempt -/

/-- The attempt with an id, at the time when its response was received. -/
def attemptOf (started : Reading) (outcome : Outcome) (provider : Option ProviderResult)
    (attemptId : String) (responseReceivedAt : Reading) : Except PyException EvaluationAttempt := do
  let raw := if service.policy.storeRawProviderResponse then provider.bind (·.rawResponse) else none
  let requestHash ← service.requestHash request prompt model role
  let promptHash ← service.promptHash prompt
  let schemaHash ← service.schemaSha256
  let responseTextHash ← (provider.bind (·.outputText)).mapM service.hashText
  let rawResponseHash ← raw.mapM service.hashJson
  let awareError := validationError "attempt timestamps must be timezone-aware"
  let requestStartedAt ← started.instant awareError
  let responseInstant ← responseReceivedAt.instant awareError
  EvaluationAttempt.validate
    { attemptId, runId := request.runId, role, attemptNumber, model, requestStartedAt
      responseReceivedAt := some responseInstant
      status := outcome.status
      requestHash, promptHash, specHash := prompt.specHash, schemaHash
      responseId := provider.bind (·.responseId)
      rawOutputText := provider.bind (·.outputText)
      rawProviderResponse := raw
      responseTextHash, rawResponseHash
      output := outcome.output
      validationReport := outcome.report
      usage := (provider.map (·.usage)).getD {}
      errorType := outcome.error.map (·.typeName)
      errorMessage := outcome.error.map (·.message) }

/-- When a response was received: as the provider says, or now. -/
def receivedAt : Option ProviderResult → Program (Session W) PyException Reading
  | some provider => pure (.aware provider.completedAt)
  | none => outside service.clock

/-- `_attempt` -/
def attempt (started : Reading) (outcome : Outcome) (provider : Option ProviderResult) :
    Program (Session W) PyException EvaluationAttempt := do
  let attemptId ← outside service.idFactory
  let responseReceivedAt ← service.receivedAt provider
  .ofExcept (service.attemptOf request prompt role model attemptNumber started outcome provider
    attemptId responseReceivedAt)

/-- An attempt is made, saved and returned. -/
def record (started : Reading) (outcome : Outcome) (provider : Option ProviderResult) :
    Program (Session W) PyException EvaluationAttempt := do
  let attempt ← service.attempt request prompt role model attemptNumber started outcome provider
  outside (service.saveAttempt attempt)
  return attempt

/-- The timeout of a call, and none where the cutoff has passed. -/
def timeoutSeconds (started : Reading) : Except PyException (Option ℚ) :=
  match role with
  | .primary => do
    let instant ← started.instant
      ⟨.other, "TypeError", "can't subtract offset-naive and offset-aware datetimes"⟩
    let remaining := elapsedSeconds request.responseCutoffTimestamp instant
    return if remaining ≤ 0 then none else some (min remaining service.policy.requestTimeoutSeconds)
  | .shadow => .ok (some service.policy.shadowTimeoutSeconds)

/-- The text of a field, where it is neither absent nor empty. -/
def text? (field : Option String) : Option String := field.filter (· ≠ "")

/-- What the text of an answer comes to. -/
def parsed (provider : ProviderResult) (text : String) : Except PyException Outcome :=
  match service.jsonLoads text with
  | .error e => if e.kind = .jsonDecode then .ok ⟨.invalidJson, none, none, some e⟩ else .error e
  | .ok _ =>
    match service.modelValidateJson text with
    | .error e => if e.kind = .validation then .ok ⟨.schemaInvalid, none, none, some e⟩ else .error e
    | .ok output =>
      let report := validateDaybreakRun (some (.ok request.inputPayload)) none (.ok output)
        (service.metadata request provider.completedAt) false
      .ok <| if report.valid then ⟨.succeeded, some output, some report, none⟩
        else ⟨.invariantInvalid, some output, some report,
          some (valueError "Daybreak invariant validation failed")⟩

/-- What an answer comes to. -/
def assess (provider : ProviderResult) : Except PyException Outcome :=
  if role = .primary ∧ request.responseCutoffTimestamp < provider.completedAt then
    .ok ⟨.deadlineExceeded, none, none, some (timeoutError "provider response arrived after cutoff")⟩
  else match text? provider.refusal, text? provider.incompleteReason, text? provider.outputText with
    | some refusal, _, _ => .ok ⟨.refused, none, none, some (valueError refusal)⟩
    | none, some reason, _ => .ok ⟨.incomplete, none, none, some (valueError reason)⟩
    | none, none, none =>
      .ok ⟨.emptyOutput, none, none, some (valueError "provider returned empty output_text")⟩
    | none, none, some text => service.parsed request provider text

/-- `_call_once` -/
def callOnce : Program (Session W) PyException EvaluationAttempt := do
  let started ← outside service.clock
  let record := service.record request prompt role model attemptNumber started
  match ← .ofExcept (service.timeoutSeconds request role started) with
  | none =>
    record ⟨.deadlineExceeded, none, none,
      some (timeoutError "evaluator response cutoff already passed")⟩ none
  | some timeoutSeconds =>
    let answer ← service.callTransport
      { model, directive := prompt.directive, payloadText := prompt.payloadText
        schemaName := service.policy.schemaName
        reasoningEffort := service.policy.reasoningEffort
        maxOutputTokens := service.policy.maxOutputTokens
        timeoutSeconds }
    match answer with
    | .error e =>
      match e.kind with
      | .timeout => record ⟨.deadlineExceeded, none, none, some e⟩ none
      | .transport => record ⟨.transportError, none, none, some e⟩ none
      | _ => throw e
    | .ok provider =>
      let outcome ← .ofExcept (service.assess request role provider)
      record outcome (some provider)

/-! ### Attempts in turn -/

/-- Whether the cutoff of a primary evaluation is over, which a shadow does not ask. -/
def cutoffPassed : Program (Session W) PyException Bool :=
  match role with
  | .primary => do
    let reading ← outside service.clock
    let now ← .ofExcept (reading.instant
      ⟨.other, "TypeError", "can't compare offset-naive and offset-aware datetimes"⟩)
    return decide (request.responseCutoffTimestamp ≤ now)
  | .shadow => pure false

/-- The attempts from one number on, as many as are left. -/
def attemptsFrom (attemptNumber : ℕ) : ℕ → Program (Session W) PyException (List EvaluationAttempt)
  | 0 => pure []
  | left + 1 => do
    let attempt ← service.callOnce request prompt role model attemptNumber
    if attempt.status ≠ .transportError then return [attempt]
    else
      let passed ← service.cutoffPassed request role
      if passed then return [attempt]
      else
        outside service.sleep
        let rest ← attemptsFrom (attemptNumber + 1) left
        return attempt :: rest

/-- `_evaluate_role`. A successful attempt has no transport error either, so that the two
breaks of the loop are one. -/
def evaluateRole : Program (Session W) PyException (List EvaluationAttempt) :=
  service.attemptsFrom request prompt role model 1 service.policy.maxAttempts

/-! ### The primary evaluation -/

/-- The result of the attempts that were made. -/
def resultOf (primaryAttempts : List EvaluationAttempt) : ResultFields :=
  match primaryAttempts.reverse.find? (·.status = .succeeded) with
  | none =>
    let late := primaryAttempts.any (·.status = .deadlineExceeded)
    { runId := request.runId
      status := if late then .cutoffMissed else .primaryInvalid
      request, primaryAttempts
      lateResponseRejected := late }
  | some primary =>
    { runId := request.runId
      status := .primaryValid
      request, primaryAttempts
      selectedPrimaryAttemptId := some primary.attemptId
      output := primary.output
      decisionReadyAt := primary.responseReceivedAt }

/-- A result is made, saved and returned. -/
def finish (fields : ResultFields) : Program (Session W) PyException EvaluationRunResult := do
  let result ← .ofExcept (EvaluationRunResult.validate fields)
  outside (service.saveResult result)
  return result

/-- `evaluate_primary` -/
def evaluatePrimary : Program (Session W) PyException EvaluationRunResult := do
  outside (service.saveRequest request)
  if service.policy.maxEvaluatorCandidatesHard < request.inputPayload.tickers.length then
    service.finish
      { runId := request.runId, status := .inputRejected, request, primaryAttempts := [] }
  else
    let prompt ← outside (service.buildPrompt request.inputPayload)
    let primaryAttempts ←
      service.evaluateRole request prompt .primary service.policy.primaryModel
    service.finish (resultOf request primaryAttempts)

end EvaluatorService

end Daybreak.Evaluator
