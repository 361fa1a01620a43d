import Daybreak.Effect.Fallible
import Daybreak.Validation.Runner

/-! The requests, the provider's answers, the attempts and the results of an evaluation. An
attempt and a result carry the proof that their validators accepted them. -/

namespace Daybreak.Evaluator

open Contracts (DaybreakInput DaybreakOutput)
open Validation (RawObject ValidationReport)
open Effect.Fallible (bind_eq_ok)

instance : DecidableEq DaybreakOutput := fun a b =>
  decidable_of_iff (a.toOutputFields = b.toOutputFields) (by cases a; cases b; simp)

inductive AttemptRole where
  | primary | shadow
  deriving DecidableEq, Repr

inductive AttemptStatus where
  | succeeded | deadlineExceeded | transportError | refused | incomplete | emptyOutput
  | invalidJson | schemaInvalid | invariantInvalid | canceled
  deriving DecidableEq, Repr

inductive RunStatus where
  | primaryValid | primaryInvalid | cutoffMissed | inputRejected
  deriving DecidableEq, Repr

/-! ### Exceptions and clock readings -/

/-- The exceptions that the service tells apart; `transport` is an `EvaluatorTransportError`
or an `OSError` other than a `TimeoutError`. -/
inductive ErrorKind where
  | timeout | transport | jsonDecode | validation | other
  deriving DecidableEq, Repr

structure PyException where
  kind : ErrorKind
  typeName : String
  message : String
  deriving DecidableEq, Repr

def timeoutError (message : String) : PyException := ⟨.timeout, "TimeoutError", message⟩

def valueError (message : String) : PyException := ⟨.other, "ValueError", message⟩

def validationError (message : String) : PyException := ⟨.validation, "ValidationError", message⟩

/-- A check of a validator, with the text of its error. -/
def require (p : Prop) [Decidable p] (message : String) : Except PyException Unit :=
  if p then .ok () else .error (validationError message)

@[simp] theorem require_eq_ok {p : Prop} [Decidable p] {message : String} {u : Unit} :
    require p message = .ok u ↔ p := by
  unfold require
  split_ifs with h <;> simp [h]

/-- What a clock returns: a `datetime` with a time zone, or one without. -/
inductive Reading where
  | aware (instant : Timestamp)
  | naive
  deriving DecidableEq, Repr

/-- The instant of a reading, for an operation or a validator that needs a time zone. -/
def Reading.instant (error : PyException) : Reading → Except PyException Timestamp
  | .aware instant => .ok instant
  | .naive => .error error

/-! ### Policies and requests -/

inductive ReasoningEffort where
  | none | low | medium | high | xhigh | max
  deriving DecidableEq, Repr

structure PolicyFields where
  primaryModel : String := "gpt-5.6-terra"
  shadowModel : Option String := some "gpt-5.6-sol"
  reasoningEffort : ReasoningEffort := .low
  maxOutputTokens : ℕ := 64000
  maxAttempts : ℕ := 2
  maxEvaluatorCandidatesHard : ℕ := 25
  requestTimeoutSeconds : ℚ := 90
  shadowTimeoutSeconds : ℚ := 180
  schemaName : String := "project_daybreak_v6_3_output"
  storeRawProviderResponse : Bool := true
  deriving DecidableEq, Repr

def PolicyFields.Valid (p : PolicyFields) : Prop :=
  (1000 ≤ p.maxOutputTokens ∧ p.maxOutputTokens ≤ 128000) ∧
    (1 ≤ p.maxAttempts ∧ p.maxAttempts ≤ 2) ∧
    (1 ≤ p.maxEvaluatorCandidatesHard ∧ p.maxEvaluatorCandidatesHard ≤ 25) ∧
    (0 < p.requestTimeoutSeconds ∧ p.requestTimeoutSeconds ≤ 300) ∧
    (0 < p.shadowTimeoutSeconds ∧ p.shadowTimeoutSeconds ≤ 600)

instance (p : PolicyFields) : Decidable p.Valid := inferInstanceAs (Decidable (_ ∧ _))

structure EvaluatorPolicy extends PolicyFields where
  valid : toPolicyFields.Valid

structure EvaluationEvidence where
  snapshotId : Option String := none
  contextHash : Option String := none
  payloadHash : String
  featureHash : Option String := none
  auditHash : Option String := none
  configurationHash : String
  prequalifiedOutTickers : List String := []
  capacityOmittedTickers : List String := []
  capacityOmissionsLogged : List String := []
  preselectionPolicyVersion : Option String := none
  deriving DecidableEq, Repr

structure EvaluationRequest where
  runId : String
  inputPayload : DaybreakInput
  evidence : EvaluationEvidence
  responseCutoffTimestamp : Timestamp
  requestedAt : Timestamp
  runId_length : 1 ≤ runId.length ∧ runId.length ≤ 128
  requested_before : requestedAt < responseCutoffTimestamp

/-! ### Provider answers and attempts -/

structure TokenUsage where
  inputTokens : ℕ := 0
  cachedInputTokens : ℕ := 0
  outputTokens : ℕ := 0
  reasoningTokens : ℕ := 0
  totalTokens : ℕ := 0
  deriving DecidableEq, Repr

structure ProviderResult where
  responseId : Option String := none
  model : String
  createdAt : Option Timestamp := none
  completedAt : Timestamp
  outputText : Option String := none
  refusal : Option String := none
  incompleteReason : Option String := none
  usage : TokenUsage := {}
  rawResponse : Option RawObject := none

structure AttemptFields where
  attemptId : String
  runId : String
  role : AttemptRole
  attemptNumber : ℕ
  model : String
  requestStartedAt : Timestamp
  responseReceivedAt : Option Timestamp
  status : AttemptStatus
  requestHash : String
  promptHash : String
  specHash : String
  schemaHash : String
  responseId : Option String
  rawOutputText : Option String
  rawProviderResponse : Option RawObject
  responseTextHash : Option String
  rawResponseHash : Option String
  output : Option DaybreakOutput
  validationReport : Option ValidationReport
  usage : TokenUsage
  errorType : Option String
  errorMessage : Option String

namespace AttemptFields

variable (a : AttemptFields)

/-- A successful attempt has an output and a report that is valid. -/
def TerminalShape : Prop :=
  a.status = .succeeded → a.output.isSome = true ∧ ∃ report ∈ a.validationReport, report.valid = true

/-- `terminal_shape` -/
def terminalShape : Except PyException Unit :=
  match a.status, a.output, a.validationReport with
  | .succeeded, some _, some report =>
    require (report.valid = true) "successful attempt requires a valid report"
  | .succeeded, _, _ =>
    .error (validationError "successful attempt requires output and validation_report")
  | _, _, _ => .ok ()

theorem terminalShape_eq_ok {u : Unit} : a.terminalShape = .ok u ↔ a.TerminalShape := by
  unfold terminalShape TerminalShape
  split
  · next hStatus hOutput hReport => simp [hStatus, hOutput, hReport]
  · next hStatus hMissing =>
    refine iff_of_false nofun fun h => ?_
    obtain ⟨hOutput, report, hReport, -⟩ := h hStatus
    obtain ⟨output, hSome⟩ := Option.isSome_iff_exists.mp hOutput
    exact hMissing output report hSome hReport
  · next hOther => simp_all

def Valid : Prop := (1 ≤ a.attemptNumber ∧ a.attemptNumber ≤ 2) ∧ a.TerminalShape

/-- The bounds of the number, then `terminal_shape`. -/
def check : Except PyException Unit := do
  require (1 ≤ a.attemptNumber ∧ a.attemptNumber ≤ 2) "attempt_number"
  a.terminalShape

theorem check_eq_ok {u : Unit} : a.check = .ok u ↔ a.Valid := by
  simp [check, Valid, bind_eq_ok, terminalShape_eq_ok]

end AttemptFields

structure EvaluationAttempt extends AttemptFields where
  valid : toAttemptFields.Valid

def EvaluationAttempt.validate (a : AttemptFields) : Except PyException EvaluationAttempt :=
  match h : a.check with
  | .ok _ => .ok ⟨a, a.check_eq_ok.mp h⟩
  | .error e => .error e

theorem EvaluationAttempt.validate_eq_ok {a : AttemptFields} {attempt : EvaluationAttempt}
    (h : validate a = .ok attempt) : attempt.toAttemptFields = a := by
  unfold validate at h
  split at h
  · rw [← Except.ok.inj h]
  · cases h

/-! ### Results -/

structure ResultFields where
  runId : String
  status : RunStatus
  request : EvaluationRequest
  primaryAttempts : List EvaluationAttempt
  shadowAttempts : List EvaluationAttempt := []
  selectedPrimaryAttemptId : Option String := none
  output : Option DaybreakOutput := none
  decisionReadyAt : Option Timestamp := none
  lateResponseRejected : Bool := false

namespace ResultFields

variable (r : ResultFields)

def attempts : List EvaluationAttempt := r.primaryAttempts ++ r.shadowAttempts

/-- The first primary attempt with the selected id. -/
def selected : Option EvaluationAttempt :=
  r.primaryAttempts.find? fun item => some item.attemptId = r.selectedPrimaryAttemptId

/-- A valid result has a timely output, that of the selected attempt. -/
def OutputSelected : Prop :=
  (r.selectedPrimaryAttemptId.isSome = true ∧ r.output.isSome = true ∧
    r.decisionReadyAt.isSome = true ∧ r.lateResponseRejected = false) ∧
  ∃ item ∈ r.selected, item.status = .succeeded ∧ item.output = r.output

/-- A result that is not valid has nothing to execute. -/
def NothingSelected : Prop :=
  r.selectedPrimaryAttemptId = none ∧ r.output = none ∧ r.decisionReadyAt = none

instance : Decidable r.NothingSelected := inferInstanceAs (Decidable (_ ∧ _))

/-- What the validator `coherent` accepts. -/
structure Coherent : Prop where
  run : r.runId = r.request.runId
  attempts_run : ∀ item ∈ r.attempts, item.runId = r.runId
  primary_role : ∀ item ∈ r.primaryAttempts, item.role = .primary
  shadow_role : ∀ item ∈ r.shadowAttempts, item.role = .shadow
  ids_nodup : (r.attempts.map (·.attemptId)).Nodup
  output_selected : r.status = .primaryValid → r.OutputSelected
  nothing_selected : r.status ≠ .primaryValid → r.NothingSelected
  late : r.lateResponseRejected = true ↔ r.status = .cutoffMissed

/-- The part of `coherent` that depends on the status. -/
def outputCheck : Except PyException Unit :=
  if r.status = .primaryValid then do
    require (r.selectedPrimaryAttemptId.isSome = true ∧ r.output.isSome = true ∧
      r.decisionReadyAt.isSome = true ∧ r.lateResponseRejected = false)
      "primary-valid result requires timely selected output"
    require (∃ item ∈ r.selected, item.status = .succeeded ∧ item.output = r.output)
      "selected primary attempt must be successful and match output"
  else
    require r.NothingSelected "non-valid result cannot carry executable output"

/-- `coherent` -/
def check : Except PyException Unit := do
  require (r.runId = r.request.runId) "result run_id must match the request"
  require (∀ item ∈ r.attempts, item.runId = r.runId) "all attempts must belong to the result run"
  require (∀ item ∈ r.primaryAttempts, item.role = .primary)
    "primary_attempts may contain only primary attempts"
  require (∀ item ∈ r.shadowAttempts, item.role = .shadow)
    "shadow_attempts may contain only shadow attempts"
  require (r.attempts.map (·.attemptId)).Nodup "attempt ids must be unique"
  r.outputCheck
  require (r.lateResponseRejected = true ↔ r.status = .cutoffMissed)
    "late response flag must match cutoff-missed status"

theorem outputCheck_eq_ok {u : Unit} : r.outputCheck = .ok u ↔
    (r.status = .primaryValid → r.OutputSelected) ∧ (r.status ≠ .primaryValid → r.NothingSelected) := by
  unfold outputCheck
  split_ifs with h
  · simp only [bind_eq_ok, require_eq_ok, exists_and_left, exists_const, h, true_implies,
      not_true_eq_false, false_implies, and_true, ne_eq]
    rfl
  · simp [h]

theorem check_eq_ok {u : Unit} : r.check = .ok u ↔ r.Coherent := by
  simp only [check, bind_eq_ok, require_eq_ok, outputCheck_eq_ok, exists_and_left, exists_const]
  constructor
  · rintro ⟨h₁, h₂, h₃, h₄, h₅, ⟨h₆, h₇⟩, h₈⟩
    exact ⟨h₁, h₂, h₃, h₄, h₅, h₆, h₇, h₈⟩
  · rintro ⟨h₁, h₂, h₃, h₄, h₅, h₆, h₇, h₈⟩
    exact ⟨h₁, h₂, h₃, h₄, h₅, ⟨h₆, h₇⟩, h₈⟩

end ResultFields

structure EvaluationRunResult extends ResultFields where
  coherent : toResultFields.Coherent

namespace EvaluationRunResult

def validate (r : ResultFields) : Except PyException EvaluationRunResult :=
  match h : r.check with
  | .ok _ => .ok ⟨r, r.check_eq_ok.mp h⟩
  | .error e => .error e

theorem validate_eq_ok {r : ResultFields} {result : EvaluationRunResult}
    (h : validate r = .ok result) : result.toResultFields = r := by
  unfold validate at h
  split at h
  · rw [← Except.ok.inj h]
  · cases h

def executableCandidateOutput (r : EvaluationRunResult) : Option DaybreakOutput :=
  if r.status ≠ .primaryValid ∨ r.lateResponseRejected = true then none else r.output

end EvaluationRunResult

end Daybreak.Evaluator
