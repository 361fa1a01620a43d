import Daybreak.Contracts.Replay
import Daybreak.Serial.StrictModel
import Mathlib.Data.List.Dedup

/-! The context and the results of the checks on an evaluation, and the helpers
that build a result. -/

namespace Daybreak.Validation

open Contracts Serial

inductive CheckStatus where
  | pass | fail | notEvaluated
  deriving DecidableEq, Repr

structure InvariantViolation where
  invariantNumber : ℕ
  path : String
  message : String
  deriving DecidableEq, Repr

structure InvariantCheck where
  invariantNumber : ℕ
  name : String
  status : CheckStatus
  violations : List InvariantViolation := []
  note : Option String := none
  deriving DecidableEq, Repr

/-- What the orchestration tells of a run; a set is a list without an order. -/
structure ValidationMetadata where
  evaluatorCandidateCount : Option ℕ := none
  maxEvaluatorCandidatesHard : Option ℕ := none
  prequalifiedOutTickers : List String := []
  capacityOmittedTickers : List String := []
  capacityOmissionsLogged : List String := []
  preselectionPolicyVersion : Option String := none
  evaluatorResponseTimestamp : Option Timestamp := none
  executionCutoffTimestamp : Option Timestamp := none
  orderAuthorized : Option Bool := none
  scoringCompletedBeforeGates : Option Bool := none
  duplicateDetectionAfterTickerValidation : Option Bool := none
  duplicateDetectionValidOnly : Option Bool := none
  operationalBlockersAfterSchemaValidation : Option Bool := none
  semanticMagnitudeBeforeOverride : List String := []
  invisibleDisqualifierTickers : List String := []

/-- A dictionary that has not been validated. -/
abbrev RawObject := List (String × PyValue)

structure ValidationContext where
  inputPayload : Option DaybreakInput
  output : DaybreakOutput
  rawInput : Option RawObject := none
  metadata : ValidationMetadata := {}

structure ValidationReport where
  valid : Bool
  executionReady : Bool
  modelErrors : List String
  checks : List InvariantCheck
  deriving DecidableEq, Repr

/-! ### Results of a check -/

def passed (number : ℕ) (name : String) (note : Option String) : InvariantCheck :=
  ⟨number, name, .pass, [], note⟩

def notEvaluated (number : ℕ) (name note : String) : InvariantCheck :=
  ⟨number, name, .notEvaluated, [], some note⟩

def checked (number : ℕ) (name : String) (violations : List InvariantViolation) : InvariantCheck :=
  ⟨number, name, if violations = [] then .pass else .fail, violations, none⟩

/-- The violation of a condition that does not hold. -/
def violationUnless (condition : Prop) [Decidable condition] (number : ℕ) (path message : String) :
    List InvariantViolation :=
  if condition then [] else [⟨number, path, message⟩]

/-- A check that needs the evaluator's input. -/
def withInput (ctx : ValidationContext) (number : ℕ) (name note : String)
    (check : DaybreakInput → InvariantCheck) : InvariantCheck :=
  match ctx.inputPayload with
  | some payload => check payload
  | none => notEvaluated number name note

@[simp] theorem violationUnless_eq_nil {condition : Prop} [Decidable condition] {number : ℕ}
    {path message : String} : violationUnless condition number path message = [] ↔ condition := by
  unfold violationUnless
  split_ifs with h <;> simp [h]

@[simp] theorem checked_status_fail {number : ℕ} {name : String}
    {violations : List InvariantViolation} :
    (checked number name violations).status ≠ .fail ↔ violations = [] := by
  unfold checked
  split_ifs with h <;> simp [h]

@[simp] theorem withInput_some {ctx : ValidationContext} {payload : DaybreakInput} {number : ℕ}
    {name note : String} {check : DaybreakInput → InvariantCheck}
    (h : ctx.inputPayload = some payload) :
    withInput ctx number name note check = check payload := by
  rw [withInput, h]

end Daybreak.Validation
