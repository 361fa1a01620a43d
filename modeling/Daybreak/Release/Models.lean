import Daybreak.Analytics.Models

/-! The evidence of a production candidate: artifacts, build, configuration, rollback,
findings and approvals, with the request that links them. A request carries the proof that
its validators accepted it. -/

namespace Daybreak.Release

open Analytics Numeric Serial Daybreak.Order

/-! ### Enumerations -/

inductive ReviewSeverity where
  | info | low | medium | high | critical
  deriving DecidableEq, Repr

inductive FindingStatus where
  | opened | resolved
  deriving DecidableEq, Repr

inductive ApprovalRole where
  | engineering | operations | risk | security | independentReview
  deriving DecidableEq, Repr

inductive CandidateStatus where
  | incomplete | blocked | paperReleaseCandidate
  deriving DecidableEq, Repr

def ReviewSeverity.value : ReviewSeverity → String
  | .info => "info"
  | .low => "low"
  | .medium => "medium"
  | .high => "high"
  | .critical => "critical"

def FindingStatus.value : FindingStatus → String
  | .opened => "open"
  | .resolved => "resolved"

def ApprovalRole.value : ApprovalRole → String
  | .engineering => "engineering"
  | .operations => "operations"
  | .risk => "risk"
  | .security => "security"
  | .independentReview => "independent_review"

def CandidateStatus.value : CandidateStatus → String
  | .incomplete => "incomplete"
  | .blocked => "blocked"
  | .paperReleaseCandidate => "paper_release_candidate"

/-! ### Policies -/

structure ProductionCandidatePolicy where
  policyVersion : String := "production_candidate_policy_v1"
  releaseVersion : String := "1.0.2"
  specificationVersion : String := "6.3"
  mode : String := "paper"
  expectedMigrationHead : String := "0009_phase9_release"
  minimumTestsCollected : ℕ := 250
  minimumSchemaCount : ℕ := 47
  requireCleanInstall : Bool := true
  requireExtractedSourceTest : Bool := true
  requirePythonCompile : Bool := true
  requireWheelSmokeTest : Bool := true
  requireZeroSecretFindings : Bool := true
  requirePaperLedger : Bool := true
  requireDeploymentEvidence : Bool := true
  requireRollbackValidation : Bool := true
  requireIndependentReview : Bool := true
  requiredApprovalRoles : List ApprovalRole :=
    [.engineering, .independentReview, .operations, .risk, .security]
  maximumOpenMediumFindings : ℕ := 0
  maximumOpenHighFindings : ℕ := 0
  maximumOpenCriticalFindings : ℕ := 0
  allowLiveCapitalCertification : Bool := false
  deriving DecidableEq, Repr

namespace ProductionCandidatePolicy

def Valid (p : ProductionCandidatePolicy) : Prop :=
  p.policyVersion = "production_candidate_policy_v1" ∧ p.releaseVersion = "1.0.2" ∧
    p.specificationVersion = "6.3" ∧ p.mode = "paper" ∧
    p.expectedMigrationHead = "0009_phase9_release" ∧ 1 ≤ p.minimumTestsCollected ∧
    1 ≤ p.minimumSchemaCount ∧ p.requireCleanInstall = true ∧
    p.requireExtractedSourceTest = true ∧ p.requirePythonCompile = true ∧
    p.requireWheelSmokeTest = true ∧ p.requireZeroSecretFindings = true ∧
    p.requirePaperLedger = true ∧ p.requireDeploymentEvidence = true ∧
    p.requireRollbackValidation = true ∧ p.requireIndependentReview = true ∧
    (p.requiredApprovalRoles.map (·.value)).Pairwise (· < ·) ∧ p.maximumOpenHighFindings = 0 ∧
    p.maximumOpenCriticalFindings = 0 ∧ p.allowLiveCapitalCertification = false

instance (p : ProductionCandidatePolicy) : Decidable p.Valid := inferInstanceAs (Decidable (_ ∧ _))

def fields : List (String × (ProductionCandidatePolicy → Json)) :=
  [("policy_version", fun p => .str p.policyVersion),
    ("release_version", fun p => .str p.releaseVersion),
    ("specification_version", fun p => .str p.specificationVersion), ("mode", fun p => .str p.mode),
    ("expected_migration_head", fun p => .str p.expectedMigrationHead),
    ("minimum_tests_collected", fun p => natural p.minimumTestsCollected),
    ("minimum_schema_count", fun p => natural p.minimumSchemaCount),
    ("require_clean_install", fun p => .bool p.requireCleanInstall),
    ("require_extracted_source_test", fun p => .bool p.requireExtractedSourceTest),
    ("require_python_compile", fun p => .bool p.requirePythonCompile),
    ("require_wheel_smoke_test", fun p => .bool p.requireWheelSmokeTest),
    ("require_zero_secret_findings", fun p => .bool p.requireZeroSecretFindings),
    ("require_paper_ledger", fun p => .bool p.requirePaperLedger),
    ("require_deployment_evidence", fun p => .bool p.requireDeploymentEvidence),
    ("require_rollback_validation", fun p => .bool p.requireRollbackValidation),
    ("require_independent_review", fun p => .bool p.requireIndependentReview),
    ("required_approval_roles", fun p => texts (p.requiredApprovalRoles.map (·.value))),
    ("maximum_open_medium_findings", fun p => natural p.maximumOpenMediumFindings),
    ("maximum_open_high_findings", fun p => natural p.maximumOpenHighFindings),
    ("maximum_open_critical_findings", fun p => natural p.maximumOpenCriticalFindings),
    ("allow_live_capital_certification", fun p => .bool p.allowLiveCapitalCertification)]

end ProductionCandidatePolicy

/-! ### The evidence manifest -/

structure ArtifactEvidence where
  name : String
  sha256 : Hash
  sizeBytes : ℕ
  required : Bool := true
  deriving DecidableEq, Repr

namespace ArtifactEvidence

/-- `^[a-z][a-z0-9_]{1,63}$` -/
def isArtifactName (name : String) : Bool :=
  (2 ≤ name.length && name.length ≤ 64) && name.toList.head?.any Char.isLower &&
    name.toList.all fun c => c.isLower || c.isDigit || c = '_'

def Valid (a : ArtifactEvidence) : Prop := isArtifactName a.name = true ∧ 0 < a.sizeBytes

instance (a : ArtifactEvidence) : Decidable a.Valid := inferInstanceAs (Decidable (_ ∧ _))

def fields : List (String × (ArtifactEvidence → Json)) :=
  [("name", fun a => .str a.name), ("sha256", fun a => hash a.sha256),
    ("size_bytes", fun a => natural a.sizeBytes), ("required", fun a => .bool a.required)]

theorem eq_of_record {a b : ArtifactEvidence} (h : Json.record fields a = .record fields b) : a = b := by
  have hFields := Json.record_inj (by simp [fields]) h
  simp only [fields, List.forall_mem_cons, Json.str.injEq, Json.bool.injEq, natural_inj,
    hash_inj] at hFields
  obtain ⟨hName, hHash, hSize, hRequired, -⟩ := hFields
  cases a
  cases b
  simp only [mk.injEq]
  exact ⟨hName, hHash, hSize, hRequired⟩

end ArtifactEvidence

structure EvidenceManifest where
  generatedAt : UtcDatetime
  artifacts : List ArtifactEvidence
  manifestHash : Hash
  deriving DecidableEq, Repr

namespace EvidenceManifest

/-- The artifacts are valid, sorted by their names and unique. -/
def Valid (m : EvidenceManifest) : Prop :=
  (∀ artifact ∈ m.artifacts, artifact.Valid) ∧ (m.artifacts.map (·.name)).Pairwise (· < ·)

instance (m : EvidenceManifest) : Decidable m.Valid := inferInstanceAs (Decidable (_ ∧ _))

/-- The artifact of a name, of which there is at most one. -/
def artifact (m : EvidenceManifest) (name : String) : Option ArtifactEvidence :=
  m.artifacts.find? (·.name = name)

/-- The hash of the artifact of a name. -/
def sha256 (m : EvidenceManifest) (name : String) : Option Hash := (m.artifact name).map (·.sha256)

def fields : List (String × (EvidenceManifest → Json)) :=
  [("generated_at", fun m => timestamp m.generatedAt),
    ("artifacts", fun m => .arr (m.artifacts.map (.record ArtifactEvidence.fields))),
    ("manifest_hash", fun m => hash m.manifestHash)]

/-- `manifest_body` -/
def body (m : EvidenceManifest) : Json := .record (Json.without ["manifest_hash"] fields) m

theorem eq_of_body {a b : EvidenceManifest} (hHash : a.manifestHash = b.manifestHash)
    (h : a.body = b.body) : a = b := by
  have hFields := Json.record_without_inj (by simp [fields]) h
  simp only [fields, List.forall_mem_cons] at hFields
  simp only [List.mem_cons, List.not_mem_nil, String.reduceEq, or_false, not_true_eq_false,
    not_false_eq_true, false_implies, true_implies, true_and, timestamp_inj] at hFields
  obtain ⟨hGenerated, hArtifacts, -⟩ := hFields
  have hItems := Json.arr_map_inj (v := id) (fun _ _ => ArtifactEvidence.eq_of_record) hArtifacts
  simp only [List.map_id] at hItems
  cases a
  cases b
  simp only [mk.injEq]
  exact ⟨hGenerated, hItems, hHash⟩

end EvidenceManifest

/-! ### The build attestation -/

structure BuildAttestation where
  generatedAt : UtcDatetime
  releaseVersion : String
  specificationVersion : String
  migrationHead : String
  testsCollected : ℕ
  testsPassed : ℕ
  schemaCount : ℕ
  secretFindings : ℕ
  cleanInstallPassed : Bool
  extractedSourceTestPassed : Bool
  pythonCompilePassed : Bool
  wheelSmokeTestPassed : Bool
  sourceArchiveSha256 : Hash
  wheelSha256 : Hash
  migrationsSha256 : Hash
  schemasBundleSha256 : Hash
  verificationReportSha256 : Hash
  attestationHash : Hash
  deriving DecidableEq, Repr

namespace BuildAttestation

def Valid (b : BuildAttestation) : Prop :=
  (b.releaseVersion = "1.0.2" ∧ b.specificationVersion = "6.3" ∧
    b.migrationHead = "0009_phase9_release" ∧ 0 < b.testsCollected ∧ 0 < b.schemaCount) ∧
  b.testsPassed ≤ b.testsCollected

instance (b : BuildAttestation) : Decidable b.Valid := inferInstanceAs (Decidable (_ ∧ _))

def fields : List (String × (BuildAttestation → Json)) :=
  [("generated_at", fun b => timestamp b.generatedAt),
    ("release_version", fun b => .str b.releaseVersion),
    ("specification_version", fun b => .str b.specificationVersion),
    ("migration_head", fun b => .str b.migrationHead),
    ("tests_collected", fun b => natural b.testsCollected),
    ("tests_passed", fun b => natural b.testsPassed),
    ("schema_count", fun b => natural b.schemaCount),
    ("secret_findings", fun b => natural b.secretFindings),
    ("clean_install_passed", fun b => .bool b.cleanInstallPassed),
    ("extracted_source_test_passed", fun b => .bool b.extractedSourceTestPassed),
    ("python_compile_passed", fun b => .bool b.pythonCompilePassed),
    ("wheel_smoke_test_passed", fun b => .bool b.wheelSmokeTestPassed),
    ("source_archive_sha256", fun b => hash b.sourceArchiveSha256),
    ("wheel_sha256", fun b => hash b.wheelSha256),
    ("migrations_sha256", fun b => hash b.migrationsSha256),
    ("schemas_bundle_sha256", fun b => hash b.schemasBundleSha256),
    ("verification_report_sha256", fun b => hash b.verificationReportSha256),
    ("attestation_hash", fun b => hash b.attestationHash)]

/-- `build_body` -/
def body (b : BuildAttestation) : Json := .record (Json.without ["attestation_hash"] fields) b

theorem eq_of_body {a b : BuildAttestation} (hHash : a.attestationHash = b.attestationHash)
    (h : a.body = b.body) : a = b := by
  have hFields := Json.record_without_inj (by simp [fields]) h
  simp only [fields, List.forall_mem_cons] at hFields
  simp only [List.mem_cons, List.not_mem_nil, String.reduceEq, or_false, not_true_eq_false,
    not_false_eq_true, false_implies, true_implies, true_and, Json.str.injEq, Json.bool.injEq,
    natural_inj, timestamp_inj, hash_inj] at hFields
  obtain ⟨h₁, h₂, h₃, h₄, h₅, h₆, h₇, h₈, h₉, h₁₀, h₁₁, h₁₂, h₁₃, h₁₄, h₁₅, h₁₆, h₁₇, -⟩ := hFields
  cases a
  cases b
  simp only [mk.injEq]
  exact ⟨h₁, h₂, h₃, h₄, h₅, h₆, h₇, h₈, h₉, h₁₀, h₁₁, h₁₂, h₁₃, h₁₄, h₁₅, h₁₆, h₁₇, hHash⟩

end BuildAttestation

/-! ### The configuration freeze -/

structure ConfigurationFreeze where
  frozenAt : UtcDatetime
  releaseVersion : String
  specificationVersion : String
  environment : String
  liveExecutionEnabled : Bool
  configurationHash : Hash
  specificationSha256 : Hash
  migrationHead : String
  componentVersions : List (String × String)
  freezeHash : Hash
  deriving DecidableEq, Repr

namespace ConfigurationFreeze

def Valid (f : ConfigurationFreeze) : Prop :=
  (f.releaseVersion = "1.0.2" ∧ f.specificationVersion = "6.3" ∧ f.environment = "paper" ∧
    f.liveExecutionEnabled = false ∧ f.migrationHead = "0009_phase9_release") ∧
  (f.componentVersions.map (·.1)).Pairwise (· < ·)

instance (f : ConfigurationFreeze) : Decidable f.Valid := inferInstanceAs (Decidable (_ ∧ _))

def fields : List (String × (ConfigurationFreeze → Json)) :=
  [("frozen_at", fun f => timestamp f.frozenAt), ("release_version", fun f => .str f.releaseVersion),
    ("specification_version", fun f => .str f.specificationVersion),
    ("environment", fun f => .str f.environment),
    ("live_execution_enabled", fun f => .bool f.liveExecutionEnabled),
    ("configuration_hash", fun f => hash f.configurationHash),
    ("specification_sha256", fun f => hash f.specificationSha256),
    ("migration_head", fun f => .str f.migrationHead),
    ("component_versions", fun f => pairs .str f.componentVersions),
    ("freeze_hash", fun f => hash f.freezeHash)]

/-- `freeze_body` -/
def body (f : ConfigurationFreeze) : Json := .record (Json.without ["freeze_hash"] fields) f

theorem eq_of_body {a b : ConfigurationFreeze} (hHash : a.freezeHash = b.freezeHash)
    (h : a.body = b.body) : a = b := by
  have hFields := Json.record_without_inj (by simp [fields]) h
  simp only [fields, List.forall_mem_cons] at hFields
  simp only [List.mem_cons, List.not_mem_nil, String.reduceEq, or_false, not_true_eq_false,
    not_false_eq_true, false_implies, true_implies, true_and, Json.str.injEq, Json.bool.injEq,
    timestamp_inj, hash_inj, pairs_inj fun _ _ => Json.str.inj] at hFields
  obtain ⟨h₁, h₂, h₃, h₄, h₅, h₆, h₇, h₈, h₉, -⟩ := hFields
  cases a
  cases b
  simp only [mk.injEq]
  exact ⟨h₁, h₂, h₃, h₄, h₅, h₆, h₇, h₈, h₉, hHash⟩

end ConfigurationFreeze

/-! ### The rollback evidence -/

structure RollbackEvidence where
  testedAt : UtcDatetime
  backupRestoreVerified : Bool
  previousWheelAvailable : Bool
  previousSourceArchiveAvailable : Bool
  emergencyFlattenVerified : Bool
  databaseForwardRecoveryVerified : Bool
  rollbackPlanSha256 : Hash
  evidenceHash : Hash
  deriving DecidableEq, Repr

namespace RollbackEvidence

def verified (e : RollbackEvidence) : Bool :=
  e.backupRestoreVerified && e.previousWheelAvailable && e.previousSourceArchiveAvailable &&
    e.emergencyFlattenVerified && e.databaseForwardRecoveryVerified

def fields : List (String × (RollbackEvidence → Json)) :=
  [("tested_at", fun e => timestamp e.testedAt),
    ("backup_restore_verified", fun e => .bool e.backupRestoreVerified),
    ("previous_wheel_available", fun e => .bool e.previousWheelAvailable),
    ("previous_source_archive_available", fun e => .bool e.previousSourceArchiveAvailable),
    ("emergency_flatten_verified", fun e => .bool e.emergencyFlattenVerified),
    ("database_forward_recovery_verified", fun e => .bool e.databaseForwardRecoveryVerified),
    ("rollback_plan_sha256", fun e => hash e.rollbackPlanSha256),
    ("evidence_hash", fun e => hash e.evidenceHash)]

/-- `rollback_body` -/
def body (e : RollbackEvidence) : Json := .record (Json.without ["evidence_hash"] fields) e

theorem eq_of_body {a b : RollbackEvidence} (hHash : a.evidenceHash = b.evidenceHash)
    (h : a.body = b.body) : a = b := by
  have hFields := Json.record_without_inj (by simp [fields]) h
  simp only [fields, List.forall_mem_cons] at hFields
  simp only [List.mem_cons, List.not_mem_nil, String.reduceEq, or_false, not_true_eq_false,
    not_false_eq_true, false_implies, true_implies, true_and, Json.bool.injEq, timestamp_inj,
    hash_inj] at hFields
  obtain ⟨h₁, h₂, h₃, h₄, h₅, h₆, h₇, -⟩ := hFields
  cases a
  cases b
  simp only [mk.injEq]
  exact ⟨h₁, h₂, h₃, h₄, h₅, h₆, h₇, hHash⟩

end RollbackEvidence

/-! ### Findings and approvals -/

structure ReviewFinding where
  findingId : String
  severity : ReviewSeverity
  status : FindingStatus
  category : String
  title : String
  owner : String
  evidenceRefs : List String := []
  deriving DecidableEq, Repr

namespace ReviewFinding

def Valid (f : ReviewFinding) : Prop :=
  IsId 96 f.findingId ∧ (2 ≤ f.category.length ∧ f.category.length ≤ 64) ∧
    (4 ≤ f.title.length ∧ f.title.length ≤ 240) ∧ (2 ≤ f.owner.length ∧ f.owner.length ≤ 128) ∧
    f.evidenceRefs.Pairwise (· < ·)

instance (f : ReviewFinding) : Decidable f.Valid := inferInstanceAs (Decidable (_ ∧ _))

def fields : List (String × (ReviewFinding → Json)) :=
  [("finding_id", fun f => .str f.findingId), ("severity", fun f => .str f.severity.value),
    ("status", fun f => .str f.status.value), ("category", fun f => .str f.category),
    ("title", fun f => .str f.title), ("owner", fun f => .str f.owner),
    ("evidence_refs", fun f => texts f.evidenceRefs)]

end ReviewFinding

structure ApprovalAttestation where
  role : ApprovalRole
  reviewerId : String
  approved : Bool
  approvedAt : UtcDatetime
  evidencePackageHash : Hash
  comment : String := ""
  deriving DecidableEq, Repr

namespace ApprovalAttestation

def Valid (a : ApprovalAttestation) : Prop :=
  (2 ≤ a.reviewerId.length ∧ a.reviewerId.length ≤ 128) ∧ a.comment.length ≤ 500

instance (a : ApprovalAttestation) : Decidable a.Valid := inferInstanceAs (Decidable (_ ∧ _))

def fields : List (String × (ApprovalAttestation → Json)) :=
  [("role", fun a => .str a.role.value), ("reviewer_id", fun a => .str a.reviewerId),
    ("approved", fun a => .bool a.approved), ("approved_at", fun a => timestamp a.approvedAt),
    ("evidence_package_hash", fun a => hash a.evidencePackageHash),
    ("comment", fun a => .str a.comment)]

end ApprovalAttestation

/-! ### Requests -/

structure RequestFields where
  generatedAt : UtcDatetime
  policy : ProductionCandidatePolicy := {}
  evidenceManifest : EvidenceManifest
  buildAttestation : BuildAttestation
  configurationFreeze : ConfigurationFreeze
  paperLedger : PaperAcceptanceLedger Decimal
  deploymentEvidence : DeploymentEvidenceReport
  rollbackEvidence : RollbackEvidence
  findings : List ReviewFinding := []
  approvals : List ApprovalAttestation := []
  independentReviewComplete : Bool
  deriving DecidableEq, Repr

namespace RequestFields

variable (r : RequestFields)

/-- What the artifacts of the manifest have as their hashes. -/
def expectedArtifactHashes : List (String × Hash) :=
  [("source_archive", r.buildAttestation.sourceArchiveSha256),
    ("wheel", r.buildAttestation.wheelSha256),
    ("migrations", r.buildAttestation.migrationsSha256),
    ("schemas_bundle", r.buildAttestation.schemasBundleSha256),
    ("verification_report", r.buildAttestation.verificationReportSha256),
    ("specification", r.configurationFreeze.specificationSha256)]

def expectedDeploymentHashes : List (String × Hash) :=
  [("configuration", r.configurationFreeze.configurationHash),
    ("migrations", r.buildAttestation.migrationsSha256),
    ("paper_ledger", r.paperLedger.ledgerHash),
    ("schemas_bundle", r.buildAttestation.schemasBundleSha256),
    ("source_archive", r.buildAttestation.sourceArchiveSha256),
    ("specification", r.configurationFreeze.specificationSha256),
    ("verification_report", r.buildAttestation.verificationReportSha256),
    ("wheel", r.buildAttestation.wheelSha256)]

/-- Two dictionaries with unique keys are equal. -/
def SameDict (a b : List (String × Hash)) : Prop := a ⊆ b ∧ b ⊆ a

instance (a b : List (String × Hash)) : Decidable (SameDict a b) :=
  inferInstanceAs (Decidable (_ ∧ _))

/-- The checks of `evidence_coherent`, each with the text of its error. -/
def coherenceChecks : List (Bool × String) :=
  (r.expectedArtifactHashes.map fun expected =>
    (decide (r.evidenceManifest.sha256 expected.1 = some expected.2),
      "evidence manifest hash mismatch for " ++ expected.1)) ++
  [(decide (r.buildAttestation.releaseVersion = r.policy.releaseVersion),
      "build release version must match policy"),
    (decide (r.configurationFreeze.releaseVersion = r.policy.releaseVersion),
      "configuration freeze release version must match policy"),
    (decide (r.buildAttestation.specificationVersion = r.policy.specificationVersion),
      "build specification version must match policy"),
    (decide (r.configurationFreeze.specificationVersion = r.policy.specificationVersion),
      "configuration freeze specification version must match policy"),
    (decide (r.paperLedger.configurationHash = r.configurationFreeze.configurationHash),
      "paper ledger configuration must match frozen configuration"),
    (decide (r.deploymentEvidence.configurationHash = r.configurationFreeze.configurationHash),
      "deployment evidence configuration must match frozen configuration"),
    (decide (r.deploymentEvidence.paperLedgerId = r.paperLedger.ledgerId),
      "deployment evidence must reference the supplied paper ledger"),
    (decide (r.deploymentEvidence.paperLedgerHash = r.paperLedger.ledgerHash),
      "deployment evidence must bind the supplied paper ledger hash"),
    (decide (r.deploymentEvidence.releaseVersion = r.policy.releaseVersion),
      "deployment release version must match policy"),
    (decide (r.deploymentEvidence.specificationVersion = r.policy.specificationVersion),
      "deployment specification version must match policy"),
    (decide (r.deploymentEvidence.migrationHead = r.policy.expectedMigrationHead),
      "deployment migration head must match policy"),
    (decide (SameDict r.deploymentEvidence.evidenceHashes r.expectedDeploymentHashes),
      "deployment evidence hashes must match the release evidence chain"),
    (decide (r.deploymentEvidence.testsCollected = r.buildAttestation.testsCollected),
      "deployment test count must match build attestation"),
    (decide (r.deploymentEvidence.testsPassed = r.buildAttestation.testsPassed),
      "deployment passed-test count must match build attestation"),
    (decide (r.deploymentEvidence.schemaCount = r.buildAttestation.schemaCount),
      "deployment schema count must match build attestation"),
    (decide (r.deploymentEvidence.secretFindings = r.buildAttestation.secretFindings),
      "deployment secret findings must match build attestation"),
    (decide (∀ approval ∈ r.approvals,
        approval.evidencePackageHash = r.evidenceManifest.manifestHash),
      "all approvals must attest the evidence manifest hash"),
    (decide (∀ approval ∈ r.approvals,
        r.evidenceManifest.generatedAt.rank ≤ approval.approvedAt.rank),
      "approvals cannot predate the evidence manifest"),
    (decide (∀ approval ∈ r.approvals, approval.approvedAt.rank ≤ r.generatedAt.rank),
      "approvals cannot postdate the candidate request")]

/-- `evidence_coherent`: the text of the first check that fails. -/
def evidenceCoherent : Option String := (r.coherenceChecks.find? fun check => !check.1).map (·.2)

/-- The documents are valid, findings and approvals are sorted and unique; then
`evidence_coherent`. -/
def Valid : Prop :=
  (r.policy.Valid ∧ r.evidenceManifest.Valid ∧ r.buildAttestation.Valid ∧
    r.configurationFreeze.Valid ∧ r.paperLedger.Valid ∧ r.deploymentEvidence.Valid ∧
    (∀ finding ∈ r.findings, finding.Valid) ∧ ∀ approval ∈ r.approvals, approval.Valid) ∧
  (r.findings.map (·.findingId)).Pairwise (· < ·) ∧
  (r.approvals.map (·.role.value)).Pairwise (· < ·) ∧ r.evidenceCoherent = none

instance : Decidable r.Valid := inferInstanceAs (Decidable (_ ∧ _))

def fields : List (String × (RequestFields → Json)) :=
  [("generated_at", fun r => timestamp r.generatedAt),
    ("policy", fun r => .record ProductionCandidatePolicy.fields r.policy),
    ("evidence_manifest", fun r => .record EvidenceManifest.fields r.evidenceManifest),
    ("build_attestation", fun r => .record BuildAttestation.fields r.buildAttestation),
    ("configuration_freeze", fun r => .record ConfigurationFreeze.fields r.configurationFreeze),
    ("paper_ledger", fun r => .record PaperAcceptanceLedger.fields r.paperLedger),
    ("deployment_evidence", fun r => .record DeploymentEvidenceReport.fields r.deploymentEvidence),
    ("rollback_evidence", fun r => .record RollbackEvidence.fields r.rollbackEvidence),
    ("findings", fun r => .arr (r.findings.map (.record ReviewFinding.fields))),
    ("approvals", fun r => .arr (r.approvals.map (.record ApprovalAttestation.fields))),
    ("independent_review_complete", fun r => .bool r.independentReviewComplete)]

end RequestFields

structure ProductionCandidateRequest extends RequestFields where
  valid : toRequestFields.Valid

end Daybreak.Release
