import Daybreak.Release.Models

/-! The review of a production candidate. Every check that fails is a blocker, and a request
without blockers is a candidate for a paper release. The hash of a document is that of
its canonical JSON. -/

namespace Daybreak.Release

open Analytics Numeric Serial Daybreak.Order

/-! ### Reports -/

structure ReviewSummary where
  findingCount : ℕ
  openInfoCount : ℕ
  openLowCount : ℕ
  openMediumCount : ℕ
  openHighCount : ℕ
  openCriticalCount : ℕ
  approvedRoles : List ApprovalRole
  missingRoles : List ApprovalRole
  deriving DecidableEq, Repr

def ReviewSummary.fields : List (String × (ReviewSummary → Json)) :=
  [("finding_count", fun s => natural s.findingCount),
    ("open_info_count", fun s => natural s.openInfoCount),
    ("open_low_count", fun s => natural s.openLowCount),
    ("open_medium_count", fun s => natural s.openMediumCount),
    ("open_high_count", fun s => natural s.openHighCount),
    ("open_critical_count", fun s => natural s.openCriticalCount),
    ("approved_roles", fun s => texts (s.approvedRoles.map (·.value))),
    ("missing_roles", fun s => texts (s.missingRoles.map (·.value)))]

structure ProductionCandidateReport where
  reportId : String
  generatedAt : UtcDatetime
  status : CandidateStatus
  paperReleaseCandidate : Bool
  liveCapitalEligible : Bool
  blockers : List String
  warnings : List String
  releaseVersion : String
  specificationVersion : String
  configurationHash : Hash
  evidenceManifestHash : Hash
  buildAttestationHash : Hash
  configurationFreezeHash : Hash
  paperLedgerId : String
  deploymentReportId : String
  reviewSummary : ReviewSummary
  requestHash : Hash
  reportHash : Hash
  deriving DecidableEq, Repr

namespace ProductionCandidateReport

def fields : List (String × (ProductionCandidateReport → Json)) :=
  [("report_id", fun r => .str r.reportId), ("generated_at", fun r => timestamp r.generatedAt),
    ("status", fun r => .str r.status.value),
    ("paper_release_candidate", fun r => .bool r.paperReleaseCandidate),
    ("live_capital_eligible", fun r => .bool r.liveCapitalEligible),
    ("blockers", fun r => texts r.blockers), ("warnings", fun r => texts r.warnings),
    ("release_version", fun r => .str r.releaseVersion),
    ("specification_version", fun r => .str r.specificationVersion),
    ("configuration_hash", fun r => hash r.configurationHash),
    ("evidence_manifest_hash", fun r => hash r.evidenceManifestHash),
    ("build_attestation_hash", fun r => hash r.buildAttestationHash),
    ("configuration_freeze_hash", fun r => hash r.configurationFreezeHash),
    ("paper_ledger_id", fun r => .str r.paperLedgerId),
    ("deployment_report_id", fun r => .str r.deploymentReportId),
    ("review_summary", fun r => .record ReviewSummary.fields r.reviewSummary),
    ("request_hash", fun r => hash r.requestHash), ("report_hash", fun r => hash r.reportHash)]

end ProductionCandidateReport

/-! ### Checks -/

/-- `_REQUIRED_ARTIFACTS` -/
def requiredArtifacts : List String :=
  ["migrations", "schemas_bundle", "source_archive", "specification", "verification_report", "wheel"]

/-- The code of a condition that blocks the candidate. -/
def blocker (condition : Prop) [Decidable condition] (code : String) : List String :=
  if condition then [code] else []

@[simp] theorem blocker_eq_nil {condition : Prop} [Decidable condition] {code : String} :
    blocker condition code = [] ↔ ¬ condition := by
  unfold blocker
  split_ifs with h <;> simp [h]

section Checks

variable (canonicalSha256 : Json → Hash) (request : RequestFields)

def manifestBlockers : List String :=
  let manifest := request.evidenceManifest
  blocker (canonicalSha256 manifest.body ≠ manifest.manifestHash) "EVIDENCE_MANIFEST_HASH_INVALID" ++
  blocker (∃ name ∈ requiredArtifacts, manifest.artifact name = none) "REQUIRED_ARTIFACTS_MISSING" ++
  blocker (∃ item ∈ manifest.artifacts, item.required = true ∧ item.sizeBytes = 0)
    "REQUIRED_ARTIFACT_EMPTY"

def buildBlockers : List String :=
  let build := request.buildAttestation
  let policy := request.policy
  blocker (canonicalSha256 build.body ≠ build.attestationHash) "BUILD_ATTESTATION_HASH_INVALID" ++
  blocker (build.testsCollected < policy.minimumTestsCollected) "MINIMUM_TEST_COUNT_NOT_MET" ++
  blocker (build.testsPassed ≠ build.testsCollected) "TEST_SUITE_NOT_GREEN" ++
  blocker (build.schemaCount < policy.minimumSchemaCount) "MINIMUM_SCHEMA_COUNT_NOT_MET" ++
  blocker (policy.requireZeroSecretFindings = true ∧ build.secretFindings ≠ 0)
    "SECRET_FINDINGS_PRESENT" ++
  blocker (policy.requireCleanInstall = true ∧ build.cleanInstallPassed = false)
    "CLEAN_INSTALL_NOT_VERIFIED" ++
  blocker (policy.requireExtractedSourceTest = true ∧ build.extractedSourceTestPassed = false)
    "EXTRACTED_SOURCE_TEST_NOT_VERIFIED" ++
  blocker (policy.requirePythonCompile = true ∧ build.pythonCompilePassed = false)
    "PYTHON_COMPILE_NOT_VERIFIED" ++
  blocker (policy.requireWheelSmokeTest = true ∧ build.wheelSmokeTestPassed = false)
    "WHEEL_SMOKE_TEST_NOT_VERIFIED" ++
  blocker (build.migrationHead ≠ policy.expectedMigrationHead) "MIGRATION_HEAD_MISMATCH" ++
  blocker (∃ expected ∈ request.expectedArtifactHashes,
    request.evidenceManifest.sha256 expected.1 ≠ some expected.2) "EVIDENCE_MANIFEST_CHAIN_MISMATCH"

def freezeBlockers : List String :=
  let build := request.buildAttestation
  let freeze := request.configurationFreeze
  let policy := request.policy
  blocker (canonicalSha256 freeze.body ≠ freeze.freezeHash) "CONFIGURATION_FREEZE_HASH_INVALID" ++
  blocker (freeze.migrationHead ≠ policy.expectedMigrationHead)
    "CONFIGURATION_FREEZE_MIGRATION_HEAD_MISMATCH" ++
  blocker (freeze.environment ≠ "paper" ∨ freeze.liveExecutionEnabled = true)
    "CONFIGURATION_NOT_PAPER_ONLY" ++
  blocker (build.releaseVersion ≠ policy.releaseVersion ∨
    freeze.releaseVersion ≠ policy.releaseVersion ∨
    build.specificationVersion ≠ policy.specificationVersion ∨
    freeze.specificationVersion ≠ policy.specificationVersion) "RELEASE_METADATA_MISMATCH"

def ledgerBlockers : List String :=
  let ledger := request.paperLedger
  blocker (request.policy.requirePaperLedger = true ∧ ledger.paperReady = false)
    "PAPER_LEDGER_NOT_QUALIFIED" ++
  blocker (canonicalSha256 ledger.body ≠ ledger.ledgerHash) "PAPER_LEDGER_HASH_INVALID" ++
  blocker (ledger.ledgerId ≠ "PL-" ++ slicePrefix ledger.ledgerHash.1 20) "PAPER_LEDGER_ID_INVALID"

def deploymentBlockers : List String :=
  let build := request.buildAttestation
  let freeze := request.configurationFreeze
  let deployment := request.deploymentEvidence
  let policy := request.policy
  blocker (policy.requireDeploymentEvidence = true ∧ deployment.paperDeploymentReady = false)
    "PAPER_DEPLOYMENT_EVIDENCE_NOT_QUALIFIED" ++
  blocker (canonicalSha256 deployment.body ≠ deployment.reportHash)
    "DEPLOYMENT_EVIDENCE_HASH_INVALID" ++
  blocker (deployment.reportId ≠ "DE-" ++ slicePrefix deployment.reportHash.1 20)
    "DEPLOYMENT_EVIDENCE_ID_INVALID" ++
  blocker (deployment.liveDeploymentReady = true) "INVALID_LIVE_DEPLOYMENT_EVIDENCE" ++
  blocker (deployment.configurationHash ≠ freeze.configurationHash ∨
    request.paperLedger.configurationHash ≠ freeze.configurationHash ∨
    deployment.paperLedgerId ≠ request.paperLedger.ledgerId ∨
    deployment.paperLedgerHash ≠ request.paperLedger.ledgerHash ∨
    deployment.releaseVersion ≠ policy.releaseVersion ∨
    deployment.specificationVersion ≠ policy.specificationVersion ∨
    deployment.migrationHead ≠ policy.expectedMigrationHead ∨
    ¬ RequestFields.SameDict deployment.evidenceHashes request.expectedDeploymentHashes ∨
    deployment.testsCollected ≠ build.testsCollected ∨
    deployment.testsPassed ≠ build.testsPassed ∨ deployment.schemaCount ≠ build.schemaCount ∨
    deployment.secretFindings ≠ build.secretFindings) "DEPLOYMENT_EVIDENCE_CHAIN_MISMATCH"

def rollbackBlockers : List String :=
  let rollback := request.rollbackEvidence
  blocker (canonicalSha256 rollback.body ≠ rollback.evidenceHash) "ROLLBACK_EVIDENCE_HASH_INVALID" ++
  blocker (request.policy.requireRollbackValidation = true ∧ rollback.verified = false)
    "ROLLBACK_EVIDENCE_NOT_VERIFIED" ++
  blocker (request.policy.requireIndependentReview = true ∧
    request.independentReviewComplete = false) "INDEPENDENT_REVIEW_INCOMPLETE"

/-- `open_counts` -/
def openCount (severity : ReviewSeverity) : ℕ :=
  (request.findings.filter fun item => item.status = .opened ∧ item.severity = severity).length

def findingBlockers : List String :=
  let policy := request.policy
  blocker (policy.maximumOpenMediumFindings < openCount request .medium)
    "OPEN_MEDIUM_FINDINGS_EXCEED_POLICY" ++
  blocker (policy.maximumOpenHighFindings < openCount request .high) "OPEN_HIGH_FINDINGS_PRESENT" ++
  blocker (policy.maximumOpenCriticalFindings < openCount request .critical)
    "OPEN_CRITICAL_FINDINGS_PRESENT"

def approvedRoles : List ApprovalRole :=
  sortedBy ApprovalRole.value ((request.approvals.filter (·.approved)).map (·.role))

def missingRoles : List ApprovalRole :=
  sortedBy ApprovalRole.value
    (request.policy.requiredApprovalRoles.dedup.filter (· ∉ approvedRoles request))

def approvalBlockers : List String :=
  let manifest := request.evidenceManifest
  blocker (missingRoles request ≠ []) "REQUIRED_APPROVALS_MISSING" ++
  blocker (∃ item ∈ request.approvals, item.approved = false)
    "EXPLICIT_APPROVAL_REJECTION_PRESENT" ++
  blocker (∃ item ∈ request.approvals, item.evidencePackageHash ≠ manifest.manifestHash)
    "APPROVAL_EVIDENCE_CHAIN_MISMATCH" ++
  blocker (∃ item ∈ request.approvals, item.approvedAt.rank < manifest.generatedAt.rank ∨
    request.generatedAt.rank < item.approvedAt.rank) "APPROVAL_TIMESTAMP_INVALID"

def blockers : List String :=
  manifestBlockers canonicalSha256 request ++ buildBlockers canonicalSha256 request ++
    freezeBlockers canonicalSha256 request ++ ledgerBlockers canonicalSha256 request ++
    deploymentBlockers canonicalSha256 request ++ rollbackBlockers canonicalSha256 request ++
    findingBlockers request ++ approvalBlockers request

def warnings : List String :=
  blocker (openCount request .low ≠ 0) "OPEN_LOW_FINDINGS_PRESENT" ++
  blocker (openCount request .info ≠ 0) "OPEN_INFORMATIONAL_FINDINGS_PRESENT"

end Checks

/-! ### The review -/

/-- `explicit_failure_codes` -/
def explicitFailureCodes : List String :=
  ["TEST_SUITE_NOT_GREEN", "SECRET_FINDINGS_PRESENT", "CONFIGURATION_NOT_PAPER_ONLY",
    "INVALID_LIVE_DEPLOYMENT_EVIDENCE", "OPEN_HIGH_FINDINGS_PRESENT",
    "OPEN_CRITICAL_FINDINGS_PRESENT", "EXPLICIT_APPROVAL_REJECTION_PRESENT"]

def statusOf (blockers : List String) : CandidateStatus :=
  if blockers = [] then .paperReleaseCandidate
  else if ∃ code ∈ blockers, code ∈ explicitFailureCodes then .blocked
  else .incomplete

def reviewSummary (request : RequestFields) : ReviewSummary where
  findingCount := request.findings.length
  openInfoCount := openCount request .info
  openLowCount := openCount request .low
  openMediumCount := openCount request .medium
  openHighCount := openCount request .high
  openCriticalCount := openCount request .critical
  approvedRoles := approvedRoles request
  missingRoles := missingRoles request

/-- `sorted(set(codes))` -/
def sortedCodes (codes : List String) : List String := sortedBy id codes.dedup

/-- The report without its id and its hash, which are made from its body. -/
def draftReport (canonicalSha256 : Json → Hash) (request : RequestFields) (requestHash : Hash) :
    ProductionCandidateReport :=
  let found := blockers canonicalSha256 request
  { reportId := ""
    generatedAt := request.generatedAt
    status := statusOf found
    paperReleaseCandidate := decide (statusOf found = .paperReleaseCandidate)
    liveCapitalEligible := false
    blockers := sortedCodes found
    warnings := sortedCodes (warnings request)
    releaseVersion := request.policy.releaseVersion
    specificationVersion := request.policy.specificationVersion
    configurationHash := request.configurationFreeze.configurationHash
    evidenceManifestHash := request.evidenceManifest.manifestHash
    buildAttestationHash := request.buildAttestation.attestationHash
    configurationFreezeHash := request.configurationFreeze.freezeHash
    paperLedgerId := request.paperLedger.ledgerId
    deploymentReportId := request.deploymentEvidence.reportId
    reviewSummary := reviewSummary request
    requestHash := requestHash
    reportHash := requestHash }

/-- `review_production_candidate` -/
def reviewProductionCandidate (canonicalSha256 : Json → Hash) (request : ProductionCandidateRequest) :
    ProductionCandidateReport :=
  let requestHash := canonicalSha256 (.record RequestFields.fields request.toRequestFields)
  let draft := draftReport canonicalSha256 request.toRequestFields requestHash
  let body := Json.record (Json.without ["report_id", "report_hash"] ProductionCandidateReport.fields) draft
  let reportHash := canonicalSha256 body
  { draft with reportId := "PC-" ++ slicePrefix reportHash.1 20, reportHash := reportHash }

end Daybreak.Release
