import Daybreak.Release.Review

/-! What a candidate says about its evidence. The six documents of an accepted request are told
by their hashes, and the documents agree where they have the same thing. The approvals tell the
artifact manifest, and through it the artifacts of the build, and no other document. -/

namespace Daybreak.Release

open Analytics Numeric Serial

section Review

variable (canonicalSha256 : Json → Hash)

/-- The review makes the request a candidate. -/
def Accepted (request : ProductionCandidateRequest) : Prop :=
  (reviewProductionCandidate canonicalSha256 request).status = .paperReleaseCandidate

instance (request : ProductionCandidateRequest) : Decidable (Accepted canonicalSha256 request) :=
  inferInstanceAs (Decidable (_ = _))

/-- The bodies of the documents, each with the hash that the document carries. -/
def documents (r : RequestFields) : List (Json × Hash) :=
  [(r.evidenceManifest.body, r.evidenceManifest.manifestHash),
    (r.buildAttestation.body, r.buildAttestation.attestationHash),
    (r.configurationFreeze.body, r.configurationFreeze.freezeHash),
    (r.paperLedger.body, r.paperLedger.ledgerHash),
    (r.deploymentEvidence.body, r.deploymentEvidence.reportHash),
    (r.rollbackEvidence.body, r.rollbackEvidence.evidenceHash)]

/-- No two documents of the requests have different bodies with the same hash. -/
def CollisionFree (r r' : RequestFields) : Prop :=
  ∀ a ∈ documents r ++ documents r', ∀ b ∈ documents r ++ documents r',
    canonicalSha256 a.1 = canonicalSha256 b.1 → a.1 = b.1

/-- Every document carries the hash of its body, and the ids of the ledger and of the report
are made from their hashes. -/
structure Sealed (r : RequestFields) : Prop where
  hashed : ∀ document ∈ documents r, canonicalSha256 document.1 = document.2
  ledgerId : r.paperLedger.ledgerId = "PL-" ++ slicePrefix r.paperLedger.ledgerHash.1 20
  reportId : r.deploymentEvidence.reportId = "DE-" ++ slicePrefix r.deploymentEvidence.reportHash.1 20

end Review

variable {canonicalSha256 : Json → Hash} {request request' : ProductionCandidateRequest}

/-! ### Accepted requests -/

theorem statusOf_eq_paperReleaseCandidate {codes : List String} :
    statusOf codes = .paperReleaseCandidate ↔ codes = [] := by
  unfold statusOf
  split_ifs with hEmpty <;> simp [hEmpty]

/-- An accepted request has no blocker of any kind. -/
theorem accepted_iff : Accepted canonicalSha256 request ↔
    manifestBlockers canonicalSha256 request.toRequestFields = [] ∧
      buildBlockers canonicalSha256 request.toRequestFields = [] ∧
      freezeBlockers canonicalSha256 request.toRequestFields = [] ∧
      ledgerBlockers canonicalSha256 request.toRequestFields = [] ∧
      deploymentBlockers canonicalSha256 request.toRequestFields = [] ∧
      rollbackBlockers canonicalSha256 request.toRequestFields = [] ∧
      findingBlockers request.toRequestFields = [] ∧ approvalBlockers request.toRequestFields = [] := by
  have hStatus : Accepted canonicalSha256 request ↔
      blockers canonicalSha256 request.toRequestFields = [] := statusOf_eq_paperReleaseCandidate
  simp only [hStatus, blockers, List.append_eq_nil_iff, and_assoc]

theorem sealed_of_accepted (h : Accepted canonicalSha256 request) :
    Sealed canonicalSha256 request.toRequestFields := by
  obtain ⟨hManifest, hBuild, hFreeze, hLedger, hDeployment, hRollback, -, -⟩ := accepted_iff.mp h
  simp only [manifestBlockers, buildBlockers, freezeBlockers, ledgerBlockers, deploymentBlockers,
    rollbackBlockers, List.append_eq_nil_iff, blocker_eq_nil, ne_eq, not_not, and_assoc]
    at hManifest hBuild hFreeze hLedger hDeployment hRollback
  obtain ⟨-, hLedgerHash, hLedgerId⟩ := hLedger
  obtain ⟨-, hReportHash, hReportId, -⟩ := hDeployment
  refine ⟨?_, hLedgerId, hReportId⟩
  simp only [documents, List.forall_mem_cons]
  exact ⟨hManifest.1, hBuild.1, hFreeze.1, hLedgerHash, hReportHash, hRollback.1,
    fun _ hMem => absurd hMem List.not_mem_nil⟩

/-- Two requests whose documents are among some with different hashes have no collisions. -/
theorem collisionFree_of_nodup {r r' : RequestFields} {known : List (Json × Hash)}
    (hr : Sealed canonicalSha256 r) (hr' : Sealed canonicalSha256 r')
    (hKnown : documents r ++ documents r' ⊆ known) (hNodup : (known.map (·.2)).Nodup) :
    CollisionFree canonicalSha256 r r' := by
  have hHash {a : Json × Hash} (ha : a ∈ documents r ++ documents r') : canonicalSha256 a.1 = a.2 := by
    rcases List.mem_append.mp ha with h | h
    · exact hr.hashed a h
    · exact hr'.hashed a h
  intro a ha b hb hSame
  rw [hHash ha, hHash hb] at hSame
  rw [List.inj_on_of_nodup_map hNodup (hKnown ha) (hKnown hb) hSame]

/-! ### The documents and their hashes -/

/-- The two requests carry the same hashes of the documents. -/
structure SameHashes (r r' : RequestFields) : Prop where
  manifest : r.evidenceManifest.manifestHash = r'.evidenceManifest.manifestHash
  build : r.buildAttestation.attestationHash = r'.buildAttestation.attestationHash
  freeze : r.configurationFreeze.freezeHash = r'.configurationFreeze.freezeHash
  ledger : r.paperLedger.ledgerHash = r'.paperLedger.ledgerHash
  deployment : r.deploymentEvidence.reportHash = r'.deploymentEvidence.reportHash
  rollback : r.rollbackEvidence.evidenceHash = r'.rollbackEvidence.evidenceHash

/-- The documents are the same field by field, the decimals of the ledgers by their values. -/
structure SameEvidence (r r' : RequestFields) : Prop where
  manifest : r.evidenceManifest = r'.evidenceManifest
  build : r.buildAttestation = r'.buildAttestation
  freeze : r.configurationFreeze = r'.configurationFreeze
  ledger : r.paperLedger.map Decimal.toRat = r'.paperLedger.map Decimal.toRat
  deployment : r.deploymentEvidence = r'.deploymentEvidence
  rollback : r.rollbackEvidence = r'.rollbackEvidence

/-- Documents with the same hash have the same body. -/
theorem body_eq_of_hash_eq {r r' : RequestFields} {a b : Json} {hash hash' : Hash}
    (hr : Sealed canonicalSha256 r) (hr' : Sealed canonicalSha256 r')
    (hFree : CollisionFree canonicalSha256 r r') (ha : (a, hash) ∈ documents r)
    (hb : (b, hash') ∈ documents r') (hSame : hash = hash') : a = b := by
  apply hFree _ (List.mem_append_left _ ha) _ (List.mem_append_right _ hb)
  rw [hr.hashed _ ha, hr'.hashed _ hb, hSame]

theorem sameEvidence_of_sealed {r r' : RequestFields} (hr : Sealed canonicalSha256 r)
    (hr' : Sealed canonicalSha256 r') (hFree : CollisionFree canonicalSha256 r r')
    (hSame : SameHashes r r') : SameEvidence r r' := by
  have hLedgerIds : r.paperLedger.ledgerId = r'.paperLedger.ledgerId := by
    rw [hr.ledgerId, hr'.ledgerId, hSame.ledger]
  have hReportIds : r.deploymentEvidence.reportId = r'.deploymentEvidence.reportId := by
    rw [hr.reportId, hr'.reportId, hSame.deployment]
  constructor
  case manifest =>
    apply EvidenceManifest.eq_of_body hSame.manifest
    exact body_eq_of_hash_eq hr hr' hFree (by simp [documents]) (by simp [documents]) hSame.manifest
  case build =>
    apply BuildAttestation.eq_of_body hSame.build
    exact body_eq_of_hash_eq hr hr' hFree (by simp [documents]) (by simp [documents]) hSame.build
  case freeze =>
    apply ConfigurationFreeze.eq_of_body hSame.freeze
    exact body_eq_of_hash_eq hr hr' hFree (by simp [documents]) (by simp [documents]) hSame.freeze
  case ledger =>
    apply PaperAcceptanceLedger.map_eq_of_body hLedgerIds hSame.ledger
    exact body_eq_of_hash_eq hr hr' hFree (by simp [documents]) (by simp [documents]) hSame.ledger
  case deployment =>
    apply DeploymentEvidenceReport.eq_of_body hReportIds hSame.deployment
    exact body_eq_of_hash_eq hr hr' hFree (by simp [documents]) (by simp [documents])
      hSame.deployment
  case rollback =>
    apply RollbackEvidence.eq_of_body hSame.rollback
    exact body_eq_of_hash_eq hr hr' hFree (by simp [documents]) (by simp [documents]) hSame.rollback

/-! ### The links between the documents -/

/-- What the report records under a name is the hash, and nothing else. -/
def RecordedAs (report : DeploymentEvidenceReport) (name : String) (hash : Hash) : Prop :=
  ∀ other, (name, other) ∈ report.evidenceHashes ↔ other = hash

/-- The documents agree where more than one has the same thing. -/
structure Linked (r : RequestFields) : Prop where
  artifacts : ∀ expected ∈ r.expectedArtifactHashes,
    r.evidenceManifest.sha256 expected.1 = some expected.2 ∧
      RecordedAs r.deploymentEvidence expected.1 expected.2
  configuration : r.paperLedger.configurationHash = r.configurationFreeze.configurationHash ∧
    r.deploymentEvidence.configurationHash = r.configurationFreeze.configurationHash ∧
    RecordedAs r.deploymentEvidence "configuration" r.configurationFreeze.configurationHash
  ledger : r.deploymentEvidence.paperLedgerId = r.paperLedger.ledgerId ∧
    r.deploymentEvidence.paperLedgerHash = r.paperLedger.ledgerHash ∧
    RecordedAs r.deploymentEvidence "paper_ledger" r.paperLedger.ledgerHash
  counts : r.deploymentEvidence.testsCollected = r.buildAttestation.testsCollected ∧
    r.deploymentEvidence.testsPassed = r.buildAttestation.testsPassed ∧
    r.deploymentEvidence.schemaCount = r.buildAttestation.schemaCount ∧
    r.deploymentEvidence.secretFindings = r.buildAttestation.secretFindings
  releaseVersion : r.buildAttestation.releaseVersion = r.configurationFreeze.releaseVersion ∧
    r.deploymentEvidence.releaseVersion = r.configurationFreeze.releaseVersion
  specificationVersion :
    r.buildAttestation.specificationVersion = r.configurationFreeze.specificationVersion ∧
      r.deploymentEvidence.specificationVersion = r.configurationFreeze.specificationVersion
  migrationHead : r.buildAttestation.migrationHead = r.configurationFreeze.migrationHead ∧
    r.deploymentEvidence.migrationHead = r.configurationFreeze.migrationHead

/-- The names of the expected hashes are different, so each records the one of its name. -/
theorem recordedAs_of_sameDict {r : RequestFields} {name : String} {hash : Hash}
    (hSame : RequestFields.SameDict r.deploymentEvidence.evidenceHashes r.expectedDeploymentHashes)
    (hExpected : (name, hash) ∈ r.expectedDeploymentHashes) :
    RecordedAs r.deploymentEvidence name hash := by
  have hNodup : (r.expectedDeploymentHashes.map (·.1)).Nodup := by
    simp [RequestFields.expectedDeploymentHashes]
  intro other
  constructor
  · intro h
    exact (Prod.mk.inj (List.inj_on_of_nodup_map hNodup (hSame.1 h) hExpected rfl)).2
  · rintro rfl
    exact hSame.2 hExpected

theorem linked_of_accepted (h : Accepted canonicalSha256 request) :
    Linked request.toRequestFields := by
  obtain ⟨-, hBuild, hFreeze, -, hDeployment, -, -, -⟩ := accepted_iff.mp h
  simp only [buildBlockers, freezeBlockers, deploymentBlockers, List.append_eq_nil_iff,
    blocker_eq_nil, ne_eq, not_or, not_not, not_exists, not_and, and_assoc]
    at hBuild hFreeze hDeployment
  obtain ⟨-, -, -, -, -, -, -, -, -, hBuildHead, hArtifacts⟩ := hBuild
  obtain ⟨-, hFreezeHead, -, -, hBuildRelease, hFreezeRelease, hBuildSpecification,
    hFreezeSpecification⟩ := hFreeze
  obtain ⟨-, -, -, -, hConfiguration, hLedgerConfiguration, hLedgerId, hLedgerHash, hRelease,
    hSpecification, hHead, hHashes, hCollected, hPassed, hSchemas, hSecrets⟩ := hDeployment
  exact {
    artifacts := by
      intro expected hExpected
      refine ⟨hArtifacts expected hExpected, recordedAs_of_sameDict hHashes ?_⟩
      revert expected
      simp [RequestFields.expectedArtifactHashes, RequestFields.expectedDeploymentHashes]
    configuration := ⟨hLedgerConfiguration, hConfiguration, recordedAs_of_sameDict hHashes
      (by simp [RequestFields.expectedDeploymentHashes])⟩
    ledger := ⟨hLedgerId, hLedgerHash, recordedAs_of_sameDict hHashes
      (by simp [RequestFields.expectedDeploymentHashes])⟩
    counts := ⟨hCollected, hPassed, hSchemas, hSecrets⟩
    releaseVersion := ⟨hBuildRelease.trans hFreezeRelease.symm, hRelease.trans hFreezeRelease.symm⟩
    specificationVersion := ⟨hBuildSpecification.trans hFreezeSpecification.symm,
      hSpecification.trans hFreezeSpecification.symm⟩
    migrationHead := ⟨hBuildHead.trans hFreezeHead.symm, hHead.trans hFreezeHead.symm⟩ }



/-! ### The approvals -/

/-- What a lookup tells of every entry tells the entries of the same names. -/
theorem eq_of_lookup {v : String → Option Hash} {as bs : List (String × Hash)}
    (hNames : as.map (·.1) = bs.map (·.1)) (ha : ∀ a ∈ as, v a.1 = some a.2)
    (hb : ∀ b ∈ bs, v b.1 = some b.2) : as = bs := by
  induction as generalizing bs with
  | nil => exact (List.map_eq_nil_iff.mp hNames.symm).symm
  | cons a as ih =>
    cases bs with
    | nil => cases hNames
    | cons b bs =>
      obtain ⟨hName, hRest⟩ := List.cons.inj hNames
      dsimp only at hName
      obtain ⟨ha, hLater⟩ := List.forall_mem_cons.mp ha
      obtain ⟨hb, hLater'⟩ := List.forall_mem_cons.mp hb
      have hHash : a.2 = b.2 := Option.some.inj (by rw [← ha, hName, hb])
      rw [Prod.ext hName hHash, ih hRest hLater hLater']

/-- Approvals, where there are any, tell the manifest that they attest. -/
theorem manifestHash_of_approval {approval : ApprovalAttestation}
    (h : Accepted canonicalSha256 request) (hMem : approval ∈ request.approvals) :
    request.evidenceManifest.manifestHash = approval.evidencePackageHash := by
  obtain ⟨-, -, -, -, -, -, -, hApprovals⟩ := accepted_iff.mp h
  simp only [approvalBlockers, List.append_eq_nil_iff, blocker_eq_nil, ne_eq, not_exists, not_and,
    not_not] at hApprovals
  exact (hApprovals.1.2 approval hMem).symm

/-! ### Two candidates with the same artifacts -/

/-- A digit, sixty-four times. -/
def repeatedDigit (digit : Fin 10) : Hash :=
  ⟨String.ofList (List.replicate 64 (Nat.digitChar digit)), by
    have hDigit : (Nat.digitChar digit).isDigit = true := by
      revert digit
      decide
    simp [isHash, hDigit]⟩

def sampleTime (day : Fin 32) (hour : Fin 24) : UtcDatetime where
  date :=
    { year := 2026, month := 8, day := day, year_le := by decide, month_le := by decide,
      day_le := Nat.le_of_lt_succ day.isLt }
  hour := hour
  minute := 0
  second := 0
  microsecond := 0
  hour_lt := hour.isLt
  minute_lt := by decide
  second_lt := by decide
  microsecond_lt := by decide

def sampleManifest : EvidenceManifest where
  generatedAt := sampleTime 3 12
  artifacts :=
    [{ name := "migrations", sha256 := repeatedDigit 1, sizeBytes := 100 },
      { name := "schemas_bundle", sha256 := repeatedDigit 2, sizeBytes := 200 },
      { name := "source_archive", sha256 := repeatedDigit 3, sizeBytes := 300 },
      { name := "specification", sha256 := repeatedDigit 4, sizeBytes := 400 },
      { name := "verification_report", sha256 := repeatedDigit 5, sizeBytes := 500 },
      { name := "wheel", sha256 := repeatedDigit 6, sizeBytes := 600 }]
  manifestHash := ⟨"0610b1010df1145474e1869ea4f6241fd6d227e319cb5e22042af12481cb4432", by decide +kernel⟩

section Documents

variable (day : Fin 32) (tests : ℕ) (netPnl : Decimal) (configurationHash : Hash)

def sampleBuild (attestationHash : Hash) : BuildAttestation where
  generatedAt := sampleTime day 13
  releaseVersion := "1.0.2"
  specificationVersion := "6.3"
  migrationHead := "0009_phase9_release"
  testsCollected := tests
  testsPassed := tests
  schemaCount := 50
  secretFindings := 0
  cleanInstallPassed := true
  extractedSourceTestPassed := true
  pythonCompilePassed := true
  wheelSmokeTestPassed := true
  sourceArchiveSha256 := repeatedDigit 3
  wheelSha256 := repeatedDigit 6
  migrationsSha256 := repeatedDigit 1
  schemasBundleSha256 := repeatedDigit 2
  verificationReportSha256 := repeatedDigit 5
  attestationHash := attestationHash

def sampleFreeze (freezeHash : Hash) : ConfigurationFreeze where
  frozenAt := sampleTime day 14
  releaseVersion := "1.0.2"
  specificationVersion := "6.3"
  environment := "paper"
  liveExecutionEnabled := false
  configurationHash := configurationHash
  specificationSha256 := repeatedDigit 4
  migrationHead := "0009_phase9_release"
  componentVersions := [("evaluator", "1.0.2"), ("features", "1.0.2")]
  freezeHash := freezeHash

def sampleAnalyticsPolicy : AnalyticsPolicy Decimal where
  policyVersion := "analytics_policy_v1"
  mode := "paper"
  minimumSessions := 1
  minimumFilledOrders := 1
  minimumCleanSessionRate := ⟨false, 10, -1⟩
  maximumInvariantViolations := 0
  maximumUnresolvedReconciliations := 0
  maximumDuplicateOrders := 0
  maximumLatePrimaryResponses := 0
  requireAllPositionsFlat := true
  requireCompleteReplay := true
  requireTargetAcceptance := true
  requireRestoreValidation := true
  requiredDrillCount := 0
  performanceIsAcceptanceGate := false
  allowLiveCertification := false

/-- One clean session with one filled order. -/
def sampleLedger (ledgerHash : Hash) : PaperAcceptanceLedger Decimal where
  ledgerId := "PL-" ++ slicePrefix ledgerHash.1 20
  generatedAt := sampleTime day 15
  status := .paperQualified
  paperReady := true
  liveReady := false
  sessionCount := 1
  cleanSessionCount := 1
  filledOrderCount := 1
  cleanSessionRate := ⟨false, 10, -1⟩
  sessions :=
    [{ sessionId := "SESSION-1", tradingDate := (sampleTime day 0).date, clean := true,
       reasons := [], analyticsId := "ANALYTICS-1", replayId := some "REPLAY-1" }]
  performance :=
    { sessionCount := 1, tradeCount := 1, grossPnl := netPnl, fees := ⟨false, 0, -2⟩,
      netPnl := netPnl, winRate := ⟨false, 1, 0⟩, profitFactor := none, expectancy := netPnl,
      maximumDrawdown := ⟨false, 0, -2⟩, averageRMultiple := ⟨false, 15, -1⟩ }
  blockers := []
  policy := sampleAnalyticsPolicy
  configurationHash := configurationHash
  requestHash := repeatedDigit 7
  ledgerHash := ledgerHash

def sampleDeployment (ledgerHash reportHash : Hash) : DeploymentEvidenceReport where
  reportId := "DE-" ++ slicePrefix reportHash.1 20
  generatedAt := sampleTime day 16
  status := .paperReady
  paperDeploymentReady := true
  liveDeploymentReady := false
  blockers := []
  releaseVersion := "1.0.2"
  specificationVersion := "6.3"
  migrationHead := "0009_phase9_release"
  configurationHash := configurationHash
  paperLedgerId := "PL-" ++ slicePrefix ledgerHash.1 20
  paperLedgerHash := ledgerHash
  testsCollected := tests
  testsPassed := tests
  schemaCount := 50
  secretFindings := 0
  evidenceHashes :=
    [("configuration", configurationHash), ("migrations", repeatedDigit 1),
      ("paper_ledger", ledgerHash), ("schemas_bundle", repeatedDigit 2),
      ("source_archive", repeatedDigit 3), ("specification", repeatedDigit 4),
      ("verification_report", repeatedDigit 5), ("wheel", repeatedDigit 6)]
  requestHash := repeatedDigit 8
  reportHash := reportHash

def sampleRollback (evidenceHash : Hash) : RollbackEvidence where
  testedAt := sampleTime day 17
  backupRestoreVerified := true
  previousWheelAvailable := true
  previousSourceArchiveAvailable := true
  emergencyFlattenVerified := true
  databaseForwardRecoveryVerified := true
  rollbackPlanSha256 := repeatedDigit 9
  evidenceHash := evidenceHash

/-- Every role approves the artifacts of the manifest. -/
def sampleApprovals : List ApprovalAttestation :=
  [.engineering, .independentReview, .operations, .risk, .security].map fun role =>
    { role := role, reviewerId := "reviewer", approved := true, approvedAt := sampleTime 5 12,
      evidencePackageHash := sampleManifest.manifestHash }

def sampleFields (attestationHash freezeHash ledgerHash reportHash evidenceHash : Hash) :
    RequestFields where
  generatedAt := sampleTime 5 13
  evidenceManifest := sampleManifest
  buildAttestation := sampleBuild day tests attestationHash
  configurationFreeze := sampleFreeze day configurationHash freezeHash
  paperLedger := sampleLedger day netPnl configurationHash ledgerHash
  deploymentEvidence := sampleDeployment day tests configurationHash ledgerHash reportHash
  rollbackEvidence := sampleRollback day evidenceHash
  approvals := sampleApprovals
  independentReviewComplete := true

end Documents

def sampleFinding : ReviewFinding where
  findingId := "FINDING-1"
  severity := .low
  status := .opened
  category := "documentation"
  title := "Stale runbook"
  owner := "operations"

def firstFields : RequestFields :=
  sampleFields 3 260 ⟨false, 150, -2⟩ (repeatedDigit 0)
    ⟨"956eb4efa397f0700fbf3c713e4daae093c7dcb13baffd14d93f12807654afd3", by decide +kernel⟩
    ⟨"3bc0b203dce93579b6852da47e6a2f75f5423323dbc3416917202be495c6a97b", by decide +kernel⟩
    ⟨"7624a5c267b30b89e2f460dd0a8c77ed688e0e1a592360a5e0e7e21083d17bc5", by decide +kernel⟩
    ⟨"65c52b1ebed35bee6c04f9024e74a7dab01d86315315c8de4bb5a75c43b4fcb2", by decide +kernel⟩
    ⟨"d7071502ef19c8f6e93d22b504b9b3a01cbd1b88a4b3c29fb2b878a985418e17", by decide +kernel⟩

/-- Other evidence on the same artifacts, with an open finding. -/
def secondFields : RequestFields :=
  { sampleFields 4 270 ⟨false, 275, -2⟩ (repeatedDigit 9)
      ⟨"5193dc352de356b6d8e59892fe8679ea3280eaa24294ddca1f641a1cb4acfa2b", by decide +kernel⟩
      ⟨"5aa0738d0131b328011456941b1a594fd7cc9616082100ab1d67abbf7334df9c", by decide +kernel⟩
      ⟨"ba8089f0330e6f9b92c9a8bdca7ef178ebd9c48243da776a0a329c8f0fe98827", by decide +kernel⟩
      ⟨"702cdbad29e072f89e18389118fc8d7f7d3585bc4e8f06711fbf2391340f0866", by decide +kernel⟩
      ⟨"23b2e9b6386bdcef11989fc48350237bb3a7803130af23c72237bb8fc8099b49", by decide +kernel⟩ with
    findings := [sampleFinding] }

/-- The time of a document. -/
def timeOf : Json → Option Json
  | .obj entries =>
    (entries.find? fun entry => entry.1 ∈ ["generated_at", "frozen_at", "tested_at"]).map (·.2)
  | _ => none

/-- The SHA-256 hashes of the canonical JSON of the sample documents, told by their times. -/
def sampleSha256 (body : Json) : Hash :=
  let known (r : RequestFields) : List (UtcDatetime × Hash) :=
    [(r.evidenceManifest.generatedAt, r.evidenceManifest.manifestHash),
      (r.buildAttestation.generatedAt, r.buildAttestation.attestationHash),
      (r.configurationFreeze.frozenAt, r.configurationFreeze.freezeHash),
      (r.paperLedger.generatedAt, r.paperLedger.ledgerHash),
      (r.deploymentEvidence.generatedAt, r.deploymentEvidence.reportHash),
      (r.rollbackEvidence.testedAt, r.rollbackEvidence.evidenceHash)]
  match timeOf body with
  | some (.str time) =>
    (((known firstFields ++ known secondFields).find? (·.1.isoformat = time)).map (·.2)).getD
      (repeatedDigit 0)
  | _ => repeatedDigit 0

def firstRequest : ProductionCandidateRequest := { firstFields with valid := by decide +kernel }

def secondRequest : ProductionCandidateRequest := { secondFields with valid := by decide +kernel }

/-- The evidence of the first request in another request, an hour later and with a finding. -/
def laterRequest : ProductionCandidateRequest :=
  { firstFields with
    generatedAt := sampleTime 5 14
    findings := [sampleFinding]
    valid := by decide +kernel }

theorem accepted_firstRequest : Accepted sampleSha256 firstRequest := by decide +kernel

theorem accepted_secondRequest : Accepted sampleSha256 secondRequest := by decide +kernel

theorem accepted_laterRequest : Accepted sampleSha256 laterRequest := by
  -- The blockers of the documents are those of the first request.
  obtain ⟨hManifest, hBuild, hFreeze, hLedger, hDeployment, hRollback, -, -⟩ :=
    accepted_iff.mp accepted_firstRequest
  exact accepted_iff.mpr ⟨hManifest, hBuild, hFreeze, hLedger, hDeployment, hRollback,
    by decide +kernel, by decide +kernel⟩

/-- The documents of the first request, and of the second but for the manifest. -/
def sampleDocuments : List (Json × Hash) := documents firstFields ++ (documents secondFields).tail

theorem sampleDocuments_nodup : (sampleDocuments.map (·.2)).Nodup := by decide +kernel

theorem collisionFree_laterRequest :
    CollisionFree sampleSha256 firstRequest.toRequestFields laterRequest.toRequestFields := by
  apply collisionFree_of_nodup (sealed_of_accepted accepted_firstRequest)
    (sealed_of_accepted accepted_laterRequest) ?_ sampleDocuments_nodup
  exact List.append_subset.mpr ⟨List.subset_append_left _ _, List.subset_append_left _ _⟩

theorem collisionFree_secondRequest :
    CollisionFree sampleSha256 firstRequest.toRequestFields secondRequest.toRequestFields := by
  apply collisionFree_of_nodup (sealed_of_accepted accepted_firstRequest)
    (sealed_of_accepted accepted_secondRequest) ?_ sampleDocuments_nodup
  refine List.append_subset.mpr ⟨List.subset_append_left _ _, List.cons_subset.mpr ⟨?_, ?_⟩⟩
  · exact List.mem_append_left _ List.mem_cons_self
  · exact List.subset_append_right _ _

/-! ### Results -/

/-- The documents of an accepted request agree with each other, and two accepted requests with
the same hashes have the same documents. -/
theorem evidence_tamperEvident (canonicalSha256 : Json → Hash)
    (request request' : ProductionCandidateRequest) (hAccepted : Accepted canonicalSha256 request)
    (hAccepted' : Accepted canonicalSha256 request') :
    Linked request.toRequestFields ∧
      (CollisionFree canonicalSha256 request.toRequestFields request'.toRequestFields →
        SameHashes request.toRequestFields request'.toRequestFields →
        SameEvidence request.toRequestFields request'.toRequestFields) := by
  refine ⟨linked_of_accepted hAccepted, ?_⟩
  intro hFree hSame
  exact sameEvidence_of_sealed (sealed_of_accepted hAccepted) (sealed_of_accepted hAccepted') hFree hSame

theorem laterRequest_sameEvidence : firstRequest.toRequestFields ≠ laterRequest.toRequestFields ∧
    Linked firstRequest.toRequestFields ∧
    SameEvidence firstRequest.toRequestFields laterRequest.toRequestFields := by
  have hResult := evidence_tamperEvident sampleSha256 firstRequest laterRequest accepted_firstRequest
    accepted_laterRequest
  have hDifferent : firstRequest.toRequestFields ≠ laterRequest.toRequestFields := by
    intro h
    exact absurd (congrArg RequestFields.findings h) (by decide)
  exact ⟨hDifferent, hResult.1,
    hResult.2 collisionFree_laterRequest ⟨rfl, rfl, rfl, rfl, rfl, rfl⟩⟩

/-- Two accepted requests with the same approvals, of which there is one, are about the same
artifacts. -/
theorem approvals_bind_artifacts (canonicalSha256 : Json → Hash)
    (request request' : ProductionCandidateRequest) (hAccepted : Accepted canonicalSha256 request)
    (hAccepted' : Accepted canonicalSha256 request')
    (hFree : CollisionFree canonicalSha256 request.toRequestFields request'.toRequestFields)
    (hApprovals : request.approvals = request'.approvals) (hSome : request.approvals ≠ []) :
    request.evidenceManifest = request'.evidenceManifest ∧
      request.expectedArtifactHashes = request'.expectedArtifactHashes ∧
      ∀ name ∈ requiredArtifacts, ∀ hash, (name, hash) ∈ request.deploymentEvidence.evidenceHashes ↔
        (name, hash) ∈ request'.deploymentEvidence.evidenceHashes := by
  obtain ⟨approval, hMem⟩ := List.exists_mem_of_ne_nil _ hSome
  have hLinked := linked_of_accepted hAccepted
  have hLinked' := linked_of_accepted hAccepted'
  have hHash : request.evidenceManifest.manifestHash = request'.evidenceManifest.manifestHash := by
    rw [manifestHash_of_approval hAccepted hMem,
      manifestHash_of_approval hAccepted' (hApprovals ▸ hMem)]
  have hManifest : request.evidenceManifest = request'.evidenceManifest := by
    apply EvidenceManifest.eq_of_body hHash
    exact body_eq_of_hash_eq (sealed_of_accepted hAccepted) (sealed_of_accepted hAccepted') hFree
      (by simp [documents]) (by simp [documents]) hHash
  have hExpected : request.expectedArtifactHashes = request'.expectedArtifactHashes := by
    have hLookup : ∀ expected ∈ request.expectedArtifactHashes,
        request.evidenceManifest.sha256 expected.1 = some expected.2 :=
      fun expected h => (hLinked.artifacts expected h).1
    have hLookup' : ∀ expected ∈ request'.expectedArtifactHashes,
        request.evidenceManifest.sha256 expected.1 = some expected.2 := by
      intro expected h
      rw [hManifest]
      exact (hLinked'.artifacts expected h).1
    exact eq_of_lookup rfl hLookup hLookup'
  refine ⟨hManifest, hExpected, ?_⟩
  intro name hName hash
  have hNamed : ∃ expected ∈ request.expectedArtifactHashes, expected.1 = name := by
    revert name
    simp [requiredArtifacts, RequestFields.expectedArtifactHashes]
  obtain ⟨expected, hIn, rfl⟩ := hNamed
  rw [(hLinked.artifacts expected hIn).2 hash, (hLinked'.artifacts expected (hExpected ▸ hIn)).2 hash]

theorem secondRequest_sameArtifacts :
    firstRequest.evidenceManifest = secondRequest.evidenceManifest ∧
      firstRequest.expectedArtifactHashes = secondRequest.expectedArtifactHashes := by
  have hResult := approvals_bind_artifacts sampleSha256 firstRequest secondRequest
    accepted_firstRequest accepted_secondRequest collisionFree_secondRequest rfl nofun
  exact ⟨hResult.1, hResult.2.1⟩

/-- Under the same approvals and the same policy every other document may be another. -/
theorem approvals_bind_no_other_document :
    (Accepted sampleSha256 firstRequest ∧ Accepted sampleSha256 secondRequest ∧
      CollisionFree sampleSha256 firstRequest.toRequestFields secondRequest.toRequestFields) ∧
    (firstRequest.approvals = secondRequest.approvals ∧ firstRequest.policy = secondRequest.policy) ∧
    firstRequest.buildAttestation ≠ secondRequest.buildAttestation ∧
    firstRequest.configurationFreeze ≠ secondRequest.configurationFreeze ∧
    firstRequest.paperLedger.map Decimal.toRat ≠ secondRequest.paperLedger.map Decimal.toRat ∧
    firstRequest.deploymentEvidence ≠ secondRequest.deploymentEvidence ∧
    firstRequest.rollbackEvidence ≠ secondRequest.rollbackEvidence ∧
    firstRequest.findings ≠ secondRequest.findings := by
  refine ⟨⟨accepted_firstRequest, accepted_secondRequest, collisionFree_secondRequest⟩, ⟨rfl, rfl⟩,
    ?_, ?_, ?_, ?_, ?_, nofun⟩
  · intro h
    exact absurd (congrArg BuildAttestation.testsCollected h) (by decide)
  · intro h
    exact absurd (congrArg ConfigurationFreeze.frozenAt h) (by decide)
  · intro h
    exact absurd (congrArg PaperAcceptanceLedger.generatedAt h) (by decide)
  · intro h
    exact absurd (congrArg DeploymentEvidenceReport.testsCollected h) (by decide)
  · intro h
    exact absurd (congrArg RollbackEvidence.testedAt h) (by decide)

end Daybreak.Release
