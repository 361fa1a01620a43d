import Daybreak.Serial.Canonical

/-! The acceptance ledger of the paper sessions and the deployment evidence, with the bodies
that their hashes cover. A ledger is taken over the type of its decimals, so that two can be
compared by the values of theirs. -/

namespace Daybreak.Analytics

open Numeric Serial

/-! ### Fields -/

/-- `^[0-9a-f]{64}$` -/
def isHash (text : String) : Bool :=
  text.length = 64 && text.toList.all fun c => c.isDigit || ('a' ≤ c && c ≤ 'f')

/-- A SHA-256 hash in hexadecimal digits. -/
abbrev Hash := { text : String // isHash text = true }

/-- An identifier of at least eight and at most `bound` characters. -/
abbrev IsId (bound : ℕ) (text : String) : Prop := 8 ≤ text.length ∧ text.length ≤ bound

def hash (h : Hash) : Json := .str h.1

def natural (n : ℕ) : Json := .int n

def decimal (d : Decimal) : Json := .str (fixedText d)

def timestamp (t : UtcDatetime) : Json := .str t.isoformat

def texts (items : List String) : Json := .arr (items.map .str)

/-- Pairs of texts. -/
def pairs {α : Type} (write : α → Json) (items : List (String × α)) : Json :=
  .arr (items.map fun item => .arr [.str item.1, write item.2])

@[simp] theorem hash_inj {a b : Hash} : hash a = hash b ↔ a = b := by
  simp [hash, Subtype.ext_iff]

@[simp] theorem natural_inj {a b : ℕ} : natural a = natural b ↔ a = b := by
  simp [natural]

@[simp] theorem timestamp_inj {a b : UtcDatetime} : timestamp a = timestamp b ↔ a = b := by
  constructor
  · intro h
    exact UtcDatetime.isoformat_injective (Json.str.inj h)
  · rintro rfl
    rfl

@[simp] theorem texts_inj {a b : List String} : texts a = texts b ↔ a = b := by
  simp [texts, List.map_inj_right]

theorem pairs_inj {α : Type} {write : α → Json} {a b : List (String × α)}
    (hWrite : ∀ x y, write x = write y → x = y) : pairs write a = pairs write b ↔ a = b := by
  constructor
  · intro h
    have hItems := Json.arr_map_inj (v := id) (fun x y hSame => ?_) h
    · simpa using hItems
    · simp only [Json.arr.injEq, List.cons.injEq, Json.str.injEq, and_true] at hSame
      exact Prod.ext hSame.1 (hWrite _ _ hSame.2)
  · rintro rfl
    rfl

theorem toRat_of_decimal {a b : Decimal} (h : decimal a = decimal b) : a.toRat = b.toRat :=
  toRat_eq_of_fixedText (Json.str.inj h)

theorem decimal_ne_null (d : Decimal) : decimal d ≠ .null := by
  simp [decimal]

/-! ### Policies and performance -/

structure AnalyticsPolicy (D : Type) where
  policyVersion : String
  mode : String
  minimumSessions : ℕ
  minimumFilledOrders : ℕ
  minimumCleanSessionRate : D
  maximumInvariantViolations : ℕ
  maximumUnresolvedReconciliations : ℕ
  maximumDuplicateOrders : ℕ
  maximumLatePrimaryResponses : ℕ
  requireAllPositionsFlat : Bool
  requireCompleteReplay : Bool
  requireTargetAcceptance : Bool
  requireRestoreValidation : Bool
  requiredDrillCount : ℕ
  performanceIsAcceptanceGate : Bool
  allowLiveCertification : Bool
  deriving DecidableEq, Repr

structure SessionAcceptance where
  sessionId : String
  tradingDate : CalendarDate
  clean : Bool
  reasons : List String
  analyticsId : String
  replayId : Option String
  deriving DecidableEq, Repr

structure AggregatePerformance (D : Type) where
  sessionCount : ℕ
  tradeCount : ℕ
  grossPnl : D
  fees : D
  netPnl : D
  winRate : D
  profitFactor : Option D
  expectancy : D
  maximumDrawdown : D
  averageRMultiple : D
  deriving DecidableEq, Repr

namespace AnalyticsPolicy

def map {D D' : Type} (f : D → D') (p : AnalyticsPolicy D) : AnalyticsPolicy D' :=
  { p with minimumCleanSessionRate := f p.minimumCleanSessionRate }

def Valid (p : AnalyticsPolicy Decimal) : Prop :=
  p.policyVersion = "analytics_policy_v1" ∧ p.mode = "paper" ∧
    (1 ≤ p.minimumSessions ∧ p.minimumSessions ≤ 365) ∧
    (1 ≤ p.minimumFilledOrders ∧ p.minimumFilledOrders ≤ 10000) ∧
    (0 ≤ p.minimumCleanSessionRate.toRat ∧ p.minimumCleanSessionRate.toRat ≤ 1) ∧
    p.requireAllPositionsFlat = true ∧ p.requireCompleteReplay = true ∧
    p.requireTargetAcceptance = true ∧ p.requireRestoreValidation = true ∧
    p.requiredDrillCount ≤ 32 ∧ p.performanceIsAcceptanceGate = false ∧
    p.allowLiveCertification = false

instance (p : AnalyticsPolicy Decimal) : Decidable p.Valid := inferInstanceAs (Decidable (_ ∧ _))

def fields : List (String × (AnalyticsPolicy Decimal → Json)) :=
  [("policy_version", fun p => .str p.policyVersion), ("mode", fun p => .str p.mode),
    ("minimum_sessions", fun p => natural p.minimumSessions),
    ("minimum_filled_orders", fun p => natural p.minimumFilledOrders),
    ("minimum_clean_session_rate", fun p => decimal p.minimumCleanSessionRate),
    ("maximum_invariant_violations", fun p => natural p.maximumInvariantViolations),
    ("maximum_unresolved_reconciliations", fun p => natural p.maximumUnresolvedReconciliations),
    ("maximum_duplicate_orders", fun p => natural p.maximumDuplicateOrders),
    ("maximum_late_primary_responses", fun p => natural p.maximumLatePrimaryResponses),
    ("require_all_positions_flat", fun p => .bool p.requireAllPositionsFlat),
    ("require_complete_replay", fun p => .bool p.requireCompleteReplay),
    ("require_target_acceptance", fun p => .bool p.requireTargetAcceptance),
    ("require_restore_validation", fun p => .bool p.requireRestoreValidation),
    ("required_drill_count", fun p => natural p.requiredDrillCount),
    ("performance_is_acceptance_gate", fun p => .bool p.performanceIsAcceptanceGate),
    ("allow_live_certification", fun p => .bool p.allowLiveCertification)]

/-- What is written tells a policy, and its rate by its value. -/
theorem map_eq_of_record {a b : AnalyticsPolicy Decimal} (h : Json.record fields a = .record fields b) :
    a.map Decimal.toRat = b.map Decimal.toRat := by
  have hFields := Json.record_inj (by simp [fields]) h
  simp only [fields, List.forall_mem_cons, Json.str.injEq, Json.bool.injEq, natural_inj] at hFields
  obtain ⟨h₁, h₂, h₃, h₄, hRate, h₆, h₇, h₈, h₉, h₁₀, h₁₁, h₁₂, h₁₃, h₁₄, h₁₅, h₁₆, -⟩ := hFields
  simp only [map, mk.injEq]
  exact ⟨h₁, h₂, h₃, h₄, toRat_of_decimal hRate, h₆, h₇, h₈, h₉, h₁₀, h₁₁, h₁₂, h₁₃, h₁₄, h₁₅, h₁₆⟩

end AnalyticsPolicy

namespace SessionAcceptance

def Valid (s : SessionAcceptance) : Prop :=
  IsId 64 s.sessionId ∧ IsId 64 s.analyticsId ∧ ∀ replay ∈ s.replayId, IsId 64 replay

instance (s : SessionAcceptance) : Decidable s.Valid := inferInstanceAs (Decidable (_ ∧ _))

def fields : List (String × (SessionAcceptance → Json)) :=
  [("session_id", fun s => .str s.sessionId),
    ("trading_date", fun s => .str s.tradingDate.isoformat), ("clean", fun s => .bool s.clean),
    ("reasons", fun s => texts s.reasons), ("analytics_id", fun s => .str s.analyticsId),
    ("replay_id", fun s => .optional .str s.replayId)]

theorem eq_of_record {a b : SessionAcceptance} (h : Json.record fields a = .record fields b) :
    a = b := by
  have hFields := Json.record_inj (by simp [fields]) h
  simp only [fields, List.forall_mem_cons, Json.str.injEq, Json.bool.injEq, texts_inj] at hFields
  obtain ⟨hSession, hDate, hClean, hReasons, hAnalytics, hReplay, -⟩ := hFields
  have hReplayId := Json.optional_inj (v := id) nofun (fun _ _ => Json.str.inj) hReplay
  simp only [Option.map_id, id] at hReplayId
  cases a
  cases b
  simp only [mk.injEq]
  exact ⟨hSession, CalendarDate.isoformat_injective hDate, hClean, hReasons, hAnalytics, hReplayId⟩

end SessionAcceptance

namespace AggregatePerformance

def map {D D' : Type} (f : D → D') (p : AggregatePerformance D) : AggregatePerformance D' where
  sessionCount := p.sessionCount
  tradeCount := p.tradeCount
  grossPnl := f p.grossPnl
  fees := f p.fees
  netPnl := f p.netPnl
  winRate := f p.winRate
  profitFactor := p.profitFactor.map f
  expectancy := f p.expectancy
  maximumDrawdown := f p.maximumDrawdown
  averageRMultiple := f p.averageRMultiple

def Valid (p : AggregatePerformance Decimal) : Prop :=
  0 ≤ p.fees.toRat ∧ (0 ≤ p.winRate.toRat ∧ p.winRate.toRat ≤ 1) ∧ 0 ≤ p.maximumDrawdown.toRat

instance (p : AggregatePerformance Decimal) : Decidable p.Valid :=
  inferInstanceAs (Decidable (_ ∧ _))

def fields : List (String × (AggregatePerformance Decimal → Json)) :=
  [("session_count", fun p => natural p.sessionCount),
    ("trade_count", fun p => natural p.tradeCount), ("gross_pnl", fun p => decimal p.grossPnl),
    ("fees", fun p => decimal p.fees), ("net_pnl", fun p => decimal p.netPnl),
    ("win_rate", fun p => decimal p.winRate),
    ("profit_factor", fun p => .optional decimal p.profitFactor),
    ("expectancy", fun p => decimal p.expectancy),
    ("maximum_drawdown", fun p => decimal p.maximumDrawdown),
    ("average_r_multiple", fun p => decimal p.averageRMultiple)]

theorem map_eq_of_record {a b : AggregatePerformance Decimal}
    (h : Json.record fields a = .record fields b) : a.map Decimal.toRat = b.map Decimal.toRat := by
  have hFields := Json.record_inj (by simp [fields]) h
  simp only [fields, List.forall_mem_cons, natural_inj] at hFields
  obtain ⟨hSessions, hTrades, hGross, hFees, hNet, hWin, hFactor, hExpectancy, hDrawdown, hMultiple,
    -⟩ := hFields
  simp only [map, mk.injEq]
  exact ⟨hSessions, hTrades, toRat_of_decimal hGross, toRat_of_decimal hFees, toRat_of_decimal hNet,
    toRat_of_decimal hWin, Json.optional_inj decimal_ne_null (fun _ _ => toRat_of_decimal) hFactor,
    toRat_of_decimal hExpectancy, toRat_of_decimal hDrawdown, toRat_of_decimal hMultiple⟩

end AggregatePerformance

/-! ### The acceptance ledger -/

inductive AcceptanceStatus where
  | collecting | blocked | paperQualified
  deriving DecidableEq, Repr

def AcceptanceStatus.value : AcceptanceStatus → String
  | .collecting => "collecting"
  | .blocked => "blocked"
  | .paperQualified => "paper_qualified"

theorem AcceptanceStatus.value_injective {a b : AcceptanceStatus} (h : a.value = b.value) : a = b := by
  cases a <;> cases b <;> first | rfl | exact absurd h (by decide)

structure PaperAcceptanceLedger (D : Type) where
  ledgerId : String
  generatedAt : UtcDatetime
  status : AcceptanceStatus
  paperReady : Bool
  liveReady : Bool
  sessionCount : ℕ
  cleanSessionCount : ℕ
  filledOrderCount : ℕ
  cleanSessionRate : D
  sessions : List SessionAcceptance
  performance : AggregatePerformance D
  blockers : List String
  policy : AnalyticsPolicy D
  configurationHash : Hash
  requestHash : Hash
  ledgerHash : Hash
  deriving DecidableEq, Repr

namespace PaperAcceptanceLedger

def map {D D' : Type} (f : D → D') (l : PaperAcceptanceLedger D) : PaperAcceptanceLedger D' :=
  { l with
    cleanSessionRate := f l.cleanSessionRate
    performance := l.performance.map f
    policy := l.policy.map f }

/-- Field bounds, then `coherent`. -/
def Valid (l : PaperAcceptanceLedger Decimal) : Prop :=
  (IsId 64 l.ledgerId ∧ l.liveReady = false ∧
    (0 ≤ l.cleanSessionRate.toRat ∧ l.cleanSessionRate.toRat ≤ 1) ∧
    (∀ session ∈ l.sessions, session.Valid) ∧ l.performance.Valid ∧ l.policy.Valid) ∧
  (l.paperReady = true ↔ l.status = .paperQualified) ∧ (l.paperReady = true → l.blockers = [])

instance (l : PaperAcceptanceLedger Decimal) : Decidable l.Valid :=
  inferInstanceAs (Decidable (_ ∧ _))

def fields : List (String × (PaperAcceptanceLedger Decimal → Json)) :=
  [("ledger_id", fun l => .str l.ledgerId), ("generated_at", fun l => timestamp l.generatedAt),
    ("status", fun l => .str l.status.value), ("paper_ready", fun l => .bool l.paperReady),
    ("live_ready", fun l => .bool l.liveReady), ("session_count", fun l => natural l.sessionCount),
    ("clean_session_count", fun l => natural l.cleanSessionCount),
    ("filled_order_count", fun l => natural l.filledOrderCount),
    ("clean_session_rate", fun l => decimal l.cleanSessionRate),
    ("sessions", fun l => .arr (l.sessions.map (.record SessionAcceptance.fields))),
    ("performance", fun l => .record AggregatePerformance.fields l.performance),
    ("blockers", fun l => texts l.blockers),
    ("policy", fun l => .record AnalyticsPolicy.fields l.policy),
    ("configuration_hash", fun l => hash l.configurationHash),
    ("request_hash", fun l => hash l.requestHash), ("ledger_hash", fun l => hash l.ledgerHash)]

/-- `paper_ledger_body` -/
def body (l : PaperAcceptanceLedger Decimal) : Json :=
  .record (Json.without ["ledger_id", "ledger_hash"] fields) l

/-- The body of a ledger tells it, but for its id and its hash. -/
theorem map_eq_of_body {a b : PaperAcceptanceLedger Decimal} (hId : a.ledgerId = b.ledgerId)
    (hHash : a.ledgerHash = b.ledgerHash) (h : a.body = b.body) :
    a.map Decimal.toRat = b.map Decimal.toRat := by
  have hFields := Json.record_without_inj (by simp [fields]) h
  simp only [fields, List.forall_mem_cons] at hFields
  simp only [List.mem_cons, List.not_mem_nil, String.reduceEq, or_false, or_true,
    not_true_eq_false, not_false_eq_true, false_implies, true_implies, true_and, Json.str.injEq,
    Json.bool.injEq, natural_inj, timestamp_inj, texts_inj, hash_inj] at hFields
  obtain ⟨hGenerated, hStatus, hPaper, hLive, hSessionCount, hCleanCount, hFilled, hRate, hSessions,
    hPerformance, hBlockers, hPolicy, hConfiguration, hRequest, -⟩ := hFields
  have hItems := Json.arr_map_inj (v := id) (fun _ _ => SessionAcceptance.eq_of_record) hSessions
  simp only [List.map_id] at hItems
  simp only [map, mk.injEq]
  exact ⟨hId, hGenerated, AcceptanceStatus.value_injective hStatus, hPaper, hLive, hSessionCount,
    hCleanCount, hFilled, toRat_of_decimal hRate, hItems,
    AggregatePerformance.map_eq_of_record hPerformance, hBlockers,
    AnalyticsPolicy.map_eq_of_record hPolicy, hConfiguration, hRequest, hHash⟩

end PaperAcceptanceLedger

/-! ### The deployment evidence -/

inductive DeploymentStatus where
  | incomplete | paperReady
  deriving DecidableEq, Repr

def DeploymentStatus.value : DeploymentStatus → String
  | .incomplete => "incomplete"
  | .paperReady => "paper_ready"

theorem DeploymentStatus.value_injective {a b : DeploymentStatus} (h : a.value = b.value) : a = b := by
  cases a <;> cases b <;> first | rfl | exact absurd h (by decide)

structure DeploymentEvidenceReport where
  reportId : String
  generatedAt : UtcDatetime
  status : DeploymentStatus
  paperDeploymentReady : Bool
  liveDeploymentReady : Bool
  blockers : List String
  releaseVersion : String
  specificationVersion : String
  migrationHead : String
  configurationHash : Hash
  paperLedgerId : String
  paperLedgerHash : Hash
  testsCollected : ℕ
  testsPassed : ℕ
  schemaCount : ℕ
  secretFindings : ℕ
  evidenceHashes : List (String × Hash)
  requestHash : Hash
  reportHash : Hash
  deriving DecidableEq, Repr

namespace DeploymentEvidenceReport

/-- Field bounds, then `evidence_sorted_unique`, then `coherent`. -/
def Valid (r : DeploymentEvidenceReport) : Prop :=
  (IsId 64 r.reportId ∧ r.liveDeploymentReady = false ∧ r.releaseVersion = "1.0.2" ∧
    r.specificationVersion = "6.3" ∧ r.migrationHead = "0009_phase9_release" ∧
    IsId 64 r.paperLedgerId ∧ 0 < r.testsCollected ∧ 0 < r.schemaCount) ∧
  (r.evidenceHashes.map (·.1)).Pairwise (· < ·) ∧
  (r.paperDeploymentReady = true ↔ r.status = .paperReady) ∧
  (r.paperDeploymentReady = true → r.blockers = []) ∧ r.testsPassed ≤ r.testsCollected

instance (r : DeploymentEvidenceReport) : Decidable r.Valid := inferInstanceAs (Decidable (_ ∧ _))

def fields : List (String × (DeploymentEvidenceReport → Json)) :=
  [("report_id", fun r => .str r.reportId), ("generated_at", fun r => timestamp r.generatedAt),
    ("status", fun r => .str r.status.value),
    ("paper_deployment_ready", fun r => .bool r.paperDeploymentReady),
    ("live_deployment_ready", fun r => .bool r.liveDeploymentReady),
    ("blockers", fun r => texts r.blockers), ("release_version", fun r => .str r.releaseVersion),
    ("specification_version", fun r => .str r.specificationVersion),
    ("migration_head", fun r => .str r.migrationHead),
    ("configuration_hash", fun r => hash r.configurationHash),
    ("paper_ledger_id", fun r => .str r.paperLedgerId),
    ("paper_ledger_hash", fun r => hash r.paperLedgerHash),
    ("tests_collected", fun r => natural r.testsCollected),
    ("tests_passed", fun r => natural r.testsPassed),
    ("schema_count", fun r => natural r.schemaCount),
    ("secret_findings", fun r => natural r.secretFindings),
    ("evidence_hashes", fun r => pairs hash r.evidenceHashes),
    ("request_hash", fun r => hash r.requestHash), ("report_hash", fun r => hash r.reportHash)]

/-- `deployment_report_body` -/
def body (r : DeploymentEvidenceReport) : Json :=
  .record (Json.without ["report_id", "report_hash"] fields) r

/-- The body of a report tells it, but for its id and its hash. -/
theorem eq_of_body {a b : DeploymentEvidenceReport} (hId : a.reportId = b.reportId)
    (hHash : a.reportHash = b.reportHash) (h : a.body = b.body) : a = b := by
  have hFields := Json.record_without_inj (by simp [fields]) h
  simp only [fields, List.forall_mem_cons] at hFields
  simp only [List.mem_cons, List.not_mem_nil, String.reduceEq, or_false, or_true,
    not_true_eq_false, not_false_eq_true, false_implies, true_implies, true_and, Json.str.injEq,
    Json.bool.injEq, natural_inj, timestamp_inj, texts_inj, hash_inj] at hFields
  obtain ⟨hGenerated, hStatus, hPaper, hLive, hBlockers, hRelease, hSpecification, hMigration,
    hConfiguration, hLedgerId, hLedgerHash, hCollected, hPassed, hSchemas, hSecrets, hEvidence,
    hRequest, -⟩ := hFields
  have hHashes := (pairs_inj fun _ _ => hash_inj.mp).mp hEvidence
  cases a
  cases b
  simp only [mk.injEq]
  exact ⟨hId, hGenerated, DeploymentStatus.value_injective hStatus, hPaper, hLive, hBlockers, hRelease,
    hSpecification, hMigration, hConfiguration, hLedgerId, hLedgerHash, hCollected, hPassed, hSchemas,
    hSecrets, hHashes, hRequest, hHash⟩

end DeploymentEvidenceReport

end Daybreak.Analytics
