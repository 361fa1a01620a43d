import Daybreak.Analytics.Performance
import Daybreak.Numeric.Quotient

/-! The acceptance ledger of the paper sessions. Counts are compared as they are, but the rate of
the clean sessions only after it has been rounded to ten decimal places: a minimum between the
rate and what it is rounded to is taken as reached. -/

namespace Daybreak.Analytics

open Contracts Effect Numeric Serial

/-! ### Replay reports -/

inductive ReplayComponent where
  | recorder | features | evaluator | risk | execution | orchestration
  deriving DecidableEq, Repr

namespace ReplayComponent

def value : ReplayComponent → String
  | recorder => "recorder"
  | features => "features"
  | evaluator => "evaluator"
  | risk => "risk"
  | execution => "execution"
  | orchestration => "orchestration"

def all : List ReplayComponent := [recorder, features, evaluator, risk, execution, orchestration]

end ReplayComponent

structure ReplayComponentEvidence where
  component : ReplayComponent
  expectedHash : Option Hash := none
  actualHash : Option Hash := none
  evidenceCount : ℕ := 0
  verified : Bool
  errors : List String := []
  deriving DecidableEq, Repr

namespace ReplayComponentEvidence

def Valid (e : ReplayComponentEvidence) : Prop :=
  e.verified = true ↔ e.expectedHash.isSome ∧ e.actualHash = e.expectedHash ∧ e.errors = []

instance decidableValid (e : ReplayComponentEvidence) : Decidable e.Valid :=
  inferInstanceAs (Decidable (_ ↔ _))

def fields : List (String × (ReplayComponentEvidence → Json)) :=
  [("component", fun e => .str e.component.value),
    ("expected_hash", fun e => .optional hash e.expectedHash),
    ("actual_hash", fun e => .optional hash e.actualHash),
    ("evidence_count", fun e => natural e.evidenceCount),
    ("verified", fun e => .bool e.verified), ("errors", fun e => texts e.errors)]

end ReplayComponentEvidence

structure FullSessionReplayReport where
  replayId : String
  sessionId : String
  tradingDate : CalendarDate
  replayedAt : UtcDatetime
  complete : Bool
  passed : Bool
  expectedRawEventCount : ℕ
  actualRawEventCount : ℕ
  eventOrderingVerified : Bool
  pointInTimeIntegrityVerified : Bool
  components : List ReplayComponentEvidence
  errors : List String
  requestHash : Hash
  reportHash : Hash
  deriving DecidableEq, Repr

namespace FullSessionReplayReport

/-- Field bounds, then `components_sorted_unique`, then `coherent`. -/
def Valid (r : FullSessionReplayReport) : Prop :=
  (IsId 64 r.replayId ∧ IsId 64 r.sessionId ∧ ∀ item ∈ r.components, item.Valid) ∧
  (r.components.map (·.component.value)).Pairwise (· < ·) ∧
  (r.complete = true ↔ ∀ c ∈ ReplayComponent.all, c ∈ r.components.map (·.component)) ∧
  (r.passed = true ↔ r.complete = true ∧ r.expectedRawEventCount = r.actualRawEventCount ∧
    r.eventOrderingVerified = true ∧ r.pointInTimeIntegrityVerified = true ∧
    (∀ item ∈ r.components, item.verified = true) ∧ r.errors = [])

instance decidableValid (r : FullSessionReplayReport) : Decidable r.Valid :=
  inferInstanceAs (Decidable (_ ∧ _))

def fields : List (String × (FullSessionReplayReport → Json)) :=
  [("replay_id", fun r => .str r.replayId), ("session_id", fun r => .str r.sessionId),
    ("trading_date", fun r => .str r.tradingDate.isoformat),
    ("replayed_at", fun r => timestamp r.replayedAt), ("complete", fun r => .bool r.complete),
    ("passed", fun r => .bool r.passed),
    ("expected_raw_event_count", fun r => natural r.expectedRawEventCount),
    ("actual_raw_event_count", fun r => natural r.actualRawEventCount),
    ("event_ordering_verified", fun r => .bool r.eventOrderingVerified),
    ("point_in_time_integrity_verified", fun r => .bool r.pointInTimeIntegrityVerified),
    ("components", fun r => .arr (r.components.map (.record ReplayComponentEvidence.fields))),
    ("errors", fun r => texts r.errors), ("request_hash", fun r => hash r.requestHash),
    ("report_hash", fun r => hash r.reportHash)]

/-- `(item.trading_date, item.session_id)` -/
def key (r : FullSessionReplayReport) : ℕ ×ₗ String := toLex (r.tradingDate.rank, r.sessionId)

end FullSessionReplayReport

/-- `{item.session_id: item for item in reports}`: a later report replaces an earlier one. -/
def replayMap (reports : List FullSessionReplayReport) : Dict String FullSessionReplayReport :=
  reports.foldl (fun map item => map.insert item.sessionId item) ∅

/-! ### Requests -/

inductive DrillType where
  | databaseDisconnect | marketDataDisconnect | tradeUpdateDisconnect | brokerTimeout | clockSkew
  | processRestart | diskPressure
  deriving DecidableEq, Repr

def DrillType.value : DrillType → String
  | .databaseDisconnect => "database_disconnect"
  | .marketDataDisconnect => "market_data_disconnect"
  | .tradeUpdateDisconnect => "trade_update_disconnect"
  | .brokerTimeout => "broker_timeout"
  | .clockSkew => "clock_skew"
  | .processRestart => "process_restart"
  | .diskPressure => "disk_pressure"

structure LedgerRequestFields where
  generatedAt : UtcDatetime
  policy : AnalyticsPolicy Decimal
  sessions : List SessionEvidence
  replayReports : List FullSessionReplayReport
  targetAcceptanceVerified : Bool
  restoreValidationVerified : Bool
  passedDrills : List DrillType
  configurationHash : Hash

namespace LedgerRequestFields

/-- `evidence_sets_match` -/
def EvidenceSetsMatch (r : LedgerRequestFields) : Prop :=
  (r.policy.requireCompleteReplay = true →
    (∀ session ∈ r.sessions, session.sessionId ∈ r.replayReports.map (·.sessionId)) ∧
      ∀ report ∈ r.replayReports, report.sessionId ∈ r.sessions.map (·.sessionId)) ∧
  ∀ session ∈ r.sessions, session.configurationHash = r.configurationHash ∧
    ∀ replay ∈ (replayMap r.replayReports).lookup session.sessionId,
      replay.tradingDate = session.tradingDate

instance decidableEvidenceSetsMatch (r : LedgerRequestFields) : Decidable r.EvidenceSetsMatch :=
  inferInstanceAs (Decidable (_ ∧ _))

/-- The models of the fields, then their validators, then `evidence_sets_match`. -/
def Valid (r : LedgerRequestFields) : Prop :=
  (r.policy.Valid ∧ ∀ report ∈ r.replayReports, report.Valid) ∧
  (r.sessions.map (·.key)).Pairwise (· < ·) ∧ (r.replayReports.map (·.key)).Pairwise (· < ·) ∧
  (r.passedDrills.map (·.value)).Pairwise (· < ·) ∧ r.EvidenceSetsMatch

instance decidableValid (r : LedgerRequestFields) : Decidable r.Valid := inferInstanceAs (Decidable (_ ∧ _))

def fields : List (String × (LedgerRequestFields → Json)) :=
  [("generated_at", fun r => timestamp r.generatedAt),
    ("policy", fun r => .record AnalyticsPolicy.fields r.policy),
    ("sessions", fun r => .arr (r.sessions.map (·.json))),
    ("replay_reports", fun r => .arr (r.replayReports.map (.record FullSessionReplayReport.fields))),
    ("target_acceptance_verified", fun r => .bool r.targetAcceptanceVerified),
    ("restore_validation_verified", fun r => .bool r.restoreValidationVerified),
    ("passed_drills", fun r => texts (r.passedDrills.map (·.value))),
    ("configuration_hash", fun r => hash r.configurationHash)]

end LedgerRequestFields

structure PaperAcceptanceRequest extends LedgerRequestFields where
  valid : toLedgerRequestFields.Valid

/-! ### The ledger -/

/-- The code of a condition that stands against acceptance. -/
def codeIf (condition : Prop) [Decidable condition] (code : String) : List String :=
  if condition then [code] else []

@[simp] theorem codeIf_eq_nil {condition : Prop} [Decidable condition] {code : String} :
    codeIf condition code = [] ↔ ¬ condition := by
  unfold codeIf
  split_ifs with h <;> simp [h]

section Ledger

variable (sha256 : Json → Hash) (request : PaperAcceptanceRequest)

/-- The reasons why a session is not clean. -/
def sessionReasons (session : SessionEvidence) (replay : Option FullSessionReplayReport) :
    List String :=
  let policy := request.policy
  codeIf (session.fullSessionRecorded = false) "SESSION_NOT_FULLY_RECORDED" ++
  codeIf (policy.maximumInvariantViolations < session.invariantViolations)
    "INVARIANT_VIOLATIONS" ++
  codeIf (policy.maximumUnresolvedReconciliations < session.unresolvedReconciliations)
    "UNRESOLVED_RECONCILIATIONS" ++
  codeIf (policy.maximumDuplicateOrders < session.duplicateOrderCount) "DUPLICATE_ORDERS" ++
  codeIf (policy.maximumLatePrimaryResponses < session.latePrimaryResponseCount)
    "LATE_PRIMARY_RESPONSES" ++
  codeIf (policy.requireAllPositionsFlat = true ∧ session.allPositionsFlat = false)
    "POSITIONS_NOT_FLAT" ++
  codeIf (policy.requireCompleteReplay = true ∧ (replay.map (·.passed)).getD false = false)
    "REPLAY_NOT_VERIFIED"

def acceptSession (session : SessionEvidence) : Result SessionAcceptance := do
  let analytics ← analyzeSession sha256 session
  let replay := (replayMap request.replayReports).lookup session.sessionId
  let reasons := sessionReasons request session replay
  validated SessionAcceptance.Valid (.validationError "SessionAcceptance") {
    sessionId := session.sessionId, tradingDate := session.tradingDate
    clean := reasons = [], reasons, analyticsId := analytics.analyticsId
    replayId := replay.map (·.replayId) }

def filledOrders : ℕ := (request.sessions.map (·.ordersFilled)).sum

def ledgerBlockers (cleanRate : Decimal) : List String :=
  let policy := request.policy
  codeIf (request.sessions.length < policy.minimumSessions) "MINIMUM_SESSION_COUNT_NOT_MET" ++
  codeIf (filledOrders request < policy.minimumFilledOrders)
    "MINIMUM_FILLED_ORDER_COUNT_NOT_MET" ++
  codeIf (cleanRate.toRat < policy.minimumCleanSessionRate.toRat) "CLEAN_SESSION_RATE_NOT_MET" ++
  codeIf (policy.requireTargetAcceptance = true ∧ request.targetAcceptanceVerified = false)
    "TARGET_ACCEPTANCE_NOT_VERIFIED" ++
  codeIf (policy.requireRestoreValidation = true ∧ request.restoreValidationVerified = false)
    "RESTORE_VALIDATION_NOT_VERIFIED" ++
  codeIf (request.passedDrills.length < policy.requiredDrillCount) "REQUIRED_DRILLS_NOT_VERIFIED"

def ledgerStatus (blockers : List String) : AcceptanceStatus :=
  if request.sessions.length < request.policy.minimumSessions ∨
      filledOrders request < request.policy.minimumFilledOrders then .collecting
  else if blockers = [] then .paperQualified else .blocked

/-- `summarize_sessions` with the trades of the sessions. -/
def summarizeSessions (sessionCount : ℕ) (trades : List TradeOutcome) :
    Result (AggregatePerformance Decimal) := do
  let s ← summary trades
  validated AggregatePerformance.Valid (.validationError "AggregatePerformance") {
    sessionCount, tradeCount := s.tradeCount, grossPnl := s.grossPnl, fees := s.fees
    netPnl := s.netPnl, winRate := s.winRate, profitFactor := s.profitFactor
    expectancy := s.expectancy, maximumDrawdown := s.maximumDrawdown
    averageRMultiple := s.averageR }

/-- `build_paper_acceptance_ledger`. The id and the hash of the draft are not in its body. -/
def buildPaperAcceptanceLedger : Result (PaperAcceptanceLedger Decimal) := do
  let requestHash := sha256 (.record LedgerRequestFields.fields request.toLedgerRequestFields)
  let records ← request.sessions.mapM (acceptSession sha256 request)
  let cleanCount := records.countP (·.clean)
  let cleanRate ← average (.ofInt cleanCount) request.sessions.length
  let blockers := ledgerBlockers request cleanRate
  let status := ledgerStatus request blockers
  let performance ←
    summarizeSessions request.sessions.length (request.sessions.flatMap (·.trades))
  let draft : PaperAcceptanceLedger Decimal := {
    ledgerId := "", generatedAt := request.generatedAt, status
    paperReady := status = .paperQualified, liveReady := false
    sessionCount := request.sessions.length, cleanSessionCount := cleanCount
    filledOrderCount := filledOrders request, cleanSessionRate := cleanRate, sessions := records
    performance, blockers, policy := request.policy
    configurationHash := request.configurationHash, requestHash, ledgerHash := requestHash }
  let ledgerHash := sha256 draft.body
  validated PaperAcceptanceLedger.Valid (.validationError "PaperAcceptanceLedger")
    { draft with ledgerId := "PL-" ++ slicePrefix ledgerHash.1 20, ledgerHash }

end Ledger

/-! ### Clean sessions -/

section Clean

variable {sha256 : Json → Hash} {request : PaperAcceptanceRequest}

/-- A session that is within the limits of the policy, with a replay report of its own that
passed. -/
def Clean (request : PaperAcceptanceRequest) (session : SessionEvidence) : Prop :=
  session.fullSessionRecorded = true ∧
    session.invariantViolations ≤ request.policy.maximumInvariantViolations ∧
    session.unresolvedReconciliations ≤ request.policy.maximumUnresolvedReconciliations ∧
    session.duplicateOrderCount ≤ request.policy.maximumDuplicateOrders ∧
    session.latePrimaryResponseCount ≤ request.policy.maximumLatePrimaryResponses ∧
    session.allPositionsFlat = true ∧
    ∃ report ∈ request.replayReports, report.sessionId = session.sessionId ∧
      report.tradingDate = session.tradingDate ∧ report.passed = true

instance decidableClean (session : SessionEvidence) : Decidable (Clean request session) :=
  inferInstanceAs (Decidable (_ ∧ _))

theorem lookup_replayMap (reports : List FullSessionReplayReport) (sessionId : String) :
    (replayMap reports).lookup sessionId = reports.reverse.find? (·.sessionId = sessionId) := by
  induction reports using List.reverseRecOn with
  | nil => rfl
  | append_singleton reports report ih =>
    rw [replayMap, List.foldl_append, List.foldl_cons, List.foldl_nil, Dict.lookup_insert_eq,
      List.reverse_append, List.reverse_singleton, List.singleton_append, List.find?_cons]
    by_cases hSame : report.sessionId = sessionId
    · simp [hSame]
    · rw [if_neg (Ne.symm hSame), decide_eq_false hSame]
      exact ih

/-- The dates and ids of the reports tell them apart. -/
theorem report_eq {report other : FullSessionReplayReport}
    (hReport : report ∈ request.replayReports) (hOther : other ∈ request.replayReports)
    (hId : report.sessionId = other.sessionId) (hDate : report.tradingDate = other.tradingDate) :
    report = other := by
  have hKeys : (request.replayReports.map (·.key)).Nodup :=
    request.valid.2.2.1.imp fun hLess => ne_of_lt hLess
  refine List.inj_on_of_nodup_map hKeys hReport hOther ?_
  rw [FullSessionReplayReport.key, FullSessionReplayReport.key, hId, hDate]

/-- The report that is looked up is the session's own. -/
theorem lookup_eq_some_iff {session : SessionEvidence} (hSession : session ∈ request.sessions)
    {report : FullSessionReplayReport} :
    (replayMap request.replayReports).lookup session.sessionId = some report ↔
      report ∈ request.replayReports ∧ report.sessionId = session.sessionId ∧
        report.tradingDate = session.tradingDate := by
  have hMatch := (request.valid.2.2.2.2.2 session hSession).2
  have hFound : ∀ found, (replayMap request.replayReports).lookup session.sessionId = some found →
      found ∈ request.replayReports ∧ found.sessionId = session.sessionId := by
    intro found hLookup
    rw [lookup_replayMap] at hLookup
    exact ⟨List.mem_reverse.mp (List.mem_of_find?_eq_some hLookup),
      by simpa using List.find?_some hLookup⟩
  constructor
  · intro hLookup
    exact ⟨(hFound report hLookup).1, (hFound report hLookup).2, hMatch report hLookup⟩
  · rintro ⟨hReport, hId, hDate⟩
    cases hLookup : (replayMap request.replayReports).lookup session.sessionId with
    | none =>
      rw [lookup_replayMap, List.find?_eq_none] at hLookup
      exact absurd hId (by simpa using hLookup report (List.mem_reverse.mpr hReport))
    | some found =>
      obtain ⟨hMem, hFoundId⟩ := hFound found hLookup
      rw [report_eq hMem hReport (hFoundId.trans hId.symm) ((hMatch found hLookup).trans hDate.symm)]

/-- A session has no reason against it if and only if it is clean. -/
theorem sessionReasons_eq_nil {session : SessionEvidence} (hSession : session ∈ request.sessions) :
    sessionReasons request session ((replayMap request.replayReports).lookup session.sessionId) = [] ↔
      Clean request session := by
  have hFlat : request.policy.requireAllPositionsFlat = true := request.valid.1.1.2.2.2.2.2.1
  have hComplete : request.policy.requireCompleteReplay = true := request.valid.1.1.2.2.2.2.2.2.1
  have hReplay : (((replayMap request.replayReports).lookup session.sessionId).map
      (·.passed)).getD false = true ↔ ∃ report ∈ request.replayReports,
        report.sessionId = session.sessionId ∧ report.tradingDate = session.tradingDate ∧
          report.passed = true := by
    have hOwn (report : FullSessionReplayReport) := @lookup_eq_some_iff _ _ hSession report
    cases hLookup : (replayMap request.replayReports).lookup session.sessionId with
    | none =>
      refine iff_of_false (by simp) ?_
      rintro ⟨report, hReport, hId, hDate, -⟩
      exact absurd ((hOwn report).mpr ⟨hReport, hId, hDate⟩) (by simp [hLookup])
    | some found =>
      obtain ⟨hReport, hId, hDate⟩ := (hOwn found).mp hLookup
      simp only [Option.map_some, Option.getD_some]
      constructor
      · intro hPassed
        exact ⟨found, hReport, hId, hDate, hPassed⟩
      · rintro ⟨report, hMem, hReportId, hReportDate, hPassed⟩
        have hSame := (hOwn report).mpr ⟨hMem, hReportId, hReportDate⟩
        obtain rfl : found = report := Option.some.inj (hLookup.symm.trans hSame)
        exact hPassed
  simp only [sessionReasons, List.append_eq_nil_iff, codeIf_eq_nil, not_lt, Bool.not_eq_false,
    not_and, hFlat, hComplete, true_implies, hReplay, Clean, and_assoc]

theorem acceptSession_eq_ok {session : SessionEvidence} (hSession : session ∈ request.sessions)
    {record : SessionAcceptance} (h : acceptSession sha256 request session = .ok record) :
    record.sessionId = session.sessionId ∧ record.tradingDate = session.tradingDate ∧
      (record.clean = true ↔ Clean request session) := by
  obtain ⟨analytics, -, hValid⟩ := Result.bind_eq_ok.mp h
  obtain ⟨rfl, -⟩ := validated_eq_ok.mp hValid
  refine ⟨rfl, rfl, ?_⟩
  rw [← sessionReasons_eq_nil hSession]
  exact decide_eq_true_iff

/-- The records of the sessions say which are clean. -/
theorem clean_records {records : List SessionAcceptance} {sessions : List SessionEvidence}
    (hSessions : ∀ session ∈ sessions, session ∈ request.sessions)
    (h : sessions.mapM (acceptSession sha256 request) = .ok records) :
    records.map (fun record => (record.sessionId, record.tradingDate, record.clean)) =
      sessions.map fun session =>
        (session.sessionId, session.tradingDate, decide (Clean request session)) := by
  have hRecords := Fallible.mapM_eq_ok.mp h
  clear h
  induction hRecords with
  | nil => rfl
  | cons hFirst _ ih =>
    obtain ⟨hSession, hRest⟩ := List.forall_mem_cons.mp hSessions
    obtain ⟨hId, hDate, hClean⟩ := acceptSession_eq_ok hSession hFirst
    rw [List.map_cons, List.map_cons, ih hRest, hId, hDate]
    refine congrArg (· :: _) ?_
    rw [Prod.mk.injEq, Prod.mk.injEq, Bool.eq_iff_iff, hClean, decide_eq_true_iff]
    exact ⟨rfl, rfl, Iff.rfl⟩

end Clean

/-! ### Qualification -/

section Qualification

variable {sha256 : Json → Hash} {request : PaperAcceptanceRequest}
  {ledger : PaperAcceptanceLedger Decimal}

/-- The sessions that are clean. -/
def cleanCount (request : PaperAcceptanceRequest) : ℕ :=
  request.sessions.countP fun session => Clean request session

/-- The ledger tells the clean sessions, and qualifies the paper sessions only where their
number, the filled orders and the exact rate of the clean ones reach the minima. -/
structure QualifiedExactly (request : PaperAcceptanceRequest)
    (ledger : PaperAcceptanceLedger Decimal) : Prop where
  ready : ledger.paperReady = true ↔ ledger.status = .paperQualified
  records : ledger.sessions.map (fun record => (record.sessionId, record.tradingDate, record.clean)) =
    request.sessions.map fun session =>
      (session.sessionId, session.tradingDate, decide (Clean request session))
  cleanSessions : ledger.cleanSessionCount = cleanCount request
  counts : ledger.status = .paperQualified →
    request.policy.minimumSessions ≤ request.sessions.length ∧
      request.policy.minimumFilledOrders ≤ filledOrders request
  rate : ledger.status = .paperQualified →
    request.policy.minimumCleanSessionRate.toRat * request.sessions.length ≤
      ledger.cleanSessionCount
  blockers : ledger.status = .paperQualified → ledger.blockers = []

/-- A check other than that of the rate blocks the ledger. -/
def OtherwiseBlocked (request : PaperAcceptanceRequest) : Prop :=
  request.sessions.length < request.policy.minimumSessions ∨
    filledOrders request < request.policy.minimumFilledOrders ∨
    request.targetAcceptanceVerified = false ∨ request.restoreValidationVerified = false ∨
    request.passedDrills.length < request.policy.requiredDrillCount

/-- A fraction in twenty-eight digits, and then in ten decimal places. -/
def inTenPlaces (x : ℚ) : ℚ := roundTo .halfEven (10 ^ (-10 : ℤ)) (Decimal.round x)

/-- The minimum is not above the rate, or it is above what the rate is rounded to as well. -/
def RateTold (clean sessions : ℕ) (minimum : ℚ) : Prop :=
  minimum * sessions ≤ clean ∨ inTenPlaces (clean / sessions) < minimum

theorem toRat_average {clean sessions : ℕ} {rate : Decimal} (hPos : 0 < sessions)
    (h : average (.ofInt clean) sessions = .ok rate) :
    rate.toRat = inTenPlaces (clean / sessions) := by
  rw [average, if_neg hPos.ne', Result.bind_eq_ok] at h
  obtain ⟨quotient, hQuotient, hRate⟩ := h
  rw [Decimal.toRat_quantize (signals_eq_ok.mp hRate),
    Decimal.toRat_div_eq (signals_eq_ok.mp hQuotient), Decimal.toRat_ofInt, Decimal.toRat_ofInt]
  rfl

/-- Nothing blocks the ledger if and only if no other check does and the rate is not below the
minimum. -/
theorem ledgerBlockers_eq_nil {rate : Decimal} : ledgerBlockers request rate = [] ↔
    ¬ OtherwiseBlocked request ∧ request.policy.minimumCleanSessionRate.toRat ≤ rate.toRat := by
  have hTarget : request.policy.requireTargetAcceptance = true := request.valid.1.1.2.2.2.2.2.2.2.1
  have hRestore : request.policy.requireRestoreValidation = true :=
    request.valid.1.1.2.2.2.2.2.2.2.2.1
  simp only [ledgerBlockers, List.append_eq_nil_iff, codeIf_eq_nil, hTarget, hRestore, true_and,
    OtherwiseBlocked, not_or, not_lt]
  tauto

theorem ledgerStatus_eq {blockers : List String} : ledgerStatus request blockers = .paperQualified ↔
    (request.policy.minimumSessions ≤ request.sessions.length ∧
      request.policy.minimumFilledOrders ≤ filledOrders request) ∧ blockers = [] := by
  unfold ledgerStatus
  split_ifs with hCollecting hBlockers
  · simp only [false_iff]
    omega
  · simp only [hBlockers, and_true, true_iff]
    omega
  · simp [hBlockers]

/-- Paper qualification is exact if and only if another check blocks it or rounding the rate
does not lift it to the minimum. -/
theorem qualifiedExactly_iff (sha256 : Json → Hash) (request : PaperAcceptanceRequest)
    {ledger : PaperAcceptanceLedger Decimal}
    (h : buildPaperAcceptanceLedger sha256 request = .ok ledger) :
    QualifiedExactly request ledger ↔ OtherwiseBlocked request ∨
      RateTold (cleanCount request) request.sessions.length
        request.policy.minimumCleanSessionRate.toRat := by
  simp only [buildPaperAcceptanceLedger, Result.bind_eq_ok] at h
  obtain ⟨records, hRecords, rate, hRate, performance, -, hValid⟩ := h
  obtain ⟨rfl, -⟩ := validated_eq_ok.mp hValid
  have hMap := clean_records (fun _ => id) hRecords
  have hCount : records.countP (·.clean) = cleanCount request := by
    have hCounts := congrArg (List.countP fun entry => entry.2.2) hMap
    rwa [List.countP_map, List.countP_map] at hCounts
  have hSessions : 1 ≤ request.policy.minimumSessions := request.valid.1.1.2.2.1.1
  -- what the status says, as far as the rate goes
  have hStatus : ledgerStatus request (ledgerBlockers request rate) = .paperQualified ↔
      ¬ OtherwiseBlocked request ∧ request.policy.minimumCleanSessionRate.toRat ≤
        inTenPlaces (cleanCount request / request.sessions.length) := by
    rw [ledgerStatus_eq, ledgerBlockers_eq_nil]
    constructor
    · rintro ⟨⟨hEnough, -⟩, hOther, hReached⟩
      rw [← hCount, ← toRat_average (by omega) hRate]
      exact ⟨hOther, hReached⟩
    · rintro ⟨hOther, hReached⟩
      have hCounts := hOther
      simp only [OtherwiseBlocked, not_or, not_lt] at hCounts
      rw [← hCount, ← toRat_average (by omega) hRate] at hReached
      exact ⟨⟨hCounts.1, hCounts.2.1⟩, hOther, hReached⟩
  constructor
  · intro hExact
    by_contra hFails
    rw [RateTold, not_or, not_or, not_le, not_lt] at hFails
    have hRateReached := hExact.rate (hStatus.mpr ⟨hFails.1, hFails.2.2⟩)
    change _ ≤ ((records.countP (·.clean) : ℕ) : ℚ) at hRateReached
    rw [hCount] at hRateReached
    exact absurd hRateReached (not_le.mpr hFails.2.1)
  · intro hTold
    constructor
    case ready => exact decide_eq_true_iff
    case records => exact hMap
    case cleanSessions => exact hCount
    case counts => exact fun hQualified => (ledgerStatus_eq.mp hQualified).1
    case rate =>
      intro hQualified
      obtain ⟨hOther, hReached⟩ := hStatus.mp hQualified
      change _ ≤ ((records.countP (·.clean) : ℕ) : ℚ)
      rw [hCount]
      rcases hTold.resolve_left hOther with hExact | hBelow
      · exact hExact
      · exact absurd hReached (not_le.mpr hBelow)
    case blockers => exact fun hQualified => (ledgerStatus_eq.mp hQualified).2

end Qualification

/-! ### Two clean sessions of three -/

/-- The day of a session in August. -/
def sampleDay (day : ℕ) (hDay : day ≤ 31 := by decide) : CalendarDate :=
  ⟨⟨2026, 8, day⟩, year_2026_le, august_le, hDay⟩

/-- The hour of a day in August. -/
def sampleHour (date : CalendarDate) (hour : ℕ) (hHour : hour < 24 := by decide) : UtcDatetime :=
  ⟨date, hour, 0, 0, 0, hHour, minute_zero_lt, minute_zero_lt, microsecond_zero_lt⟩

/-- A session without trades. -/
def quietFields (sessionId : String) (date : CalendarDate) (recorded : Bool) : SessionFields where
  sessionId := sessionId
  tradingDate := date
  generatedAt := sampleHour date 20 eight_pm_lt
  configurationHash := noHash
  fullSessionRecorded := recorded
  rawEventCount := 10
  evaluatorRunCount := 1
  approvedSetupCount := 0
  qualifiedNotSelectedCount := 0
  excludedTickerCount := 0
  ordersSubmitted := 0
  ordersFilled := 0
  invariantViolations := 0
  unresolvedReconciliations := 0
  duplicateOrderCount := 0
  latePrimaryResponseCount := 0
  allPositionsFlat := true
  killSwitchActivationCount := 0

def secondFields : SessionFields := quietFields "SESSION-2026-08-04" (sampleDay 4) true

theorem secondFields_valid : secondFields.Valid := by decide +kernel

def secondSession : SessionEvidence := ⟨secondFields, secondFields_valid⟩

/-- This session was not recorded in full. -/
def thirdFields : SessionFields := quietFields "SESSION-2026-08-05" (sampleDay 5) false

theorem thirdFields_valid : thirdFields.Valid := by decide +kernel

def thirdSession : SessionEvidence := ⟨thirdFields, thirdFields_valid⟩

def passedReport (replayId sessionId : String) (date : CalendarDate) : FullSessionReplayReport where
  replayId := replayId
  sessionId := sessionId
  tradingDate := date
  replayedAt := sampleHour date 21
  complete := true
  passed := true
  expectedRawEventCount := 10
  actualRawEventCount := 10
  eventOrderingVerified := true
  pointInTimeIntegrityVerified := true
  components := [.evaluator, .execution, .features, .orchestration, .recorder, .risk].map
    fun component => ⟨component, some noHash, some noHash, 1, true, []⟩
  errors := []
  requestHash := noHash
  reportHash := noHash

/-- A policy whose minimum rate is two thirds, rounded up in the tenth place. -/
def twoThirdsPolicy : AnalyticsPolicy Decimal where
  policyVersion := "analytics_policy_v1"
  mode := "paper"
  minimumSessions := 3
  minimumFilledOrders := 1
  minimumCleanSessionRate := .literal 6666666667 (-10)
  maximumInvariantViolations := 0
  maximumUnresolvedReconciliations := 0
  maximumDuplicateOrders := 0
  maximumLatePrimaryResponses := 0
  requireAllPositionsFlat := true
  requireCompleteReplay := true
  requireTargetAcceptance := true
  requireRestoreValidation := true
  requiredDrillCount := 0
  performanceIsAcceptanceGate := false
  allowLiveCertification := false

def twoThirdsFields : LedgerRequestFields where
  generatedAt := sampleHour (sampleDay 5) 22
  policy := twoThirdsPolicy
  sessions := [sampleSession, secondSession, thirdSession]
  replayReports := [passedReport "RP-REPLAY-03" "SESSION-2026-08-03" (sampleDay 3),
    passedReport "RP-REPLAY-04" "SESSION-2026-08-04" (sampleDay 4),
    passedReport "RP-REPLAY-05" "SESSION-2026-08-05" (sampleDay 5)]
  targetAcceptanceVerified := true
  restoreValidationVerified := true
  passedDrills := []
  configurationHash := noHash

theorem twoThirdsFields_valid : twoThirdsFields.Valid := by decide +kernel

def twoThirdsRequest : PaperAcceptanceRequest := ⟨twoThirdsFields, twoThirdsFields_valid⟩

/-- The object has the text under the key. -/
def hasText (key text : String) : Json → Bool
  | .obj entries => entries.any fun entry => entry.1 = key && entry.2.beq (.str text)
  | _ => false

/-- SHA-256 as it is for the performances, the sessions, the ledger and the request. -/
def ledgerSha256 (json : Json) : Hash :=
  if hasText "evidence_hash"
      "d7de12414d2cedaf9deba62a21952ef910d7419ba71a86d2c3ef6c71d6ea5f32" json then
    ⟨"817443d9abef03c52db28ee2bc8cd7981786e6810fa12622a09933f1e639393b", isHash_performance⟩
  else if hasText "evidence_hash"
      "53aad2ef604f35f7a76bc608b4f65821459b05458b4b013d520e292838d289a5" json then
    ⟨"44ccebe018f5642d09c5686f4a45bff6b1266aa2ac6f0211975f13187dbbcaad", by decide⟩
  else if hasText "evidence_hash"
      "8ce289b09d199feb37dc98deef720573e20e3c2b628ba0792a63c53cb0e34f44" json then
    ⟨"e9503ec0138ee51ee27d79161c9271f6ae3a4a67b835cbd4611fa1bda41d8344", by decide⟩
  else if hasText "session_id" "SESSION-2026-08-03" json then
    ⟨"d7de12414d2cedaf9deba62a21952ef910d7419ba71a86d2c3ef6c71d6ea5f32", isHash_session⟩
  else if hasText "session_id" "SESSION-2026-08-04" json then
    ⟨"53aad2ef604f35f7a76bc608b4f65821459b05458b4b013d520e292838d289a5", by decide⟩
  else if hasText "session_id" "SESSION-2026-08-05" json then
    ⟨"8ce289b09d199feb37dc98deef720573e20e3c2b628ba0792a63c53cb0e34f44", by decide⟩
  else if hasText "status" "paper_qualified" json then
    ⟨"f2f2bf9c5c6fee5eea818460f8f979146c13ba3f3dff729d8e684053846952ff", by decide⟩
  else ⟨"8ca53f0a5ba9903da62b6e38279d2a453b6ef0e70191f332c7fbbfbf6d0aa362", by decide⟩

/-- Two sessions of three are less than the minimum, and they qualify. -/
theorem twoThirds_qualified : ∃ ledger,
    buildPaperAcceptanceLedger ledgerSha256 twoThirdsRequest = .ok ledger ∧
      ledger.status = .paperQualified ∧
      (ledger.cleanSessionCount : ℚ) <
        twoThirdsPolicy.minimumCleanSessionRate.toRat * twoThirdsRequest.sessions.length := by
  decide +kernel

theorem twoThirds_not_exact : ∃ ledger,
    buildPaperAcceptanceLedger ledgerSha256 twoThirdsRequest = .ok ledger ∧
      ¬ QualifiedExactly twoThirdsRequest ledger := by
  obtain ⟨ledger, hOk, hQualified, hRate⟩ := twoThirds_qualified
  exact ⟨ledger, hOk, fun hExact => absurd (hExact.rate hQualified) (not_le.mpr hRate)⟩

theorem twoThirds_exact_iff : ∃ ledger,
    buildPaperAcceptanceLedger ledgerSha256 twoThirdsRequest = .ok ledger ∧
      (QualifiedExactly twoThirdsRequest ledger ↔ OtherwiseBlocked twoThirdsRequest ∨
        RateTold (cleanCount twoThirdsRequest) twoThirdsRequest.sessions.length
          twoThirdsRequest.policy.minimumCleanSessionRate.toRat) := by
  obtain ⟨ledger, hOk, -⟩ := twoThirds_qualified
  exact ⟨ledger, hOk, qualifiedExactly_iff _ _ hOk⟩

end Daybreak.Analytics
