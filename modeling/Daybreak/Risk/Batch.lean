import Daybreak.Risk.Sizing
import Mathlib.Data.List.Induction

/-! A batch run. `BatchRun` is the loop of `size_approved_batch` as a relation:
each request is sized against the session left by the ones before it. Proved by
induction on it: the ending session is the initial one plus what the approvals
reserved, it respects the aggregate limits once anything is approved, and the
daily limit on new entries holds exactly when no step that has used it up
approves another request. -/

namespace Daybreak.Risk

open Numeric DecimalArithmetic

variable {D : Type} [DecimalArithmetic D]

/-! ### The loop as a relation -/

inductive BatchRun (H : Canonical D) : SessionRiskState D → List (SizingRequest D) →
    List (RiskDecision D) → SessionRiskState D → Prop
  | done (s : SessionRiskState D) : BatchRun H s [] [] s
  | reject {s s' : SessionRiskState D} {r : SizingRequest D} {d : RiskDecision D}
      {rs : List (SizingRequest D)} {ds : List (RiskDecision D)}
      (sized : sizePosition H { r with session := s } = .ok d) (rejected : d.decision = .rejected)
      (tail : BatchRun H s rs ds s') : BatchRun H s (r :: rs) (d :: ds) s'
  | approve {s s' : SessionRiskState D} {r : SizingRequest D} {d : RiskDecision D}
      {risk notional : D} {rs : List (SizingRequest D)} {ds : List (RiskDecision D)}
      (sized : sizePosition H { r with session := s } = .ok d) (approved : d.decision = .approved)
      (hRisk : d.reservedModeledRisk = some risk) (hNotional : d.reservedNotional = some notional)
      (tail : BatchRun H (s.reserve risk notional) rs ds s') : BatchRun H s (r :: rs) (d :: ds) s'

theorem reserveInSession_eq_ok {s s' : SessionRiskState D} {d : RiskDecision D}
    (h : reserveInSession s d = .ok s') :
    (d.decision = .rejected ∧ s' = s) ∨
      (d.decision = .approved ∧ ∃ risk notional, d.reservedModeledRisk = some risk ∧
        d.reservedNotional = some notional ∧ s' = s.reserve risk notional) := by
  unfold reserveInSession at h
  cases hd : d.decision with
  | rejected =>
    simp only [hd, Except.ok.injEq] at h
    exact .inl ⟨rfl, h.symm⟩
  | approved =>
    simp only [hd] at h
    split at h
    · next risk notional hRisk hNotional =>
      exact .inr ⟨rfl, risk, notional, hRisk, hNotional, (Except.ok.inj h).symm⟩
    · cases h

theorem batchRun_of_sizeRequests {H : Canonical D} {s : SessionRiskState D}
    {rs : List (SizingRequest D)} {result : BatchSizingResult D}
    (h : sizeRequests H s rs = .ok result) :
    BatchRun H s rs result.decisions result.endingSessionState := by
  induction rs generalizing s result with
  | nil =>
    obtain rfl := Except.ok.inj h
    exact .done s
  | cons r rs ih =>
    simp only [sizeRequests, Result.bind_eq_ok, Result.pure_eq_ok] at h
    obtain ⟨d, hd, next, hNext, tail, hTail, rfl⟩ := h
    obtain ⟨hRejected, rfl⟩ | ⟨hApproved, risk, notional, hRisk, hNotional, rfl⟩ :=
      reserveInSession_eq_ok hNext
    · exact .reject hd hRejected (ih hTail)
    · exact .approve hd hApproved hRisk hNotional (ih hTail)

/-! ### What the ending session records -/

def approvedCount (ds : List (RiskDecision D)) : ℕ := ds.countP (·.decision = .approved)

/-- The sum of an amount over the decisions that carry one. -/
def reservedTotal (amount : RiskDecision D → Option D) (ds : List (RiskDecision D)) : ℚ :=
  (ds.map fun d => ((amount d).map value).getD 0).sum

@[simp] theorem reservedTotal_nil (amount : RiskDecision D → Option D) :
    reservedTotal amount [] = 0 := rfl

@[simp] theorem reservedTotal_cons (amount : RiskDecision D → Option D) (d : RiskDecision D)
    (ds : List (RiskDecision D)) :
    reservedTotal amount (d :: ds) = ((amount d).map value).getD 0 + reservedTotal amount ds := by
  simp [reservedTotal]

/-- `s'` is `s` but for the three fields a reservation advances. -/
def SameButReservations (s s' : SessionRiskState D) : Prop :=
  s' = { s with
    currentTotalOpenRisk := s'.currentTotalOpenRisk
    reservedEntryNotional := s'.reservedEntryNotional
    reservedEntryPositionCount := s'.reservedEntryPositionCount }

theorem BatchRun.same_but_reservations {H : Canonical D} {s s' : SessionRiskState D}
    {rs : List (SizingRequest D)} {ds : List (RiskDecision D)} (h : BatchRun H s rs ds s') :
    SameButReservations s s' := by
  induction h with
  | done s => rfl
  | reject _ _ _ ih => exact ih
  | approve _ _ _ _ _ ih => exact ih

theorem BatchRun.positionCount {H : Canonical D} {s s' : SessionRiskState D}
    {rs : List (SizingRequest D)} {ds : List (RiskDecision D)} (h : BatchRun H s rs ds s') :
    s'.reservedEntryPositionCount = s.reservedEntryPositionCount + approvedCount ds := by
  induction h with
  | done s => rfl
  | reject _ hd _ ih => simp_all [approvedCount]
  | approve _ hd _ _ _ ih =>
    simp only [approvedCount, SessionRiskState.reserve] at ih
    simp [approvedCount, hd, ih]
    omega

/-- A rejection reserves nothing. -/
theorem sizePosition_rejected_amounts {H : Canonical D} {r : SizingRequest D} {d : RiskDecision D}
    (h : sizePosition H r = .ok d) (hd : d.decision = .rejected) :
    d.reservedModeledRisk = none ∧ d.reservedNotional = none := by
  obtain ⟨-, -, -, -, -, hRisk, hNotional⟩ := (sizePosition_identifies_valid h).2.2.2.2 hd
  exact ⟨Option.isNone_iff_eq_none.mp hRisk, Option.isNone_iff_eq_none.mp hNotional⟩

/-- Over exact rationals the reserved amounts add up. -/
theorem BatchRun.reserved_sums {H : Canonical ℚ} {s s' : SessionRiskState ℚ}
    {rs : List (SizingRequest ℚ)} {ds : List (RiskDecision ℚ)} (h : BatchRun H s rs ds s') :
    s'.currentTotalOpenRisk = s.currentTotalOpenRisk + reservedTotal (·.reservedModeledRisk) ds ∧
      s'.reservedEntryNotional =
        s.reservedEntryNotional + reservedTotal (·.reservedNotional) ds := by
  induction h with
  | done s => simp
  | reject hSized hd _ ih =>
    obtain ⟨hRisk, hNotional⟩ := sizePosition_rejected_amounts hSized hd
    simp [hRisk, hNotional, ih.1, ih.2]
  | approve _ _ hRisk hNotional _ ih =>
    simp only [SessionRiskState.reserve, add_rat] at ih
    simp [hRisk, hNotional, ih.1, ih.2, add_assoc]

/-! ### Aggregate limits -/

/-- `floor_to_cent` of an exact amount. -/
def cents (x : ℚ) : ℚ := roundTo .floor (10 ^ (-2 : ℤ)) x

/-- The loss a session has taken: the worse of the two ledgers, zero on a gain. -/
def sessionLoss (account : AccountSnapshot D) (s : SessionRiskState D) : ℚ :=
  max 0 (-min
    (value account.equity - value s.sessionStartEquity - value s.netExternalCashFlow)
    (value s.internalRealizedPnl + value s.internalUnrealizedPnl))

/-- The limits a session must respect in total, given the policy and account. -/
structure WithinLimits (policy : RiskPolicyConfig D) (account : AccountSnapshot D)
    (s : SessionRiskState D) : Prop where
  openRisk : value s.currentTotalOpenRisk ≤
    cents (value s.sessionReferenceEquity * value policy.maxOpenRiskPct)
  dailyLoss : sessionLoss account s + value s.currentTotalOpenRisk ≤
    cents (value s.sessionReferenceEquity * value policy.hardDailyLossPct)
  grossExposure : value s.currentLongMarketValue + value s.reservedEntryNotional ≤
    cents (value s.sessionReferenceEquity * value policy.maxGrossLongExposurePct)
  buyingPower : value s.reservedEntryNotional ≤
    min (value account.nonMarginableBuyingPower) (value account.buyingPower) *
      (1 - value policy.buyingPowerReservePct)
  positions : s.openDaybreakPositionCount + s.reservedEntryPositionCount ≤
    policy.maxConcurrentPositions

/-- The ending session against the initial one `s`, and against the limits. -/
structure AggregateLimits (policy : RiskPolicyConfig D) (account : AccountSnapshot D)
    (s : SessionRiskState D) (result : BatchSizingResult D) : Prop where
  frame : SameButReservations s result.endingSessionState
  openRisk : value result.endingSessionState.currentTotalOpenRisk =
    value s.currentTotalOpenRisk + reservedTotal (·.reservedModeledRisk) result.decisions
  notional : value result.endingSessionState.reservedEntryNotional =
    value s.reservedEntryNotional + reservedTotal (·.reservedNotional) result.decisions
  positions : result.endingSessionState.reservedEntryPositionCount =
    s.reservedEntryPositionCount + approvedCount result.decisions
  limits : (∃ d ∈ result.decisions, d.decision = .approved) →
    WithinLimits policy account result.endingSessionState

/-- Whatever was reserved before, an approval leaves the session within limits. -/
theorem Approves.withinLimits {H : Canonical ℚ} {r : SizingRequest ℚ} {d : RiskDecision ℚ}
    {c : Calculations ℚ} {caps : QuantityCaps} (h : Approves H r d c caps)
    (hTick : IsMoney r.tickSize) {risk notional : ℚ} (hRisk : d.reservedModeledRisk = some risk)
    (hNotional : d.reservedNotional = some notional) :
    WithinLimits r.policy r.account (r.session.reserve risk notional) := by
  obtain rfl := Option.some.inj (hRisk.symm.trans h.reservedModeledRisk_eq)
  obtain rfl := Option.some.inj (hNotional.symm.trans (h.reservedNotional_eq hTick))
  have hOpen : d.finalQuantity * c.modeledRiskPerShare ≤ c.remainingOpenRiskCapacity :=
    h.allows .openRisk
  have hLoss : d.finalQuantity * c.modeledRiskPerShare ≤ c.remainingHardLossCapacity :=
    h.allows .dailyLoss
  have hPower : d.finalQuantity * c.plannedEntryLimit ≤ c.usableBuyingPower :=
    h.allows .buyingPower
  have hGross : d.finalQuantity * c.plannedEntryLimit ≤ c.remainingGrossExposure :=
    h.allows .grossExposure
  obtain ⟨gross, hMax, hRemaining⟩ := h.calculated.remainingGrossExposure
  have hOpenMax := floorToCent_rat.mp h.calculated.maximumTotalOpenRisk
  have hLossMax := floorToCent_rat.mp h.calculated.hardDailyLossLimit
  have hGrossMax := floorToCent_rat.mp hMax
  have hOpenLe := floorToCent_le h.calculated.remainingOpenRiskCapacity
  have hLossLe := floorToCent_le h.calculated.remainingHardLossCapacity
  have hPowerLe := floorToCent_le h.calculated.usableBuyingPower
  have hGrossLe := floorToCent_le hRemaining
  have hLossEq : currentLoss c.riskSessionPnl = sessionLoss r.account r.session := by
    rw [h.calculated.riskSessionPnl, h.calculated.brokerSessionPnl,
      h.calculated.internalSessionPnl]
    simp [currentLoss, sessionLoss]
  simp only [mul_rat, sub_rat, add_rat, literal_rat, pyMin_rat, hLossEq] at *
  have hPositions := h.passed.positions
  constructor
  · simp only [SessionRiskState.reserve, value_rat, add_rat, cents]
    linarith
  · simp only [SessionRiskState.reserve, sessionLoss, value_rat, add_rat, cents] at *
    linarith
  · simp only [SessionRiskState.reserve, value_rat, add_rat, cents]
    linarith
  · simp only [SessionRiskState.reserve, value_rat, add_rat]
    norm_num at hPowerLe
    linarith
  · simp only [SessionRiskState.reserve]
    omega

theorem BatchRun.ending_of_no_approval {H : Canonical D} {s s' : SessionRiskState D}
    {rs : List (SizingRequest D)} {ds : List (RiskDecision D)} (h : BatchRun H s rs ds s')
    (hNone : ¬ ∃ d ∈ ds, d.decision = .approved) : s' = s := by
  induction h with
  | done s => rfl
  | reject _ _ _ ih => exact ih fun ⟨d, hd, ha⟩ => hNone ⟨d, List.mem_cons_of_mem _ hd, ha⟩
  | approve _ ha _ _ _ _ => exact absurd ⟨_, List.mem_cons_self, ha⟩ hNone

/-- After the last approval the session is within limits, and rejections leave
it there. -/
theorem BatchRun.withinLimits {H : Canonical ℚ} {policy : RiskPolicyConfig ℚ}
    {account : AccountSnapshot ℚ} {s s' : SessionRiskState ℚ} {rs : List (SizingRequest ℚ)}
    {ds : List (RiskDecision ℚ)} (h : BatchRun H s rs ds s')
    (hShared : ∀ r ∈ rs, r.policy = policy ∧ r.account = account ∧ IsMoney r.tickSize)
    (hSome : ∃ d ∈ ds, d.decision = .approved) : WithinLimits policy account s' := by
  induction h with
  | done s => simp at hSome
  | reject _ hd _ ih =>
    obtain ⟨d, hMem, ha⟩ := hSome
    rcases List.mem_cons.mp hMem with rfl | hMem
    · simp [hd] at ha
    · exact ih (fun r hr => hShared r (List.mem_cons_of_mem _ hr)) ⟨d, hMem, ha⟩
  | @approve s s' r d risk notional rs ds hSized ha hRisk hNotional tail ih =>
    by_cases hTail : ∃ d ∈ ds, d.decision = .approved
    · exact ih (fun r hr => hShared r (List.mem_cons_of_mem _ hr)) hTail
    · rw [tail.ending_of_no_approval hTail]
      obtain ⟨rfl, rfl, hTick⟩ := hShared r List.mem_cons_self
      obtain ⟨c, caps, h⟩ := sizePosition_approves hSized ha
      exact h.withinLimits hTick hRisk hNotional

theorem BatchSizingRequest.shared {newYorkDate : Timestamp → Date}
    (batch : BatchSizingRequest ℚ newYorkDate) :
    ∀ r ∈ batch.requests, r.policy = batch.first.policy ∧ r.account = batch.first.account ∧
      IsMoney r.tickSize := by
  intro r hr
  obtain ⟨-, -, -, -, hPolicy, hAccount, -⟩ := batch.sameBatch r hr
  exact ⟨hPolicy, hAccount, (batch.requests_valid r hr).tickSize⟩

theorem batch_aggregate_limits {newYorkDate : Timestamp → Date} (H : Canonical ℚ)
    (batch : BatchSizingRequest ℚ newYorkDate) (result : BatchSizingResult ℚ)
    (h : sizeApprovedBatch H batch = .ok result) :
    AggregateLimits batch.first.policy batch.first.account batch.first.session result := by
  have hRun := batchRun_of_sizeRequests h
  exact {
    frame := hRun.same_but_reservations
    openRisk := hRun.reserved_sums.1
    notional := hRun.reserved_sums.2
    positions := hRun.positionCount
    limits := hRun.withinLimits batch.shared }

/-- The day of the sample requests. -/
def sampleDate (_ : Timestamp) : Date := ⟨2026, 8, 3⟩

/-- A second setup for the same account and policy. -/
def secondRequest (D : Type) [DecimalArithmetic D] : SizingRequest D :=
  { sampleRequest D with
    requestId := "request-2"
    finalRank := 2
    setup := { (sampleRequest D).setup with ticker := "BBBB" } }

def sampleBatch : BatchSizingRequest ℚ sampleDate where
  requests := [sampleRequest ℚ, secondRequest ℚ]
  nonempty := by simp
  requests_valid := by decide +kernel
  rank_order := by decide +kernel

theorem sampleBatch_aggregate_limits :
    ∃ result, sizeApprovedBatch (sampleCanonical ℚ) sampleBatch = .ok result ∧
      approvedCount result.decisions = 2 ∧
      AggregateLimits sampleBatch.first.policy sampleBatch.first.account sampleBatch.first.session
        result := by
  have hOk : ∃ result, sizeApprovedBatch (sampleCanonical ℚ) sampleBatch = .ok result ∧
      approvedCount result.decisions = 2 := by
    decide +kernel
  obtain ⟨result, h, hCount⟩ := hOk
  exact ⟨result, h, hCount, batch_aggregate_limits (sampleCanonical ℚ) sampleBatch result h⟩

/-- Amounts so large that the remaining risk divided by the risk of a share rounds
up to a whole number of shares. -/
def largeRequest : SizingRequest Decimal :=
  let r := sampleRequest Decimal
  let equity : Decimal := .literal 180000000018000000200 (-2)
  { r with
    setup := { r.setup with
      tradeParameters := {
        referencePrice := .literal 910000000 (-1)
        atrValueUsed := .literal 900000000 (-1)
        premarketLowUsed := .literal 20000000 (-1)
        riskStopAtrMultiple := .literal 10 (-1)
        profitTargetAtrMultiple := .literal 20 (-1) } }
    policy := { r.policy with
      riskPerTradePct := .literal 5 (-1)
      maxOpenRiskPct := .literal 5 (-1)
      maxPositionNotionalPct := .literal 6 (-1)
      maxGrossLongExposurePct := .literal 6 (-1)
      softDailyLossPct := .literal 55 (-2)
      hardDailyLossPct := .literal 6 (-1)
      slippageBufferAtrMultiple := .literal 0 0
      slippageBufferSpreadMultiple := .literal 0 0
      maxPctAdv20 := .literal 5 (-1)
      maxPctPremarketVolume := .literal 5 (-1) }
    account := { r.account with
      equity := equity
      lastEquity := equity
      buyingPower := .literal 5000000000000000000 0
      nonMarginableBuyingPower := .literal 5000000000000000000 0 }
    quote := { r.quote with
      bidPrice := .literal 90999999 0
      askPrice := .literal 91000000 0
      lastPrice := .literal 91000000 0 }
    liquidity := { r.liquidity with
      premarketVolume := 1000000000000
      adv20Shares := 1000000000000 }
    session := { r.session with
      sessionReferenceEquity := equity
      sessionStartEquity := equity }
    plannedEntryLimit := .literal 910000000000000001 (-10)
    tickSize := .literal 1 (-10) }

def largeBatch : BatchSizingRequest Decimal sampleDate where
  requests := [largeRequest]
  nonempty := by simp
  requests_valid := by decide +kernel
  rank_order := by decide +kernel

/-- In twenty-eight digits the open risk can exceed its limit. -/
theorem largeBatch_exceeds_open_risk :
    ∃ result, sizeApprovedBatch (sampleCanonical Decimal) largeBatch = .ok result ∧
      ¬ AggregateLimits largeBatch.first.policy largeBatch.first.account largeBatch.first.session
        result := by
  have hOk : ∃ result, sizeApprovedBatch (sampleCanonical Decimal) largeBatch = .ok result ∧
      ((∃ d ∈ result.decisions, d.decision = .approved) ∧
        cents (value result.endingSessionState.sessionReferenceEquity *
          value largeBatch.first.policy.maxOpenRiskPct) <
        value result.endingSessionState.currentTotalOpenRisk) := by
    decide +kernel
  obtain ⟨result, h, hSome, hExceeds⟩ := hOk
  exact ⟨result, h, fun hLimits => absurd (hLimits.limits hSome).openRisk (not_le.mpr hExceeds)⟩

/-! ### New entries of the day -/

/-- The loop over a prefix, then over the rest from the session it left. -/
theorem sizeRequests_append {H : Canonical D} {s : SessionRiskState D}
    {xs ys : List (SizingRequest D)} {result : BatchSizingResult D} :
    sizeRequests H s (xs ++ ys) = .ok result ↔
      ∃ left right, sizeRequests H s xs = .ok left ∧
        sizeRequests H left.endingSessionState ys = .ok right ∧
        result = ⟨left.decisions ++ right.decisions, right.endingSessionState⟩ := by
  induction xs generalizing s result with
  | nil => simp [sizeRequests]
  | cons x xs ih =>
    simp only [List.cons_append, sizeRequests, Result.bind_eq_ok, Result.pure_eq_ok, ih]
    constructor
    · rintro ⟨d, hd, next, hNext, _, ⟨left, right, hLeft, hRight, rfl⟩, rfl⟩
      exact ⟨_, right, ⟨d, hd, next, hNext, left, hLeft, rfl⟩, hRight, rfl⟩
    · rintro ⟨_, right, ⟨d, hd, next, hNext, left, hLeft, rfl⟩, hRight, rfl⟩
      exact ⟨d, hd, next, hNext, _, ⟨left, right, hLeft, hRight, rfl⟩, rfl⟩

/-- No step of the loop that starts with the day's entries used up, those the
batch has reserved included, is given a request that it accepts. -/
def EntriesRespected (H : Canonical D) (limit : ℕ) (s : SessionRiskState D)
    (requests : List (SizingRequest D)) : Prop :=
  ∀ before r after state, requests = before ++ r :: after →
    sizeRequests H s before = .ok state →
    limit + s.reservedEntryPositionCount ≤
      s.completedEntryCount + state.endingSessionState.reservedEntryPositionCount →
    ¬ Accepts { r with session := state.endingSessionState }

theorem EntriesRespected.of_append {H : Canonical D} {limit : ℕ} {s : SessionRiskState D}
    {xs ys : List (SizingRequest D)} (h : EntriesRespected H limit s (xs ++ ys)) :
    EntriesRespected H limit s xs := by
  rintro before r after state rfl
  exact h before r (after ++ ys) state (by simp)

/-- One request sized alone: one approval at most, and only of what is accepted. -/
theorem sizeRequests_singleton {H : Canonical D} {s : SessionRiskState D} {r : SizingRequest D}
    {result : BatchSizingResult D} (h : sizeRequests H s [r] = .ok result) :
    approvedCount result.decisions ≤ 1 ∧
      (approvedCount result.decisions = 1 ↔ Accepts { r with session := s }) := by
  simp only [sizeRequests, Result.bind_eq_ok, Result.pure_eq_ok] at h
  obtain ⟨d, hd, next, -, _, hNil, rfl⟩ := h
  obtain rfl := Except.ok.inj hNil
  rw [← sizePosition_approved_iff hd]
  by_cases ha : d.decision = .approved <;> simp [approvedCount, ha]

omit [DecimalArithmetic D] in
@[simp] theorem approvedCount_append (xs ys : List (RiskDecision D)) :
    approvedCount (xs ++ ys) = approvedCount xs + approvedCount ys :=
  List.countP_append

/-- Prefixes that respect the limit are extended by approvals that find room. -/
theorem entries_le_iff {H : Canonical D} {limit : ℕ} {s : SessionRiskState D}
    {rs : List (SizingRequest D)} {result : BatchSizingResult D}
    (h : sizeRequests H s rs = .ok result) :
    approvedCount result.decisions + s.completedEntryCount ≤ limit ↔
      s.completedEntryCount ≤ limit ∧ EntriesRespected H limit s rs := by
  constructor
  · refine fun hLe => ⟨by omega, ?_⟩
    rintro before r after state rfl hState hFull hAccepts
    rw [← List.singleton_append, sizeRequests_append] at h
    obtain ⟨left, right, hLeft, hRight, rfl⟩ := h
    obtain rfl := Except.ok.inj (hLeft.symm.trans hState)
    obtain ⟨one, rest, hOne, -, rfl⟩ := sizeRequests_append.mp hRight
    have hCount := (batchRun_of_sizeRequests hLeft).positionCount
    have hApproved := (sizeRequests_singleton hOne).2.mpr hAccepts
    simp only [approvedCount_append] at hLe
    omega
  · rintro ⟨hStart, hRespected⟩
    induction rs using List.reverseRecOn generalizing result with
    | nil =>
      obtain rfl := Except.ok.inj h
      simpa [approvedCount] using hStart
    | append_singleton rs r ih =>
      obtain ⟨left, one, hLeft, hOne, rfl⟩ := sizeRequests_append.mp h
      have hPrefix := ih hLeft hRespected.of_append
      have hCount := (batchRun_of_sizeRequests hLeft).positionCount
      have hStep := hRespected rs r [] left rfl hLeft
      obtain ⟨hMost, hIff⟩ := sizeRequests_singleton hOne
      rw [← hIff] at hStep
      simp only [approvedCount_append]
      omega

/-- Where every completed entry still occupies a position, the gate on positions
keeps the limit on entries. -/
theorem entries_le_of_positions {newYorkDate : Timestamp → Date} {H : Canonical D}
    {batch : BatchSizingRequest D newYorkDate} {result : BatchSizingResult D}
    (h : sizeApprovedBatch H batch = .ok result)
    (hStart : batch.first.session.completedEntryCount ≤ batch.first.policy.maxNewEntriesPerDay)
    (hHeld : batch.first.session.completedEntryCount ≤
      batch.first.session.openDaybreakPositionCount +
        batch.first.session.reservedEntryPositionCount) :
    approvedCount result.decisions + batch.first.session.completedEntryCount ≤
      batch.first.policy.maxNewEntriesPerDay := by
  refine (entries_le_iff h).mpr ⟨hStart, ?_⟩
  rintro before r after state hSplit hState hFull ⟨c, caps, -, hReasons, -⟩
  have hPositions := (gatesPassed_of_nil hReasons).positions
  have hMem : r ∈ batch.requests := hSplit ▸ by simp
  have hPolicy := congrArg RiskPolicyConfig.maxConcurrentPositions
    (batch.sameBatch r hMem).2.2.2.2.1
  have hFrame := (batchRun_of_sizeRequests hState).same_but_reservations
  have hOpen := congrArg SessionRiskState.openDaybreakPositionCount hFrame
  have hCoherent := (batch.requests_valid _ batch.first_mem).policy_coherent
  simp only [RiskPolicyConfig.mapDecimal] at hPolicy
  simp only at hPositions hOpen
  omega

/-- Two entries are completed and closed, and a batch of two more is sized. -/
def afterTwoEntries (r : SizingRequest D) : SizingRequest D :=
  { r with session := { r.session with completedEntryCount := 2 } }

def lateBatch : BatchSizingRequest Decimal sampleDate where
  requests := [afterTwoEntries (sampleRequest Decimal), afterTwoEntries (secondRequest Decimal)]
  nonempty := by simp
  requests_valid := by decide +kernel
  rank_order := by decide +kernel

end Daybreak.Risk
