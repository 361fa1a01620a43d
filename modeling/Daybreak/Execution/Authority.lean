import Daybreak.Execution.Identifiers
import Daybreak.Execution.Submission

/-! What a submission is allowed by. Everything that `submit` sends passed the
timing checks, and the entry it sends restates an approved decision whose
reservation still holds. In the other direction no check of the order model
stands in the way: an approval of the sizing engine always has an entry command
within its cutoff and the life of its reservation. -/

namespace Daybreak.Execution

open Numeric DecimalArithmetic Effect Risk

variable {β D : Type} [DecimalArithmetic D]

variable {V : Derivations D} {B : Broker β D} {H : Canonical D} {request : ExecutionRequest D}
  {now : Timestamp} {command : BrokerOrderCommand D}

/-! ### The gate -/

/-- The request is neither from the future nor older than its policy allows. -/
structure Fresh (request : ExecutionRequest D) (now : Timestamp) : Prop where
  requested : request.requestedAt ≤ now
  recent : now ≤ request.requestedAt + request.policy.maxRequestAgeMs * 1000

/-- The decision is approved, and its reservation holds at `now`. -/
structure Reserved (request : ExecutionRequest D) (now : Timestamp) : Prop where
  beforeCutoff : now ≤ request.submissionCutoffTimestamp
  approved : request.riskDecision.decision = .approved
  reservation : ∃ reservation, request.riskDecision.reservation = some reservation ∧
    reservation.status = .reserved ∧ now < reservation.expiresAt

/-- The command restates what the decision approved. -/
structure Restates (request : ExecutionRequest D) (command : BrokerOrderCommand D) : Prop where
  symbol : command.symbol = request.riskDecision.ticker
  quantity : command.quantity = request.riskDecision.finalQuantity
  limitPrice : command.limitPrice = request.riskDecision.plannedEntryLimit
  targetPrice : command.takeProfitLimitPrice = request.riskDecision.targetPrice
  stopPrice : command.stopLossStopPrice = request.riskDecision.stopPrice

theorem buildEntryCommand_reserved (h : buildEntryCommand V request now = .ok command) :
    Reserved request now ∧ Restates request command := by
  simp only [buildEntryCommand, Result.bind_eq_ok, orRaise_eq_ok, ensure_eq_ok] at h
  obtain ⟨-, hApproved, reservation, hReservation, -, hStatus, -, hCutoff, -, hExpires, -, -,
    limit, hLimit, stop, hStop, target, hTarget, h⟩ := h
  obtain ⟨hash, hFields⟩ := withHash_eq_ok h
  constructor
  · exact ⟨hCutoff, hApproved, reservation, hReservation, hStatus, hExpires⟩
  · constructor <;> rw [hFields]
    exacts [rfl, rfl, hLimit.symm, hTarget.symm, hStop.symm]

theorem screen_fresh (hPolicy : request.policy.Valid)
    (h : screen V request now = .ok (.inr command)) : Fresh request now := by
  unfold screen at h
  simp only at h
  split at h
  · cases Except.ok.inj h
  split at h
  · cases Except.ok.inj h
  · next hAge =>
    rw [not_or, not_lt, not_lt] at hAge
    have hLimit : request.policy.maxRequestAgeMs ≤ 2 ^ 20 := by
      have hAtMost := hPolicy.1.2
      omega
    have hDifference := sub_le_of_elapsedMs hLimit hAge.2
    exact ⟨le_of_elapsedMs_nonneg hAge.1, sub_le_iff_le_add'.mp hDifference⟩

theorem screen_reserved (h : screen V request now = .ok (.inr command)) :
    Reserved request now ∧ Restates request command :=
  buildEntryCommand_reserved (screen_buys h)

/-! ### What is sent -/

/-- A submission within the time and the authority of its request; a buy restates
the decision. -/
structure Authorized (request : ExecutionRequest D) (now : Timestamp)
    (command : BrokerOrderCommand D) : Prop where
  fresh : Fresh request now
  reserved : Reserved request now
  restates : command.side = .buy → Restates request command

theorem SendsStop.authorized {held : Commands D} {calls : List (BrokerCall D)}
    (h : SendsStop held calls) (hFresh : Fresh request now) (hReserved : Reserved request now) :
    ∀ sent ∈ submitted calls, Authorized request now sent := by
  intro sent hSent
  refine ⟨hFresh, hReserved, fun hBuy => ?_⟩
  rw [(h.sells sent hSent).1] at hBuy
  cases hBuy

theorem SubmitRun.authorized {held held' : Commands D} {claims claims' : Claims}
    {calls : List (BrokerCall D)} {r : Result (ExecutionResult D)}
    (h : SubmitRun V request now held claims calls held' claims' r)
    (hPolicy : request.policy.Valid) :
    ∀ sent ∈ submitted calls, Authorized request now sent := by
  cases h with
  | raises e => simp [submitted]
  | refused => simp [submitted]
  | conflict => simp [submitted]
  | lookupFails => simp [submitted, submission]
  | found screened saved run =>
    have hFresh := screen_fresh hPolicy screened
    obtain ⟨hReserved, -⟩ := screen_reserved screened
    exact (run.sendsStop.cons rfl).authorized hFresh hReserved
  | sends screened saved run =>
    have hFresh := screen_fresh hPolicy screened
    obtain ⟨hReserved, hRestates⟩ := screen_reserved screened
    obtain ⟨answer, rest, rfl, hStop⟩ := run.sendsStop
    intro sent hSent
    rcases List.mem_cons.mp hSent with rfl | hSent
    · exact ⟨hFresh, hReserved, fun _ => hRestates⟩
    · exact hStop.authorized hFresh hReserved sent hSent

/-! ### What is approved can be sent -/

/-- Command ids are version-5 UUIDs, thirty-two hexadecimal digits. -/
def UuidCommandIds (V : Derivations D) : Prop :=
  ∀ executionId clientOrderId, (V.commandId executionId clientOrderId).length = 32

theorem entryFields_valid (hUuid : UuidCommandIds V) {reservation : RiskReservation D}
    {limit stop target : D} (hash : String) (hReservation : reservation.Valid)
    (hTicker : isCanonicalTicker request.riskDecision.ticker = true)
    (hQuantity : 0 < request.riskDecision.finalQuantity)
    (hMoney : IsMoney (value limit) ∧ IsMoney (value stop) ∧ IsMoney (value target))
    (hPositive : 0 < value stop) (hStop : value stop < value limit)
    (hTarget : value limit < value target) :
    CommandFields.Valid
      { entryFields V request reservation limit stop target with commandHash := hash } := by
  have hUuid := hUuid request.executionId reservation.clientOrderId
  refine ⟨⟨?_, hReservation.1.2.1, hTicker, hQuantity, ?_⟩, ?_⟩
  · simp only [entryFields]
    omega
  · intro price hPrice p hp
    simp only [entryFields, List.mem_cons, List.not_mem_nil, or_false] at hPrice
    rcases hPrice with rfl | rfl | rfl | rfl
    · obtain rfl := Option.some.inj hp
      exact ⟨hMoney.1, hPositive.trans hStop⟩
    · cases hp
    · obtain rfl := Option.some.inj hp
      exact ⟨hMoney.2.2, (hPositive.trans hStop).trans hTarget⟩
    · obtain rfl := Option.some.inj hp
      exact ⟨hMoney.2.1, hPositive⟩
  · exact ⟨rfl, rfl, limit, rfl, target, rfl, stop, rfl, hStop, hTarget⟩

/-- The sizing engine approves only what the order model accepts. -/
theorem buildEntryCommand_of_approved (hUuid : UuidCommandIds V) {sizing : SizingRequest D}
    (hSized : sizePosition H sizing = .ok request.riskDecision)
    (ha : request.riskDecision.decision = .approved)
    (hCutoff : now ≤ request.submissionCutoffTimestamp)
    (hExpires : ∀ reservation ∈ request.riskDecision.reservation, now < reservation.expiresAt) :
    ∃ command, buildEntryCommand V request now = .ok command := by
  obtain ⟨c, caps, hApproves⟩ := sizePosition_approves hSized ha
  obtain ⟨-, ⟨hTicker, -, hMoney, -⟩, hShape⟩ := sizePosition_identifies_valid hSized
  obtain ⟨-, hQuantity, -, -, -, -, -, -, -, -, reservation, hReservation, hMatches⟩ :=
    hShape.2.1 ha
  obtain ⟨-, -, hStatus, hValid⟩ := approved_reservation hSized ha hReservation
  have hLimit := hApproves.reports.plannedEntryLimit
  have hStop := hApproves.reports.stopPrice
  have hTarget := hApproves.reports.targetPrice
  have hPrice : ∀ p, some p ∈ request.riskDecision.moneyFields → IsMoney (value p) :=
    fun p hp => hMoney (some p) hp p rfl
  have hPrices : IsMoney (value c.plannedEntryLimit) ∧ IsMoney (value c.stopPrice) ∧
      IsMoney (value c.targetPrice) := by
    refine ⟨hPrice _ ?_, hPrice _ ?_, hPrice _ ?_⟩ <;>
      simp [RiskDecision.moneyFields, hLimit, hStop, hTarget]
  have hFields := entryFields_valid hUuid (V.commandHash
      { entryFields V request reservation c.plannedEntryLimit c.stopPrice c.targetPrice with
        commandHash := "" }) hValid hTicker hQuantity hPrices
    hApproves.passed.stop_pos hApproves.passed.stop_lt_entry hApproves.passed.entry_lt_target
  refine ⟨⟨_, hFields⟩, ?_⟩
  simp only [buildEntryCommand, Result.bind_eq_ok, orRaise_eq_ok, ensure_eq_ok]
  exact ⟨(), ha, reservation, hReservation, (), hStatus, (), hCutoff, (),
    hExpires reservation hReservation, (), hMatches.2.2.2.2.1.symm, _, hLimit, _, hStop, _, hTarget,
    dif_pos hFields⟩

/-- A call of `submit` sends only what is authorized, and an approval can always
be turned into a command in time. -/
theorem submission_authority (V : Derivations D) (hUuid : UuidCommandIds V) (B : Broker β D)
    (H : Canonical D) :
    (∀ (request : ExecutionRequest D) (now : Timestamp) (w w' : World β D)
      (r : Result (ExecutionResult D)), request.Valid H →
      (submit V B request now).exec w = (r, w') → ∃ calls, w'.log = w.log ++ calls ∧
        ∀ sent ∈ submitted calls, Authorized request now sent) ∧
    ∀ (sizing : SizingRequest D) (request : ExecutionRequest D) (now : Timestamp),
      sizePosition H sizing = .ok request.riskDecision →
      request.riskDecision.decision = .approved → now ≤ request.submissionCutoffTimestamp →
      (∀ reservation ∈ request.riskDecision.reservation, now < reservation.expiresAt) →
      ∃ command, buildEntryCommand V request now = .ok command := by
  constructor
  · intro request now w w' r hValid hExec
    obtain ⟨calls, held, claims, hRun, hAdvances⟩ := submit_run hExec
    exact ⟨calls, hAdvances.log, hRun.authorized hValid.1.2.2.2.1⟩
  · intro sizing request now hSized ha hCutoff hExpires
    exact buildEntryCommand_of_approved hUuid hSized ha hCutoff hExpires

/-- The UUID of the sample entry. -/
def sampleCommandId : String := "44162023c8425f2686f4b1548f149f1d"

def sampleUuids : Derivations Decimal :=
  { sampleDerivations with commandId := fun _ _ => sampleCommandId }

/-- The sample execution is submitted to a broker that has no orders yet. -/
def sampleSubmission :
    Result (ExecutionResult Decimal) × World (List (BrokerOrderSnapshot Decimal)) Decimal :=
  (submit sampleUuids (ledger Decimal true) sampleExecution sampleExecution.requestedAt).exec
    (.initial [])

theorem sampleSubmission_authorized :
    (submitted sampleSubmission.2.log).length = 1 ∧
      (∀ sent ∈ submitted sampleSubmission.2.log,
        Authorized sampleExecution sampleExecution.requestedAt sent) ∧
      ∃ command, buildEntryCommand sampleUuids sampleExecution sampleExecution.requestedAt =
        .ok command := by
  have hLength : sampleCommandId.length = 32 := by decide
  have hUuid : UuidCommandIds sampleUuids := fun _ _ => hLength
  obtain ⟨hSends, hBuilds⟩ := submission_authority sampleUuids hUuid (ledger Decimal true)
    (sampleCanonical Decimal)
  obtain ⟨calls, hLog, hAuthorized⟩ := hSends sampleExecution sampleExecution.requestedAt
    (.initial []) sampleSubmission.2 sampleSubmission.1 (by decide +kernel) rfl
  refine ⟨by decide +kernel, ?_, hBuilds (sampleRequest Decimal) _ _ ?_ ?_ ?_ ?_⟩
  · rw [hLog]
    exact hAuthorized
  all_goals decide +kernel

end Daybreak.Execution
