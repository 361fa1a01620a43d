import Daybreak.Execution.Models

/-! The two commands the service sends: the bracket entry of an approved risk
decision and the stop that protects a partial fill; and the comparison of a
command with the order a broker reports. -/

namespace Daybreak.Execution

open Numeric DecimalArithmetic Risk

variable {D : Type} [DecimalArithmetic D]

/-! ### Commands -/

/-- The value of an optional field, or an exception. -/
def orRaise {α : Type} (x : Option α) (error : PyError) : Result α :=
  match x with
  | some a => .ok a
  | none => .error error

@[simp] theorem orRaise_eq_ok {α : Type} {x : Option α} {error : PyError} {a : α} :
    orRaise x error = .ok a ↔ x = some a := by
  cases x <;> simp [orRaise]

theorem orRaise_eq_error {α : Type} {x : Option α} {error e : PyError}
    (h : orRaise x error = .error e) : e = error := by
  cases x with
  | some a => cases h
  | none => exact (Except.error.inj h).symm

/-- `BrokerOrderCommand.model_validate` of a payload and its hash. -/
def withHash (V : Derivations D) (payload : CommandFields D) : Result (BrokerOrderCommand D) :=
  let fields := { payload with commandHash := V.commandHash { payload with commandHash := "" } }
  if h : fields.Valid then .ok ⟨fields, h⟩
  else .error (.validationError (V.validationText fields))

def entryFields (V : Derivations D) (request : ExecutionRequest D)
    (reservation : RiskReservation D) (limit stop target : D) : CommandFields D where
  commandId := V.commandId request.executionId reservation.clientOrderId
  executionId := request.executionId
  clientOrderId := reservation.clientOrderId
  symbol := request.riskDecision.ticker
  quantity := request.riskDecision.finalQuantity
  side := .buy
  orderType := .limit
  timeInForce := .day
  orderClass := .bracket
  limitPrice := some limit
  stopPrice := none
  takeProfitLimitPrice := some target
  stopLossStopPrice := some stop
  parentClientOrderId := none
  commandHash := ""

def buildEntryCommand (V : Derivations D) (request : ExecutionRequest D) (now : Timestamp) :
    Result (BrokerOrderCommand D) := do
  let decision := request.riskDecision
  ensure (decision.decision = .approved) (.valueError "risk decision is not approved")
  let reservation ←
    orRaise decision.reservation (.valueError "approved risk decision has no reservation")
  ensure (reservation.status = .reserved)
    (.valueError "risk reservation is not in reserved status")
  ensure (now ≤ request.submissionCutoffTimestamp) (.valueError "submission cutoff exceeded")
  ensure (now < reservation.expiresAt) (.valueError "risk reservation expired")
  ensure (decision.finalQuantity = reservation.reservedQuantity)
    (.valueError "risk quantity and reservation quantity differ")
  let missing := PyError.valueError "risk decision is missing executable prices"
  let limit ← orRaise decision.plannedEntryLimit missing
  let stop ← orRaise decision.stopPrice missing
  let target ← orRaise decision.targetPrice missing
  withHash V (entryFields V request reservation limit stop target)

/-- `parent[:46] + "-P"` -/
def protectiveClientOrderId (parent : String) : String := slicePrefix parent (48 - 2) ++ "-P"

def protectiveFields (V : Derivations D) (request : ExecutionRequest D) (parent : String)
    (stop : D) (quantity : ℕ) : CommandFields D where
  commandId := V.commandId request.executionId (protectiveClientOrderId parent)
  executionId := request.executionId
  clientOrderId := protectiveClientOrderId parent
  symbol := request.riskDecision.ticker
  quantity := quantity
  side := .sell
  orderType := .stop
  timeInForce := .day
  orderClass := .simple
  limitPrice := none
  stopPrice := some stop
  takeProfitLimitPrice := none
  stopLossStopPrice := none
  parentClientOrderId := some parent
  commandHash := ""

def buildPartialFillProtectiveStop (V : Derivations D) (request : ExecutionRequest D)
    (filledQuantity : ℤ) : Result (BrokerOrderCommand D) := do
  let decision := request.riskDecision
  ensure (0 < filledQuantity) (.valueError "protective stop requires positive filled quantity")
  let missing := PyError.valueError "risk decision is missing stop or reservation"
  let stop ← orRaise decision.stopPrice missing
  let reservation ← orRaise decision.reservation missing
  withHash V (protectiveFields V request reservation.clientOrderId stop filledQuantity.toNat)

theorem withHash_eq_ok {V : Derivations D} {payload : CommandFields D} {c : BrokerOrderCommand D}
    (h : withHash V payload = .ok c) :
    ∃ hash, c.toCommandFields = { payload with commandHash := hash } := by
  unfold withHash at h
  simp only at h
  split at h
  · exact ⟨_, by rw [← Except.ok.inj h]⟩
  · cases h

/-- An entry command has the fields that its request and reservation give it. -/
theorem buildEntryCommand_fields {V : Derivations D} {request : ExecutionRequest D}
    {now : Timestamp} {c : BrokerOrderCommand D} (h : buildEntryCommand V request now = .ok c) :
    ∃ reservation limit stop target hash, request.riskDecision.reservation = some reservation ∧
      c.toCommandFields = {
        entryFields V request reservation limit stop target with commandHash := hash } := by
  simp only [buildEntryCommand, Result.bind_eq_ok, orRaise_eq_ok] at h
  obtain ⟨-, -, reservation, hReservation, -, -, -, -, -, -, -, -, limit, -, stop, -, target, -,
    h⟩ := h
  obtain ⟨hash, hc⟩ := withHash_eq_ok h
  exact ⟨reservation, limit, stop, target, hash, hReservation, hc⟩

/-- An entry command is the bracket of the request's own reservation. -/
theorem buildEntryCommand_eq_ok {V : Derivations D} {request : ExecutionRequest D}
    {now : Timestamp} {c : BrokerOrderCommand D} (h : buildEntryCommand V request now = .ok c) :
    ∃ reservation, request.riskDecision.reservation = some reservation ∧
      c.clientOrderId = reservation.clientOrderId ∧ c.side = .buy ∧ c.orderClass = .bracket := by
  obtain ⟨reservation, _, _, _, _, hReservation, hc⟩ := buildEntryCommand_fields h
  refine ⟨reservation, hReservation, ?_, ?_, ?_⟩ <;> rw [hc] <;> rfl

/-- A protective command sells the filled quantity at the decision's stop. -/
theorem buildPartialFillProtectiveStop_eq_ok {V : Derivations D} {request : ExecutionRequest D}
    {filled : ℤ} {c : BrokerOrderCommand D}
    (h : buildPartialFillProtectiveStop V request filled = .ok c) :
    0 < filled ∧ ∃ reservation stop hash, request.riskDecision.reservation = some reservation ∧
      request.riskDecision.stopPrice = some stop ∧
      c.toCommandFields = {
        protectiveFields V request reservation.clientOrderId stop filled.toNat with
        commandHash := hash } := by
  simp only [buildPartialFillProtectiveStop, Result.bind_eq_ok, orRaise_eq_ok, ensure_eq_ok] at h
  obtain ⟨-, hFilled, stop, hStop, reservation, hReservation, h⟩ := h
  obtain ⟨hash, hc⟩ := withHash_eq_ok h
  exact ⟨hFilled, reservation, stop, hash, hReservation, hStop, hc⟩

/-! ### Comparison with a broker order -/

/-- The legs of a bracket with one side, type, price and quantity. -/
def bracketLegs (order : BrokerOrderSnapshot D) (types : List String)
    (price : BrokerOrderLeg D → Option D) (expected : Option D) (quantity : ℕ) :
    List (BrokerOrderLeg D) :=
  order.legs.filter fun leg => leg.side = "sell" ∧ leg.orderType ∈ types ∧
    (price leg).map value = expected.map value ∧ value leg.quantity = quantity

/-- `_matches` -/
def Matches (command : BrokerOrderCommand D) (order : BrokerOrderSnapshot D) : Prop :=
  (command.clientOrderId = order.clientOrderId ∧ command.symbol = order.symbol ∧
    command.side = order.side ∧ command.orderType = order.orderType ∧
    command.timeInForce.value = order.timeInForce ∧
    command.orderClass.value = order.orderClass ∧ (command.quantity : ℚ) = value order.quantity ∧
    (∀ p ∈ command.limitPrice, order.limitPrice.map value = some (value p)) ∧
    (∀ p ∈ command.stopPrice, order.stopPrice.map value = some (value p))) ∧
  (command.orderClass = .bracket →
    order.legs.length = 2 ∧
    (bracketLegs order ["limit"] (·.limitPrice) command.takeProfitLimitPrice
      command.quantity).length = 1 ∧
    (bracketLegs order ["stop", "stop_limit"] (·.stopPrice) command.stopLossStopPrice
      command.quantity).length = 1)

instance (command : BrokerOrderCommand D) (order : BrokerOrderSnapshot D) :
    Decidable (Matches command order) := by
  unfold Matches; infer_instance

/-- The price of a command enters a comparison through its value only. -/
theorem forall_price_iff {price price' : Option D} (h : price.map value = price'.map value)
    (x : Option ℚ) : (∀ p ∈ price, x = some (value p)) ↔ ∀ p ∈ price', x = some (value p) := by
  cases price <;> cases price' <;> simp_all

/-- Commands that Python finds equal match the same orders. -/
theorem matches_congr {c c' : BrokerOrderCommand D} (h : c.numeric = c'.numeric)
    (order : BrokerOrderSnapshot D) : Matches c order ↔ Matches c' order := by
  simp only [BrokerOrderCommand.numeric, CommandFields.mapDecimal, CommandFields.mk.injEq] at h
  obtain ⟨-, -, hId, hSymbol, hQuantity, hSide, hType, -, hClass, hLimit, hStop, hTarget,
    hLoss, -, -⟩ := h
  simp only [Matches, bracketLegs, hId, hSymbol, hQuantity, hSide, hType, hClass, hTarget, hLoss,
    forall_price_iff hLimit, forall_price_iff hStop]

end Daybreak.Execution
