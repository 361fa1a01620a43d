import Daybreak.Serial.StrictModel

/-! The strict models that are stored as JSON columns and read back when they are
wanted: decisions and reservations of the risk engine, commands and requests of the
execution, and the kill switch. Only a kill switch that is not active is read back. -/

namespace Daybreak.Contracts

open Serial FieldType

/-! ### The fields -/

abbrev Fields := List (String × FieldType)

def riskReservation : Fields :=
  [("reservation_id", str), ("request_id", str), ("run_id", str), ("trading_date", date),
    ("ticker", str), ("client_order_id", str), ("reserved_quantity", int),
    ("reserved_notional", decimal), ("reserved_modeled_risk", decimal), ("created_at", datetime),
    ("expires_at", datetime), ("status", enum)]

def quantityCaps : Fields :=
  [("trade_risk", int), ("open_risk", int), ("daily_loss", int), ("buying_power", int),
    ("position_notional", int), ("gross_exposure", int), ("adv_liquidity", int),
    ("premarket_liquidity", int)]

def riskDecision : Fields :=
  [("decision_id", str), ("request_id", str), ("run_id", str), ("trading_date", date),
    ("policy_version", literal (.str "position_risk_policy_v1")), ("profile_name", enum),
    ("ticker", str), ("final_rank", int), ("decision", enum), ("rejection_reasons", tuple enum),
    ("kill_switch_required", bool),
    ("session_reference_equity", optional decimal), ("broker_session_pnl", optional decimal),
    ("internal_session_pnl", optional decimal), ("risk_session_pnl", optional decimal),
    ("usable_buying_power", optional decimal), ("base_trade_risk_budget", optional decimal),
    ("risk_flag_multiplier", optional decimal), ("adjusted_trade_risk_budget", optional decimal),
    ("planned_entry_limit", optional decimal), ("stop_price", optional decimal),
    ("target_price", optional decimal), ("structural_risk_per_share", optional decimal),
    ("execution_risk_buffer", optional decimal), ("modeled_risk_per_share", optional decimal),
    ("maximum_total_open_risk", optional decimal),
    ("remaining_open_risk_capacity", optional decimal),
    ("remaining_hard_loss_capacity", optional decimal),
    ("maximum_position_notional", optional decimal),
    ("remaining_gross_exposure", optional decimal),
    ("quantity_caps", optional (model quantityCaps)), ("binding_cap", optional enum),
    ("final_quantity", int), ("reserved_modeled_risk", optional decimal),
    ("reserved_notional", optional decimal), ("reservation", optional (model riskReservation)),
    ("calculated_at", datetime), ("account_snapshot_timestamp", datetime),
    ("quote_timestamp", datetime), ("configuration_hash", str), ("input_hash", str),
    ("decision_hash", str)]

def executionPolicy : Fields :=
  [("policy_version", literal (.str "alpaca_execution_policy_v1")),
    ("mode", literal (.enum "paper")),
    ("paper_base_url", literal (.str "https://paper-api.alpaca.markets")),
    ("max_request_age_ms", int), ("request_timeout_seconds", float),
    ("cancel_unfilled_after_seconds", int), ("partial_fill_protection_enabled", bool),
    ("protective_stop_time_in_force", literal (.enum "day")),
    ("allow_live_execution", literal (.bool false))]

def executionRequest : Fields :=
  [("execution_id", str), ("run_id", str), ("trading_date", date), ("requested_at", datetime),
    ("submission_cutoff_timestamp", datetime), ("risk_decision", model riskDecision),
    ("policy", model executionPolicy), ("configuration_hash", str)]

def brokerOrderCommand : Fields :=
  [("command_id", str), ("execution_id", str), ("client_order_id", str), ("symbol", str),
    ("quantity", int), ("side", enum), ("order_type", enum), ("time_in_force", enum),
    ("order_class", enum), ("limit_price", optional decimal), ("stop_price", optional decimal),
    ("take_profit_limit_price", optional decimal), ("stop_loss_stop_price", optional decimal),
    ("extended_hours", literal (.bool false)), ("parent_client_order_id", optional str),
    ("command_hash", str)]

def killSwitchState : Fields :=
  [("session_id", str), ("active", bool), ("activated_at", optional datetime),
    ("reason", optional enum), ("details", dict), ("reset_required", bool), ("state_hash", str)]

def isNone : PyValue → Bool
  | .none => true
  | _ => false

/-- `KillSwitchState.coherent` -/
def killSwitchCoherent (x : List (String × PyValue)) : Bool :=
  match x.lookup "active", x.lookup "activated_at", x.lookup "reason",
    x.lookup "reset_required" with
  | some (.bool active), some activatedAt, some reason, some (.bool resetRequired) =>
    (!active || (!isNone activatedAt && !isNone reason)) &&
      (active || (isNone activatedAt && isNone reason)) && (!active || resetRequired)
  | _, _, _, _ => false

/-! ### The models -/

inductive StoredModel where
  | riskDecision | riskReservation | brokerOrderCommand | executionRequest | killSwitchState
  deriving DecidableEq, Repr

def StoredModel.fields : StoredModel → Fields
  | .riskDecision => Contracts.riskDecision
  | .riskReservation => Contracts.riskReservation
  | .brokerOrderCommand => Contracts.brokerOrderCommand
  | .executionRequest => Contracts.executionRequest
  | .killSwitchState => Contracts.killSwitchState

/-- The bounds, patterns and validators of a model, of which only the coherence of a kill
switch is spelled out. -/
def StoredModel.model (checks : StoredModel → List (String × PyValue) → Bool) (m : StoredModel) :
    StrictModel where
  fields := m.fields
  check x := checks m x && (m != .killSwitchState || killSwitchCoherent x)

variable {checks : StoredModel → List (String × PyValue) → Bool} {m : StoredModel}
  {x : List (String × PyValue)}

/-- Each model but the kill switch has a required field that is written as a text and
refuses one. -/
theorem lossy_field (h : m ≠ .killSwitchState) :
    ∃ field ∈ m.fields, field.2.Lossy := by
  cases m with
  | riskDecision =>
    exact ⟨("trading_date", date), by simp [StoredModel.fields, riskDecision], .date⟩
  | riskReservation =>
    exact ⟨("trading_date", date), by simp [StoredModel.fields, riskReservation], .date⟩
  | brokerOrderCommand =>
    exact ⟨("side", enum), by simp [StoredModel.fields, brokerOrderCommand], .enum⟩
  | executionRequest =>
    exact ⟨("trading_date", date), by simp [StoredModel.fields, executionRequest], .date⟩
  | killSwitchState => exact absurd rfl h

/-! ### The kill switch -/

/-- The fields of a kill switch. -/
def killSwitchFields (sessionId : String) (active : Bool) (activatedAt reason : PyValue)
    (details : List (String × PyValue)) (resetRequired : Bool) (stateHash : String) :
    List (String × PyValue) :=
  [("session_id", .str sessionId), ("active", .bool active), ("activated_at", activatedAt),
    ("reason", reason), ("details", .dict details), ("reset_required", .bool resetRequired),
    ("state_hash", .str stateHash)]

theorem killSwitch_shape (h : validateFields killSwitchState x = some x) :
    ∃ sessionId active activatedAt reason details resetRequired stateHash,
      x = killSwitchFields sessionId active activatedAt reason details resetRequired stateHash := by
  simp only [killSwitchState, validateFields, bind, pure, Option.bind_eq_some_iff] at h
  obtain ⟨sessionId, -, v₁, h₁, _, ⟨active, -, v₂, h₂, _, ⟨activatedAt, -, v₃, -, _, ⟨reason, -,
    v₄, -, _, ⟨details, -, v₅, h₅, _, ⟨resetRequired, -, v₆, h₆, _, ⟨stateHash, -, v₇, h₇, _, hNil,
    e₇⟩, e₆⟩, e₅⟩, e₄⟩, e₃⟩, e₂⟩, e₁⟩ := h
  obtain rfl := Option.some.inj hNil
  obtain rfl := Option.some.inj e₇
  obtain rfl := Option.some.inj e₆
  obtain rfl := Option.some.inj e₅
  obtain rfl := Option.some.inj e₄
  obtain rfl := Option.some.inj e₃
  obtain rfl := Option.some.inj e₂
  obtain rfl := Option.some.inj e₁
  cases sessionId <;> cases h₁
  cases active <;> cases h₂
  cases details <;> cases h₅
  cases resetRequired <;> cases h₆
  cases stateHash <;> cases h₇
  exact ⟨_, _, _, _, _, _, _, rfl⟩

theorem isNone_iff {v : PyValue} : isNone v = true ↔ v = .none := by
  cases v <;> simp [isNone]

/-- What the coherence of a kill switch says of its fields. -/
theorem coherent_of_instance {sessionId : String} {active : Bool} {activatedAt reason : PyValue}
    {details : List (String × PyValue)} {resetRequired : Bool} {stateHash : String}
    (h : (StoredModel.killSwitchState.model checks).Instance
      (killSwitchFields sessionId active activatedAt reason details resetRequired stateHash)) :
    (active = true → activatedAt ≠ .none) ∧
      (active = false → activatedAt = .none ∧ reason = .none) := by
  have hCoherent : ((!active || (!isNone activatedAt && !isNone reason)) &&
      (active || (isNone activatedAt && isNone reason)) && (!active || resetRequired)) = true := by
    exact (Bool.and_eq_true_iff.mp h.check).2
  cases active with
  | true =>
    refine ⟨fun _ hNone => ?_, fun hFalse => absurd hFalse (by decide)⟩
    subst hNone
    simp [isNone] at hCoherent
  | false =>
    refine ⟨fun hTrue => absurd hTrue (by decide), fun _ => ?_⟩
    simpa [isNone_iff] using hCoherent

/-- An active kill switch has a time, which is written as a text. -/
theorem readBack_active {sessionId : String} {activatedAt reason : PyValue}
    {details : List (String × PyValue)} {resetRequired : Bool} {stateHash : String}
    (h : (StoredModel.killSwitchState.model checks).Instance
      (killSwitchFields sessionId true activatedAt reason details resetRequired stateHash)) :
    (StoredModel.killSwitchState.model checks).readBack
      (killSwitchFields sessionId true activatedAt reason details resetRequired stateHash) =
        none := by
  have hCoherent := (coherent_of_instance h).1 rfl
  have hField : ("activated_at", optional datetime) ∈
      (StoredModel.killSwitchState.model checks).fields := by
    simp [StoredModel.model, StoredModel.fields, killSwitchState]
  obtain ⟨v, v', hLookup, hValue⟩ := validateFields_lookup h.validateFields hField
  obtain rfl : activatedAt = v := Option.some.inj hLookup
  refine StrictModel.readBack_of_refused hField hLookup ?_
  intro json hDump
  cases activatedAt with
  | none => exact absurd rfl hCoherent
  | datetime text =>
    obtain rfl := Option.some.inj hDump
    rfl
  | _ => cases hValue

/-- What is read back of a kill switch that is not active. -/
theorem readBack_inactive {sessionId : String} {details : List (String × PyValue)}
    {resetRequired : Bool} {stateHash : String} {json : List (String × Json)}
    (hDump : dumpEntries details = some json) :
    (StoredModel.killSwitchState.model checks).readBack
        (killSwitchFields sessionId false .none .none details resetRequired stateHash) =
      (some (PyValue.model (killSwitchFields sessionId false .none .none (loadEntries json)
        resetRequired stateHash))).filter fun
          | .model items => (StoredModel.killSwitchState.model checks).check items
          | _ => false := by
  have hWritten : (PyValue.model (killSwitchFields sessionId false .none .none details
      resetRequired stateHash)).dump = some (.obj [("session_id", .str sessionId),
        ("active", .bool false), ("activated_at", .null), ("reason", .null),
        ("details", .obj json), ("reset_required", .bool resetRequired),
        ("state_hash", .str stateHash)]) := by
    simp [killSwitchFields, PyValue.dump, dumpEntries, hDump]
  rw [StrictModel.readBack, hWritten]
  rfl

/-- A kill switch whose details are not written is not read back. -/
theorem readBack_unwritten {sessionId : String} {active : Bool} {activatedAt reason : PyValue}
    {details : List (String × PyValue)} {resetRequired : Bool} {stateHash : String}
    (hDump : dumpEntries details = none) :
    (StoredModel.killSwitchState.model checks).readBack
      (killSwitchFields sessionId active activatedAt reason details resetRequired stateHash) =
        none := by
  have hNone : (PyValue.model (killSwitchFields sessionId active activatedAt reason details
      resetRequired stateHash)).dump = none := by
    simp [killSwitchFields, PyValue.dump, dumpEntries, hDump]
  rw [StrictModel.readBack, hNone]
  rfl

/-- A kill switch that is not active is read back when its details are JSON already. -/
theorem readBack_inactive_iff {sessionId : String} {activatedAt reason : PyValue}
    {details : List (String × PyValue)} {resetRequired : Bool} {stateHash : String}
    (h : (StoredModel.killSwitchState.model checks).Instance
      (killSwitchFields sessionId false activatedAt reason details resetRequired stateHash)) :
    (StoredModel.killSwitchState.model checks).readBack
        (killSwitchFields sessionId false activatedAt reason details resetRequired stateHash) =
      some (.model
        (killSwitchFields sessionId false activatedAt reason details resetRequired stateHash)) ↔
      NativeEntries details := by
  obtain ⟨rfl, rfl⟩ := (coherent_of_instance h).2 rfl
  constructor
  · intro hBack
    cases hDump : dumpEntries details with
    | none =>
      rw [readBack_unwritten hDump] at hBack
      cases hBack
    | some json =>
      rw [readBack_inactive hDump] at hBack
      have hSame := Option.some.inj (Option.filter_eq_some_iff.mp hBack).1
      have hDetails : loadEntries json = details := by
        simpa [killSwitchFields] using hSame
      exact hDetails ▸ nativeEntries_loadEntries json
  · intro hNative
    obtain ⟨json, hDump, hLoad⟩ := dumpEntries_of_native details hNative
    rw [readBack_inactive hDump, hLoad]
    exact Option.filter_eq_some_iff.mpr ⟨rfl, h.check⟩

/-- What is read back of a kill switch has its hash. -/
theorem readBack_stateHash {sessionId sessionId' : String} {active active' resetRequired
    resetRequired' : Bool} {activatedAt activatedAt' reason reason' : PyValue}
    {details details' : List (String × PyValue)} {stateHash stateHash' : String}
    (h : (StoredModel.killSwitchState.model checks).Instance
      (killSwitchFields sessionId active activatedAt reason details resetRequired stateHash))
    (hBack : (StoredModel.killSwitchState.model checks).readBack
        (killSwitchFields sessionId active activatedAt reason details resetRequired stateHash) =
      some (.model (killSwitchFields sessionId' active' activatedAt' reason' details'
        resetRequired' stateHash'))) : stateHash = stateHash' := by
  cases active with
  | true =>
    rw [readBack_active h] at hBack
    cases hBack
  | false =>
    obtain ⟨rfl, rfl⟩ := (coherent_of_instance h).2 rfl
    cases hDump : dumpEntries details with
    | none =>
      rw [readBack_unwritten hDump] at hBack
      cases hBack
    | some json =>
      rw [readBack_inactive hDump] at hBack
      have hSame := Option.some.inj (Option.filter_eq_some_iff.mp hBack).1
      simp only [killSwitchFields, PyValue.model.injEq, List.cons.injEq, Prod.mk.injEq,
        PyValue.str.injEq] at hSame
      exact hSame.2.2.2.2.2.2.1.2

/-! ### Reading back -/

/-- Of the five models, exactly the kill switches that are not active, with details that
are JSON already, are read back as they were stored. -/
theorem stored_models_read_back (checks : StoredModel → List (String × PyValue) → Bool)
    (m : StoredModel) (x : List (String × PyValue)) (h : (m.model checks).Instance x) :
    (m.model checks).readBack x = some (.model x) ↔
      m = .killSwitchState ∧ x.lookup "active" = some (.bool false) ∧
        ∃ details, x.lookup "details" = some (.dict details) ∧ NativeEntries details := by
  by_cases hSwitch : m = .killSwitchState
  · subst hSwitch
    obtain ⟨sessionId, active, activatedAt, reason, details, resetRequired, stateHash, rfl⟩ :=
      killSwitch_shape h.validateFields
    have hDetails : (∃ d, (killSwitchFields sessionId active activatedAt reason details
        resetRequired stateHash).lookup "details" = some (.dict d) ∧ NativeEntries d) ↔
        NativeEntries details := by
      simp [killSwitchFields, List.lookup_cons]
    rw [hDetails, eq_self_iff_true, true_and]
    cases active with
    | true =>
      rw [readBack_active h]
      simp [killSwitchFields, List.lookup_cons]
    | false =>
      rw [readBack_inactive_iff h]
      exact (and_iff_right rfl).symm
  · obtain ⟨⟨name, type⟩, hField, hLossy⟩ := lossy_field hSwitch
    rw [h.readBack_of_lossy hField hLossy]
    exact iff_of_false (by simp) fun hRead => hSwitch hRead.1

/-- The state that a session without a kill switch is given. -/
def inactiveSwitch : List (String × PyValue) :=
  killSwitchFields "session-1" false .none .none [] false
    "6ff74b3e01fc3c2a1a3c2f76c3c1b5c4e4e1e7a38f1d9ce25b9b0f5f5d3b9a10"

theorem inactiveSwitch_read_back :
    (StoredModel.killSwitchState.model fun _ _ => true).readBack inactiveSwitch =
        some (.model inactiveSwitch) ↔
      StoredModel.killSwitchState = .killSwitchState ∧
        inactiveSwitch.lookup "active" = some (.bool false) ∧
        ∃ details, inactiveSwitch.lookup "details" = some (.dict details) ∧
          NativeEntries details :=
  stored_models_read_back (fun _ _ => true) .killSwitchState inactiveSwitch rfl

/-- A kill switch that a lost lease activated. -/
def activeSwitch : List (String × PyValue) :=
  killSwitchFields "session-1" true (.datetime "2026-07-20T13:30:00Z") (.enum "LEADERSHIP_LOST")
    [("error", .str "RuntimeError: leadership lost")] true
    "0c4d5d3a0b6d1f9fb0a5e6c9f8a1e3d7b2c4f6089ab1c3d5e7f90a2b4c6d8e0f"

theorem activeSwitch_not_read_back :
    (StoredModel.killSwitchState.model fun _ _ => true).Instance activeSwitch ∧
      (StoredModel.killSwitchState.model fun _ _ => true).readBack activeSwitch ≠
        some (.model activeSwitch) := by
  have hNone :
      (StoredModel.killSwitchState.model fun _ _ => true).readBack activeSwitch = none := rfl
  refine ⟨rfl, ?_⟩
  rw [hNone]
  exact (Option.some_ne_none _).symm

end Daybreak.Contracts
