import Daybreak.Risk.Models
import Daybreak.Serial.DecimalText

/-! The canonical JSON of a request and of the body of a decision, which their hashes are taken
of. A request is dumped as JSON, so that `str` writes its decimals; a decision is dumped as it
is, so that its decimals are written in full. Dates and times are written as ISO 8601 texts,
which tell them; the numbers of a text stand for it. -/

namespace Daybreak

def RiskFlag.value : RiskFlag → String
  | .parabolic => "parabolic_vwap_extension"
  | .hardToBorrow => "hard_to_borrow"
  | .unknownBorrow => "unknown_borrow"
  | .lowFloat => "low_float"
  | .spikyVolume => "spiky_volume"
  | .secondarySource => "secondary_source"

theorem RiskFlag.value_injective {a b : RiskFlag} (h : a.value = b.value) : a = b := by
  cases a <;> cases b <;> first | rfl | exact absurd h (by decide)

namespace Risk

open Numeric DecimalArithmetic Serial

/-! ### Values -/

def instant (t : Timestamp) : Json := .int t

def calendarDate (d : Date) : Json := .arr [.int d.year, .int d.month, .int d.day]

/-- A decimal of a dump as JSON. -/
def dumped (d : Decimal) : Json := .str (scientificText d)

/-- A decimal of a dump as it is. -/
def written (d : Decimal) : Json := .str (fixedText d)

/-- A float; it is kept as the decimal of its text. -/
def double (d : Decimal) : Json := .float (value d)

theorem instant_inj {a b : Timestamp} : instant a = instant b ↔ a = b := by
  simp [instant]

theorem calendarDate_inj {a b : Date} : calendarDate a = calendarDate b ↔ a = b := by
  cases a
  cases b
  simp [calendarDate]

theorem dumped_inj {a b : Decimal} : dumped a = dumped b ↔ a = b := by
  constructor
  · intro h
    exact scientificText_injective (Json.str.inj h)
  · rintro rfl
    rfl

theorem double_inj {a b : Decimal} : double a = double b ↔ value a = value b := by
  simp [double]

theorem value_of_written {a b : Decimal} (h : written a = written b) : value a = value b :=
  toRat_eq_of_fixedText (Json.str.inj h)

theorem amount_inj {a b : Option Decimal} (h : Json.optional written a = .optional written b) :
    a.map value = b.map value :=
  Json.optional_inj (by simp [written]) (fun _ _ => value_of_written) h

theorem texts_inj {as bs : List String} (h : Json.arr (as.map .str) = .arr (bs.map .str)) :
    as = bs := by
  simpa using Json.arr_map_inj (v := id) (fun _ _ => Json.str.inj) h

theorem record_ne_null {α : Type} (fields : List (String × (α → Json))) (a : α) :
    Json.record fields a ≠ .null := by
  simp [Json.record, Json.object]

theorem values_inj {α : Type} {value : α → String} (hValue : ∀ a b, value a = value b → a = b)
    {as bs : List α} (h : Json.arr (as.map fun a => .str (value a)) =
      .arr (bs.map fun b => .str (value b))) : as = bs := by
  simpa using Json.arr_map_inj (v := id) (fun a b hSame => hValue a b (Json.str.inj hSame)) h

/-! ### Enumerations -/

def RiskProfileName.value : RiskProfileName → String
  | .paperV1 => "paper_v1"
  | .livePilotV1 => "live_pilot_v1"

def RiskDecisionStatus.value : RiskDecisionStatus → String
  | .approved => "approved"
  | .rejected => "rejected"

def BindingCap.value : BindingCap → String
  | .tradeRisk => "TRADE_RISK"
  | .openRisk => "OPEN_RISK"
  | .dailyLoss => "DAILY_LOSS"
  | .buyingPower => "BUYING_POWER"
  | .positionNotional => "POSITION_NOTIONAL"
  | .grossExposure => "GROSS_EXPOSURE"
  | .advLiquidity => "ADV_LIQUIDITY"
  | .premarketLiquidity => "PREMARKET_LIQUIDITY"

def RiskRejectionCode.value : RiskRejectionCode → String
  | .accountNotActive => "ACCOUNT_NOT_ACTIVE"
  | .accountBlocked => "ACCOUNT_BLOCKED"
  | .tradingBlocked => "TRADING_BLOCKED"
  | .tradeSuspendedByUser => "TRADE_SUSPENDED_BY_USER"
  | .accountSnapshotStale => "ACCOUNT_SNAPSHOT_STALE"
  | .invalidAccountValue => "INVALID_ACCOUNT_VALUE"
  | .pendingTransferOut => "PENDING_TRANSFER_OUT"
  | .accountStateUnreconciled => "ACCOUNT_STATE_UNRECONCILED"
  | .streamHealthFailure => "STREAM_HEALTH_FAILURE"
  | .databaseHealthFailure => "DATABASE_HEALTH_FAILURE"
  | .killSwitchActive => "KILL_SWITCH_ACTIVE"
  | .marketNotNormal => "MARKET_NOT_NORMAL"
  | .symbolHalted => "SYMBOL_HALTED"
  | .executionCutoffExceeded => "EXECUTION_CUTOFF_EXCEEDED"
  | .quoteSnapshotStale => "QUOTE_SNAPSHOT_STALE"
  | .lastTradeStale => "LAST_TRADE_STALE"
  | .invalidQuote => "INVALID_QUOTE"
  | .regularSessionNbboNotConfirmed => "REGULAR_SESSION_NBBO_NOT_CONFIRMED"
  | .spreadTooWide => "SPREAD_TOO_WIDE"
  | .entryPriceDriftTooLarge => "ENTRY_PRICE_DRIFT_TOO_LARGE"
  | .entryLimitNotMarketable => "ENTRY_LIMIT_NOT_MARKETABLE"
  | .invalidPriceGeometry => "INVALID_PRICE_GEOMETRY"
  | .premarketLowBroken => "PREMARKET_LOW_BROKEN"
  | .stopAbovePremarketLow => "STOP_ABOVE_PREMARKET_LOW"
  | .invalidLiquidityInput => "INVALID_LIQUIDITY_INPUT"
  | .softDailyLossLimit => "SOFT_DAILY_LOSS_LIMIT"
  | .hardDailyLossLimit => "HARD_DAILY_LOSS_LIMIT"
  | .sessionPnlReconciliationFailure => "SESSION_PNL_RECONCILIATION_FAILURE"
  | .maxConsecutiveLosses => "MAX_CONSECUTIVE_LOSSES"
  | .maxNewEntriesPerDay => "MAX_NEW_ENTRIES_PER_DAY"
  | .duplicateTickerDay => "DUPLICATE_TICKER_DAY"
  | .maxConcurrentPositions => "MAX_CONCURRENT_POSITIONS"
  | .noBuyingPowerCapacity => "NO_BUYING_POWER_CAPACITY"
  | .noOpenRiskCapacity => "NO_OPEN_RISK_CAPACITY"
  | .noDailyLossCapacity => "NO_DAILY_LOSS_CAPACITY"
  | .noGrossExposureCapacity => "NO_GROSS_EXPOSURE_CAPACITY"
  | .finalQuantityBelowMinimum => "FINAL_QUANTITY_BELOW_MINIMUM"
  | .invalidPolicyConfiguration => "INVALID_POLICY_CONFIGURATION"

def ReservationStatus.value : ReservationStatus → String
  | .reserved => "reserved"
  | .submitted => "submitted"
  | .partiallyFilled => "partially_filled"
  | .filled => "filled"
  | .released => "released"
  | .expired => "expired"
  | .reconciliationRequired => "reconciliation_required"

theorem RiskProfileName.value_injective {a b : RiskProfileName} (h : a.value = b.value) :
    a = b := by
  cases a <;> cases b <;> first | rfl | exact absurd h (by decide)

theorem RiskDecisionStatus.value_injective {a b : RiskDecisionStatus} (h : a.value = b.value) :
    a = b := by
  cases a <;> cases b <;> first | rfl | exact absurd h (by decide)

theorem BindingCap.value_injective {a b : BindingCap} (h : a.value = b.value) : a = b := by
  cases a <;> cases b <;> first | rfl | exact absurd h (by decide)

theorem ReservationStatus.value_injective {a b : ReservationStatus} (h : a.value = b.value) :
    a = b := by
  cases a <;> cases b <;> first | rfl | exact absurd h (by decide)

def rejectionCodes : List RiskRejectionCode :=
  [.accountNotActive, .accountBlocked, .tradingBlocked, .tradeSuspendedByUser,
    .accountSnapshotStale, .invalidAccountValue, .pendingTransferOut, .accountStateUnreconciled,
    .streamHealthFailure, .databaseHealthFailure, .killSwitchActive, .marketNotNormal,
    .symbolHalted, .executionCutoffExceeded, .quoteSnapshotStale, .lastTradeStale, .invalidQuote,
    .regularSessionNbboNotConfirmed, .spreadTooWide, .entryPriceDriftTooLarge,
    .entryLimitNotMarketable, .invalidPriceGeometry, .premarketLowBroken, .stopAbovePremarketLow,
    .invalidLiquidityInput, .softDailyLossLimit, .hardDailyLossLimit,
    .sessionPnlReconciliationFailure, .maxConsecutiveLosses, .maxNewEntriesPerDay,
    .duplicateTickerDay, .maxConcurrentPositions, .noBuyingPowerCapacity, .noOpenRiskCapacity,
    .noDailyLossCapacity, .noGrossExposureCapacity, .finalQuantityBelowMinimum,
    .invalidPolicyConfiguration]

theorem RiskRejectionCode.value_injective {a b : RiskRejectionCode} (h : a.value = b.value) :
    a = b := by
  have hMem (code : RiskRejectionCode) : code ∈ rejectionCodes := by cases code <;> decide
  have hNodup : (rejectionCodes.map RiskRejectionCode.value).Nodup := by
    simp [rejectionCodes, RiskRejectionCode.value]
  exact List.inj_on_of_nodup_map hNodup (hMem a) (hMem b) h

theorem cap_inj {a b : Option BindingCap} (h : Json.optional (fun cap => .str cap.value) a =
    .optional (fun cap => .str cap.value) b) : a = b := by
  simpa using Json.optional_inj (v := id) nofun
    (fun _ _ hSame => BindingCap.value_injective (Json.str.inj hSame)) h

/-! ### Requests -/

namespace TradeParameters

def fields : List (String × (TradeParameters Decimal → Json)) :=
  [("reference_price", fun t => double t.referencePrice),
    ("atr_value_used", fun t => double t.atrValueUsed),
    ("premarket_low_used", fun t => double t.premarketLowUsed),
    ("risk_stop_atr_multiple", fun t => double t.riskStopAtrMultiple),
    ("profit_target_atr_multiple", fun t => double t.profitTargetAtrMultiple),
    ("invalidation_note", fun _ => .str
      "Thesis is invalid if price breaks below the supplied premarket low before 9:35 AM ET.")]

theorem map_eq_of_record {a b : TradeParameters Decimal}
    (h : Json.record fields a = .record fields b) : a.mapDecimal value = b.mapDecimal value := by
  have hFields := Json.record_inj (by simp [fields]) h
  simp only [fields, List.forall_mem_cons, double_inj] at hFields
  obtain ⟨h₁, h₂, h₃, h₄, h₅, -, -⟩ := hFields
  simp only [mapDecimal, mk.injEq]
  exact ⟨h₁, h₂, h₃, h₄, h₅⟩

end TradeParameters

namespace ApprovedSetup

/-- `evidence` stands for the fields that it is the text of. -/
def fields : List (String × (ApprovedSetup Decimal → Json)) :=
  [("ticker", fun s => .str s.ticker), ("side", fun _ => .str "long"),
    ("risk_flags", fun s => .arr (s.riskFlags.map fun flag => .str flag.value)),
    ("trade_parameters", fun s => .record TradeParameters.fields s.tradeParameters),
    ("evidence", fun s => .str s.evidence)]

theorem map_eq_of_record {a b : ApprovedSetup Decimal}
    (h : Json.record fields a = .record fields b) : a.mapDecimal value = b.mapDecimal value := by
  have hFields := Json.record_inj (by simp [fields]) h
  simp only [fields, List.forall_mem_cons, Json.str.injEq] at hFields
  obtain ⟨hTicker, -, hFlags, hParameters, hEvidence, -⟩ := hFields
  simp only [mapDecimal, mk.injEq]
  exact ⟨hTicker, values_inj (fun _ _ => RiskFlag.value_injective) hFlags,
    TradeParameters.map_eq_of_record hParameters, hEvidence⟩

end ApprovedSetup

namespace RiskPolicyConfig

def fields : List (String × (RiskPolicyConfig Decimal → Json)) :=
  [("policy_version", fun _ => .str "position_risk_policy_v1"),
    ("profile_name", fun p => .str p.profileName.value), ("allow_margin", fun _ => .bool false),
    ("allow_fractional_shares", fun _ => .bool false),
    ("allow_overnight_positions", fun _ => .bool false),
    ("risk_per_trade_pct", fun p => dumped p.riskPerTradePct),
    ("max_open_risk_pct", fun p => dumped p.maxOpenRiskPct),
    ("max_position_notional_pct", fun p => dumped p.maxPositionNotionalPct),
    ("max_gross_long_exposure_pct", fun p => dumped p.maxGrossLongExposurePct),
    ("buying_power_reserve_pct", fun p => dumped p.buyingPowerReservePct),
    ("max_concurrent_positions", fun p => .int p.maxConcurrentPositions),
    ("max_new_entries_per_day", fun p => .int p.maxNewEntriesPerDay),
    ("max_entries_per_ticker_per_day", fun _ => .int 1),
    ("soft_daily_loss_pct", fun p => dumped p.softDailyLossPct),
    ("hard_daily_loss_pct", fun p => dumped p.hardDailyLossPct),
    ("max_consecutive_losses", fun p => .int p.maxConsecutiveLosses),
    ("slippage_buffer_atr_multiple", fun p => dumped p.slippageBufferAtrMultiple),
    ("slippage_buffer_spread_multiple", fun p => dumped p.slippageBufferSpreadMultiple),
    ("max_pct_adv20", fun p => dumped p.maxPctAdv20),
    ("max_pct_premarket_volume", fun p => dumped p.maxPctPremarketVolume),
    ("max_account_snapshot_age_ms", fun p => .int p.maxAccountSnapshotAgeMs),
    ("max_quote_age_ms", fun p => .int p.maxQuoteAgeMs),
    ("max_last_trade_age_ms", fun p => .int p.maxLastTradeAgeMs),
    ("max_spread_pct", fun p => dumped p.maxSpreadPct),
    ("max_spread_atr_fraction", fun p => dumped p.maxSpreadAtrFraction),
    ("max_entry_drift_pct", fun p => dumped p.maxEntryDriftPct),
    ("max_entry_drift_atr_multiple", fun p => dumped p.maxEntryDriftAtrMultiple),
    ("pnl_reconciliation_tolerance", fun p => dumped p.pnlReconciliationTolerance),
    ("minimum_quantity", fun _ => .int 1),
    ("mandatory_flatten_time_et", fun p => .int p.mandatoryFlattenTimeEt)]

theorem eq_of_record {a b : RiskPolicyConfig Decimal}
    (h : Json.record fields a = .record fields b) : a = b := by
  have hFields := Json.record_inj (by simp [fields]) h
  simp only [fields, List.forall_mem_cons, Json.str.injEq, dumped_inj, Json.int.injEq,
    Nat.cast_inj] at hFields
  obtain ⟨-, h₁, -, -, -, h₂, h₃, h₄, h₅, h₆, h₇, h₈, -, h₉, h₁₀, h₁₁, h₁₂, h₁₃, h₁₄, h₁₅, h₁₆, h₁₇,
    h₁₈, h₁₉, h₂₀, h₂₁, h₂₂, h₂₃, -, h₂₄, -⟩ := hFields
  cases a
  cases b
  simp only [mk.injEq]
  exact ⟨RiskProfileName.value_injective h₁, h₂, h₃, h₄, h₅, h₆, h₇, h₈, h₉, h₁₀, h₁₁, h₁₂, h₁₃,
    h₁₄, h₁₅, h₁₆, h₁₇, h₁₈, h₁₉, h₂₀, h₂₁, h₂₂, h₂₃, h₂₄⟩

end RiskPolicyConfig

namespace AccountSnapshot

def fields : List (String × (AccountSnapshot Decimal → Json)) :=
  [("snapshot_timestamp", fun a => instant a.snapshotTimestamp), ("status", fun a => .str a.status),
    ("account_blocked", fun a => .bool a.accountBlocked),
    ("trading_blocked", fun a => .bool a.tradingBlocked),
    ("trade_suspended_by_user", fun a => .bool a.tradeSuspendedByUser),
    ("equity", fun a => dumped a.equity), ("last_equity", fun a => dumped a.lastEquity),
    ("cash", fun a => dumped a.cash), ("buying_power", fun a => dumped a.buyingPower),
    ("non_marginable_buying_power", fun a => dumped a.nonMarginableBuyingPower),
    ("regt_buying_power", fun a => dumped a.regtBuyingPower),
    ("initial_margin", fun a => dumped a.initialMargin),
    ("maintenance_margin", fun a => dumped a.maintenanceMargin),
    ("long_market_value", fun a => dumped a.longMarketValue),
    ("multiplier", fun a => dumped a.multiplier),
    ("pending_transfer_in", fun a => dumped a.pendingTransferIn),
    ("pending_transfer_out", fun a => dumped a.pendingTransferOut)]

theorem eq_of_record {a b : AccountSnapshot Decimal}
    (h : Json.record fields a = .record fields b) : a = b := by
  have hFields := Json.record_inj (by simp [fields]) h
  simp only [fields, List.forall_mem_cons, instant_inj, Json.str.injEq, Json.bool.injEq,
    dumped_inj] at hFields
  obtain ⟨h₁, h₂, h₃, h₄, h₅, h₆, h₇, h₈, h₉, h₁₀, h₁₁, h₁₂, h₁₃, h₁₄, h₁₅, h₁₆, h₁₇, -⟩ := hFields
  cases a
  cases b
  simp only [mk.injEq]
  exact ⟨h₁, h₂, h₃, h₄, h₅, h₆, h₇, h₈, h₉, h₁₀, h₁₁, h₁₂, h₁₃, h₁₄, h₁₅, h₁₆, h₁₇⟩

end AccountSnapshot

namespace QuoteSnapshot

def fields : List (String × (QuoteSnapshot Decimal → Json)) :=
  [("quote_timestamp", fun q => instant q.quoteTimestamp),
    ("last_trade_timestamp", fun q => instant q.lastTradeTimestamp),
    ("bid_price", fun q => dumped q.bidPrice), ("ask_price", fun q => dumped q.askPrice),
    ("bid_size", fun q => .int q.bidSize), ("ask_size", fun q => .int q.askSize),
    ("last_price", fun q => dumped q.lastPrice),
    ("first_regular_session_nbbo_confirmed", fun q => .bool q.firstRegularSessionNbboConfirmed)]

theorem eq_of_record {a b : QuoteSnapshot Decimal}
    (h : Json.record fields a = .record fields b) : a = b := by
  have hFields := Json.record_inj (by simp [fields]) h
  simp only [fields, List.forall_mem_cons, instant_inj, dumped_inj, Json.int.injEq, Nat.cast_inj,
    Json.bool.injEq] at hFields
  obtain ⟨h₁, h₂, h₃, h₄, h₅, h₆, h₇, h₈, -⟩ := hFields
  cases a
  cases b
  simp only [mk.injEq]
  exact ⟨h₁, h₂, h₃, h₄, h₅, h₆, h₇, h₈⟩

end QuoteSnapshot

namespace LiquiditySnapshot

def fields : List (String × (LiquiditySnapshot → Json)) :=
  [("premarket_volume", fun l => .int l.premarketVolume),
    ("adv20_shares", fun l => .int l.adv20Shares),
    ("asset_tradable", fun l => .bool l.assetTradable),
    ("asset_fractionable", fun l => .bool l.assetFractionable),
    ("asset_marginable", fun l => .bool l.assetMarginable),
    ("asset_status", fun l => .str l.assetStatus)]

theorem eq_of_record {a b : LiquiditySnapshot}
    (h : Json.record fields a = .record fields b) : a = b := by
  have hFields := Json.record_inj (by simp [fields]) h
  simp only [fields, List.forall_mem_cons, Json.int.injEq, Nat.cast_inj, Json.bool.injEq,
    Json.str.injEq] at hFields
  obtain ⟨h₁, h₂, h₃, h₄, h₅, h₆, -⟩ := hFields
  cases a
  cases b
  simp only [mk.injEq]
  exact ⟨h₁, h₂, h₃, h₄, h₅, h₆⟩

end LiquiditySnapshot

namespace SessionRiskState

def fields : List (String × (SessionRiskState Decimal → Json)) :=
  [("session_reference_equity", fun s => dumped s.sessionReferenceEquity),
    ("session_start_equity", fun s => dumped s.sessionStartEquity),
    ("net_external_cash_flow", fun s => dumped s.netExternalCashFlow),
    ("internal_realized_pnl", fun s => dumped s.internalRealizedPnl),
    ("internal_unrealized_pnl", fun s => dumped s.internalUnrealizedPnl),
    ("current_total_open_risk", fun s => dumped s.currentTotalOpenRisk),
    ("reserved_entry_notional", fun s => dumped s.reservedEntryNotional),
    ("current_long_market_value", fun s => dumped s.currentLongMarketValue),
    ("open_daybreak_position_count", fun s => .int s.openDaybreakPositionCount),
    ("reserved_entry_position_count", fun s => .int s.reservedEntryPositionCount),
    ("completed_entry_count", fun s => .int s.completedEntryCount),
    ("consecutive_closed_losses", fun s => .int s.consecutiveClosedLosses),
    ("traded_tickers_today", fun s => .arr (s.tradedTickersToday.map .str)),
    ("account_state_reconciled", fun s => .bool s.accountStateReconciled),
    ("streams_healthy", fun s => .bool s.streamsHealthy),
    ("database_healthy", fun s => .bool s.databaseHealthy),
    ("kill_switch_active", fun s => .bool s.killSwitchActive)]

theorem eq_of_record {a b : SessionRiskState Decimal}
    (h : Json.record fields a = .record fields b) : a = b := by
  have hFields := Json.record_inj (by simp [fields]) h
  simp only [fields, List.forall_mem_cons, dumped_inj, Json.int.injEq, Nat.cast_inj,
    Json.bool.injEq] at hFields
  obtain ⟨h₁, h₂, h₃, h₄, h₅, h₆, h₇, h₈, h₉, h₁₀, h₁₁, h₁₂, h₁₃, h₁₄, h₁₅, h₁₆, h₁₇, -⟩ := hFields
  cases a
  cases b
  simp only [mk.injEq]
  exact ⟨h₁, h₂, h₃, h₄, h₅, h₆, h₇, h₈, h₉, h₁₀, h₁₁, h₁₂, texts_inj h₁₃, h₁₄, h₁₅, h₁₆, h₁₇⟩

end SessionRiskState

namespace SizingRequest

def fields : List (String × (SizingRequest Decimal → Json)) :=
  [("request_id", fun r => .str r.requestId), ("run_id", fun r => .str r.runId),
    ("trading_date", fun r => calendarDate r.tradingDate),
    ("final_rank", fun r => .int r.finalRank), ("calculated_at", fun r => instant r.calculatedAt),
    ("execution_cutoff_timestamp", fun r => instant r.executionCutoffTimestamp),
    ("setup", fun r => .record ApprovedSetup.fields r.setup),
    ("policy", fun r => .record RiskPolicyConfig.fields r.policy),
    ("account", fun r => .record AccountSnapshot.fields r.account),
    ("quote", fun r => .record QuoteSnapshot.fields r.quote),
    ("liquidity", fun r => .record LiquiditySnapshot.fields r.liquidity),
    ("session", fun r => .record SessionRiskState.fields r.session),
    ("planned_entry_limit", fun r => dumped r.plannedEntryLimit),
    ("tick_size", fun r => dumped r.tickSize),
    ("market_status_normal", fun r => .bool r.marketStatusNormal),
    ("symbol_halted", fun r => .bool r.symbolHalted),
    ("configuration_hash", fun r => .str r.configurationHash)]

/-- `_normalize(request)` -/
def json (r : SizingRequest Decimal) : Json := .record fields r

/-- The canonical JSON of a request tells its values. -/
theorem map_eq_of_json {a b : SizingRequest Decimal} (h : a.json = b.json) :
    a.mapDecimal value = b.mapDecimal value := by
  have hFields := Json.record_inj (by simp [fields]) h
  simp only [fields, List.forall_mem_cons, Json.str.injEq, calendarDate_inj, Json.int.injEq,
    Nat.cast_inj, instant_inj, dumped_inj, Json.bool.injEq] at hFields
  obtain ⟨h₁, h₂, h₃, h₄, h₅, h₆, h₇, h₈, h₉, h₁₀, h₁₁, h₁₂, h₁₃, h₁₄, h₁₅, h₁₆, h₁₇, -⟩ := hFields
  simp only [mapDecimal, mk.injEq]
  exact ⟨h₁, h₂, h₃, h₄, h₅, h₆, ApprovedSetup.map_eq_of_record h₇,
    congrArg _ (RiskPolicyConfig.eq_of_record h₈), congrArg _ (AccountSnapshot.eq_of_record h₉),
    congrArg _ (QuoteSnapshot.eq_of_record h₁₀), LiquiditySnapshot.eq_of_record h₁₁,
    congrArg _ (SessionRiskState.eq_of_record h₁₂), congrArg value h₁₃, congrArg value h₁₄, h₁₅,
    h₁₆, h₁₇⟩

end SizingRequest

/-! ### Decisions -/

namespace QuantityCaps

def fields : List (String × (QuantityCaps → Json)) :=
  [("trade_risk", fun c => .int c.tradeRisk), ("open_risk", fun c => .int c.openRisk),
    ("daily_loss", fun c => .int c.dailyLoss), ("buying_power", fun c => .int c.buyingPower),
    ("position_notional", fun c => .int c.positionNotional),
    ("gross_exposure", fun c => .int c.grossExposure),
    ("adv_liquidity", fun c => .int c.advLiquidity),
    ("premarket_liquidity", fun c => .int c.premarketLiquidity)]

theorem eq_of_record {a b : QuantityCaps}
    (h : Json.record fields a = .record fields b) : a = b := by
  have hFields := Json.record_inj (by simp [fields]) h
  simp only [fields, List.forall_mem_cons, Json.int.injEq, Nat.cast_inj] at hFields
  obtain ⟨h₁, h₂, h₃, h₄, h₅, h₆, h₇, h₈, -⟩ := hFields
  cases a
  cases b
  simp only [mk.injEq]
  exact ⟨h₁, h₂, h₃, h₄, h₅, h₆, h₇, h₈⟩

end QuantityCaps

namespace RiskReservation

def fields : List (String × (RiskReservation Decimal → Json)) :=
  [("reservation_id", fun r => .str r.reservationId), ("request_id", fun r => .str r.requestId),
    ("run_id", fun r => .str r.runId), ("trading_date", fun r => calendarDate r.tradingDate),
    ("ticker", fun r => .str r.ticker), ("client_order_id", fun r => .str r.clientOrderId),
    ("reserved_quantity", fun r => .int r.reservedQuantity),
    ("reserved_notional", fun r => written r.reservedNotional),
    ("reserved_modeled_risk", fun r => written r.reservedModeledRisk),
    ("created_at", fun r => instant r.createdAt), ("expires_at", fun r => instant r.expiresAt),
    ("status", fun r => .str r.status.value)]

theorem map_eq_of_record {a b : RiskReservation Decimal}
    (h : Json.record fields a = .record fields b) : a.mapDecimal value = b.mapDecimal value := by
  have hFields := Json.record_inj (by simp [fields]) h
  simp only [fields, List.forall_mem_cons, Json.str.injEq, calendarDate_inj, Json.int.injEq,
    Nat.cast_inj, instant_inj] at hFields
  obtain ⟨h₁, h₂, h₃, h₄, h₅, h₆, h₇, h₈, h₉, h₁₀, h₁₁, h₁₂, -⟩ := hFields
  simp only [mapDecimal, mk.injEq]
  exact ⟨h₁, h₂, h₃, h₄, h₅, h₆, h₇, value_of_written h₈, value_of_written h₉, h₁₀, h₁₁,
    ReservationStatus.value_injective h₁₂⟩

end RiskReservation

theorem caps_inj {a b : Option QuantityCaps} (h : Json.optional (.record QuantityCaps.fields) a =
    .optional (.record QuantityCaps.fields) b) : a = b := by
  simpa using Json.optional_inj (v := id) (record_ne_null _)
    (fun _ _ => QuantityCaps.eq_of_record) h

theorem reservation_inj {a b : Option (RiskReservation Decimal)}
    (h : Json.optional (.record RiskReservation.fields) a =
      .optional (.record RiskReservation.fields) b) :
    a.map (RiskReservation.mapDecimal value) = b.map (RiskReservation.mapDecimal value) :=
  Json.optional_inj (record_ne_null _) (fun _ _ => RiskReservation.map_eq_of_record) h

namespace RiskDecision

/-- Every field but `decision_hash`. -/
def bodyFields : List (String × (RiskDecision Decimal → Json)) :=
  [("decision_id", fun d => .str d.decisionId), ("request_id", fun d => .str d.requestId),
    ("run_id", fun d => .str d.runId), ("trading_date", fun d => calendarDate d.tradingDate),
    ("policy_version", fun _ => .str "position_risk_policy_v1"),
    ("profile_name", fun d => .str d.profileName.value), ("ticker", fun d => .str d.ticker),
    ("final_rank", fun d => .int d.finalRank), ("decision", fun d => .str d.decision.value),
    ("rejection_reasons", fun d => .arr (d.rejectionReasons.map fun code => .str code.value)),
    ("kill_switch_required", fun d => .bool d.killSwitchRequired),
    ("session_reference_equity", fun d => .optional written d.sessionReferenceEquity),
    ("broker_session_pnl", fun d => .optional written d.brokerSessionPnl),
    ("internal_session_pnl", fun d => .optional written d.internalSessionPnl),
    ("risk_session_pnl", fun d => .optional written d.riskSessionPnl),
    ("usable_buying_power", fun d => .optional written d.usableBuyingPower),
    ("base_trade_risk_budget", fun d => .optional written d.baseTradeRiskBudget),
    ("risk_flag_multiplier", fun d => .optional written d.riskFlagMultiplier),
    ("adjusted_trade_risk_budget", fun d => .optional written d.adjustedTradeRiskBudget),
    ("planned_entry_limit", fun d => .optional written d.plannedEntryLimit),
    ("stop_price", fun d => .optional written d.stopPrice),
    ("target_price", fun d => .optional written d.targetPrice),
    ("structural_risk_per_share", fun d => .optional written d.structuralRiskPerShare),
    ("execution_risk_buffer", fun d => .optional written d.executionRiskBuffer),
    ("modeled_risk_per_share", fun d => .optional written d.modeledRiskPerShare),
    ("maximum_total_open_risk", fun d => .optional written d.maximumTotalOpenRisk),
    ("remaining_open_risk_capacity", fun d => .optional written d.remainingOpenRiskCapacity),
    ("remaining_hard_loss_capacity", fun d => .optional written d.remainingHardLossCapacity),
    ("maximum_position_notional", fun d => .optional written d.maximumPositionNotional),
    ("remaining_gross_exposure", fun d => .optional written d.remainingGrossExposure),
    ("quantity_caps", fun d => .optional (.record QuantityCaps.fields) d.quantityCaps),
    ("binding_cap", fun d => .optional (fun cap => .str cap.value) d.bindingCap),
    ("final_quantity", fun d => .int d.finalQuantity),
    ("reserved_modeled_risk", fun d => .optional written d.reservedModeledRisk),
    ("reserved_notional", fun d => .optional written d.reservedNotional),
    ("reservation", fun d => .optional (.record RiskReservation.fields) d.reservation),
    ("calculated_at", fun d => instant d.calculatedAt),
    ("account_snapshot_timestamp", fun d => instant d.accountSnapshotTimestamp),
    ("quote_timestamp", fun d => instant d.quoteTimestamp),
    ("configuration_hash", fun d => .str d.configurationHash),
    ("input_hash", fun d => .str d.inputHash)]

/-- The body that the hash of a decision covers. -/
def body (d : RiskDecision Decimal) : Json := .record bodyFields d

/-- The body of a decision tells its values, but for its hash. -/
theorem map_eq_of_body {a b : RiskDecision Decimal} (hHash : a.decisionHash = b.decisionHash)
    (h : a.body = b.body) : a.mapDecimal value = b.mapDecimal value := by
  have hFields := Json.record_inj (by simp [bodyFields]) h
  simp only [bodyFields, List.forall_mem_cons, Json.str.injEq, calendarDate_inj, Json.int.injEq,
    Nat.cast_inj, Json.bool.injEq, instant_inj] at hFields
  obtain ⟨h₁, h₂, h₃, h₄, -, h₅, h₆, h₇, h₈, h₉, h₁₀, h₁₁, h₁₂, h₁₃, h₁₄, h₁₅, h₁₆, h₁₇, h₁₈, h₁₉,
    h₂₀, h₂₁, h₂₂, h₂₃, h₂₄, h₂₅, h₂₆, h₂₇, h₂₈, h₂₉, h₃₀, h₃₁, h₃₂, h₃₃, h₃₄, h₃₅, h₃₆, h₃₇, h₃₈,
    h₃₉, h₄₀, -⟩ := hFields
  simp only [mapDecimal, mk.injEq]
  exact ⟨h₁, h₂, h₃, h₄, RiskProfileName.value_injective h₅, h₆, h₇,
    RiskDecisionStatus.value_injective h₈,
    values_inj (fun _ _ => RiskRejectionCode.value_injective) h₉, h₁₀, amount_inj h₁₁,
    amount_inj h₁₂, amount_inj h₁₃, amount_inj h₁₄, amount_inj h₁₅, amount_inj h₁₆, amount_inj h₁₇,
    amount_inj h₁₈, amount_inj h₁₉, amount_inj h₂₀, amount_inj h₂₁, amount_inj h₂₂, amount_inj h₂₃,
    amount_inj h₂₄, amount_inj h₂₅, amount_inj h₂₆, amount_inj h₂₇, amount_inj h₂₈, amount_inj h₂₉,
    caps_inj h₃₀, cap_inj h₃₁, h₃₂, amount_inj h₃₃, amount_inj h₃₄, reservation_inj h₃₅, h₃₆, h₃₇,
    h₃₈, h₃₉, h₄₀, hHash⟩

end RiskDecision

end Risk

end Daybreak
