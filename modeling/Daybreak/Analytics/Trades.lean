import Daybreak.Analytics.Models
import Daybreak.Contracts.OutputModels
import Daybreak.Risk.Canonical
import Mathlib.Data.Prod.Lex

/-! The evidence of a session: what happened in it, and its completed trades in the order of their
entries. -/

namespace Daybreak

/-- The fields as one number, which is less for an earlier date. -/
def Serial.CalendarDate.rank (d : Serial.CalendarDate) : ℕ := (d.year * 100 + d.month) * 100 + d.day

namespace Analytics

open Contracts Numeric Serial

/-! ### Trades -/

/-- The source types that a trade can have. -/
inductive TradeSource where
  | primary | secondary
  deriving DecidableEq, Repr

def TradeSource.value : TradeSource → String
  | .primary => "primary"
  | .secondary => "secondary"

/-- The chart structures that a trade can have. -/
inductive TradeStructure where
  | blueSky | cleanShortTerm | moderateRoom
  deriving DecidableEq, Repr

def TradeStructure.value : TradeStructure → String
  | .blueSky => "blue_sky"
  | .cleanShortTerm => "clean_short_term"
  | .moderateRoom => "moderate_room"

inductive ExitReason where
  | target | stop | timeExit | killSwitch | manualSafety | brokerReconciliation
  deriving DecidableEq, Repr

def ExitReason.value : ExitReason → String
  | .target => "target"
  | .stop => "stop"
  | .timeExit => "time_exit"
  | .killSwitch => "kill_switch"
  | .manualSafety => "manual_safety"
  | .brokerReconciliation => "broker_reconciliation"

structure TradeFields where
  tradeId : String
  sessionId : String
  ticker : String
  finalRank : ℕ
  quantity : ℕ
  entryTimestamp : UtcDatetime
  exitTimestamp : UtcDatetime
  plannedEntryPrice : Decimal
  averageEntryPrice : Decimal
  plannedStopPrice : Decimal
  plannedTargetPrice : Decimal
  averageExitPrice : Decimal
  fees : Decimal := .literal 0 0
  sourceType : TradeSource
  chartStructure : TradeStructure
  riskFlags : List RiskFlag := []
  exitReason : ExitReason
  deriving DecidableEq, Repr

namespace TradeFields

/-- Field bounds, then `risk_flags_canonical`, then `coherent`. -/
def Valid (t : TradeFields) : Prop :=
  (IsId 64 t.tradeId ∧ IsId 64 t.sessionId ∧ isCanonicalTicker t.ticker = true ∧
    (1 ≤ t.finalRank ∧ t.finalRank ≤ 3) ∧ 0 < t.quantity ∧ 0 < t.plannedEntryPrice.toRat ∧
    0 < t.averageEntryPrice.toRat ∧ 0 < t.plannedStopPrice.toRat ∧
    0 < t.plannedTargetPrice.toRat ∧ 0 < t.averageExitPrice.toRat ∧ 0 ≤ t.fees.toRat) ∧
  ValidRiskFlags t.riskFlags ∧
  (t.entryTimestamp.rank ≤ t.exitTimestamp.rank ∧
    t.plannedStopPrice.toRat < t.plannedEntryPrice.toRat ∧
    t.plannedEntryPrice.toRat < t.plannedTargetPrice.toRat)

instance decidableValid (t : TradeFields) : Decidable t.Valid := inferInstanceAs (Decidable (_ ∧ _))

def fields : List (String × (TradeFields → Json)) :=
  [("trade_id", fun t => .str t.tradeId), ("session_id", fun t => .str t.sessionId),
    ("ticker", fun t => .str t.ticker), ("final_rank", fun t => natural t.finalRank),
    ("quantity", fun t => natural t.quantity),
    ("entry_timestamp", fun t => timestamp t.entryTimestamp),
    ("exit_timestamp", fun t => timestamp t.exitTimestamp),
    ("planned_entry_price", fun t => decimal t.plannedEntryPrice),
    ("average_entry_price", fun t => decimal t.averageEntryPrice),
    ("planned_stop_price", fun t => decimal t.plannedStopPrice),
    ("planned_target_price", fun t => decimal t.plannedTargetPrice),
    ("average_exit_price", fun t => decimal t.averageExitPrice),
    ("fees", fun t => decimal t.fees), ("source_type", fun t => .str t.sourceType.value),
    ("chart_structure", fun t => .str t.chartStructure.value),
    ("risk_flags", fun t => texts (t.riskFlags.map RiskFlag.value)),
    ("exit_reason", fun t => .str t.exitReason.value)]

end TradeFields

structure TradeOutcome extends TradeFields where
  valid : toTradeFields.Valid

namespace TradeOutcome

/-- `(item.entry_timestamp, item.trade_id)` -/
def key (t : TradeOutcome) : ℕ ×ₗ String := toLex (t.entryTimestamp.rank, t.tradeId)

def json (t : TradeOutcome) : Json := .record TradeFields.fields t.toTradeFields

end TradeOutcome

/-! ### Sessions -/

structure SessionFields where
  sessionId : String
  tradingDate : CalendarDate
  generatedAt : UtcDatetime
  configurationHash : Hash
  fullSessionRecorded : Bool
  rawEventCount : ℕ
  evaluatorRunCount : ℕ
  approvedSetupCount : ℕ
  qualifiedNotSelectedCount : ℕ
  excludedTickerCount : ℕ
  ordersSubmitted : ℕ
  ordersFilled : ℕ
  invariantViolations : ℕ
  unresolvedReconciliations : ℕ
  duplicateOrderCount : ℕ
  latePrimaryResponseCount : ℕ
  allPositionsFlat : Bool
  killSwitchActivationCount : ℕ
  trades : List TradeOutcome := []

namespace SessionFields

/-- Field bounds, then `coherent`. -/
def Valid (s : SessionFields) : Prop :=
  (IsId 64 s.sessionId ∧ s.approvedSetupCount ≤ 3) ∧
  (∀ trade ∈ s.trades, trade.sessionId = s.sessionId) ∧ (s.trades.map (·.tradeId)).Nodup ∧
    (s.trades.map (·.key)).Pairwise (· ≤ ·) ∧ s.ordersFilled = s.trades.length ∧
    s.ordersFilled ≤ s.ordersSubmitted

instance decidableValid (s : SessionFields) : Decidable s.Valid := inferInstanceAs (Decidable (_ ∧ _))

def fields : List (String × (SessionFields → Json)) :=
  [("session_id", fun s => .str s.sessionId),
    ("trading_date", fun s => .str s.tradingDate.isoformat),
    ("generated_at", fun s => timestamp s.generatedAt),
    ("configuration_hash", fun s => hash s.configurationHash),
    ("full_session_recorded", fun s => .bool s.fullSessionRecorded),
    ("raw_event_count", fun s => natural s.rawEventCount),
    ("evaluator_run_count", fun s => natural s.evaluatorRunCount),
    ("approved_setup_count", fun s => natural s.approvedSetupCount),
    ("qualified_not_selected_count", fun s => natural s.qualifiedNotSelectedCount),
    ("excluded_ticker_count", fun s => natural s.excludedTickerCount),
    ("orders_submitted", fun s => natural s.ordersSubmitted),
    ("orders_filled", fun s => natural s.ordersFilled),
    ("invariant_violations", fun s => natural s.invariantViolations),
    ("unresolved_reconciliations", fun s => natural s.unresolvedReconciliations),
    ("duplicate_order_count", fun s => natural s.duplicateOrderCount),
    ("late_primary_response_count", fun s => natural s.latePrimaryResponseCount),
    ("all_positions_flat", fun s => .bool s.allPositionsFlat),
    ("kill_switch_activation_count", fun s => natural s.killSwitchActivationCount),
    ("trades", fun s => .arr (s.trades.map (·.json)))]

end SessionFields

structure SessionEvidence extends SessionFields where
  valid : toSessionFields.Valid

namespace SessionEvidence

/-- `(item.trading_date, item.session_id)` -/
def key (s : SessionEvidence) : ℕ ×ₗ String := toLex (s.tradingDate.rank, s.sessionId)

def json (s : SessionEvidence) : Json := .record SessionFields.fields s.toSessionFields

end SessionEvidence

end Analytics

end Daybreak
