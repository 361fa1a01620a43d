import Daybreak.Features.Models
import Daybreak.Order.Sorting
import Mathlib.Data.Prod.Lex
import Mathlib.Data.String.Basic

/-! Materialization of a trade ledger: corrections and cancellations are applied in
the order of their sequence numbers, and the trades left over are sorted by time. -/

namespace Daybreak.Features

open Effect Daybreak.Order Numeric

variable {D : Type} [DecimalArithmetic D]

/-- The active trades by their ids, and for every id the one that replaced it. -/
structure LedgerState (D : Type) [DecimalArithmetic D] where
  active : Dict String (MaterializedTrade D)
  aliases : Dict String String

namespace LedgerState

def empty : LedgerState D := ⟨∅, ∅⟩

/-- An event of a trade, with its price and its size asserted. -/
def activate (s : LedgerState D) (event : TradeLedgerEvent D) : FeatureResult (LedgerState D) :=
  match event.price, event.size with
  | some price, some size =>
    let trade : MaterializedTrade D :=
      { tradeId := event.tradeId
        eventTimestamp := event.eventTimestamp
        price := price
        size := size
        ingestSeq := event.ingestSeq }
    .ok { s with active := s.active.insert event.tradeId trade }
  | _, _ => .error (.raised .assertionError)

def applyNew (s : LedgerState D) (event : TradeLedgerEvent D) : FeatureResult (LedgerState D) :=
  if event.tradeId ∈ s.active ∨ event.tradeId ∈ s.aliases then
    .error (.dataQuality .duplicateTradeId s!"duplicate trade id {event.tradeId}")
  else
    let named : LedgerState D := { s with aliases := s.aliases.insert event.tradeId event.tradeId }
    if event.eligible then named.activate event else .ok named

def applyRevision (s : LedgerState D) (event : TradeLedgerEvent D) (original : String) :
    FeatureResult (LedgerState D) :=
  let root := (s.aliases.lookup original).getD original
  match s.active.lookup root with
  | none => .error (.dataQuality .unknownOriginalTrade
      s!"{event.action.value} references unknown active trade {original}")
  | some _ =>
    let replaced : LedgerState D :=
      { active := s.active.erase root
        aliases := (s.aliases.insert event.tradeId event.tradeId).insert original event.tradeId }
    if event.action = .cancel ∨ event.eligible = false then .ok replaced
    else replaced.activate event

/-- One round of the loop. -/
def apply (s : LedgerState D) (event : TradeLedgerEvent D) : FeatureResult (LedgerState D) :=
  match event.action, event.originalTradeId with
  | .new, _ => s.applyNew event
  | _, some original => s.applyRevision event original
  | _, none => .error (.raised .assertionError)

/-- `active.values()` -/
def trades (s : LedgerState D) : List (MaterializedTrade D) := s.active.entries.map (·.2)

end LedgerState

/-- `(item.event_timestamp, item.ingest_seq, item.trade_id)` -/
def MaterializedTrade.timeKey (trade : MaterializedTrade D) : ℤ ×ₗ ℕ ×ₗ String :=
  toLex (trade.eventTimestamp, toLex ((trade.ingestSeq : ℕ), trade.tradeId))

def materializeTrades (events : List (TradeLedgerEvent D)) :
    FeatureResult (List (MaterializedTrade D)) := do
  let ordered := sortedBy (fun event => (event.ingestSeq : ℕ)) events
  if ¬ (ordered.map (·.ingestSeq)).Nodup then
    throw (.dataQuality .duplicateIngestSequence "trade events contain duplicate ingest_seq")
  let s ← ordered.foldlM LedgerState.apply .empty
  return sortedBy MaterializedTrade.timeKey s.trades

end Daybreak.Features
