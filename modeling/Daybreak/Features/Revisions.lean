import Daybreak.Effect.Fallible
import Daybreak.Features.Ledger

/-! What one event does to a trade ledger, and what becomes of the trades that no event
names. A correction or a cancellation takes away the trade that its name resolves to; a
correction that takes effect writes its own id, whatever is stored under it. -/

namespace Daybreak.Features

open Effect Fallible Daybreak.Order Numeric

variable {D : Type} [DecimalArithmetic D] {s s' : LedgerState D} {event : TradeLedgerEvent D}
  {events : List (TradeLedgerEvent D)} {named id : String} {trade : MaterializedTrade D}

/-! ### Events -/

/-- The trade of an event that has a price and a size. -/
def TradeLedgerEvent.trade? (event : TradeLedgerEvent D) : Option (MaterializedTrade D) :=
  match event.price, event.size with
  | some price, some size => some {
      tradeId := event.tradeId
      eventTimestamp := event.eventTimestamp
      price := price
      size := size
      ingestSeq := event.ingestSeq }
  | _, _ => none

/-- The event is to leave a trade behind. -/
def EventFields.Books (event : EventFields D) : Prop := event.action ≠ .cancel ∧ event.eligible = true

instance (event : EventFields D) : Decidable event.Books := inferInstanceAs (Decidable (_ ∧ _))

/-- The trade that the event leaves behind. -/
def TradeLedgerEvent.booked (event : TradeLedgerEvent D) : Option (MaterializedTrade D) :=
  if event.Books then event.trade? else none

theorem TradeLedgerEvent.trade?_id (h : event.trade? = some trade) :
    trade.tradeId = event.tradeId ∧ trade.ingestSeq = event.ingestSeq := by
  unfold TradeLedgerEvent.trade? at h
  split at h
  · obtain rfl := Option.some.inj h
    exact ⟨rfl, rfl⟩
  · cases h

theorem TradeLedgerEvent.booked_eq_some :
    event.booked = some trade ↔ event.Books ∧ event.trade? = some trade := by
  unfold TradeLedgerEvent.booked
  split_ifs with h <;> simp [h]

theorem TradeLedgerEvent.booked_id (h : event.booked = some trade) :
    trade.tradeId = event.tradeId ∧ trade.ingestSeq = event.ingestSeq :=
  trade?_id (booked_eq_some.mp h).2

/-- What is to leave a trade behind has its price and its size. -/
theorem TradeLedgerEvent.trade?_of_books (h : event.Books) : ∃ trade, event.trade? = some trade := by
  have hValid := event.valid.2
  have hBoth : event.price.isSome ∧ event.size.isSome := by
    cases hAction : event.action with
    | new =>
      rw [hAction] at hValid
      exact ⟨hValid.1, hValid.2.1⟩
    | correction =>
      rw [hAction] at hValid
      exact hValid.2
    | cancel => exact absurd hAction h.1
  obtain ⟨price, hPrice⟩ := Option.isSome_iff_exists.mp hBoth.1
  obtain ⟨size, hSize⟩ := Option.isSome_iff_exists.mp hBoth.2
  unfold TradeLedgerEvent.trade?
  rw [hPrice, hSize]
  exact ⟨_, rfl⟩

theorem TradeLedgerEvent.booked_isSome : event.booked.isSome ↔ event.Books := by
  rw [Option.isSome_iff_exists]
  constructor
  · rintro ⟨_, h⟩
    exact (booked_eq_some.mp h).1
  · intro h
    obtain ⟨trade, hTrade⟩ := trade?_of_books h
    exact ⟨trade, booked_eq_some.mpr ⟨h, hTrade⟩⟩

/-- A correction or a cancellation names a trade, a new trade does not. -/
theorem TradeLedgerEvent.named_iff :
    (∃ named, event.originalTradeId = some named) ↔ event.action ≠ .new := by
  have hValid := event.valid.2
  cases hAction : event.action with
  | new =>
    rw [hAction] at hValid
    simp [hValid.2.2]
  | correction =>
    rw [hAction] at hValid
    simp [← Option.isSome_iff_exists, hValid.1]
  | cancel =>
    rw [hAction] at hValid
    simp [← Option.isSome_iff_exists, hValid]

theorem TradeLedgerEvent.unnamed_iff : event.originalTradeId = none ↔ event.action = .new := by
  rw [← not_iff_not, ← ne_eq, ← ne_eq, ← named_iff, Option.ne_none_iff_exists']

/-! ### One event -/

namespace LedgerState

/-- The id that a name stands for. -/
def root (s : LedgerState D) (named : String) : String := (s.aliases.lookup named).getD named

def book (s : LedgerState D) (event : TradeLedgerEvent D) : LedgerState D :=
  match event.booked with
  | some trade => { s with active := s.active.insert event.tradeId trade }
  | none => s

@[simp] theorem aliases_book : (s.book event).aliases = s.aliases := by
  unfold book
  split <;> rfl

theorem lookup_book : (s.book event).active.lookup id =
    if id = event.tradeId ∧ event.Books then event.booked else s.active.lookup id := by
  unfold book
  cases hBooked : event.booked with
  | none =>
    have hNot : ¬ event.Books := by
      rw [← TradeLedgerEvent.booked_isSome, hBooked]
      exact Bool.false_ne_true
    rw [if_neg fun h => hNot h.2]
  | some trade =>
    have hBooks := (TradeLedgerEvent.booked_eq_some.mp hBooked).1
    simp [Dict.lookup_insert_eq, hBooks]

theorem activate_eq (h : event.Books) : s.activate event = .ok (s.book event) := by
  obtain ⟨trade, hTrade⟩ := TradeLedgerEvent.trade?_of_books h
  have hBooked := TradeLedgerEvent.booked_eq_some.mpr ⟨h, hTrade⟩
  unfold TradeLedgerEvent.trade? at hTrade
  split at hTrade
  · next price size hPrice hSize =>
    obtain rfl := Option.some.inj hTrade
    rw [activate, book, hPrice, hSize, hBooked]
  · cases hTrade

theorem book_eq_self (h : ¬ event.Books) : s.book event = s := by
  have hNone : event.booked = none := if_neg h
  unfold book
  rw [hNone]

def afterNew (s : LedgerState D) (event : TradeLedgerEvent D) : LedgerState D :=
  { s with aliases := s.aliases.insert event.tradeId event.tradeId : LedgerState D }.book event

def afterRevision (s : LedgerState D) (event : TradeLedgerEvent D) (named : String) :
    LedgerState D :=
  { active := s.active.erase (s.root named)
    aliases := (s.aliases.insert event.tradeId event.tradeId).insert named event.tradeId :
    LedgerState D }.book event

theorem apply_new (h : event.action = .new) : s.apply event = .ok s' ↔
    (event.tradeId ∉ s.active ∧ event.tradeId ∉ s.aliases) ∧ s' = s.afterNew event := by
  simp only [apply, h, applyNew, ← not_or]
  by_cases hTaken : event.tradeId ∈ s.active ∨ event.tradeId ∈ s.aliases
  · simp [hTaken]
  · rw [if_neg hTaken]
    by_cases hEligible : event.eligible = true
    · rw [if_pos hEligible, activate_eq ⟨by simp [h], hEligible⟩]
      simp [hTaken, afterNew, eq_comm]
    · rw [if_neg hEligible, afterNew, book_eq_self fun hBooks => hEligible hBooks.2]
      simp [hTaken, eq_comm]

theorem apply_revision (h : event.originalTradeId = some named) : s.apply event = .ok s' ↔
    s.root named ∈ s.active ∧ s' = s.afterRevision event named := by
  have hAction : event.action ≠ .new := TradeLedgerEvent.named_iff.mp ⟨named, h⟩
  have hApply : s.apply event = s.applyRevision event named := by
    unfold apply
    rw [h]
    cases hKind : event.action with
    | new => exact absurd hKind hAction
    | correction => rfl
    | cancel => rfl
  rw [hApply, applyRevision, show (s.aliases.lookup named).getD named = s.root named from rfl]
  cases hPrevious : s.active.lookup (s.root named) with
  | none =>
    have hInactive := AList.lookup_eq_none.mp hPrevious
    simp [hInactive]
  | some previous =>
    have hActive : s.root named ∈ s.active :=
      AList.lookup_isSome.mp (Option.isSome_iff_exists.mpr ⟨previous, hPrevious⟩)
    by_cases hBooks : event.Books
    · rw [if_neg (by simpa [EventFields.Books] using hBooks), activate_eq hBooks]
      simp [hActive, afterRevision, eq_comm]
    · rw [if_pos (by simpa [EventFields.Books, or_iff_not_imp_left] using hBooks), afterRevision,
        book_eq_self hBooks]
      simp [hActive, eq_comm]

theorem mem_trades : trade ∈ s.trades ↔ ∃ id, s.active.lookup id = some trade := by
  simp only [trades, List.mem_map, Sigma.exists, AList.lookup, ← Option.mem_def,
    List.mem_dlookup_iff s.active.nodupKeys]
  exact ⟨fun ⟨id, _, hMem, hSame⟩ => ⟨id, hSame ▸ hMem⟩, fun ⟨id, hMem⟩ => ⟨id, _, hMem, rfl⟩⟩

end LedgerState

/-! ### A whole ledger -/

/-- The events in the order in which they are applied. -/
def inSequence (events : List (TradeLedgerEvent D)) : List (TradeLedgerEvent D) :=
  sortedBy (fun event => (event.ingestSeq : ℕ)) events

@[simp] theorem mem_inSequence : event ∈ inSequence events ↔ event ∈ events := mem_sortedBy

theorem inSequence_perm (events : List (TradeLedgerEvent D)) : (inSequence events).Perm events :=
  sortedBy_perm _ _

theorem materializeTrades_eq_ok {trades : List (MaterializedTrade D)} :
    materializeTrades events = .ok trades ↔ (events.map (·.ingestSeq)).Nodup ∧
      ∃ s, (inSequence events).foldlM LedgerState.apply .empty = .ok s ∧
        trades = sortedBy MaterializedTrade.timeKey s.trades := by
  unfold materializeTrades
  refine guard_eq_ok.trans (and_congr (not_not.trans ?_) ?_)
  · exact ((inSequence_perm events).map _).nodup_iff
  · rw [bind_eq_ok]
    refine exists_congr fun s => and_congr_right fun _ => ?_
    exact ⟨fun h => (Except.ok.inj h).symm, fun h => congrArg Except.ok h.symm⟩

/-! ### Sample events -/

def tenDollars : PositiveDecimal Decimal := ⟨.ofInt 10, by decide +kernel⟩

/-- A new trade, or a correction of the trade that it names. -/
def ledgerEvent (seq : ℕ) (id : String) (named : Option String)
    (h : ValidTradeId id ∧ ∀ original ∈ named, ValidTradeId original) : TradeLedgerEvent Decimal where
  ingestSeq := seq.toPNat'
  tradeId := id
  action := if named.isNone then .new else .correction
  eventTimestamp := seq
  price := some tenDollars
  size := some seq.toPNat'
  originalTradeId := named
  valid := ⟨h, by cases named <;> simp⟩

theorem ledgerIds_a : ValidTradeId "a" ∧ ∀ original ∈ (none : Option String), ValidTradeId original := by
  decide

theorem ledgerIds_b : ValidTradeId "b" ∧ ∀ original ∈ some "a", ValidTradeId original := by
  decide

end Daybreak.Features
