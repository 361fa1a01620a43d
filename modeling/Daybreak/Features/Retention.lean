import Daybreak.Features.Revisions
import Mathlib.Algebra.BigOperators.Group.List.Basic

/-! What a ledger that is materialized conserves. Only a new trade is checked for a
duplicate id: a correction may write over the trade of another id, and a name may come
to stand for a trade that it never named. -/

namespace Daybreak.Features

open Effect Fallible Daybreak.Order Numeric

variable {D : Type} [DecimalArithmetic D]

/-- A later event names the trade of an earlier one, directly or through its corrections. -/
inductive Touches (events : List (TradeLedgerEvent D)) :
    TradeLedgerEvent D → TradeLedgerEvent D → Prop
  | direct {trade later} : later ∈ events → trade.ingestSeq < later.ingestSeq →
      later.originalTradeId = some trade.tradeId → Touches events trade later
  | through {trade revision later} : Touches events trade revision → revision.action = .correction →
      later ∈ events → revision.ingestSeq < later.ingestSeq →
      later.originalTradeId = some revision.tradeId → Touches events trade later

/-- An eligible new trade that no later event names. -/
structure Untouched (events : List (TradeLedgerEvent D)) (event : TradeLedgerEvent D) : Prop where
  new : event.action = .new
  eligible : event.eligible = true
  unnamed : ∀ later, ¬ Touches events event later

/-- An eligible new trade is one trade more, a cancellation or an ineligible correction one
trade less. -/
def EventFields.balance (event : EventFields D) : ℤ :=
  match event.action with
  | .new => if event.eligible then 1 else 0
  | .correction => if event.eligible then 0 else -1
  | .cancel => -1

/-- Nothing is lost, and the order of the list does not matter. -/
structure Retained (events : List (TradeLedgerEvent D)) (trades : List (MaterializedTrade D)) :
    Prop where
  order : ∀ other : List (TradeLedgerEvent D), other.Perm events → materializeTrades other = .ok trades
  untouched : ∀ event ∈ events, Untouched events event → ∃ trade ∈ trades, event.trade? = some trade
  count : (trades.length : ℤ) = (events.map (·.balance)).sum

/-- A correction writes its trade over another active one. -/
def Overwrites (s : LedgerState D) (event : TradeLedgerEvent D) : Prop :=
  ∃ named, event.originalTradeId = some named ∧ event.Books ∧ event.tradeId ∈ s.active ∧
    event.tradeId ≠ s.root named

/-- A name stands for a new trade that no event names. -/
def Misdirected (events before : List (TradeLedgerEvent D)) (s : LedgerState D)
    (event : TradeLedgerEvent D) : Prop :=
  ∃ named, event.originalTradeId = some named ∧
    ∃ trade ∈ before, Untouched events trade ∧ s.root named = trade.tradeId

/-- No event overwrites a trade or takes away one that no event names. -/
def SparesOthers (events : List (TradeLedgerEvent D)) : Prop :=
  ∀ before event after s, inSequence events = before ++ event :: after →
    before.foldlM LedgerState.apply .empty = .ok s →
    ¬ Overwrites s event ∧ ¬ Misdirected events before s event

variable {s s' t : LedgerState D} {event trade : TradeLedgerEvent D} {id : String}
  {events before after : List (TradeLedgerEvent D)} {trades : List (MaterializedTrade D)}
  {stored : MaterializedTrade D}

/-! ### The number of trades -/

namespace LedgerState

def size (s : LedgerState D) : ℕ := s.active.keys.length

theorem length_trades (s : LedgerState D) : s.trades.length = s.size := by
  simp [trades, size, AList.keys, List.keys]

theorem size_book_of_mem (h : event.tradeId ∈ s.active) : (s.book event).size = s.size := by
  unfold book
  cases event.booked with
  | none => rfl
  | some trade =>
    have hPos := List.length_pos_of_mem (AList.mem_keys.mp h)
    simp only [size, AList.keys_insert, List.length_cons, List.length_erase_of_mem (AList.mem_keys.mp h)]
    omega

theorem size_book_of_not_mem (hBooks : event.Books) (h : event.tradeId ∉ s.active) :
    (s.book event).size = s.size + 1 := by
  obtain ⟨trade, hTrade⟩ := Option.isSome_iff_exists.mp (TradeLedgerEvent.booked_isSome.mpr hBooks)
  unfold book
  rw [hTrade]
  simp [size, AList.keys_insert, List.erase_of_not_mem (mt AList.mem_keys.mpr h)]

theorem size_erase (h : id ∈ s.active) (aliases : Dict String String) :
    size { active := s.active.erase id, aliases := aliases : LedgerState D } + 1 = s.size := by
  have hPos := List.length_pos_of_mem (AList.mem_keys.mp h)
  simp only [size, AList.keys_erase, List.length_erase_of_mem (AList.mem_keys.mp h)]
  omega

/-- An event counts for its balance, and for one trade less where it overwrites another. -/
theorem size_apply (h : s.apply event = .ok s') : (s'.size : ℤ) ≤ s.size + event.balance ∧
    ((s'.size : ℤ) = s.size + event.balance ↔ ¬ Overwrites s event) := by
  cases hNamed : event.originalTradeId with
  | none =>
    have hNew : event.action = .new := TradeLedgerEvent.unnamed_iff.mp hNamed
    obtain ⟨⟨hActive, -⟩, rfl⟩ := (apply_new hNew).mp h
    have hNone : ¬ Overwrites s event := by simp [Overwrites, hNamed]
    by_cases hEligible : event.eligible = true
    · have hSize : (s.afterNew event).size = s.size + 1 :=
        size_book_of_not_mem ⟨by simp [hNew], hEligible⟩ hActive
      simp [hSize, EventFields.balance, hNew, hEligible, hNone]
    · have hSize : (s.afterNew event).size = s.size := by
        rw [afterNew, book_eq_self fun hBooks => hEligible hBooks.2]
        rfl
      simp [hSize, EventFields.balance, hNew, hEligible, hNone]
  | some named =>
    have hAction : event.action ≠ .new := TradeLedgerEvent.named_iff.mp ⟨named, hNamed⟩
    obtain ⟨hActive, rfl⟩ := (apply_revision hNamed).mp h
    have hErase := size_erase hActive ((s.aliases.insert event.tradeId event.tradeId).insert named
      event.tradeId)
    by_cases hBooks : event.Books
    · have hBalance : event.balance = 0 := by
        cases hKind : event.action with
        | new => exact absurd hKind hAction
        | correction => simp [EventFields.balance, hKind, hBooks.2]
        | cancel => exact absurd hKind hBooks.1
      by_cases hTaken : event.tradeId ∈ s.active.erase (s.root named)
      · have hSize : (s.afterRevision event named).size + 1 = s.size := by
          rw [afterRevision, size_book_of_mem hTaken]
          exact hErase
        have hOverwrites : Overwrites s event :=
          ⟨named, hNamed, hBooks, (AList.mem_erase.mp hTaken).2, (AList.mem_erase.mp hTaken).1⟩
        refine ⟨by omega, iff_of_false (by omega) (not_not.mpr hOverwrites)⟩
      · have hSize : (s.afterRevision event named).size = s.size := by
          rw [afterRevision, size_book_of_not_mem hBooks hTaken]
          exact hErase
        refine ⟨by omega, iff_of_true (by omega) ?_⟩
        rintro ⟨named', hNamed', -, hMem, hOther⟩
        obtain rfl : named = named' := Option.some.inj (hNamed.symm.trans hNamed')
        exact hTaken (AList.mem_erase.mpr ⟨hOther, hMem⟩)
    · have hBalance : event.balance = -1 := by
        cases hKind : event.action with
        | new => exact absurd hKind hAction
        | correction =>
          have hEligible : event.eligible ≠ true := fun h => hBooks ⟨by simp [hKind], h⟩
          simp [EventFields.balance, hKind, hEligible]
        | cancel => simp [EventFields.balance, hKind]
      have hSize : (s.afterRevision event named).size + 1 = s.size := by
        rw [afterRevision, book_eq_self hBooks]
        exact hErase
      refine ⟨by omega, iff_of_true (by omega) ?_⟩
      rintro ⟨-, -, hTwo, -⟩
      exact hBooks hTwo

end LedgerState

theorem size_foldlM_le (h : events.foldlM LedgerState.apply s = .ok s') :
    (s'.size : ℤ) ≤ s.size + (events.map (·.balance)).sum := by
  induction events generalizing s with
  | nil =>
    obtain rfl := Except.ok.inj h
    simp
  | cons event events ih =>
    obtain ⟨middle, hApply, hRest⟩ := foldlM_cons_eq_ok.mp h
    have hFirst := (LedgerState.size_apply hApply).1
    have hLater := ih hRest
    rw [List.map_cons, List.sum_cons]
    omega

/-- The balance is exact where no event overwrites a trade. -/
theorem size_foldlM_iff (h : events.foldlM LedgerState.apply .empty = .ok s') :
    (s'.size : ℤ) = (events.map (·.balance)).sum ↔
      ∀ before event after s, events = before ++ event :: after →
        before.foldlM LedgerState.apply .empty = .ok s → ¬ Overwrites s event := by
  have hEmpty : (LedgerState.empty (D := D)).size = 0 := rfl
  constructor
  · intro hSize before event after s hSplit hBefore hOverwrites
    rw [hSplit] at h hSize
    obtain ⟨s₀, hBefore', hRest⟩ := foldlM_append_eq_ok.mp h
    obtain rfl := Except.ok.inj (hBefore.symm.trans hBefore')
    obtain ⟨s₁, hApply, hAfter⟩ := foldlM_cons_eq_ok.mp hRest
    have hOne := size_foldlM_le hBefore
    have hTwo := LedgerState.size_apply hApply
    have hThree := size_foldlM_le hAfter
    have hLess := hTwo.1.lt_of_ne fun hSame => hTwo.2.mp hSame hOverwrites
    rw [List.map_append, List.sum_append, List.map_cons, List.sum_cons] at hSize
    omega
  · intro hNone
    refine foldlM_prefix (fun before s => (s.size : ℤ) = (before.map (·.balance)).sum) h
      (by simp [hEmpty]) fun before event after s s' hSplit hBefore hSize hApply => ?_
    have hStep := (LedgerState.size_apply hApply).2.mpr (hNone before event after s hSplit hBefore)
    rw [List.map_append, List.sum_append, hStep, hSize]
    simp

/-! ### One trade -/

theorem untouched_iff : (∀ later, ¬ Touches events trade later) ↔
    ∀ later ∈ events, trade.ingestSeq < later.ingestSeq → later.originalTradeId ≠ some trade.tradeId := by
  constructor
  · exact fun h later hLater hOrder hNamed => h later (.direct hLater hOrder hNamed)
  · intro h later hTouches
    -- the first event of a series of corrections names the trade itself
    induction hTouches with
    | direct hLater hOrder hNamed => exact h _ hLater hOrder hNamed
    | through _ _ _ _ _ ih => exact ih

theorem Untouched.booked (h : Untouched events event) :
    ∃ trade, event.booked = some trade ∧ event.trade? = some trade := by
  have hBooks : event.Books := ⟨by simp [h.new], h.eligible⟩
  obtain ⟨trade, hTrade⟩ := TradeLedgerEvent.trade?_of_books hBooks
  exact ⟨trade, TradeLedgerEvent.booked_eq_some.mpr ⟨hBooks, hTrade⟩, hTrade⟩

namespace LedgerState

/-- What is stored under an id after an event. -/
theorem lookup_apply (h : s.apply event = .ok s') (id : String) :
    (event.tradeId = id ∧ event.Books ∧ s'.active.lookup id = event.booked) ∨
    ((∃ named, event.originalTradeId = some named ∧ s.root named = id) ∧
      s'.active.lookup id = none) ∨
    ((∀ named, event.originalTradeId = some named → s.root named ≠ id) ∧
      s'.active.lookup id = s.active.lookup id) := by
  by_cases hOwn : id = event.tradeId ∧ event.Books
  · refine .inl ⟨hOwn.1.symm, hOwn.2, ?_⟩
    cases hNamed : event.originalTradeId with
    | none =>
      have hNew : event.action = .new := TradeLedgerEvent.unnamed_iff.mp hNamed
      obtain ⟨-, rfl⟩ := (apply_new hNew).mp h
      rw [afterNew, lookup_book, if_pos hOwn]
    | some named =>
      obtain ⟨-, rfl⟩ := (apply_revision hNamed).mp h
      rw [afterRevision, lookup_book, if_pos hOwn]
  · refine .inr ?_
    cases hNamed : event.originalTradeId with
    | none =>
      have hNew : event.action = .new := TradeLedgerEvent.unnamed_iff.mp hNamed
      obtain ⟨-, rfl⟩ := (apply_new hNew).mp h
      refine .inr ⟨fun _ hSome => absurd hSome (Option.some_ne_none _).symm, ?_⟩
      rw [afterNew, lookup_book, if_neg hOwn]
    | some named =>
      obtain ⟨-, rfl⟩ := (apply_revision hNamed).mp h
      rw [afterRevision, lookup_book, if_neg hOwn]
      by_cases hRoot : s.root named = id
      · exact .inl ⟨⟨named, rfl, hRoot⟩, by rw [hRoot, AList.lookup_erase]⟩
      · refine .inr ⟨?_, AList.lookup_erase_ne (Ne.symm hRoot)⟩
        rintro _ ⟨⟩
        exact hRoot

end LedgerState

/-- A trade is stored under its own id. -/
theorem keyed_of_foldlM (h : events.foldlM LedgerState.apply .empty = .ok s) :
    ∀ id stored, s.active.lookup id = some stored → stored.tradeId = id := by
  refine foldlM_keeps h (P := fun s => ∀ id stored, s.active.lookup id = some stored →
    stored.tradeId = id) ?_ (by simp [LedgerState.empty])
  intro s event s' ih hApply id stored hStored
  rcases LedgerState.lookup_apply hApply id with ⟨hId, -, h⟩ | ⟨-, h⟩ | ⟨-, h⟩
  · exact (TradeLedgerEvent.booked_id (h.symm.trans hStored)).1.trans hId
  · cases h.symm.trans hStored
  · exact ih id stored (h.symm.trans hStored)

/-- A trade that is gone does not come back. -/
theorem lost_of_foldlM (h : events.foldlM LedgerState.apply s = .ok t)
    (hOthers : ∀ event ∈ events, event.ingestSeq ≠ stored.ingestSeq)
    (hGone : s.active.lookup id ≠ some stored) : t.active.lookup id ≠ some stored := by
  induction events generalizing s with
  | nil =>
    obtain rfl := Except.ok.inj h
    exact hGone
  | cons event events ih =>
    obtain ⟨s', hApply, hRest⟩ := foldlM_cons_eq_ok.mp h
    rw [List.forall_mem_cons] at hOthers
    refine ih hRest hOthers.2 fun hStored => ?_
    rcases LedgerState.lookup_apply hApply id with ⟨-, -, h⟩ | ⟨-, h⟩ | ⟨-, h⟩
    · exact hOthers.1 (TradeLedgerEvent.booked_id (h.symm.trans hStored)).2.symm
    · cases h.symm.trans hStored
    · exact hGone (h.symm.trans hStored)

theorem inSequence_lt (h : (events.map (·.ingestSeq)).Nodup)
    (hSplit : inSequence events = before ++ event :: after) :
    (∀ e ∈ before, e.ingestSeq < event.ingestSeq) ∧ ∀ e ∈ after, event.ingestSeq < e.ingestSeq := by
  have hNodup : (inSequence events).Pairwise fun a b => a.ingestSeq ≠ b.ingestSeq :=
    List.pairwise_map.mp (((inSequence_perm events).map _).nodup_iff.mpr h)
  have hSorted := (pairwise_sortedBy (fun event : TradeLedgerEvent D => (event.ingestSeq : ℕ))
    events).and hNodup
  have hLess : (inSequence events).Pairwise fun a b => a.ingestSeq < b.ingestSeq :=
    hSorted.imp fun hBoth => lt_of_le_of_ne hBoth.1 hBoth.2
  rw [hSplit] at hLess
  obtain ⟨-, hAfter, hBefore⟩ := List.pairwise_append.mp hLess
  exact ⟨fun e he => hBefore e he event List.mem_cons_self, (List.pairwise_cons.mp hAfter).1⟩

theorem mem_trades_iff (h : events.foldlM LedgerState.apply .empty = .ok s) :
    stored ∈ s.trades ↔ s.active.lookup stored.tradeId = some stored := by
  rw [LedgerState.mem_trades]
  constructor
  · rintro ⟨id, hStored⟩
    rw [keyed_of_foldlM h id stored hStored]
    exact hStored
  · exact fun hStored => ⟨_, hStored⟩

/-- Where others are spared, a trade that no event names stays as it is. -/
theorem SparesOthers.kept (h : SparesOthers events)
    (hSplit : inSequence events = before ++ trade :: after) (hTrade : Untouched events trade)
    (hFold : (inSequence events).foldlM LedgerState.apply .empty = .ok s)
    (hBooked : trade.booked = some stored) : s.active.lookup trade.tradeId = some stored := by
  suffices hKept : ∀ middle later, after = middle ++ later → ∀ s,
      (before ++ trade :: middle).foldlM LedgerState.apply .empty = .ok s →
      s.active.lookup trade.tradeId = some stored from
    hKept after [] (List.append_nil _).symm s (hSplit ▸ hFold)
  intro middle
  induction middle using List.reverseRecOn with
  | nil =>
    intro later _ s hPrefix
    obtain ⟨_, -, hLast⟩ := foldlM_append_eq_ok.mp hPrefix
    obtain ⟨s', hApply, hEnd⟩ := foldlM_cons_eq_ok.mp hLast
    obtain rfl := Except.ok.inj hEnd
    obtain ⟨-, rfl⟩ := (LedgerState.apply_new hTrade.new).mp hApply
    rw [LedgerState.afterNew, LedgerState.lookup_book, hBooked]
    exact if_pos ⟨rfl, (TradeLedgerEvent.booked_eq_some.mp hBooked).1⟩
  | append_singleton middle event ih =>
    intro later hLater s hPrefix
    rw [List.append_assoc] at hLater
    rw [← List.cons_append, ← List.append_assoc] at hPrefix
    obtain ⟨s₀, hMiddle, hLast⟩ := foldlM_append_eq_ok.mp hPrefix
    obtain ⟨s', hApply, hEnd⟩ := foldlM_cons_eq_ok.mp hLast
    obtain rfl := Except.ok.inj hEnd
    have hStored := ih _ hLater s₀ hMiddle
    have hActive : trade.tradeId ∈ s₀.active := by
      rw [← AList.lookup_isSome, hStored]
      rfl
    obtain ⟨hWritten, hDirected⟩ := h (before ++ trade :: middle) event later s₀
      (by rw [hSplit, hLater]; simp) hMiddle
    have hElsewhere : ∀ named, event.originalTradeId = some named → s₀.root named ≠ trade.tradeId :=
      fun named hNamed hRoot => hDirected ⟨named, hNamed, trade, by simp, hTrade, hRoot⟩
    rcases LedgerState.lookup_apply hApply trade.tradeId with
      ⟨hId, hBooks, -⟩ | ⟨⟨named, hNamed, hRoot⟩, -⟩ | ⟨-, hSame⟩
    · cases hNamed : event.originalTradeId with
      | none =>
        have hNew : event.action = .new := TradeLedgerEvent.unnamed_iff.mp hNamed
        exact absurd (hId ▸ hActive) ((LedgerState.apply_new hNew).mp hApply).1.1
      | some named =>
        refine absurd ⟨named, hNamed, hBooks, hId ▸ hActive, ?_⟩ hWritten
        exact fun hRoot => hElsewhere named hNamed (hRoot.symm.trans hId)
    · exact absurd hRoot (hElsewhere named hNamed)
    · exact hSame.trans hStored

/-- What a name that it does not have takes away is lost. -/
theorem misdirected_lost (hNodup : (events.map (·.ingestSeq)).Nodup)
    (hSplit : inSequence events = before ++ event :: after)
    (hBefore : before.foldlM LedgerState.apply .empty = .ok s)
    (hFold : (inSequence events).foldlM LedgerState.apply .empty = .ok t)
    (hTrade : trade ∈ before) (hBooked : trade.booked = some stored) {named : String}
    (hNamed : event.originalTradeId = some named) (hRoot : s.root named = trade.tradeId) :
    stored ∉ t.trades := by
  obtain ⟨hId, hSeq⟩ := TradeLedgerEvent.booked_id hBooked
  obtain ⟨hEarlier, hLater⟩ := inSequence_lt hNodup hSplit
  have hOrder := hEarlier trade hTrade
  rw [mem_trades_iff hFold, hId]
  rw [hSplit] at hFold
  obtain ⟨s₀, hBefore', hRest⟩ := foldlM_append_eq_ok.mp hFold
  obtain rfl := Except.ok.inj (hBefore.symm.trans hBefore')
  obtain ⟨s₁, hApply, hAfter⟩ := foldlM_cons_eq_ok.mp hRest
  refine lost_of_foldlM hAfter (fun e he => ?_) fun hStored => ?_
  · exact hSeq ▸ (hOrder.trans (hLater e he)).ne'
  · rcases LedgerState.lookup_apply hApply trade.tradeId with
      ⟨-, -, h⟩ | ⟨-, h⟩ | ⟨hElsewhere, -⟩
    · exact hOrder.ne (hSeq ▸ (TradeLedgerEvent.booked_id (h.symm.trans hStored)).2)
    · cases h.symm.trans hStored
    · exact hElsewhere named hNamed hRoot

/-! ### A whole ledger -/

theorem materializeTrades_perm {other : List (TradeLedgerEvent D)} (hPerm : other.Perm events)
    (h : materializeTrades events = .ok trades) : materializeTrades other = .ok trades := by
  obtain ⟨hNodup, s, hFold, rfl⟩ := materializeTrades_eq_ok.mp h
  have hKey : KeyOn (fun event : TradeLedgerEvent D => (event.ingestSeq : ℕ)) events :=
    fun a ha b hb hSame => List.inj_on_of_nodup_map hNodup ha hb (PNat.eq hSame)
  refine materializeTrades_eq_ok.mpr ⟨(hPerm.map _).nodup_iff.mpr hNodup, s, ?_, rfl⟩
  rw [inSequence, sortedBy_eq_of_perm hKey hPerm]
  exact hFold

/-- A ledger loses nothing exactly where no correction writes over another active trade and
no name takes away a trade that no event names. -/
theorem ledger_retained_iff (events : List (TradeLedgerEvent D))
    (trades : List (MaterializedTrade D)) (h : materializeTrades events = .ok trades) :
    Retained events trades ↔ SparesOthers events := by
  obtain ⟨hNodup, s, hFold, rfl⟩ := materializeTrades_eq_ok.mp h
  have hCount : ((sortedBy MaterializedTrade.timeKey s.trades).length : ℤ) =
      (events.map (·.balance)).sum ↔ (s.size : ℤ) = ((inSequence events).map (·.balance)).sum := by
    rw [length_sortedBy, LedgerState.length_trades, ((inSequence_perm events).map _).sum_eq]
  constructor
  · intro hRetained before event after s₀ hSplit hBefore
    refine ⟨(size_foldlM_iff hFold).mp (hCount.mp hRetained.count) _ _ _ _ hSplit hBefore, ?_⟩
    rintro ⟨named, hNamed, trade, hTrade, hUntouched, hRoot⟩
    have hMem : trade ∈ events := mem_inSequence.mp (hSplit ▸ List.mem_append_left _ hTrade)
    obtain ⟨stored, hBooked, hStored⟩ := hUntouched.booked
    obtain ⟨kept, hKept, hSame⟩ := hRetained.untouched trade hMem hUntouched
    obtain rfl := Option.some.inj (hStored.symm.trans hSame)
    exact misdirected_lost hNodup hSplit hBefore hFold hTrade hBooked hNamed hRoot
      (mem_sortedBy.mp hKept)
  · intro hSpares
    refine ⟨fun other hPerm => materializeTrades_perm hPerm h, fun trade hTrade hUntouched => ?_, ?_⟩
    · obtain ⟨stored, hBooked, hStored⟩ := hUntouched.booked
      obtain ⟨before, after, hSplit⟩ := List.append_of_mem (mem_inSequence.mpr hTrade)
      refine ⟨stored, mem_sortedBy.mpr ((mem_trades_iff hFold).mpr ?_), hStored⟩
      rw [(TradeLedgerEvent.booked_id hBooked).1]
      exact hSpares.kept hSplit hUntouched hFold hBooked
    · refine hCount.mpr ((size_foldlM_iff hFold).mpr fun before event after s₀ hSplit hBefore => ?_)
      exact (hSpares before event after s₀ hSplit hBefore).1

/-- Two trades, of which one is corrected. -/
def correctedLedger : List (TradeLedgerEvent Decimal) :=
  [ledgerEvent 1 "a" none ledgerIds_a, ledgerEvent 2 "b" none (by decide +kernel),
    ledgerEvent 3 "c" (some "a") (by decide +kernel)]

theorem correctedLedger_retained : ∃ trades, materializeTrades correctedLedger = .ok trades ∧
    trades.map (·.tradeId) = ["b", "c"] ∧
    (Retained correctedLedger trades ↔ SparesOthers correctedLedger) := by
  obtain ⟨trades, hTrades, hIds⟩ : ∃ trades, materializeTrades correctedLedger = .ok trades ∧
      trades.map (·.tradeId) = ["b", "c"] := ⟨_, rfl, rfl⟩
  exact ⟨trades, hTrades, hIds, ledger_retained_iff _ _ hTrades⟩

/-- The correction of one trade has the id of the other. -/
def overwrittenLedger : List (TradeLedgerEvent Decimal) :=
  [ledgerEvent 1 "a" none ledgerIds_a, ledgerEvent 2 "b" none (by decide +kernel),
    ledgerEvent 3 "b" (some "a") ledgerIds_b]

theorem overwrittenLedger_not_retained : ∃ trades,
    materializeTrades overwrittenLedger = .ok trades ∧ ¬ Retained overwrittenLedger trades := by
  obtain ⟨trades, hTrades, hLength⟩ : ∃ trades, materializeTrades overwrittenLedger = .ok trades ∧
      trades.length = 1 := ⟨_, rfl, rfl⟩
  refine ⟨trades, hTrades, fun hRetained => ?_⟩
  have hCount := hRetained.count
  rw [hLength] at hCount
  exact absurd hCount (by decide)

end Daybreak.Features
