import Daybreak.Effect.Interleaving
import Daybreak.Features.Retention
import Mathlib.Data.Set.Basic

/-! The part of a ledger that some of its ids make up. An event reads and writes only at the
ids that it names and at those that they stand for, so that events of different ids do not
touch each other, in whatever order they are applied. -/

namespace Daybreak.Features

open Effect Fallible Daybreak.Order Numeric

variable {D : Type} [DecimalArithmetic D] {s a b : LedgerState D} {event : TradeLedgerEvent D}
  {events : List (TradeLedgerEvent D)} {named id : String} {ids : Set String}
  {stored : MaterializedTrade D}

/-- The ids that an event names, its own first. -/
def EventFields.names (event : EventFields D) : List String :=
  event.tradeId :: event.originalTradeId.toList

namespace LedgerState

/-- Two states are alike at some ids, which stand for no other ids. -/
structure AgreeOn (ids : Set String) (s a : LedgerState D) : Prop where
  active : ∀ id ∈ ids, s.active.lookup id = a.active.lookup id
  aliases : ∀ id ∈ ids, s.aliases.lookup id = a.aliases.lookup id
  closed : ∀ id ∈ ids, ∀ other, a.aliases.lookup id = some other → other ∈ ids

theorem agreeOn_empty (ids : Set String) : AgreeOn ids (.empty : LedgerState D) .empty where
  active := fun _ _ => rfl
  aliases := fun _ _ => rfl
  closed := by simp [LedgerState.empty]

theorem AgreeOn.mem_active (h : AgreeOn ids s a) (hId : id ∈ ids) : id ∈ s.active ↔ id ∈ a.active := by
  rw [← AList.lookup_isSome, ← AList.lookup_isSome, h.active id hId]

theorem AgreeOn.mem_aliases (h : AgreeOn ids s a) (hId : id ∈ ids) :
    id ∈ s.aliases ↔ id ∈ a.aliases := by
  rw [← AList.lookup_isSome, ← AList.lookup_isSome, h.aliases id hId]

theorem AgreeOn.root (h : AgreeOn ids s a) (hNamed : named ∈ ids) :
    s.root named = a.root named ∧ a.root named ∈ ids := by
  unfold LedgerState.root
  rw [h.aliases named hNamed]
  cases hAlias : a.aliases.lookup named with
  | none => exact ⟨rfl, hNamed⟩
  | some other => exact ⟨rfl, h.closed named hNamed other hAlias⟩

/-! ### One event -/

theorem apply_of_new (h : event.action = .new) : s.apply event =
    if event.tradeId ∈ s.active ∨ event.tradeId ∈ s.aliases then
      .error (.dataQuality .duplicateTradeId s!"duplicate trade id {event.tradeId}")
    else .ok (s.afterNew event) := by
  split_ifs with hTaken
  · simp [apply, h, applyNew, hTaken]
  · rw [not_or] at hTaken
    exact (apply_new h).mpr ⟨hTaken, rfl⟩

theorem apply_of_named (h : event.originalTradeId = some named) : s.apply event =
    if s.root named ∈ s.active then .ok (s.afterRevision event named)
    else .error (.dataQuality .unknownOriginalTrade
      s!"{event.action.value} references unknown active trade {named}") := by
  split_ifs with hActive
  · exact (apply_revision h).mpr ⟨hActive, rfl⟩
  · have hAction : event.action ≠ .new := TradeLedgerEvent.named_iff.mp ⟨named, h⟩
    have hNone : s.active.lookup ((s.aliases.lookup named).getD named) = none :=
      AList.lookup_eq_none.mpr hActive
    unfold apply applyRevision
    rw [h]
    cases hKind : event.action with
    | new => exact absurd hKind hAction
    | correction => simp [hNone]
    | cancel => simp [hNone]

theorem AgreeOn.afterNew (h : AgreeOn ids s a) (hId : event.tradeId ∈ ids) :
    AgreeOn ids (s.afterNew event) (a.afterNew event) where
  active := by
    intro id hMem
    simp only [LedgerState.afterNew, lookup_book, h.active id hMem]
  aliases := by
    intro id hMem
    simp only [LedgerState.afterNew, aliases_book, Dict.lookup_insert_eq, h.aliases id hMem]
  closed := by
    intro id hMem other hOther
    simp only [LedgerState.afterNew, aliases_book, Dict.lookup_insert_eq] at hOther
    split_ifs at hOther with hOwn
    · exact Option.some.inj hOther ▸ hId
    · exact h.closed id hMem other hOther

theorem AgreeOn.afterNew_left (h : AgreeOn ids s b) (hId : event.tradeId ∉ ids) :
    AgreeOn ids (s.afterNew event) b where
  active := by
    intro id hMem
    have hOther : id ≠ event.tradeId := fun hSame => hId (hSame ▸ hMem)
    simp only [LedgerState.afterNew, lookup_book, hOther, false_and, if_false, h.active id hMem]
  aliases := by
    intro id hMem
    have hOther : id ≠ event.tradeId := fun hSame => hId (hSame ▸ hMem)
    simp only [LedgerState.afterNew, aliases_book, Dict.lookup_insert_eq, hOther, if_false,
      h.aliases id hMem]
  closed := h.closed

theorem AgreeOn.afterRevision (h : AgreeOn ids s a) (hId : event.tradeId ∈ ids)
    (hNamed : named ∈ ids) : AgreeOn ids (s.afterRevision event named) (a.afterRevision event named) where
  active := by
    intro id hMem
    simp only [LedgerState.afterRevision, lookup_book, (h.root hNamed).1]
    by_cases hRoot : id = a.root named
    · rw [hRoot, AList.lookup_erase, AList.lookup_erase]
    · simp only [AList.lookup_erase_ne hRoot, h.active id hMem]
  aliases := by
    intro id hMem
    simp only [LedgerState.afterRevision, aliases_book, Dict.lookup_insert_eq, h.aliases id hMem]
  closed := by
    intro id hMem other hOther
    simp only [LedgerState.afterRevision, aliases_book, Dict.lookup_insert_eq] at hOther
    split_ifs at hOther with hOriginal hOwn
    · exact Option.some.inj hOther ▸ hId
    · exact Option.some.inj hOther ▸ hId
    · exact h.closed id hMem other hOther

theorem AgreeOn.afterRevision_left (h : AgreeOn ids s b) (hId : event.tradeId ∉ ids)
    (hNamed : named ∉ ids) (hRoot : s.root named ∉ ids) :
    AgreeOn ids (s.afterRevision event named) b where
  active := by
    intro id hMem
    have hOther : id ≠ event.tradeId := fun hSame => hId (hSame ▸ hMem)
    have hElsewhere : id ≠ s.root named := fun hSame => hRoot (hSame ▸ hMem)
    simp only [LedgerState.afterRevision, lookup_book, hOther, false_and, if_false,
      AList.lookup_erase_ne hElsewhere, h.active id hMem]
  aliases := by
    intro id hMem
    have hOther : id ≠ event.tradeId := fun hSame => hId (hSame ▸ hMem)
    have hOriginal : id ≠ named := fun hSame => hNamed (hSame ▸ hMem)
    simp only [LedgerState.afterRevision, aliases_book, Dict.lookup_insert_eq, hOther, hOriginal,
      if_false, h.aliases id hMem]
  closed := h.closed

/-- An event does to its ids what it does to a ledger that is alike at them, and nothing to
the others. -/
theorem apply_framed (hNames : ∀ id ∈ event.names, id ∈ ids) :
    Framed LedgerState.apply (AgreeOn ids) (AgreeOn idsᶜ) event := by
  intro s a b ha hb
  have hId : event.tradeId ∈ ids := hNames _ List.mem_cons_self
  cases hOriginal : event.originalTradeId with
  | none =>
    have hNew : event.action = .new := TradeLedgerEvent.unnamed_iff.mp hOriginal
    rw [apply_of_new hNew, apply_of_new hNew]
    simp only [ha.mem_active hId, ha.mem_aliases hId]
    split_ifs with hTaken
    · rfl
    · exact ⟨ha.afterNew hId, hb.afterNew_left (fun h => h hId)⟩
  | some named =>
    have hNamed : named ∈ ids := hNames _ (List.mem_cons_of_mem _ (by simp [hOriginal]))
    obtain ⟨hRoot, hRootId⟩ := ha.root hNamed
    rw [apply_of_named hOriginal, apply_of_named hOriginal]
    simp only [hRoot, ha.mem_active hRootId]
    split_ifs with hActive
    · refine ⟨ha.afterRevision hId hNamed, hb.afterRevision_left (fun h => h hId)
        (fun h => h hNamed) ?_⟩
      rw [hRoot]
      exact fun h => h hRootId
    · rfl

/-- Events whose names lie among some ids, and others whose names lie outside of them: where the
others raise nothing on their own, the ledger at these ids is that of the first. -/
theorem foldlM_framed {kind : TradeLedgerEvent D → Bool}
    (hOwn : ∀ event ∈ events, kind event = true → ∀ id ∈ event.names, id ∈ ids)
    (hOther : ∀ event ∈ events, kind event = false → ∀ id ∈ event.names, id ∉ ids)
    (hFold : (events.filter fun event => !kind event).foldlM LedgerState.apply .empty = .ok b) :
    Related (· = ·) (fun s a => AgreeOn ids s a ∧ AgreeOn idsᶜ s b)
      (events.foldlM LedgerState.apply .empty)
      ((events.filter kind).foldlM LedgerState.apply .empty) := by
  apply foldlM_interleaved ?_ ?_ (agreeOn_empty ids) (agreeOn_empty idsᶜ) hFold
  · intro event hMem hKind
    exact apply_framed (hOwn event hMem hKind)
  · intro event hMem hKind
    have hFramed : Framed LedgerState.apply (AgreeOn idsᶜ) (AgreeOn idsᶜᶜ) event :=
      apply_framed (hOther event hMem hKind)
    rwa [compl_compl] at hFramed

end LedgerState

/-! ### Where trades come from -/

/-- A trade was left behind by an event of its own id. -/
theorem booked_of_foldlM (h : events.foldlM LedgerState.apply .empty = .ok s)
    (hStored : s.active.lookup id = some stored) :
    ∃ event ∈ events, event.booked = some stored ∧ event.tradeId = id := by
  revert id stored
  refine foldlM_prefix (fun before s => ∀ {id stored}, s.active.lookup id = some stored →
    ∃ event ∈ before, event.booked = some stored ∧ event.tradeId = id) h ?_ ?_
  · simp [LedgerState.empty]
  · intro before event after s s' _ _ ih hApply id stored hStored
    rcases LedgerState.lookup_apply hApply id with ⟨hId, -, h⟩ | ⟨-, h⟩ | ⟨-, h⟩
    · exact ⟨event, List.mem_append_right _ List.mem_cons_self, h.symm.trans hStored, hId⟩
    · cases h.symm.trans hStored
    · obtain ⟨earlier, hMem, hBooked⟩ := ih (h.symm.trans hStored)
      exact ⟨earlier, List.mem_append_left _ hMem, hBooked⟩

theorem TradeLedgerEvent.booked_timestamp (h : event.booked = some stored) :
    stored.eventTimestamp = event.eventTimestamp := by
  have hTrade := (booked_eq_some.mp h).2
  unfold TradeLedgerEvent.trade? at hTrade
  split at hTrade
  · obtain rfl := Option.some.inj hTrade
    rfl
  · cases hTrade

theorem trades_nodup (h : events.foldlM LedgerState.apply .empty = .ok s) : s.trades.Nodup := by
  have hIds : s.trades.map (·.tradeId) = s.active.keys := by
    rw [LedgerState.trades, List.map_map, AList.keys, List.keys]
    apply List.map_congr_left
    intro entry hEntry
    apply keyed_of_foldlM h
    exact (List.mem_dlookup_iff s.active.nodupKeys).mpr hEntry
  exact List.Nodup.of_map (·.tradeId) (hIds ▸ s.active.nodupKeys)

/-- Trades are told apart by their times, sequence numbers and ids. -/
theorem keyOn_trades (h : events.foldlM LedgerState.apply .empty = .ok s) :
    KeyOn MaterializedTrade.timeKey s.trades := by
  intro trade hTrade other hOther hKey
  have hId : trade.tradeId = other.tradeId :=
    congrArg (fun key => (ofLex (ofLex key).2).2) hKey
  rw [mem_trades_iff h] at hTrade hOther
  rw [hId, hOther] at hTrade
  exact (Option.some.inj hTrade).symm

end Daybreak.Features
