import Daybreak.Features.Revisions

/-! A trade and its corrections form a chain, of which the latest revision counts until
the chain is cancelled. The aliases follow a chain only by the id of its latest revision
and by the id which that revision named. -/

namespace Daybreak.Features

open Effect Fallible Daybreak.Order Numeric

variable {D : Type} [DecimalArithmetic D]

/-! ### Chains -/

/-- A trade and its corrections, the latest first. -/
abbrev Chain (D : Type) [DecimalArithmetic D] := List (TradeLedgerEvent D)

def Chain.ids (chain : Chain D) : List String := chain.map (·.tradeId)

/-- The trade of the latest revision. -/
def Chain.current (chain : Chain D) : Option (MaterializedTrade D) := chain.head? >>= (·.trade?)

/-- The chains that are not cancelled, after one more event. There are none where the
event names no revision of such a chain. -/
def revise (chains : List (Chain D)) (event : TradeLedgerEvent D) : Option (List (Chain D)) :=
  match event.originalTradeId with
  | none => some ([event] :: chains)
  | some named => do
    let chain ← chains.find? (named ∈ Chain.ids ·)
    let others := chains.filter (named ∉ Chain.ids ·)
    return if event.action = .cancel then others else (event :: chain) :: others

/-- A ledger of eligible events whose corrections and cancellations name any revision of a
chain that is not cancelled, with the chains that it leaves. -/
structure Revisable (events : List (TradeLedgerEvent D)) (chains : List (Chain D)) : Prop where
  sequence : (events.map (·.ingestSeq)).Nodup
  ids : (events.map (·.tradeId)).Nodup
  eligible : ∀ event ∈ events, event.eligible = true
  revised : (inSequence events).foldlM revise [] = some chains

/-- The ledger is materialized into the latest revisions. -/
def Resolved (events : List (TradeLedgerEvent D)) (chains : List (Chain D)) : Prop :=
  ∃ trades, materializeTrades events = .ok trades ∧ trades.Perm (chains.filterMap Chain.current)

/-- The id of the latest revision, or the id which that revision named. -/
def Chain.Direct (chain : Chain D) (named : String) : Prop :=
  ∃ last ∈ chain.head?, named = last.tradeId ∨ last.originalTradeId = some named

def NamesDirectly (chains : List (Chain D)) (event : TradeLedgerEvent D) : Prop :=
  ∀ named ∈ event.originalTradeId, ∀ chain ∈ chains, named ∈ chain.ids → chain.Direct named

/-- Every event names its chain directly, as the chain then is. -/
def AllNamedDirectly (events : List (TradeLedgerEvent D)) : Prop :=
  ∀ before event after chains, inSequence events = before ++ event :: after →
    before.foldlM revise [] = some chains → NamesDirectly chains event

variable {s s' : LedgerState D} {event : TradeLedgerEvent D} {chain : Chain D}
  {chains chains' : List (Chain D)} {events before : List (TradeLedgerEvent D)}
  {named id : String} {trade : MaterializedTrade D}

@[simp] theorem ids_cons : Chain.ids (event :: chain) = event.tradeId :: chain.ids := rfl

@[simp] theorem current_cons : Chain.current (event :: chain) = event.trade? := rfl

@[simp] theorem direct_cons : Chain.Direct (event :: chain) named ↔
    named = event.tradeId ∨ event.originalTradeId = some named := by
  simp [Chain.Direct]

theorem head?_ids_of_current (h : chain.current = some trade) :
    chain.ids.head? = some trade.tradeId := by
  cases chain with
  | nil => cases h
  | cons event chain =>
    rw [ids_cons, List.head?_cons, (TradeLedgerEvent.trade?_id h).1]

theorem mem_ids_of_current (h : chain.current = some trade) : trade.tradeId ∈ chain.ids :=
  List.mem_of_mem_head? (head?_ids_of_current h)

theorem revise_new (h : event.originalTradeId = none) :
    revise chains event = some ([event] :: chains) := by
  unfold revise
  rw [h]

theorem revise_named (h : event.originalTradeId = some named) :
    revise chains event = some chains' ↔ ∃ chain, chains.find? (named ∈ Chain.ids ·) = some chain ∧
      chains' = if event.action = .cancel then chains.filter (named ∉ Chain.ids ·)
        else (event :: chain) :: chains.filter (named ∉ Chain.ids ·) := by
  unfold revise
  rw [h]
  refine Option.bind_eq_some_iff.trans (exists_congr fun chain => and_congr_right fun _ => ?_)
  exact Option.some_inj.trans eq_comm

/-! ### The invariant -/

/-- The ledger holds the latest revisions of the chains, and resolves the direct names of
a chain to its latest id and its other ones to ids that are not active. -/
structure Tracks (before : List (TradeLedgerEvent D)) (s : LedgerState D)
    (chains : List (Chain D)) : Prop where
  active : ∀ id trade, s.active.lookup id = some trade ↔
    ∃ chain ∈ chains, chain.current = some trade ∧ trade.tradeId = id
  aliases : ∀ chain ∈ chains, ∀ id ∈ chain.ids, ∃ target ∈ chain.ids,
    s.aliases.lookup id = some target ∧ (chain.Direct id ↔ chain.ids.head? = some target)
  disjoint : ∀ chain ∈ chains, ∀ other ∈ chains, ∀ id ∈ chain.ids, id ∈ other.ids → chain = other
  nodup : chains.Nodup
  current : ∀ chain ∈ chains, ∃ trade, chain.current = some trade
  seen : ∀ chain ∈ chains, ∀ id ∈ chain.ids, id ∈ before.map (·.tradeId)
  known : ∀ id ∈ s.aliases, id ∈ before.map (·.tradeId)

theorem tracks_empty : Tracks (D := D) [] .empty [] where
  active := by simp [LedgerState.empty]
  aliases := by simp
  disjoint := by simp
  nodup := List.nodup_nil
  current := by simp
  seen := by simp
  known := by simp [LedgerState.empty]

namespace Tracks

theorem not_mem_ids (h : Tracks before s chains) (hFresh : event.tradeId ∉ before.map (·.tradeId))
    (hChain : chain ∈ chains) : event.tradeId ∉ chain.ids :=
  fun hId => hFresh (h.seen chain hChain _ hId)

theorem not_active (h : Tracks before s chains) (hFresh : event.tradeId ∉ before.map (·.tradeId)) :
    s.active.lookup event.tradeId = none := by
  refine Option.eq_none_iff_forall_ne_some.mpr fun trade hTrade => ?_
  obtain ⟨chain, hChain, hCurrent, hId⟩ := (h.active _ _).mp hTrade
  exact h.not_mem_ids hFresh hChain (hId ▸ mem_ids_of_current hCurrent)

/-- Where a name leads: to the active trade of its chain, or to no active trade. -/
theorem root_active_iff (h : Tracks before s chains) (hChain : chain ∈ chains)
    (hNamed : named ∈ chain.ids) :
    s.root named ∈ chain.ids ∧ (s.root named ∈ s.active ↔ chain.Direct named) ∧
      (chain.Direct named → chain.ids.head? = some (s.root named)) := by
  obtain ⟨target, hTarget, hAlias, hDirect⟩ := h.aliases chain hChain named hNamed
  have hRoot : s.root named = target := by rw [LedgerState.root, hAlias, Option.getD_some]
  rw [hRoot]
  refine ⟨hTarget, ?_, hDirect.mp⟩
  rw [hDirect, ← AList.lookup_isSome, Option.isSome_iff_exists]
  constructor
  · rintro ⟨trade, hTrade⟩
    obtain ⟨other, hOther, hCurrent, hId⟩ := (h.active _ _).mp hTrade
    have hMem := mem_ids_of_current hCurrent
    rw [hId] at hMem
    obtain rfl := h.disjoint chain hChain other hOther target hTarget hMem
    rw [← hId]
    exact head?_ids_of_current hCurrent
  · intro hHead
    obtain ⟨trade, hTrade⟩ := h.current chain hChain
    have hSame := head?_ids_of_current hTrade
    rw [hHead, Option.some.injEq] at hSame
    exact ⟨trade, (h.active _ _).mpr ⟨chain, hChain, hTrade, hSame.symm⟩⟩

/-- A chain is taken away with its active trade. -/
theorem withdraw (h : Tracks before s chains) (hChain : chain ∈ chains) (hNamed : named ∈ chain.ids)
    (hDirect : chain.Direct named) :
    Tracks before { s with active := s.active.erase (s.root named) }
      (chains.filter (named ∉ Chain.ids ·)) := by
  obtain ⟨hRoot, -, hHead⟩ := h.root_active_iff hChain hNamed
  have hKept : ∀ other ∈ chains.filter (named ∉ Chain.ids ·), other ∈ chains ∧ named ∉ other.ids := by
    intro other hOther
    simpa using hOther
  constructor
  case active =>
    intro id trade
    by_cases hSame : id = s.root named
    · rw [hSame, AList.lookup_erase]
      refine iff_of_false nofun ?_
      rintro ⟨other, hOther, hCurrent, hId⟩
      obtain ⟨hOther, hNotNamed⟩ := hKept other hOther
      have hMem := mem_ids_of_current hCurrent
      rw [hId] at hMem
      obtain rfl := h.disjoint chain hChain other hOther _ hRoot hMem
      exact hNotNamed hNamed
    · rw [AList.lookup_erase_ne hSame, h.active]
      constructor
      · rintro ⟨other, hOther, hCurrent, hId⟩
        refine ⟨other, List.mem_filter.mpr ⟨hOther, ?_⟩, hCurrent, hId⟩
        rw [decide_eq_true_eq]
        intro hBoth
        obtain rfl := h.disjoint chain hChain other hOther named hNamed hBoth
        have hTwo := (head?_ids_of_current hCurrent).symm.trans (hHead hDirect)
        exact hSame (hId.symm.trans (Option.some.inj hTwo))
      · rintro ⟨other, hOther, hRest⟩
        exact ⟨other, (hKept other hOther).1, hRest⟩
  case aliases => exact fun other hOther => h.aliases other (hKept other hOther).1
  case disjoint =>
    exact fun first hFirst second hSecond =>
      h.disjoint first (hKept first hFirst).1 second (hKept second hSecond).1
  case nodup => exact h.nodup.filter _
  case current => exact fun other hOther => h.current other (hKept other hOther).1
  case seen => exact fun other hOther => h.seen other (hKept other hOther).1
  case known => exact h.known

/-- The aliases change for ids of no chain. -/
theorem realias (h : Tracks before s chains) (event : TradeLedgerEvent D)
    (aliases : Dict String String)
    (hSame : ∀ chain ∈ chains, ∀ id ∈ chain.ids, aliases.lookup id = s.aliases.lookup id)
    (hKnown : ∀ id ∈ aliases, id ∈ (before ++ [event]).map (·.tradeId)) :
    Tracks (before ++ [event]) { s with aliases := aliases } chains where
  active := h.active
  aliases chain hChain id hId := by
    rw [hSame chain hChain id hId]
    exact h.aliases chain hChain id hId
  disjoint := h.disjoint
  nodup := h.nodup
  current := h.current
  seen chain hChain id hId := by
    rw [List.map_append]
    exact List.mem_append_left _ (h.seen chain hChain id hId)
  known := hKnown

/-- A revision is put before a chain that has been taken away. -/
theorem extend (h : Tracks before s chains) (hTrade : event.trade? = some trade) (hBooks : event.Books)
    (hApart : ∀ id ∈ Chain.ids (event :: chain), ∀ other ∈ chains, id ∉ other.ids)
    (hSeen : ∀ id ∈ Chain.ids (event :: chain), id ∈ before.map (·.tradeId))
    (hAliases : ∀ id ∈ Chain.ids (event :: chain), ∃ target ∈ Chain.ids (event :: chain),
      s.aliases.lookup id = some target ∧
        (Chain.Direct (event :: chain) id ↔ event.tradeId = target)) :
    Tracks before (s.book event) ((event :: chain) :: chains) := by
  have hId := (TradeLedgerEvent.trade?_id hTrade).1
  have hFresh : ∀ other ∈ chains, event.tradeId ∉ other.ids := hApart _ List.mem_cons_self
  constructor
  case active =>
    intro id trade'
    rw [LedgerState.lookup_book, TradeLedgerEvent.booked_eq_some.mpr ⟨hBooks, hTrade⟩]
    simp only [List.mem_cons, exists_eq_or_imp, current_cons, hTrade, Option.some.injEq]
    by_cases hSame : id = event.tradeId
    · rw [if_pos ⟨hSame, hBooks⟩, Option.some.injEq]
      constructor
      · rintro rfl
        exact .inl ⟨rfl, hId.trans hSame.symm⟩
      · rintro (⟨rfl, -⟩ | ⟨other, hOther, hCurrent, hTwo⟩)
        · rfl
        · have hMem := mem_ids_of_current hCurrent
          rw [hTwo, hSame] at hMem
          exact absurd hMem (hFresh other hOther)
    · rw [if_neg fun hBoth => hSame hBoth.1, h.active]
      refine ⟨.inr, ?_⟩
      rintro (⟨rfl, hTwo⟩ | hOther)
      · exact absurd (hTwo.symm.trans hId) hSame
      · exact hOther
  case aliases =>
    intro other hOther id hMem
    rcases List.mem_cons.mp hOther with rfl | hOther
    · simpa using hAliases id hMem
    · rw [LedgerState.aliases_book]
      exact h.aliases other hOther id hMem
  case disjoint =>
    intro first hFirst second hSecond id hMem hMem'
    rcases List.mem_cons.mp hFirst with rfl | hFirst <;>
      rcases List.mem_cons.mp hSecond with rfl | hSecond
    · rfl
    · exact absurd hMem' (hApart id hMem second hSecond)
    · exact absurd hMem (hApart id hMem' first hFirst)
    · exact h.disjoint first hFirst second hSecond id hMem hMem'
  case nodup =>
    refine List.nodup_cons.mpr ⟨fun hChain => ?_, h.nodup⟩
    exact hFresh _ hChain List.mem_cons_self
  case current =>
    intro other hOther
    rcases List.mem_cons.mp hOther with rfl | hOther
    · exact ⟨trade, hTrade⟩
    · exact h.current other hOther
  case seen =>
    intro other hOther id hMem
    rcases List.mem_cons.mp hOther with rfl | hOther
    · exact hSeen id hMem
    · exact h.seen other hOther id hMem
  case known =>
    rw [LedgerState.aliases_book]
    exact h.known

/-- An event is applied exactly where it names its chain directly. -/
theorem exists_apply_iff (h : Tracks before s chains)
    (hFresh : event.tradeId ∉ before.map (·.tradeId)) (hRevise : revise chains event = some chains') :
    (∃ s', s.apply event = .ok s') ↔ NamesDirectly chains event := by
  cases hNamed : event.originalTradeId with
  | none =>
    have hNew : event.action = .new := TradeLedgerEvent.unnamed_iff.mp hNamed
    refine iff_of_true ⟨_, (LedgerState.apply_new hNew).mpr ⟨⟨?_, ?_⟩, rfl⟩⟩ ?_
    · rw [← AList.lookup_eq_none]
      exact h.not_active hFresh
    · exact fun hKnown => hFresh (h.known _ hKnown)
    · simp [NamesDirectly, hNamed]
  | some named =>
    obtain ⟨chain, hFind, -⟩ := (revise_named hNamed).mp hRevise
    have hChain := List.mem_of_find?_eq_some hFind
    have hMem : named ∈ chain.ids := by simpa using List.find?_some hFind
    simp only [LedgerState.apply_revision hNamed, exists_and_left, exists_eq, and_true]
    rw [(h.root_active_iff hChain hMem).2.1]
    constructor
    · intro hDirect named' hNamed' other hOther hMem'
      obtain rfl : named = named' := Option.some.inj (hNamed.symm.trans hNamed')
      exact h.disjoint chain hChain other hOther named hMem hMem' ▸ hDirect
    · intro hDirect
      exact hDirect named hNamed chain hChain hMem

theorem step (h : Tracks before s chains) (hFresh : event.tradeId ∉ before.map (·.tradeId))
    (hEligible : event.eligible = true) (hRevise : revise chains event = some chains')
    (hApply : s.apply event = .ok s') : Tracks (before ++ [event]) s' chains' := by
  cases hNamed : event.originalTradeId with
  | none =>
    have hNew : event.action = .new := TradeLedgerEvent.unnamed_iff.mp hNamed
    obtain ⟨-, rfl⟩ := (LedgerState.apply_new hNew).mp hApply
    obtain rfl := Option.some.inj ((revise_new hNamed).symm.trans hRevise)
    have hBooks : event.Books := ⟨by simp [hNew], hEligible⟩
    obtain ⟨trade, hTrade⟩ := TradeLedgerEvent.trade?_of_books hBooks
    refine (h.realias event (s.aliases.insert event.tradeId event.tradeId) ?same ?known).extend
      hTrade hBooks ?apart ?seen ?aliases
    case same =>
      intro chain hChain id hId
      rw [Dict.lookup_insert_eq, if_neg]
      rintro rfl
      exact h.not_mem_ids hFresh hChain hId
    case known =>
      intro id hId
      rw [List.map_append, List.mem_append]
      rcases (AList.mem_insert _).mp hId with rfl | hId
      · exact .inr (by simp)
      · exact .inl (h.known id hId)
    case apart => simpa [Chain.ids] using fun other hOther => h.not_mem_ids hFresh hOther
    case seen => simp [Chain.ids]
    case aliases => simp [Chain.ids]
  | some named =>
    obtain ⟨hActive, rfl⟩ := (LedgerState.apply_revision hNamed).mp hApply
    obtain ⟨chain, hFind, rfl⟩ := (revise_named hNamed).mp hRevise
    have hChain := List.mem_of_find?_eq_some hFind
    have hMem : named ∈ chain.ids := by simpa using List.find?_some hFind
    have hDirect := (h.root_active_iff hChain hMem).2.1.mp hActive
    have hNotNamed : ∀ other ∈ chains.filter (named ∉ Chain.ids ·),
        other ∈ chains ∧ named ∉ other.ids := by
      intro other hOther
      simpa using hOther
    have hRest := (h.withdraw hChain hMem hDirect).realias event
      ((s.aliases.insert event.tradeId event.tradeId).insert named event.tradeId) ?same ?known
    case same =>
      intro other hOther id hId
      obtain ⟨hOther, hNot⟩ := hNotNamed other hOther
      rw [Dict.lookup_insert_eq, if_neg, Dict.lookup_insert_eq, if_neg]
      · rintro rfl
        exact h.not_mem_ids hFresh hOther hId
      · rintro rfl
        exact hNot hId
    case known =>
      intro id hId
      rw [List.map_append, List.mem_append]
      rcases (AList.mem_insert _).mp hId with rfl | hId
      · exact .inl (h.seen chain hChain _ hMem)
      · rcases (AList.mem_insert _).mp hId with rfl | hId
        · exact .inr (by simp)
        · exact .inl (h.known id hId)
    by_cases hCancel : event.action = .cancel
    · rw [if_pos hCancel, LedgerState.afterRevision,
        LedgerState.book_eq_self fun hBooks => hBooks.1 hCancel]
      exact hRest
    · have hBooks : event.Books := ⟨hCancel, hEligible⟩
      obtain ⟨trade, hTrade⟩ := TradeLedgerEvent.trade?_of_books hBooks
      rw [if_neg hCancel]
      refine hRest.extend hTrade hBooks ?apart ?seen ?aliases
      case apart =>
        intro id hId other hOther hId'
        obtain ⟨hOther, hNot⟩ := hNotNamed other hOther
        rcases List.mem_cons.mp hId with rfl | hId
        · exact h.not_mem_ids hFresh hOther hId'
        · obtain rfl := h.disjoint chain hChain other hOther id hId hId'
          exact hNot hMem
      case seen =>
        intro id hId
        rw [List.map_append, List.mem_append]
        rcases List.mem_cons.mp hId with rfl | hId
        · exact .inr (by simp)
        · exact .inl (h.seen chain hChain id hId)
      case aliases =>
        intro id hId
        simp only [direct_cons, Dict.lookup_insert_eq, hNamed, Option.some.injEq]
        by_cases hSame : id = event.tradeId
        · exact ⟨event.tradeId, List.mem_cons_self, by simp [hSame], by simp [hSame]⟩
        by_cases hName : id = named
        · exact ⟨event.tradeId, List.mem_cons_self, by simp [hName], by simp [hName]⟩
        have hId := (List.mem_cons.mp hId).resolve_left hSame
        obtain ⟨target, hTarget, hAlias, -⟩ := h.aliases chain hChain id hId
        refine ⟨target, List.mem_cons_of_mem _ hTarget, by simp [hSame, hName, hAlias], ?_⟩
        -- the other names keep their targets, and a target of before is not the new id
        refine iff_of_false ?_ fun hNew => h.not_mem_ids hFresh hChain (hNew ▸ hTarget)
        rintro (hOne | hTwo)
        · exact hSame hOne
        · exact hName hTwo.symm

theorem trades_perm (h : Tracks before s chains) :
    s.trades.Perm (chains.filterMap Chain.current) := by
  have hKeys : s.trades.map (·.tradeId) = s.active.keys := by
    rw [LedgerState.trades, AList.keys, List.keys, List.map_map]
    refine List.map_congr_left fun entry hEntry => ?_
    have hLookup := (List.mem_dlookup_iff s.active.nodupKeys).mpr hEntry
    obtain ⟨-, -, -, hId⟩ := (h.active _ _).mp hLookup
    exact hId
  have hTrades : s.trades.Nodup := .of_map _ (hKeys ▸ s.active.keys_nodup)
  have hCurrent : (chains.filterMap Chain.current).Nodup := by
    refine List.pairwise_filterMap.mpr (h.nodup.imp_of_mem ?_)
    rintro first second hFirst hSecond hApart trade hTrade _ hOther rfl
    exact hApart (h.disjoint first hFirst second hSecond _ (mem_ids_of_current hTrade)
      (mem_ids_of_current hOther))
  refine (List.perm_ext_iff_of_nodup hTrades hCurrent).mpr fun trade => ?_
  rw [LedgerState.mem_trades, List.mem_filterMap]
  constructor
  · rintro ⟨id, hId⟩
    obtain ⟨chain, hChain, hTrade, -⟩ := (h.active _ _).mp hId
    exact ⟨chain, hChain, hTrade⟩
  · rintro ⟨chain, hChain, hTrade⟩
    exact ⟨_, (h.active _ _).mpr ⟨chain, hChain, hTrade, rfl⟩⟩

end Tracks

/-! ### A whole ledger -/

theorem foldlM_revise_concat : (before ++ [event]).foldlM revise [] = some chains' ↔
    ∃ chains, before.foldlM revise [] = some chains ∧ revise chains event = some chains' := by
  rw [List.foldlM_append, Option.bind_eq_bind, Option.bind_eq_some_iff]
  simp

theorem tracks_of_foldlM (hIds : (before.map (·.tradeId)).Nodup)
    (hEligible : ∀ event ∈ before, event.eligible = true)
    (hRevised : before.foldlM revise [] = some chains)
    (hFold : before.foldlM LedgerState.apply .empty = .ok s) : Tracks before s chains := by
  induction before using List.reverseRecOn generalizing s chains with
  | nil =>
    obtain rfl := Option.some.inj hRevised
    obtain rfl := Except.ok.inj hFold
    exact tracks_empty
  | append_singleton before event ih =>
    obtain ⟨earlier, hEarlier, hRevise⟩ := foldlM_revise_concat.mp hRevised
    obtain ⟨s₀, hBefore, hLast⟩ := foldlM_append_eq_ok.mp hFold
    obtain ⟨s₁, hApply, hEnd⟩ := foldlM_cons_eq_ok.mp hLast
    obtain rfl := Except.ok.inj hEnd
    rw [List.map_append, List.nodup_append'] at hIds
    have hTracks := ih hIds.1 (fun e he => hEligible e (List.mem_append_left _ he)) hEarlier hBefore
    refine hTracks.step (fun hSeen => hIds.2.2 hSeen (by simp)) ?_ hRevise hApply
    exact hEligible event (by simp)

variable {after : List (TradeLedgerEvent D)}

theorem Revisable.prefix (h : Revisable events chains)
    (hSplit : inSequence events = before ++ event :: after) :
    ∃ earlier later, before.foldlM revise [] = some earlier ∧ revise earlier event = some later ∧
      (before.map (·.tradeId)).Nodup ∧ event.tradeId ∉ before.map (·.tradeId) ∧
      (∀ e ∈ before, e.eligible = true) ∧ event.eligible = true := by
  have hRevised := h.revised
  rw [hSplit, List.append_cons, List.foldlM_append, Option.bind_eq_bind, Option.bind_eq_some_iff]
    at hRevised
  obtain ⟨later, hLater, -⟩ := hRevised
  obtain ⟨earlier, hEarlier, hRevise⟩ := foldlM_revise_concat.mp hLater
  have hIds : ((inSequence events).map (·.tradeId)).Nodup :=
    ((inSequence_perm events).map _).nodup_iff.mpr h.ids
  have hEligible : ∀ e ∈ inSequence events, e.eligible = true :=
    fun e he => h.eligible e (mem_inSequence.mp he)
  rw [hSplit, List.map_append, List.nodup_append'] at hIds
  rw [hSplit] at hEligible
  refine ⟨earlier, later, hEarlier, hRevise, hIds.1, fun hSeen => hIds.2.2 hSeen (by simp), ?_, ?_⟩
  · exact fun e he => hEligible e (List.mem_append_left _ he)
  · exact hEligible event (by simp)

theorem Revisable.exists_foldlM_iff (h : Revisable events chains) :
    (∃ s, (inSequence events).foldlM LedgerState.apply .empty = .ok s) ↔
      AllNamedDirectly events := by
  constructor
  · rintro ⟨s, hFold⟩ before event after earlier hSplit hEarlier
    obtain ⟨earlier', later, hEarlier', hRevise, hIds, hFresh, hEligible, -⟩ := h.prefix hSplit
    obtain rfl := Option.some.inj (hEarlier.symm.trans hEarlier')
    rw [hSplit] at hFold
    obtain ⟨s₀, hBefore, hRest⟩ := foldlM_append_eq_ok.mp hFold
    obtain ⟨s₁, hApply, -⟩ := foldlM_cons_eq_ok.mp hRest
    have hTracks := tracks_of_foldlM hIds hEligible hEarlier hBefore
    exact (hTracks.exists_apply_iff hFresh hRevise).mp ⟨s₁, hApply⟩
  · intro hDirect
    suffices hPrefix : ∀ before after, inSequence events = before ++ after →
        ∃ s, before.foldlM LedgerState.apply .empty = .ok s from
      hPrefix _ [] (List.append_nil _).symm
    intro before
    induction before using List.reverseRecOn with
    | nil => exact fun _ _ => ⟨_, rfl⟩
    | append_singleton before event ih =>
      intro after hSplit
      rw [List.append_assoc] at hSplit
      obtain ⟨s, hBefore⟩ := ih _ hSplit
      obtain ⟨earlier, later, hEarlier, hRevise, hIds, hFresh, hEligible, -⟩ := h.prefix hSplit
      have hTracks := tracks_of_foldlM hIds hEligible hEarlier hBefore
      obtain ⟨s', hApply⟩ := (hTracks.exists_apply_iff hFresh hRevise).mpr
        (hDirect before event after earlier hSplit hEarlier)
      exact ⟨s', foldlM_append_eq_ok.mpr ⟨s, hBefore, foldlM_cons_eq_ok.mpr ⟨s', hApply, rfl⟩⟩⟩

/-- A ledger of chains is materialized into their latest revisions exactly where every
correction and cancellation names the latest id of its chain, or the one that was named last. -/
theorem chains_resolved_iff (events : List (TradeLedgerEvent D)) (chains : List (Chain D))
    (h : Revisable events chains) : Resolved events chains ↔ AllNamedDirectly events := by
  rw [← h.exists_foldlM_iff]
  constructor
  · rintro ⟨trades, hTrades, -⟩
    obtain ⟨-, s, hFold, -⟩ := materializeTrades_eq_ok.mp hTrades
    exact ⟨s, hFold⟩
  · rintro ⟨s, hFold⟩
    have hIds := ((inSequence_perm events).map (·.tradeId)).nodup_iff.mpr h.ids
    have hTracks := tracks_of_foldlM hIds (fun e he => h.eligible e (mem_inSequence.mp he))
      h.revised hFold
    refine ⟨_, materializeTrades_eq_ok.mpr ⟨h.sequence, s, hFold, rfl⟩, ?_⟩
    exact (sortedBy_perm _ _).trans hTracks.trades_perm

/-! ### A chain of four events -/

/-- A trade that is corrected twice, and then by the name of the latest revision but one. -/
def followedLedger : List (TradeLedgerEvent Decimal) :=
  [ledgerEvent 1 "a" none ledgerIds_a, ledgerEvent 2 "b" (some "a") ledgerIds_b,
    ledgerEvent 3 "c" (some "b") (by decide +kernel), ledgerEvent 4 "d" (some "b") (by decide +kernel)]

theorem followedLedger_revisable : Revisable followedLedger [followedLedger.reverse] where
  sequence := by decide
  ids := by decide
  eligible := by decide
  revised := rfl

theorem followedLedger_resolved : Resolved followedLedger [followedLedger.reverse] ↔
    AllNamedDirectly followedLedger :=
  chains_resolved_iff _ _ followedLedger_revisable

/-- The same trade, whose last correction names the original again. -/
def revisitedLedger : List (TradeLedgerEvent Decimal) :=
  [ledgerEvent 1 "a" none ledgerIds_a, ledgerEvent 2 "b" (some "a") ledgerIds_b,
    ledgerEvent 3 "c" (some "b") (by decide +kernel), ledgerEvent 4 "d" (some "a") (by decide +kernel)]

theorem revisitedLedger_unresolved : Revisable revisitedLedger [revisitedLedger.reverse] ∧
    ¬ Resolved revisitedLedger [revisitedLedger.reverse] := by
  refine ⟨⟨by decide, by decide, by decide, rfl⟩, ?_⟩
  rintro ⟨trades, h, -⟩
  have hError : ∃ error, materializeTrades revisitedLedger = .error error := ⟨_, rfl⟩
  obtain ⟨error, hError⟩ := hError
  rw [hError] at h
  cases h

end Daybreak.Features
