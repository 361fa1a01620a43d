import Daybreak.Features.Conservation
import Daybreak.Features.Frames

/-! What the features of a candidate take from after the snapshot. The joins leave out the
float records and the catalysts that were observed later. Trade events that came later do not
show where they keep to trades of their own; the daily bars and the historical sessions are all
used, whatever their dates. -/

namespace Daybreak.Features

open Contracts Daybreak.Order Effect Fallible Numeric DecimalArithmetic

variable {D : Type} [DecimalArithmetic D] {rt : Runtime D} {context : FeatureContext D}
  {source source' : CandidateSourceData D} {events : List (TradeLedgerEvent D)}
  {snapshot : Timestamp}

/-! ### What was known -/

/-- The event is of the snapshot or before. -/
def EventFields.knownBy (snapshot : Timestamp) (event : EventFields D) : Bool :=
  event.eventTimestamp ≤ snapshot

def knownEvents (snapshot : Timestamp) (events : List (TradeLedgerEvent D)) :
    List (TradeLedgerEvent D) := events.filter (·.knownBy snapshot)

def laterEvents (snapshot : Timestamp) (events : List (TradeLedgerEvent D)) :
    List (TradeLedgerEvent D) := events.filter (!·.knownBy snapshot)

/-- Two sources of one ticker have the same scalar fields, and the same events, float records and
catalysts as of the snapshot. -/
structure KnownAlike (snapshot : Timestamp) (source source' : CandidateSourceData D) : Prop where
  ticker : source.ticker = source'.ticker
  halted : source.halted = source'.halted
  borrowStatus : source.borrowStatus = source'.borrowStatus
  previousRegularClose : source.previousRegularClose = source'.previousRegularClose
  historyComplete : source.historyCompleteSinceListing = source'.historyCompleteSinceListing
  events : knownEvents snapshot source.currentSessionEvents =
    knownEvents snapshot source'.currentSessionEvents
  floatRecords : source.floatRecords.filter (·.observedAt ≤ snapshot) =
    source'.floatRecords.filter (·.observedAt ≤ snapshot)
  catalysts : source.catalysts.filter (·.observedAt ≤ snapshot) =
    source'.catalysts.filter (·.observedAt ≤ snapshot)

/-- The sources are alike as of the snapshot, also in the daily bars and in the historical
sessions of the dates before that of the session. -/
structure AlikeBefore (snapshot : Timestamp) (sessionDate : Day)
    (source source' : CandidateSourceData D) : Prop extends KnownAlike snapshot source source' where
  dailyBars : source.dailyBars.filter (·.sessionDate < sessionDate) =
    source'.dailyBars.filter (·.sessionDate < sessionDate)
  sessions : source.historicalPremarketSessions.filter (·.sessionDate < sessionDate) =
    source'.historicalPremarketSessions.filter (·.sessionDate < sessionDate)

/-- The events after the snapshot have sequence numbers and ids of their own, can be applied on
their own, are outside of the window and can be written as canonical JSON. -/
structure LaterApart (rt : Runtime D) (context : FeatureContext D)
    (events : List (TradeLedgerEvent D)) : Prop where
  sequence : ((knownEvents context.payloadTimestamp events).map (·.ingestSeq)).Nodup →
    (events.map (·.ingestSeq)).Nodup
  names : ∀ known ∈ knownEvents context.payloadTimestamp events,
    ∀ later ∈ laterEvents context.payloadTimestamp events, ∀ id ∈ known.names, id ∉ later.names
  materialized : ∃ trades, materializeTrades (laterEvents context.payloadTimestamp events) = .ok trades
  outside : ∀ later ∈ laterEvents context.payloadTimestamp events, ∀ trade : MaterializedTrade D,
    trade.eventTimestamp = later.eventTimestamp →
      inPremarketWindow rt.zone context.payloadTimestamp context.config trade = .ok false
  written : ∀ later ∈ laterEvents context.payloadTimestamp events, ∀ x ∈ later.numbers, Writable x

/-- What a calculation is compared by: the code of a `DataQualityError`, or another exception. -/
def FeatureError.code : FeatureError → DataQualityCode ⊕ PyError
  | .dataQuality code _ => .inl code
  | .raised error => .inr error

/-- The same error code, or features that are equal but for `feature_source_hash`. -/
structure SameOutcome (x y : FeatureResult (CandidateFeatures D)) : Prop where
  related : Related (fun e e' => e.code = e'.code) (fun features features' =>
    { features with featureSourceHash := features'.featureSourceHash } = features') x y

/-! ### The joins -/

theorem selectFloatRecord_known {records : List FloatRecord} {ticker : String}
    {config : FeatureEngineConfig D} : selectFloatRecord records ticker snapshot config =
      selectFloatRecord (records.filter (·.observedAt ≤ snapshot)) ticker snapshot config := by
  have hUsable : records.filter (·.Usable ticker snapshot config) =
      (records.filter (·.observedAt ≤ snapshot)).filter (·.Usable ticker snapshot config) := by
    rw [List.filter_filter]
    apply List.filter_congr
    intro record _
    simp only [Bool.and_eq_decide, decide_eq_decide, decide_eq_true_eq]
    exact ⟨fun h => ⟨h, h.2.2.1⟩, And.left⟩
  unfold selectFloatRecord
  rw [hUsable]

theorem selectCatalyst_known {ofFloat : ℚ → D} {records : List CatalystRecord} {ticker : String} :
    selectCatalyst ofFloat records ticker snapshot =
      selectCatalyst ofFloat (records.filter (·.observedAt ≤ snapshot)) ticker snapshot := by
  have hKnown : records.filter (fun record => record.ticker = ticker ∧ record.observedAt ≤ snapshot) =
      (records.filter (·.observedAt ≤ snapshot)).filter
        (fun record => record.ticker = ticker ∧ record.observedAt ≤ snapshot) := by
    rw [List.filter_filter]
    apply List.filter_congr
    intro record _
    simp only [Bool.and_eq_decide, decide_eq_decide, decide_eq_true_eq]
    exact ⟨fun h => ⟨h, h.2⟩, And.left⟩
  unfold selectCatalyst
  rw [hKnown]

/-! ### The ledger -/

theorem inSequence_filter {kind : TradeLedgerEvent D → Bool} (h : (events.map (·.ingestSeq)).Nodup) :
    inSequence (events.filter kind) = (inSequence events).filter kind := by
  have hKey : KeyOn (fun event : TradeLedgerEvent D => (event.ingestSeq : ℕ)) events :=
    fun a ha b hb hSame => List.inj_on_of_nodup_map h ha hb (PNat.eq hSame)
  refine (eq_sortedBy (hKey.mono fun _ h => (List.mem_filter.mp h).1) ?_ ?_).symm
  · exact (inSequence_perm events).filter kind
  · exact (pairwise_sortedBy _ events).filter _

theorem materializeTrades_of_nodup (h : (events.map (·.ingestSeq)).Nodup) :
    materializeTrades events = (inSequence events).foldlM LedgerState.apply .empty >>= fun s =>
      .ok (sortedBy MaterializedTrade.timeKey s.trades) := by
  have hOrdered : ((inSequence events).map (·.ingestSeq)).Nodup :=
    ((inSequence_perm events).map _).nodup_iff.mpr h
  unfold materializeTrades
  exact if_neg (not_not.mpr hOrdered)

theorem materializeTrades_of_not_nodup (h : ¬ (events.map (·.ingestSeq)).Nodup) :
    materializeTrades events = .error (.dataQuality .duplicateIngestSequence
      "trade events contain duplicate ingest_seq") := by
  have hOrdered : ¬ ((inSequence events).map (·.ingestSeq)).Nodup :=
    fun hNodup => h (((inSequence_perm events).map _).nodup_iff.mp hNodup)
  unfold materializeTrades
  exact if_pos hOrdered

/-- The ids that the known events name. -/
def knownIds (snapshot : Timestamp) (events : List (TradeLedgerEvent D)) : Set String :=
  {id | ∃ event ∈ knownEvents snapshot events, id ∈ event.names}

/-- Both ledgers raise the same error, or the whole one has the trades of the known events and
trades of after the snapshot. -/
theorem LaterApart.framed (h : LaterApart rt context events)
    (hNodup : (events.map (·.ingestSeq)).Nodup) :
    Related (· = ·) (fun s a : LedgerState D => ∀ trade, trade ∈ a.trades ↔
        trade ∈ s.trades ∧ trade.eventTimestamp ≤ context.payloadTimestamp)
      ((inSequence events).foldlM LedgerState.apply .empty)
      ((inSequence (knownEvents context.payloadTimestamp events)).foldlM LedgerState.apply .empty) := by
  obtain ⟨_, hTrades⟩ := h.materialized
  obtain ⟨-, b, hFold, -⟩ := materializeTrades_eq_ok.mp hTrades
  rw [laterEvents, inSequence_filter hNodup] at hFold
  have hOwn : ∀ event ∈ inSequence events, event.knownBy context.payloadTimestamp = true →
      ∀ id ∈ event.names, id ∈ knownIds context.payloadTimestamp events := by
    intro event hMem hKnown id hId
    exact ⟨event, List.mem_filter.mpr ⟨mem_inSequence.mp hMem, hKnown⟩, hId⟩
  have hOther : ∀ event ∈ inSequence events, event.knownBy context.payloadTimestamp = false →
      ∀ id ∈ event.names, id ∉ knownIds context.payloadTimestamp events := by
    rintro event hMem hLater id hId ⟨known, hKnown, hKnownId⟩
    have hMemLater : event ∈ laterEvents context.payloadTimestamp events :=
      List.mem_filter.mpr ⟨mem_inSequence.mp hMem, by simp [hLater]⟩
    exact h.names known hKnown event hMemLater id hKnownId hId
  have hFramed := LedgerState.foldlM_framed hOwn hOther hFold
  rw [← inSequence_filter hNodup] at hFramed
  apply hFramed.mono
  intro s a hs ha hAgree trade
  rw [mem_trades_iff hs, mem_trades_iff ha]
  constructor
  · intro hStored
    obtain ⟨event, hMem, hBooked, hId⟩ := booked_of_foldlM ha hStored
    rw [mem_inSequence] at hMem
    have hIn : trade.tradeId ∈ knownIds context.payloadTimestamp events :=
      ⟨event, hMem, hId ▸ List.mem_cons_self⟩
    rw [hAgree.1.active _ hIn, TradeLedgerEvent.booked_timestamp hBooked]
    exact ⟨hStored, of_decide_eq_true (List.mem_filter.mp hMem).2⟩
  · rintro ⟨hStored, hTime⟩
    obtain ⟨event, hMem, hBooked, hId⟩ := booked_of_foldlM hs hStored
    rw [mem_inSequence] at hMem
    rw [TradeLedgerEvent.booked_timestamp hBooked] at hTime
    have hKnown : event ∈ knownEvents context.payloadTimestamp events :=
      List.mem_filter.mpr ⟨hMem, decide_eq_true hTime⟩
    rw [← hAgree.1.active _ ⟨event, hKnown, hId ▸ List.mem_cons_self⟩]
    exact hStored

/-- The trades of the window are those of the known events. -/
theorem LaterApart.currentSessionTrades_known (h : LaterApart rt context events) :
    currentSessionTrades rt.zone events context.payloadTimestamp context.config =
      currentSessionTrades rt.zone (knownEvents context.payloadTimestamp events)
        context.payloadTimestamp context.config := by
  unfold currentSessionTrades
  by_cases hKnown : ((knownEvents context.payloadTimestamp events).map (·.ingestSeq)).Nodup
  · have hNodup := h.sequence hKnown
    rw [materializeTrades_of_nodup hNodup, materializeTrades_of_nodup hKnown, bind_assoc, bind_assoc]
    apply (h.framed hNodup).bind_eq
    intro s a hs ha hSame
    have hLater : ∀ trade ∈ sortedBy MaterializedTrade.timeKey s.trades,
        decide (trade.eventTimestamp ≤ context.payloadTimestamp) = false →
          inPremarketWindow rt.zone context.payloadTimestamp context.config trade = .ok false := by
      intro trade hTrade hTime
      obtain ⟨event, hMem, hBooked, -⟩ :=
        booked_of_foldlM hs ((mem_trades_iff hs).mp (mem_sortedBy.mp hTrade))
      have hStamp := TradeLedgerEvent.booked_timestamp hBooked
      refine h.outside event (List.mem_filter.mpr ⟨mem_inSequence.mp hMem, ?_⟩) trade hStamp
      rw [hStamp] at hTime
      simp [EventFields.knownBy, hTime]
    have hTrades : (sortedBy MaterializedTrade.timeKey s.trades).filter
        (fun trade => decide (trade.eventTimestamp ≤ context.payloadTimestamp)) =
          sortedBy MaterializedTrade.timeKey a.trades := by
      apply eq_sortedBy (keyOn_trades ha)
      · apply (List.perm_ext_iff_of_nodup ?_ (trades_nodup ha)).mpr
        · intro trade
          rw [List.mem_filter, mem_sortedBy, hSame trade, decide_eq_true_eq]
        · exact ((sortedBy_perm _ _).nodup_iff.mpr (trades_nodup hs)).filter _
      · exact (pairwise_sortedBy _ _).filter _
    rw [ok_bind, ok_bind, filterOk_filter hLater, hTrades]
  · have hRepeated : ¬ (events.map (·.ingestSeq)).Nodup :=
      fun hNodup => hKnown (hNodup.sublist (List.filter_sublist.map _))
    rw [materializeTrades_of_not_nodup hKnown, materializeTrades_of_not_nodup hRepeated]

/-! ### Two sources -/

theorem LaterApart.writable_iff (h : LaterApart rt context events) :
    (∀ x ∈ events.flatMap (·.numbers), Writable x) ↔
      ∀ x ∈ (knownEvents context.payloadTimestamp events).flatMap (·.numbers), Writable x := by
  simp only [List.mem_flatMap, forall_exists_index, and_imp]
  constructor
  · intro hAll x event hMem
    exact hAll x event (List.mem_filter.mp hMem).1
  · intro hKnown x event hMem hx
    cases hTime : event.knownBy context.payloadTimestamp with
    | true => exact hKnown x event (List.mem_filter.mpr ⟨hMem, hTime⟩) hx
    | false => exact h.written event (List.mem_filter.mpr ⟨hMem, by simp [hTime]⟩) x hx

/-- Hashes of values are both made where the numbers of both can be written. -/
theorem related_sha256 {α : Type} {sha256 : α → String} {numbers numbers' : List ℚ} {a a' : α}
    (h : (∀ x ∈ numbers, Writable x) ↔ ∀ x ∈ numbers', Writable x) :
    Related (fun e e' : FeatureError => e.code = e'.code) (fun _ _ => True)
      (raising (canonicalSha256 sha256 numbers a)) (raising (canonicalSha256 sha256 numbers' a')) := by
  unfold canonicalSha256
  by_cases hWritable : ∀ x ∈ numbers', Writable x
  · rw [if_pos (h.mpr hWritable), if_pos hWritable]
    trivial
  · rw [if_neg (mt h.mp hWritable), if_neg hWritable]
    rfl

/-- Two sources that agree as of the snapshot, with the same daily bars and historical sessions
and with later events that keep to themselves, have the same outcome. -/
theorem calculateCandidate_pointInTime (rt : Runtime D) (context : FeatureContext D)
    (source source' : CandidateSourceData D)
    (hAlike : KnownAlike context.payloadTimestamp source source')
    (hBars : source.dailyBars = source'.dailyBars)
    (hSessions : source.historicalPremarketSessions = source'.historicalPremarketSessions)
    (hLater : LaterApart rt context source.currentSessionEvents)
    (hLater' : LaterApart rt context source'.currentSessionEvents) :
    SameOutcome (calculateCandidate rt context source) (calculateCandidate rt context source') := by
  have hTrades : currentSessionTrades rt.zone source.currentSessionEvents context.payloadTimestamp
      context.config = currentSessionTrades rt.zone source'.currentSessionEvents
        context.payloadTimestamp context.config := by
    rw [hLater.currentSessionTrades_known, hLater'.currentSessionTrades_known, hAlike.events]
  have hFloat : selectFloatRecord source.floatRecords source.ticker context.payloadTimestamp
      context.config = selectFloatRecord source'.floatRecords source'.ticker context.payloadTimestamp
        context.config := by
    rw [selectFloatRecord_known, hAlike.floatRecords, hAlike.ticker, ← selectFloatRecord_known]
  have hCatalyst : selectCatalyst rt.ofFloat source.catalysts source.ticker
      context.payloadTimestamp = selectCatalyst rt.ofFloat source'.catalysts source'.ticker
        context.payloadTimestamp := by
    rw [selectCatalyst_known, hAlike.catalysts, hAlike.ticker, ← selectCatalyst_known]
  have hWritable : (∀ x ∈ source.currentSessionEvents.flatMap (·.numbers), Writable x) ↔
      ∀ x ∈ source'.currentSessionEvents.flatMap (·.numbers), Writable x := by
    rw [hLater.writable_iff, hLater'.writable_iff, hAlike.events]
  have hSame : ∀ e : FeatureError, e.code = e.code := fun _ => rfl
  constructor
  unfold calculateCandidate
  apply related_bind hSame hTrades
  intro trades _
  apply related_bind hSame rfl
  intro price _
  apply related_bind hSame rfl
  intro low _
  apply related_bind hSame (by rw [hBars])
  intro atr _
  apply related_bind hSame rfl
  intro vwap _
  apply related_bind hSame (by rw [hSessions])
  intro rvol _
  apply related_bind hSame rfl
  intro profile _
  apply related_bind hSame (by rw [hBars, hAlike.historyComplete])
  intro resistance _
  apply related_bind hSame hFloat
  intro record _
  apply related_bind hSame hCatalyst
  intro selected _
  apply related_bind hSame (by rw [hAlike.previousRegularClose])
  intro gap _
  apply related_bind hSame rfl
  intro distance _
  apply Related.bind (related_sha256 ?_)
  · intro hash hash' _ _ _
    apply related_bind hSame rfl
    intro rvol _
    apply related_bind hSame rfl
    intro atr _
    apply related_bind hSame rfl
    intro vwap _
    apply related_bind hSame rfl
    intro age _
    simp only [pure, Except.pure, Related, hAlike.ticker, hAlike.halted, hAlike.borrowStatus]
  · simp only [SourceMaterial.numbers, List.forall_mem_append, hWritable, hBars, hSessions]

/-! ### A candidate, and what may come later -/

/-- An hour after the snapshot of the sample context. -/
def laterTrade (seq : ℕ+) (size : ℕ+) : TradeLedgerEvent Decimal where
  ingestSeq := seq
  tradeId := "t2"
  action := .new
  eventTimestamp := sampleDay + hours 14
  price := some (dollars 25)
  size := some size
  valid :=
    ⟨⟨(by decide +kernel : ValidTradeId "t2"), fun _ h => absurd h (Option.not_mem_none _)⟩,
      rfl, rfl, rfl⟩

def laterCancel (original : String) (h : ValidTradeId original) : TradeLedgerEvent Decimal where
  ingestSeq := 2
  tradeId := "t2"
  action := .cancel
  eventTimestamp := sampleDay + hours 14
  originalTradeId := some original
  valid := ⟨⟨(by decide +kernel : ValidTradeId "t2"), fun _ hSame => Option.some.inj hSame ▸ h⟩, rfl⟩

def pointContext : FeatureContext Decimal := sampleContext [] (by decide)

def knownSource : CandidateSourceData Decimal :=
  sampleSource "AAAA" "FDA approval" [sampleTrade] canonical_AAAA approval_nonempty

def laterFloat : FloatRecord :=
  { sampleFloat "AAAA" with
    observedAt := sampleDay + hours 14
    floatShares := Nat.succPNat 0 }

def laterCatalyst : CatalystRecord :=
  { sampleCatalyst "AAAA" "Denied" (by decide +kernel) with observedAt := sampleDay + hours 14 }

/-- A further trade, float record and catalyst of after the snapshot. -/
def laterSource : CandidateSourceData Decimal :=
  { knownSource with
    currentSessionEvents := [sampleTrade, laterTrade 2 100]
    floatRecords := [sampleFloat "AAAA", laterFloat]
    catalysts := [laterCatalyst, sampleCatalyst "AAAA" "FDA approval" approval_nonempty]
    float_ticker := List.forall_mem_cons.mpr ⟨rfl, List.forall_mem_singleton.mpr rfl⟩
    catalyst_ticker := List.forall_mem_cons.mpr ⟨rfl, List.forall_mem_singleton.mpr rfl⟩ }

theorem sampleTrade_known : sampleTrade.knownBy pointContext.payloadTimestamp = true := by
  decide

theorem laterTrade_later {seq size : ℕ+} :
    (laterTrade seq size).knownBy pointContext.payloadTimestamp = false := by
  change decide (sampleDay + hours 14 ≤ sampleDay + hours 13) = false
  decide

theorem knownSource_apart : LaterApart sampleRuntime pointContext knownSource.currentSessionEvents := by
  have hLater : laterEvents pointContext.payloadTimestamp knownSource.currentSessionEvents = [] := by
    simp [laterEvents, knownSource, sampleSource, sampleTrade_known]
  constructor
  case sequence => exact fun _ => by decide
  case names => simp [hLater]
  case materialized => exact ⟨[], by rw [hLater]; rfl⟩
  case outside => simp [hLater]
  case written => simp [hLater]

theorem laterSource_apart : LaterApart sampleRuntime pointContext laterSource.currentSessionEvents := by
  have hKnown : knownEvents pointContext.payloadTimestamp laterSource.currentSessionEvents =
      [sampleTrade] := by
    simp [knownEvents, laterSource, sampleTrade_known, laterTrade_later]
  have hLater : laterEvents pointContext.payloadTimestamp laterSource.currentSessionEvents =
      [laterTrade 2 100] := by
    simp [laterEvents, laterSource, sampleTrade_known, laterTrade_later]
  constructor
  case sequence => exact fun _ => by decide
  case names =>
    rw [hKnown, hLater]
    decide
  case materialized =>
    rw [hLater]
    exact ⟨_, rfl⟩
  case outside =>
    rw [hLater, List.forall_mem_singleton]
    intro trade hTime
    unfold inPremarketWindow
    rw [hTime]
    decide
  case written =>
    rw [hLater, List.forall_mem_singleton]
    decide +kernel

theorem laterSource_alike : KnownAlike pointContext.payloadTimestamp laterSource knownSource := by
  have hFloat : (sampleFloat "AAAA").observedAt ≤ pointContext.payloadTimestamp := by decide
  have hLaterFloat : ¬ laterFloat.observedAt ≤ pointContext.payloadTimestamp := by decide
  have hCatalyst : (sampleCatalyst "AAAA" "FDA approval" (by decide)).observedAt ≤
      pointContext.payloadTimestamp := by decide
  have hLaterCatalyst : ¬ laterCatalyst.observedAt ≤ pointContext.payloadTimestamp := by
    decide
  constructor
  case events =>
    simp [knownEvents, laterSource, knownSource, sampleSource, sampleTrade_known, laterTrade_later]
  case floatRecords => simp [laterSource, knownSource, sampleSource, hFloat, hLaterFloat]
  case catalysts => simp [laterSource, knownSource, sampleSource, hCatalyst, hLaterCatalyst]
  all_goals simp [laterSource]

theorem laterSource_sameOutcome :
    SameOutcome (calculateCandidate sampleRuntime pointContext laterSource)
      (calculateCandidate sampleRuntime pointContext knownSource) := by
  apply calculateCandidate_pointInTime sampleRuntime pointContext laterSource knownSource
    laterSource_alike ?_ ?_ laterSource_apart knownSource_apart
  · simp [laterSource]
  · simp [laterSource]

/-! ### What shows -/

/-- The code of an error, or how many daily bars the features count. -/
def summary : FeatureResult (CandidateFeatures D) → (DataQualityCode ⊕ PyError) ⊕ ℕ
  | .error e => .inl e.code
  | .ok features => .inr features.resistance.availableCompletedBars

theorem SameOutcome.summary_eq {x y : FeatureResult (CandidateFeatures D)} (h : SameOutcome x y) :
    summary x = summary y := by
  have hRelated := h.related
  cases x with
  | error e =>
    cases y with
    | error e' => exact congrArg Sum.inl hRelated
    | ok features => exact hRelated.elim
  | ok features =>
    cases y with
    | error e => exact hRelated.elim
    | ok features' =>
      have hBars := congrArg (·.resistance.availableCompletedBars) hRelated
      exact congrArg Sum.inr hBars

def withEvents (events : List (TradeLedgerEvent Decimal)) : CandidateSourceData Decimal :=
  { knownSource with currentSessionEvents := events }

/-- The cancellation of a known trade, that of an unknown one, a sequence number that is taken, a
size of more than 4300 digits, a daily bar and a historical session of the session date. -/
def alteredSources : List (CandidateSourceData Decimal) :=
  [withEvents [sampleTrade, laterCancel "t1" validTradeId_t1],
    withEvents [sampleTrade, laterCancel "t9" (by decide +kernel)],
    withEvents [sampleTrade, laterTrade (Nat.succPNat 0) 100],
    withEvents [sampleTrade, laterTrade 2 ⟨10 ^ 4300, by positivity⟩],
    { knownSource with
      dailyBars := knownSource.dailyBars ++ [sampleBar sampleDate]
      bars_sorted := by decide +kernel },
    { knownSource with
      historicalPremarketSessions := knownSource.historicalPremarketSessions ++
        [{ sessionDate := sampleDate, events := [], complete := false }] }]

theorem summary_knownSource : summary (calculateCandidate sampleRuntime pointContext knownSource) =
    .inr 30 := by decide +kernel

theorem summary_altered : alteredSources.map (fun source =>
      summary (calculateCandidate sampleRuntime pointContext source)) =
    [.inl (.inl .noEligiblePremarketTrades), .inl (.inl .unknownOriginalTrade),
      .inl (.inl .duplicateIngestSequence), .inl (.inr (.other "ValueError")), .inr 31,
      .inl (.inl .incompleteRvolSession)] := by decide +kernel

theorem withEvents_alike {sessionDate : Day} {events events' : List (TradeLedgerEvent Decimal)}
    (h : knownEvents snapshot events = knownEvents snapshot events') :
    AlikeBefore snapshot sessionDate (withEvents events) (withEvents events') := by
  constructor
  case toKnownAlike =>
    constructor
    case events => exact h
    all_goals rfl
  all_goals rfl

theorem alteredSources_alike : ∀ source ∈ alteredSources,
    AlikeBefore pointContext.payloadTimestamp sampleDate source knownSource := by
  have hCancel {original : String} (h : ValidTradeId original) :
      (laterCancel original h).knownBy pointContext.payloadTimestamp = false :=
    @laterTrade_later 2 1
  have hEvents {later : TradeLedgerEvent Decimal}
      (h : later.knownBy pointContext.payloadTimestamp = false) :
      knownEvents pointContext.payloadTimestamp [sampleTrade, later] =
        knownEvents pointContext.payloadTimestamp [sampleTrade] := by
    simp [knownEvents, sampleTrade_known, h]
  have hSame : KnownAlike pointContext.payloadTimestamp knownSource knownSource := by
    constructor <;> rfl
  simp only [alteredSources, List.forall_mem_cons]
  refine ⟨withEvents_alike (hEvents (hCancel _)), withEvents_alike (hEvents (hCancel _)),
    withEvents_alike (hEvents laterTrade_later), withEvents_alike (hEvents laterTrade_later), ?_, ?_,
    nofun⟩
  · exact { hSame with
      dailyBars := by simp [sampleBar]
      sessions := rfl }
  · exact { hSame with
      dailyBars := rfl
      sessions := by simp }

/-! ### The clock is set back -/

/-- New York in the autumn of 2026, when the clock is set back on 1 November. -/
def autumnZone : TimeZone := fun value =>
  let offset := if value < sampleDay + hours 2166 then hours 4 else hours 5
  .ok ⟨utcDate (value - offset), ((value - offset) % 86400000000).toNat⟩

def autumnRuntime : Runtime Decimal := { sampleRuntime with zone := autumnZone }

/-- At half past one, before the clock is set back. -/
def autumnContext : FeatureContext Decimal :=
  { pointContext with
    evaluationTimestamp := sampleDay + hours 2166
    payloadTimestamp := sampleDay + hours 2165 + 1800000000
    config := { sampleConfig with premarketStartEt := "00:00:00" }
    ordered := by decide }

/-- At ten past one, after the clock was set back. -/
def autumnTrade : TradeLedgerEvent Decimal := sampleEvent (sampleDay + hours 2166 + 600000000) 600000

/-- Sources that agree in all that was known by the snapshot, and differ in their outcomes. -/
theorem later_data_shows :
    (sampleZone pointContext.payloadTimestamp = .ok ⟨sampleDate, 32400000000⟩ ∧
      ∀ source ∈ alteredSources,
        AlikeBefore pointContext.payloadTimestamp sampleDate source knownSource ∧
        ¬ SameOutcome (calculateCandidate sampleRuntime pointContext source)
          (calculateCandidate sampleRuntime pointContext knownSource)) ∧
    autumnZone autumnContext.payloadTimestamp = .ok ⟨sampleDate + 90, 5400000000⟩ ∧
    AlikeBefore autumnContext.payloadTimestamp (sampleDate + 90) (withEvents [autumnTrade])
      (withEvents []) ∧
    ¬ SameOutcome
      (calculateCandidate autumnRuntime autumnContext (withEvents [autumnTrade]))
      (calculateCandidate autumnRuntime autumnContext (withEvents [])) := by
  refine ⟨⟨by decide, ?_⟩, by decide, withEvents_alike ?_, ?_⟩
  · intro source hSource
    refine ⟨alteredSources_alike source hSource, ?_⟩
    intro h
    have hMem : summary (calculateCandidate sampleRuntime pointContext source) ∈
        alteredSources.map fun source =>
          summary (calculateCandidate sampleRuntime pointContext source) :=
      List.mem_map_of_mem hSource
    rw [h.summary_eq, summary_knownSource, summary_altered] at hMem
    simp at hMem
  · have hLater : autumnTrade.knownBy autumnContext.payloadTimestamp = false := by decide
    simp [knownEvents, hLater]
  · intro h
    have hSummary := h.summary_eq
    revert hSummary
    decide +kernel

end Daybreak.Features
