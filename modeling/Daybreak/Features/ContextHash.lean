import Daybreak.Features.Conservation
import Daybreak.Features.ContextText
import Daybreak.Features.DateText

/-! What the canonical JSON of a context tells. Every field is told by the text but the
decimals that are not whole, of which only their doubles are: contexts have one text, and one
hash, exactly where they agree but for decimals that share their double. -/

namespace Daybreak.Features

open Contracts Numeric DecimalArithmetic Serial

variable {D : Type} [DecimalArithmetic D]

/-! ### Contexts that agree

Contexts agree in every field, and in their decimals as far as `N` tells. -/

variable (N : D → D → Prop)

@[mk_iff]
structure TradeLedgerEvent.Agree (a b : TradeLedgerEvent D) : Prop where
  ingestSeq : a.ingestSeq = b.ingestSeq
  tradeId : a.tradeId = b.tradeId
  action : a.action = b.action
  eventTimestamp : a.eventTimestamp = b.eventTimestamp
  price : Option.Rel (fun x y : PositiveDecimal D => N x.1 y.1) a.price b.price
  size : a.size = b.size
  originalTradeId : a.originalTradeId = b.originalTradeId
  eligible : a.eligible = b.eligible

@[mk_iff]
structure PremarketSession.Agree (a b : PremarketSession D) : Prop where
  sessionDate : a.sessionDate = b.sessionDate
  events : List.Forall₂ (TradeLedgerEvent.Agree N) a.events b.events
  complete : a.complete = b.complete

@[mk_iff]
structure DailyBar.Agree (a b : DailyBar D) : Prop where
  sessionDate : a.sessionDate = b.sessionDate
  openPrice : N a.openPrice.1 b.openPrice.1
  high : N a.high.1 b.high.1
  low : N a.low.1 b.low.1
  close : N a.close.1 b.close.1
  volume : a.volume = b.volume

@[mk_iff]
structure CandidateSourceData.Agree (a b : CandidateSourceData D) : Prop where
  ticker : a.ticker = b.ticker
  halted : a.halted = b.halted
  borrowStatus : a.borrowStatus = b.borrowStatus
  previousRegularClose : N a.previousRegularClose.1 b.previousRegularClose.1
  currentSessionEvents :
    List.Forall₂ (TradeLedgerEvent.Agree N) a.currentSessionEvents b.currentSessionEvents
  historicalPremarketSessions : List.Forall₂ (PremarketSession.Agree N)
    a.historicalPremarketSessions b.historicalPremarketSessions
  dailyBars : List.Forall₂ (DailyBar.Agree N) a.dailyBars b.dailyBars
  historyCompleteSinceListing : a.historyCompleteSinceListing = b.historyCompleteSinceListing
  floatRecords : a.floatRecords = b.floatRecords
  catalysts : a.catalysts = b.catalysts

/-- The order of the keys of a dictionary does not matter. -/
@[mk_iff]
structure FeatureEngineConfig.Agree (a b : FeatureEngineConfig D) : Prop where
  moduleVersions : a.moduleVersions.Perm b.moduleVersions
  premarketStartEt : a.premarketStartEt = b.premarketStartEt
  snapshotTimeEt : a.snapshotTimeEt = b.snapshotTimeEt
  rvolLookbackSessions : a.rvolLookbackSessions = b.rvolLookbackSessions
  minDailyHistory : a.minDailyHistory = b.minDailyHistory
  clusterToleranceAtr : N a.clusterToleranceAtr b.clusterToleranceAtr
  blueSkySentinel : N a.blueSkySentinel b.blueSkySentinel
  spikyMaxBucketShare : N a.spikyMaxBucketShare b.spikyMaxBucketShare
  spikyMinNonemptyCoverage : N a.spikyMinNonemptyCoverage b.spikyMinNonemptyCoverage
  gapMinPct : N a.gapMinPct b.gapMinPct
  premarketVolumeMin : a.premarketVolumeMin = b.premarketVolumeMin
  rvolMin : N a.rvolMin b.rvolMin
  resistanceMinAtr : N a.resistanceMinAtr b.resistanceMinAtr
  maxEvaluatorCandidates : a.maxEvaluatorCandidates = b.maxEvaluatorCandidates
  allowSingleSourceFloat : a.allowSingleSourceFloat = b.allowSingleSourceFloat

@[mk_iff]
structure FeatureContext.Agree (a b : FeatureContext D) : Prop where
  evaluationTimestamp : a.evaluationTimestamp = b.evaluationTimestamp
  payloadTimestamp : a.payloadTimestamp = b.payloadTimestamp
  catalystFreshnessThresholdHours :
    N a.catalystFreshnessThresholdHours.1 b.catalystFreshnessThresholdHours.1
  marketStatus : a.marketStatus = b.marketStatus
  candidates : List.Forall₂ (CandidateSourceData.Agree N) a.candidates b.candidates
  config : FeatureEngineConfig.Agree N a.config b.config

/-! ### Dates

A `date` and a `datetime` are of the years one to 9999. -/

def Instant (t : Timestamp) : Prop := InCalendar (utcDate t)

instance decidableInstant (t : Timestamp) : Decidable (Instant t) :=
  inferInstanceAs (Decidable (InCalendar _))

structure PremarketSession.Dated (s : PremarketSession D) : Prop where
  sessionDate : InCalendar s.sessionDate
  events : ∀ e ∈ s.events, Instant e.eventTimestamp

structure FloatRecord.Dated (r : FloatRecord) : Prop where
  effectiveDate : InCalendar r.effectiveDate
  observedAt : Instant r.observedAt
  validatedAt : Instant r.validatedAt
  expiresAt : Instant r.expiresAt

structure CatalystRecord.Dated (c : CatalystRecord) : Prop where
  sourceTimestamp : Instant c.sourceTimestamp
  observedAt : Instant c.observedAt

structure CandidateSourceData.Dated (s : CandidateSourceData D) : Prop where
  events : ∀ e ∈ s.currentSessionEvents, Instant e.eventTimestamp
  sessions : ∀ session ∈ s.historicalPremarketSessions, session.Dated
  bars : ∀ bar ∈ s.dailyBars, InCalendar bar.sessionDate
  floats : ∀ record ∈ s.floatRecords, record.Dated
  catalysts : ∀ catalyst ∈ s.catalysts, catalyst.Dated

structure FeatureContext.Dated (c : FeatureContext D) : Prop where
  evaluationTimestamp : Instant c.evaluationTimestamp
  payloadTimestamp : Instant c.payloadTimestamp
  candidates : ∀ candidate ∈ c.candidates, candidate.Dated

/-! ### What the text tells -/

theorem timestamp_eq_iff {s t : Timestamp} (hs : Instant s) (ht : Instant t) :
    (timestamp s).canonical = (timestamp t).canonical ↔ s = t := by
  constructor
  · intro h
    exact utcZ_injective hs ht (Decoded.str.inj h)
  · rintro rfl
    rfl

theorem day_eq_iff {d e : Day} (hd : InCalendar d) (he : InCalendar e) :
    (day d).canonical = (day e).canonical ↔ d = e := by
  constructor
  · intro h
    exact isoDate_injective hd he (Decoded.str.inj h)
  · rintro rfl
    rfl

@[simp] theorem integer_eq_iff {m n : ℤ} :
    (integer m).canonical = (integer n).canonical ↔ m = n := by
  simp [integer, Decoded.canonical]

@[simp] theorem str_eq_iff {s t : String} :
    (Decoded.str s).canonical = (Decoded.str t).canonical ↔ s = t := by
  simp [Decoded.canonical]

@[simp] theorem bool_eq_iff {p q : Bool} :
    (Decoded.bool p).canonical = (Decoded.bool q).canonical ↔ p = q := by
  simp [Decoded.canonical]

theorem optional_rel_eq {α : Type} {x y : Option α} : Option.Rel (· = ·) x y ↔ x = y := by
  cases x <;> cases y <;> simp

theorem optional_str_eq_iff {x y : Option String} :
    (Decoded.optional .str x).canonical = (Decoded.optional .str y).canonical ↔ x = y := by
  rw [Decoded.optional_eq_iff (by simp [Decoded.canonical]) fun _ _ _ _ => str_eq_iff,
    optional_rel_eq]

theorem optional_size_eq_iff {x y : Option ℕ+} :
    (Decoded.optional (fun size : ℕ+ => integer (size : ℕ)) x).canonical =
      (Decoded.optional (fun size : ℕ+ => integer (size : ℕ)) y).canonical ↔ x = y := by
  rw [Decoded.optional_eq_iff (R := (· = ·)) (by simp [integer, Decoded.canonical]),
    optional_rel_eq]
  simp

theorem optional_price_eq_iff {x y : Option (PositiveDecimal D)} :
    (Decoded.optional (fun price : PositiveDecimal D => number price.1) x).canonical =
      (Decoded.optional (fun price : PositiveDecimal D => number price.1) y).canonical ↔
      Option.Rel (fun x y : PositiveDecimal D => WrittenAlike x.1 y.1) x y := by
  refine Decoded.optional_eq_iff (fun price => ?_) fun _ _ _ _ => number_eq_iff
  rw [canonical_number]
  unfold number
  split_ifs <;> simp

theorem array_str_eq_iff {xs ys : List String} :
    (Decoded.array .str xs).canonical = (Decoded.array .str ys).canonical ↔ xs = ys := by
  rw [Decoded.array_eq_iff _ _ fun _ _ _ _ => str_eq_iff, List.forall₂_eq_eq_eq]

theorem array_flags_eq_iff {xs ys : List DisqualifierFlag} :
    (Decoded.array (fun flag : DisqualifierFlag => .str flag.value) xs).canonical =
      (Decoded.array (fun flag : DisqualifierFlag => .str flag.value) ys).canonical ↔ xs = ys := by
  rw [Decoded.array_eq_iff (R := (· = ·)) _ _, List.forall₂_eq_eq_eq]
  intro a _ b _
  rw [str_eq_iff, DisqualifierFlag.value_inj]

theorem TradeLedgerEvent.toJsonable_eq_iff {a b : TradeLedgerEvent D}
    (ha : Instant a.eventTimestamp) (hb : Instant b.eventTimestamp) :
    a.toJsonable.canonical = b.toJsonable.canonical ↔ a.Agree WrittenAlike b := by
  rw [toJsonable, toJsonable, Decoded.record_eq_iff (by simp [fields]), agree_iff]
  simp only [fields, List.forall_mem_cons, List.not_mem_nil, false_implies, implies_true, and_true,
    integer_eq_iff, str_eq_iff, bool_eq_iff, timestamp_eq_iff ha hb, TradeAction.value_inj,
    optional_price_eq_iff, optional_size_eq_iff, optional_str_eq_iff, Nat.cast_inj, PNat.coe_inj]

theorem PremarketSession.toJsonable_eq_iff {a b : PremarketSession D} (ha : a.Dated)
    (hb : b.Dated) : a.toJsonable.canonical = b.toJsonable.canonical ↔ a.Agree WrittenAlike b := by
  rw [toJsonable, toJsonable, Decoded.record_eq_iff (by simp [fields]), agree_iff]
  have hEvents := Decoded.array_eq_iff a.events b.events
    fun x hx y hy => TradeLedgerEvent.toJsonable_eq_iff (ha.events x hx) (hb.events y hy)
  simp only [fields, List.forall_mem_cons, List.not_mem_nil, false_implies, implies_true, and_true,
    bool_eq_iff, day_eq_iff ha.sessionDate hb.sessionDate, hEvents]

theorem DailyBar.toJsonable_eq_iff {a b : DailyBar D} (ha : InCalendar a.sessionDate)
    (hb : InCalendar b.sessionDate) :
    a.toJsonable.canonical = b.toJsonable.canonical ↔ a.Agree WrittenAlike b := by
  rw [toJsonable, toJsonable, Decoded.record_eq_iff (by simp [fields]), agree_iff]
  simp only [fields, List.forall_mem_cons, List.not_mem_nil, false_implies, implies_true, and_true,
    integer_eq_iff, day_eq_iff ha hb, number_eq_iff, Nat.cast_inj]

theorem FloatRecord.toJsonable_eq_iff {a b : FloatRecord} (ha : a.Dated) (hb : b.Dated) :
    a.toJsonable.canonical = b.toJsonable.canonical ↔ a = b := by
  rw [toJsonable, toJsonable, Decoded.record_eq_iff (by simp [fields])]
  simp only [fields, List.forall_mem_cons, List.not_mem_nil, false_implies, implies_true, and_true,
    integer_eq_iff, str_eq_iff, day_eq_iff ha.effectiveDate hb.effectiveDate,
    timestamp_eq_iff ha.observedAt hb.observedAt, timestamp_eq_iff ha.validatedAt hb.validatedAt,
    timestamp_eq_iff ha.expiresAt hb.expiresAt, QualityStatus.value_inj, FloatSource.value_inj,
    array_str_eq_iff, Nat.cast_inj, PNat.coe_inj]
  cases a
  cases b
  simp only [mk.injEq]

theorem CatalystRecord.toJsonable_eq_iff {a b : CatalystRecord} (ha : a.Dated) (hb : b.Dated) :
    a.toJsonable.canonical = b.toJsonable.canonical ↔ a = b := by
  rw [toJsonable, toJsonable, Decoded.record_eq_iff (by simp [fields])]
  simp only [fields, List.forall_mem_cons, List.not_mem_nil, false_implies, implies_true, and_true,
    str_eq_iff, bool_eq_iff, timestamp_eq_iff ha.sourceTimestamp hb.sourceTimestamp,
    timestamp_eq_iff ha.observedAt hb.observedAt, SourceType.value_inj, array_flags_eq_iff]
  cases a
  cases b
  simp only [mk.injEq]

theorem CandidateSourceData.toJsonable_eq_iff {a b : CandidateSourceData D} (ha : a.Dated)
    (hb : b.Dated) : a.toJsonable.canonical = b.toJsonable.canonical ↔ a.Agree WrittenAlike b := by
  rw [toJsonable, toJsonable, Decoded.record_eq_iff (by simp [fields]), agree_iff]
  have hEvents := Decoded.array_eq_iff a.currentSessionEvents b.currentSessionEvents
    fun x hx y hy => TradeLedgerEvent.toJsonable_eq_iff (ha.events x hx) (hb.events y hy)
  have hSessions := Decoded.array_eq_iff a.historicalPremarketSessions b.historicalPremarketSessions
    fun x hx y hy => PremarketSession.toJsonable_eq_iff (ha.sessions x hx) (hb.sessions y hy)
  have hBars := Decoded.array_eq_iff a.dailyBars b.dailyBars
    fun x hx y hy => DailyBar.toJsonable_eq_iff (ha.bars x hx) (hb.bars y hy)
  have hFloats := Decoded.array_eq_iff a.floatRecords b.floatRecords
    fun x hx y hy => FloatRecord.toJsonable_eq_iff (ha.floats x hx) (hb.floats y hy)
  have hCatalysts := Decoded.array_eq_iff a.catalysts b.catalysts
    fun x hx y hy => CatalystRecord.toJsonable_eq_iff (ha.catalysts x hx) (hb.catalysts y hy)
  simp only [fields, List.forall_mem_cons, List.not_mem_nil, false_implies, implies_true, and_true,
    str_eq_iff, bool_eq_iff, BorrowStatus.value_inj, number_eq_iff, hEvents, hSessions, hBars,
    hFloats, hCatalysts, List.forall₂_eq_eq_eq]

theorem FeatureEngineConfig.toJsonable_eq_iff {a b : FeatureEngineConfig D} :
    a.toJsonable.canonical = b.toJsonable.canonical ↔ a.Agree WrittenAlike b := by
  rw [toJsonable, toJsonable, Decoded.record_eq_iff (by simp [fields]), agree_iff]
  simp only [fields, List.forall_mem_cons, List.not_mem_nil, false_implies, implies_true, and_true,
    true_and, integer_eq_iff, str_eq_iff, bool_eq_iff, number_eq_iff,
    Decoded.texts_eq_iff a.versions_nodup, Nat.cast_inj]

theorem FeatureContext.toJsonable_eq_iff {a b : FeatureContext D} (ha : a.Dated) (hb : b.Dated) :
    a.toJsonable.canonical = b.toJsonable.canonical ↔ a.Agree WrittenAlike b := by
  rw [toJsonable, toJsonable, Decoded.record_eq_iff (by simp [fields]), agree_iff]
  have hCandidates := Decoded.array_eq_iff a.candidates b.candidates
    fun x hx y hy => CandidateSourceData.toJsonable_eq_iff (ha.candidates x hx) (hb.candidates y hy)
  simp only [fields, List.forall_mem_cons, List.not_mem_nil, false_implies, implies_true, and_true,
    str_eq_iff, timestamp_eq_iff ha.evaluationTimestamp hb.evaluationTimestamp,
    timestamp_eq_iff ha.payloadTimestamp hb.payloadTimestamp, number_eq_iff,
    MarketStatus.value_inj, hCandidates, FeatureEngineConfig.toJsonable_eq_iff]

/-! ### Hashes -/

/-- The numbers of the context are written without an error. -/
def FeatureContext.Written (c : FeatureContext D) : Prop := ∀ x ∈ c.numbers, Writable x

instance decidableWritten (c : FeatureContext D) : Decidable c.Written := by
  unfold FeatureContext.Written
  infer_instance

/-- `canonical_json_text` of a context that it does not refuse. -/
def FeatureContext.canonicalText (c : FeatureContext D) : String := c.toJsonable.canonical.dumps

/-- `canonical_json_bytes` -/
def FeatureContext.canonicalJsonBytes (c : FeatureContext D) : Result String :=
  if c.Written then .ok c.canonicalText else .error (.other "ValueError")

/-- `context_hash`, with `sha256` of the text. -/
def FeatureContext.contextHash (sha256 : String → String) (c : FeatureContext D) : Result String :=
  canonicalSha256 (fun c => sha256 c.canonicalText) c.numbers c

theorem FeatureContext.canonicalJsonBytes_eq_ok {c : FeatureContext D} {bytes : String} :
    c.canonicalJsonBytes = .ok bytes ↔ bytes = c.canonicalText ∧ c.Written := by
  unfold canonicalJsonBytes
  split_ifs with h
  · rw [Except.ok.injEq, eq_comm, and_iff_left h]
  · simp [h]

theorem TradeLedgerEvent.finite_toJsonable {e : TradeLedgerEvent D}
    (h : ∀ x ∈ e.numbers, Writable x) : e.toJsonable.finite = true := by
  have hPrice : (Decoded.optional (fun price : PositiveDecimal D => number price.1) e.price).finite
      = true := by
    refine Decoded.finite_optional.mpr fun price hPrice => finite_number (h _ ?_)
    simp only [EventFields.numbers, Option.mem_def.mp hPrice]
    simp
  have hSize : (Decoded.optional (fun size : ℕ+ => integer (size : ℕ)) e.size).finite = true :=
    Decoded.finite_optional.mpr fun _ _ => rfl
  have hOriginal : (Decoded.optional .str e.originalTradeId).finite = true :=
    Decoded.finite_optional.mpr fun _ _ => rfl
  refine Decoded.finite_record.mpr ?_
  simp only [fields, List.forall_mem_cons, List.not_mem_nil, false_implies, implies_true, and_true]
  exact ⟨rfl, rfl, rfl, rfl, hPrice, hSize, hOriginal, rfl⟩

/-- The events of a list are written where their numbers are. -/
theorem finite_events {events : List (TradeLedgerEvent D)}
    (h : ∀ x ∈ events.flatMap (·.numbers), Writable x) :
    (Decoded.array TradeLedgerEvent.toJsonable events).finite = true :=
  Decoded.finite_array.mpr fun e he => TradeLedgerEvent.finite_toJsonable fun x hx =>
    h x (List.mem_flatMap.mpr ⟨e, he, hx⟩)

theorem PremarketSession.finite_toJsonable {s : PremarketSession D}
    (h : ∀ x ∈ s.numbers, Writable x) : s.toJsonable.finite = true := by
  refine Decoded.finite_record.mpr ?_
  simp only [fields, List.forall_mem_cons, List.not_mem_nil, false_implies, implies_true, and_true]
  exact ⟨rfl, finite_events h, rfl⟩

theorem DailyBar.finite_toJsonable {b : DailyBar D} (h : ∀ x ∈ b.numbers, Writable x) :
    b.toJsonable.finite = true := by
  refine Decoded.finite_record.mpr ?_
  simp only [numbers, List.forall_mem_cons] at h
  obtain ⟨hOpen, hHigh, hLow, hClose, -⟩ := h
  simp only [fields, List.forall_mem_cons, List.not_mem_nil, false_implies, implies_true, and_true]
  exact ⟨rfl, finite_number hOpen, finite_number hHigh, finite_number hLow, finite_number hClose,
    rfl, rfl, rfl⟩

theorem FloatRecord.finite_toJsonable (r : FloatRecord) : r.toJsonable.finite = true := by
  have hHashes : (Decoded.array .str r.rawResponseHashes).finite = true :=
    Decoded.finite_array.mpr fun _ _ => rfl
  refine Decoded.finite_record.mpr ?_
  simp only [fields, List.forall_mem_cons, List.not_mem_nil, false_implies, implies_true, and_true]
  exact ⟨rfl, rfl, rfl, rfl, rfl, rfl, rfl, rfl, hHashes⟩

theorem CatalystRecord.finite_toJsonable (c : CatalystRecord) : c.toJsonable.finite = true := by
  have hFlags : (Decoded.array (fun flag : DisqualifierFlag => .str flag.value)
      c.disqualifierFlags).finite = true := Decoded.finite_array.mpr fun _ _ => rfl
  refine Decoded.finite_record.mpr ?_
  simp only [fields, List.forall_mem_cons, List.not_mem_nil, false_implies, implies_true, and_true]
  exact ⟨rfl, rfl, rfl, rfl, rfl, rfl, rfl, rfl, hFlags, rfl⟩

theorem CandidateSourceData.finite_toJsonable {s : CandidateSourceData D}
    (h : ∀ x ∈ s.numbers, Writable x) : s.toJsonable.finite = true := by
  simp only [numbers, List.cons_append, List.forall_mem_cons, List.mem_append, or_imp,
    forall_and] at h
  obtain ⟨hClose, ⟨⟨hEvents, hSessions⟩, hBars⟩, -⟩ := h
  refine Decoded.finite_record.mpr ?_
  have hSession (session) (hs : session ∈ s.historicalPremarketSessions) :=
    PremarketSession.finite_toJsonable fun x hx =>
      hSessions x (List.mem_flatMap.mpr ⟨session, hs, hx⟩)
  have hBar (bar) (hb : bar ∈ s.dailyBars) :=
    DailyBar.finite_toJsonable fun x hx => hBars x (List.mem_flatMap.mpr ⟨bar, hb, hx⟩)
  simp only [fields, List.forall_mem_cons, List.not_mem_nil, false_implies, implies_true, and_true]
  exact ⟨rfl, rfl, rfl, finite_number hClose, finite_events hEvents,
    Decoded.finite_array.mpr hSession, Decoded.finite_array.mpr hBar, rfl,
    Decoded.finite_array.mpr fun r _ => r.finite_toJsonable,
    Decoded.finite_array.mpr fun c _ => c.finite_toJsonable⟩

theorem FeatureEngineConfig.finite_toJsonable {c : FeatureEngineConfig D}
    (h : ∀ x ∈ c.numbers, Writable x) : c.toJsonable.finite = true := by
  have hVersions : (Decoded.dict (c.moduleVersions.map fun entry =>
      (entry.1, .str entry.2))).finite = true := by
    rw [Decoded.finite, Decoded.finiteEntries_eq_all, List.all_map, List.all_eq_true]
    exact fun _ _ => rfl
  simp only [numbers, List.forall_mem_cons] at h
  obtain ⟨-, -, hTolerance, hSentinel, hShare, hCoverage, hGap, -, hRvol, hResistance, -⟩ := h
  refine Decoded.finite_record.mpr ?_
  simp only [fields, List.forall_mem_cons, List.not_mem_nil, false_implies, implies_true, and_true]
  exact ⟨rfl, hVersions, rfl, rfl, rfl, rfl, rfl, rfl, rfl, rfl, finite_number hTolerance, rfl, rfl,
    finite_number hSentinel, rfl, finite_number hShare, finite_number hCoverage, finite_number hGap,
    rfl, finite_number hRvol, finite_number hResistance, rfl, rfl⟩

theorem FeatureContext.finite_toJsonable {c : FeatureContext D} (h : c.Written) :
    c.toJsonable.finite = true := by
  simp only [Written, numbers, List.cons_append, List.forall_mem_cons, List.mem_append, or_imp,
    forall_and] at h
  obtain ⟨hHours, hCandidates, hConfig⟩ := h
  refine Decoded.finite_record.mpr ?_
  have hCandidate (candidate) (hc : candidate ∈ c.candidates) :=
    CandidateSourceData.finite_toJsonable fun x hx =>
      hCandidates x (List.mem_flatMap.mpr ⟨candidate, hc, hx⟩)
  simp only [fields, List.forall_mem_cons, List.not_mem_nil, false_implies, implies_true, and_true]
  exact ⟨rfl, rfl, finite_number hHours, rfl, Decoded.finite_array.mpr hCandidate,
    FeatureEngineConfig.finite_toJsonable hConfig⟩

/-- Contexts have one text exactly where they agree but for decimals that are written alike. -/
theorem FeatureContext.canonicalText_eq_iff {a b : FeatureContext D} (ha : a.Dated) (hb : b.Dated)
    (haWritten : a.Written) (hbWritten : b.Written) :
    a.canonicalText = b.canonicalText ↔ a.Agree WrittenAlike b := by
  have hFinite {c : FeatureContext D} (hc : c.Written) : c.toJsonable.canonical.finite = true := by
    rw [Decoded.finite_canonical, finite_toJsonable hc]
  rw [← toJsonable_eq_iff ha hb]
  constructor
  · exact Decoded.dumps_injective (hFinite haWritten) (hFinite hbWritten)
  · exact congrArg _

/-- The text and the hash of a context are of no other one. -/
structure Identified (a b : FeatureContext D) : Prop where
  bytes : ∀ bytes, a.canonicalJsonBytes = .ok bytes → b.canonicalJsonBytes = .ok bytes →
    a.Agree SameNumber b
  hashes : ∀ sha256 : String → String, Function.Injective sha256 → ∀ hash,
    a.contextHash sha256 = .ok hash → b.contextHash sha256 = .ok hash → a.Agree SameNumber b

/-- Contexts that are both written and differ, but only in decimals that are not whole and
share their doubles. -/
structure Confused (a b : FeatureContext D) : Prop where
  written : a.Written ∧ b.Written
  alike : a.Agree WrittenAlike b
  different : ¬a.Agree SameNumber b

theorem Confused.not_identified {a b : FeatureContext D} (h : Confused a b) (ha : a.Dated)
    (hb : b.Dated) : ¬Identified a b := by
  intro hIdentified
  obtain ⟨⟨haWritten, hbWritten⟩, hAlike, hDifferent⟩ := h
  have hText := (FeatureContext.canonicalText_eq_iff ha hb haWritten hbWritten).mpr hAlike
  exact hDifferent (hIdentified.bytes _
    (FeatureContext.canonicalJsonBytes_eq_ok.mpr ⟨rfl, haWritten⟩)
    (FeatureContext.canonicalJsonBytes_eq_ok.mpr ⟨hText, hbWritten⟩))

/-- Contexts are told apart but where their decimals differ beyond the precision of a double. -/
theorem identified_iff {a b : FeatureContext D} (ha : a.Dated) (hb : b.Dated) :
    Identified a b ↔ ¬Confused a b := by
  have hSame (haWritten : a.Written) (hbWritten : b.Written) (hConfused : ¬Confused a b)
      (hText : a.canonicalText = b.canonicalText) : a.Agree SameNumber b := by
    by_contra hDifferent
    exact hConfused ⟨⟨haWritten, hbWritten⟩,
      (FeatureContext.canonicalText_eq_iff ha hb haWritten hbWritten).mp hText, hDifferent⟩
  constructor
  · exact fun hIdentified hConfused => hConfused.not_identified ha hb hIdentified
  · intro hConfused
    constructor
    case bytes =>
      intro bytes hA hB
      obtain ⟨haText, haWritten⟩ := FeatureContext.canonicalJsonBytes_eq_ok.mp hA
      obtain ⟨hbText, hbWritten⟩ := FeatureContext.canonicalJsonBytes_eq_ok.mp hB
      exact hSame haWritten hbWritten hConfused (haText.symm.trans hbText)
    case hashes =>
      intro sha256 hInjective hash hA hB
      obtain ⟨haHash, haWritten⟩ := canonicalSha256_eq_ok.mp hA
      obtain ⟨hbHash, hbWritten⟩ := canonicalSha256_eq_ok.mp hB
      exact hSame haWritten hbWritten hConfused (hInjective (haHash.symm.trans hbHash))

/-! ### Two prices of one double -/

/-- A candidate with a trade at this price. -/
def tradedSource (price : PositiveDecimal Decimal) : CandidateSourceData Decimal :=
  sampleSource "AAAA" "FDA approval" [{ sampleTrade with price := some price }] canonical_AAAA
    approval_nonempty

def tradedAt (price : PositiveDecimal Decimal) : FeatureContext Decimal :=
  sampleContext [tradedSource price] (List.nodup_singleton _)

def tenPointOne : PositiveDecimal Decimal := ⟨⟨false, 101, -1⟩, by decide +kernel⟩

/-- More than ten dollars and ten cents, by less than a double tells. -/
def aboveTenPointOne : PositiveDecimal Decimal :=
  ⟨⟨false, 101000000000000000000001, -22⟩, by decide +kernel⟩

theorem tradedAt_dated (price : PositiveDecimal Decimal) : (tradedAt price).Dated := by
  have hDays : ∀ bar ∈ (List.range 30).map fun i => sampleBar (sampleDate - 30 + i),
      InCalendar bar.sessionDate := by decide +kernel
  refine ⟨(by decide : Instant (sampleDay + hours 13 + 60000000)),
    (by decide : Instant (sampleDay + hours 13)), ?_⟩
  intro candidate hCandidate
  obtain rfl := List.mem_singleton.mp hCandidate
  constructor
  case events =>
    intro e he
    obtain rfl := List.mem_singleton.mp he
    exact (by decide : Instant (sampleDay + hours 12))
  case sessions =>
    intro session hSession
    obtain rfl := List.mem_singleton.mp hSession
    refine ⟨(by decide : InCalendar (sampleDate - 3)), fun e he => ?_⟩
    obtain rfl := List.mem_singleton.mp he
    exact (by decide : Instant (sampleDay - hours 60))
  case bars =>
    exact hDays
  case floats =>
    intro record hRecord
    obtain rfl := List.mem_singleton.mp hRecord
    exact ⟨(by decide : InCalendar (sampleDate - 30)), (by decide : Instant (sampleDay - hours 24)),
      (by decide : Instant (sampleDay - hours 24)), (by decide : Instant (sampleDay + hours 24))⟩
  case catalysts =>
    intro catalyst hCatalyst
    obtain rfl := List.mem_singleton.mp hCatalyst
    exact ⟨(by decide : Instant (sampleDay + hours 11)), (by decide : Instant (sampleDay + hours 11))⟩

/-- The contexts agree as far as their prices do. -/
theorem tradedAt_agree {N : Decimal → Decimal → Prop} (hRefl : ∀ x, N x x)
    {price price' : PositiveDecimal Decimal} :
    (tradedAt price).Agree N (tradedAt price') ↔ N price.1 price'.1 := by
  have hEvent (e : TradeLedgerEvent Decimal) : e.Agree N e := by
    refine ⟨rfl, rfl, rfl, rfl, ?_, rfl, rfl, rfl⟩
    cases e.price with
    | none => exact .none
    | some price => exact .some (hRefl _)
  have hSession (s : PremarketSession Decimal) : s.Agree N s :=
    ⟨rfl, List.forall₂_same.mpr fun e _ => hEvent e, rfl⟩
  have hBar (b : DailyBar Decimal) : b.Agree N b :=
    ⟨rfl, hRefl _, hRefl _, hRefl _, hRefl _, rfl⟩
  have hConfig (c : FeatureEngineConfig Decimal) : c.Agree N c :=
    ⟨.refl _, rfl, rfl, rfl, rfl, hRefl _, hRefl _, hRefl _, hRefl _, hRefl _, rfl, hRefl _,
      hRefl _, rfl, rfl⟩
  constructor
  · intro h
    obtain ⟨hCandidate, -⟩ := List.forall₂_cons.mp h.candidates
    obtain ⟨hTrade, -⟩ := List.forall₂_cons.mp hCandidate.currentSessionEvents
    cases hTrade.price with
    | some hPrice => exact hPrice
  · intro h
    refine ⟨rfl, rfl, hRefl _, rfl, .cons ?_ .nil, hConfig _⟩
    exact ⟨rfl, rfl, rfl, hRefl _, .cons ⟨rfl, rfl, rfl, rfl, .some h, rfl, rfl, rfl⟩ .nil,
      List.forall₂_same.mpr fun s _ => hSession s, List.forall₂_same.mpr fun b _ => hBar b, rfl,
      rfl, rfl⟩

theorem tradedAt_confused : Confused (tradedAt tenPointOne) (tradedAt aboveTenPointOne) := by
  constructor
  case written => exact ⟨by decide +kernel, by decide +kernel⟩
  case alike =>
    refine (tradedAt_agree fun _ => .inl rfl).mpr (.inr ⟨by decide +kernel, by decide +kernel, ?_⟩)
    exact ⟨by decide +kernel, by decide +kernel⟩
  case different =>
    rw [tradedAt_agree (N := SameNumber) fun _ => rfl]
    change ¬value tenPointOne.1 = value aboveTenPointOne.1
    decide +kernel

/-- Two market states share their text and their hash. -/
theorem tradedAt_not_identified :
    ¬Identified (tradedAt tenPointOne) (tradedAt aboveTenPointOne) :=
  tradedAt_confused.not_identified (tradedAt_dated _) (tradedAt_dated _)

theorem tradedAt_identified_iff :
    Identified (tradedAt tenPointOne) (tradedAt aboveTenPointOne) ↔
      ¬Confused (tradedAt tenPointOne) (tradedAt aboveTenPointOne) :=
  identified_iff (tradedAt_dated _) (tradedAt_dated _)

end Daybreak.Features
