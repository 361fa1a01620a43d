import Daybreak.Effect.Fallible
import Daybreak.Recorder.Repository
import Daybreak.Serial.Jsonb

/-! The event log in PostgreSQL. An event is inserted as a row whose payload is a `jsonb` value,
and is validated again when its row is read, so that a number that the column writes in another
way fails the hash of the payload and ends the iteration. -/

namespace Daybreak.Recorder

open Daybreak.Order Effect Effect.Fallible Numeric Serial

/-! ### The table -/

/-- A row of `raw_events`; its payload is the value of the text that was inserted. -/
structure RawEventRow where
  ingestSeq : ℕ+
  columns : RawEventFields

/-- The table, and the next number of its sequence. -/
structure RawEventsTable where
  rows : List RawEventRow
  nextSeq : ℕ+

/-- What the database raises for a row, given those of the table. -/
abbrev Refusal := List RawEventRow → RawEventFields → Option PyError

variable {R : Derivations}

namespace PostgresRawEventRepository

def empty : RawEventsTable := ⟨[], 1⟩

/-- `canonical_json_text(payload)`, as the value that it is the text of. -/
def storedPayload (payload : Entries) : Entries :=
  sortedBy Prod.fst (Decoded.canonicalEntries payload)

/-- The columns of an event. -/
def columns (event : RawEvent R) : RawEventFields :=
  { event.toRawEventFields with payload := storedPayload event.payload }

/-- `INSERT ... ON CONFLICT (idempotency_key) DO NOTHING`, which draws a number in any case; an
error keeps the number that comes next. -/
def insertEvent (refuses : Refusal) (progress : RawEventsTable × ℕ) (event : RawEvent R) :
    Except (PyError × ℕ+) (RawEventsTable × ℕ) :=
  let (table, inserted) := progress
  match refuses table.rows (columns event) with
  | some error => .error (error, table.nextSeq + 1)
  | none =>
    if ∃ row ∈ table.rows, row.columns.idempotencyKey = event.idempotencyKey then
      .ok ({ table with nextSeq := table.nextSeq + 1 }, inserted)
    else
      .ok (⟨table.rows ++ [⟨table.nextSeq, columns event⟩], table.nextSeq + 1⟩, inserted + 1)

/-- `append_batch`: the rows of a batch are committed together, or none of them is. -/
def appendBatch (refuses : Refusal) (table : RawEventsTable) (events : List (RawEvent R)) :
    Result AppendBatchResult × RawEventsTable :=
  match events.foldlM (insertEvent refuses) (table, 0) with
  | .ok (after, inserted) =>
    (AppendBatchResult.validate events.length inserted (events.length - inserted), after)
  | .error (error, next) => (.error error, { table with nextSeq := next })

/-- The table after one batch after the other. -/
def appendBatches (refuses : Refusal) (batches : List (List (RawEvent R))) : RawEventsTable :=
  batches.foldl (fun table events => (appendBatch refuses table events).2) empty

/-! ### Reading -/

/-- What `json.loads` makes of the payload of a row. -/
def loadedPayload (payload : Entries) : Entries := sortedBy jsonbKey (jsonbEntries payload)

/-- `RawEvent.model_validate` of a row. -/
def readRow (R : Derivations) (row : RawEventRow) : Result (RawEvent R) :=
  RawEvent.validate R { row.columns with payload := loadedPayload row.columns.payload }

/-- The rows are yielded up to the first one that is refused. -/
def yieldRows (R : Derivations) : List RawEventRow → List (PersistedRawEvent R) × Option PyError
  | [] => ([], none)
  | row :: rows =>
    match readRow R row with
    | .error error => ([], some error)
    | .ok event =>
      let later := yieldRows R rows
      (⟨row.ingestSeq, event, row.ingestSeq.pos⟩ :: later.1, later.2)

/-- The rows that the query selects. -/
def selected (table : RawEventsTable) (ingestSessionId : String) (afterIngestSeq : ℤ) :
    List RawEventRow :=
  sortedBy (fun row => (row.ingestSeq : ℕ)) (table.rows.filter fun row =>
    row.columns.ingestSessionId = ingestSessionId ∧ afterIngestSeq < (row.ingestSeq : ℕ))

/-- `iter_events`: what is yielded, and the error that ends the iteration. -/
def iterEvents (R : Derivations) (table : RawEventsTable) (ingestSessionId : String)
    (afterIngestSeq : ℤ) : List (PersistedRawEvent R) × Option PyError :=
  yieldRows R (selected table ingestSessionId afterIngestSeq)

/-! ### Where the rows come from -/

variable {refuses : Refusal} {table after : RawEventsTable} {events : List (RawEvent R)}
  {batches : List (List (RawEvent R))} {event : RawEvent R}

/-- Every row holds the columns of one of the events. -/
def RowsOf (events : List (RawEvent R)) (table : RawEventsTable) : Prop :=
  ∀ row ∈ table.rows, ∃ event ∈ events, row.columns = columns event

theorem RowsOf.mono {later : List (RawEvent R)} (h : RowsOf events table) (hSubset : events ⊆ later) :
    RowsOf later table := fun row hRow =>
  let ⟨event, hEvent, hColumns⟩ := h row hRow
  ⟨event, hSubset hEvent, hColumns⟩

/-- An insertion adds a row of its event at most. -/
theorem insertEvent_rowsOf {progress next : RawEventsTable × ℕ} (h : RowsOf events progress.1)
    (hEvent : event ∈ events) (hInsert : insertEvent refuses progress event = .ok next) :
    RowsOf events next.1 := by
  unfold insertEvent at hInsert
  simp only at hInsert
  cases hRefused : refuses progress.1.rows (columns event) with
  | some error =>
    rw [hRefused] at hInsert
    cases hInsert
  | none =>
    rw [hRefused] at hInsert
    simp only at hInsert
    split_ifs at hInsert
    · obtain rfl := Except.ok.inj hInsert
      exact h
    · obtain rfl := Except.ok.inj hInsert
      intro row hRow
      rcases List.mem_append.mp hRow with hOld | hNew
      · exact h row hOld
      · obtain rfl := List.mem_singleton.mp hNew
        exact ⟨event, hEvent, rfl⟩

theorem foldlM_insertEvent_rowsOf {later : List (RawEvent R)} {progress next : RawEventsTable × ℕ}
    (h : RowsOf events progress.1) (hLater : later ⊆ events)
    (hInsert : later.foldlM (insertEvent refuses) progress = .ok next) : RowsOf events next.1 := by
  induction later generalizing progress with
  | nil =>
    obtain rfl := Except.ok.inj hInsert
    exact h
  | cons event later ih =>
    rw [List.foldlM_cons] at hInsert
    obtain ⟨middle, hFirst, hRest⟩ := bind_eq_ok.mp hInsert
    obtain ⟨hEvent, hSubset⟩ := List.cons_subset.mp hLater
    exact ih (insertEvent_rowsOf h hEvent hFirst) hSubset hRest

theorem appendBatch_rowsOf (h : RowsOf events table) {batch : List (RawEvent R)}
    (hBatch : batch ⊆ events) : RowsOf events (appendBatch refuses table batch).2 := by
  unfold appendBatch
  cases hInsert : batch.foldlM (insertEvent refuses) (table, 0) with
  | error error => exact h
  | ok next => exact foldlM_insertEvent_rowsOf h hBatch hInsert

theorem appendBatches_rowsOf (refuses : Refusal) (batches : List (List (RawEvent R))) :
    RowsOf batches.flatten (appendBatches refuses batches) := by
  have hFold (later : List (List (RawEvent R))) (table : RawEventsTable)
      (h : RowsOf batches.flatten table) (hLater : later ⊆ batches) :
      RowsOf batches.flatten
        (later.foldl (fun table events => (appendBatch refuses table events).2) table) := by
    induction later generalizing table with
    | nil => exact h
    | cons batch later ih =>
      obtain ⟨hBatch, hSubset⟩ := List.cons_subset.mp hLater
      refine ih _ (appendBatch_rowsOf h ?_) hSubset
      exact fun event hEvent => List.mem_flatten.mpr ⟨batch, hBatch, hEvent⟩
  exact hFold batches empty (fun row hRow => nomatch hRow) fun _ h => h

/-! ### What is read back -/

/-- The events have the same fields, and payloads that differ in the order of their keys only. -/
structure SameEvent (event read : RawEvent R) : Prop where
  fields : read.toRawEventFields = { event.toRawEventFields with payload := read.payload }
  payload : (Decoded.dict read.payload).canonical = (Decoded.dict event.payload).canonical

/-- The payload of an event, as it comes back. -/
def readBack (event : RawEvent R) : Entries := loadedPayload (storedPayload event.payload)

theorem dict_readBack (event : RawEvent R) :
    Decoded.dict (readBack event) = jsonbLoads (Decoded.dict event.payload).canonical := rfl

/-- SHA-256 tells the text of a payload and that of what comes back of it apart. -/
def Distinguished (event : RawEvent R) : Prop :=
  R.sha256 (canonicalJsonText (.dict (readBack event))) =
      R.sha256 (canonicalJsonText (.dict event.payload)) →
    canonicalJsonText (.dict (readBack event)) = canonicalJsonText (.dict event.payload)

/-- A payload that comes back has the hash of the event exactly where its doubles are plain. -/
theorem sha256Hex_readBack_iff (hJson : IsJson (.dict event.payload))
    (hDistinguished : Distinguished event) :
    R.sha256Hex (.dict (readBack event)) = .ok event.payloadSha256 ↔
      PlainFloats (.dict event.payload) := by
  obtain ⟨hFinite, hPrintable, hHash⟩ := Derivations.sha256Hex_eq_ok.mp event.valid.payload
  rw [← jsonbLoads_canonical_iff hJson, ← dict_readBack, Derivations.sha256Hex_eq_ok, hHash]
  constructor
  · rintro ⟨hReadFinite, -, hReadHash⟩
    refine Decoded.dumps_injective ?_ ?_ (hDistinguished hReadHash.symm)
    · rwa [Decoded.finite_canonical]
    · rwa [Decoded.finite_canonical]
  · intro hSame
    refine ⟨?_, ?_, by rw [canonicalJsonText, canonicalJsonText, hSame]⟩
    · rwa [← Decoded.finite_canonical, hSame, Decoded.finite_canonical]
    · rwa [← printable_canonical, hSame, printable_canonical]

/-- A row is read exactly where the doubles of its event's payload are plain. -/
theorem exists_readRow_iff {row : RawEventRow} (hRow : row.columns = columns event)
    (hJson : IsJson (.dict event.payload)) (hDistinguished : Distinguished event) :
    (∃ read, readRow R row = .ok read) ↔ PlainFloats (.dict event.payload) := by
  rw [← sha256Hex_readBack_iff hJson hDistinguished]
  have hFields : { row.columns with payload := loadedPayload row.columns.payload } =
      { event.toRawEventFields with payload := readBack event } := by
    rw [hRow]
    rfl
  have hValid := event.valid
  constructor
  · rintro ⟨read, hRead⟩
    rw [readRow, RawEvent.validate_eq_ok, hFields] at hRead
    have hPayload := read.valid.payload
    rwa [hRead] at hPayload
  · intro hPayload
    refine ⟨⟨{ event.toRawEventFields with payload := readBack event }, ?_⟩, ?_⟩
    · exact {
        channel := hValid.channel
        symbol := hValid.symbol
        symbols := hValid.symbols
        providerEventId := hValid.providerEventId
        sequenceHint := hValid.sequenceHint
        hashes := hValid.hashes
        payload := hPayload
        idempotency := hValid.idempotency
        eventId := hValid.eventId
        tradingDate := hValid.tradingDate }
    · rw [readRow, RawEvent.validate_eq_ok, hFields]

/-- What is read of a row is the event that was inserted. -/
theorem readRow_sameEvent {row : RawEventRow} {read : RawEvent R}
    (hRow : row.columns = columns event) (hJson : IsJson (.dict event.payload))
    (hPlain : PlainFloats (.dict event.payload)) (hRead : readRow R row = .ok read) :
    SameEvent event read := by
  rw [readRow, RawEvent.validate_eq_ok, hRow] at hRead
  have hPayload : read.payload = readBack event := congrArg RawEventFields.payload hRead
  refine ⟨?_, ?_⟩
  · rw [hPayload]
    exact hRead
  · rw [hPayload, dict_readBack]
    exact (jsonbLoads_canonical_iff hJson).mpr hPlain

/-! ### The iteration -/

/-- The iteration ends without an error exactly where every row is read. -/
theorem yieldRows_eq_none_iff {rows : List RawEventRow} :
    (yieldRows R rows).2 = none ↔ ∀ row ∈ rows, ∃ read, readRow R row = .ok read := by
  induction rows with
  | nil => simp [yieldRows]
  | cons row rows ih =>
    rw [List.forall_mem_cons, ← ih]
    cases hRead : readRow R row with
    | error error => simp [yieldRows, hRead]
    | ok event => simp [yieldRows, hRead]

/-- It then yields what every row is read as. -/
theorem exists_yieldRows {rows : List RawEventRow} (h : (yieldRows R rows).2 = none)
    {row : RawEventRow} (hRow : row ∈ rows) :
    ∃ read, readRow R row = .ok read ∧
      (⟨row.ingestSeq, read, row.ingestSeq.pos⟩ : PersistedRawEvent R) ∈ (yieldRows R rows).1 := by
  induction rows with
  | nil => cases hRow
  | cons first rows ih =>
    cases hRead : readRow R first with
    | error error =>
      rw [yieldRows, hRead] at h
      cases h
    | ok event =>
      rw [yieldRows, hRead] at h ⊢
      rcases List.mem_cons.mp hRow with rfl | hLater
      · exact ⟨event, hRead, List.mem_cons_self⟩
      · obtain ⟨read, hLaterRead, hMem⟩ := ih h hLater
        exact ⟨read, hLaterRead, List.mem_cons_of_mem _ hMem⟩

/-- The event was inserted, in a row that the query selects. -/
def Inserted (batches : List (List (RawEvent R))) (table : RawEventsTable)
    (ingestSessionId : String) (afterIngestSeq : ℤ) (event : RawEvent R) : Prop :=
  event ∈ batches.flatten ∧
    ∃ row ∈ selected table ingestSessionId afterIngestSeq, row.columns = columns event

/-- The iteration yields every inserted event, and never fails. -/
def ReadsBack (R : Derivations) (batches : List (List (RawEvent R))) (table : RawEventsTable)
    (ingestSessionId : String) (afterIngestSeq : ℤ) : Prop :=
  (iterEvents R table ingestSessionId afterIngestSeq).2 = none ∧
    ∀ event, Inserted batches table ingestSessionId afterIngestSeq event →
      ∃ item ∈ (iterEvents R table ingestSessionId afterIngestSeq).1, SameEvent event item.event

/-- Recorded events of any batches are read back exactly where all doubles of their payloads are
plain. -/
theorem readsBack_iff (R : Derivations) (refuses : Refusal) (batches : List (List (RawEvent R)))
    (ingestSessionId : String) (afterIngestSeq : ℤ)
    (hJson : ∀ event ∈ batches.flatten, IsJson (.dict event.payload))
    (hDistinguished : ∀ event ∈ batches.flatten, Distinguished event) :
    ReadsBack R batches (appendBatches refuses batches) ingestSessionId afterIngestSeq ↔
      ∀ event, Inserted batches (appendBatches refuses batches) ingestSessionId afterIngestSeq event →
        PlainFloats (.dict event.payload) := by
  constructor
  · rintro ⟨hNone, -⟩ event ⟨hEvent, row, hRow, hColumns⟩
    rw [iterEvents, yieldRows_eq_none_iff] at hNone
    exact (exists_readRow_iff hColumns (hJson event hEvent) (hDistinguished event hEvent)).mp
      (hNone row hRow)
  · intro h
    have hNone : (iterEvents R (appendBatches refuses batches) ingestSessionId
        afterIngestSeq).2 = none := by
      rw [iterEvents, yieldRows_eq_none_iff]
      intro row hRow
      obtain ⟨event, hEvent, hColumns⟩ := appendBatches_rowsOf refuses batches row
        (List.mem_of_mem_filter (mem_sortedBy.mp hRow))
      exact (exists_readRow_iff hColumns (hJson event hEvent) (hDistinguished event hEvent)).mpr
        (h event ⟨hEvent, row, hRow, hColumns⟩)
    refine ⟨hNone, fun event hInserted => ?_⟩
    obtain ⟨hEvent, row, hRow, hColumns⟩ := id hInserted
    obtain ⟨read, hRead, hMem⟩ := exists_yieldRows hNone hRow
    exact ⟨_, hMem, readRow_sameEvent hColumns (hJson event hEvent) (h event hInserted) hRead⟩

/-! ### A number that is written with an exponent -/

def largeFloat : FiniteFloat where
  negative := false
  magnitude := 10 ^ 16
  nonneg := by norm_num
  exact := by decide +kernel
  finite := by decide +kernel

def largePayload : Entries := [("v", .float largeFloat.repr)]

/-- SHA-256, version-5 UUIDs and dates as they are for the event. -/
def tradeDerivations : Derivations where
  sha256 text :=
    if text = "\x7b\"v\":1e+16\x7d" then
      "4fd7b183880bc20e1c8f1f9cabf9241d75c2a161c1caaaab3701c9f899840941"
    else if text = "\x7b\"v\":10000000000000000\x7d" then
      "27f0b3ad1886987ede720fd17ddf862acdb4a4b5620723c1e37cb058d6060e96"
    else "f82800f2890b6ad4fb5986792a784354548a6029b1c6fdbb63f9495dc4e371a1"
  uuid5 _ := "711bead1-64bb-5268-9f8c-db8261e278bb"
  newYorkDate _ := ⟨2026, 8, 3⟩
  sha256_hex text := by
    split_ifs <;> decide +kernel

def tradeRequest : EventRequest where
  ingestSessionId := "11111111-1111-4111-8111-111111111111"
  connectionId := "22222222-2222-4222-8222-222222222222"
  source := .alpacaSip
  channel := "trades"
  eventType := .trade
  eventTimestamp := 1785763800000000
  receivedAt := 1785763800000000
  payload := largePayload
  symbols := ["EXMP"]

theorem largePayload_texts :
    canonicalJsonText (.dict largePayload) = "\x7b\"v\":1e+16\x7d" ∧
    canonicalJsonText (.dict (loadedPayload (storedPayload largePayload))) =
      "\x7b\"v\":10000000000000000\x7d" := by decide +kernel

theorem isJson_largePayload : IsJson (.dict largePayload) :=
  ⟨List.nodup_singleton _, ⟨largeFloat, rfl⟩, trivial⟩

theorem not_plainFloats_largePayload : ¬ PlainFloats (.dict largePayload) := by
  intro h
  have hPlain := h.1 largeFloat rfl
  exact absurd hPlain.1 (lt_irrefl _)

theorem exists_tradeEvent : ∃ event, RawEvent.create tradeDerivations tradeRequest = .ok event ∧
    event.payload = largePayload ∧ event.ingestSessionId = tradeRequest.ingestSessionId := by
  obtain ⟨event, hEvent⟩ : ∃ event, RawEvent.create tradeDerivations tradeRequest = .ok event :=
    RawEvent.exists_create tradeDerivations (by decide +kernel) (by decide +kernel) (by decide)
      (by decide +kernel) (by decide) (by decide)
  obtain ⟨-, -, hPayload, hSession⟩ := RawEvent.create_eq_ok hEvent
  exact ⟨event, hEvent, hPayload, hSession⟩

theorem distinguished_of_largePayload {event : RawEvent tradeDerivations}
    (h : event.payload = largePayload) : Distinguished event := by
  obtain ⟨hText, hReadText⟩ := largePayload_texts
  unfold Distinguished readBack
  rw [h, hText, hReadText]
  intro hHash
  exact absurd hHash (by decide)

theorem selected_single {event : RawEvent tradeDerivations} :
    selected (appendBatches (fun _ _ => none) [[event]]) event.ingestSessionId 0 =
      [⟨1, columns event⟩] := by
  have hTable : (appendBatches (fun _ _ => none) [[event]]).rows = [⟨1, columns event⟩] := by
    simp [appendBatches, appendBatch, insertEvent, empty, pure, Except.pure, bind, Except.bind]
  have hSession : (columns event).ingestSessionId = event.ingestSessionId := rfl
  simp [selected, hTable, hSession, sortedBy]

/-- A payload that `RawEvent.create` accepts, and that ends the iteration. -/
theorem tradeEvent_not_readsBack : ∃ event,
    RawEvent.create tradeDerivations tradeRequest = .ok event ∧ IsJson (.dict event.payload) ∧
    ¬ ReadsBack tradeDerivations [[event]] (appendBatches (fun _ _ => none) [[event]])
      event.ingestSessionId 0 := by
  obtain ⟨event, hEvent, hPayload, -⟩ := exists_tradeEvent
  have hJson : IsJson (.dict event.payload) := hPayload ▸ isJson_largePayload
  refine ⟨event, hEvent, hJson, fun h => ?_⟩
  have hNone := h.1
  rw [iterEvents, yieldRows_eq_none_iff, selected_single] at hNone
  have hRead := hNone ⟨1, columns event⟩ List.mem_cons_self
  have hPlain := (exists_readRow_iff rfl hJson (distinguished_of_largePayload hPayload)).mp hRead
  rw [hPayload] at hPlain
  exact not_plainFloats_largePayload hPlain

theorem tradeEvent_readsBack_iff : ∃ event,
    RawEvent.create tradeDerivations tradeRequest = .ok event ∧
    (ReadsBack tradeDerivations [[event]] (appendBatches (fun _ _ => none) [[event]])
        event.ingestSessionId 0 ↔
      ∀ other, Inserted [[event]] (appendBatches (fun _ _ => none) [[event]])
        event.ingestSessionId 0 other → PlainFloats (.dict other.payload)) := by
  obtain ⟨event, hEvent, hPayload, -⟩ := exists_tradeEvent
  refine ⟨event, hEvent, readsBack_iff _ _ _ _ _ ?_ ?_⟩
  · intro other hOther
    obtain rfl : other = event := by simpa using hOther
    exact hPayload ▸ isJson_largePayload
  · intro other hOther
    obtain rfl : other = event := by simpa using hOther
    exact distinguished_of_largePayload hPayload

end PostgresRawEventRepository

end Daybreak.Recorder
