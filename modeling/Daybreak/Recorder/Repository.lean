import Daybreak.Recorder.Events

/-! The event log in memory. A batch goes to the end of the log event by event, an event whose
idempotency key is taken only counts as a duplicate, and the numbers of the events are their
places in the log. -/

namespace Daybreak.Recorder

open Effect

/-- `AppendBatchResult` -/
structure AppendBatchResult where
  attempted : ℕ
  inserted : ℕ
  duplicates : ℕ
  counts : inserted + duplicates = attempted

def AppendBatchResult.validate (attempted inserted duplicates : ℕ) : Result AppendBatchResult :=
  if h : inserted + duplicates = attempted then .ok ⟨attempted, inserted, duplicates, h⟩
  else .error (.valueError "inserted + duplicates must equal attempted")

variable (R : Derivations)

/-- `PersistedRawEvent` -/
structure PersistedRawEvent where
  ingestSeq : ℕ
  event : RawEvent R
  ingestSeq_pos : 0 < ingestSeq

/-- `InMemoryRawEventRepository` -/
structure InMemoryRawEventRepository where
  events : List (PersistedRawEvent R)
  byIdempotency : Dict String (PersistedRawEvent R)

/-- `append_batch` between two events. -/
structure BatchProgress where
  repository : InMemoryRawEventRepository R
  inserted : ℕ
  duplicates : ℕ

variable {R}

namespace InMemoryRawEventRepository

/-- `InMemoryRawEventRepository.__init__` -/
def new : InMemoryRawEventRepository R := ⟨[], ∅⟩

/-- One round of the loop of `append_batch`. -/
def appendEvent (progress : BatchProgress R) (event : RawEvent R) : BatchProgress R :=
  if event.idempotencyKey ∈ progress.repository.byIdempotency then
    { progress with duplicates := progress.duplicates + 1 }
  else
    let persisted : PersistedRawEvent R :=
      ⟨progress.repository.events.length + 1, event, Nat.succ_pos _⟩
    { repository :=
        { events := progress.repository.events ++ [persisted]
          byIdempotency :=
            progress.repository.byIdempotency.insert event.idempotencyKey persisted }
      inserted := progress.inserted + 1
      duplicates := progress.duplicates }

/-- `append_batch` -/
def appendBatch (repository : InMemoryRawEventRepository R) (events : List (RawEvent R)) :
    Result AppendBatchResult × InMemoryRawEventRepository R :=
  let progress := events.foldl appendEvent ⟨repository, 0, 0⟩
  (AppendBatchResult.validate events.length progress.inserted progress.duplicates,
    progress.repository)

/-- `iter_events` -/
def iterEvents (repository : InMemoryRawEventRepository R) (ingestSessionId : String)
    (afterIngestSeq : ℤ) : List (PersistedRawEvent R) :=
  repository.events.filter fun item =>
    afterIngestSeq < item.ingestSeq ∧ item.event.ingestSessionId = ingestSessionId

/-- The repository after one batch after the other. -/
def appendBatches (repository : InMemoryRawEventRepository R)
    (batches : List (List (RawEvent R))) : InMemoryRawEventRepository R :=
  batches.foldl (fun repository events => (repository.appendBatch events).2) repository

/-! ### The events of the log -/

def idempotencyKey (event : RawEvent R) : String := event.idempotencyKey

/-- The events of the log, without their numbers. -/
def log (repository : InMemoryRawEventRepository R) : List (RawEvent R) :=
  repository.events.map (·.event)

/-- The numbers are the places in the log, and the keys that are taken those of its events. -/
structure Indexed (repository : InMemoryRawEventRepository R) : Prop where
  numbered : repository.events.map (·.ingestSeq) = List.range' 1 repository.events.length
  taken : ∀ key, key ∈ repository.byIdempotency ↔ key ∈ repository.log.map idempotencyKey

variable {repository : InMemoryRawEventRepository R} {progress : BatchProgress R}
  {events : List (RawEvent R)} {event : RawEvent R} {batches later : List (List (RawEvent R))}

theorem indexed_new : (new : InMemoryRawEventRepository R).Indexed :=
  ⟨rfl, fun key => by simp [new, log]⟩

/-- What a round does: it offers the event to the log, and counts what became of it. -/
structure Round (progress : BatchProgress R) (event : RawEvent R) (after : BatchProgress R) :
    Prop where
  indexed : after.repository.Indexed
  earlier : progress.repository.events <+: after.repository.events
  log : after.repository.log = KeyedLog.offer idempotencyKey progress.repository.log event
  inserted : after.inserted + progress.repository.events.length =
    progress.inserted + after.repository.events.length
  counts : after.inserted + after.duplicates = progress.inserted + progress.duplicates + 1

theorem appendEvent_round (event : RawEvent R) (h : progress.repository.Indexed) :
    Round progress event (appendEvent progress event) := by
  unfold appendEvent
  split_ifs with hTaken
  · have hLog := (h.taken _).mp hTaken
    exact ⟨h, List.prefix_rfl, (KeyedLog.offer_of_mem hLog).symm, rfl, rfl⟩
  · have hLog : idempotencyKey event ∉ progress.repository.log.map idempotencyKey :=
      fun hMem => hTaken ((h.taken _).mpr hMem)
    refine ⟨⟨?_, fun key => ?_⟩, List.prefix_append .., ?_, ?_, by simp only; omega⟩
    · rw [List.map_append, h.numbered, List.length_append, List.length_singleton,
        List.range'_concat]
      simp [Nat.add_comm]
    · simp only [AList.mem_insert, h.taken, log, List.map_append, List.mem_append,
        List.map_singleton, List.mem_singleton]
      exact or_comm
    · rw [KeyedLog.offer_of_notMem hLog, log, List.map_append]
      rfl
    · simp only [List.length_append, List.length_singleton]
      omega

/-! ### A batch -/

/-- What a batch does, from its start or from any place in it. -/
structure Appended (progress : BatchProgress R) (events : List (RawEvent R))
    (after : BatchProgress R) : Prop where
  indexed : after.repository.Indexed
  earlier : progress.repository.events <+: after.repository.events
  log : after.repository.log = KeyedLog.offerAll idempotencyKey progress.repository.log events
  inserted : after.inserted + progress.repository.events.length =
    progress.inserted + after.repository.events.length
  counts : after.inserted + after.duplicates =
    progress.inserted + progress.duplicates + events.length

theorem foldl_appended (h : progress.repository.Indexed) :
    Appended progress events (events.foldl appendEvent progress) := by
  induction events generalizing progress with
  | nil => exact ⟨h, List.prefix_rfl, rfl, rfl, rfl⟩
  | cons event events ih =>
    have hFirst := appendEvent_round event h
    have hRest := ih hFirst.indexed
    have hInserted := hFirst.inserted
    have hCounts := hFirst.counts
    have hLater := hRest.inserted
    have hLaterCounts := hRest.counts
    refine ⟨hRest.indexed, hFirst.earlier.trans hRest.earlier, ?_, ?_, ?_⟩
    · rw [List.foldl_cons, hRest.log, hFirst.log]
      rfl
    · rw [List.foldl_cons]
      omega
    · rw [List.foldl_cons, List.length_cons]
      omega

theorem appendBatch_appended (events : List (RawEvent R)) (h : repository.Indexed) :
    Appended ⟨repository, 0, 0⟩ events (events.foldl appendEvent ⟨repository, 0, 0⟩) :=
  foldl_appended h

/-- The result of a batch says how the log grew. -/
theorem appendBatch_result (events : List (RawEvent R)) (h : repository.Indexed) :
    ∃ result, (repository.appendBatch events).1 = .ok result ∧
      result.attempted = events.length ∧
      repository.events.length + result.inserted =
        (repository.appendBatch events).2.events.length := by
  have hBatch := appendBatch_appended events h
  have hCounts := hBatch.counts
  have hInserted := hBatch.inserted
  simp only [Nat.zero_add] at hCounts hInserted
  refine ⟨⟨_, _, _, hCounts⟩, dif_pos hCounts, rfl, ?_⟩
  exact (Nat.add_comm ..).trans hInserted

/-- A batch whose keys are all taken changes nothing. -/
theorem appendBatch_of_taken (h : repository.Indexed)
    (hTaken : ∀ event ∈ events, idempotencyKey event ∈ repository.log.map idempotencyKey) :
    repository.appendBatch events =
      (.ok ⟨events.length, 0, events.length, Nat.zero_add _⟩, repository) := by
  have hRun : ∀ duplicates, events.foldl appendEvent ⟨repository, 0, duplicates⟩ =
      ⟨repository, 0, duplicates + events.length⟩ := by
    induction events with
    | nil => intro duplicates; rfl
    | cons event events ih =>
      intro duplicates
      obtain ⟨hFirst, hRest⟩ := List.forall_mem_cons.mp hTaken
      have hStep : appendEvent ⟨repository, 0, duplicates⟩ event =
          ⟨repository, 0, duplicates + 1⟩ := if_pos ((h.taken _).mpr hFirst)
      rw [List.foldl_cons, hStep, ih hRest, List.length_cons, Nat.add_right_comm, Nat.add_assoc]
  simp only [appendBatch, hRun, Nat.zero_add, AppendBatchResult.validate, dite_true]

/-! ### Runs -/

theorem appendBatches_append : repository.appendBatches (batches ++ later) =
    (repository.appendBatches batches).appendBatches later := List.foldl_append

theorem indexed_appendBatches (batches : List (List (RawEvent R))) (h : repository.Indexed) :
    (repository.appendBatches batches).Indexed := by
  induction batches generalizing repository with
  | nil => exact h
  | cons events batches ih => exact ih (appendBatch_appended events h).indexed

theorem prefix_appendBatches (h : repository.Indexed) :
    repository.events <+: (repository.appendBatches batches).events := by
  induction batches generalizing repository with
  | nil => exact List.prefix_rfl
  | cons events batches ih =>
    have hFirst := appendBatch_appended events h
    exact hFirst.earlier.trans (ih hFirst.indexed)

/-- The log after a run is the log to which all events were offered. -/
theorem log_appendBatches (h : repository.Indexed) :
    (repository.appendBatches batches).log =
      KeyedLog.offerAll idempotencyKey repository.log batches.flatten := by
  induction batches generalizing repository with
  | nil => rfl
  | cons events batches ih =>
    have hFirst := appendBatch_appended events h
    rw [List.flatten_cons, KeyedLog.offerAll_append, ← hFirst.log]
    exact ih hFirst.indexed

end InMemoryRawEventRepository

open InMemoryRawEventRepository

variable {batches : List (List (RawEvent R))}

/-- What a run of batches on an empty repository leaves, and what it did on the way. -/
structure AppendOnlyLog (batches : List (List (RawEvent R))) : Prop where
  numbered : (new.appendBatches batches).events.map (·.ingestSeq) =
    List.range' 1 (new.appendBatches batches).events.length
  distinct : ((new.appendBatches batches).events.map (·.event.idempotencyKey)).Nodup
  offered : ∀ key, (∃ item ∈ (new.appendBatches batches).events, item.event.idempotencyKey = key) ↔
    ∃ events ∈ batches, ∃ event ∈ events, event.idempotencyKey = key
  earlier : ∀ before later, before ++ later = batches →
    (new.appendBatches before).events <+: (new.appendBatches batches).events
  results : ∀ before events later, before ++ events :: later = batches →
    ∃ result, ((new.appendBatches before).appendBatch events).1 = .ok result ∧
      result.attempted = events.length ∧ result.inserted + result.duplicates = result.attempted ∧
      (new.appendBatches before).events.length + result.inserted =
        (new.appendBatches (before ++ [events])).events.length
  again : ∀ events ∈ batches, (new.appendBatches batches).appendBatch events =
    (.ok ⟨events.length, 0, events.length, Nat.zero_add _⟩, new.appendBatches batches)
  replayed : ∀ (ingestSessionId : String) (afterIngestSeq : ℤ),
    (∀ item, item ∈ (new.appendBatches batches).iterEvents ingestSessionId afterIngestSeq ↔
      item ∈ (new.appendBatches batches).events ∧ afterIngestSeq < item.ingestSeq ∧
        item.event.ingestSessionId = ingestSessionId) ∧
    ((new.appendBatches batches).iterEvents ingestSessionId afterIngestSeq).Pairwise
      fun item item' => item.ingestSeq < item'.ingestSeq

/-- The keys of the log are those that were offered. -/
theorem mem_log_keys {key : String} :
    key ∈ (new.appendBatches batches).log.map idempotencyKey ↔
      ∃ events ∈ batches, ∃ event ∈ events, event.idempotencyKey = key := by
  rw [log_appendBatches indexed_new, KeyedLog.mem_map_offerAll]
  simp only [new, log, List.map_nil, List.not_mem_nil, false_or, List.mem_map, List.mem_flatten,
    idempotencyKey]
  constructor
  · rintro ⟨event, ⟨events, hBatch, hEvent⟩, rfl⟩
    exact ⟨events, hBatch, event, hEvent, rfl⟩
  · rintro ⟨events, hBatch, event, hEvent, rfl⟩
    exact ⟨event, ⟨events, hBatch, hEvent⟩, rfl⟩

/-- The repository is an append-only log under every run of batches. -/
theorem appendBatches_appendOnly (batches : List (List (RawEvent R))) : AppendOnlyLog batches := by
  have hRun : (new.appendBatches batches).Indexed := indexed_appendBatches _ indexed_new
  have hIncreasing : (new.appendBatches batches).events.Pairwise
      fun item item' => item.ingestSeq < item'.ingestSeq := by
    rw [← List.pairwise_map (R := (· < ·)), hRun.numbered]
    exact List.pairwise_lt_range'
  have hKeys : (new.appendBatches batches).log.map idempotencyKey =
      (new.appendBatches batches).events.map (·.event.idempotencyKey) := List.map_map ..
  constructor
  case numbered => exact hRun.numbered
  case distinct =>
    rw [← hKeys, log_appendBatches indexed_new]
    exact KeyedLog.nodup_offerAll List.nodup_nil
  case offered =>
    intro key
    rw [← mem_log_keys, hKeys, List.mem_map]
  case earlier =>
    rintro before later rfl
    rw [appendBatches_append]
    exact prefix_appendBatches (indexed_appendBatches _ indexed_new)
  case results =>
    intro before events later _
    obtain ⟨result, hResult, hAttempted, hGrowth⟩ :=
      appendBatch_result events (indexed_appendBatches before indexed_new)
    refine ⟨result, hResult, hAttempted, result.counts, ?_⟩
    rw [appendBatches_append]
    exact hGrowth
  case again =>
    intro events hBatch
    refine appendBatch_of_taken hRun fun event hEvent => ?_
    exact mem_log_keys.mpr ⟨events, hBatch, event, hEvent, rfl⟩
  case replayed =>
    intro ingestSessionId afterIngestSeq
    refine ⟨fun item => ?_, hIncreasing.filter _⟩
    rw [iterEvents, List.mem_filter, decide_eq_true_iff]

end Daybreak.Recorder
