import Daybreak.Recorder.Postgres
import Daybreak.Recorder.Replay

/-! Readers that follow a session while it is recorded. Between the batches of the recorder a
reader replays the session from the last event it handled, and may be interrupted at any event.
In memory and in PostgreSQL it has handled each event up to its checkpoint once and in its turn,
and after a replay that returns all events there are. -/

namespace Daybreak.Recorder

open Daybreak.Effect.Cursor Effect

variable {R : Derivations} {σ S : Type}

/-! ### Stores -/

/-- A repository as the reader of one session sees it. -/
structure EventStore (S : Type) (R : Derivations) where
  appendBatch : S → List (RawEvent R) → S
  iterEvents : S → ℤ → List (PersistedRawEvent R) × Option PyError

/-- What happens to a session and its reader. -/
inductive Command (R : Derivations) (σ : Type) where
  | appendBatch (events : List (RawEvent R))
  | replay (handler : ReplayHandler R (Consumer σ)) (speed : ℚ)

/-- A replay of the reader from its checkpoint. -/
def EventStore.resume (store : EventStore S R) (state : S) (consumer : Consumer σ)
    (handler : ReplayHandler R (Consumer σ)) (speed : ℚ) :
    Except PyError ReplayStats × Consumer σ :=
  (Recorder.replay (store.iterEvents state consumer.checkpoint) handler consumer.checkpoint
    speed).exec consumer

def EventStore.perform (store : EventStore S R) (w : S × Consumer σ) :
    Command R σ → S × Consumer σ
  | .appendBatch events => (store.appendBatch w.1 events, w.2)
  | .replay handler speed => (w.1, (store.resume w.1 w.2 handler speed).2)

/-- The repository and the reader after the commands, from a reader that has handled nothing. -/
def EventStore.follow (store : EventStore S R) (empty : S) (start : σ)
    (commands : List (Command R σ)) : S × Consumer σ :=
  commands.foldl store.perform (empty, ⟨start, 0⟩)

/-! ### Logs that grow -/

/-- The repository yields a log of ascending numbers, from any of its events on, which batches
extend beyond a bound. -/
structure EventStore.Growing (store : EventStore S R) (Inv : S → Prop)
    (log : S → List (PersistedRawEvent R)) (failure : S → Option PyError) (bound : S → ℤ) :
    Prop where
  ascending : ∀ s, Inv s → Ascending ingestSeq (log s)
  bounded : ∀ s, Inv s → ∀ item ∈ log s, ingestSeq item ≤ bound s
  yields : ∀ s c, Inv s → (c = 0 ∨ ∃ item ∈ log s, ingestSeq item = c) →
    store.iterEvents s c = (beyond ingestSeq c (log s), failure s)
  grows : ∀ s events, Inv s → Inv (store.appendBatch s events) ∧
    bound s ≤ bound (store.appendBatch s events) ∧
    ∃ more, log (store.appendBatch s events) = log s ++ more ∧
      ∀ item ∈ more, bound s < ingestSeq item

variable {store : EventStore S R} {Inv : S → Prop} {log : S → List (PersistedRawEvent R)}
  {failure : S → Option PyError} {bound : S → ℤ} {apply : σ → PersistedRawEvent R → σ}
  {start : σ} {w : S × Consumer σ} {commands : List (Command R σ)}
  {handler : ReplayHandler R (Consumer σ)}

/-- The reader has handled the events up to its checkpoint, which is that of an event. -/
structure Following (Inv : S → Prop) (log : S → List (PersistedRawEvent R)) (bound : S → ℤ)
    (apply : σ → PersistedRawEvent R → σ) (start : σ) (w : S × Consumer σ) : Prop where
  sound : Inv w.1
  caughtUp : CaughtUp ingestSeq apply start (log w.1) (bound w.1) w.2
  checkpoint : w.2.checkpoint = 0 ∨ ∃ item ∈ log w.1, ingestSeq item = w.2.checkpoint

/-- What a replay from the checkpoint does. -/
theorem Following.resume (h : Following Inv log bound apply start w)
    (hStore : store.Growing Inv log failure bound) (hHandler : Applies apply handler) (speed : ℚ) :
    ∃ done rest result, beyond ingestSeq w.2.checkpoint (log w.1) = done ++ rest ∧
      store.resume w.1 w.2 handler speed = (result, w.2.advance ingestSeq apply done) ∧
      Ends (store.iterEvents w.1 w.2.checkpoint) handler speed done rest result := by
  have hYields := hStore.yields w.1 w.2.checkpoint h.sound h.checkpoint
  have hAscending : Ascending ingestSeq (store.iterEvents w.1 w.2.checkpoint).1 := by
    rw [hYields]
    exact (hStore.ascending w.1 h.sound).filter _
  have hLater : ∀ item ∈ (store.iterEvents w.1 w.2.checkpoint).1,
      w.2.checkpoint < ingestSeq item := by
    rw [hYields]
    exact fun item hItem => of_decide_eq_true (List.mem_filter.mp hItem).2
  obtain ⟨done, rest, result, hItems, hExec, hEnds⟩ :=
    replay_exec hHandler hAscending hLater speed w.2
  refine ⟨done, rest, result, ?_, hExec, hEnds⟩
  rw [← hItems, hYields]

/-- What may follow: a batch, or a replay with a handler of the reader. -/
def Command.Allowed (apply : σ → PersistedRawEvent R → σ) : Command R σ → Prop
  | .appendBatch _ => True
  | .replay handler _ => Applies apply handler

theorem Following.perform (h : Following Inv log bound apply start w)
    (hStore : store.Growing Inv log failure bound) {command : Command R σ}
    (hAllowed : command.Allowed apply) :
    Following Inv log bound apply start (store.perform w command) := by
  cases command with
  | appendBatch events =>
    obtain ⟨hSound, hBound, more, hLog, hMore⟩ := hStore.grows w.1 events h.sound
    refine ⟨hSound, ?_, h.checkpoint.imp_right fun ⟨item, hItem, hSeq⟩ => ⟨item, ?_, hSeq⟩⟩
    · change CaughtUp ingestSeq apply start (log (store.appendBatch w.1 events)) _ w.2
      rw [hLog]
      exact h.caughtUp.grow hMore hBound
    · change item ∈ log (store.appendBatch w.1 events)
      rw [hLog]
      exact List.mem_append_left _ hItem
  | replay handler speed =>
    obtain ⟨done, rest, result, hAhead, hResume, -⟩ := h.resume hStore hAllowed speed
    have hAfter : store.perform w (.replay handler speed) =
        (w.1, w.2.advance ingestSeq apply done) := by
      rw [EventStore.perform, hResume]
    rw [hAfter]
    refine ⟨h.sound, ?_, ?_⟩
    · exact h.caughtUp.advance (hStore.ascending w.1 h.sound) (hStore.bounded w.1 h.sound) hAhead
    · induction done using List.reverseRecOn with
      | nil => exact h.checkpoint
      | append_singleton done last _ =>
        have hMem : last ∈ beyond ingestSeq w.2.checkpoint (log w.1) := by
          rw [hAhead]
          simp
        exact .inr ⟨last, List.mem_of_mem_filter hMem, (reached_concat last).symm⟩

theorem following_follow (start : σ) (hStore : store.Growing Inv log failure bound) {empty : S}
    (hEmpty : Inv empty) (hBound : 0 ≤ bound empty) (hNone : log empty = [])
    (hAllowed : ∀ command ∈ commands, command.Allowed apply) :
    Following Inv log bound apply start (store.follow empty start commands) := by
  induction commands using List.reverseRecOn with
  | nil =>
    refine ⟨hEmpty, ⟨?_, hBound⟩, .inl rfl⟩
    change start = (upTo ingestSeq 0 (log empty)).foldl apply start
    rw [hNone]
    rfl
  | append_singleton commands command ih =>
    rw [List.forall_mem_append, List.forall_mem_singleton] at hAllowed
    rw [EventStore.follow, List.foldl_append]
    exact (ih hAllowed.1).perform hStore hAllowed.2

/-- What holds of a reader after the commands: its state is what the events up to its checkpoint
make of the first one, each once and in its turn; a replay handles the first of the events beyond
it and ends for one of the reasons; and one that returns leaves the state of all events. -/
structure Followed (store : EventStore S R) (log : S → List (PersistedRawEvent R))
    (apply : σ → PersistedRawEvent R → σ) (start : σ) (w : S × Consumer σ) : Prop where
  told : w.2.state = (upTo ingestSeq w.2.checkpoint (log w.1)).foldl apply start
  resumes : ∀ handler speed, Applies apply handler →
    ∃ done rest result, beyond ingestSeq w.2.checkpoint (log w.1) = done ++ rest ∧
      store.resume w.1 w.2 handler speed = (result, w.2.advance ingestSeq apply done) ∧
      Ends (store.iterEvents w.1 w.2.checkpoint) handler speed done rest result ∧
      ∀ stats, result = .ok stats →
        (w.2.advance ingestSeq apply done).state = (log w.1).foldl apply start

theorem Following.followed (h : Following Inv log bound apply start w)
    (hStore : store.Growing Inv log failure bound) : Followed store log apply start w := by
  refine ⟨h.caughtUp.told, fun handler speed hHandler => ?_⟩
  obtain ⟨done, rest, result, hAhead, hResume, hEnds⟩ := h.resume hStore hHandler speed
  refine ⟨done, rest, result, hAhead, hResume, hEnds, fun stats hReturned => ?_⟩
  cases hEnds with
  | finished _ =>
    rw [List.append_nil] at hAhead
    exact h.caughtUp.state_of_all (hStore.ascending w.1 h.sound) hAhead
  | refused _ _ => cases hReturned
  | handler _ _ _ _ _ => cases hReturned
  | repository _ _ => cases hReturned

/-! ### The repository in memory -/

namespace InMemoryRawEventRepository

/-- The repository, for a reader of one session. -/
def eventStore (R : Derivations) (ingestSessionId : String) :
    EventStore (InMemoryRawEventRepository R) R where
  appendBatch repository events := (repository.appendBatch events).2
  iterEvents repository afterIngestSeq :=
    (repository.iterEvents ingestSessionId afterIngestSeq, none)

variable {repository : InMemoryRawEventRepository R} {ingestSessionId : String}

theorem Indexed.ascending (h : repository.Indexed) : Ascending ingestSeq repository.events := by
  have hNumbers : (repository.events.map (·.ingestSeq)).Pairwise (· < ·) := by
    rw [h.numbered]
    exact List.pairwise_lt_range'
  exact (List.pairwise_map.mp hNumbers).imp fun hLt => Int.ofNat_lt.mpr hLt

theorem Indexed.ingestSeq_le (h : repository.Indexed) {item : PersistedRawEvent R}
    (hItem : item ∈ repository.events) : ingestSeq item ≤ repository.events.length := by
  have hNumber : item.ingestSeq ∈ List.range' 1 repository.events.length :=
    h.numbered ▸ List.mem_map_of_mem hItem
  rw [List.mem_range'_1] at hNumber
  exact Int.ofNat_le.mpr (by omega)

/-- The events after the first ones of the log have larger numbers than there are first ones. -/
theorem Indexed.lt_ingestSeq {earlier more : List (PersistedRawEvent R)} (h : repository.Indexed)
    (hEvents : repository.events = earlier ++ more) {item : PersistedRawEvent R}
    (hItem : item ∈ more) : (earlier.length : ℤ) < ingestSeq item := by
  have hNumbers := h.numbered
  rw [hEvents, List.map_append, List.length_append, ← List.range'_append_1] at hNumbers
  have hMore := (List.append_inj hNumbers (by simp)).2
  have hNumber : item.ingestSeq ∈ List.range' (1 + earlier.length) more.length :=
    hMore ▸ List.mem_map_of_mem hItem
  rw [List.mem_range'_1] at hNumber
  exact Int.ofNat_lt.mpr (by omega)

theorem eventStore_growing (R : Derivations) (ingestSessionId : String) :
    (eventStore R ingestSessionId).Growing Indexed (·.iterEvents ingestSessionId 0) (fun _ => none)
      fun repository => repository.events.length where
  ascending _ h := h.ascending.filter _
  bounded _ h _ hItem := h.ingestSeq_le (List.mem_of_mem_filter hItem)
  yields repository c h hCheckpoint := by
    have hFrom : 0 ≤ c := by
      obtain rfl | ⟨item, -, rfl⟩ := hCheckpoint
      · exact le_rfl
      · exact Int.natCast_nonneg _
    simp only [eventStore, beyond, InMemoryRawEventRepository.iterEvents, List.filter_filter]
    refine Prod.ext (List.filter_congr fun item _ => ?_) rfl
    rw [← Bool.decide_and, decide_eq_decide]
    have hPos := item.ingestSeq_pos
    simp only [ingestSeq]
    constructor
    · rintro ⟨hAfter, hSession⟩
      exact ⟨hAfter, by omega, hSession⟩
    · rintro ⟨hAfter, -, hSession⟩
      exact ⟨hAfter, hSession⟩
  grows repository events h := by
    have hAppended := appendBatch_appended events h
    obtain ⟨more, hMore⟩ := hAppended.earlier
    refine ⟨hAppended.indexed, Int.ofNat_le.mpr hAppended.earlier.length_le,
      more.filter fun item =>
        0 < (item.ingestSeq : ℤ) ∧ item.event.ingestSessionId = ingestSessionId,
      ?_, fun item hItem => ?_⟩
    · change (List.filter _ _) = (List.filter _ _) ++ _
      rw [← List.filter_append]
      exact congrArg _ hMore.symm
    · exact hAppended.indexed.lt_ingestSeq hMore.symm (List.mem_of_mem_filter hItem)

end InMemoryRawEventRepository

/-- A reader of a session in memory: whatever batches are appended and however often its replays
are interrupted, it has handled each event up to its checkpoint once, in the order of the log, and
nothing but its handlers and a negative speed make a replay raise. -/
theorem memory_reader_handles_each_once (ingestSessionId : String)
    {commands : List (Command R σ)} (hAllowed : ∀ command ∈ commands, command.Allowed apply) :
    Followed (InMemoryRawEventRepository.eventStore R ingestSessionId)
      (·.iterEvents ingestSessionId 0) apply start ((InMemoryRawEventRepository.eventStore R ingestSessionId).follow
        InMemoryRawEventRepository.new start commands) :=
  (following_follow start (InMemoryRawEventRepository.eventStore_growing R ingestSessionId)
    InMemoryRawEventRepository.indexed_new le_rfl rfl hAllowed).followed
      (InMemoryRawEventRepository.eventStore_growing R ingestSessionId)

/-- A reader that collects the numbers of the events. -/
def collect (R : Derivations) (seqs : List ℕ) (item : PersistedRawEvent R) : List ℕ :=
  seqs ++ [item.ingestSeq]

def collecting (R : Derivations) : ReplayHandler R (Consumer (List ℕ)) := fun item =>
  Program.step fun consumer => (.ok ⟨⟩, consumer.advance ingestSeq (collect R) [item])

/-- A reader that does not get to an event. -/
def interrupted (R : Derivations) : ReplayHandler R (Consumer (List ℕ)) := fun _ =>
  Program.step fun consumer => (.error (.runtimeError "interrupted"), consumer)

theorem applies_collecting (R : Derivations) : Applies (collect R) (collecting R) :=
  fun _ _ => .inr rfl

theorem applies_interrupted (R : Derivations) : Applies (collect R) (interrupted R) :=
  fun _ _ => .inl ⟨_, rfl⟩

def sampleCommands (batches : List (List (RawEvent R))) : List (Command R (List ℕ)) :=
  .replay (interrupted R) 1 :: batches.map .appendBatch ++
    [.replay (interrupted R) 0, .replay (collecting R) 0]

theorem sampleCommands_allowed (batches : List (List (RawEvent R))) :
    ∀ command ∈ sampleCommands batches, command.Allowed (collect R) := by
  rw [sampleCommands, List.cons_append, List.forall_mem_cons, List.forall_mem_append,
    List.forall_mem_map]
  refine ⟨applies_interrupted R, fun _ _ => trivial, ?_⟩
  rw [List.forall_mem_cons, List.forall_mem_singleton]
  exact ⟨applies_interrupted R, applies_collecting R⟩

theorem memory_reader_handles_each_once_sample :
    ∃ event : RawEvent PostgresRawEventRepository.tradeDerivations,
      RawEvent.create _ PostgresRawEventRepository.tradeRequest = .ok event ∧
      Followed (InMemoryRawEventRepository.eventStore _ event.ingestSessionId)
        (·.iterEvents event.ingestSessionId 0) (collect _) []
        ((InMemoryRawEventRepository.eventStore _ event.ingestSessionId).follow
          InMemoryRawEventRepository.new [] (sampleCommands [[event]])) := by
  obtain ⟨event, hEvent, -⟩ := PostgresRawEventRepository.exists_tradeEvent
  exact ⟨event, hEvent, memory_reader_handles_each_once _ (sampleCommands_allowed [[event]])⟩

/-! ### The repository in PostgreSQL -/

namespace PostgresRawEventRepository

/-- The table, for a reader of one session. -/
def eventStore (R : Derivations) (refuses : Refusal) (ingestSessionId : String) :
    EventStore RawEventsTable R where
  appendBatch table events := (appendBatch refuses table events).2
  iterEvents table afterIngestSeq := iterEvents R table ingestSessionId afterIngestSeq

/-- The number of a row. -/
def rowSeq (row : RawEventRow) : ℤ := (row.ingestSeq : ℕ)

variable {refuses : Refusal} {table : RawEventsTable} {ingestSessionId : String}
  {rows : List RawEventRow} {event : RawEvent R} {events : List (RawEvent R)}

/-- The rows are in the order of their numbers, which the sequence has drawn. -/
structure Drawn (table : RawEventsTable) : Prop where
  ascending : Ascending rowSeq table.rows
  below : ∀ row ∈ table.rows, row.ingestSeq < table.nextSeq

/-- What insertions do to a table: new rows at its end, with numbers of the sequence. -/
structure Extends (table after : RawEventsTable) : Prop where
  drawn : Drawn after
  nextSeq : table.nextSeq ≤ after.nextSeq
  rows : ∃ more, after.rows = table.rows ++ more ∧ ∀ row ∈ more, table.nextSeq ≤ row.ingestSeq

theorem Extends.refl (h : Drawn table) : Extends table table :=
  ⟨h, le_rfl, [], (List.append_nil _).symm, fun _ hRow => absurd hRow List.not_mem_nil⟩

theorem Extends.trans {middle after : RawEventsTable} (h : Extends table middle)
    (h' : Extends middle after) : Extends table after := by
  obtain ⟨more, hRows, hMore⟩ := h.rows
  obtain ⟨more', hRows', hMore'⟩ := h'.rows
  refine ⟨h'.drawn, h.nextSeq.trans h'.nextSeq, more ++ more', ?_, ?_⟩
  · rw [hRows', hRows, List.append_assoc]
  · rw [List.forall_mem_append]
    exact ⟨hMore, fun row hRow => h.nextSeq.trans (hMore' row hRow)⟩

/-- A number is drawn, whether it is used or not. -/
theorem Drawn.draw (h : Drawn table) : Extends table { table with nextSeq := table.nextSeq + 1 } :=
  ⟨⟨h.ascending, fun row hRow => (h.below row hRow).trans (PNat.lt_add_right _ _)⟩,
    (PNat.lt_add_right _ _).le, [], (List.append_nil _).symm,
    fun _ hRow => absurd hRow List.not_mem_nil⟩

theorem Drawn.insert (h : Drawn table) (columns : RawEventFields) :
    Extends table ⟨table.rows ++ [⟨table.nextSeq, columns⟩], table.nextSeq + 1⟩ := by
  refine ⟨⟨?_, ?_⟩, (PNat.lt_add_right _ _).le, [⟨table.nextSeq, columns⟩], rfl, ?_⟩
  · refine List.pairwise_append.mpr ⟨h.ascending, List.pairwise_singleton _ _, ?_⟩
    intro row hRow last hLast
    rw [List.mem_singleton.mp hLast]
    exact Int.ofNat_lt.mpr (h.below row hRow)
  · rw [List.forall_mem_append, List.forall_mem_singleton]
    exact ⟨fun row hRow => (h.below row hRow).trans (PNat.lt_add_right _ _),
      PNat.lt_add_right _ _⟩
  · rw [List.forall_mem_singleton]

theorem insertEvent_extends (refuses : Refusal) (event : RawEvent R)
    {progress : RawEventsTable × ℕ} (h : Drawn progress.1) :
    (∀ next, insertEvent refuses progress event = .ok next → Extends progress.1 next.1) ∧
      ∀ error next, insertEvent refuses progress event = .error (error, next) →
        progress.1.nextSeq ≤ next := by
  unfold insertEvent
  simp only
  cases refuses progress.1.rows (columns event) with
  | some error =>
    refine ⟨fun next hNext => (by cases hNext), fun error' next hNext => ?_⟩
    cases hNext
    exact (PNat.lt_add_right _ _).le
  | none =>
    simp only
    split_ifs with hTaken
    · refine ⟨fun next hNext => ?_, fun _ _ hError => (by cases hError)⟩
      obtain rfl := Except.ok.inj hNext
      exact h.draw
    · refine ⟨fun next hNext => ?_, fun _ _ hError => (by cases hError)⟩
      obtain rfl := Except.ok.inj hNext
      exact h.insert _

theorem foldlM_insertEvent_extends (refuses : Refusal) (events : List (RawEvent R))
    {progress : RawEventsTable × ℕ} (h : Drawn progress.1) :
    (∀ next, events.foldlM (insertEvent refuses) progress = .ok next →
        Extends progress.1 next.1) ∧
      ∀ error next, events.foldlM (insertEvent refuses) progress = .error (error, next) →
        progress.1.nextSeq ≤ next := by
  induction events generalizing progress with
  | nil =>
    refine ⟨fun next hNext => ?_, fun _ _ hError => (by cases hError)⟩
    obtain rfl := Except.ok.inj hNext
    exact .refl h
  | cons event events ih =>
    obtain ⟨hInserts, hRaises⟩ := insertEvent_extends refuses event h
    rw [List.foldlM_cons]
    cases hFirst : insertEvent refuses progress event with
    | error e =>
      refine ⟨fun next hNext => (by cases hNext), fun error next hError => ?_⟩
      obtain rfl : e = (error, next) := Except.error.inj hError
      exact hRaises error next hFirst
    | ok middle =>
      have hMiddle := hInserts middle hFirst
      obtain ⟨hRest, hLater⟩ := ih hMiddle.drawn
      exact ⟨fun next hNext => hMiddle.trans (hRest next hNext),
        fun error next hError => hMiddle.nextSeq.trans (hLater error next hError)⟩

theorem appendBatch_extends (refuses : Refusal) (events : List (RawEvent R)) (h : Drawn table) :
    Extends table (appendBatch refuses table events).2 := by
  have hStart : Drawn (table, 0).1 := h
  obtain ⟨hInserts, hRaises⟩ := foldlM_insertEvent_extends refuses events hStart
  unfold appendBatch
  cases hFold : events.foldlM (insertEvent refuses) (table, 0) with
  | ok next => exact hInserts next hFold
  | error raised =>
    have hNext := hRaises raised.1 raised.2 hFold
    exact ⟨⟨h.ascending, fun row hRow => (h.below row hRow).trans_le hNext⟩, hNext, [],
      (List.append_nil _).symm, fun _ hRow => absurd hRow List.not_mem_nil⟩

/-! ### What is yielded -/

theorem yieldRows_append (rows later : List RawEventRow) :
    yieldRows R (rows ++ later) = match (yieldRows R rows).2 with
      | none => ((yieldRows R rows).1 ++ (yieldRows R later).1, (yieldRows R later).2)
      | some _ => yieldRows R rows := by
  induction rows with
  | nil => rfl
  | cons row rows ih =>
    rw [List.cons_append, yieldRows, yieldRows]
    cases readRow R row with
    | error error => rfl
    | ok event =>
      simp only [ih]
      cases hEnded : (yieldRows R rows).2 with
      | none => rfl
      | some error => simp only [hEnded]

/-- What is yielded are events of the rows. -/
theorem map_yieldRows_sublist (rows : List RawEventRow) :
    ((yieldRows R rows).1.map ingestSeq).Sublist (rows.map rowSeq) := by
  induction rows with
  | nil => exact List.Sublist.refl _
  | cons row rows ih =>
    rw [yieldRows]
    cases readRow R row with
    | error error => exact List.nil_sublist _
    | ok event => exact ih.cons_cons _

theorem exists_row_of_yieldRows {item : PersistedRawEvent R} (hItem : item ∈ (yieldRows R rows).1) :
    ∃ row ∈ rows, rowSeq row = ingestSeq item :=
  List.mem_map.mp ((map_yieldRows_sublist rows).subset (List.mem_map_of_mem hItem))

theorem ascending_yieldRows (h : Ascending rowSeq rows) :
    Ascending ingestSeq (yieldRows R rows).1 :=
  List.pairwise_map.mp ((List.pairwise_map.mpr h).sublist (map_yieldRows_sublist rows))

theorem beyond_of_forall {α : Type} {key : α → ℤ} {c : ℤ} {log : List α}
    (h : ∀ a ∈ log, c < key a) : beyond key c log = log :=
  List.filter_eq_self.mpr fun a ha => decide_eq_true (h a ha)

/-- From an event that was yielded on, the rows yield what they do after it. -/
theorem yieldRows_beyond {c : ℤ} (h : Ascending rowSeq rows)
    (hFrom : (∀ row ∈ rows, c < rowSeq row) ∨ ∃ item ∈ (yieldRows R rows).1, ingestSeq item = c) :
    yieldRows R (beyond rowSeq c rows) =
      (beyond ingestSeq c (yieldRows R rows).1, (yieldRows R rows).2) := by
  induction rows with
  | nil => rfl
  | cons row rows ih =>
    obtain ⟨hFirst, hRest⟩ := List.pairwise_cons.mp h
    have hAll (hBefore : ∀ other ∈ row :: rows, c < rowSeq other) :
        yieldRows R (beyond rowSeq c (row :: rows)) =
          (beyond ingestSeq c (yieldRows R (row :: rows)).1, (yieldRows R (row :: rows)).2) := by
      rw [beyond_of_forall hBefore, beyond_of_forall fun item hItem => ?_]
      obtain ⟨other, hOther, hSeq⟩ := exists_row_of_yieldRows hItem
      exact hSeq ▸ hBefore other hOther
    obtain hBefore | ⟨item, hItem, hSeq⟩ := hFrom
    · exact hAll hBefore
    · cases hRead : readRow R row with
      | error error =>
        rw [yieldRows, hRead] at hItem
        exact absurd hItem List.not_mem_nil
      | ok event =>
        rw [yieldRows, hRead, List.mem_cons] at hItem
        have hUpTo : rowSeq row ≤ c := by
          obtain rfl | hLater := hItem
          · exact hSeq.le
          · obtain ⟨other, hOther, hSame⟩ := exists_row_of_yieldRows hLater
            exact (hFirst other hOther).le.trans (hSame.trans hSeq).le
        have hDropped : beyond rowSeq c (row :: rows) = beyond rowSeq c rows :=
          List.filter_cons_of_neg (by rw [decide_eq_true_eq]; exact not_lt.mpr hUpTo)
        have hNotYielded (items : List (PersistedRawEvent R)) :
            beyond ingestSeq c (⟨row.ingestSeq, event, row.ingestSeq.pos⟩ :: items) =
              beyond ingestSeq c items :=
          List.filter_cons_of_neg (by rw [decide_eq_true_eq]; exact not_lt.mpr hUpTo)
        rw [hDropped, yieldRows, hRead]
        simp only [hNotYielded]
        refine ih hRest ?_
        obtain rfl | hLater := hItem
        · exact .inl fun other hOther => lt_of_eq_of_lt hSeq.symm (hFirst other hOther)
        · exact .inr ⟨item, hLater, hSeq⟩

/-- The rows of a session. -/
def sessionRows (table : RawEventsTable) (ingestSessionId : String) : List RawEventRow :=
  table.rows.filter (·.columns.ingestSessionId = ingestSessionId)

theorem Drawn.selected (h : Drawn table) (ingestSessionId : String) (c : ℤ) :
    selected table ingestSessionId c = beyond rowSeq c (sessionRows table ingestSessionId) := by
  have hSorted : (table.rows.filter fun row => row.columns.ingestSessionId = ingestSessionId ∧
      c < (row.ingestSeq : ℕ)).Pairwise fun a b => (a.ingestSeq : ℕ) ≤ (b.ingestSeq : ℕ) :=
    (List.Pairwise.filter _ h.ascending).imp fun hLt => (Int.ofNat_lt.mp hLt).le
  rw [PostgresRawEventRepository.selected, Order.sortedBy, hSorted.insertionSort_eq, beyond,
    sessionRows, List.filter_filter]
  refine List.filter_congr fun row _ => ?_
  rw [← Bool.decide_and, decide_eq_decide]
  exact and_comm

theorem sessionRows_beyond_zero (rows : List RawEventRow) : beyond rowSeq 0 rows = rows :=
  beyond_of_forall fun row _ => Int.ofNat_lt.mpr row.ingestSeq.pos

/-- The table yields what the rows of the session do. -/
theorem Drawn.iterEvents_zero (h : Drawn table) (ingestSessionId : String) :
    iterEvents R table ingestSessionId 0 = yieldRows R (sessionRows table ingestSessionId) := by
  rw [iterEvents, h.selected, sessionRows_beyond_zero]

theorem Drawn.ascending_sessionRows (h : Drawn table) (ingestSessionId : String) :
    Ascending rowSeq (sessionRows table ingestSessionId) := List.Pairwise.filter _ h.ascending

theorem eventStore_growing (R : Derivations) (refuses : Refusal) (ingestSessionId : String) :
    (eventStore R refuses ingestSessionId).Growing Drawn
      (fun table => (iterEvents R table ingestSessionId 0).1)
      (fun table => (iterEvents R table ingestSessionId 0).2)
      fun table => ((table.nextSeq : ℕ) : ℤ) - 1 where
  ascending table h := by
    rw [h.iterEvents_zero]
    exact ascending_yieldRows (h.ascending_sessionRows ingestSessionId)
  bounded table h item hItem := by
    rw [h.iterEvents_zero] at hItem
    obtain ⟨row, hRow, hSeq⟩ := exists_row_of_yieldRows hItem
    have hBelow : rowSeq row < (table.nextSeq : ℕ) :=
      Int.ofNat_lt.mpr (h.below row (List.mem_of_mem_filter hRow))
    omega
  yields table c h hCheckpoint := by
    change iterEvents R table ingestSessionId c = _
    rw [h.iterEvents_zero] at hCheckpoint ⊢
    rw [iterEvents, h.selected]
    refine yieldRows_beyond (h.ascending_sessionRows ingestSessionId) (hCheckpoint.imp_left ?_)
    rintro rfl row -
    exact Int.ofNat_lt.mpr row.ingestSeq.pos
  grows table events h := by
    have hAfter := appendBatch_extends refuses events h
    obtain ⟨more, hRows, hMore⟩ := hAfter.rows
    have hNext : ((table.nextSeq : ℕ) : ℤ) ≤ ((appendBatch refuses table events).2.nextSeq : ℕ) :=
      Int.ofNat_le.mpr hAfter.nextSeq
    refine ⟨hAfter.drawn, sub_le_sub_right hNext 1, ?_⟩
    have hSession : sessionRows (appendBatch refuses table events).2 ingestSessionId =
        sessionRows table ingestSessionId ++
          more.filter (·.columns.ingestSessionId = ingestSessionId) := by
      rw [sessionRows, hRows, List.filter_append]
      rfl
    change ∃ more, (iterEvents R (appendBatch refuses table events).2 ingestSessionId 0).1 = _ ∧ _
    rw [hAfter.drawn.iterEvents_zero, h.iterEvents_zero, hSession, yieldRows_append]
    cases (yieldRows R (sessionRows table ingestSessionId)).2 with
    | some error =>
      exact ⟨[], (List.append_nil _).symm, fun _ hItem => absurd hItem List.not_mem_nil⟩
    | none =>
      refine ⟨_, rfl, fun item hItem => ?_⟩
      obtain ⟨row, hRow, hSeq⟩ := exists_row_of_yieldRows hItem
      have hDrawn : ((table.nextSeq : ℕ) : ℤ) ≤ rowSeq row :=
        Int.ofNat_le.mpr (hMore row (List.mem_of_mem_filter hRow))
      omega

theorem drawn_empty : Drawn empty :=
  ⟨List.Pairwise.nil, fun _ hRow => absurd hRow List.not_mem_nil⟩

/-- Where no row is refused, every row is yielded. -/
theorem map_yieldRows (h : (yieldRows R rows).2 = none) :
    (yieldRows R rows).1.map ingestSeq = rows.map rowSeq := by
  induction rows with
  | nil => rfl
  | cons row rows ih =>
    rw [yieldRows] at h ⊢
    cases hRead : readRow R row with
    | error error =>
      rw [hRead] at h
      cases h
    | ok event =>
      rw [hRead] at h
      exact congrArg (rowSeq row :: ·) (ih h)

/-- A reader of a session in PostgreSQL, whose rows are numbered with gaps and may be refused when
they are read: it has handled each event up to its checkpoint once, in the order of the numbers,
and a replay that returns leaves it with the events of all rows of the session. -/
theorem postgres_reader_handles_each_once (refuses : Refusal) (ingestSessionId : String)
    {commands : List (Command R σ)} (hAllowed : ∀ command ∈ commands, command.Allowed apply) :
    Followed (eventStore R refuses ingestSessionId)
      (fun table => (iterEvents R table ingestSessionId 0).1) apply start
      ((eventStore R refuses ingestSessionId).follow empty start commands) ∧
    ∀ handler speed stats, Applies apply handler →
      ((eventStore R refuses ingestSessionId).resume
        ((eventStore R refuses ingestSessionId).follow empty start commands).1
        ((eventStore R refuses ingestSessionId).follow empty start commands).2
        handler speed).1 = .ok stats →
      (iterEvents R ((eventStore R refuses ingestSessionId).follow empty start commands).1
          ingestSessionId 0).1.map ingestSeq =
        (sessionRows ((eventStore R refuses ingestSessionId).follow empty start commands).1
          ingestSessionId).map rowSeq := by
  have hFollowing := following_follow start (eventStore_growing R refuses ingestSessionId)
    drawn_empty le_rfl rfl hAllowed
  refine ⟨hFollowing.followed (eventStore_growing R refuses ingestSessionId), ?_⟩
  intro handler speed stats hHandler hReturned
  generalize (eventStore R refuses ingestSessionId).follow empty start commands = w
    at hFollowing hReturned
  obtain ⟨done, rest, result, -, hResume, hEnds⟩ :=
    hFollowing.resume (eventStore_growing R refuses ingestSessionId) hHandler speed
  have hYields := (eventStore_growing R refuses ingestSessionId).yields w.1 w.2.checkpoint
    hFollowing.sound hFollowing.checkpoint
  rw [hResume] at hReturned
  rw [hYields] at hEnds
  rw [hFollowing.sound.iterEvents_zero] at hEnds ⊢
  cases hEnds with
  | finished hEnded => exact map_yieldRows hEnded
  | refused _ _ => cases hReturned
  | handler _ _ _ _ _ => cases hReturned
  | repository _ _ => cases hReturned

theorem postgres_reader_handles_each_once_sample :
    ∃ event, RawEvent.create tradeDerivations tradeRequest = .ok event ∧
      Followed (eventStore tradeDerivations (fun _ _ => none) event.ingestSessionId)
        (fun table => (iterEvents tradeDerivations table event.ingestSessionId 0).1)
        (collect tradeDerivations) []
        ((eventStore tradeDerivations (fun _ _ => none) event.ingestSessionId).follow empty []
          (sampleCommands [[event]])) := by
  obtain ⟨event, hEvent, -⟩ := exists_tradeEvent
  exact ⟨event, hEvent,
    (postgres_reader_handles_each_once _ _ (sampleCommands_allowed [[event]])).1⟩

end PostgresRawEventRepository

end Daybreak.Recorder
