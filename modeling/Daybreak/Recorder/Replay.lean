import Daybreak.Effect.Cursor
import Daybreak.Effect.Program
import Daybreak.Recorder.Repository

/-! The replay of a session. The events are handled in the order of their numbers up to the first
one that the handler refuses; a reader that replays from the last number it handled has its state
from each event once, whatever interrupted it. -/

namespace Daybreak.Recorder

open Daybreak.Effect.Cursor Effect Numeric

variable {R : Derivations} {σ : Type}

/-! ### The engine -/

/-- `value.isoformat()`, which leaves out a fraction of zero. -/
def isoformat (value : Timestamp) : String :=
  let micros := (value % 86400000000).toNat
  let seconds := micros / 1000000
  let fraction := micros % 1000000
  Features.isoDate (Features.utcDate value) ++ "T" ++ zeroPad 2 (seconds / 3600) ++ ":" ++
    zeroPad 2 (seconds / 60 % 60) ++ ":" ++ zeroPad 2 (seconds % 60) ++
    (if fraction = 0 then "" else "." ++ zeroPad 6 fraction) ++ "+00:00"

structure ReplayStats where
  eventCount : ℕ := 0
  firstIngestSeq : Option ℕ := none
  lastIngestSeq : Option ℕ := none
  firstReceivedAt : Option String := none
  lastReceivedAt : Option String := none
  deriving DecidableEq, Repr

/-- The statistics after one more event, whose number is not zero. -/
def ReplayStats.count (stats : ReplayStats) (item : PersistedRawEvent R) : ReplayStats where
  eventCount := stats.eventCount + 1
  firstIngestSeq := stats.firstIngestSeq.or (some item.ingestSeq)
  lastIngestSeq := some item.ingestSeq
  firstReceivedAt := stats.firstReceivedAt.or (some (isoformat item.event.receivedAt))
  lastReceivedAt := some (isoformat item.event.receivedAt)

def verifyEventIntegrity (event : RawEvent R) : Result Unit := do
  let hash ← R.sha256Hex (.dict event.payload)
  ensure (hash = event.payloadSha256)
    (.valueError s!"payload hash mismatch for event {event.eventId}")

/-- A handler of a reader with a state; one that raises has changed nothing that is kept. -/
abbrev ReplayHandler (R : Derivations) (σ : Type) := PersistedRawEvent R → Program σ PyError PUnit

/-- The loop of `replay`, over the items that are left. -/
def replayItems (handler : ReplayHandler R σ) (stats : ReplayStats) (previousSeq : ℤ) :
    List (PersistedRawEvent R) → Program σ PyError ReplayStats
  | [] => pure stats
  | item :: rest => do
    Program.ofExcept (ensure (previousSeq < item.ingestSeq)
      (.valueError "repository returned non-monotonic ingest sequence"))
    Program.ofExcept (verifyEventIntegrity item.event)
    handler item
    replayItems handler (stats.count item) item.ingestSeq rest

/-- `ReplayEngine.replay`, from what the repository yields and the error that ends it; the delays
between the events change nothing. -/
def replay (yielded : List (PersistedRawEvent R) × Option PyError) (handler : ReplayHandler R σ)
    (afterIngestSeq : ℤ) (speed : ℚ) : Program σ PyError ReplayStats := do
  Program.ofExcept (ensure (0 ≤ speed) (.valueError "speed must be nonnegative"))
  let stats ← replayItems handler {} afterIngestSeq yielded.1
  Program.ofExcept (match yielded.2 with
    | none => .ok stats
    | some error => .error error)

/-! ### One replay -/

/-- The number of an item. -/
def ingestSeq (item : PersistedRawEvent R) : ℤ := item.ingestSeq

/-- A reader of the log, with the number of the last event that it handled. -/
abbrev Consumer (σ : Type) := Reader σ ℤ

/-- The handler applies an event and keeps its number, or raises and changes nothing. -/
def Applies (apply : σ → PersistedRawEvent R → σ) (handler : ReplayHandler R (Consumer σ)) : Prop :=
  ∀ item consumer, (∃ e, (handler item).exec consumer = (.error e, consumer)) ∨
    (handler item).exec consumer = (.ok ⟨⟩, consumer.advance ingestSeq apply [item])

variable {apply : σ → PersistedRawEvent R → σ} {handler : ReplayHandler R (Consumer σ)}
  {items : List (PersistedRawEvent R)} {stats : ReplayStats} {previousSeq : ℤ}
  {consumer : Consumer σ}

/-- An event that was validated has the hash of its payload. -/
theorem verifyEventIntegrity_ok (event : RawEvent R) : verifyEventIntegrity event = .ok () := by
  simp only [verifyEventIntegrity, event.valid.payload]
  exact ensure_eq_ok.mpr rfl

theorem advance_cons (item : PersistedRawEvent R) (done : List (PersistedRawEvent R)) :
    (consumer.advance ingestSeq apply [item]).advance ingestSeq apply done =
      consumer.advance ingestSeq apply (item :: done) := by
  simp only [Reader.advance, reached, List.foldl_cons, List.foldl_nil, Reader.mk.injEq, true_and]
  cases done with
  | nil => rfl
  | cons next done => rw [List.getLast?_cons_cons, List.getLast?_cons]; rfl

/-- Why a replay ends after some of the events, with the others left. -/
inductive Ends (yielded : List (PersistedRawEvent R) × Option PyError)
    (handler : ReplayHandler R (Consumer σ)) (speed : ℚ)
    (done : List (PersistedRawEvent R)) :
    List (PersistedRawEvent R) → Except PyError ReplayStats → Prop
  | finished (ended : yielded.2 = none) :
      Ends yielded handler speed done [] (.ok (done.foldl ReplayStats.count {}))
  | refused (rest : List (PersistedRawEvent R)) (negative : speed < 0) :
      Ends yielded handler speed done rest (.error (.valueError "speed must be nonnegative"))
  | handler (item : PersistedRawEvent R) (rest : List (PersistedRawEvent R)) (e : PyError)
      (consumer : Consumer σ) (raised : (handler item).exec consumer = (.error e, consumer)) :
      Ends yielded handler speed done (item :: rest) (.error e)
  | repository (e : PyError) (ended : yielded.2 = some e) :
      Ends yielded handler speed done [] (.error e)

/-- The items are handled in turn, up to the first at which the handler raises. -/
theorem replayItems_exec (hHandler : Applies apply handler)
    (hAscending : Ascending ingestSeq items) (hLater : ∀ item ∈ items, previousSeq < ingestSeq item)
    (stats : ReplayStats) (consumer : Consumer σ) :
    ∃ done rest result, items = done ++ rest ∧
      (replayItems handler stats previousSeq items).exec consumer =
        (result, consumer.advance ingestSeq apply done) ∧
      ((rest = [] ∧ result = .ok (done.foldl ReplayStats.count stats)) ∨
        ∃ item later e at', rest = item :: later ∧ result = .error e ∧
          (handler item).exec at' = (.error e, at')) := by
  induction items generalizing stats previousSeq consumer with
  | nil => exact ⟨[], [], _, rfl, rfl, .inl ⟨rfl, rfl⟩⟩
  | cons item items ih =>
    obtain ⟨hFirst, hRest⟩ := List.pairwise_cons.mp hAscending
    have hNext : ensure (previousSeq < item.ingestSeq)
        (.valueError "repository returned non-monotonic ingest sequence") = .ok () :=
      ensure_eq_ok.mpr (hLater item List.mem_cons_self)
    obtain ⟨e, hRaises⟩ | hApplies := hHandler item consumer
    · refine ⟨[], item :: items, .error e, rfl, ?_,
        .inr ⟨item, items, e, consumer, rfl, rfl, hRaises⟩⟩
      simp only [replayItems, Program.exec_bind, Program.exec_ofExcept, hNext,
        verifyEventIntegrity_ok, hRaises]
      rfl
    · obtain ⟨done, rest, result, rfl, hExec, hEnds⟩ := ih hRest hFirst (stats.count item)
        (consumer.advance ingestSeq apply [item])
      refine ⟨item :: done, rest, result, rfl, ?_, hEnds⟩
      simp only [replayItems, Program.exec_bind, Program.exec_ofExcept, hNext,
        verifyEventIntegrity_ok, hApplies]
      rw [← advance_cons item done]
      exact hExec

/-- A replay of ascending events handles the first of them and ends for one of the reasons. -/
theorem replay_exec {yielded : List (PersistedRawEvent R) × Option PyError} {afterIngestSeq : ℤ}
    (hHandler : Applies apply handler) (hAscending : Ascending ingestSeq yielded.1)
    (hLater : ∀ item ∈ yielded.1, afterIngestSeq < ingestSeq item) (speed : ℚ)
    (consumer : Consumer σ) :
    ∃ done rest result, yielded.1 = done ++ rest ∧
      (replay yielded handler afterIngestSeq speed).exec consumer =
        (result, consumer.advance ingestSeq apply done) ∧
      Ends yielded handler speed done rest result := by
  by_cases hSpeed : 0 ≤ speed
  · have hAllowed : ensure (0 ≤ speed) (.valueError "speed must be nonnegative") = .ok () :=
      ensure_eq_ok.mpr hSpeed
    obtain ⟨done, rest, result, hItems, hExec, hEnds⟩ :=
      replayItems_exec hHandler hAscending hLater {} consumer
    simp only [replay, Program.exec_bind, Program.exec_ofExcept, hAllowed, hExec]
    obtain ⟨rfl, rfl⟩ | ⟨item, later, e, at', rfl, rfl, hRaised⟩ := hEnds
    · cases hEnded : yielded.2 with
      | none => exact ⟨done, [], _, hItems, rfl, .finished hEnded⟩
      | some e => exact ⟨done, [], _, hItems, rfl, .repository e hEnded⟩
    · exact ⟨done, item :: later, _, hItems, rfl, .handler item later e at' hRaised⟩
  · have hNegative : ensure (0 ≤ speed) (.valueError "speed must be nonnegative") =
        .error (.valueError "speed must be nonnegative") := if_neg hSpeed
    refine ⟨[], yielded.1, _, rfl, ?_, .refused yielded.1 (not_le.mp hSpeed)⟩
    simp only [replay, Program.exec_bind, Program.exec_ofExcept, hNegative]
    rfl

end Daybreak.Recorder
