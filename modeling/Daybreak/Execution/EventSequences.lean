import Daybreak.Effect.NumberedLog
import Daybreak.Effect.Table
import Daybreak.Execution.Ledger
import Daybreak.Order.Sorting

/-! The execution events in PostgreSQL, where several services record at once. A service reads the
next number of an execution in one transaction and inserts the event in another, and nothing keeps
others from doing the same in between. Still the events that are stored are those that one
in-memory repository accepts, in the order of their commits. -/

namespace Daybreak.Execution

open Numeric Effect Effect.Row Daybreak.Order

/-! ### Services that record -/

/-- What `_event` has under way: it has read a number, or inserted the event. -/
inductive Recording where
  | numbered (executionId : String) (sequence : ℕ)
  | inserted (event : ExecutionEvent Decimal)

def eventRow (event : ExecutionEvent Decimal) : Row String (ExecutionEvent Decimal) :=
  ⟨event.executionId, event.eventSequence, event⟩

def Recording.writing : Recording → Writing String (ExecutionEvent Decimal)
  | numbered executionId sequence => .claimed executionId sequence
  | inserted event => .inserted (eventRow event)

/-- The tables `execution_requests` and `execution_events`, and the services. -/
structure ExecutionEventDatabase (ω : Type) where
  requests : Dict String (ExecutionRequest Decimal)
  events : List (Row String (ExecutionEvent Decimal))
  services : ω → Option Recording

namespace ExecutionEventDatabase

variable {ω : Type}

def empty : ExecutionEventDatabase ω := ⟨∅, [], fun _ => none⟩

/-- `SELECT … WHERE execution_id=%s ORDER BY event_sequence` -/
def listEvents (s : ExecutionEventDatabase ω) (executionId : String) :
    List (ExecutionEvent Decimal) :=
  (sortedBy (·.number) (under executionId s.events)).map (·.body)

def log (s : ExecutionEventDatabase ω) : NumberedLog String (ExecutionEvent Decimal) ω :=
  ⟨s.events, fun w => (s.services w).map Recording.writing⟩

variable [DecidableEq ω]

def goOn (s : ExecutionEventDatabase ω) (w : ω) (x : Option Recording) :
    ExecutionEventDatabase ω :=
  { s with services := Function.update s.services w x }

/-- One step of a service. It may raise, or be killed, at any point. -/
inductive Step (s : ExecutionEventDatabase ω) : ExecutionEventDatabase ω → Prop
  | saveRequest (request : ExecutionRequest Decimal) :
      Step s { s with requests := s.requests.setDefault request.executionId request }
  | nextEventSequence (w : ω) (executionId : String) :
      Step s (s.goOn w (some (.numbered executionId (next executionId s.events))))
  | insert (w : ω) (event : ExecutionEvent Decimal) :
      s.services w = some (.numbered event.executionId event.eventSequence) →
      event.executionId ∈ s.requests → event.eventSequence ∉ numbers event.executionId s.events →
      (∀ other row, s.log.writing other = some (.inserted row) → row.key = event.executionId →
        row.number ≠ event.eventSequence) →
      Step s (s.goOn w (some (.inserted event)))
  | commit (w : ω) (event : ExecutionEvent Decimal) : s.services w = some (.inserted event) →
      Step s { s with
        events := s.events ++ [eventRow event]
        services := Function.update s.services w none }
  | leave (w : ω) : Step s (s.goOn w none)

variable {s t : ExecutionEventDatabase ω}

theorem writing_goOn (s : ExecutionEventDatabase ω) (w : ω) (x : Option Recording) :
    (s.goOn w x).log.writing = Function.update s.log.writing w (x.map Recording.writing) :=
  Function.comp_update (Option.map Recording.writing) s.services w x

theorem log_goOn (s : ExecutionEventDatabase ω) (w : ω) (x : Option Recording) :
    (s.goOn w x).log =
      { s.log with writing := Function.update s.log.writing w (x.map Recording.writing) } := by
  rw [← writing_goOn]
  rfl

theorem Step.log (h : Step s t) : NumberedLog.Step False s.log t.log := by
  cases h with
  | saveRequest request => exact .still
  | nextEventSequence w executionId =>
    rw [log_goOn]
    exact .claim w executionId _ (one_le_next _ _) le_rfl False.elim
  | insert w event hw _ hUnused hUnlocked =>
    rw [log_goOn]
    refine .insert w (eventRow event) ?_ hUnused hUnlocked
    simp only [ExecutionEventDatabase.log, hw]
    rfl
  | commit w event hw =>
    have hInserted : s.log.writing w = some (.inserted (eventRow event)) := by
      simp only [ExecutionEventDatabase.log, hw]
      rfl
    have hCommit : NumberedLog.Step False s.log _ := .commit w _ hInserted
    rw [← Option.map_none Recording.writing, ← writing_goOn] at hCommit
    exact hCommit
  | leave w =>
    rw [log_goOn]
    exact .leave w

/-! ### One repository in memory -/

/-- The events, appended one after the other. -/
def appendAll (events : List (ExecutionEvent Decimal)) : Result (MemoryExecutionRepository Decimal) :=
  events.foldlM MemoryExecutionRepository.appendEvent .empty

/-- The events that are stored are accepted in memory, and are there under their executions. -/
structure Sound (s : ExecutionEventDatabase ω) : Prop where
  numbered : s.log.Sound
  row : ∀ row ∈ s.events, row = eventRow row.body
  accepted : ∃ repo, appendAll (s.events.map (·.body)) = .ok repo ∧
    ∀ executionId, repo.listEvents executionId = (under executionId s.events).map (·.body)

omit [DecidableEq ω] in
theorem Sound.empty : (empty : ExecutionEventDatabase ω).Sound :=
  ⟨.empty, fun _ hRow => absurd hRow List.not_mem_nil, .empty, rfl, fun _ => rfl⟩

/-- The in-memory repository accepts the event with the next number. -/
theorem appendEvent_next (repo : MemoryExecutionRepository Decimal)
    (event : ExecutionEvent Decimal)
    (h : event.eventSequence = repo.nextEventSequence event.executionId) :
    ∃ repo', repo.appendEvent event = .ok repo' ∧ ∀ executionId, repo'.listEvents executionId =
      if event.executionId = executionId then repo.listEvents executionId ++ [event]
      else repo.listEvents executionId := by
  have hNext : event.eventSequence = (repo.eventLog event.executionId).items.length + 1 := h
  rw [MemoryExecutionRepository.appendEvent, EventLog.append, dif_pos hNext]
  refine ⟨_, rfl, fun executionId => ?_⟩
  simp only [MemoryExecutionRepository.listEvents, MemoryExecutionRepository.eventLog,
    Dict.lookup_insert_eq]
  by_cases hId : event.executionId = executionId
  · subst hId
    simp
  · rw [if_neg (Ne.symm hId), if_neg hId]

omit [DecidableEq ω] in
theorem Sound.contiguous (h : Sound s) : Contiguous s.events := h.numbered.contiguous

omit [DecidableEq ω] in
theorem Sound.length (h : Sound s) {repo : MemoryExecutionRepository Decimal} {executionId : String}
    (hListed : repo.listEvents executionId = (under executionId s.events).map (·.body)) :
    next executionId s.events = repo.nextEventSequence executionId := by
  have hLength := congrArg List.length hListed
  rw [h.contiguous.next_eq executionId]
  simpa [numbers, MemoryExecutionRepository.nextEventSequence,
    MemoryExecutionRepository.listEvents] using hLength.symm

theorem Sound.commit (h : Sound s) {w : ω} {event : ExecutionEvent Decimal}
    (hw : s.services w = some (.inserted event)) :
    Sound { s with
      events := s.events ++ [eventRow event]
      services := Function.update s.services w none } := by
  have hInserted : s.log.writing w = some (.inserted (eventRow event)) := by
    simp only [log, hw]
    rfl
  have hNext : event.eventSequence = next event.executionId s.events :=
    h.numbered.inserted w _ hInserted
  obtain ⟨repo, hRepo, hListed⟩ := h.accepted
  obtain ⟨repo', hAppend, hListed'⟩ := appendEvent_next repo event
    (hNext.trans (h.length (hListed event.executionId)))
  refine ⟨h.numbered.step (Step.commit w event hw).log, fun row hRow => ?_, repo', ?_, ?_⟩
  · obtain hOld | hNew := List.mem_append.mp hRow
    · exact h.row row hOld
    · rw [List.mem_singleton.mp hNew]
      rfl
  · rw [List.map_append, appendAll, List.foldlM_append]
    change (appendAll (s.events.map (·.body)) >>= _) = _
    rw [hRepo]
    change (repo.appendEvent event >>= _) = _
    rw [hAppend]
    rfl
  · intro executionId
    rw [hListed' executionId, hListed executionId]
    by_cases hId : event.executionId = executionId
    · subst hId
      have hRows := under_append_self s.events (eventRow event)
      rw [if_pos rfl, show event.executionId = (eventRow event).key from rfl, hRows,
        List.map_append]
      rfl
    · have hRows : under executionId (s.events ++ [eventRow event]) = under executionId s.events :=
        under_append_of_ne hId
      rw [if_neg hId, hRows]

theorem Sound.step (h : Sound s) (hStep : Step s t) : Sound t := by
  have hLog := h.numbered.step hStep.log
  cases hStep with
  | commit w event hw => exact h.commit hw
  | saveRequest request => exact ⟨hLog, h.row, h.accepted⟩
  | nextEventSequence w executionId => exact ⟨hLog, h.row, h.accepted⟩
  | insert w event _ _ _ _ => exact ⟨hLog, h.row, h.accepted⟩
  | leave w => exact ⟨hLog, h.row, h.accepted⟩

theorem Sound.run (h : Sound s) (hRun : Relation.ReflTransGen Step s t) : Sound t := by
  induction hRun with
  | refl => exact h
  | tail _ hStep ih => exact ih.step hStep

omit [DecidableEq ω] in
/-- The order of the numbers is the order of the commits. -/
theorem Sound.listEvents_eq (h : Sound s) (executionId : String) :
    s.listEvents executionId = (under executionId s.events).map (·.body) := by
  have hSorted : (under executionId s.events).Pairwise fun a b => a.number ≤ b.number := by
    have hNumbers : (numbers executionId s.events).Pairwise (· ≤ ·) := by
      rw [h.contiguous executionId]
      exact List.pairwise_le_range'
    exact List.pairwise_map.mp hNumbers
  rw [listEvents, sortedBy, hSorted.insertionSort_eq]

def sampleRecorded : ExecutionEvent Decimal where
  executionId := sampleExecution.executionId
  eventSequence := 1
  eventType := .requestAccepted
  eventTimestamp := sampleExecution.requestedAt
  brokerOrderId := none
  clientOrderId := none
  status := none
  filledQuantity := none
  details := []
  eventHash := ""

/-- Two services read the same number, and the event of one is stored. -/
theorem sample_run : ∃ s : ExecutionEventDatabase Bool, Relation.ReflTransGen Step empty s ∧
    s.events = [eventRow sampleRecorded] := by
  have hRequested : Relation.ReflTransGen Step (empty : ExecutionEventDatabase Bool) _ :=
    .single (.saveRequest sampleExecution)
  have hRead := (hRequested.tail (.nextEventSequence false sampleExecution.executionId)).tail
    (.nextEventSequence true sampleExecution.executionId)
  have hInserted := hRead.tail (.insert false sampleRecorded rfl (by decide) (by decide)
    fun other _ hOther => by cases other <;> cases hOther)
  exact ⟨_, hInserted.tail (.commit false sampleRecorded rfl), rfl⟩

end ExecutionEventDatabase

end Daybreak.Execution
