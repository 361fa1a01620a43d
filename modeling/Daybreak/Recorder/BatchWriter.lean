import Daybreak.Effect.Steps
import Mathlib.Data.List.Basic

/-! The asynchronous batch writer of the recorder. Its tasks share one thread and give
it up at an `await` alone, so that what a task does between two of them is one action:
of the callers that submit events, of the writer task, of the repository that answers
it, and of those who stop or abort it. -/

namespace Daybreak.Recorder

variable {E : Type}

inductive FutureState where
  | pending | result | exception | cancelled
  deriving DecidableEq, Repr

/-- `_QueuedEvent`: an event, with the future of who waits for its durability. -/
structure QueuedEvent (E : Type) where
  event : E
  durableFuture : Option ℕ
  deriving DecidableEq, Repr

inductive QueueItem (E : Type) where
  | event (item : QueuedEvent E)
  | stop
  deriving DecidableEq, Repr

def QueueItem.event? : QueueItem E → Option (QueuedEvent E)
  | .event item => some item
  | .stop => none

@[simp] theorem QueueItem.event?_event (item : QueuedEvent E) :
    (QueueItem.event item).event? = some item := rfl

@[simp] theorem QueueItem.event?_stop : (QueueItem.stop : QueueItem E).event? = none := rfl

structure WriterStats where
  submitted : ℕ := 0
  persisted : ℕ := 0
  duplicates : ℕ := 0
  batches : ℕ := 0
  maxQueueDepth : ℕ := 0
  deriving DecidableEq, Repr

/-- A batch that was passed to `append_batch`, and whether the call returned. -/
structure AppendCall (E : Type) where
  batch : List (QueuedEvent E)
  returned : Bool
  deriving DecidableEq, Repr

/-- Where the writer task is suspended: not yet started, in `wait_for(queue.get())`, in
`append_batch`, after the stop marker or not, or done. -/
inductive Phase where
  | created | waiting | flushing (final : Bool) | returned | raised
  deriving DecidableEq, Repr

def Phase.done : Phase → Bool
  | .returned | .raised => true
  | _ => false

structure WriterConfig where
  queueMaxsize : ℕ
  batchSize : ℕ
  deriving DecidableEq, Repr

/-- The writer with its callers and the calls that the repository has answered. `accepted`
are the events that were put into the queue, in their order; `putters` are callers whose
`put` waits for space. -/
structure AsyncBatchWriter (E : Type) where
  queue : List (QueueItem E) := []
  batch : List (QueuedEvent E) := []
  phase : Phase := .created
  hasTask : Bool := true
  fatalError : Bool := false
  cancelRequested : Bool := false
  futures : ℕ → FutureState := fun _ => .pending
  nextFuture : ℕ := 0
  stats : WriterStats := {}
  putters : List (QueuedEvent E) := []
  stopPutters : ℕ := 0
  stopsAwaiting : ℕ := 0
  abortsAwaiting : ℕ := 0
  stopReturned : Bool := false
  accepted : List (QueuedEvent E) := []
  answered : List (AppendCall E) := []

namespace AsyncBatchWriter

variable (config : WriterConfig) (w : AsyncBatchWriter E)

/-! ### The queue -/

/-- The events in the queue. -/
def queued : List (QueuedEvent E) := w.queue.filterMap QueueItem.event?

/-- `queue.full()`; a queue without a positive maximal size never is. -/
def Full : Prop := 0 < config.queueMaxsize ∧ config.queueMaxsize ≤ w.queue.length

instance : Decidable (w.Full config) := inferInstanceAs (Decidable (_ ∧ _))

/-- `put` of an event, and the statistics after it. -/
def put (item : QueuedEvent E) : AsyncBatchWriter E :=
  let queue := w.queue ++ [.event item]
  { w with
    queue := queue
    accepted := w.accepted ++ [item]
    stats := { w.stats with
      submitted := w.stats.submitted + 1
      maxQueueDepth := max w.stats.maxQueueDepth queue.length } }

/-! ### Futures -/

/-- A future that is not done gets its state. -/
def settle (state : FutureState) (futures : ℕ → FutureState) (items : List (QueuedEvent E)) :
    ℕ → FutureState := fun future =>
  if futures future = .pending ∧ some future ∈ items.map (·.durableFuture) then state
  else futures future

/-! ### The writer task -/

/-- What follows a flush: the next turn of the loop, or the end of the task. -/
def afterFlush (final : Bool) : Phase := if final then .returned else .waiting

/-- `_flush` up to the call of `append_batch`, which an empty batch does not need. -/
def flush (final : Bool) : AsyncBatchWriter E :=
  { w with phase := if w.batch = [] then afterFlush final else .flushing final }

/-- The handler of `_run`: the writer has failed, and so have all who wait for it. -/
def fail : AsyncBatchWriter E :=
  { w with
    fatalError := true
    futures := settle .exception w.futures (w.batch ++ w.queued)
    batch := []
    queue := []
    phase := .raised
    cancelRequested := false }

/-- The task starts; one that was cancelled before does not reach its handler. -/
def begin : Option (AsyncBatchWriter E) :=
  if w.phase = .created then
    if w.cancelRequested then some { w with phase := .raised, cancelRequested := false }
    else some { w with phase := .waiting }
  else none

/-- `queue.get()` returns. The stop marker is followed by everything that is queued. -/
def get : Option (AsyncBatchWriter E) :=
  if w.phase = .waiting ∧ w.cancelRequested = false then
    match w.queue with
    | [] => none
    | .stop :: rest =>
      some (flush { w with queue := [], batch := w.batch ++ rest.filterMap QueueItem.event? } true)
    | .event item :: rest =>
      let taken : AsyncBatchWriter E := { w with queue := rest, batch := w.batch ++ [item] }
      if config.batchSize ≤ taken.batch.length then some (taken.flush false) else some taken
  else none

/-- The flush interval is over. -/
def timeout : Option (AsyncBatchWriter E) :=
  if w.phase = .waiting ∧ w.cancelRequested = false then some (w.flush false) else none

def appendReturns (inserted duplicates : ℕ) : Option (AsyncBatchWriter E) :=
  match w.phase with
  | .flushing final => some { w with
      answered := w.answered ++ [⟨w.batch, true⟩]
      futures := settle .result w.futures w.batch
      stats := { w.stats with
        persisted := w.stats.persisted + inserted
        duplicates := w.stats.duplicates + duplicates
        batches := w.stats.batches + 1 }
      batch := []
      phase := afterFlush final
      cancelRequested := false }
  | _ => none

def appendRaises : Option (AsyncBatchWriter E) :=
  match w.phase with
  | .flushing _ => some { w.fail with answered := w.answered ++ [⟨w.batch, false⟩] }
  | _ => none

/-- `CancelledError` arrives where the task waits for the queue. -/
def cancelled : Option (AsyncBatchWriter E) :=
  if w.phase = .waiting ∧ w.cancelRequested = true then some w.fail else none

/-! ### Callers -/

/-- `_enqueue` refuses where the writer has failed or has no task. -/
def Open : Prop := w.fatalError = false ∧ w.hasTask = true

instance : Decidable w.Open := inferInstanceAs (Decidable (_ ∧ _))

/-- `submit`, or `submit_and_wait` and one event of `submit_many_and_wait`, which create a
future first; the event is put at once where there is space. -/
def submit (event : E) (waits : Bool) : Option (AsyncBatchWriter E) :=
  if w.Open then
    let item : QueuedEvent E := ⟨event, if waits then some w.nextFuture else none⟩
    let created := { w with nextFuture := if waits then w.nextFuture + 1 else w.nextFuture }
    if w.Full config then some { created with putters := w.putters ++ [item] }
    else some (created.put item)
  else none

/-- A caller that waited for space puts its event. -/
def putWaiting (index : ℕ) : Option (AsyncBatchWriter E) :=
  match w.putters[index]? with
  | some item =>
    if w.Full config then none else some ({ w with putters := w.putters.eraseIdx index }.put item)
  | none => none

/-- The enqueue timeout is over, or the caller is cancelled, before there was space. -/
def giveUp (index : ℕ) : Option (AsyncBatchWriter E) :=
  if index < w.putters.length then some { w with putters := w.putters.eraseIdx index } else none

/-- A caller is cancelled while it waits for the durability of its event. -/
def cancelWait (future : ℕ) : Option (AsyncBatchWriter E) :=
  if w.futures future = .pending then
    some { w with futures := fun other => if other = future then .cancelled else w.futures other }
  else none

/-! ### Stop and abort -/

/-- What `stop` does where the task is done: it raises what the task raised, or because of
a fatal error, and returns otherwise. -/
def stopDone : AsyncBatchWriter E :=
  { w with
    hasTask := false
    stopReturned := w.stopReturned || (w.phase = .returned && !w.fatalError) }

/-- `stop` up to its first `await` that waits. -/
def stop : Option (AsyncBatchWriter E) :=
  if w.hasTask = false then some { w with stopReturned := true }
  else if w.phase.done then some w.stopDone
  else if w.Full config then some { w with stopPutters := w.stopPutters + 1 }
  else some { w with queue := w.queue ++ [.stop], stopsAwaiting := w.stopsAwaiting + 1 }

/-- A `stop` that waited for space puts its marker. -/
def putStop : Option (AsyncBatchWriter E) :=
  if 0 < w.stopPutters ∧ ¬ w.Full config then
    some { w with
      stopPutters := w.stopPutters - 1
      queue := w.queue ++ [.stop]
      stopsAwaiting := w.stopsAwaiting + 1 }
  else none

/-- `stop` goes on after the task. -/
def stopReturns : Option (AsyncBatchWriter E) :=
  if 0 < w.stopsAwaiting ∧ w.phase.done = true then
    some { w.stopDone with stopsAwaiting := w.stopsAwaiting - 1 }
  else none

/-- `abort` up to its `await`. -/
def abort : Option (AsyncBatchWriter E) :=
  if w.hasTask = false then some { w with fatalError := true }
  else if w.phase.done then some { w with fatalError := true, hasTask := false }
  else some { w with
    fatalError := true
    cancelRequested := true
    abortsAwaiting := w.abortsAwaiting + 1 }

def abortReturns : Option (AsyncBatchWriter E) :=
  if 0 < w.abortsAwaiting ∧ w.phase.done = true then
    some { w with abortsAwaiting := w.abortsAwaiting - 1, hasTask := false }
  else none

end AsyncBatchWriter

/-! ### Actions -/

inductive Action (E : Type) where
  | begin | get | timeout | cancelled
  | appendReturns (inserted duplicates : ℕ)
  | appendRaises
  | submit (event : E) (waits : Bool)
  | putWaiting (index : ℕ)
  | giveUp (index : ℕ)
  | cancelWait (future : ℕ)
  | stop | putStop | stopReturns
  | abort | abortReturns
  deriving DecidableEq, Repr

/-- One action of one task, up to its next `await`. -/
def AsyncBatchWriter.step (config : WriterConfig) (w : AsyncBatchWriter E) :
    Action E → Option (AsyncBatchWriter E)
  | .begin => w.begin
  | .get => w.get config
  | .timeout => w.timeout
  | .cancelled => w.cancelled
  | .appendReturns inserted duplicates => w.appendReturns inserted duplicates
  | .appendRaises => w.appendRaises
  | .submit event waits => w.submit config event waits
  | .putWaiting index => w.putWaiting config index
  | .giveUp index => w.giveUp index
  | .cancelWait future => w.cancelWait future
  | .stop => w.stop config
  | .putStop => w.putStop config
  | .stopReturns => w.stopReturns
  | .abort => w.abort
  | .abortReturns => w.abortReturns

/-- A writer that was just started. -/
def AsyncBatchWriter.started : AsyncBatchWriter E := {}

end Daybreak.Recorder
