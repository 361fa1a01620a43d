import Daybreak.Recorder.BatchWriter

/-! `RecorderService.run_capture`: one recorder session, from the opening of the repository to its
end. The supervisor, the services it started and the writer task share one thread; each step is
what one of them does between two `await`s. A service is any task that submits events while it
runs, and does not end while one of its submissions waits for space. -/

namespace Daybreak.Recorder

variable {E : Type}

inductive SessionStatus where
  | starting | running | stopping | completed | completedPartial | failed | skippedNonTradingDay
  deriving DecidableEq, Repr

inductive ServiceKind where
  | stream | poller
  deriving DecidableEq, Repr

/-- How a task ended: it returned, raised an `Exception`, or was cancelled. -/
inductive TaskOutcome where
  | returned
  | raised (error : String)
  | cancelled
  deriving DecidableEq, Repr

structure ServiceTask where
  kind : ServiceKind
  outcome : Option TaskOutcome
  deriving DecidableEq, Repr

/-- Where the supervisor is suspended; `escaped` is left by an exception that no handler takes, or with the
end of the process. -/
inductive CaptureStage where
  | opening | saving | manifest | supervising
  | stoppingStreams
  | settling (kind : ServiceKind) (cancelled : Bool)
  | stoppingWriter | aborting
  | finishing | closing | ended | escaped
  deriving DecidableEq, Repr

/-- What `run_capture` is called with. -/
structure CaptureConfig (E : Type) where
  writer : WriterConfig
  manifestEvent : E
  partialCapture : Bool
  externalStopEvent : Bool
  shutdownTimeoutSeconds : String

/-- A session. `streams` counts the adapters that `stream_factory` made, `owners` are the services
whose submissions wait for space, and `row` is what `finish_session` stores. -/
structure Capture (E : Type) where
  stage : CaptureStage := .opening
  writer : Option (AsyncBatchWriter E) := none
  streams : ℕ := 0
  services : List ServiceTask := []
  owners : List ℕ := []
  timerDone : Bool := false
  externalDone : Bool := false
  status : SessionStatus := .failed
  errors : List String := []
  cancellation : Bool := false
  row : Option (SessionStatus × Option String) := none

structure RecorderSessionResult where
  status : SessionStatus
  writerSubmitted : ℕ
  writerPersisted : ℕ
  writerDuplicates : ℕ
  errorMessage : Option String
  deriving DecidableEq, Repr

namespace Capture

variable (config : CaptureConfig E) (s : Capture E)

def completedStatus : SessionStatus :=
  if config.partialCapture then .completedPartial else .completed

/-- `_format_errors` -/
def formatErrors (errors : List String) : Option String :=
  if errors = [] then none
  else some (String.ofList (("; ".intercalate errors).toList.take 4096))

/-! ### The way to the end -/

/-- An `except` clause of the capture, and the beginning of its `finally`. -/
def fails (error : String) : Capture E :=
  { s with stage := .stoppingStreams, status := .failed, errors := s.errors ++ [error] }

def cancelledError : String := "CancelledError: recorder task was cancelled"

/-- `task.exception()` of a service that is done, which itself raises where the task was
cancelled. -/
def serviceFails : TaskOutcome → Capture E
  | .returned =>
    s.fails "RuntimeError: a required ingestion service ended before the capture stop"
  | .raised _ => s.fails "RuntimeError: a required ingestion service failed"
  | .cancelled => { s.fails cancelledError with cancellation := true }

/-- `_stop_streams`, where all of them have answered. -/
def stopErrors (results : List (Option String)) : List String :=
  results.filterMap (·.map ("stream stop failed: " ++ ·))

def stopTimeoutError : String :=
  "stream stop timeout: one or more stream adapters did not stop within " ++
    config.shutdownTimeoutSeconds ++ " seconds"

def label : ServiceKind → String
  | .stream => "stream tasks"
  | .poller => "poller tasks"

def ofKind (kind : ServiceKind) : List ServiceTask :=
  s.services.filter (·.kind = kind)

/-- What `_settle_tasks` reports of the tasks of a kind. A task that was cancelled is no error. -/
def settleErrors (kind : ServiceKind) (cancelled : Bool) : List String :=
  if cancelled then
    [label kind ++ " shutdown timeout after " ++ config.shutdownTimeoutSeconds ++ " seconds"]
  else
    (s.ofKind kind).filterMap fun task =>
      match task.outcome with
      | some (.raised error) => some (label kind ++ " failed during shutdown: " ++ error)
      | _ => none

def settled (kind : ServiceKind) (cancelled : Bool) : Capture E :=
  { s with errors := s.errors ++ settleErrors config s kind cancelled }

/-- `writer.stop()` waits for the queue or for the task. A timeout while the task goes on is passed
on to the task, which may still return. -/
def stopWaits (w : AsyncBatchWriter E) : Prop :=
  0 < w.stopPutters ∨ 0 < w.stopsAwaiting

/-- A stop that is cancelled while it waits for the queue, or after the task has ended. -/
def leaveStop (w : AsyncBatchWriter E) : AsyncBatchWriter E :=
  { w with
    hasTask := w.hasTask && decide (w.stopsAwaiting = 0)
    stopPutters := 0
    stopsAwaiting := 0 }

def shutdownFails (error : String) : Capture E :=
  { s with stage := .aborting, errors := s.errors ++ ["writer shutdown failed: " ++ error] }

/-- `finish_session` -/
def finish : Capture E :=
  { s with
    stage := .closing
    row := some (if s.errors = [] then s.status else .failed, formatErrors s.errors) }

/-- What `run_capture` returns, after it has closed the repository. -/
def result : Option RecorderSessionResult :=
  match s.stage, s.row with
  | .ended, some (status, errorMessage) =>
    if s.cancellation then none
    else
      let stats := (s.writer.map (·.stats)).getD {}
      some ⟨status, stats.submitted, stats.persisted, stats.duplicates, errorMessage⟩
  | _, _ => none

/-! ### Steps -/

/-- What the writer task and its repository do. -/
def ofTask : Action E → Bool
  | .begin | .get | .timeout | .cancelled | .appendReturns _ _ | .appendRaises => true
  | _ => false

/-- What goes on in a call of `stop` or `abort`. -/
def ofSupervisor : Action E → Bool
  | .putStop | .stopReturns | .abortReturns => true
  | _ => false

def Running (service : ℕ) : Prop :=
  ∃ task, s.services[service]? = some task ∧ task.outcome = none

/-- One step of a session. An `AppendBatchResult` counts each event that was attempted. -/
inductive Step : Capture E → Prop
  | opened : s.stage = .opening → Step { s with stage := .saving }
  | openFails : s.stage = .opening → Step { s with stage := .escaped }
  | saveFails (error : String) : s.stage = .saving → Step (s.fails error)
  | manifestSaved (w : AsyncBatchWriter E) : s.stage = .saving →
      AsyncBatchWriter.started.step config.writer (.submit config.manifestEvent true) = some w →
      Step { s with stage := .manifest, writer := some w }
  | manifestRefused (w : AsyncBatchWriter E) (error : String) : s.stage = .manifest →
      s.writer = some w → w.futures 0 = .exception → Step (s.fails error)
  | factoryFails (w : AsyncBatchWriter E) (streams : ℕ) (error : String) : s.stage = .manifest →
      s.writer = some w → w.futures 0 = .result → Step ({ s with streams }.fails error)
  | noStreams (w : AsyncBatchWriter E) : s.stage = .manifest →
      s.writer = some w → w.futures 0 = .result →
      Step (s.fails "RuntimeError: at least one required stream must be configured")
  | supervise (w : AsyncBatchWriter E) (streams pollers : ℕ) : s.stage = .manifest →
      s.writer = some w → w.futures 0 = .result → 0 < streams →
      Step { s with
        stage := .supervising
        streams := streams
        services := .replicate streams ⟨.stream, none⟩ ++ .replicate pollers ⟨.poller, none⟩ }
  | timer : s.stage = .supervising → Step { s with timerDone := true }
  | external : s.stage = .supervising → config.externalStopEvent = true →
      Step { s with externalDone := true }
  | serviceDone (service : ℕ) (task : ServiceTask) (outcome : TaskOutcome) :
      s.stage = .supervising → s.services[service]? = some task → task.outcome = some outcome →
      Step (s.serviceFails outcome)
  | stopDue : s.stage = .supervising → (∀ task ∈ s.services, task.outcome = none) →
      s.timerDone = true ∨ s.externalDone = true →
      Step { s with stage := .stoppingStreams, status := completedStatus config }
  | cancelManifest (w : AsyncBatchWriter E) : s.stage = .manifest → s.writer = some w →
      Step { s.fails cancelledError with
        writer := (w.step config.writer (.cancelWait 0)).getD w
        cancellation := true }
  | cancel : s.stage = .saving ∨ s.stage = .supervising →
      Step { s.fails cancelledError with cancellation := true }
  | escapes : Step { s with stage := .escaped }
  | streamsStopped (results : List (Option String)) : s.stage = .stoppingStreams →
      results.length = s.streams →
      Step { s with stage := .settling .stream false, errors := s.errors ++ stopErrors results }
  | streamStopTimeout : s.stage = .stoppingStreams → 0 < s.streams →
      Step { s with stage := .settling .stream false, errors := s.errors ++ [stopTimeoutError config] }
  | settleTimeout (kind : ServiceKind) : s.stage = .settling kind false → s.ofKind kind ≠ [] →
      Step { s with stage := .settling kind true }
  | streamsSettled (cancelled : Bool) : s.stage = .settling .stream cancelled →
      (∀ task ∈ s.ofKind .stream, task.outcome ≠ none) →
      Step { settled config s .stream cancelled with stage := .settling .poller false }
  | pollersSettled (cancelled : Bool) (w w' : AsyncBatchWriter E) :
      s.stage = .settling .poller cancelled → (∀ task ∈ s.ofKind .poller, task.outcome ≠ none) →
      s.writer = some w → w.step config.writer .stop = some w' →
      Step { settled config s .poller cancelled with stage := .stoppingWriter, writer := some w' }
  | pollersSettledUnstarted (cancelled : Bool) : s.stage = .settling .poller cancelled →
      (∀ task ∈ s.ofKind .poller, task.outcome ≠ none) → s.writer = none →
      Step { settled config s .poller cancelled with stage := .finishing }
  | writerStopped (w : AsyncBatchWriter E) : s.stage = .stoppingWriter → s.writer = some w →
      ¬ stopWaits w → w.stopReturned = true → Step { s with stage := .finishing }
  | stopRaises (w w' : AsyncBatchWriter E) (error : String) : s.stage = .stoppingWriter →
      s.writer = some w → ¬ stopWaits w → w.stopReturned = false → w.step config.writer .abort = some w' →
      Step { s.shutdownFails error with writer := some w' }
  | stopTimeout (w : AsyncBatchWriter E) : s.stage = .stoppingWriter → s.writer = some w →
      0 < w.stopsAwaiting → w.phase.done = false →
      Step { s with writer := some { w with cancelRequested := true } }
  | stopLeaves (w w' : AsyncBatchWriter E) : s.stage = .stoppingWriter → s.writer = some w →
      stopWaits w → w.stopsAwaiting = 0 ∨ w.phase.done = true → (leaveStop w).step config.writer .abort = some w' →
      Step { s.shutdownFails "" with writer := some w' }
  | aborted (w : AsyncBatchWriter E) : s.stage = .aborting → s.writer = some w →
      w.abortsAwaiting = 0 → Step { s with stage := .finishing }
  | finished : s.stage = .finishing → Step s.finish
  | finishFails : s.stage = .finishing → Step { s with stage := .escaped }
  | closed : s.stage = .closing → Step { s with stage := .ended }
  | task (w w' : AsyncBatchWriter E) (action : Action E) : s.writer = some w →
      ofTask action = true →
      (∀ inserted duplicates, action = .appendReturns inserted duplicates →
        inserted + duplicates = w.batch.length) →
      w.step config.writer action = some w' → Step { s with writer := some w' }
  | supervisor (w w' : AsyncBatchWriter E) (action : Action E) : s.writer = some w →
      s.stage = .stoppingWriter ∨ s.stage = .aborting →
      ofSupervisor action = true → w.step config.writer action = some w' →
      Step { s with writer := some w' }
  | submit (w w' : AsyncBatchWriter E) (service : ℕ) (event : E) (waits : Bool) :
      s.writer = some w → s.Running service → w.step config.writer (.submit event waits) = some w' →
      Step { s with
        writer := some w'
        owners := if w.Full config.writer then s.owners ++ [service] else s.owners }
  | putWaiting (w w' : AsyncBatchWriter E) (index : ℕ) : s.writer = some w →
      w.step config.writer (.putWaiting index) = some w' →
      Step { s with writer := some w', owners := s.owners.eraseIdx index }
  | giveUp (w w' : AsyncBatchWriter E) (index : ℕ) : s.writer = some w → w.step config.writer (.giveUp index) = some w' →
      Step { s with writer := some w', owners := s.owners.eraseIdx index }
  | cancelWait (w w' : AsyncBatchWriter E) (future : ℕ) : s.writer = some w → future ≠ 0 →
      w.step config.writer (.cancelWait future) = some w' → Step { s with writer := some w' }
  | serviceEnds (service : ℕ) (task : ServiceTask) (outcome : TaskOutcome) :
      s.services[service]? = some task → task.outcome = none → service ∉ s.owners →
      Step { s with services := s.services.set service { task with outcome := some outcome } }

end Capture

end Daybreak.Recorder
