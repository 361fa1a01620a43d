import Daybreak.Recorder.Capture
import Daybreak.Recorder.Shutdown

/-! What a session of the recorder stores. The manifest event is the first in its log, and durable
before a service starts; a session that ends as completed has stored all that was submitted. -/

namespace Daybreak.Recorder

open Daybreak.Effect.Steps

variable {E : Type}

/-! ### The flow of a writer -/

namespace Flow

variable {f g : Flow E} {reliable accepts : Prop}

theorem Step.accepted_prefix (h : Step reliable accepts f g) : f.accepted <+: g.accepted := by
  cases h with
  | accept item putters nextFuture _ _ => exact List.prefix_append _ _
  | _ => exact List.prefix_rfl

/-- A future that is done stays as it is. -/
theorem Step.futures_done (h : Step reliable accepts f g) (future : ℕ)
    (hDone : f.futures future ≠ .pending) : g.futures future = f.futures future := by
  cases h with
  | answer final count _ _ => exact settle_of_done hDone
  | fail answered _ _ => exact settle_of_done hDone
  | forget other hPending =>
    by_cases hOther : future = other
    · exact absurd (hOther ▸ hPending) hDone
    · exact if_neg hOther
  | _ => rfl

theorem Step.returned (h : Step reliable accepts f g) (hPhase : f.phase = .returned) :
    g.phase = .returned := by
  cases h with
  | begin h => exact absurd (hPhase.symm.trans h) nofun
  | take _ _ h => exact absurd (hPhase.symm.trans h) nofun
  | flush _ _ _ h => exact absurd (hPhase.symm.trans h) nofun
  | answer _ _ h => exact absurd (hPhase.symm.trans h) nofun
  | drop _ h => exact absurd (hPhase.symm.trans h) nofun
  | fail answered _ hAnswered =>
    rcases hAnswered with ⟨h, -⟩ | ⟨⟨_, h⟩, -⟩
    · exact absurd (hPhase.symm.trans h) nofun
    · exact absurd (hPhase.symm.trans h) nofun
  | _ => exact hPhase

/-- The flow where no cancellation is asked for. -/
def uncancelled (f : Flow E) : Flow E :=
  { f with cancelRequested := false }

/-- A step that does not end in failure is one of a writer that nobody cancels. -/
theorem Step.uncancelled (h : Step reliable accepts f g) (hPhase : g.phase ≠ .raised) :
    Step reliable accepts f.uncancelled g.uncancelled := by
  cases h with
  | still => exact .still
  | begin h => exact .begin h
  | accept item putters nextFuture hAccepts hItem =>
    exact .accept (f := f.uncancelled) item putters nextFuture hAccepts hItem
  | block item nextFuture hCreated => exact .block (f := f.uncancelled) item nextFuture hCreated
  | leave putters hLeft => exact .leave (f := f.uncancelled) putters hLeft
  | take batch queued h hMoved => exact .take (f := f.uncancelled) batch queued h hMoved
  | flush final batch queued h hMoved hFinal =>
    exact .flush (f := f.uncancelled) final batch queued h hMoved hFinal
  | answer final count h hCount => exact .answer (f := f.uncancelled) final count h hCount
  | fail answered _ _ => exact absurd rfl hPhase
  | drop _ _ => exact absurd rfl hPhase
  | forget future hPending => exact .forget (f := f.uncancelled) future hPending
  | cancel hUnreliable => exact .still
  | close stopped hDone hStopped => exact .close (f := f.uncancelled) stopped hDone hStopped
  | again hTask => exact .again (f := f.uncancelled) hTask

end Flow

/-! ### The first event -/

theorem not_full_started {config : WriterConfig} :
    ¬ (AsyncBatchWriter.started : AsyncBatchWriter E).Full config :=
  fun hFull => absurd (Nat.lt_of_lt_of_le hFull.1 hFull.2) (Nat.lt_irrefl 0)

/-- The log of a writer begins with an event, whose submitter waits for it. -/
structure Opens (event : E) (w : AsyncBatchWriter E) : Prop where
  sound : w.flow.Sound
  fresh : w.flow.Fresh
  first : ∃ rest, w.accepted = ⟨event, some 0⟩ :: rest

namespace Opens

variable {event : E} {w w' : AsyncBatchWriter E}

theorem flow {reliable accepts : Prop} (h : Opens event w)
    (hStep : Flow.Step reliable accepts w.flow w'.flow) : Opens event w' := by
  refine ⟨h.sound.step hStep, h.fresh.step hStep, ?_⟩
  obtain ⟨rest, hFirst⟩ := h.first
  obtain ⟨more, hMore⟩ := hStep.accepted_prefix
  exact ⟨rest ++ more, hMore.symm.trans (congrArg (· ++ more) hFirst)⟩

theorem submitted {config : WriterConfig}
    (h : AsyncBatchWriter.started.step config (.submit event true) = some w) : Opens event w := by
  have hFlow := AsyncBatchWriter.step_flow h
  rw [AsyncBatchWriter.step, AsyncBatchWriter.submit, if_pos ⟨rfl, rfl⟩, if_neg not_full_started] at h
  obtain rfl := Option.some.inj h
  have hFresh : (AsyncBatchWriter.started : AsyncBatchWriter E).flow.Fresh :=
    ⟨List.nodup_nil, fun future hFuture => absurd hFuture List.not_mem_nil⟩
  exact ⟨Flow.Sound.started.step hFlow, hFresh.step hFlow, [], rfl⟩

/-- Where the submitter has its answer, the repository had the event in a call that returned. -/
theorem durable (h : Opens event w) (hResult : w.futures 0 = .result) :
    ∃ call ∈ w.answered, call.returned = true ∧ ⟨event, some 0⟩ ∈ call.batch := by
  obtain ⟨rest, hFirst⟩ := h.first
  refine (durable_of_sound h.sound h.fresh).acknowledged ⟨event, some 0⟩ ?_ 0 rfl hResult
  rw [hFirst]
  exact List.mem_append_left _ List.mem_cons_self

end Opens

namespace Capture

open AsyncBatchWriter

variable {config : CaptureConfig E} {s t : Capture E} {w w' : AsyncBatchWriter E}

/-! ### Every session -/

/-- The writer has not been started. -/
def early : CaptureStage → Bool
  | .opening | .saving => true
  | _ => false

/-- The log of a session begins with its manifest event; the services wait for it. -/
structure Recording (config : CaptureConfig E) (s : Capture E) : Prop where
  unwritten : early s.stage = true → s.writer = none
  unstarted : s.writer = none → s.services = []
  opens : ∀ w, s.writer = some w → Opens config.manifestEvent w
  durable : ∀ w, s.writer = some w → s.services ≠ [] → w.futures 0 = .result

namespace Recording

theorem keep (h : Recording config s) (hStage : early t.stage = true → early s.stage = true)
    (hWriter : t.writer = s.writer) (hServices : t.services = s.services) : Recording config t := by
  refine ⟨fun hEarly => hWriter.trans (h.unwritten (hStage hEarly)), ?_, ?_, ?_⟩
  · rw [hWriter, hServices]
    exact h.unstarted
  · rw [hWriter]
    exact h.opens
  · rw [hWriter, hServices]
    exact h.durable

theorem write (h : Recording config s) (hStage : early t.stage = true → early s.stage = true)
    (hWriter : s.writer = some w) {reliable accepts : Prop}
    (hStep : Flow.Step reliable accepts w.flow w'.flow) (hWritten : t.writer = some w')
    (hServices : t.services = s.services) : Recording config t := by
  have hSame {v : AsyncBatchWriter E} (hv : t.writer = some v) : v = w' :=
    Option.some.inj (hv.symm.trans hWritten)
  refine ⟨fun hEarly => ?_, fun hNone => ?_, fun v hv => ?_, fun v hv hSome => ?_⟩
  · exact absurd (hWriter.symm.trans (h.unwritten (hStage hEarly))) nofun
  · rw [hWritten] at hNone
    cases hNone
  · rw [hSame hv]
    exact (h.opens w hWriter).flow hStep
  · rw [hServices] at hSome
    have hResult := h.durable w hWriter hSome
    rw [hSame hv]
    exact (hStep.futures_done 0 (by
      change w.futures 0 ≠ .pending
      rw [hResult]
      exact nofun)).trans hResult

end Recording

/-- A stop that is left goes as far as the flow is concerned. -/
theorem leaveStop_flow (hLeft : w.stopsAwaiting = 0 ∨ w.phase.done = true) :
    Flow.Step False False w.flow (leaveStop w).flow := by
  by_cases hNone : w.stopsAwaiting = 0
  · have hSame : (leaveStop w).flow = w.flow := by
      simp [leaveStop, AsyncBatchWriter.flow, AsyncBatchWriter.queued, hNone]
    rw [hSame]
    exact .still
  · have hClosed : (leaveStop w).flow = { w.flow with hasTask := false } := by
      simp [leaveStop, AsyncBatchWriter.flow, AsyncBatchWriter.queued, hNone]
    rw [hClosed]
    exact .close w.stopReturned (hLeft.resolve_left hNone) .inl

theorem Recording.step (h : Recording config s) (hStep : Step config s t) : Recording config t := by
  cases hStep with
  | opened hStage => exact h.keep (fun _ => by rw [hStage]; rfl) rfl rfl
  | timer hStage => exact h.keep id rfl rfl
  | external hStage _ => exact h.keep id rfl rfl
  | manifestSaved w hStage hSubmit =>
    have hNone : s.services = [] := h.unstarted (h.unwritten (by rw [hStage]; rfl))
    exact ⟨nofun, nofun, fun v hv => Option.some.inj hv ▸ .submitted hSubmit,
      fun v hv hSome => absurd hNone hSome⟩
  | supervise w streams pollers hStage hWriter hResult hStreams =>
    refine ⟨nofun, fun hNone => absurd (hWriter.symm.trans hNone) nofun, h.opens, fun v hv _ => ?_⟩
    rw [Option.some.inj (hv.symm.trans hWriter)]
    exact hResult
  | cancelManifest w hStage hWriter =>
    cases hCancel : w.step config.writer (.cancelWait 0) with
    | none => exact h.keep nofun (by rw [hWriter, Option.getD_none]) rfl
    | some w' =>
      exact h.write nofun hWriter (step_flow hCancel)
        (by rw [Option.getD_some]) rfl
  | serviceDone service task outcome hStage hTask hOutcome => cases outcome <;> exact h.keep nofun rfl rfl
  | pollersSettled cancelled w w' hStage hDone hWriter hStop =>
    exact h.write nofun hWriter (step_flow hStop) rfl rfl
  | stopRaises w w' error hStage hWriter hIdle hRaised hAbort =>
    exact h.write nofun hWriter (step_flow hAbort) rfl rfl
  | stopTimeout w hStage hWriter hWaits hDone =>
    have hCancel : Flow.Step False False w.flow { w.flow with cancelRequested := true } := .cancel id
    exact h.write id hWriter hCancel rfl rfl
  | stopLeaves w w' hStage hWriter hWaits hLeft hAbort =>
    have hMiddle : Recording config { s with writer := some (leaveStop w) } :=
      h.write id hWriter (leaveStop_flow hLeft) rfl rfl
    exact hMiddle.write nofun rfl (step_flow hAbort) rfl rfl
  | task w w' action hWriter _ _ hAction => exact h.write id hWriter (step_flow hAction) rfl rfl
  | supervisor w w' action hWriter _ _ hAction => exact h.write id hWriter (step_flow hAction) rfl rfl
  | submit w w' service event waits hWriter hRunning hSubmit =>
    exact h.write id hWriter
      (step_flow hSubmit) rfl rfl
  | putWaiting w w' index hWriter hPut =>
    exact h.write id hWriter
      (step_flow hPut) rfl rfl
  | giveUp w w' index hWriter hLeft =>
    exact h.write id hWriter
      (step_flow hLeft) rfl rfl
  | cancelWait w w' future hWriter hOther hCancel =>
    exact h.write id hWriter
      (step_flow hCancel) rfl rfl
  | serviceEnds service task outcome hTask hRunning hOwner =>
    refine ⟨h.unwritten, fun hNone => ?_, h.opens, fun v hv hSome => h.durable v hv fun hNil => ?_⟩
    · rw [h.unstarted hNone, List.getElem?_nil] at hTask
      cases hTask
    · rw [hNil, List.getElem?_nil] at hTask
      cases hTask
  | _ => exact h.keep nofun rfl rfl

theorem Recording.of_run (h : Relation.ReflTransGen (Step config) {} s) : Recording config s := by
  induction h with
  | refl => exact ⟨fun _ => rfl, fun _ => rfl, nofun, nofun⟩
  | tail _ hStep ih => exact ih.step hStep

/-! ### The writer until it is stopped -/

/-- Nobody has stopped the writer, whose queue holds no marker. -/
structure Unstopped (w : AsyncBatchWriter E) : Prop where
  unmarked : QueueItem.stop ∉ w.queue
  undrained : w.phase = .raised ∨ w.phase.drained = false
  task : w.hasTask = true
  unreturned : w.stopReturned = false
  idle : ¬ stopWaits w

/-- The actions that a session takes while it does not stop its writer. -/
def plain : Action E → Bool
  | .stop | .putStop | .stopReturns | .abort | .abortReturns => false
  | _ => true

theorem plain_of_task {action : Action E} (h : ofTask action = true) : plain action = true := by
  cases action <;> first | rfl | cases h

theorem drained_flush (w : AsyncBatchWriter E) : (w.flush false).phase.drained = false := by
  by_cases hBatch : w.batch = [] <;>
    simp [AsyncBatchWriter.flush, AsyncBatchWriter.afterFlush, Phase.drained, hBatch]

theorem unmarked_put {item : QueuedEvent E} (h : QueueItem.stop ∉ w.queue) :
    QueueItem.stop ∉ (w.put item).queue := by
  intro hMem
  obtain hBefore | hItem := List.mem_append.mp hMem
  · exact h hBefore
  · cases List.mem_singleton.mp hItem

theorem Unstopped.step {writerConfig : WriterConfig} {action : Action E} (h : Unstopped w)
    (hPlain : plain action = true) (hStep : w.step writerConfig action = some w') :
    Unstopped w' := by
  obtain ⟨hUnmarked, hUndrained, hTask, hUnreturned, hIdle⟩ := h
  cases action with
  | stop | putStop | stopReturns | abort | abortReturns => cases hPlain
  | begin =>
    simp only [AsyncBatchWriter.step, AsyncBatchWriter.begin] at hStep
    split_ifs at hStep <;> cases hStep
    · exact ⟨hUnmarked, .inl rfl, hTask, hUnreturned, hIdle⟩
    · exact ⟨hUnmarked, .inr rfl, hTask, hUnreturned, hIdle⟩
  | get =>
    simp only [AsyncBatchWriter.step, AsyncBatchWriter.get] at hStep
    split_ifs at hStep with hWaiting
    split at hStep
    · cases hStep
    · next rest hQueue => exact absurd (hQueue ▸ List.mem_cons_self) hUnmarked
    · next item rest hQueue =>
      have hRest : QueueItem.stop ∉ rest := fun hMem =>
        hUnmarked (hQueue ▸ List.mem_cons_of_mem _ hMem)
      split_ifs at hStep <;> cases hStep
      · exact ⟨hRest, .inr (drained_flush _), hTask, hUnreturned, hIdle⟩
      · exact ⟨hRest, hUndrained, hTask, hUnreturned, hIdle⟩
  | timeout =>
    simp only [AsyncBatchWriter.step, AsyncBatchWriter.timeout] at hStep
    split_ifs at hStep
    cases hStep
    exact ⟨hUnmarked, .inr (drained_flush _), hTask, hUnreturned, hIdle⟩
  | cancelled =>
    simp only [AsyncBatchWriter.step, AsyncBatchWriter.cancelled] at hStep
    split_ifs at hStep
    cases hStep
    exact ⟨List.not_mem_nil, .inl rfl, hTask, hUnreturned, hIdle⟩
  | appendReturns inserted duplicates =>
    simp only [AsyncBatchWriter.step, AsyncBatchWriter.appendReturns] at hStep
    split at hStep
    · next final hPhase =>
      cases hStep
      have hNotFinal : final = false := by
        rw [hPhase] at hUndrained
        exact hUndrained.resolve_left fun hRaised => by cases hRaised
      rw [hNotFinal]
      exact ⟨hUnmarked, .inr rfl, hTask, hUnreturned, hIdle⟩
    · cases hStep
  | appendRaises =>
    simp only [AsyncBatchWriter.step, AsyncBatchWriter.appendRaises] at hStep
    split at hStep
    · cases hStep
      exact ⟨List.not_mem_nil, .inl rfl, hTask, hUnreturned, hIdle⟩
    · cases hStep
  | submit event waits =>
    simp only [AsyncBatchWriter.step, AsyncBatchWriter.submit] at hStep
    by_cases hOpen : w.Open
    · rw [if_pos hOpen] at hStep
      by_cases hFull : w.Full writerConfig
      · rw [if_pos hFull] at hStep
        obtain rfl := Option.some.inj hStep
        exact ⟨hUnmarked, hUndrained, hTask, hUnreturned, hIdle⟩
      · rw [if_neg hFull] at hStep
        obtain rfl := Option.some.inj hStep
        exact ⟨unmarked_put hUnmarked, hUndrained, hTask, hUnreturned, hIdle⟩
    · rw [if_neg hOpen] at hStep
      cases hStep
  | putWaiting index =>
    simp only [AsyncBatchWriter.step, AsyncBatchWriter.putWaiting] at hStep
    split at hStep
    · split_ifs at hStep
      cases hStep
      exact ⟨unmarked_put hUnmarked, hUndrained, hTask, hUnreturned, hIdle⟩
    · cases hStep
  | giveUp index =>
    simp only [AsyncBatchWriter.step, AsyncBatchWriter.giveUp] at hStep
    split_ifs at hStep
    cases hStep
    exact ⟨hUnmarked, hUndrained, hTask, hUnreturned, hIdle⟩
  | cancelWait future =>
    simp only [AsyncBatchWriter.step, AsyncBatchWriter.cancelWait] at hStep
    split_ifs at hStep
    cases hStep
    exact ⟨hUnmarked, hUndrained, hTask, hUnreturned, hIdle⟩

/-! ### The writer of a session that has met no error -/

/-- As long as the writer task has not raised, it delivers what it takes, and nothing was put into
a queue that it had drained; a cancellation that was asked for does not matter. -/
def Delivering (w : AsyncBatchWriter E) : Prop :=
  w.phase ≠ .raised → w.flow.uncancelled.Calm ∧ w.flow.uncancelled.Cleared

theorem appendRaises_raised {writerConfig : WriterConfig}
    (h : w.step writerConfig .appendRaises = some w') : w'.phase = .raised := by
  simp only [AsyncBatchWriter.step, AsyncBatchWriter.appendRaises] at h
  split at h
  · obtain rfl := Option.some.inj h
    rfl
  · cases h

theorem Delivering.step {writerConfig : WriterConfig} {action : Action E} (h : Delivering w)
    (hStep : w.step writerConfig action = some w') (hAbort : action ≠ .abort)
    (hAccounts : ∀ inserted duplicates, action = .appendReturns inserted duplicates →
      inserted + duplicates = w.batch.length)
    (hTimely : w.phase ≠ .raised → Timely writerConfig w action) : Delivering w' := by
  intro hUnraised
  have hFlow := step_flow hStep
  have hBefore : w.phase ≠ .raised := fun hRaised => hUnraised (hFlow.raised hRaised).1
  have hReliable : Reliable w action := by
    cases action with
    | appendReturns inserted duplicates => exact hAccounts inserted duplicates rfl
    | appendRaises => exact absurd (appendRaises_raised hStep) hUnraised
    | abort => exact absurd rfl hAbort
    | _ => trivial
  obtain ⟨hCalm, hCleared⟩ := h hBefore
  have hUncancelled := hFlow.uncancelled hUnraised
  exact ⟨hCalm.step hReliable hUncancelled,
    hCleared.step hCalm hReliable (hTimely hBefore) hUncancelled⟩

theorem stopReturned_eq {writerConfig : WriterConfig} {action : Action E}
    (hStep : w.step writerConfig action = some w') (hStop : action ≠ .stop)
    (hReturns : action ≠ .stopReturns) : w'.stopReturned = w.stopReturned := by
  cases action with
  | stop => exact absurd rfl hStop
  | stopReturns => exact absurd rfl hReturns
  | _ =>
    grind [AsyncBatchWriter.step, begin, AsyncBatchWriter.get, timeout, AsyncBatchWriter.cancelled,
      appendReturns, appendRaises, AsyncBatchWriter.submit, AsyncBatchWriter.putWaiting,
      AsyncBatchWriter.giveUp, AsyncBatchWriter.cancelWait, putStop, AsyncBatchWriter.abort,
      abortReturns, put, AsyncBatchWriter.flush, AsyncBatchWriter.fail]

theorem stopDone_returned (h : w.stopReturned = true → w.phase = .returned)
    (hStopped : w.stopDone.stopReturned = true) : w.stopDone.phase = .returned := by
  simp only [stopDone, Bool.or_eq_true, Bool.and_eq_true, decide_eq_true_eq] at hStopped
  exact hStopped.elim h And.left

/-- The actions that leave those who wait for space where they are, and put no event. -/
def quiet : Action E → Bool
  | .submit _ _ | .putWaiting _ | .giveUp _ => false
  | _ => true

theorem quiet_of_task {action : Action E} (h : ofTask action = true) : quiet action = true := by
  cases action <;> first | rfl | cases h

theorem quiet_of_supervisor {action : Action E} (h : ofSupervisor action = true) :
    quiet action = true := by
  cases action <;> first | rfl | cases h

theorem putters_eq {writerConfig : WriterConfig} {action : Action E}
    (hStep : w.step writerConfig action = some w') (hQuiet : quiet action = true) : w'.putters = w.putters := by
  cases action with
  | submit _ _ | putWaiting _ | giveUp _ => cases hQuiet
  | _ =>
    grind [AsyncBatchWriter.step, begin, AsyncBatchWriter.get, timeout, AsyncBatchWriter.cancelled,
      appendReturns, appendRaises, AsyncBatchWriter.cancelWait, putStop, AsyncBatchWriter.stop,
      stopReturns, stopDone, AsyncBatchWriter.abort, abortReturns, AsyncBatchWriter.flush,
      AsyncBatchWriter.fail]

theorem length_putters_submit {writerConfig : WriterConfig} {event : E} {waits : Bool}
    (hStep : w.step writerConfig (.submit event waits) = some w') :
    w'.putters.length = w.putters.length + if w.Full writerConfig then 1 else 0 := by
  simp only [AsyncBatchWriter.step, AsyncBatchWriter.submit] at hStep
  by_cases hOpen : w.Open
  · rw [if_pos hOpen] at hStep
    by_cases hFull : w.Full writerConfig
    · rw [if_pos hFull] at hStep ⊢
      obtain rfl := Option.some.inj hStep
      exact List.length_append
    · rw [if_neg hFull] at hStep ⊢
      obtain rfl := Option.some.inj hStep
      rfl
  · rw [if_neg hOpen] at hStep
    cases hStep

theorem putters_putWaiting {writerConfig : WriterConfig} {index : ℕ}
    (hStep : w.step writerConfig (.putWaiting index) = some w') :
    index < w.putters.length ∧ w'.putters = w.putters.eraseIdx index := by
  simp only [AsyncBatchWriter.step, AsyncBatchWriter.putWaiting] at hStep
  split at hStep
  · next item hItem =>
    split_ifs at hStep
    obtain rfl := Option.some.inj hStep
    exact ⟨(List.getElem?_eq_some_iff.mp hItem).1, rfl⟩
  · cases hStep

theorem putters_giveUp {writerConfig : WriterConfig} {index : ℕ}
    (hStep : w.step writerConfig (.giveUp index) = some w') :
    w'.putters = w.putters.eraseIdx index := by
  simp only [AsyncBatchWriter.step, AsyncBatchWriter.giveUp] at hStep
  split_ifs at hStep
  obtain rfl := Option.some.inj hStep
  rfl

theorem timely_of_quiet {writerConfig : WriterConfig} {action : Action E}
    (hQuiet : quiet action = true) : Timely writerConfig w action := by
  intro hAccepts
  cases action with
  | submit _ _ | putWaiting _ => cases hQuiet
  | _ => exact hAccepts.elim

/-- A stop has returned only if the task has. -/
theorem returned_step {writerConfig : WriterConfig} {action : Action E}
    (hStep : w.step writerConfig action = some w') (h : w.stopReturned = true → w.phase = .returned)
    (hTask : action = .stop → w.hasTask = true) (hStopped : w'.stopReturned = true) :
    w'.phase = .returned := by
  by_cases hStop : action = .stop
  · subst hStop
    have hHasTask : ¬ w.hasTask = false := by
      rw [hTask rfl]
      exact nofun
    rw [AsyncBatchWriter.step, AsyncBatchWriter.stop, if_neg hHasTask] at hStep
    split_ifs at hStep
    · obtain rfl := Option.some.inj hStep
      exact stopDone_returned h hStopped
    · obtain rfl := Option.some.inj hStep
      exact h hStopped
    · obtain rfl := Option.some.inj hStep
      exact h hStopped
  by_cases hReturns : action = .stopReturns
  · subst hReturns
    simp only [AsyncBatchWriter.step, AsyncBatchWriter.stopReturns] at hStep
    split_ifs at hStep
    obtain rfl := Option.some.inj hStep
    exact stopDone_returned (w := w) h hStopped
  · rw [stopReturned_eq hStep hStop hReturns] at hStopped
    exact (step_flow hStep).returned (h hStopped)

/-- With the last accepted event delivered, nothing is lost. -/
theorem nothingLost_of_delivering (h : Delivering w) (hSound : w.flow.Sound)
    (hReturned : w.phase = .returned) : NothingLost w := by
  obtain ⟨hCalm, hCleared⟩ := h (by rw [hReturned]; exact nofun)
  have hNothing : NothingLost { w with cancelRequested := false } :=
    nothingLost_of_cleared (w := { w with cancelRequested := false })
      ⟨hSound.conserved, hSound.ordered, hSound.idle, hSound.failed, hSound.acknowledged,
        hSound.settled⟩ hCalm hCleared hReturned
  exact ⟨hNothing.passed, hNothing.submitted, hNothing.accounted, hNothing.settled⟩

/-! ### Sessions without errors -/

/-- `writer.stop()` has been called. -/
def stopping : CaptureStage → Bool
  | .stoppingWriter | .aborting | .finishing | .closing | .ended | .escaped => true
  | _ => false

/-- The session has awaited its tasks of a kind. -/
def awaited (kind : ServiceKind) : CaptureStage → Bool
  | .settling .poller _ => decide (kind = .stream)
  | .stoppingWriter | .finishing | .closing | .ended => true
  | _ => false

/-- The capture has come to its stop. -/
def stopped : CaptureStage → Bool
  | .stoppingStreams | .settling _ _ | .stoppingWriter | .finishing | .closing | .ended => true
  | _ => false

/-- `writer.stop()` has returned. -/
def drained : CaptureStage → Bool
  | .finishing | .closing | .ended => true
  | _ => false

theorem of_drained {stage : CaptureStage} (h : drained stage = true) :
    stopping stage = true ∧ (∀ kind, awaited kind stage = true) ∧ stopped stage = true ∧
      early stage = false ∧ stage ≠ .aborting := by
  cases stage with
  | finishing | closing | ended => exact ⟨rfl, fun _ => rfl, rfl, rfl, nofun⟩
  | _ => cases h

/-- No service was started. -/
def unserved : CaptureStage → Bool
  | .opening | .saving | .manifest => true
  | _ => false

theorem unserved_step (h : unserved s.stage = true → s.services = []) (hStep : Step config s t) :
    unserved t.stage = true → t.services = [] := by
  cases hStep with
  | opened hStage | manifestSaved _ hStage _ => exact fun _ => h (by rw [hStage]; rfl)
  | serviceDone _ _ outcome _ _ _ => cases outcome <;> exact nofun
  | serviceEnds service task outcome hTask _ _ =>
    intro hStage
    rw [h hStage, List.getElem?_nil] at hTask
    cases hTask
  | timer | external | stopTimeout | task | supervisor | submit | putWaiting | giveUp | cancelWait =>
    exact h
  | _ => exact nofun

/-- What holds of a session that has met no error. -/
structure Healthy (config : CaptureConfig E) (s : Capture E) : Prop where
  delivering : ∀ w, s.writer = some w → Delivering w
  unstopped : ∀ w, s.writer = some w → stopping s.stage = false → Unstopped w
  returned : ∀ w, s.writer = some w → w.stopReturned = true → w.phase = .returned
  owned : ∀ w, s.writer = some w → s.owners.length = w.putters.length
  running : ∀ service ∈ s.owners, s.Running service
  done : ∀ kind, awaited kind s.stage = true → ∀ task ∈ s.ofKind kind, task.outcome ≠ none
  written : early s.stage = false → s.writer ≠ none
  due : stopped s.stage = true →
    s.status = completedStatus config ∧ (s.timerDone = true ∨ s.externalDone = true)
  returns : drained s.stage = true → ∀ w, s.writer = some w → w.stopReturned = true
  unaborted : s.stage ≠ .aborting

/-- A service that runs has not been awaited. -/
theorem Running.not_awaited {service : ℕ} (h : s.Running service)
    (hDone : ∀ kind, ∀ task ∈ s.ofKind kind, task.outcome ≠ none) : False := by
  obtain ⟨task, hTask, hRunning⟩ := h
  refine hDone task.kind task ?_ hRunning
  exact List.mem_filter.mpr ⟨List.mem_of_getElem? hTask, by simp⟩

namespace Healthy

/-- The supervisor goes on, and the writer stays as it is. -/
theorem move (h : Healthy config s) (hWriter : t.writer = s.writer) (hOwners : t.owners = s.owners)
    (hServices : t.services = s.services)
    (hStopping : stopping t.stage = false → stopping s.stage = false)
    (hDone : ∀ kind, awaited kind t.stage = true → ∀ task ∈ s.ofKind kind, task.outcome ≠ none)
    (hWritten : early t.stage = false → s.writer ≠ none)
    (hDue : stopped t.stage = true →
      t.status = completedStatus config ∧ (t.timerDone = true ∨ t.externalDone = true))
    (hReturns : drained t.stage = true → ∀ w, s.writer = some w → w.stopReturned = true)
    (hUnaborted : t.stage ≠ .aborting) : Healthy config t := by
  have hKinds (kind : ServiceKind) : t.ofKind kind = s.ofKind kind := by
    rw [ofKind, hServices, ofKind]
  refine ⟨?_, ?_, ?_, ?_, ?_, ?_, ?_, hDue, ?_, hUnaborted⟩
  · rw [hWriter]
    exact h.delivering
  · rw [hWriter]
    exact fun w hw hBefore => h.unstopped w hw (hStopping hBefore)
  · rw [hWriter]
    exact h.returned
  · rw [hWriter, hOwners]
    exact h.owned
  · intro service hService
    rw [hOwners] at hService
    obtain ⟨task, hTask, hRunning⟩ := h.running service hService
    exact ⟨task, by rw [hServices, hTask], hRunning⟩
  · intro kind
    rw [hKinds]
    exact hDone kind
  · rw [hWriter]
    exact hWritten
  · rw [hWriter]
    exact hReturns

/-- The writer goes on, or a submission of a service; the supervisor stays where it is. -/
theorem write (h : Healthy config s) (hWriter : s.writer = some w) {action : Action E}
    (hPlain : plain action = true) (hStep : w.step config.writer action = some w')
    (hAccounts : ∀ inserted duplicates, action = .appendReturns inserted duplicates →
      inserted + duplicates = w.batch.length)
    (hTimely : stopping s.stage = true → Timely config.writer w action) {owners : List ℕ}
    (hOwned : owners.length = w'.putters.length) (hRunning : ∀ service ∈ owners, s.Running service) :
    Healthy config { s with writer := some w', owners } := by
  have hSame {v : AsyncBatchWriter E} (hv : some w' = some v) : v = w' := (Option.some.inj hv).symm
  have hStop : action ≠ .stop := fun hStop => by
    rw [hStop] at hPlain
    cases hPlain
  have hReturns : action ≠ .stopReturns := fun hReturns => by
    rw [hReturns] at hPlain
    cases hPlain
  have hAbort : action ≠ .abort := fun hAbort => by
    rw [hAbort] at hPlain
    cases hPlain
  refine ⟨fun v hv => ?_, fun v hv hBefore => ?_, fun v hv => ?_, fun v hv => ?_, hRunning, h.done,
    fun _ => nofun, h.due, fun hDrained v hv => ?_, h.unaborted⟩
  · rw [hSame hv]
    refine (h.delivering w hWriter).step hStep hAbort hAccounts fun hUnraised => ?_
    cases hStopping : stopping s.stage with
    | true => exact hTimely hStopping
    | false => exact fun _ => (h.unstopped w hWriter hStopping).undrained.resolve_left hUnraised
  · rw [hSame hv]
    exact (h.unstopped w hWriter hBefore).step hPlain hStep
  · rw [hSame hv]
    exact returned_step hStep (h.returned w hWriter) fun h => absurd h hStop
  · rw [hSame hv]
    exact hOwned
  · rw [hSame hv, stopReturned_eq hStep hStop hReturns]
    exact h.returns hDrained w hWriter

/-- Once the writer is being stopped, no service runs. -/
theorem not_running (h : Healthy config s) (hStopping : stopping s.stage = true)
    (hStage : s.stage ≠ .escaped) {service : ℕ} : ¬ s.Running service := by
  intro hRunning
  refine hRunning.not_awaited fun kind => h.done kind ?_
  have hUnaborted := h.unaborted
  cases hCase : s.stage <;> simp_all [stopping, awaited]

theorem owners_nil (h : Healthy config s) (hServices : s.services = []) : s.owners = [] := by
  refine List.eq_nil_iff_forall_not_mem.mpr fun service hService => ?_
  obtain ⟨task, hTask, -⟩ := h.running service hService
  rw [hServices, List.getElem?_nil] at hTask
  cases hTask

/-- A timer or a stop event of a session that is supervised. -/
theorem signal (h : Healthy config s) (hStage : s.stage = .supervising)
    (hSame : t.stage = s.stage) (hWriter : t.writer = s.writer) (hOwners : t.owners = s.owners)
    (hServices : t.services = s.services) : Healthy config t := by
  have hWritten := h.written (by rw [hStage]; rfl)
  rw [hStage] at hSame
  refine h.move hWriter hOwners hServices (fun _ => by rw [hStage]; rfl) (fun kind hAwaited => ?_)
    (fun _ => hWritten) (fun hStopped => ?_) (fun hDrained => ?_) ?_
  · rw [hSame] at hAwaited
    cases hAwaited
  · rw [hSame] at hStopped
    cases hStopped
  · rw [hSame] at hDrained
    cases hDrained
  · rw [hSame]
    exact nofun

/-- The end of a session, after its writer was stopped. -/
theorem closes (h : Healthy config s) (hFrom : drained s.stage = true)
    (hTo : drained t.stage = true) (hWriter : t.writer = s.writer) (hOwners : t.owners = s.owners)
    (hServices : t.services = s.services) (hStatus : t.status = s.status)
    (hTimer : t.timerDone = s.timerDone) (hExternal : t.externalDone = s.externalDone) :
    Healthy config t := by
  obtain ⟨-, hAwaited, hStopped, hEarly, -⟩ := of_drained hFrom
  obtain ⟨hStopping, -, -, -, hUnaborted⟩ := of_drained hTo
  refine h.move hWriter hOwners hServices (fun hBefore => ?_) (fun kind _ => h.done kind (hAwaited kind))
    (fun _ => h.written hEarly) (fun _ => ?_) (fun _ => h.returns hFrom) hUnaborted
  · rw [hStopping] at hBefore
    cases hBefore
  · rw [hStatus, hTimer, hExternal]
    exact h.due hStopped

/-- A stop that takes too long asks for the cancellation of the task. -/
theorem asked (h : Healthy config s) (hStage : s.stage = .stoppingWriter)
    (hWriter : s.writer = some w) :
    Healthy config { s with writer := some { w with cancelRequested := true } } := by
  have hSame {v : AsyncBatchWriter E} (hv : some { w with cancelRequested := true } = some v) :
      v = { w with cancelRequested := true } := (Option.some.inj hv).symm
  refine ⟨fun v hv => ?_, fun v hv hBefore => ?_, fun v hv => ?_, fun v hv => ?_, h.running, h.done,
    fun _ => nofun, h.due, fun hDrained => ?_, h.unaborted⟩
  · rw [hSame hv]
    exact h.delivering w hWriter
  · change stopping s.stage = false at hBefore
    rw [hStage] at hBefore
    cases hBefore
  · rw [hSame hv]
    exact h.returned w hWriter
  · rw [hSame hv]
    exact h.owned w hWriter
  · change drained s.stage = true at hDrained
    rw [hStage] at hDrained
    cases hDrained

/-- The start of the writer, with the manifest event in its queue. -/
theorem submitted (hOwners : s.owners = [])
    (hSubmit : AsyncBatchWriter.started.step config.writer (.submit config.manifestEvent true) = some w) :
    Healthy config { s with stage := .manifest, writer := some w } := by
  have hStarted : Unstopped (AsyncBatchWriter.started : AsyncBatchWriter E) :=
    ⟨List.not_mem_nil, .inr rfl, rfl, rfl, fun hWaits => hWaits.elim (Nat.lt_irrefl 0) (Nat.lt_irrefl 0)⟩
  have hDelivering : Delivering (AsyncBatchWriter.started : AsyncBatchWriter E) :=
    fun _ => ⟨Flow.Calm.started, nofun⟩
  have hSame {v : AsyncBatchWriter E} (hv : some w = some v) : v = w := (Option.some.inj hv).symm
  refine ⟨fun v hv => ?_, fun v hv _ => ?_, fun v hv => ?_, fun v hv => ?_, fun service hService => ?_,
    nofun, fun _ => nofun, nofun, nofun, nofun⟩
  · rw [hSame hv]
    exact hDelivering.step hSubmit nofun nofun fun _ _ => rfl
  · rw [hSame hv]
    exact hStarted.step rfl hSubmit
  · rw [hSame hv]
    exact returned_step hSubmit (fun hNone => Bool.noConfusion hNone) nofun
  · rw [hSame hv]
    change s.owners.length = _
    rw [AsyncBatchWriter.step, AsyncBatchWriter.submit, if_pos ⟨rfl, rfl⟩, if_neg not_full_started] at hSubmit
    obtain rfl := Option.some.inj hSubmit
    rw [hOwners]
    rfl
  · change service ∈ s.owners at hService
    rw [hOwners] at hService
    exact absurd hService List.not_mem_nil

theorem step (h : s.errors = [] → s.stage ≠ .escaped → Healthy config s)
    (hRecording : Recording config s) (hUnserved : unserved s.stage = true → s.services = [])
    (hStep : Step config s t) (hErrors : t.errors = [])
    (hStage' : t.stage ≠ .escaped) : Healthy config t := by
  have hNoError {errors : List String} {error : String} : errors ++ [error] ≠ [] :=
    List.append_ne_nil_of_right_ne_nil _ (List.cons_ne_nil _ _)
  cases hStep with
  | saveFails | manifestRefused | factoryFails | noStreams | cancelManifest | cancel
  | streamStopTimeout | stopRaises | stopLeaves => exact absurd hErrors hNoError
  | serviceDone service task outcome _ _ _ => cases outcome <;> exact absurd hErrors hNoError
  | openFails | escapes | finishFails => exact absurd rfl hStage'
  | opened hStage =>
    have hs := h hErrors (by rw [hStage]; exact nofun)
    exact hs.move rfl rfl rfl (fun _ => by rw [hStage]; rfl) nofun nofun nofun nofun nofun
  | manifestSaved w hStage hSubmit =>
    have hs := h hErrors (by rw [hStage]; exact nofun)
    have hServices := hRecording.unstarted (hRecording.unwritten (by rw [hStage]; rfl))
    exact submitted (hs.owners_nil hServices) hSubmit
  | supervise w streams pollers hStage hWriter hResult hStreams =>
    have hs := h hErrors (by rw [hStage]; exact nofun)
    have hNone : s.owners = [] := hs.owners_nil (hUnserved (by rw [hStage]; rfl))
    refine ⟨hs.delivering, fun v hv _ => hs.unstopped v hv (by rw [hStage]; rfl), hs.returned,
      hs.owned, fun service hService => ?_, nofun, fun _ => hs.written (by rw [hStage]; rfl), nofun,
      nofun, nofun⟩
    change service ∈ s.owners at hService
    rw [hNone] at hService
    exact absurd hService List.not_mem_nil
  | timer hStage =>
    have hs := h hErrors (by rw [hStage]; exact nofun)
    exact hs.signal hStage rfl rfl rfl rfl
  | external hStage hStop =>
    have hs := h hErrors (by rw [hStage]; exact nofun)
    exact hs.signal hStage rfl rfl rfl rfl
  | stopDue hStage hRunning hDue =>
    have hs := h hErrors (by rw [hStage]; exact nofun)
    have hWritten := hs.written (by rw [hStage]; rfl)
    exact hs.move rfl rfl rfl (fun _ => by rw [hStage]; rfl) nofun (fun _ => hWritten)
      (fun _ => ⟨rfl, hDue⟩) nofun nofun
  | streamsStopped results hStage hLength =>
    obtain ⟨hBefore, -⟩ := List.append_eq_nil_iff.mp hErrors
    have hs := h hBefore (by rw [hStage]; exact nofun)
    have hWritten := hs.written (by rw [hStage]; rfl)
    have hDue := hs.due (by rw [hStage]; rfl)
    exact hs.move rfl rfl rfl (fun _ => by rw [hStage]; rfl) nofun (fun _ => hWritten)
      (fun _ => hDue) nofun nofun
  | settleTimeout kind hStage hSome =>
    have hs := h hErrors (by rw [hStage]; exact nofun)
    have hWritten := hs.written (by rw [hStage]; rfl)
    have hDue := hs.due (by rw [hStage]; rfl)
    refine hs.move rfl rfl rfl (fun _ => by rw [hStage]; rfl) (fun other hAwaited => ?_)
      (fun _ => hWritten) (fun _ => hDue) nofun nofun
    refine hs.done other ?_
    rw [hStage]
    cases kind with
    | stream => cases hAwaited
    | poller => exact hAwaited
  | streamsSettled cancelled hStage hDone =>
    obtain ⟨hBefore, -⟩ := List.append_eq_nil_iff.mp hErrors
    have hs := h hBefore (by rw [hStage]; exact nofun)
    have hWritten := hs.written (by rw [hStage]; rfl)
    have hDue := hs.due (by rw [hStage]; rfl)
    refine hs.move rfl rfl rfl (fun _ => by rw [hStage]; rfl) (fun kind hAwaited => ?_)
      (fun _ => hWritten) (fun _ => hDue) nofun nofun
    cases kind with
    | stream => exact hDone
    | poller => cases hAwaited
  | pollersSettled cancelled w w' hStage hDone hWriter hStop =>
    obtain ⟨hBefore, -⟩ := List.append_eq_nil_iff.mp hErrors
    have hs := h hBefore (by rw [hStage]; exact nofun)
    have hUnstopped := hs.unstopped w hWriter (by rw [hStage]; rfl)
    have hSame {v : AsyncBatchWriter E} (hv : some w' = some v) : v = w' := (Option.some.inj hv).symm
    have hDue := hs.due (by rw [hStage]; rfl)
    refine ⟨fun v hv => ?_, nofun, fun v hv => ?_, fun v hv => ?_, hs.running, fun kind _ => ?_,
      fun _ => nofun, fun _ => hDue, nofun, nofun⟩
    · rw [hSame hv]
      exact (hs.delivering w hWriter).step hStop nofun nofun fun _ => nofun
    · rw [hSame hv]
      exact returned_step hStop (hs.returned w hWriter) fun _ => hUnstopped.task
    · rw [hSame hv, putters_eq hStop rfl]
      exact hs.owned w hWriter
    · cases kind with
      | stream => exact hs.done .stream (by rw [hStage]; rfl)
      | poller => exact hDone
  | pollersSettledUnstarted cancelled hStage hDone hWriter =>
    obtain ⟨hBefore, -⟩ := List.append_eq_nil_iff.mp hErrors
    have hs := h hBefore (by rw [hStage]; exact nofun)
    exact absurd hWriter (hs.written (by rw [hStage]; rfl))
  | writerStopped w hStage hWriter hIdle hReturned =>
    have hs := h hErrors (by rw [hStage]; exact nofun)
    have hWritten := hs.written (by rw [hStage]; rfl)
    have hDue := hs.due (by rw [hStage]; rfl)
    refine hs.move rfl rfl rfl nofun (fun kind _ => hs.done kind (by rw [hStage]; rfl))
      (fun _ => hWritten) (fun _ => hDue) (fun _ v hv => ?_) nofun
    rw [Option.some.inj (hv.symm.trans hWriter)]
    exact hReturned
  | stopTimeout w hStage hWriter hWaits hTask =>
    have hs := h hErrors (by rw [hStage]; exact nofun)
    exact hs.asked hStage hWriter
  | aborted w hStage hWriter hIdle =>
    exact absurd hStage (h hErrors (by rw [hStage]; exact nofun)).unaborted
  | finished hStage =>
    have hs := h hErrors (by rw [hStage]; exact nofun)
    exact hs.closes (t := s.finish) (by rw [hStage]; rfl) rfl rfl rfl rfl rfl rfl rfl
  | closed hStage =>
    have hs := h hErrors (by rw [hStage]; exact nofun)
    exact hs.closes (t := { s with stage := .ended }) (by rw [hStage]; rfl) rfl rfl rfl rfl rfl rfl
      rfl
  | task w w' action hWriter hTask hAccounts hAction =>
    have hs := h hErrors hStage'
    have hOwned : s.owners.length = w'.putters.length := by
      rw [putters_eq hAction (quiet_of_task hTask)]
      exact hs.owned w hWriter
    exact hs.write hWriter (plain_of_task hTask) hAction hAccounts
      (fun _ => timely_of_quiet (quiet_of_task hTask)) hOwned hs.running
  | supervisor w w' action hWriter hStage hSupervisor hAction =>
    have hs := h hErrors hStage'
    have hStopping : s.stage = .stoppingWriter := hStage.resolve_right hs.unaborted
    have hNot (other : Action E) (hOther : ofSupervisor other = false) : action ≠ other := fun h => by
      rw [h, hOther] at hSupervisor
      cases hSupervisor
    have hSame {v : AsyncBatchWriter E} (hv : some w' = some v) : v = w' := (Option.some.inj hv).symm
    refine ⟨fun v hv => ?_, fun v hv hBefore => ?_, fun v hv => ?_, fun v hv => ?_, hs.running, hs.done,
      fun _ => nofun, hs.due, fun hDrained => ?_, hs.unaborted⟩
    · rw [hSame hv]
      exact (hs.delivering w hWriter).step hAction (hNot _ rfl)
        (fun inserted duplicates h => absurd h (hNot _ rfl))
        fun _ => timely_of_quiet (quiet_of_supervisor hSupervisor)
    · change stopping s.stage = false at hBefore
      rw [hStopping] at hBefore
      cases hBefore
    · rw [hSame hv]
      exact returned_step hAction (hs.returned w hWriter) fun h => absurd h (hNot _ rfl)
    · rw [hSame hv, putters_eq hAction (quiet_of_supervisor hSupervisor)]
      exact hs.owned w hWriter
    · change drained s.stage = true at hDrained
      rw [hStopping] at hDrained
      cases hDrained
  | submit w w' service event waits hWriter hRunning hSubmit =>
    have hs := h hErrors hStage'
    have hTimely (hStopping : stopping s.stage = true) :
        Timely config.writer w (.submit event waits) :=
      absurd hRunning (hs.not_running hStopping hStage')
    have hPutters := length_putters_submit hSubmit
    have hOwned := hs.owned w hWriter
    refine hs.write hWriter rfl hSubmit nofun hTimely ?_ fun other hOther => ?_
    · split_ifs with hFull
      · rw [if_pos hFull] at hPutters
        rw [List.length_append, hOwned, hPutters]
        rfl
      · rw [if_neg hFull] at hPutters
        exact hOwned.trans hPutters.symm
    · split_ifs at hOther
      · obtain hBefore | hNew := List.mem_append.mp hOther
        · exact hs.running other hBefore
        · rw [List.mem_singleton.mp hNew]
          exact hRunning
      · exact hs.running other hOther
  | putWaiting w w' index hWriter hPut =>
    have hs := h hErrors hStage'
    have hOwned := hs.owned w hWriter
    obtain ⟨hIndex, hPutters⟩ := putters_putWaiting hPut
    have hOwner : index < s.owners.length := hOwned.symm ▸ hIndex
    have hTimely (hStopping : stopping s.stage = true) : Timely config.writer w (.putWaiting index) :=
      absurd (hs.running _ (List.getElem_mem hOwner)) (hs.not_running hStopping hStage')
    refine hs.write hWriter rfl hPut nofun hTimely ?_ fun other hOther =>
      hs.running other (List.mem_of_mem_eraseIdx hOther)
    rw [hPutters, List.length_eraseIdx, List.length_eraseIdx, hOwned]
  | giveUp w w' index hWriter hLeft =>
    have hs := h hErrors hStage'
    have hOwned := hs.owned w hWriter
    refine hs.write hWriter rfl hLeft nofun (fun _ => nofun) ?_ fun other hOther =>
      hs.running other (List.mem_of_mem_eraseIdx hOther)
    rw [putters_giveUp hLeft, List.length_eraseIdx, List.length_eraseIdx, hOwned]
  | cancelWait w w' future hWriter hOther hCancel =>
    have hs := h hErrors hStage'
    have hOwned : s.owners.length = w'.putters.length := by
      rw [putters_eq hCancel rfl]
      exact hs.owned w hWriter
    exact hs.write hWriter rfl hCancel nofun (fun _ => nofun) hOwned
      hs.running
  | serviceEnds service task outcome hTask hRunning hOwner =>
    have hs := h hErrors hStage'
    refine ⟨hs.delivering, hs.unstopped, hs.returned, hs.owned, fun other hOther => ?_,
      fun kind hAwaited ended hEnded => ?_, hs.written, hs.due, hs.returns, hs.unaborted⟩
    · obtain ⟨running, hSome, hNone⟩ := hs.running other hOther
      refine ⟨running, ?_, hNone⟩
      have hNe : service ≠ other := fun hSame => hOwner (hSame ▸ hOther)
      exact (List.getElem?_set_ne hNe).trans hSome
    · obtain ⟨hMem, hKind⟩ := List.mem_filter.mp hEnded
      obtain hBefore | rfl := List.mem_or_eq_of_mem_set hMem
      · exact hs.done kind hAwaited ended (List.mem_filter.mpr ⟨hBefore, hKind⟩)
      · exact nofun

end Healthy

/-! ### The end of a session -/

/-- `finish_session` may have been called. -/
def late : CaptureStage → Bool
  | .closing | .ended | .escaped => true
  | _ => false

/-- What `finish_session` stores is what the session came to, and does not change. -/
def Recorded (s : Capture E) : Prop :=
  ∀ row, s.row = some row → late s.stage = true ∧
    row = (if s.errors = [] then s.status else .failed, formatErrors s.errors)

theorem Recorded.step (h : Recorded s) (hStep : Step config s t) : Recorded t := by
  cases hStep with
  | finished => exact fun row hRow => ⟨rfl, (Option.some.inj hRow).symm⟩
  | closed hStage | escapes => exact fun row hRow => ⟨rfl, (h row hRow).2⟩
  | timer | external | stopTimeout | task | supervisor | submit | putWaiting | giveUp | cancelWait
  | serviceEnds => exact h
  | serviceDone service task outcome hStage hTask hOutcome =>
    intro row hRow
    have hNone := (h row (by cases outcome <;> exact hRow)).1
    rw [hStage] at hNone
    cases hNone
  | cancel hStage =>
    intro row hRow
    have hLate := (h row hRow).1
    rcases hStage with hStage | hStage <;> rw [hStage] at hLate <;> cases hLate
  | _ =>
    intro row hRow
    have hLate := (h row hRow).1
    simp_all [late]

/-- What is known of every state of a session. -/
structure Reached (config : CaptureConfig E) (s : Capture E) : Prop where
  recording : Recording config s
  unserved : unserved s.stage = true → s.services = []
  healthy : s.errors = [] → s.stage ≠ .escaped → Healthy config s
  recorded : Recorded s

theorem Reached.of_run (h : Relation.ReflTransGen (Step config) {} s) : Reached config s := by
  induction h with
  | refl =>
    refine ⟨Recording.of_run .refl, fun _ => rfl, fun _ _ => ?_, nofun⟩
    exact ⟨nofun, nofun, nofun, nofun, fun _ hService => absurd hService List.not_mem_nil, nofun,
      nofun, nofun, nofun, nofun⟩
  | tail _ hStep ih =>
    exact ⟨ih.recording.step hStep, unserved_step ih.unserved hStep,
      fun hErrors hStage => .step ih.healthy ih.recording ih.unserved hStep hErrors hStage,
      ih.recorded.step hStep⟩

/-- A session that has met no error is completed, and its writer has lost nothing. -/
theorem Reached.completed (h : Reached config s) (hDrained : drained s.stage = true)
    (hErrors : s.errors = []) : s.status = completedStatus config ∧
      (s.timerDone = true ∨ s.externalDone = true) ∧ (∀ task ∈ s.services, task.outcome ≠ none) ∧
      ∃ w, s.writer = some w ∧ NothingLost w := by
  obtain ⟨-, hAwaited, hStopped, hEarly, -⟩ := of_drained hDrained
  have hStage : s.stage ≠ .escaped := fun hEscaped => by
    rw [hEscaped] at hDrained
    cases hDrained
  have hHealthy := h.healthy hErrors hStage
  obtain ⟨hStatus, hDue⟩ := hHealthy.due hStopped
  refine ⟨hStatus, hDue, fun task hTask => ?_, ?_⟩
  · exact hHealthy.done task.kind (hAwaited _) task (List.mem_filter.mpr ⟨hTask, by simp⟩)
  · obtain ⟨w, hWriter⟩ := Option.ne_none_iff_exists'.mp (hHealthy.written hEarly)
    have hReturned := hHealthy.returned w hWriter (hHealthy.returns hDrained w hWriter)
    exact ⟨w, hWriter, nothingLost_of_delivering (hHealthy.delivering w hWriter)
      (h.recording.opens w hWriter).sound hReturned⟩

theorem formatErrors_eq_none {errors : List String} : formatErrors errors = none ↔ errors = [] := by
  unfold formatErrors
  split_ifs with hErrors <;> simp [hErrors]

def sampleConfig : CaptureConfig ℕ := ⟨⟨4, 1⟩, 0, false, true, "5"⟩

/-- A session with one stream that submits one event, and an external stop. -/
theorem sampleCapture_run : ∃ s : Capture ℕ, Relation.ReflTransGen (Step sampleConfig) {} s ∧
    s.services = [⟨.stream, some .returned⟩] ∧ s.result = some ⟨.completed, 2, 2, 0, none⟩ := by
  have hSaved : Relation.ReflTransGen (Step sampleConfig) {} _ :=
    (Relation.ReflTransGen.single (.opened rfl)).tail (.manifestSaved _ rfl rfl)
  have hDurable := ((hSaved.tail (.task _ _ .begin rfl rfl nofun rfl)).tail
    (.task _ _ .get rfl rfl nofun rfl)).tail
    (.task _ _ (.appendReturns 1 0) rfl rfl (fun _ _ h => (by cases h; rfl)) rfl)
  have hServed := (hDurable.tail (.supervise _ 1 0 rfl rfl rfl (by decide))).tail
    (.submit _ _ 0 7 false rfl ⟨_, rfl, rfl⟩ rfl)
  have hStopped := (hServed.tail (.external rfl rfl)).tail
    (.stopDue rfl (fun _ hTask => (by cases List.mem_singleton.mp hTask; rfl)) (.inr rfl))
  have hEnded := (hStopped.tail (.streamsStopped [none] rfl rfl)).tail
    (.serviceEnds 0 _ .returned rfl rfl List.not_mem_nil)
  have hSettled := (hEnded.tail (.streamsSettled false rfl
    (fun _ hTask => (by cases List.mem_singleton.mp hTask; exact nofun)))).tail
    (.pollersSettled false _ _ rfl (fun _ hTask => absurd hTask List.not_mem_nil) rfl rfl)
  have hFlushed := ((hSettled.tail (.task _ _ .get rfl rfl nofun rfl)).tail
    (.task _ _ (.appendReturns 1 0) rfl rfl (fun _ _ h => (by cases h; rfl)) rfl)).tail
    (.task _ _ .get rfl rfl nofun rfl)
  have hReturned := hFlushed.tail (.supervisor _ _ .stopReturns rfl (.inl rfl) rfl rfl)
  have hClosed := ((hReturned.tail (.writerStopped _ rfl rfl
    (fun h => h.elim (Nat.lt_irrefl 0) (Nat.lt_irrefl 0)) rfl)).tail (.finished rfl)).tail (.closed rfl)
  exact ⟨_, hClosed, rfl, rfl⟩

/-- In every state of a session, what the repository was passed is the first part of what was
accepted, in its order, and the manifest event comes first. No service was started before a call
with the manifest event had returned. -/
theorem services_wait_for_manifest (h : Relation.ReflTransGen (Step config) {} s) :
    (∀ w, s.writer = some w → w.passed <+: w.accepted ∧
      ∃ rest, w.accepted = ⟨config.manifestEvent, some 0⟩ :: rest) ∧
    (s.services ≠ [] → ∃ w, s.writer = some w ∧
      ∃ call ∈ w.answered, call.returned = true ∧ ⟨config.manifestEvent, some 0⟩ ∈ call.batch) := by
  have hRecording := Recording.of_run h
  refine ⟨fun w hw => ?_, fun hSome => ?_⟩
  · have hOpens := hRecording.opens w hw
    exact ⟨(durable_of_sound hOpens.sound hOpens.fresh).ordered, hOpens.first⟩
  · cases hWriter : s.writer with
    | none => exact absurd (hRecording.unstarted hWriter) hSome
    | some w => exact ⟨w, rfl, (hRecording.opens w hWriter).durable (hRecording.durable w hWriter hSome)⟩

theorem services_wait_for_manifest_sample : ∃ s : Capture ℕ,
    s.services = [⟨.stream, some .returned⟩] ∧ ∃ w, s.writer = some w ∧
      ∃ call ∈ w.answered, call.returned = true ∧ ⟨0, some 0⟩ ∈ call.batch := by
  obtain ⟨s, hRun, hServices, -⟩ := sampleCapture_run
  exact ⟨s, hServices, (services_wait_for_manifest hRun).2 (by rw [hServices]; exact nofun)⟩

/-- A session is reported as failed exactly where it reports errors. One that reports none has come
to its stop with no service left, and has passed on every event that was submitted, each once and
in its order, and counted it. -/
theorem completed_capture_loses_nothing (h : Relation.ReflTransGen (Step config) {} s)
    {r : RecorderSessionResult} (hResult : s.result = some r) :
    (r.status = .failed ↔ r.errorMessage ≠ none) ∧
    (r.errorMessage = none → r.status = completedStatus config ∧
      (s.timerDone = true ∨ s.externalDone = true) ∧ (∀ task ∈ s.services, task.outcome ≠ none) ∧
      ∃ w, s.writer = some w ∧ NothingLost w ∧ r.writerSubmitted = w.accepted.length ∧
        r.writerSubmitted = r.writerPersisted + r.writerDuplicates) := by
  have hReached := Reached.of_run h
  unfold result at hResult
  split at hResult
  · next status errorMessage hStage hRow =>
    split_ifs at hResult
    obtain rfl := Option.some.inj hResult
    obtain ⟨-, hRecorded⟩ := hReached.recorded _ hRow
    obtain ⟨rfl, rfl⟩ := Prod.mk.inj hRecorded
    have hDrained : drained s.stage = true := by rw [hStage]; rfl
    constructor
    · by_cases hErrors : s.errors = []
      · have hStatus := (hReached.completed hDrained hErrors).1
        have hCompleted : completedStatus config ≠ .failed := by
          unfold completedStatus
          split_ifs <;> exact nofun
        simp [hErrors, formatErrors, hStatus, hCompleted]
      · simp [hErrors, formatErrors]
    · intro hMessage
      have hErrors := formatErrors_eq_none.mp hMessage
      obtain ⟨hStatus, hDue, hDone, w, hWriter, hNothing⟩ := hReached.completed hDrained hErrors
      refine ⟨(if_pos hErrors).trans hStatus, hDue, hDone, w, hWriter, hNothing, ?_, ?_⟩
      · simp only [hWriter, Option.map_some, Option.getD_some]
        exact hNothing.submitted
      · simp only [hWriter, Option.map_some, Option.getD_some]
        exact hNothing.accounted
  · cases hResult

theorem completed_capture_loses_nothing_sample : ∃ (s : Capture ℕ) (w : AsyncBatchWriter ℕ),
    s.result = some ⟨.completed, 2, 2, 0, none⟩ ∧ s.writer = some w ∧ NothingLost w := by
  obtain ⟨s, hRun, -, hResult⟩ := sampleCapture_run
  obtain ⟨-, -, -, w, hWriter, hNothing, -⟩ :=
    (completed_capture_loses_nothing hRun hResult).2 rfl
  exact ⟨s, w, hResult, hWriter, hNothing⟩

end Capture

end Daybreak.Recorder
