import Daybreak.Recorder.Durability

/-! What a normal return of `stop` says about the events that were put into the queue. Of
those that the writer found behind its stop marker, all are in the final batch; one that is
put into the queue after that stays there. -/

namespace Daybreak.Recorder

open Daybreak.Effect.Steps

variable {E : Type} {config : WriterConfig} {w w' : AsyncBatchWriter E} {action : Action E}
  {actions : List (Action E)}

/-- The writer task takes nothing more from the queue: it is in its final flush or done. -/
def Phase.drained : Phase → Bool
  | .flushing final => final
  | .returned | .raised => true
  | .created | .waiting => false

/-- An event that is put into the queue meets a writer that still takes it out. -/
def Timely (config : WriterConfig) (w : AsyncBatchWriter E) (action : Action E) : Prop :=
  Accepts config w action → w.phase.drained = false

instance : Decidable (Timely config w action) := inferInstanceAs (Decidable (_ → _))

/-- Every event that was put into the queue was passed to the repository once, in its turn,
and is accounted for; nobody waits for one of them any more. -/
structure NothingLost (w : AsyncBatchWriter E) : Prop where
  passed : w.passed = w.accepted
  submitted : w.stats.submitted = w.accepted.length
  accounted : w.stats.submitted = w.stats.persisted + w.stats.duplicates
  settled : ∀ item ∈ w.accepted, ∀ future ∈ item.durableFuture, w.futures future ≠ .pending

namespace Flow

variable {f g : Flow E} {reliable accepts : Prop}

/-! ### A repository that answers every call -/

/-- Nothing has failed. -/
structure Calm (f : Flow E) : Prop where
  uncancelled : f.cancelRequested = false
  unfailed : f.phase ≠ .raised
  counted : f.submitted = f.accepted.length
  saved : f.saved = f.handled.length
  ended : f.stopReturned = true ∨ f.hasTask = false → f.phase = .returned

/-- Where the task has not ended, nobody was told that it has. -/
theorem Calm.unended (h : f.Calm) {phase : Phase} (hPhase : f.phase = phase)
    (hOther : phase ≠ .returned) : ¬ (f.stopReturned = true ∨ f.hasTask = false) :=
  fun hEnded => hOther (hPhase.symm.trans (h.ended hEnded))

theorem Calm.step (h : f.Calm) (hReliable : reliable) (hStep : Step reliable accepts f g) :
    g.Calm := by
  cases hStep with
  | still => exact h
  | begin hPhase =>
    refine ⟨h.uncancelled, nofun, h.counted, h.saved, fun hEnded => ?_⟩
    exact absurd hEnded (h.unended hPhase nofun)
  | accept item putters nextFuture hAccepts hItem =>
    refine ⟨h.uncancelled, h.unfailed, ?_, h.saved, h.ended⟩
    have hCounted := h.counted
    simp only [List.length_append, List.length_singleton]
    omega
  | block item nextFuture hCreated =>
    exact ⟨h.uncancelled, h.unfailed, h.counted, h.saved, h.ended⟩
  | leave putters hLeft => exact ⟨h.uncancelled, h.unfailed, h.counted, h.saved, h.ended⟩
  | take batch queued hPhase hMoved =>
    exact ⟨h.uncancelled, h.unfailed, h.counted, h.saved, h.ended⟩
  | flush final batch queued hPhase hMoved hFinal =>
    refine ⟨h.uncancelled, ?_, h.counted, h.saved, fun hEnded => ?_⟩
    · simp only [AsyncBatchWriter.afterFlush]
      split_ifs <;> nofun
    · exact absurd hEnded (h.unended hPhase nofun)
  | answer final count hPhase hCount =>
    refine ⟨rfl, ?_, h.counted, ?_, fun hEnded => ?_⟩
    · simp only [AsyncBatchWriter.afterFlush]
      split_ifs <;> nofun
    · have hSaved := h.saved
      have hBatch := hCount hReliable
      change f.saved + count =
        ((f.answered ++ [(⟨f.batch, true⟩ : AppendCall E)]).flatMap (·.batch)).length
      rw [handled_append, List.length_append]
      change _ = f.handled.length + f.batch.length
      omega
    · exact absurd hEnded (h.unended hPhase nofun)
  | fail answered hCancelled hAnswered =>
    exact absurd ((hCancelled hReliable).symm.trans h.uncancelled) nofun
  | drop hCancelled hPhase => exact absurd (hCancelled.symm.trans h.uncancelled) nofun
  | forget future hPending => exact ⟨h.uncancelled, h.unfailed, h.counted, h.saved, h.ended⟩
  | cancel hUnreliable => exact absurd hReliable hUnreliable
  | close stopped hDone hStopped =>
    refine ⟨h.uncancelled, h.unfailed, h.counted, h.saved, fun _ => ?_⟩
    have hUnfailed := h.unfailed
    change f.phase = .returned
    cases hPhase : f.phase <;> simp_all [Phase.done]
  | again hTask => exact ⟨h.uncancelled, h.unfailed, h.counted, h.saved, fun _ => h.ended (.inr hTask)⟩

theorem Calm.started : (AsyncBatchWriter.started : AsyncBatchWriter E).flow.Calm :=
  ⟨rfl, nofun, rfl, rfl, nofun⟩

/-! ### What is put into the queue in time, and what is not -/

/-- Nothing was put into the queue after it was drained. -/
def Cleared (f : Flow E) : Prop := f.phase.drained = true → f.queued = []

theorem Cleared.step (h : f.Cleared) (hCalm : f.Calm) (hReliable : reliable)
    (hTimely : accepts → f.phase.drained = false) (hStep : Step reliable accepts f g) :
    g.Cleared := by
  cases hStep with
  | still => exact h
  | begin hPhase => exact nofun
  | accept item putters nextFuture hAccepts hItem =>
    intro hDrained
    exact absurd (hDrained.symm.trans (hTimely hAccepts)) nofun
  | block item nextFuture hCreated => exact h
  | leave putters hLeft => exact h
  | take batch queued hPhase hMoved =>
    intro hDrained
    simp only [hPhase] at hDrained
    cases hDrained
  | flush final batch queued hPhase hMoved hFinal =>
    intro hDrained
    cases final with
    | true => exact hFinal rfl
    | false =>
      by_cases hBatch : batch = []
      · simp [hBatch, AsyncBatchWriter.afterFlush, Phase.drained] at hDrained
      · simp [hBatch, Phase.drained] at hDrained
  | answer final count hPhase hCount =>
    intro hDrained
    cases final with
    | true => exact h (by rw [hPhase]; rfl)
    | false => cases hDrained
  | fail answered hCancelled hAnswered =>
    exact absurd ((hCancelled hReliable).symm.trans hCalm.uncancelled) nofun
  | drop hCancelled hPhase => exact absurd (hCancelled.symm.trans hCalm.uncancelled) nofun
  | forget future hPending => exact h
  | cancel hUnreliable => exact h
  | close stopped hDone hStopped => exact h
  | again hTask => exact h

/-- An event was put into the queue after it was drained. -/
def Stranded (f : Flow E) : Prop := f.phase.drained = true ∧ f.queued ≠ []

theorem Stranded.step (h : f.Stranded) (hCalm : f.Calm) (hReliable : reliable)
    (hStep : Step reliable accepts f g) : g.Stranded := by
  obtain ⟨hDrained, hQueued⟩ := h
  cases hStep with
  | still => exact ⟨hDrained, hQueued⟩
  | begin hPhase => rw [hPhase] at hDrained; cases hDrained
  | accept item putters nextFuture hAccepts hItem =>
    exact ⟨hDrained, List.append_ne_nil_of_left_ne_nil hQueued _⟩
  | block item nextFuture hCreated => exact ⟨hDrained, hQueued⟩
  | leave putters hLeft => exact ⟨hDrained, hQueued⟩
  | take batch queued hPhase hMoved => rw [hPhase] at hDrained; cases hDrained
  | flush final batch queued hPhase hMoved hFinal => rw [hPhase] at hDrained; cases hDrained
  | answer final count hPhase hCount =>
    rw [hPhase] at hDrained
    obtain rfl : final = true := hDrained
    exact ⟨rfl, hQueued⟩
  | fail answered hCancelled hAnswered =>
    exact absurd ((hCancelled hReliable).symm.trans hCalm.uncancelled) nofun
  | drop hCancelled hPhase => exact absurd (hCancelled.symm.trans hCalm.uncancelled) nofun
  | forget future hPending => exact ⟨hDrained, hQueued⟩
  | cancel hUnreliable => exact ⟨hDrained, hQueued⟩
  | close stopped hDone hStopped => exact ⟨hDrained, hQueued⟩
  | again hTask => exact ⟨hDrained, hQueued⟩

end Flow

/-- An event that is put into the queue goes to its end, and the writer task stays where it is. -/
theorem queued_of_accepts (hAccepts : Accepts config w action) (h : w.step config action = some w') :
    ∃ item, w'.queued = w.queued ++ [item] ∧ w'.phase = w.phase := by
  cases action with
  | submit event waits =>
    simp only [AsyncBatchWriter.step, AsyncBatchWriter.submit, if_neg (show ¬ w.Full config from hAccepts)] at h
    by_cases hOpen : w.Open
    · rw [if_pos hOpen] at h
      obtain rfl := Option.some.inj h
      exact ⟨_, AsyncBatchWriter.queued_put _, rfl⟩
    · rw [if_neg hOpen] at h
      cases h
  | putWaiting index =>
    simp only [AsyncBatchWriter.step, AsyncBatchWriter.putWaiting] at h
    split at h
    · next item hItem =>
      split_ifs at h
      obtain rfl := Option.some.inj h
      exact ⟨item, AsyncBatchWriter.queued_put _, rfl⟩
    · cases h
  | _ => exact hAccepts.elim

theorem stranded_of_untimely (hUntimely : ¬ Timely config w action)
    (h : w.step config action = some w') : w'.flow.Stranded := by
  obtain ⟨hAccepts, hDrained⟩ := Classical.not_imp.mp hUntimely
  obtain ⟨item, hQueued, hPhase⟩ := queued_of_accepts hAccepts h
  refine ⟨?_, ?_⟩
  · change w'.phase.drained = true
    rw [hPhase]
    exact eq_true_of_ne_false hDrained
  · change w'.queued ≠ []
    rw [hQueued]
    exact List.append_ne_nil_of_right_ne_nil _ (List.cons_ne_nil _ _)

/-! ### Runs -/

theorem calm_of_run (hReliable : Along (AsyncBatchWriter.step config) Reliable .started actions)
    (h : run (AsyncBatchWriter.step config) .started actions = some w) : w.flow.Calm :=
  run_along (fun w => w.flow.Calm) (fun _ _ _ hCalm hAction hStep =>
    hCalm.step hAction (AsyncBatchWriter.step_flow hStep)) hReliable .started h

theorem cleared_of_run (hReliable : Along (AsyncBatchWriter.step config) Reliable .started actions)
    (hTimely : Along (AsyncBatchWriter.step config) (Timely config) .started actions)
    (h : run (AsyncBatchWriter.step config) .started actions = some w) : w.flow.Cleared := by
  have hBoth : w.flow.Calm ∧ w.flow.Cleared := by
    refine run_along (fun w => w.flow.Calm ∧ w.flow.Cleared) ?_ (hReliable.and hTimely)
      ⟨.started, nofun⟩ h
    rintro w action w' ⟨hCalm, hCleared⟩ ⟨hAction, hInTime⟩ hStep
    have hFlow := AsyncBatchWriter.step_flow hStep
    exact ⟨hCalm.step hAction hFlow, hCleared.step hCalm hAction hInTime hFlow⟩
  exact hBoth.2

/-- An event that was put into a drained queue is there at the end of every run. -/
theorem stranded_of_run (hReliable : Along (AsyncBatchWriter.step config) Reliable .started actions)
    (hUntimely : ¬ Along (AsyncBatchWriter.step config) (Timely config) .started actions)
    (h : run (AsyncBatchWriter.step config) .started actions = some w) : w.flow.Stranded := by
  obtain ⟨before, action, after, u, v, rfl, hBefore, hBroken, hStep, hAfter⟩ :=
    exists_of_not_along hUntimely h
  obtain ⟨hEarly, hLate⟩ := along_append.mp hReliable
  obtain ⟨hAction, hRest⟩ := hLate u hBefore
  have hCalm : v.flow.Calm :=
    (calm_of_run hEarly hBefore).step hAction (AsyncBatchWriter.step_flow hStep)
  have hBoth : w.flow.Calm ∧ w.flow.Stranded := by
    refine run_along (fun w => w.flow.Calm ∧ w.flow.Stranded) ?_ (hRest v hStep)
      ⟨hCalm, stranded_of_untimely hBroken hStep⟩ hAfter
    rintro w action w' ⟨hCalm, hStranded⟩ hAction hStep
    have hFlow := AsyncBatchWriter.step_flow hStep
    exact ⟨hCalm.step hAction hFlow, hStranded.step hCalm hAction hFlow⟩
  exact hBoth.2

/-! ### The end of a run -/

theorem passed_of_returned (h : w.phase = .returned) : w.passed = w.flow.handled := by
  unfold AsyncBatchWriter.passed
  rw [h]
  exact List.append_nil _

/-- Where the task has returned and its queue is empty, everything was answered. -/
theorem nothingLost_of_cleared (hSound : w.flow.Sound) (hCalm : w.flow.Calm)
    (hCleared : w.flow.Cleared) (hReturned : w.phase = .returned) : NothingLost w := by
  have hQueued : w.flow.queued = [] := hCleared (by rw [show w.flow.phase = .returned from hReturned]; rfl)
  have hBatch : w.flow.batch = [] := hSound.idle (.inr (by rw [show w.flow.phase = .returned from hReturned]; rfl))
  have hHandled : w.flow.handled = w.accepted := by
    have hConserved := hSound.conserved hCalm.unfailed
    rw [hQueued, hBatch, List.append_nil, List.append_nil] at hConserved
    exact hConserved
  have hCounted : w.stats.submitted = w.accepted.length := hCalm.counted
  have hSaved : w.stats.persisted + w.stats.duplicates = w.flow.handled.length := hCalm.saved
  refine ⟨(passed_of_returned hReturned).trans hHandled, hCounted, ?_, ?_⟩
  · rw [hSaved, hHandled, hCounted]
  · intro item hItem future hFuture
    rw [← hHandled] at hItem
    obtain ⟨call, hCall, hMem⟩ := List.mem_flatMap.mp hItem
    exact hSound.settled call hCall future (List.mem_map.mpr ⟨item, hMem, hFuture⟩)

/-- An event that stayed in the queue was not passed on. -/
theorem passed_ne_of_stranded (hSound : w.flow.Sound) (hCalm : w.flow.Calm)
    (hStranded : w.flow.Stranded) (hReturned : w.phase = .returned) : w.passed ≠ w.accepted := by
  intro hPassed
  rw [passed_of_returned hReturned] at hPassed
  have hConserved : w.flow.handled ++ w.flow.batch ++ w.flow.queued = w.accepted :=
    hSound.conserved hCalm.unfailed
  have hLength := congrArg List.length hConserved
  rw [← hPassed] at hLength
  simp only [List.length_append] at hLength
  have hSome : 0 < w.flow.queued.length := List.length_pos_iff.mpr hStranded.2
  omega

/-- A `stop` that returns normally, with a repository that answers every call, has lost
nothing exactly where every event was put into the queue before the writer had drained it. -/
theorem stop_loses_nothing_iff
    (hReliable : Along (AsyncBatchWriter.step config) Reliable .started actions)
    (h : run (AsyncBatchWriter.step config) .started actions = some w)
    (hStopped : w.stopReturned = true) :
    NothingLost w ↔ Along (AsyncBatchWriter.step config) (Timely config) .started actions := by
  have hSound := sound_of_run h
  have hCalm := calm_of_run hReliable h
  have hReturned : w.phase = .returned := hCalm.ended (.inl hStopped)
  constructor
  · intro hNothing
    by_contra hUntimely
    have hStranded := stranded_of_run hReliable hUntimely h
    exact passed_ne_of_stranded hSound hCalm hStranded hReturned hNothing.passed
  · intro hTimely
    exact nothingLost_of_cleared hSound hCalm (cleared_of_run hReliable hTimely h) hReturned

/-- Two events that are waited for, the second one in time. -/
def inTime : List (Action ℕ) :=
  [.begin, .submit 7 true, .submit 8 true, .stop, .get, .get, .get, .appendReturns 1 1,
    .stopReturns]

theorem inTime_loses_nothing :
    ∃ w, run (AsyncBatchWriter.step ⟨4, 4⟩) .started inTime = some w ∧ NothingLost w := by
  obtain ⟨w, hRun, hStopped⟩ : ∃ w,
      run (AsyncBatchWriter.step ⟨4, 4⟩) .started inTime = some w ∧ w.stopReturned = true :=
    ⟨_, rfl, rfl⟩
  have hReliable : Along (AsyncBatchWriter.step ⟨4, 4⟩) Reliable .started inTime := by decide
  have hTimely : Along (AsyncBatchWriter.step ⟨4, 4⟩) (Timely ⟨4, 4⟩) .started inTime := by decide
  exact ⟨w, hRun, (stop_loses_nothing_iff hReliable hRun hStopped).mpr hTimely⟩

/-- The second event is put into the queue while the final flush waits for the repository. -/
def duringFinalFlush : List (Action ℕ) :=
  [.begin, .submit 7 true, .stop, .get, .get, .submit 8 true, .appendReturns 1 0, .stopReturns]

theorem duringFinalFlush_loses : ∃ w,
    run (AsyncBatchWriter.step ⟨4, 4⟩) .started duringFinalFlush = some w ∧
      Along (AsyncBatchWriter.step ⟨4, 4⟩) Reliable .started duringFinalFlush ∧
      w.stopReturned = true ∧ w.accepted.map (·.event) = [7, 8] ∧
      w.passed.map (·.event) = [7] ∧ w.stats.submitted = 2 ∧
      w.stats.persisted + w.stats.duplicates = 1 ∧ w.futures 1 = .pending ∧ ¬ NothingLost w := by
  refine ⟨_, rfl, by decide, rfl, rfl, rfl, rfl, rfl, rfl, fun hNothing => ?_⟩
  exact absurd hNothing.accounted (by decide)

end Daybreak.Recorder
