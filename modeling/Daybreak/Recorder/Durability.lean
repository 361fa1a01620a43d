import Daybreak.Recorder.BatchWriter
import Mathlib.Data.List.Nodup
import Mathlib.Data.List.Perm.Basic

/-! The durability of what is submitted. The flow of events through a writer, from the
queue into batches and from there to the repository, is an abstract model of it; every
action of the writer is a step of its flow, and what flows keeps its order. An
acknowledgement stands for a call of `append_batch` that has returned. -/

namespace Daybreak.Recorder

open Daybreak.Effect.Steps

variable {E : Type} {config : WriterConfig} {w w' : AsyncBatchWriter E} {action : Action E}

/-! ### The flow of events -/

/-- Where the accepted events are. -/
structure Flow (E : Type) where
  accepted : List (QueuedEvent E)
  queued : List (QueuedEvent E)
  batch : List (QueuedEvent E)
  answered : List (AppendCall E)
  phase : Phase
  futures : ℕ → FutureState
  submitted : ℕ
  saved : ℕ
  putters : List (QueuedEvent E)
  nextFuture : ℕ
  cancelRequested : Bool
  hasTask : Bool
  stopReturned : Bool

def AsyncBatchWriter.flow (w : AsyncBatchWriter E) : Flow E where
  accepted := w.accepted
  queued := w.queued
  batch := w.batch
  answered := w.answered
  phase := w.phase
  futures := w.futures
  submitted := w.stats.submitted
  saved := w.stats.persisted + w.stats.duplicates
  putters := w.putters
  nextFuture := w.nextFuture
  cancelRequested := w.cancelRequested
  hasTask := w.hasTask
  stopReturned := w.stopReturned

/-- An event is new: where its caller waits for it, its future is. -/
def Created (item : QueuedEvent E) (before after : ℕ) : Prop :=
  (item.durableFuture = none ∧ after = before) ∨
    (item.durableFuture = some before ∧ after = before + 1)

namespace Flow

/-- The events that were passed to the repository, call by call. -/
def handled (f : Flow E) : List (QueuedEvent E) := f.answered.flatMap (·.batch)

/-- One step of the flow, of an action that may accept an event. Where the action is
reliable, no call raises, a call accounts for its batch, and no cancellation is asked for. -/
inductive Step (reliable accepts : Prop) (f : Flow E) : Flow E → Prop
  | still : Step reliable accepts f f
  | begin : f.phase = .created → Step reliable accepts f { f with phase := .waiting }
  | accept (item : QueuedEvent E) (putters : List (QueuedEvent E)) (nextFuture : ℕ) : accepts →
      (item :: putters).Perm f.putters ∧ nextFuture = f.nextFuture ∨
        putters = f.putters ∧ Created item f.nextFuture nextFuture → Step reliable accepts f
      { f with
        accepted := f.accepted ++ [item]
        queued := f.queued ++ [item]
        submitted := f.submitted + 1
        putters := putters
        nextFuture := nextFuture }
  | block (item : QueuedEvent E) (nextFuture : ℕ) : Created item f.nextFuture nextFuture →
      Step reliable accepts f { f with putters := f.putters ++ [item], nextFuture := nextFuture }
  | leave (putters : List (QueuedEvent E)) : putters.Sublist f.putters →
      Step reliable accepts f { f with putters := putters }
  | take (batch queued : List (QueuedEvent E)) : f.phase = .waiting →
      batch ++ queued = f.batch ++ f.queued →
      Step reliable accepts f { f with batch := batch, queued := queued }
  | flush (final : Bool) (batch queued : List (QueuedEvent E)) : f.phase = .waiting →
      batch ++ queued = f.batch ++ f.queued → (final = true → queued = []) →
      Step reliable accepts f
      { f with
        batch := batch
        queued := queued
        phase := if batch = [] then AsyncBatchWriter.afterFlush final else .flushing final }
  | answer (final : Bool) (count : ℕ) : f.phase = .flushing final →
      (reliable → count = f.batch.length) → Step reliable accepts f
      { f with
        answered := f.answered ++ [⟨f.batch, true⟩]
        futures := AsyncBatchWriter.settle .result f.futures f.batch
        batch := []
        phase := AsyncBatchWriter.afterFlush final
        saved := f.saved + count
        cancelRequested := false }
  | fail (answered : List (AppendCall E)) : (reliable → f.cancelRequested = true) →
      (f.phase = .waiting ∧ answered = f.answered ∨ (∃ final, f.phase = .flushing final) ∧
        answered = f.answered ++ [⟨f.batch, false⟩]) → Step reliable accepts f
      { f with
        answered := answered
        futures := AsyncBatchWriter.settle .exception f.futures (f.batch ++ f.queued)
        batch := []
        queued := []
        phase := .raised
        cancelRequested := false }
  | drop : f.cancelRequested = true → f.phase = .created →
      Step reliable accepts f { f with phase := .raised, cancelRequested := false }
  | forget (future : ℕ) : f.futures future = .pending → Step reliable accepts f
      { f with futures := fun other => if other = future then .cancelled else f.futures other }
  | cancel : ¬ reliable → Step reliable accepts f { f with cancelRequested := true }
  | close (stopped : Bool) : f.phase.done = true →
      (stopped = true → f.stopReturned = true ∨ f.phase = .returned) →
      Step reliable accepts f { f with hasTask := false, stopReturned := stopped }
  | again : f.hasTask = false → Step reliable accepts f { f with stopReturned := true }

end Flow

/-- The repository answers a call for all events of its batch, and nobody aborts. -/
def Reliable (w : AsyncBatchWriter E) : Action E → Prop
  | .appendReturns inserted duplicates => inserted + duplicates = w.batch.length
  | .appendRaises | .abort => False
  | _ => True

/-- An event is put into the queue. -/
def Accepts (config : WriterConfig) (w : AsyncBatchWriter E) : Action E → Prop
  | .submit _ _ => ¬ w.Full config
  | .putWaiting _ => True
  | _ => False

instance : Decidable (Reliable w action) :=
  match action with
  | .appendReturns inserted duplicates =>
    inferInstanceAs (Decidable (inserted + duplicates = w.batch.length))
  | .appendRaises | .abort => isFalse id
  | .begin | .get | .timeout | .cancelled | .submit _ _ | .putWaiting _ | .giveUp _
  | .cancelWait _ | .stop | .putStop | .stopReturns | .abortReturns => isTrue trivial

instance : Decidable (Accepts config w action) :=
  match action with
  | .submit _ _ => inferInstanceAs (Decidable (¬ w.Full config))
  | .putWaiting _ => isTrue trivial
  | .begin | .get | .timeout | .cancelled | .appendReturns _ _ | .appendRaises | .giveUp _
  | .cancelWait _ | .stop | .putStop | .stopReturns | .abort | .abortReturns => isFalse id

namespace AsyncBatchWriter

theorem queued_put (item : QueuedEvent E) : (w.put item).queued = w.queued ++ [item] := by
  simp [put, queued]

theorem flow_put (item : QueuedEvent E) : (w.put item).flow =
    { w.flow with
      accepted := w.flow.accepted ++ [item]
      queued := w.flow.queued ++ [item]
      submitted := w.flow.submitted + 1 } := by
  simp only [flow, queued_put]
  rfl

/-- A stop marker is no event. -/
theorem flow_stop (awaiting : ℕ) : ({ w with
      queue := w.queue ++ [.stop]
      stopsAwaiting := awaiting } : AsyncBatchWriter E).flow = w.flow := by
  simp [flow, queued]

/-- A stop after the task has returned normally where the task has. -/
theorem flow_stopDone {reliable accepts : Prop} (h : w.phase.done = true) :
    Flow.Step reliable accepts w.flow w.stopDone.flow := by
  refine .close _ h fun hStopped => ?_
  rcases Bool.or_eq_true_iff.mp hStopped with hBefore | hNow
  · exact .inl hBefore
  · exact .inr (of_decide_eq_true (Bool.and_eq_true_iff.mp hNow).1)

/-- Every action of the writer is a step of its flow. -/
theorem step_flow (h : w.step config action = some w') :
    Flow.Step (Reliable w action) (Accepts config w action) w.flow w'.flow := by
  cases action with
  | begin =>
    simp only [step, begin] at h
    split_ifs at h with hPhase hCancel
    · obtain rfl := Option.some.inj h
      exact .drop hCancel hPhase
    · obtain rfl := Option.some.inj h
      exact .begin hPhase
  | get =>
    simp only [step, get] at h
    split_ifs at h with hWaiting
    split at h
    · cases h
    · next rest hQueue =>
      obtain rfl := Option.some.inj h
      have hRest : w.queued = rest.filterMap QueueItem.event? := by
        rw [queued, hQueue]
        rfl
      refine .flush true (w.batch ++ rest.filterMap QueueItem.event?) [] hWaiting.1 ?_ fun _ => rfl
      rw [List.append_nil, ← hRest]
      rfl
    · next item rest hQueue =>
      have hMoved : (w.batch ++ [item]) ++ rest.filterMap QueueItem.event? =
          w.flow.batch ++ w.flow.queued := by
        simp [flow, queued, hQueue]
      split_ifs at h
      · obtain rfl := Option.some.inj h
        exact .flush false _ _ hWaiting.1 hMoved nofun
      · obtain rfl := Option.some.inj h
        exact .take _ _ hWaiting.1 hMoved
  | timeout =>
    simp only [step, timeout] at h
    split_ifs at h with hWaiting
    obtain rfl := Option.some.inj h
    exact .flush false _ _ hWaiting.1 rfl nofun
  | cancelled =>
    simp only [step, cancelled] at h
    split_ifs at h with hWaiting
    obtain rfl := Option.some.inj h
    exact .fail w.answered (fun _ => hWaiting.2) (.inl ⟨hWaiting.1, rfl⟩)
  | appendReturns inserted duplicates =>
    simp only [step, appendReturns] at h
    split at h
    · next final hPhase =>
      obtain rfl := Option.some.inj h
      have hSaved : w.stats.persisted + inserted + (w.stats.duplicates + duplicates) =
          w.stats.persisted + w.stats.duplicates + (inserted + duplicates) := by omega
      have hStep : Flow.Step (Reliable w (.appendReturns inserted duplicates))
          (Accepts config w (.appendReturns inserted duplicates)) w.flow _ :=
        .answer final (inserted + duplicates) hPhase fun hReliable => hReliable
      simpa only [flow, queued, hSaved] using hStep
    · cases h
  | appendRaises =>
    simp only [step, appendRaises] at h
    split at h
    · next final hPhase =>
      obtain rfl := Option.some.inj h
      exact .fail _ (fun hReliable => hReliable.elim) (.inr ⟨⟨final, hPhase⟩, rfl⟩)
    · cases h
  | submit event waits =>
    have hCreated : Created ⟨event, if waits then some w.nextFuture else none⟩ w.nextFuture
        (if waits then w.nextFuture + 1 else w.nextFuture) := by
      cases waits
      · exact .inl ⟨rfl, rfl⟩
      · exact .inr ⟨rfl, rfl⟩
    simp only [step, submit] at h
    by_cases hOpen : w.Open
    · rw [if_pos hOpen] at h
      by_cases hFull : w.Full config
      · rw [if_pos hFull] at h
        obtain rfl := Option.some.inj h
        exact .block _ _ hCreated
      · rw [if_neg hFull] at h
        obtain rfl := Option.some.inj h
        rw [flow_put]
        exact .accept _ w.putters _ hFull (.inr ⟨rfl, hCreated⟩)
    · rw [if_neg hOpen] at h
      cases h
  | putWaiting index =>
    simp only [step, putWaiting] at h
    split at h
    · next item hItem =>
      split_ifs at h
      obtain rfl := Option.some.inj h
      obtain ⟨hIndex, rfl⟩ := List.getElem?_eq_some_iff.mp hItem
      rw [flow_put]
      exact .accept _ (w.putters.eraseIdx index) w.nextFuture trivial
        (.inl ⟨List.getElem_cons_eraseIdx_perm hIndex, rfl⟩)
    · cases h
  | giveUp index =>
    simp only [step, giveUp] at h
    split_ifs at h
    obtain rfl := Option.some.inj h
    exact .leave _ (List.eraseIdx_sublist _ _)
  | cancelWait future =>
    simp only [step, cancelWait] at h
    split_ifs at h with hPending
    obtain rfl := Option.some.inj h
    exact .forget future hPending
  | stop =>
    simp only [step, stop] at h
    split_ifs at h with hTask hDone
    · obtain rfl := Option.some.inj h
      exact .again hTask
    · obtain rfl := Option.some.inj h
      exact flow_stopDone hDone
    · obtain rfl := Option.some.inj h
      exact .still
    · obtain rfl := Option.some.inj h
      rw [flow_stop]
      exact .still
  | putStop =>
    simp only [step, putStop] at h
    split_ifs at h
    obtain rfl := Option.some.inj h
    have hStop := flow_stop (w := { w with stopPutters := w.stopPutters - 1 }) (w.stopsAwaiting + 1)
    rw [hStop]
    exact .still
  | stopReturns =>
    simp only [step, stopReturns] at h
    split_ifs at h with hBoth
    obtain rfl := Option.some.inj h
    exact flow_stopDone hBoth.2
  | abort =>
    simp only [step, abort] at h
    split_ifs at h with hTask hDone
    · obtain rfl := Option.some.inj h
      exact .still
    · obtain rfl := Option.some.inj h
      exact .close w.stopReturned hDone .inl
    · obtain rfl := Option.some.inj h
      exact .cancel id
  | abortReturns =>
    simp only [step, abortReturns] at h
    split_ifs at h with hBoth
    obtain rfl := Option.some.inj h
    exact .close w.stopReturned hBoth.2 .inl

end AsyncBatchWriter

/-! ### What flows keeps its order -/

section Settle

open AsyncBatchWriter

variable {state : FutureState} {futures : ℕ → FutureState} {items : List (QueuedEvent E)} {future : ℕ}

theorem settle_of_done (h : futures future ≠ .pending) :
    settle state futures items future = futures future := if_neg fun hBoth => h hBoth.1

theorem settle_ne_pending (hState : state ≠ .pending)
    (h : some future ∈ items.map (·.durableFuture)) :
    settle state futures items future ≠ .pending := by
  unfold settle
  split_ifs with hBoth
  · exact hState
  · exact fun hPending => hBoth ⟨hPending, h⟩

/-- A future that is settled with a state has it from before, or belongs to an item. -/
theorem settle_eq {other : FutureState} (h : settle state futures items future = other) :
    futures future = other ∨ state = other ∧ some future ∈ items.map (·.durableFuture) := by
  unfold settle at h
  split_ifs at h with hBoth
  · exact .inr ⟨h, hBoth.2⟩
  · exact .inl h

end Settle

namespace Flow

open AsyncBatchWriter

variable {f g : Flow E} {reliable accepts : Prop}

/-- Until the task has raised, no event is lost on its way from the queue; the events on
the way are in the order in which they were accepted, and acknowledgements are sound. -/
structure Sound (f : Flow E) : Prop where
  conserved : f.phase ≠ .raised → f.handled ++ f.batch ++ f.queued = f.accepted
  ordered : f.handled ++ f.batch <+: f.accepted
  idle : f.phase = .created ∨ f.phase.done = true → f.batch = []
  failed : ∀ call ∈ f.answered, call.returned = false → f.phase = .raised
  acknowledged : ∀ future, f.futures future = .result →
    ∃ call ∈ f.answered, call.returned = true ∧ some future ∈ call.batch.map (·.durableFuture)
  settled : ∀ call ∈ f.answered, ∀ future, some future ∈ call.batch.map (·.durableFuture) →
    f.futures future ≠ .pending

theorem handled_append (answered : List (AppendCall E)) (call : AppendCall E) :
    (answered ++ [call]).flatMap (·.batch) = answered.flatMap (·.batch) ++ call.batch := by
  simp

/-- Events on the way go on, and none is passed over. -/
theorem Sound.moved (h : f.Sound) (hPhase : f.phase = .waiting) {batch queued : List (QueuedEvent E)}
    (hMoved : batch ++ queued = f.batch ++ f.queued) :
    f.handled ++ batch ++ queued = f.accepted := by
  have hConserved := h.conserved (by rw [hPhase]; decide)
  rw [List.append_assoc] at hConserved ⊢
  rw [hMoved, hConserved]

theorem Sound.step (h : f.Sound) (hStep : Step reliable accepts f g) : g.Sound := by
  cases hStep with
  | still => exact h
  | begin hPhase =>
    refine ⟨fun _ => h.conserved (by rw [hPhase]; decide), h.ordered, ?_, ?_, h.acknowledged, h.settled⟩
    · intro hIdle
      exact h.idle (.inl hPhase)
    · intro call hCall hRaised
      have hFailed := h.failed call hCall hRaised
      rw [hPhase] at hFailed
      cases hFailed
  | accept item putters nextFuture hAccepts hItem =>
    refine ⟨fun hPhase => ?_, ?_, h.idle, h.failed, h.acknowledged, h.settled⟩
    · change f.handled ++ f.batch ++ (f.queued ++ [item]) = f.accepted ++ [item]
      rw [← List.append_assoc, h.conserved hPhase]
    · exact h.ordered.trans (List.prefix_append _ _)
  | block item nextFuture hCreated =>
    exact ⟨h.conserved, h.ordered, h.idle, h.failed, h.acknowledged, h.settled⟩
  | leave putters hLeft =>
    exact ⟨h.conserved, h.ordered, h.idle, h.failed, h.acknowledged, h.settled⟩
  | take batch queued hPhase hMoved =>
    have hConserved := h.moved hPhase hMoved
    refine ⟨fun _ => hConserved, ⟨queued, hConserved⟩, ?_, h.failed, h.acknowledged, h.settled⟩
    intro hIdle
    change f.phase = .created ∨ f.phase.done = true at hIdle
    rw [hPhase] at hIdle
    rcases hIdle with hIdle | hIdle <;> cases hIdle
  | flush final batch queued hPhase hMoved hFinal =>
    have hConserved := h.moved hPhase hMoved
    refine ⟨fun _ => hConserved, ⟨queued, hConserved⟩, ?_, ?_, h.acknowledged, h.settled⟩
    · intro hIdle
      by_contra hBatch
      change batch ≠ [] at hBatch
      simp only [if_neg hBatch] at hIdle
      rcases hIdle with hIdle | hIdle <;> cases hIdle
    · intro call hCall hRaised
      have hFailed := h.failed call hCall hRaised
      rw [hPhase] at hFailed
      cases hFailed
  | answer final count hPhase hCount =>
    have hConserved := h.conserved (by rw [hPhase]; exact nofun)
    refine ⟨fun _ => ?_, ?_, fun _ => rfl, ?_, ?_, ?_⟩
    · change (f.answered ++ [(⟨f.batch, true⟩ : AppendCall E)]).flatMap (·.batch) ++ [] ++ f.queued = f.accepted
      rw [handled_append, List.append_nil]
      exact hConserved
    · change (f.answered ++ [(⟨f.batch, true⟩ : AppendCall E)]).flatMap (·.batch) ++ [] <+: f.accepted
      rw [handled_append, List.append_nil]
      exact h.ordered
    · intro call hCall hRaised
      rcases List.mem_append.mp hCall with hCall | hCall
      · have hFailed := h.failed call hCall hRaised
        rw [hPhase] at hFailed
        cases hFailed
      · obtain rfl := List.mem_singleton.mp hCall
        cases hRaised
    · intro future hFuture
      rcases settle_eq hFuture with hBefore | ⟨-, hMem⟩
      · obtain ⟨call, hCall, hBoth⟩ := h.acknowledged future hBefore
        exact ⟨call, List.mem_append_left _ hCall, hBoth⟩
      · exact ⟨_, List.mem_append_right _ List.mem_cons_self, rfl, hMem⟩
    · intro call hCall future hMem
      rcases List.mem_append.mp hCall with hCall | hCall
      · have hDone := h.settled call hCall future hMem
        exact (settle_of_done hDone).trans_ne hDone
      · obtain rfl := List.mem_singleton.mp hCall
        exact settle_ne_pending (by decide) hMem
  | fail answered hUnreliable hAnswered =>
    have hCalls : ∀ call ∈ answered, call ∈ f.answered ∨ call = ⟨f.batch, false⟩ := by
      intro call hCall
      rcases hAnswered with ⟨-, rfl⟩ | ⟨-, rfl⟩
      · exact .inl hCall
      · exact (List.mem_append.mp hCall).imp_right List.mem_singleton.mp
    refine ⟨fun hPhase => absurd rfl hPhase, ?_, fun _ => rfl, fun _ _ _ => rfl, ?_, ?_⟩
    · change answered.flatMap (·.batch) ++ [] <+: f.accepted
      rw [List.append_nil]
      rcases hAnswered with ⟨-, rfl⟩ | ⟨-, rfl⟩
      · exact (List.prefix_append _ _).trans h.ordered
      · rw [handled_append]
        exact h.ordered
    · intro future hFuture
      rcases settle_eq hFuture with hBefore | ⟨hState, -⟩
      · obtain ⟨call, hCall, hBoth⟩ := h.acknowledged future hBefore
        refine ⟨call, ?_, hBoth⟩
        rcases hAnswered with ⟨-, rfl⟩ | ⟨-, rfl⟩
        · exact hCall
        · exact List.mem_append_left _ hCall
      · cases hState
    · intro call hCall future hMem
      rcases hCalls call hCall with hCall | rfl
      · have hDone := h.settled call hCall future hMem
        exact (settle_of_done hDone).trans_ne hDone
      · refine settle_ne_pending (by decide) ?_
        rw [List.map_append]
        exact List.mem_append_left _ hMem
  | drop hUnreliable hPhase =>
    exact ⟨fun hRaised => absurd rfl hRaised, h.ordered, fun _ => h.idle (.inl hPhase),
      fun _ _ _ => rfl, h.acknowledged, h.settled⟩
  | forget future hPending =>
    refine ⟨h.conserved, h.ordered, h.idle, h.failed, ?_, ?_⟩
    · intro other hOther
      simp only at hOther
      split_ifs at hOther
      exact h.acknowledged other hOther
    · intro call hCall other hMem
      simp only
      split_ifs
      · exact nofun
      · exact h.settled call hCall other hMem
  | cancel hUnreliable =>
    exact ⟨h.conserved, h.ordered, h.idle, h.failed, h.acknowledged, h.settled⟩
  | close stopped hDone hStopped =>
    exact ⟨h.conserved, h.ordered, h.idle, h.failed, h.acknowledged, h.settled⟩
  | again hTask =>
    exact ⟨h.conserved, h.ordered, h.idle, h.failed, h.acknowledged, h.settled⟩

theorem Sound.started : (AsyncBatchWriter.started : AsyncBatchWriter E).flow.Sound :=
  ⟨fun _ => rfl, List.prefix_rfl, fun _ => rfl, nofun, nofun, nofun⟩

end Flow

theorem sound_of_run {actions : List (Action E)}
    (h : run (AsyncBatchWriter.step config) .started actions = some w) : w.flow.Sound :=
  run_invariant (fun w => w.flow.Sound) (fun _ _ _ hSound hStep => hSound.step (AsyncBatchWriter.step_flow hStep))
    .started h

/-! ### Futures of their own -/

/-- The futures that callers wait for. -/
def durables (items : List (QueuedEvent E)) : List ℕ := items.filterMap (·.durableFuture)

theorem durables_append_perm {items others : List (QueuedEvent E)} (h : items.Perm others) :
    (durables items).Perm (durables others) := h.filterMap _

/-- No two events share a future. -/
structure Flow.Fresh (f : Flow E) : Prop where
  nodup : (durables (f.accepted ++ f.putters)).Nodup
  bounded : ∀ future ∈ durables (f.accepted ++ f.putters), future < f.nextFuture

namespace Flow.Fresh

variable {f g : Flow E} {reliable accepts : Prop} {item : QueuedEvent E} {items : List (QueuedEvent E)}

/-- The events stay, or some of them leave. -/
theorem of_perm (h : f.Fresh) (hPerm : (g.accepted ++ g.putters).Perm items)
    (hSublist : items.Sublist (f.accepted ++ f.putters)) (hNext : g.nextFuture = f.nextFuture) :
    g.Fresh := by
  have hDurables := durables_append_perm hPerm
  have hOld : (durables items).Sublist (durables (f.accepted ++ f.putters)) := hSublist.filterMap _
  refine ⟨hDurables.nodup_iff.mpr (h.nodup.sublist hOld), fun future hFuture => ?_⟩
  rw [hNext]
  exact h.bounded future (hOld.subset (hDurables.mem_iff.mp hFuture))

/-- An event is added with a future of its own. -/
theorem of_created (h : f.Fresh) (hPerm : (g.accepted ++ g.putters).Perm
    (item :: (f.accepted ++ f.putters))) (hCreated : Created item f.nextFuture g.nextFuture) :
    g.Fresh := by
  have hDurables := durables_append_perm hPerm
  rcases hCreated with ⟨hNone, hNext⟩ | ⟨hSome, hNext⟩
  · have hSame : durables (item :: (f.accepted ++ f.putters)) = durables (f.accepted ++ f.putters) :=
      List.filterMap_cons_none hNone
    rw [hSame] at hDurables
    refine ⟨hDurables.nodup_iff.mpr h.nodup, fun future hFuture => ?_⟩
    rw [hNext]
    exact h.bounded future (hDurables.mem_iff.mp hFuture)
  · have hSame : durables (item :: (f.accepted ++ f.putters)) =
        f.nextFuture :: durables (f.accepted ++ f.putters) := List.filterMap_cons_some hSome
    have hNew : f.nextFuture ∉ durables (f.accepted ++ f.putters) :=
      fun hMem => Nat.lt_irrefl _ (h.bounded _ hMem)
    rw [hSame] at hDurables
    refine ⟨hDurables.nodup_iff.mpr (List.nodup_cons.mpr ⟨hNew, h.nodup⟩), fun future hFuture => ?_⟩
    rw [hNext]
    rcases List.mem_cons.mp (hDurables.mem_iff.mp hFuture) with rfl | hOld
    · exact Nat.lt_succ_self _
    · exact Nat.lt_succ_of_lt (h.bounded future hOld)

theorem step (h : f.Fresh) (hStep : Step reliable accepts f g) : g.Fresh := by
  cases hStep with
  | accept item putters nextFuture hAccepts hItem =>
    have hPerm : (f.accepted ++ [item] ++ putters).Perm (item :: (f.accepted ++ putters)) := by
      rw [List.append_assoc]
      exact List.perm_middle
    rcases hItem with ⟨hPutters, hNext⟩ | ⟨rfl, hCreated⟩
    · refine h.of_perm (hPerm.trans (List.perm_middle.symm.trans ?_)) (List.Sublist.refl _) hNext
      exact hPutters.append_left _
    · exact h.of_created hPerm hCreated
  | block item nextFuture hCreated =>
    refine h.of_created ?_ hCreated
    change (f.accepted ++ (f.putters ++ [item])).Perm _
    rw [← List.append_assoc]
    exact List.perm_append_singleton _ _
  | leave putters hLeft => exact h.of_perm (.refl _) (hLeft.append_left _) rfl
  | still => exact h
  | begin hPhase => exact ⟨h.nodup, h.bounded⟩
  | take batch queued hPhase hMoved => exact ⟨h.nodup, h.bounded⟩
  | flush final batch queued hPhase hMoved hFinal => exact ⟨h.nodup, h.bounded⟩
  | answer final count hPhase hCount => exact ⟨h.nodup, h.bounded⟩
  | fail answered hUnreliable hAnswered => exact ⟨h.nodup, h.bounded⟩
  | drop hUnreliable hPhase => exact ⟨h.nodup, h.bounded⟩
  | forget future hPending => exact ⟨h.nodup, h.bounded⟩
  | cancel hUnreliable => exact ⟨h.nodup, h.bounded⟩
  | close stopped hDone hStopped => exact ⟨h.nodup, h.bounded⟩
  | again hTask => exact ⟨h.nodup, h.bounded⟩

/-- A future belongs to one event. -/
theorem item_eq {a b : QueuedEvent E} (hNodup : (durables items).Nodup) (ha : a ∈ items)
    (hb : b ∈ items) {future : ℕ} (hFirst : a.durableFuture = some future)
    (hSecond : b.durableFuture = some future) : a = b := by
  induction items with
  | nil => cases ha
  | cons first rest ih =>
    have hRest : ∀ item ∈ rest, item.durableFuture = some future → future ∈ durables rest :=
      fun item hItem hSome => List.mem_filterMap.mpr ⟨item, hItem, hSome⟩
    unfold durables at hNodup
    rcases List.mem_cons.mp ha with rfl | ha' <;> rcases List.mem_cons.mp hb with rfl | hb'
    · rfl
    · rw [List.filterMap_cons_some hFirst] at hNodup
      exact absurd (hRest b hb' hSecond) (List.nodup_cons.mp hNodup).1
    · rw [List.filterMap_cons_some hSecond] at hNodup
      exact absurd (hRest a ha' hFirst) (List.nodup_cons.mp hNodup).1
    · exact ih (hNodup.sublist ((List.sublist_cons_self first rest).filterMap _)) ha' hb'

end Flow.Fresh

theorem fresh_of_run {actions : List (Action E)}
    (h : run (AsyncBatchWriter.step config) .started actions = some w) : w.flow.Fresh :=
  run_invariant (fun w => w.flow.Fresh) (fun _ _ _ hFresh hStep =>
    hFresh.step (AsyncBatchWriter.step_flow hStep)) ⟨List.nodup_nil, nofun⟩ h

/-! ### Acknowledgements -/

/-- The events that were passed to `append_batch`, those of the call in progress last. -/
def AsyncBatchWriter.passed (w : AsyncBatchWriter E) : List (QueuedEvent E) :=
  w.answered.flatMap (·.batch) ++ match w.phase with
    | .flushing _ => w.batch
    | _ => []

/-- A call of `append_batch` has raised. -/
def AsyncBatchWriter.Failed (w : AsyncBatchWriter E) : Prop :=
  ∃ call ∈ w.answered, call.returned = false

/-- An event is acknowledged after a call with it has returned, and the events are passed
in the order of the queue, each at most once. -/
structure Durable (w : AsyncBatchWriter E) : Prop where
  acknowledged : ∀ item ∈ w.accepted ++ w.putters, ∀ future ∈ item.durableFuture,
    w.futures future = .result → ∃ call ∈ w.answered, call.returned = true ∧ item ∈ call.batch
  ordered : w.passed <+: w.accepted

theorem durable_of_sound (hSound : w.flow.Sound) (hFresh : w.flow.Fresh) : Durable w := by
  constructor
  · intro item hItem future hFuture hResult
    obtain ⟨call, hCall, hReturned, hMem⟩ := hSound.acknowledged future hResult
    obtain ⟨other, hOther, hSame⟩ := List.mem_map.mp hMem
    have hHandled : other ∈ w.flow.handled ++ w.flow.batch :=
      List.mem_append_left _ (List.mem_flatMap.mpr ⟨call, hCall, hOther⟩)
    have hAccepted : other ∈ w.accepted ++ w.putters :=
      List.mem_append_left _ (hSound.ordered.subset hHandled)
    obtain rfl := Flow.Fresh.item_eq hFresh.nodup hItem hAccepted hFuture hSame
    exact ⟨call, hCall, hReturned, hOther⟩
  · have hPrefix : w.passed <+: w.flow.handled ++ w.flow.batch := by
      unfold AsyncBatchWriter.passed
      split
      · exact List.prefix_rfl
      · rw [List.append_nil]
        exact List.prefix_append _ _
    exact hPrefix.trans hSound.ordered

/-- A task that has raised does nothing more. -/
theorem Flow.Step.raised {f g : Flow E} {reliable accepts : Prop}
    (hStep : Flow.Step reliable accepts f g)
    (hPhase : f.phase = .raised) : g.phase = .raised ∧ g.answered = f.answered := by
  cases hStep with
  | begin h => exact absurd (hPhase.symm.trans h) nofun
  | take _ _ h => exact absurd (hPhase.symm.trans h) nofun
  | flush _ _ _ h => exact absurd (hPhase.symm.trans h) nofun
  | answer _ _ h => exact absurd (hPhase.symm.trans h) nofun
  | drop _ h => exact absurd (hPhase.symm.trans h) nofun
  | fail answered _ hAnswered =>
    rcases hAnswered with ⟨h, -⟩ | ⟨⟨_, h⟩, -⟩
    · exact absurd (hPhase.symm.trans h) nofun
    · exact absurd (hPhase.symm.trans h) nofun
  | still => exact ⟨hPhase, rfl⟩
  | cancel _ => exact ⟨hPhase, rfl⟩
  | close _ _ _ => exact ⟨hPhase, rfl⟩
  | again _ => exact ⟨hPhase, rfl⟩
  | accept _ _ _ _ _ => exact ⟨hPhase, rfl⟩
  | block _ _ _ => exact ⟨hPhase, rfl⟩
  | leave _ _ => exact ⟨hPhase, rfl⟩
  | forget _ _ => exact ⟨hPhase, rfl⟩

theorem passed_of_raised (h : w.phase = .raised) : w.passed = w.answered.flatMap (·.batch) := by
  unfold AsyncBatchWriter.passed
  rw [h]
  exact List.append_nil _

/-- After a call has raised, nothing more is passed to the repository. -/
theorem passed_after_failure {later : List (Action E)} (hSound : w.flow.Sound) (hFailed : w.Failed)
    (h : run (AsyncBatchWriter.step config) w later = some w') : w'.passed = w.passed := by
  obtain ⟨call, hCall, hRaised⟩ := hFailed
  have hPhase : w.phase = .raised := hSound.failed call hCall hRaised
  have hLater : w'.phase = .raised ∧ w'.answered = w.answered := by
    refine run_invariant (fun v => v.phase = .raised ∧ v.answered = w.answered) ?_ ⟨hPhase, rfl⟩ h
    rintro v action v' ⟨hBefore, hSame⟩ hStep
    obtain ⟨hAfter, hAnswered⟩ := (AsyncBatchWriter.step_flow hStep).raised hBefore
    exact ⟨hAfter, hAnswered.trans hSame⟩
  rw [passed_of_raised hPhase, passed_of_raised hLater.1, hLater.2]

/-- Acknowledgements are sound in every state that a started writer can reach, whatever the
repository does. -/
theorem acknowledgements_sound {actions : List (Action E)}
    (h : run (AsyncBatchWriter.step config) .started actions = some w) :
    Durable w ∧ (w.Failed → ∀ later w',
      run (AsyncBatchWriter.step config) w later = some w' → w'.passed = w.passed) :=
  ⟨durable_of_sound (sound_of_run h) (fresh_of_run h), fun hFailed _ _ hLater =>
    passed_after_failure (sound_of_run h) hFailed hLater⟩

/-- Two events that are waited for; the call with the second one raises. -/
def halfSaved : List (Action ℕ) :=
  [.begin, .submit 7 true, .submit 8 true, .get, .appendReturns 1 0, .get, .appendRaises]

theorem halfSaved_sound : ∃ w, run (AsyncBatchWriter.step ⟨4, 1⟩) .started halfSaved = some w ∧
    w.futures 0 = .result ∧ w.futures 1 = .exception ∧ Durable w ∧
    ∀ later w', run (AsyncBatchWriter.step ⟨4, 1⟩) w later = some w' → w'.passed = w.passed := by
  obtain ⟨w, hRun, hFirst, hSecond, hFailed⟩ : ∃ w,
      run (AsyncBatchWriter.step ⟨4, 1⟩) .started halfSaved = some w ∧
        w.futures 0 = .result ∧ w.futures 1 = .exception ∧ w.Failed :=
    ⟨_, rfl, rfl, rfl, ⟨[⟨8, some 1⟩], false⟩, List.mem_cons_of_mem _ List.mem_cons_self, rfl⟩
  have hSound := acknowledgements_sound hRun
  exact ⟨w, hRun, hFirst, hSecond, hSound.1, hSound.2 hFailed⟩

end Daybreak.Recorder
