import Daybreak.Orchestration.Flatten
import Mathlib.Data.List.Induction

/-! What one part of a flatten run does to its log, and the invariant rule: what the
requests, the passing of time and each reading with its closes keep holds after every
run. -/

namespace Daybreak.Orchestration

open Numeric DecimalArithmetic Effect

variable {β D : Type} [DecimalArithmetic D]

/-! ### The log -/

namespace OperationCall

/-- The positions of an answered listing. -/
def positions : OperationCall D → Option (List (SessionPosition D))
  | .list _ (.ok positions) => some positions
  | _ => none

/-- The position that was read and the one that is closed, for a close that was
accepted. -/
def accepted : OperationCall D → Option (SessionPosition D × SessionPosition D)
  | .close read target (.ok _) => some (read, target)
  | _ => none

/-- The request is no close that raised. -/
def Succeeds : OperationCall D → Prop
  | .close _ _ (.error _) => False
  | _ => True

instance : DecidablePred (Succeeds : OperationCall D → Prop)
  | .close _ _ (.error _) => .isFalse id
  | .close _ _ (.ok _) => .isTrue trivial
  | .discover _ => .isTrue trivial
  | .cancel _ => .isTrue trivial
  | .list _ _ => .isTrue trivial

theorem positions_eq_some {call : OperationCall D} {positions : List (SessionPosition D)} :
    call.positions = some positions ↔ ∃ targets, call = .list targets (.ok positions) := by
  cases call with
  | list targets answer => cases answer <;> simp [OperationCall.positions]
  | _ => simp [OperationCall.positions]

/-- The request neither reads positions nor closes one. -/
def Idle (call : OperationCall D) : Prop :=
  call.positions = none ∧ call.accepted = none ∧ call.Succeeds

end OperationCall

/-- The answered listings. -/
def readings (log : FlattenLog β D) : List (List (SessionPosition D)) :=
  log.filterMap (·.1.positions)

/-- The positions of the last answered listing. -/
def lastReading (log : FlattenLog β D) : List (SessionPosition D) := (readings log).getLast?.getD []

/-- No close raised. -/
def AllSucceed (log : FlattenLog β D) : Prop := ∀ entry ∈ log, entry.1.Succeeds

instance (log : FlattenLog β D) : Decidable (AllSucceed log) :=
  inferInstanceAs (Decidable (∀ entry ∈ log, entry.1.Succeeds))

variable {log log' : FlattenLog β D} {entry : OperationCall D × β}

@[simp] theorem readings_append :
    readings (log ++ [entry]) = readings log ++ entry.1.positions.toList := by
  rw [readings, List.filterMap_append]
  cases h : entry.1.positions <;> simp [readings, h]

@[simp] theorem lastReading_append :
    lastReading (log ++ [entry]) = entry.1.positions.getD (lastReading log) := by
  rw [lastReading, readings_append]
  cases h : entry.1.positions <;> simp [lastReading]

/-- The last reading was answered by a listing of the log. -/
theorem lastReading_listed {position : SessionPosition D} (h : position ∈ lastReading log) :
    ∃ targets broker, (.list targets (.ok (lastReading log)), broker) ∈ log := by
  cases hLast : (readings log).getLast? with
  | none =>
    rw [lastReading, hLast] at h
    cases h
  | some positions =>
    have hReading : lastReading log = positions := by rw [lastReading, hLast, Option.getD_some]
    obtain ⟨⟨call, broker⟩, hEntry, hPositions⟩ :=
      List.mem_filterMap.mp (List.mem_of_getLast? hLast)
    obtain ⟨targets, rfl⟩ := OperationCall.positions_eq_some.mp hPositions
    exact ⟨targets, broker, hReading ▸ hEntry⟩

@[simp] theorem allSucceed_append :
    AllSucceed (log ++ [entry]) ↔ AllSucceed log ∧ entry.1.Succeeds := by
  simp only [AllSucceed, List.forall_mem_append, List.forall_mem_singleton]

theorem AllSucceed.mono (hAll : AllSucceed log') (h : log <+: log') : AllSucceed log :=
  fun entry hEntry => hAll entry (h.subset hEntry)

theorem append_singleton_eq {α : Type} {items before after : List α} {item last : α}
    (h : items ++ [last] = before ++ item :: after) :
    (items = before ∧ last = item) ∨ ∃ rest, items = before ++ item :: rest := by
  induction after using List.reverseRecOn with
  | nil =>
    obtain ⟨hItems, hLast⟩ := List.append_inj' h rfl
    exact .inl ⟨hItems, List.cons.inj hLast |>.1⟩
  | append_singleton rest x _ =>
    rw [← List.cons_append, ← List.append_assoc] at h
    exact .inr ⟨rest, (List.append_inj' h rfl).1⟩

/-! ### Closes -/

@[simp] theorem exec_request {α : Type} (operation : β → Except Exc α × β)
    (call : Except Exc α → OperationCall D) (run : FlattenRun β D) :
    (request operation call).exec run = (.ok (operation run.broker).1,
      { run with
        broker := (operation run.broker).2
        log := run.log ++ [(call (operation run.broker).1, (operation run.broker).2)] }) := rfl

@[simp] theorem exec_readClock (timing : Timing β) (run : FlattenRun β D) :
    (readClock timing).exec run =
      (.ok (timing.clock run.broker).1, { run with broker := (timing.clock run.broker).2 }) := rfl

variable {ops : SessionBrokerOperations β D} {position : SessionPosition D}
  {positions : List (SessionPosition D)} {run run' : FlattenRun β D}

/-- The run after the close of what is uncovered of a position. -/
inductive ClosesUncovered (position : SessionPosition D) (run : FlattenRun β D) :
    FlattenRun β D → Prop
  | covered (h : value (sub position.quantity (run.submitted position.symbol)) ≤ 0) :
    ClosesUncovered position run run
  | accepted (target : SessionPosition D) (order : FlattenOrder D) (broker : β)
    (hSymbol : target.symbol = position.symbol)
    (hQuantity : target.quantity = sub position.quantity (run.submitted position.symbol)) :
    ClosesUncovered position run { run with
      broker := broker
      closeOrders := run.closeOrders ++ [order]
      submittedQuantities := run.submittedQuantities.insert position.symbol
        (add (run.submitted position.symbol) target.quantity)
      log := run.log ++ [(.close position target (.ok order), broker)] }
  | raised (target : SessionPosition D) (e : Exc) (broker : β) (error : String) :
    ClosesUncovered position run { run with
      broker := broker
      errors := run.errors ++ [error]
      log := run.log ++ [(.close position target (.error e), broker)] }

theorem closeUncoveredPosition_exec (ops : SessionBrokerOperations β D)
    (position : SessionPosition D) (run : FlattenRun β D) :
    ∃ run', (closeUncoveredPosition ops position).exec run = (.ok (), run') ∧
      ClosesUncovered position run run' := by
  unfold closeUncoveredPosition
  rw [Program.exec_bind, Program.exec_get]
  simp only
  split_ifs with hCovered
  · exact ⟨run, rfl, .covered hCovered⟩
  · let target : SessionPosition D :=
      { position with
        quantity := sub position.quantity (run.submitted position.symbol)
        positive := not_le.mp hCovered }
    rw [Program.exec_bind, exec_request]
    simp only
    rcases hAnswer : ops.closePosition { position with
      quantity := sub position.quantity (run.submitted position.symbol)
      positive := not_le.mp hCovered } run.broker with ⟨answer, broker⟩
    cases answer with
    | ok order => exact ⟨_, rfl, .accepted target order _ rfl rfl⟩
    | error e => exact ⟨_, rfl, .raised target e _ _⟩

/-- The run after the positions of a reading are closed one by one. -/
inductive ClosesAll : List (SessionPosition D) → FlattenRun β D → FlattenRun β D → Prop
  | nil (run : FlattenRun β D) : ClosesAll [] run run
  | cons {position : SessionPosition D} {positions : List (SessionPosition D)}
      {run mid run' : FlattenRun β D} (first : ClosesUncovered position run mid)
      (rest : ClosesAll positions mid run') : ClosesAll (position :: positions) run run'

theorem closeUncovered_exec (ops : SessionBrokerOperations β D)
    (positions : List (SessionPosition D)) (run : FlattenRun β D) :
    ∃ run', (closeUncovered ops positions).exec run = (.ok (), run') ∧
      ClosesAll positions run run' := by
  induction positions generalizing run with
  | nil => exact ⟨run, rfl, .nil run⟩
  | cons position positions ih =>
    obtain ⟨mid, hFirst, hCloses⟩ := closeUncoveredPosition_exec ops position run
    obtain ⟨run', hRest, hAll⟩ := ih mid
    refine ⟨run', ?_, .cons hCloses hAll⟩
    rw [closeUncovered, Program.exec_bind, hFirst]
    exact hRest

theorem closePoll_exec (ops : SessionBrokerOperations β D)
    (positions : List (SessionPosition D)) (run : FlattenRun β D) :
    ∃ run', (closePoll ops positions).exec run =
        (.ok (), { run' with polls := run'.polls ++ [⟨positions, run.broker, run'.log⟩] }) ∧
      ClosesAll positions run run' := by
  obtain ⟨run', hExec, hCloses⟩ := closeUncovered_exec ops positions run
  refine ⟨run', ?_, hCloses⟩
  rw [closePoll, Program.exec_bind, Program.exec_get]
  simp only
  rw [Program.exec_bind, hExec]
  rfl

/-- Closing reads nothing and ends no poll. -/
structure OnlyCloses (run run' : FlattenRun β D) : Prop where
  log : run.log <+: run'.log
  errors : run.errors <+: run'.errors
  readings : readings run'.log = readings run.log
  polls : run'.polls = run.polls

theorem OnlyCloses.lastReading (h : OnlyCloses run run') :
    lastReading run'.log = lastReading run.log := by
  rw [Orchestration.lastReading, h.readings]
  rfl

theorem ClosesUncovered.onlyCloses (h : ClosesUncovered position run run') :
    OnlyCloses run run' := by
  cases h with
  | covered => exact ⟨List.prefix_rfl, List.prefix_rfl, rfl, rfl⟩
  | accepted target order broker =>
    refine ⟨List.prefix_append _ _, List.prefix_rfl, ?_, rfl⟩
    exact readings_append.trans (List.append_nil _)
  | raised target e broker error =>
    refine ⟨List.prefix_append _ _, List.prefix_append _ _, ?_, rfl⟩
    exact readings_append.trans (List.append_nil _)

theorem ClosesAll.onlyCloses (h : ClosesAll positions run run') : OnlyCloses run run' := by
  induction h with
  | nil run => exact ⟨List.prefix_rfl, List.prefix_rfl, rfl, rfl⟩
  | cons first rest ih =>
    have hFirst := first.onlyCloses
    exact ⟨hFirst.log.trans ih.log, hFirst.errors.trans ih.errors,
      ih.readings.trans hFirst.readings, ih.polls.trans hFirst.polls⟩

/-- Closing logs no listing. -/
theorem ClosesAll.listed (h : ClosesAll positions run run')
    {targets : List (ManagedPositionTarget D)} {answer : Except Exc (List (SessionPosition D))}
    {broker : β} (hEntry : (.list targets answer, broker) ∈ run'.log) :
    (.list targets answer, broker) ∈ run.log := by
  induction h with
  | nil => exact hEntry
  | cons first _ ih =>
    have hMid := ih hEntry
    cases first with
    | covered => exact hMid
    | accepted target order b hSymbol hQuantity =>
      rcases List.mem_append.mp hMid with hOld | hNew
      · exact hOld
      · cases List.mem_singleton.mp hNew
    | raised target e b error =>
      rcases List.mem_append.mp hMid with hOld | hNew
      · exact hOld
      · cases List.mem_singleton.mp hNew

/-! ### Runs -/

/-- `P` is kept where nothing is read or closed. -/
structure IdleInvariant (P : FlattenRun β D → Prop) : Prop where
  unlogged : ∀ {run broker errors}, run.errors <+: errors → P run →
    P { run with broker := broker, errors := errors }
  idle : ∀ {run broker} {call : OperationCall D}, call.Idle → P run →
    P { run with broker := broker, log := run.log ++ [(call, broker)] }
  poll : ∀ {run broker positions}, P run →
    P { run with polls := run.polls ++ [⟨positions, broker, run.log⟩] }

/-- `P` is kept by every part of a run for some targets; a reading is one part with
its closes. -/
structure FlattenInvariant (ops : SessionBrokerOperations β D)
    (targets : List (ManagedPositionTarget D)) (P : FlattenRun β D → Prop) : Prop
    extends IdleInvariant P where
  read : ∀ {run run' broker positions},
    (∃ b, ops.listPositions targets b = (.ok positions, broker)) →
    ClosesAll positions
      { run with broker := broker, log := run.log ++ [(.list targets (.ok positions), broker)] }
      run' →
    P run → P run'

variable {P : FlattenRun β D → Prop} {targets : List (ManagedPositionTarget D)}

namespace IdleInvariant

theorem maintains_request (hP : IdleInvariant P) {α : Type} (operation : β → Except Exc α × β)
    {call : Except Exc α → OperationCall D} (hIdle : ∀ answer, (call answer).Idle) :
    Program.Maintains P (request operation call) :=
  fun _ hRun => hP.idle (hIdle _) hRun

theorem maintains_recordError (hP : IdleInvariant P) (context : String) (e : Exc) :
    Program.Maintains P (recordError context e : Flattening β D Unit) :=
  fun _ hRun => hP.unlogged (List.prefix_append _ _) hRun

theorem maintains_orDefault (hP : IdleInvariant P) {α : Type} (context : String)
    (default : α) (answer : Except Exc α) :
    Program.Maintains P (orDefault context default answer : Flattening β D α) := by
  cases answer with
  | ok a => exact .pure a
  | error e => exact .bind (hP.maintains_recordError context e) fun _ => .pure default

theorem maintains_readClock (hP : IdleInvariant P) (timing : Timing β) :
    Program.Maintains P (readClock timing : Flattening β D Timestamp) :=
  fun _ hRun => hP.unlogged List.prefix_rfl hRun

theorem maintains_sleep (hP : IdleInvariant P) (timing : Timing β) (seconds : ℚ) :
    Program.Maintains P (sleep timing seconds : Flattening β D Unit) :=
  fun _ hRun => hP.unlogged List.prefix_rfl hRun

end IdleInvariant

namespace FlattenInvariant

/-- A reading, answered or not, with its closes and what follows. -/
theorem maintains_reading (hP : FlattenInvariant ops targets P) {α : Type} (context : String)
    {rest : List (SessionPosition D) → Flattening β D α}
    (hRest : ∀ positions, Program.Maintains P (rest positions)) :
    Program.Maintains P (do
      let positions ← orDefault context []
        (← request (ops.listPositions targets) (.list targets))
      closeUncovered ops positions
      rest positions) := by
  intro run hRun
  rw [Program.exec_bind, exec_request]
  simp only
  cases hAnswer : (ops.listPositions targets run.broker).1 with
  | error e =>
    exact hRest [] _ (hP.unlogged (List.prefix_append _ _) (hP.idle ⟨rfl, rfl, trivial⟩ hRun))
  | ok positions =>
    obtain ⟨after, hExec, hCloses⟩ := closeUncovered_exec ops positions { run with
      broker := (ops.listPositions targets run.broker).2
      log := run.log ++
        [(.list targets (.ok positions), (ops.listPositions targets run.broker).2)] }
    show P (Program.exec (closeUncovered ops positions >>= fun _ => rest positions) _).2
    rw [Program.exec_bind, hExec]
    refine hRest positions after (hP.read ?_ hCloses hRun)
    exact ⟨run.broker, Prod.ext hAnswer rfl⟩

theorem maintains_verify (hP : FlattenInvariant ops targets P) (timing : Timing β)
    (plan : SessionPlan) (deadline : Timestamp) (polls : ℕ)
    (remaining : List (SessionPosition D)) :
    Program.Maintains P (verify ops timing plan targets deadline polls remaining) := by
  induction polls generalizing remaining with
  | zero => exact .pure none
  | succ polls ih =>
    refine .bind (hP.maintains_readClock timing) fun now => ?_
    split_ifs with hNow
    · intro run hRun
      rw [Program.exec_bind, exec_request]
      simp only
      cases hAnswer : (ops.listPositions targets run.broker).1 with
      | error e =>
        refine Program.Maintains.bind (hP.maintains_recordError _ e) (fun _ => .pure _) _ ?_
        exact hP.idle ⟨rfl, rfl, trivial⟩ hRun
      | ok positions =>
        have hListed : ∃ b, ops.listPositions targets b =
            (.ok positions, (ops.listPositions targets run.broker).2) :=
          ⟨run.broker, Prod.ext hAnswer rfl⟩
        cases positions with
        | nil => exact hP.read hListed (.nil _) hRun
        | cons position positions =>
          obtain ⟨after, hExec, hCloses⟩ := closePoll_exec ops (position :: positions) { run with
            broker := (ops.listPositions targets run.broker).2
            log := run.log ++ [(.list targets (.ok (position :: positions)),
              (ops.listPositions targets run.broker).2)] }
          have hAfter : P { after with polls := after.polls ++
              [⟨position :: positions, (ops.listPositions targets run.broker).2, after.log⟩] } :=
            hP.poll (hP.read hListed hCloses hRun)
          show P (Program.exec (closePoll ops (position :: positions) >>= fun _ => _) _).2
          rw [Program.exec_bind, hExec]
          exact Program.Maintains.bind (hP.maintains_sleep timing _) (fun _ => ih _) _ hAfter
    · exact .pure (some remaining)

end FlattenInvariant

theorem FlattenInvariant.maintains_flattenTargets (hP : FlattenInvariant ops targets P)
    (timing : Timing β) (polls : ℕ) (plan : SessionPlan) (now : Timestamp) :
    Program.Maintains P (flattenTargets ops timing polls plan now targets) := by
  refine .bind (hP.maintains_request _ fun _ => ⟨rfl, rfl, trivial⟩) fun canceled => ?_
  refine .bind (hP.maintains_orDefault _ _ _) fun canceledOrderCount => ?_
  refine hP.maintains_reading _ fun initialPositions => ?_
  refine .bind (hP.maintains_verify timing plan _ polls initialPositions) fun verified => ?_
  cases verified with
  | none => exact .pure none
  | some remaining => exact .bind (hP.maintains_readClock timing) fun completedAt run hRun => hRun

/-- What was discovered at the start of a run. -/
def discoveredTargets (ops : SessionBrokerOperations β D) (plan : SessionPlan) (b : β) :
    List (ManagedPositionTarget D) :=
  (ops.discoverDaybreakTargets plan b).1.toOption.getD []

/-- The invariant rule of a run. -/
theorem flattenRun_invariant {timing : Timing β} {polls : ℕ} {plan : SessionPlan}
    {now : Timestamp} {managedQuantities : List (String × RawQuantity D)} {b : β}
    (hIdle : IdleInvariant P)
    (hP : ∀ targets, mergeTargets (discoveredTargets ops plan b) managedQuantities = .ok targets →
      FlattenInvariant ops targets P) (hStart : P (.start b)) :
    P (flattenRun ops timing polls plan now managedQuantities b) := by
  have hRest (discovered : List (ManagedPositionTarget D))
      (hDiscovered : discovered = discoveredTargets ops plan b) : Program.Maintains P
        (Program.ofExcept (mergeTargets discovered managedQuantities) >>=
          flattenTargets ops timing polls plan now) := by
    cases hMerge : mergeTargets discovered managedQuantities with
    | error e => exact fun run hRun => hRun
    | ok targets =>
      exact (hP targets (hDiscovered ▸ hMerge)).maintains_flattenTargets timing polls plan now
  have hLogged (answer : Except Exc (List (ManagedPositionTarget D))) (broker : β) :
      P { broker := broker, errors := [], closeOrders := [], submittedQuantities := ∅,
          log := [(.discover answer, broker)], polls := [] } := by
    have hDiscover : (OperationCall.discover answer).Idle := ⟨rfl, rfl, trivial⟩
    exact hIdle.idle hDiscover hStart
  unfold flattenRun flatten
  rw [Program.exec_bind, exec_request]
  simp only [FlattenRun.start]
  cases hAnswer : (ops.discoverDaybreakTargets plan b).1 with
  | ok discovered =>
    refine hRest discovered ?_ _ (hLogged _ _)
    rw [discoveredTargets, hAnswer]
    rfl
  | error e =>
    refine hRest [] ?_ _ (hIdle.unlogged (List.prefix_append _ _) (hLogged _ _))
    rw [discoveredTargets, hAnswer]
    rfl

/-! ### Runs in which nothing was raised -/

/-- Errors are never taken back. -/
theorem flattenInvariant_errors (ops : SessionBrokerOperations β D)
    (targets : List (ManagedPositionTarget D)) :
    FlattenInvariant ops targets fun run => run.errors ≠ [] where
  unlogged hErrors hRun hNone := hRun (List.prefix_nil.mp (hNone ▸ hErrors))
  idle _ hRun := hRun
  poll hRun := hRun
  read _ hCloses hRun hNone := hRun (List.prefix_nil.mp (hNone ▸ hCloses.onlyCloses.errors))

/-- Nothing is taken from the log. -/
theorem flattenInvariant_log (ops : SessionBrokerOperations β D)
    (targets : List (ManagedPositionTarget D)) (start : FlattenLog β D) :
    FlattenInvariant ops targets fun run => start <+: run.log where
  unlogged _ hRun := hRun
  idle _ hRun := hRun.trans (List.prefix_append _ _)
  poll hRun := hRun
  read _ hCloses hRun := (hRun.trans (List.prefix_append _ _)).trans hCloses.onlyCloses.log

/-- The answer of a request that did not raise, or the default, and then an error. -/
theorem orDefault_ok {α : Type} {context : String} {default a : α} {answer : Except Exc α}
    (h : (orDefault context default answer).exec run = (.ok a, run')) :
    (answer = .ok a ∧ run' = run) ∨ a = default ∧ run'.errors ≠ [] ∧ run'.log = run.log := by
  cases answer with
  | ok found =>
    obtain ⟨hFound, rfl⟩ := Prod.mk.inj h
    exact .inl ⟨hFound, rfl⟩
  | error e =>
    obtain ⟨hDefault, rfl⟩ := Prod.mk.inj h
    refine .inr ⟨(Except.ok.inj hDefault).symm, ?_, rfl⟩
    exact List.append_ne_nil_of_right_ne_nil _ (List.cons_ne_nil _ _)

/-- A reading of the targets, with its closes, makes `R` hold of what was read and the log. -/
def ReadingEstablishes (ops : SessionBrokerOperations β D)
    (targets : List (ManagedPositionTarget D))
    (R : List (SessionPosition D) → FlattenLog β D → Prop) : Prop :=
  ∀ ⦃run run' : FlattenRun β D⦄ ⦃broker : β⦄ ⦃positions : List (SessionPosition D)⦄,
    (∃ b, ops.listPositions targets b = (.ok positions, broker)) →
    ClosesAll positions
      { run with broker := broker, log := run.log ++ [(.list targets (.ok positions), broker)] }
      run' →
    R positions run'.log

/-- What every reading with its closes establishes, a verification leaves established. -/
theorem verify_leaves {timing : Timing β} {plan : SessionPlan} {deadline : Timestamp} {polls : ℕ}
    {remaining left : List (SessionPosition D)} {R : List (SessionPosition D) → FlattenLog β D → Prop}
    (hRead : ReadingEstablishes ops targets R)
    (h : (verify ops timing plan targets deadline polls remaining).exec run =
      (.ok (some left), run')) (hErrors : run'.errors = []) (hRun : R remaining run.log) :
    R left run'.log := by
  induction polls generalizing remaining run with
  | zero => cases h
  | succ polls ih =>
    rw [verify, Program.exec_bind, exec_readClock] at h
    simp only at h
    split_ifs at h with hNow
    · rw [Program.exec_bind, exec_request] at h
      simp only at h
      rcases hListed : ops.listPositions targets (timing.clock run.broker).2 with ⟨answer, broker⟩
      rw [hListed] at h
      cases answer with
      | error e =>
        obtain ⟨-, rfl⟩ := Prod.mk.inj h
        exact absurd hErrors (List.append_ne_nil_of_right_ne_nil _ (List.cons_ne_nil _ _))
      | ok positions =>
        cases positions with
        | nil =>
          obtain ⟨hLeft, rfl⟩ := Prod.mk.inj h
          obtain rfl := Option.some.inj (Except.ok.inj hLeft)
          exact hRead ⟨_, hListed⟩ (.nil _)
        | cons position positions =>
          obtain ⟨_, closed, hClosed, h⟩ := Program.exec_bind_ok.mp h
          obtain ⟨after, hExec, hCloses⟩ := closePoll_exec ops (position :: positions) _
          rw [hExec] at hClosed
          obtain ⟨-, rfl⟩ := Prod.mk.inj hClosed
          obtain ⟨_, slept, hSleep, h⟩ := Program.exec_bind_ok.mp h
          obtain ⟨-, rfl⟩ := Prod.mk.inj hSleep
          have hStep : R (position :: positions) after.log := hRead ⟨_, hListed⟩ hCloses
          exact ih h hStep
    · obtain ⟨hLeft, rfl⟩ := Prod.mk.inj h
      obtain rfl := Option.some.inj (Except.ok.inj hLeft)
      exact hRun

/-- The result of a run for some targets: where nothing was raised, its remaining positions are
those of the last reading, and the targets were read before any was closed. -/
theorem flattenTargets_leaves {timing : Timing β} {plan : SessionPlan} {now : Timestamp} {polls : ℕ}
    {result : FlattenResult D} {R : List (SessionPosition D) → FlattenLog β D → Prop}
    (hRead : ReadingEstablishes ops targets R)
    (h : (flattenTargets ops timing polls plan now targets).exec run = (.ok (some result), run')) :
    result.errors = run'.errors ∧
      result.complete = (result.remainingPositions.isEmpty && result.errors.isEmpty) ∧
      (run'.errors = [] → R result.remainingPositions run'.log ∧
        ∃ canceled before positions listed,
          run.log ++ [(.cancel canceled, before)] ++ [(.list targets (.ok positions), listed)] <+:
            run'.log) := by
  rw [flattenTargets, Program.exec_bind, exec_request] at h
  simp only at h
  obtain ⟨canceled, mid, hCanceled, h⟩ := Program.exec_bind_ok.mp h
  have hMid : mid.log = run.log ++ [(.cancel (ops.cancelDaybreakOrders plan run.broker).1,
      (ops.cancelDaybreakOrders plan run.broker).2)] := by
    rcases orDefault_ok hCanceled with ⟨-, rfl⟩ | ⟨-, -, hLog⟩
    · rfl
    · exact hLog
  rw [Program.exec_bind, exec_request] at h
  simp only at h
  obtain ⟨initial, listed, hInitial, h⟩ := Program.exec_bind_ok.mp h
  obtain ⟨_, closed, hClosed, h⟩ := Program.exec_bind_ok.mp h
  obtain ⟨verified, after, hVerify, h⟩ := Program.exec_bind_ok.mp h
  cases verified with
  | none => cases h
  | some remaining =>
    rw [Program.exec_bind, exec_readClock] at h
    obtain ⟨hResult, rfl⟩ := Prod.mk.inj h
    obtain rfl := Option.some.inj (Except.ok.inj hResult)
    refine ⟨rfl, rfl, fun hErrors => ?_⟩
    replace hErrors : after.errors = [] := hErrors
    obtain ⟨run₂, hExec, hCloses⟩ := closeUncovered_exec ops initial listed
    rw [hExec] at hClosed
    obtain ⟨-, rfl⟩ := Prod.mk.inj hClosed
    rcases orDefault_ok hInitial with ⟨hListed, rfl⟩ | ⟨-, hRaised, -⟩
    · have hInitially : ∃ b, ops.listPositions targets b =
          (.ok initial, (ops.listPositions targets mid.broker).2) := ⟨_, Prod.ext hListed rfl⟩
      rw [hListed] at hCloses
      have hLog := (flattenInvariant_log ops targets _).maintains_verify timing plan _ polls
        initial |>.of_exec hVerify hCloses.onlyCloses.log
      simp only [hMid] at hLog
      have hLeaves := verify_leaves hRead hVerify hErrors (hRead hInitially hCloses)
      exact ⟨hLeaves, _, _, initial, _, hLog⟩
    · have hKept := fun hRaised => (flattenInvariant_errors ops targets).maintains_verify timing
        plan _ polls initial |>.of_exec hVerify hRaised
      refine absurd hErrors (hKept fun hNone => hRaised ?_)
      exact List.prefix_nil.mp (hNone ▸ hCloses.onlyCloses.errors)

end Daybreak.Orchestration
