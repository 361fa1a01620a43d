import Daybreak.Execution.Protection

/-! Write-ahead order. Over any history of calls, cancellations of stale entries
included, a submission finds its command stored and announced by the last event of
its execution, whatever the broker answers and however calls end; the event logs
are numbered from one and only grow. -/

namespace Daybreak.Execution

open Numeric DecimalArithmetic Effect Risk

variable {β D : Type} [DecimalArithmetic D]

variable {V : Derivations D} {B : Broker β D} {request : ExecutionRequest D} {now : Timestamp}
  {command protective : BrokerOrderCommand D} {parent : BrokerOrderSnapshot D}
  {repo repo' repo'' : MemoryExecutionRepository D} {w w' : World β D}

/-! ### Event logs only grow -/

/-- Every event log of `repo` is a beginning of the one in `repo'`. -/
def Extends (repo repo' : MemoryExecutionRepository D) : Prop :=
  ∀ executionId, repo.listEvents executionId <+: repo'.listEvents executionId

/-- Every event log is numbered from one without a gap. -/
def Numbered (repo : MemoryExecutionRepository D) : Prop :=
  ∀ executionId, (repo.listEvents executionId).map (·.eventSequence) =
    List.range' 1 (repo.listEvents executionId).length

theorem MemoryExecutionRepository.numbered (repo : MemoryExecutionRepository D) : Numbered repo :=
  fun executionId => (repo.eventLog executionId).contiguous

theorem Extends.refl (repo : MemoryExecutionRepository D) : Extends repo repo :=
  fun _ => List.prefix_refl _

theorem Extends.trans (h : Extends repo repo') (h' : Extends repo' repo'') : Extends repo repo'' :=
  fun executionId => (h executionId).trans (h' executionId)

theorem Extends.of_events (h : repo'.events = repo.events) : Extends repo repo' := by
  intro executionId
  simp [MemoryExecutionRepository.listEvents, MemoryExecutionRepository.eventLog, h]

omit [DecimalArithmetic D] in
theorem EventLog.append_items {log log' : EventLog D} {event : ExecutionEvent D}
    (h : log.append event = .ok log') : log'.items = log.items ++ [event] := by
  unfold EventLog.append at h
  split at h
  · rw [← Except.ok.inj h]
  · cases h

/-- Appending an event adds it to the log of its execution and to no other. -/
theorem appendEvent_listEvents {event : ExecutionEvent D} (h : repo.appendEvent event = .ok repo')
    (executionId : String) :
    repo'.listEvents executionId = repo.listEvents executionId ++
      if executionId = event.executionId then [event] else [] := by
  obtain ⟨log, hLog, hRepo⟩ := Result.bind_eq_ok.mp h
  obtain rfl := Except.ok.inj hRepo
  simp only [MemoryExecutionRepository.listEvents, MemoryExecutionRepository.eventLog,
    Dict.lookup_insert_eq]
  split_ifs with hSame
  · rw [hSame]
    exact EventLog.append_items hLog
  · exact (List.append_nil _).symm

theorem appendEvent_extends {event : ExecutionEvent D} (h : repo.appendEvent event = .ok repo') :
    Extends repo repo' := by
  intro executionId
  rw [appendEvent_listEvents h]
  exact List.prefix_append _ _

/-! ### Audited worlds -/

/-- The command is stored under its id, up to what Python finds equal. -/
def Holds (repo : MemoryExecutionRepository D) (command : BrokerOrderCommand D) : Prop :=
  ∃ stored ∈ repo.getCommandByClientOrderId command.clientOrderId,
    stored.numeric = command.numeric

/-- The last event of its execution announces that the command is submitted. -/
def Announces (repo : MemoryExecutionRepository D) (command : BrokerOrderCommand D) : Prop :=
  ∃ event ∈ (repo.listEvents command.executionId).getLast?,
    event.eventType ∈ [.submitStarted, .protectiveStopSubmitStarted] ∧
      event.clientOrderId = some command.clientOrderId

/-- A submission is made when its command is stored and announced. -/
def WrittenAhead (call : BrokerCall D) (repo : MemoryExecutionRepository D) : Prop :=
  ∀ command ∈ submission call, Holds repo command ∧ Announces repo command

/-- Every request so far found the repository as it should, and the repositories
seen at the requests, and now, extend one another. -/
structure Audited (w : World β D) : Prop where
  writtenAhead : List.Forall₂ WrittenAhead w.log w.moments
  grows : (w.moments ++ [w.repository]).Pairwise Extends

theorem Audited.update (h : Audited w) (hExtends : Extends w.repository repo) :
    Audited { w with repository := repo } := by
  obtain ⟨hMoments, -, hLast⟩ := List.pairwise_append.mp h.grows
  refine ⟨h.writtenAhead, List.pairwise_append.mpr ⟨hMoments, List.pairwise_singleton _ _, ?_⟩⟩
  intro earlier hEarlier last hMem
  obtain rfl := List.mem_singleton.mp hMem
  exact (hLast earlier hEarlier _ List.mem_cons_self).trans hExtends

/-- A request is audited when the repository is as it should be at that moment. -/
theorem Audited.ask {α : Type} {request : β → Result α × β} {entry : Result α → BrokerCall D}
    (h : Audited w) (hAhead : WrittenAhead (entry (request w.broker).1) w.repository) :
    Audited ((ask request entry).exec w).2 := by
  rw [exec_ask]
  refine ⟨List.rel_append h.writtenAhead (.cons hAhead .nil), ?_⟩
  refine List.pairwise_append.mpr ⟨h.grows, List.pairwise_singleton _ _, ?_⟩
  intro earlier hEarlier last hMem
  obtain rfl := List.mem_singleton.mp hMem
  obtain ⟨-, -, hLast⟩ := List.pairwise_append.mp h.grows
  obtain hOld | hNow := List.mem_append.mp hEarlier
  · exact hLast earlier hOld _ List.mem_cons_self
  · obtain rfl := List.mem_singleton.mp hNow
    exact Extends.refl _

/-! ### Programs that keep the audit -/

theorem ask_maintains {α : Type} {request : β → Result α × β} {entry : Result α → BrokerCall D}
    (hFree : ∀ answer, submission (entry answer) = none) :
    Program.Maintains Audited (ask request entry) := by
  intro w hw
  apply hw.ask
  intro command hCommand
  rw [hFree] at hCommand
  cases hCommand

theorem lookup_maintains (B : Broker β D) (id : String) : Program.Maintains Audited (B.lookup id) :=
  ask_maintains fun _ => rfl

theorem cancel_maintains (B : Broker β D) (id : String) : Program.Maintains Audited (B.cancel id) :=
  ask_maintains fun _ => rfl

theorem read_maintains (B : Broker β D) (id : String) : Program.Maintains Audited (B.read id) :=
  ask_maintains fun _ => rfl

theorem updateRepository_maintains
    {f : MemoryExecutionRepository D → Result (MemoryExecutionRepository D)}
    (h : ∀ repo repo', f repo = .ok repo' → Extends repo repo') :
    Program.Maintains Audited (updateRepository f : Service β D Unit) := by
  intro w hw
  rw [exec_updateRepository]
  split
  · next hRepo => exact hw.update (h _ _ hRepo)
  · exact hw

theorem event_maintains (V : Derivations D) (request : ExecutionRequest D) (timestamp : Timestamp)
    (fields : EventFields D) :
    Program.Maintains Audited (event V request timestamp fields : Service β D Unit) :=
  updateRepository_maintains fun _ _ h => appendEvent_extends h

theorem saveSnapshot_maintains (snapshot : BrokerOrderSnapshot D) :
    Program.Maintains Audited (saveSnapshot snapshot : Service β D Unit) :=
  .modify fun _ hw => hw.update (.of_events rfl)

theorem recordReservation_maintains (V : Derivations D) (request : ExecutionRequest D)
    (order : BrokerOrderSnapshot D) (timestamp : Timestamp) :
    Program.Maintains Audited
      (recordReservationFromOrder V request order timestamp : Service β D Unit) := by
  unfold recordReservationFromOrder
  split
  · exact .pure _
  · exact .modify fun _ hw => ⟨hw.writtenAhead, hw.grows⟩

theorem saveRequest_events (h : repo.saveRequest request = .ok repo') :
    repo'.events = repo.events := by
  obtain ⟨_, -, hRepo⟩ := Result.bind_eq_ok.mp h
  rw [← Except.ok.inj hRepo]

theorem saveCommand_events (h : repo.saveCommand command = .ok repo') :
    repo'.events = repo.events := by
  obtain ⟨_, -, hRepo⟩ := Result.bind_eq_ok.mp h
  rw [← Except.ok.inj hRepo]

theorem saveResult_events {res : ExecutionResult D} (h : repo.saveResult res = .ok repo') :
    repo'.events = repo.events := by
  obtain ⟨_, -, hRepo⟩ := Result.bind_eq_ok.mp h
  rw [← Except.ok.inj hRepo]

theorem claimTradeUpdate_events {eventId executionId rawEventHash : String} {claimed : Bool}
    (h : repo.claimTradeUpdate eventId executionId rawEventHash = .ok (claimed, repo')) :
    repo'.events = repo.events := by
  unfold MemoryExecutionRepository.claimTradeUpdate at h
  split at h
  · split at h
    · obtain ⟨-, rfl⟩ := Prod.mk.inj (Except.ok.inj h)
      rfl
    · cases h
  · obtain ⟨-, rfl⟩ := Prod.mk.inj (Except.ok.inj h)
    rfl

theorem claimTradeUpdate_maintains (eventId executionId rawEventHash : String) :
    Program.Maintains Audited
      (claimTradeUpdate eventId executionId rawEventHash : Service β D Bool) := by
  intro w hw
  simp only [claimTradeUpdate, Program.exec_bind, Program.exec_get, Program.exec_ofExcept]
  cases hClaim : w.repository.claimTradeUpdate eventId executionId rawEventHash with
  | ok claim => exact hw.update (.of_events (claimTradeUpdate_events hClaim))
  | error e => exact hw

theorem result_maintains (V : Derivations D) (request : ExecutionRequest D)
    (timestamp : Timestamp) (fields : ResultFields D) :
    Program.Maintains Audited
      (result V request timestamp fields : Service β D (ExecutionResult D)) := by
  intro w hw
  unfold result
  rw [exec_getRepository_bind]
  refine Program.Maintains.bind (.ofExcept _) (fun res => ?_) w hw
  exact .bind (updateRepository_maintains fun _ _ h => .of_events (saveResult_events h))
    fun _ => .pure res

/-! ### Stored and announced -/

theorem Holds.of_commands (hSame : repo'.commands = repo.commands) (h : Holds repo command) :
    Holds repo' command := by
  obtain ⟨stored, hStored, hNumeric⟩ := h
  refine ⟨stored, ?_, hNumeric⟩
  rw [MemoryExecutionRepository.getCommandByClientOrderId, hSame]
  exact hStored

/-- A saved command is held. -/
theorem saveCommand_holds (B : Broker β D)
    (h : (updateRepository fun repo => repo.saveCommand command).exec w = (.ok (), w')) :
    Holds w'.repository command := by
  obtain ⟨_, hError, -⟩ | ⟨-, held, hSaves, hAdv⟩ := saveCommand_cases B h
  · cases hError
  · obtain ⟨stored, hStored, hNumeric⟩ := hSaves.lookup
    rw [← hAdv.commands] at hStored
    exact ⟨stored, hStored, hNumeric⟩

/-- An event touches no command. -/
theorem event_commands {timestamp : Timestamp} {fields : EventFields D} {r : Result Unit}
    (h : (event V request timestamp fields).exec w = (r, w')) :
    w'.repository.commands = w.repository.commands := by
  obtain ⟨_, _, hExec, hCore⟩ := event_returns V request timestamp fields w
  obtain ⟨-, rfl⟩ := Prod.mk.inj (hExec.symm.trans h)
  exact congrArg Core.commands hCore

/-- An event of a submission announces it. -/
theorem event_announces {timestamp : Timestamp} {fields : EventFields D}
    (hType : fields.eventType ∈ [.submitStarted, .protectiveStopSubmitStarted])
    (hOrder : fields.order = none) (hCommand : fields.command = some command)
    (hExecution : command.executionId = request.executionId)
    (h : (event V request timestamp fields).exec w = (.ok (), w')) :
    Announces w'.repository command := by
  rw [event, exec_updateRepository] at h
  split at h
  · next hAppend =>
    obtain ⟨-, rfl⟩ := Prod.mk.inj h
    have hOwn : request.executionId =
        (fields.build V w.repository request timestamp).executionId := rfl
    refine ⟨fields.build V w.repository request timestamp, ?_, hType, ?_⟩
    · rw [hExecution, appendEvent_listEvents hAppend, if_pos hOwn, List.getLast?_append]
      rfl
    · simp [EventFields.build, hOrder, hCommand]
  · cases (Prod.mk.inj h).1

/-- A command that is held and announced may be submitted. -/
theorem submit_audited (h : Audited w) (hHolds : Holds w.repository command)
    (hAnnounces : Announces w.repository command) :
    Audited ((B.submit command).exec w).2 := by
  apply h.ask
  intro sent hSent
  obtain rfl := Option.some.inj hSent
  exact ⟨hHolds, hAnnounces⟩

theorem findOrSubmit_audited (h : Audited w) (hHolds : Holds w.repository command)
    (hAnnounces : Announces w.repository command) :
    Audited ((findOrSubmit B command).exec w).2 := by
  refine Program.bind_maintains (lookup_maintains B command.clientOrderId w h) ?_
  intro answer t hLookup ht
  -- The lookup leaves the repository as it is.
  have hSame : t.repository = w.repository := by
    obtain ⟨-, rfl⟩ := Prod.mk.inj hLookup
    rw [Broker.lookup, exec_ask]
  split
  · exact ht
  · rw [← hSame] at hHolds hAnnounces
    exact submit_audited ht hHolds hAnnounces
  · exact ht

/-! ### The service -/

theorem placeStop_audited (h : Audited w) (hHolds : Holds w.repository protective)
    (hAnnounces : Announces w.repository protective) :
    Audited ((placeStop V B request now command parent protective).exec w).2 := by
  refine Program.bind_maintains (findOrSubmit_audited h hHolds hAnnounces) fun order t _ ht => ?_
  split
  · exact ht
  · exact ((saveSnapshot_maintains order).bind fun _ => (event_maintains _ _ _ _).bind fun _ =>
      result_maintains _ _ _ _) t ht

/-- The stop is saved, then announced, then submitted. -/
theorem protectPartialFill_maintains (V : Derivations D) (B : Broker β D)
    (request : ExecutionRequest D) (update : TradeUpdate D) (command : BrokerOrderCommand D) :
    Program.Maintains Audited (protectPartialFill V B request update command) := by
  refine (cancel_maintains B _).bind fun _ => (read_maintains B _).bind fun parent =>
    (saveSnapshot_maintains parent).bind fun _ => ?_
  intro w hw
  split
  · split
    · exact hw
    · exact result_maintains _ _ _ _ w hw
  split
  · exact hw
  split
  · exact hw
  split
  · exact hw
  refine Program.bind_maintains (Program.Maintains.ofExcept _ w hw) fun protective t hBuild ht => ?_
  rw [Program.exec_ofExcept] at hBuild
  obtain ⟨-, reservation, stop, hash, -, -, hFields⟩ :=
    buildPartialFillProtectiveStop_eq_ok (Prod.mk.inj hBuild).1
  have hExecution : protective.executionId = request.executionId := by rw [hFields]; rfl
  refine Program.bind_maintains (updateRepository_maintains
    (fun _ _ hSave => .of_events (saveCommand_events hSave)) t ht) fun _ u hSave hu => ?_
  refine Program.bind_maintains (event_maintains _ _ _ _ u hu) fun _ v hEvent hv => ?_
  exact placeStop_audited hv ((saveCommand_holds B hSave).of_commands (event_commands hEvent))
    (event_announces (by simp) rfl rfl hExecution hEvent)

theorem handleTradeUpdate_maintains (V : Derivations D) (B : Broker β D)
    (request : ExecutionRequest D) (update : TradeUpdate D) :
    Program.Maintains Audited (handleTradeUpdate V B request update) := by
  refine (claimTradeUpdate_maintains _ _ _).bind fun claimed w hw => ?_
  rw [exec_getRepository_bind]
  split
  · exact result_maintains _ _ _ _ w hw
  split
  · exact result_maintains _ _ _ _ w hw
  refine (saveSnapshot_maintains _).bind (fun _ => (event_maintains _ _ _ _).bind fun _ =>
    (recordReservation_maintains _ _ _ _).bind fun _ t ht => ?_) w hw
  split
  · refine (event_maintains _ _ _ _).bind (fun _ =>
      (protectPartialFill_maintains _ _ _ _ _).tryCatch fun e u hu => ?_) t ht
    split
    · exact result_maintains _ _ _ _ u hu
    · exact hu
  · exact result_maintains _ _ _ _ t ht

theorem acknowledge_maintains (V : Derivations D) (B : Broker β D) (request : ExecutionRequest D)
    (now : Timestamp) (command : BrokerOrderCommand D) (order : BrokerOrderSnapshot D)
    (success : ExecutionOutcome) :
    Program.Maintains Audited (acknowledge V B request now command order success) := by
  refine (saveSnapshot_maintains _).bind fun _ => (event_maintains _ _ _ _).bind fun _ =>
    (recordReservation_maintains _ _ _ _).bind fun _ w hw => ?_
  split
  · exact result_maintains _ _ _ _ w hw
  split
  · exact result_maintains _ _ _ _ w hw
  split
  · exact result_maintains _ _ _ _ w hw
  split
  · exact handleTradeUpdate_maintains _ _ _ _ w hw
  · exact result_maintains _ _ _ _ w hw

/-- A held command is announced, then submitted. -/
theorem send_audited (h : Audited w) (hHolds : Holds w.repository command)
    (hExecution : command.executionId = request.executionId) :
    Audited ((send V B request now command).exec w).2 := by
  refine Program.bind_maintains (event_maintains _ _ _ _ w h) fun _ t hEvent ht => ?_
  have hSubmit : Audited ((B.submit command).exec t).2 :=
    submit_audited ht (hHolds.of_commands (event_commands hEvent))
      (event_announces (by simp) rfl rfl hExecution hEvent)
  refine Program.bind_maintains hSubmit fun answer u _ hu => ?_
  split
  · exact acknowledge_maintains _ _ _ _ _ _ _ u hu
  · refine (lookup_maintains B _).attempt.bind (fun found v hv => ?_) u hu
    split
    · exact acknowledge_maintains _ _ _ _ _ _ _ v hv
    · split
      · exact ((event_maintains _ _ _ _).bind fun _ => result_maintains _ _ _ _) v hv
      · exact hv
  · exact result_maintains _ _ _ _ u hu
  · exact hu

/-- The entry is saved, then looked up, then announced and submitted. -/
theorem submitCommand_maintains (V : Derivations D) (B : Broker β D)
    (request : ExecutionRequest D) (now : Timestamp)
    (hExecution : command.executionId = request.executionId) :
    Program.Maintains Audited (submitCommand V B request now command) := by
  intro w hw
  unfold submitCommand
  rw [exec_getRepository_bind]
  split
  · exact result_maintains _ _ _ _ w hw
  refine Program.bind_maintains (updateRepository_maintains
    (fun _ _ hSave => .of_events (saveCommand_events hSave)) w hw) fun _ t hSave ht => ?_
  refine Program.bind_maintains (event_maintains _ _ _ _ t ht) fun _ u hFirst hu => ?_
  refine Program.bind_maintains (event_maintains _ _ _ _ u hu) fun _ v hSecond hv => ?_
  refine Program.bind_maintains (lookup_maintains B _ v hv) fun answer x hLookup hx => ?_
  have hHolds : Holds x.repository command := by
    have hSaved := saveCommand_holds B hSave
    obtain ⟨-, rfl⟩ := Prod.mk.inj hLookup
    rw [Broker.lookup, exec_ask]
    exact hSaved.of_commands ((event_commands hSecond).trans (event_commands hFirst))
  split
  · exact acknowledge_maintains _ _ _ _ _ _ _ x hx
  · exact send_audited hx hHolds hExecution
  · exact result_maintains _ _ _ _ x hx
  · exact hx

theorem submit_maintains (V : Derivations D) (B : Broker β D) (request : ExecutionRequest D)
    (now : Timestamp) : Program.Maintains Audited (submit V B request now) := by
  refine (updateRepository_maintains fun _ _ h => .of_events (saveRequest_events h)).bind fun _ =>
    (event_maintains _ _ _ _).bind fun _ w hw => ?_
  refine Program.bind_maintains (Program.Maintains.ofExcept _ w hw) fun screened t hScreen ht => ?_
  rw [Program.exec_ofExcept] at hScreen
  have hScreened := (Prod.mk.inj hScreen).1
  split
  · exact ((event_maintains _ _ _ _).bind fun _ => result_maintains _ _ _ _) t ht
  · next command =>
    obtain ⟨_, _, _, _, _, -, hFields⟩ := buildEntryCommand_fields (screen_buys hScreened)
    have hExecution : command.executionId = request.executionId := by rw [hFields]; rfl
    exact submitCommand_maintains V B request now hExecution t ht

theorem cancelStaleEntry_maintains (V : Derivations D) (B : Broker β D)
    (request : ExecutionRequest D) (order : BrokerOrderSnapshot D) (now : Timestamp) :
    Program.Maintains Audited (cancelStaleEntry V B request order now) := by
  intro w hw
  unfold cancelStaleEntry
  simp only
  split
  · exact hw
  split
  · exact hw
  exact ((cancel_maintains B _).bind fun _ => (event_maintains _ _ _ _).bind fun _ =>
    .pure _) w hw

/-! ### Histories -/

inductive Operation (D : Type) [DecimalArithmetic D] where
  | call (serviceCall : ServiceCall D)
  | cancelStaleEntry (request : ExecutionRequest D) (order : BrokerOrderSnapshot D)
      (now : Timestamp)

def Operation.run (V : Derivations D) (B : Broker β D) :
    Operation D → Service β D (ExecutionResult D ⊕ Bool)
  | .call serviceCall => do
    let res ← serviceCall.run V B
    return .inl res
  | .cancelStaleEntry request order now => do
    let canceled ← Execution.cancelStaleEntry V B request order now
    return .inr canceled

theorem Operation.maintains (V : Derivations D) (B : Broker β D) (operation : Operation D) :
    Program.Maintains Audited (operation.run V B) := by
  cases operation with
  | call serviceCall =>
    cases serviceCall with
    | submit request now => exact (submit_maintains V B request now).bind fun _ => .pure _
    | handleTradeUpdate request update =>
      exact (handleTradeUpdate_maintains V B request update).bind fun _ => .pure _
  | cancelStaleEntry request order now =>
    exact (cancelStaleEntry_maintains V B request order now).bind fun _ => .pure _

/-- Over every history of operations, whatever the broker answers, a submission was
made when its command was stored and announced, and the event logs, numbered from
one, only grew. -/
theorem submissions_written_ahead (V : Derivations D) (B : Broker β D) (b : β) (w : World β D)
    (records : List (Performed (Operation D) (World β D) PyError (ExecutionResult D ⊕ Bool)))
    (h : History (Operation.run V B) BrokerMoves (.initial b) records w) :
    List.Forall₂ WrittenAhead w.log w.moments ∧ (w.moments ++ [w.repository]).Pairwise Extends ∧
      ∀ repo ∈ w.moments ++ [w.repository], Numbered repo := by
  have hAudited : Audited w := by
    apply h.invariant Audited ⟨.nil, List.pairwise_singleton _ _⟩
    · intro operation s r t hs hExec
      have ht := operation.maintains V B s hs
      rw [hExec] at ht
      exact ht
    · intro s t hs hMoves
      rw [hMoves]
      exact ⟨hs.writtenAhead, hs.grows⟩
  exact ⟨hAudited.writtenAhead, hAudited.grows, fun repo _ => repo.numbered⟩

theorem Operation.call_after (V : Derivations D) (B : Broker β D) (serviceCall : ServiceCall D)
    (w : World β D) :
    (Performed.of (Operation.run V B) (.call serviceCall) w).after =
      ((serviceCall.run V B).exec w).2 := by
  rw [Performed.of, Operation.run, Program.exec_bind]
  split
  · next h => rw [h]; rfl
  · next h => rw [h]

/-- The sample entry is submitted, then the stop for its partial fill. -/
theorem afterProtection_written_ahead :
    ∃ records, History (Operation.run sampleDerivations (ledger Decimal true)) BrokerMoves
        (.initial []) records afterProtection ∧
      (submitted afterProtection.log).length = 2 ∧
      List.Forall₂ WrittenAhead afterProtection.log afterProtection.moments := by
  have hEntry : History (Operation.run sampleDerivations (ledger Decimal true)) BrokerMoves
      (.initial []) _ _ :=
    History.start.next (.call (.submit sampleExecution sampleExecution.requestedAt))
  rw [Operation.call_after] at hEntry
  have hFilled := hEntry.elapse (show BrokerMoves afterEntry afterPartialFill from rfl)
  have hProtected := hFilled.next (.call (.handleTradeUpdate sampleExecution partialFill))
  rw [Operation.call_after] at hProtected
  exact ⟨_, hProtected, by decide +kernel,
    (submissions_written_ahead _ _ _ afterProtection _ hProtected).1⟩

end Daybreak.Execution
