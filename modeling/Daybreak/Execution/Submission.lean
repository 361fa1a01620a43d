import Daybreak.Effect.History
import Daybreak.Execution.Ledger
import Daybreak.Execution.Paths

/-! At-most-once submission. In every path a submission directly follows a lookup
of its id that found nothing, and no id is sent twice: the entry is a buy that is
stored under its id, the protective stop a sell. Against a broker that finds what
it has accepted, no history of calls makes it accept an id twice. -/

namespace Daybreak.Execution

open Numeric DecimalArithmetic Effect Risk

variable {β D : Type} [DecimalArithmetic D]

/-! ### Calls and their histories -/

inductive ServiceCall (D : Type) [DecimalArithmetic D] where
  | submit (request : ExecutionRequest D) (now : Timestamp)
  | handleTradeUpdate (request : ExecutionRequest D) (update : TradeUpdate D)

def ServiceCall.request : ServiceCall D → ExecutionRequest D
  | .submit request _ => request
  | .handleTradeUpdate request _ => request

def ServiceCall.run (V : Derivations D) (B : Broker β D) :
    ServiceCall D → Service β D (ExecutionResult D)
  | .submit request now => Execution.submit V B request now
  | .handleTradeUpdate request update => Execution.handleTradeUpdate V B request update

/-- Between calls only the broker moves. -/
def BrokerMoves (w w' : World β D) : Prop := w' = { w with broker := w'.broker }

/-- The broker moves without accepting an order. -/
structure Idles (accepted : β → List String) (w w' : World β D) : Prop where
  moves : BrokerMoves w w'
  accepted_eq : accepted w'.broker = accepted w.broker

/-! ### Submissions in a trace -/

variable {V : Derivations D} {B : Broker β D} {request : ExecutionRequest D}
  {update : TradeUpdate D} {now : Timestamp} {command protective : BrokerOrderCommand D}
  {order parent : BrokerOrderSnapshot D} {success : ExecutionOutcome} {held held' : Commands D}
  {claims claims' : Claims} {calls : List (BrokerCall D)} {r : Result (ExecutionResult D)}
  {w w' : World β D}

def submission : BrokerCall D → Option (BrokerOrderCommand D)
  | .submit command _ => some command
  | _ => none

/-- The commands submitted, oldest first. -/
def submitted (calls : List (BrokerCall D)) : List (BrokerOrderCommand D) :=
  calls.filterMap submission

/-- Every submission is preceded by a lookup of its id that found nothing. -/
def LookedUpFirst (calls : List (BrokerCall D)) : Prop :=
  ∀ earlier later command answer, calls = earlier ++ .submit command answer :: later →
    .lookup command.clientOrderId (.error .brokerNotFound) ∈ earlier

/-- After a submission that raised a transport error its id is not sent again. -/
def NeverResent (calls : List (BrokerCall D)) : Prop :=
  ∀ earlier later command transient,
    calls = earlier ++ .submit command (.error (.brokerTransportError transient)) :: later →
    ∀ again ∈ submitted later, again.clientOrderId ≠ command.clientOrderId

/-- Each submission stands right after the lookup that allows it. -/
inductive Guarded : List (BrokerCall D) → Prop
  | nil : Guarded []
  | submit {calls : List (BrokerCall D)} (command : BrokerOrderCommand D)
      (answer : Result (BrokerOrderSnapshot D)) (rest : Guarded calls) :
    Guarded (.lookup command.clientOrderId (.error .brokerNotFound) ::
      .submit command answer :: calls)
  | other {calls : List (BrokerCall D)} (call : BrokerCall D) (free : submission call = none)
      (rest : Guarded calls) : Guarded (call :: calls)

theorem Guarded.lookedUpFirst (h : Guarded calls) :
    LookedUpFirst calls := by
  induction h with
  | nil => simp [LookedUpFirst]
  | submit command answer _ ih =>
    intro earlier later c a hCalls
    match earlier with
    | [] => simp at hCalls
    | [first] =>
      simp only [List.cons_append, List.nil_append, List.cons.injEq,
        BrokerCall.submit.injEq] at hCalls
      obtain ⟨rfl, ⟨rfl, -⟩, -⟩ := hCalls
      exact List.mem_cons_self
    | first :: second :: earlier =>
      simp only [List.cons_append, List.cons.injEq] at hCalls
      have hMem := ih earlier later c a hCalls.2.2
      exact List.mem_cons_of_mem _ (List.mem_cons_of_mem _ hMem)
  | other call hFree _ ih =>
    intro earlier later c a hCalls
    match earlier with
    | [] =>
      obtain ⟨rfl, -⟩ := List.cons.inj hCalls
      cases hFree
    | first :: earlier =>
      exact List.mem_cons_of_mem _ (ih earlier later c a (List.cons.inj hCalls).2)

theorem neverResent_of_nodup (h : ((submitted calls).map (·.clientOrderId)).Nodup) :
    NeverResent calls := by
  rintro earlier later command transient rfl again hAgain hSame
  have hCalls : submitted (earlier ++
      .submit command (.error (.brokerTransportError transient)) :: later) =
      submitted earlier ++ command :: submitted later := by
    simp [submitted, submission]
  rw [hCalls, List.map_append, List.map_cons] at h
  have hNotMem := (List.nodup_cons.mp h.of_append_right).1
  exact hNotMem (hSame ▸ List.mem_map_of_mem hAgain)

/-! ### What the broker accepts along a trace -/

/-- A request other than a submission accepts nothing. -/
theorem accepted_frame {accepted : β → List String} (finds : B.FindsAccepted accepted)
    {call : BrokerCall D} {b b' : β} (hFree : submission call = none) (h : B.Answers call b b') :
    accepted b' = accepted b := by
  cases call with
  | lookup id answer => exact (congrArg (accepted ·.2) h).symm.trans (finds.lookup_frame id b)
  | submit command answer => cases hFree
  | cancel id answer => exact (congrArg (accepted ·.2) h).symm.trans (finds.cancel_frame id b)
  | read id answer => exact (congrArg (accepted ·.2) h).symm.trans (finds.read_frame id b)

/-- Guarded submissions keep the accepted ids distinct: the lookup before each
one shows that its id is new. -/
theorem Guarded.accepted_nodup {accepted : β → List String} (finds : B.FindsAccepted accepted)
    (h : Guarded calls) {b b' : β} (hPerforms : B.Performs calls b b')
    (hNodup : (accepted b).Nodup) :
    (accepted b').Nodup := by
  induction h generalizing b with
  | nil =>
    obtain rfl := hPerforms
    exact hNodup
  | submit command answer _ ih =>
    obtain ⟨b₁, hLookup, b₂, hSubmit, hRest⟩ := hPerforms
    have hNew := finds.lookup_finds _ _ _ hLookup
    have hSame : accepted b₁ = accepted b :=
      (congrArg (accepted ·.2) hLookup).symm.trans (finds.lookup_frame _ b)
    refine ih hRest ?_
    have hAfter : accepted (B.submitOrder command b₁).2 = accepted b₂ :=
      congrArg (accepted ·.2) hSubmit
    obtain hKept | hAdded := finds.submit_frame command b₁
    · rw [← hAfter, hKept, hSame]
      exact hNodup
    · rw [← hAfter, hAdded, hSame]
      exact List.nodup_cons.mpr ⟨hNew, hNodup⟩
  | other call hFree _ ih =>
    obtain ⟨b₁, hCall, hRest⟩ := hPerforms
    exact ih hRest ((accepted_frame finds hFree hCall).symm ▸ hNodup)

/-! ### The paths of one call -/

/-- A protective stop is a sell, saved before it is sent. -/
structure SendsStop (held : Commands D) (calls : List (BrokerCall D)) : Prop where
  guarded : Guarded calls
  length_le_one : (submitted calls).length ≤ 1
  sells : ∀ c ∈ submitted calls, c.side = .sell ∧ ∃ held', Saves held c held'

theorem SendsStop.none (held : Commands D) (h : ∀ call ∈ calls, submission call = .none) :
    SendsStop held calls where
  guarded := by
    induction calls with
    | nil => exact .nil
    | cons call calls ih =>
      obtain ⟨hCall, hCalls⟩ := List.forall_mem_cons.mp h
      exact .other call hCall (ih hCalls)
  length_le_one := by
    rw [submitted, List.filterMap_eq_nil_iff.mpr h]
    exact Nat.zero_le 1
  sells := by
    rw [submitted, List.filterMap_eq_nil_iff.mpr h]
    simp

theorem SendsStop.cons {call : BrokerCall D} (free : submission call = .none)
    (h : SendsStop held calls) : SendsStop held (call :: calls) := by
  have hSame : submitted (call :: calls) = submitted calls := List.filterMap_cons_none free
  exact ⟨.other call free h.guarded, hSame ▸ h.length_le_one, hSame ▸ h.sells⟩

theorem FindRun.sendsStop {r : Result (BrokerOrderSnapshot D)} (h : FindRun command calls r)
    (hSell : command.side = .sell) (hSaved : Saves held command held') :
    SendsStop held calls := by
  cases h with
  | found order => exact .none held (by simp [submission])
  | raises => exact .none held (by simp [submission])
  | submits r =>
    have hSubmitted : submitted [.lookup command.clientOrderId (.error .brokerNotFound),
        .submit command r] = [command] := rfl
    refine ⟨.submit command r .nil, by simp [hSubmitted], ?_⟩
    rw [hSubmitted]
    rintro c hc
    obtain rfl := List.mem_singleton.mp hc
    exact ⟨hSell, held', hSaved⟩

theorem StopRun.find (h : StopRun request command protective parent calls r) :
    ∃ answer, FindRun protective calls answer := by
  cases h with
  | raises find => exact ⟨_, find⟩
  | mismatched find _ => exact ⟨_, find⟩
  | placed find _ _ => exact ⟨_, find⟩

theorem HandleRun.sendsStop (h : HandleRun V request update held claims calls held' claims' r) :
    SendsStop held calls := by
  cases h with
  | claimRefused => exact .none held (by simp)
  | unknownAgain => exact .none held (by simp)
  | redelivered => exact .none held (by simp)
  | unknown => exact .none held (by simp)
  | passed => exact .none held (by simp)
  | protects _ _ _ run _ =>
    cases run with
    | cancelRaises => exact .none held (by simp [submission])
    | readRaises => exact .none held (by simp [submission])
    | filled => exact .none held (by simp [submission])
    | unplaced => exact .none held (by simp [submission])
    | sends _ _ built saved stop =>
      obtain ⟨answer, hFind⟩ := stop.find
      obtain ⟨-, _, _, _, -, -, hFields⟩ := buildPartialFillProtectiveStop_eq_ok built
      have hSell := (congrArg CommandFields.side hFields)
      exact (hFind.sendsStop hSell saved).cons rfl |>.cons rfl

theorem AcknowledgeRun.sendsStop
    (h : AcknowledgeRun V request command order success held claims calls held' claims' r) :
    SendsStop held calls := by
  cases h with
  | mismatched => exact .none held (by simp)
  | terminal => exact .none held (by simp)
  | suspended => exact .none held (by simp)
  | handles _ _ _ _ run => exact run.sendsStop
  | settled => exact .none held (by simp)

/-- After the lookup that found nothing, an entry is sent once, and at most a
stop after it. -/
theorem SendRun.sendsStop (h : SendRun V request command held claims calls held' claims' r) :
    ∃ answer rest, calls = .submit command answer :: rest ∧ SendsStop held rest := by
  cases h with
  | acknowledged run => exact ⟨_, _, rfl, run.sendsStop⟩
  | permanent => exact ⟨_, _, rfl, .none held (by simp)⟩
  | submitRaises => exact ⟨_, _, rfl, .none held (by simp)⟩
  | found run => exact ⟨_, _, rfl, run.sendsStop.cons rfl⟩
  | ambiguous e => exact ⟨_, _, rfl, .none held (by simp [submission])⟩
  | lookupRaises e => exact ⟨_, _, rfl, .none held (by simp [submission])⟩

/-- A trace whose submissions are looked up and have distinct ids. -/
structure SendsOnce (calls : List (BrokerCall D)) : Prop where
  guarded : Guarded calls
  nodup : ((submitted calls).map (·.clientOrderId)).Nodup

theorem SendsStop.once (h : SendsStop held calls) :
    SendsOnce calls where
  guarded := h.guarded
  nodup := by
    have hLength := h.length_le_one
    generalize submitted calls = commands at hLength ⊢
    match commands with
    | [] => exact List.nodup_nil
    | [c] => exact List.nodup_singleton _
    | _ :: _ :: _ => simp at hLength

/-- A stop that is saved beside a stored buy has another id. -/
theorem Saves.clientOrderId_ne {held'' : Commands D} {entry stop : BrokerOrderCommand D}
    (hEntry : Saves held entry held') (hStop : Saves held' stop held'') (hBuy : entry.side = .buy)
    (hSell : stop.side = .sell) :
    entry.clientOrderId ≠ stop.clientOrderId := by
  intro hSame
  obtain ⟨stored, hStored, hStoredEntry⟩ := hEntry.lookup
  have hStoredStop := hStop.same stored (hSame ▸ hStored)
  have hSide : entry.side = stop.side :=
    congrArg (·.side) (hStoredEntry.symm.trans hStoredStop)
  rw [hBuy, hSell] at hSide
  cases hSide

theorem screen_buys (h : screen V request now = .ok (.inr command)) :
    buildEntryCommand V request now = .ok command := by
  unfold screen at h
  simp only at h
  split at h
  · cases Except.ok.inj h
  split at h
  · cases Except.ok.inj h
  split at h
  · next hBuild => rw [hBuild, Sum.inr.inj (Except.ok.inj h)]
  · split at h
    · cases Except.ok.inj h
    · cases h

theorem SubmitRun.sendsOnce (h : SubmitRun V request now held claims calls held' claims' r) :
    SendsOnce calls := by
  cases h with
  | raises e => exact (SendsStop.none held (by simp)).once
  | refused => exact (SendsStop.none held (by simp)).once
  | conflict => exact (SendsStop.none held (by simp)).once
  | lookupFails => exact (SendsStop.none held (by simp [submission])).once
  | found _ _ run => exact (run.sendsStop.cons rfl).once
  | sends screened saved run =>
    obtain ⟨answer, rest, rfl, hStop⟩ := run.sendsStop
    obtain ⟨_, -, -, hBuy, -⟩ := buildEntryCommand_eq_ok (screen_buys screened)
    refine ⟨.submit _ answer hStop.guarded, List.nodup_cons.mpr ⟨?_, hStop.once.nodup⟩⟩
    intro hAgain
    obtain ⟨stop, hMem, hSame⟩ := List.mem_map.mp hAgain
    obtain ⟨hSell, _, hSaved⟩ := hStop.sells stop hMem
    exact saved.clientOrderId_ne hSaved hBuy hSell hSame.symm

theorem ServiceCall.sendsOnce (call : ServiceCall D) (h : (call.run V B).exec w = (r, w')) :
    ∃ calls, w'.log = w.log ++ calls ∧ B.Performs calls w.broker w'.broker ∧ SendsOnce calls := by
  cases call with
  | submit request now =>
    obtain ⟨calls, _, _, hRun, hAdv⟩ := submit_run h
    exact ⟨calls, hAdv.log, hAdv.performs, hRun.sendsOnce⟩
  | handleTradeUpdate request update =>
    obtain ⟨calls, _, _, hRun, hAdv⟩ := handleTradeUpdate_run h
    exact ⟨calls, hAdv.log, hAdv.performs, hRun.sendsStop.once⟩

/-! ### Histories -/

/-- Over every history of calls the broker accepts an order id at most once, and
within a call each submission was looked up and is not repeated. -/
theorem submission_at_most_once (V : Derivations D) (B : Broker β D) (accepted : β → List String)
    (finds : B.FindsAccepted accepted) (w₀ w : World β D) (hStart : (accepted w₀.broker).Nodup)
    (records : List (Performed (ServiceCall D) (World β D) PyError (ExecutionResult D)))
    (h : History (ServiceCall.run V B) (Idles accepted) w₀ records w) :
    (accepted w.broker).Nodup ∧ ∀ record ∈ records, ∃ calls,
      record.after.log = record.before.log ++ calls ∧ LookedUpFirst calls ∧ NeverResent calls := by
  constructor
  · apply h.invariant (fun w => (accepted w.broker).Nodup) hStart
    · intro call s r t hNodup hExec
      obtain ⟨calls, -, hPerforms, hOnce⟩ := call.sendsOnce hExec
      exact hOnce.guarded.accepted_nodup finds hPerforms hNodup
    · intro s t hNodup hIdles
      rw [hIdles.accepted_eq]
      exact hNodup
  · intro record hRecord
    obtain ⟨later, earlier, rfl⟩ := List.append_of_mem hRecord
    obtain ⟨-, hExec⟩ := h.prior
    obtain ⟨calls, hLog, -, hOnce⟩ := record.call.sendsOnce hExec
    exact ⟨calls, hLog, hOnce.guarded.lookedUpFirst, neverResent_of_nodup hOnce.nodup⟩

/-- Nothing was sent or stored yet. -/
def World.initial (b : β) : World β D := ⟨b, .empty, [], [], [], []⟩

/-- The first submission is accepted and its answer lost; the second finds it. -/
def afterTwoSubmissions : World (List (BrokerOrderSnapshot Decimal)) Decimal :=
  let call := submit sampleDerivations (ledger Decimal false) sampleExecution
    sampleExecution.requestedAt
  (call.exec (call.exec (.initial [])).2).2

theorem afterTwoSubmissions_accepted_once :
    acceptedIds afterTwoSubmissions.broker = ["DB-20260803-e4eec6448d10579e-AAAA"] ∧
      (acceptedIds afterTwoSubmissions.broker).Nodup := by
  refine ⟨by decide +kernel, ?_⟩
  let call := ServiceCall.submit sampleExecution sampleExecution.requestedAt
  exact (submission_at_most_once sampleDerivations (ledger Decimal false) acceptedIds
    (ledger_findsAccepted false) (.initial []) _ List.nodup_nil _
    ((History.start.next call).next call)).1

end Daybreak.Execution
