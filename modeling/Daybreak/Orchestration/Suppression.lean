import Daybreak.Orchestration.Alerts
import Mathlib.Data.List.Induction

/-! Which alerts are suppressed. The last time of a key is noted before the sink is asked, so a
send that raised suppresses the next alerts of its key as one that returned does. -/

namespace Daybreak.Orchestration

open Effect

variable {σ Δ : Type}

/-! ### Calls -/

/-- A call of `emit`. -/
structure EmitCall (Δ : Type) where
  sessionId : String
  severity : AlertSeverity
  code : String
  message : String
  now : Timestamp
  details : Option Δ := none
  dedupKey : Option String := none

/-- `dedup_key or f"{session_id}:{code}"` -/
def EmitCall.key (call : EmitCall Δ) : String :=
  match call.dedupKey with
  | some key => if key = "" then call.sessionId ++ ":" ++ call.code else key
  | none => call.sessionId ++ ":" ++ call.code

def EmitCall.fields (call : EmitCall Δ) : AlertFields :=
  { alertFields call.sessionId call.severity call.code call.message call.now with
    dedupKey := call.key }

/-- What the sink was asked to send, and how it answered. -/
structure Send where
  alert : AlertRecord
  result : Except Exc Unit

/-- The sink, with a list of what it was asked. -/
def recording (sink : AlertSink σ) : AlertSink (σ × List Send) := fun alert s =>
  let sent := sink alert s.1
  (sent.1, sent.2, s.2 ++ [⟨alert, sent.1⟩])

/-- The times noted by the manager, its sink, and what the sink was asked. -/
structure AlertsState (σ : Type) where
  lastSent : Dict String Timestamp
  sink : σ
  sends : List Send

section Run

variable (manager : AlertManager σ) (hashed : AlertFields → Option Δ → Except Exc Unit)

/-- `AlertManager.emit`. The hash of the core of the alert and the check of its details, which
may be anything, raise before anything is noted. -/
def emitCall (call : EmitCall Δ) (state : AlertsState σ) :
    Except Exc (Option AlertRecord) × AlertsState σ :=
  if manager.Deduplicates state.lastSent call.key call.now then (.ok none, state)
  else match hashed call.fields call.details with
    | .error e => (.error e, state)
    | .ok () =>
      let emitted := AlertManager.emit ⟨recording manager.sink, manager.dedupWindowSeconds⟩
        call.fields state.lastSent (state.sink, state.sends)
      (emitted.1, ⟨emitted.2.1, emitted.2.2.1, emitted.2.2.2⟩)

/-- The state after the calls. -/
def emitAll (s : σ) (calls : List (EmitCall Δ)) : AlertsState σ :=
  calls.foldl (fun state call => (emitCall manager hashed call state).2) ⟨∅, s, []⟩

/-- The call has an alert to send. -/
def Sendable (call : EmitCall Δ) : Prop :=
  hashed call.fields call.details = .ok () ∧ call.fields.Valid

/-- The last send of the key. -/
def lastSend (key : String) (sends : List Send) : Option Send :=
  (sends.filter fun send => send.alert.dedupKey = key).getLast?

/-- The last send of the key of the call raised, less than the window before the call. -/
def AfterFailure (state : AlertsState σ) (call : EmitCall Δ) : Prop :=
  ∃ send ∈ lastSend call.key state.sends, send.result ≠ .ok () ∧
    call.now - send.alert.createdAt < timedelta manager.dedupWindowSeconds

/-- An alert is suppressed only after one of its key that was sent less than the window before,
and the next alert of a key after a send that raised is sent. -/
structure SuppressedOnlyAfterDelivery (s : σ) (calls : List (EmitCall Δ)) : Prop where
  suppressed : ∀ earlier call later, earlier ++ call :: later = calls →
    (emitCall manager hashed call (emitAll manager hashed s earlier)).1 = .ok none →
    ∃ send ∈ (emitAll manager hashed s earlier).sends, send.alert.dedupKey = call.key ∧
      send.result = .ok () ∧
      call.now - send.alert.createdAt < timedelta manager.dedupWindowSeconds
  sentAgain : ∀ earlier failed between call later,
    earlier ++ failed :: (between ++ call :: later) = calls →
    (∃ alert e, (emitAll manager hashed s (earlier ++ [failed])).sends =
      (emitAll manager hashed s earlier).sends ++ [⟨alert, .error e⟩]) →
    failed.key = call.key → (∀ other ∈ between, other.key ≠ call.key) → Sendable hashed call →
    ∃ send, (emitAll manager hashed s (earlier ++ failed :: (between ++ [call]))).sends =
      (emitAll manager hashed s (earlier ++ failed :: between)).sends ++ [send]

end Run

variable {manager : AlertManager σ} {hashed : AlertFields → Option Δ → Except Exc Unit} {s : σ}
  {call : EmitCall Δ} {calls earlier later : List (EmitCall Δ)} {state after : AlertsState σ}
  {sends : List Send} {send : Send} {key : String}

/-! ### One call -/

/-- What a call does: it is suppressed, it has no alert, or its alert is noted and sent. -/
inductive Emits (manager : AlertManager σ) (hashed : AlertFields → Option Δ → Except Exc Unit)
    (call : EmitCall Δ) (state : AlertsState σ) :
    Except Exc (Option AlertRecord) → AlertsState σ → Prop
  | suppressed (h : manager.Deduplicates state.lastSent call.key call.now) :
    Emits manager hashed call state (.ok none) state
  | refused (h : ¬ manager.Deduplicates state.lastSent call.key call.now)
      (hRefused : ¬ Sendable hashed call) (e : Exc) :
    Emits manager hashed call state (.error e) state
  | sent (h : ¬ manager.Deduplicates state.lastSent call.key call.now)
      (hSendable : Sendable hashed call) (send : Send) (hAlert : send.alert = ⟨call.fields, hSendable.2⟩)
      (s' : σ) :
    Emits manager hashed call state (send.result.map fun _ => some send.alert)
      ⟨state.lastSent.insert call.key call.now, s', state.sends ++ [send]⟩

theorem emitCall_emits (manager : AlertManager σ)
    (hashed : AlertFields → Option Δ → Except Exc Unit) (call : EmitCall Δ)
    (state : AlertsState σ) :
    Emits manager hashed call state (emitCall manager hashed call state).1
      (emitCall manager hashed call state).2 := by
  unfold emitCall
  by_cases h : manager.Deduplicates state.lastSent call.key call.now
  · rw [if_pos h]
    exact .suppressed h
  · rw [if_neg h]
    cases hHashed : hashed call.fields call.details with
    | error e => exact .refused h (fun hSendable => by simp [Sendable, hHashed] at hSendable) e
    | ok =>
      simp only [AlertManager.emit]
      split_ifs with hAgain hValid
      · exact absurd hAgain h
      · have hSent := Emits.sent h ⟨hHashed, hValid⟩
          ⟨⟨call.fields, hValid⟩, (manager.sink ⟨call.fields, hValid⟩ state.sink).1⟩ rfl
          (manager.sink ⟨call.fields, hValid⟩ state.sink).2
        rcases hSink : manager.sink ⟨call.fields, hValid⟩ state.sink with ⟨_ | _, s'⟩
        · simp only [recording, hSink] at hSent ⊢
          exact hSent
        · simp only [recording, hSink] at hSent ⊢
          exact hSent
      · exact .refused h (fun hSendable => hValid hSendable.2) _

theorem emitAll_concat : emitAll manager hashed s (calls ++ [call]) =
    (emitCall manager hashed call (emitAll manager hashed s calls)).2 := by
  simp [emitAll]

/-! ### The last send of a key -/

theorem lastSend_concat : lastSend key (sends ++ [send]) =
    if send.alert.dedupKey = key then some send else lastSend key sends := by
  unfold lastSend
  rw [List.filter_append]
  split_ifs with h
  · simp [h]
  · simp [h]

theorem lastSend_mem (h : lastSend key sends = some send) :
    send ∈ sends ∧ send.alert.dedupKey = key := by
  have hMem := List.mem_filter.mp (List.mem_of_getLast? h)
  exact ⟨hMem.1, of_decide_eq_true hMem.2⟩

/-! ### Runs -/

/-- What a run keeps: the time noted for a key is that of its last send, the sends of a key are
not closer than the window, and they were made by the calls. -/
structure Noted (manager : AlertManager σ) (calls : List (EmitCall Δ)) (state : AlertsState σ) :
    Prop where
  lastSent : ∀ key, state.lastSent.lookup key =
    (lastSend key state.sends).map fun send => send.alert.createdAt
  spaced : ∀ send ∈ state.sends, ∀ last ∈ lastSend send.alert.dedupKey state.sends,
    send = last ∨ send.alert.createdAt + timedelta manager.dedupWindowSeconds ≤ last.alert.createdAt
  made : ∀ send ∈ state.sends, ∃ call ∈ calls, send.alert.createdAt = call.now

theorem Noted.deduplicates_iff (h : Noted manager calls state) :
    manager.Deduplicates state.lastSent key (call.now) ↔
      ∃ send ∈ lastSend key state.sends,
        call.now - send.alert.createdAt < timedelta manager.dedupWindowSeconds := by
  unfold AlertManager.Deduplicates
  rw [h.lastSent]
  simp only [Option.mem_def, Option.map_eq_some_iff]
  constructor
  · rintro ⟨_, ⟨send, hSend, rfl⟩, hWindow⟩
    exact ⟨send, hSend, hWindow⟩
  · rintro ⟨send, hSend, hWindow⟩
    exact ⟨_, ⟨send, hSend, rfl⟩, hWindow⟩

theorem Noted.emits {result : Except Exc (Option AlertRecord)} (h : Noted manager calls state)
    (hEmits : Emits manager hashed call state result after) :
    Noted manager (calls ++ [call]) after := by
  have hMade : ∀ send ∈ state.sends, ∃ other ∈ calls ++ [call],
      send.alert.createdAt = other.now := by
    intro send hSend
    obtain ⟨other, hOther, hNow⟩ := h.made send hSend
    exact ⟨other, List.mem_append_left _ hOther, hNow⟩
  cases hEmits with
  | suppressed => exact ⟨h.lastSent, h.spaced, hMade⟩
  | refused => exact ⟨h.lastSent, h.spaced, hMade⟩
  | sent hFresh hSendable send hAlert s' =>
    have hKey : send.alert.dedupKey = call.key := by rw [hAlert]; rfl
    have hNow : send.alert.createdAt = call.now := by rw [hAlert]; rfl
    refine ⟨fun key => ?_, ?_, ?_⟩
    · simp only [lastSend_concat, hKey, Dict.lookup_insert_eq, h.lastSent]
      by_cases hSame : key = call.key
      · simp [hSame, hNow]
      · rw [if_neg hSame, if_neg (Ne.symm hSame)]
    · intro other hOther last hLast
      rw [lastSend_concat, Option.mem_def] at hLast
      rcases List.mem_append.mp hOther with hOther | hOther
      · split_ifs at hLast with hSame
        · obtain rfl := Option.some.inj hLast
          right
          obtain ⟨previous, hPrevious⟩ : ∃ previous,
              lastSend other.alert.dedupKey state.sends = some previous := by
            unfold lastSend
            refine Option.ne_none_iff_exists'.mp fun hNone => ?_
            have hEmpty := List.getLast?_eq_none_iff.mp hNone
            have hMem : other ∈ state.sends.filter
                fun send => send.alert.dedupKey = other.alert.dedupKey :=
              List.mem_filter.mpr ⟨hOther, decide_eq_true rfl⟩
            rw [hEmpty] at hMem
            cases hMem
          have hWindow : ¬ call.now - previous.alert.createdAt <
              timedelta manager.dedupWindowSeconds := fun hLess =>
            hFresh (h.deduplicates_iff.mpr ⟨previous, by rwa [← hKey, hSame], hLess⟩)
          have hNonneg : 0 ≤ timedelta manager.dedupWindowSeconds := by
            rw [timedelta_natCast]; positivity
          rw [hNow]
          rcases h.spaced other hOther previous hPrevious with rfl | hSpaced
          · linarith
          · linarith
        · exact h.spaced other hOther last hLast
      · obtain rfl := List.mem_singleton.mp hOther
        rw [if_pos rfl] at hLast
        exact .inl (Option.some.inj hLast)
    · intro other hOther
      rcases List.mem_append.mp hOther with hOther | hOther
      · exact hMade other hOther
      · obtain rfl := List.mem_singleton.mp hOther
        exact ⟨call, by simp, hNow⟩

theorem noted_emitAll (manager : AlertManager σ)
    (hashed : AlertFields → Option Δ → Except Exc Unit) (s : σ) (calls : List (EmitCall Δ)) :
    Noted manager calls (emitAll manager hashed s calls) := by
  induction calls using List.reverseRec with
  | nil => exact ⟨fun key => by simp [emitAll, lastSend], nofun, nofun⟩
  | append_singleton calls call ih =>
    rw [emitAll_concat]
    exact ih.emits (emitCall_emits manager hashed call _)

/-! ### What is suppressed -/

theorem emitCall_eq_none_iff : (emitCall manager hashed call state).1 = .ok none ↔
    manager.Deduplicates state.lastSent call.key call.now := by
  have hEmits := emitCall_emits manager hashed call state
  generalize (emitCall manager hashed call state).1 = result at hEmits
  generalize (emitCall manager hashed call state).2 = after at hEmits
  cases hEmits with
  | suppressed h => exact iff_of_true rfl h
  | refused h _ e => exact iff_of_false nofun h
  | sent h _ send =>
    refine iff_of_false ?_ h
    cases send.result <;> simp [Except.map]

/-- The sends of a call are one more if its alert is sent, and those before it otherwise. -/
theorem emitCall_sends (manager : AlertManager σ)
    (hashed : AlertFields → Option Δ → Except Exc Unit) (call : EmitCall Δ)
    (state : AlertsState σ) : (emitCall manager hashed call state).2.sends = state.sends ∨
    ∃ send, send.alert.dedupKey = call.key ∧ send.alert.createdAt = call.now ∧
      (emitCall manager hashed call state).2.sends = state.sends ++ [send] := by
  have hEmits := emitCall_emits manager hashed call state
  generalize (emitCall manager hashed call state).1 = result at hEmits
  generalize (emitCall manager hashed call state).2 = after at hEmits
  cases hEmits with
  | suppressed => exact .inl rfl
  | refused => exact .inl rfl
  | sent _ _ send hAlert => exact .inr ⟨send, by rw [hAlert]; rfl, by rw [hAlert]; rfl, rfl⟩

/-- An alert that is not suppressed is sent, if there is one. -/
theorem emitCall_sent (h : ¬ manager.Deduplicates state.lastSent call.key call.now)
    (hSendable : Sendable hashed call) :
    ∃ send, (emitCall manager hashed call state).2.sends = state.sends ++ [send] := by
  have hEmits := emitCall_emits manager hashed call state
  generalize (emitCall manager hashed call state).1 = result at hEmits
  generalize (emitCall manager hashed call state).2 = after at hEmits
  cases hEmits with
  | suppressed hDuplicate => exact absurd hDuplicate h
  | refused _ hRefused => exact absurd hSendable hRefused
  | sent _ _ send => exact ⟨send, rfl⟩

/-- Calls with other keys leave the last send of a key as it is. -/
theorem lastSend_emitAll {between : List (EmitCall Δ)} (hOther : ∀ call ∈ between, call.key ≠ key) :
    lastSend key (emitAll manager hashed s (earlier ++ between)).sends =
      lastSend key (emitAll manager hashed s earlier).sends := by
  induction between using List.reverseRec with
  | nil => rw [List.append_nil]
  | append_singleton between call ih =>
    rw [← List.append_assoc, emitAll_concat]
    rcases emitCall_sends manager hashed call
      (emitAll manager hashed s (earlier ++ between)) with hSame | ⟨send, hKey, -, hMore⟩
    · rw [hSame]
      exact ih fun other hMem => hOther other (List.mem_append_left _ hMem)
    · rw [hMore, lastSend_concat, if_neg fun hSend => hOther call (by simp) (hKey.symm.trans hSend)]
      exact ih fun other hMem => hOther other (List.mem_append_left _ hMem)

/-- In a run whose calls are in the order of their times, alerts are suppressed only after
delivery if and only if no call comes less than the window after a send of its key that raised. -/
theorem suppressedOnlyAfterDelivery_iff (manager : AlertManager σ)
    (hashed : AlertFields → Option Δ → Except Exc Unit) (s : σ) (calls : List (EmitCall Δ))
    (hTimes : calls.Pairwise fun call call' => call.now ≤ call'.now) :
    SuppressedOnlyAfterDelivery manager hashed s calls ↔
      ∀ earlier call later, earlier ++ call :: later = calls →
        ¬ AfterFailure manager (emitAll manager hashed s earlier) call := by
  constructor
  · rintro h earlier call later rfl ⟨last, hLast, hFailed, hWindow⟩
    have hNoted := noted_emitAll manager hashed s earlier
    have hSuppressed : (emitCall manager hashed call (emitAll manager hashed s earlier)).1 = .ok none :=
      emitCall_eq_none_iff.mpr (hNoted.deduplicates_iff.mpr ⟨last, hLast, hWindow⟩)
    obtain ⟨send, hSend, hKey, hOk, hRecent⟩ := h.suppressed earlier call later rfl hSuppressed
    obtain ⟨other, hOther, hNow⟩ := hNoted.made last (lastSend_mem hLast).1
    have hOrder : other.now ≤ call.now :=
      (List.pairwise_append.mp hTimes).2.2 other hOther call (List.mem_cons_self ..)
    rcases hNoted.spaced send hSend last (by rwa [hKey]) with rfl | hSpaced
    · exact hFailed hOk
    · linarith
  · intro h
    constructor
    case suppressed =>
      intro earlier call later hCalls hNone
      have hNoted := noted_emitAll manager hashed s earlier
      obtain ⟨last, hLast, hWindow⟩ := hNoted.deduplicates_iff.mp (emitCall_eq_none_iff.mp hNone)
      obtain ⟨hMem, hKey⟩ := lastSend_mem hLast
      refine ⟨last, hMem, hKey, ?_, hWindow⟩
      by_contra hFailed
      exact h earlier call later hCalls ⟨last, hLast, hFailed, hWindow⟩
    case sentAgain =>
      rintro earlier failed between call later hCalls ⟨alert, e, hFailed⟩ hKey hBetween hSendable
      have hNoted := noted_emitAll manager hashed s (earlier ++ failed :: between)
      have hLast : lastSend call.key (emitAll manager hashed s (earlier ++ failed :: between)).sends =
          some ⟨alert, .error e⟩ := by
        rw [← List.singleton_append, ← List.append_assoc, lastSend_emitAll hBetween, hFailed,
          lastSend_concat, if_pos]
        rcases emitCall_sends manager hashed failed
          (emitAll manager hashed s earlier) with hSame | ⟨send, hSendKey, -, hMore⟩
        · rw [← emitAll_concat, hFailed] at hSame
          simp at hSame
        · rw [← emitAll_concat, hFailed] at hMore
          obtain rfl := (List.append_inj' hMore rfl).2 |> List.head_eq_of_cons_eq
          rw [← hKey]
          exact hSendKey
      have hFresh : ¬ manager.Deduplicates
          (emitAll manager hashed s (earlier ++ failed :: between)).lastSent call.key call.now := by
        intro hDuplicate
        obtain ⟨last, hSame, hWindow⟩ := hNoted.deduplicates_iff.mp hDuplicate
        obtain rfl := Option.some.inj (hLast.symm.trans hSame)
        exact h (earlier ++ failed :: between) call later (by simpa using hCalls)
          ⟨_, hLast, nofun, hWindow⟩
      rw [← List.cons_append, ← List.append_assoc, emitAll_concat]
      exact emitCall_sent hFresh hSendable

/-- A sink that raises when it is first asked. -/
def lateSink : AlertSink ℕ := fun _ asked =>
  (if asked = 0 then .error (.runtimeError "all alert sinks failed") else .ok (), asked + 1)

def sampleCall (now : Timestamp) : EmitCall Unit :=
  { sessionId := "session", severity := .critical, code := "ENTRY_KILL", message := "killed", now }

/-- The second alert is suppressed after the first was not delivered. -/
theorem suppressed_after_failure :
    [sampleCall 0, sampleCall 1000000].Pairwise (fun call call' => call.now ≤ call'.now) ∧
      ¬ SuppressedOnlyAfterDelivery ⟨lateSink, 300⟩ (fun _ _ => .ok ()) 0
        [sampleCall 0, sampleCall 1000000] := by
  refine ⟨by decide, fun h => ?_⟩
  obtain ⟨send, hSend, -, hOk, -⟩ := h.suppressed [sampleCall 0] (sampleCall 1000000) [] rfl
    (emitCall_eq_none_iff.mpr ⟨0, rfl, by rw [timedelta_natCast]; decide⟩)
  obtain rfl : send = ⟨⟨(sampleCall 0).fields, by decide⟩, .error _⟩ := List.mem_singleton.mp hSend
  cases hOk

theorem suppressedOnlyAfterDelivery_later :
    SuppressedOnlyAfterDelivery ⟨lateSink, 300⟩ (fun _ _ => .ok ()) 0
        [sampleCall 0, sampleCall 300000000] ↔
      ∀ earlier call later, earlier ++ call :: later = [sampleCall 0, sampleCall 300000000] →
        ¬ AfterFailure ⟨lateSink, 300⟩
          (emitAll ⟨lateSink, 300⟩ (fun _ _ => .ok ()) 0 earlier) call :=
  suppressedOnlyAfterDelivery_iff _ _ _ _ (by decide)

end Daybreak.Orchestration
