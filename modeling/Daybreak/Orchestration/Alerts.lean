import Daybreak.Effect.Dict
import Daybreak.Orchestration.Records

/-! Alert delivery. A sink may raise; several sinks raise together only when each of
them does. An alert is sent at most once in the window of its key, the time of the
last attempt is noted before the sink is asked, and what the sink raises is passed on. -/

namespace Daybreak.Orchestration

open Effect

variable {σ : Type}

abbrev AlertSink (σ : Type) := AlertRecord → σ → Except Exc Unit × σ

/-- Every sink is asked; the exceptions of those that raise are collected. -/
def sendAll (alert : AlertRecord) : List (AlertSink σ) → σ → List Exc × σ
  | [], s => ([], s)
  | sink :: sinks, s =>
    match sink alert s with
    | (.ok (), s') => sendAll alert sinks s'
    | (.error e, s') => (e :: (sendAll alert sinks s').1, (sendAll alert sinks s').2)

/-- `CompositeAlertSink.send` -/
def compositeSend (sinks : List (AlertSink σ)) : AlertSink σ := fun alert s =>
  let sent := sendAll alert sinks s
  if sent.1 ≠ [] ∧ sent.1.length = sinks.length then
    (.error (.runtimeError "all alert sinks failed"), sent.2)
  else (.ok (), sent.2)

structure AlertManager (σ : Type) where
  sink : AlertSink σ
  dedupWindowSeconds : ℕ := 300

/-- The alert of a key was last attempted within the window. -/
def AlertManager.Deduplicates (manager : AlertManager σ) (lastSent : Dict String Timestamp)
    (key : String) (now : Timestamp) : Prop :=
  ∃ previous ∈ lastSent.lookup key, now - previous < timedelta manager.dedupWindowSeconds

instance (manager : AlertManager σ) (lastSent : Dict String Timestamp) (key : String)
    (now : Timestamp) : Decidable (manager.Deduplicates lastSent key now) := by
  unfold AlertManager.Deduplicates; infer_instance

/-- The record that `emit` builds. -/
def alertFields (sessionId : String) (severity : AlertSeverity) (code message : String)
    (now : Timestamp) : AlertFields where
  sessionId := sessionId
  severity := severity
  code := code
  message := message
  createdAt := now
  dedupKey := sessionId ++ ":" ++ code

/-- `AlertManager.emit`, with the attempts noted so far. -/
def AlertManager.emit (manager : AlertManager σ) (fields : AlertFields)
    (lastSent : Dict String Timestamp) (s : σ) :
    Except Exc (Option AlertRecord) × Dict String Timestamp × σ :=
  if manager.Deduplicates lastSent fields.dedupKey fields.createdAt then (.ok none, lastSent, s)
  else if h : fields.Valid then
    let alert : AlertRecord := ⟨fields, h⟩
    let noted := lastSent.insert fields.dedupKey fields.createdAt
    match manager.sink alert s with
    | (.ok (), s') => (.ok (some alert), noted, s')
    | (.error e, s') => (.error e, noted, s')
  else (.error (validationError "AlertRecord"), lastSent, s)

/-- An emission returns: the alert is a duplicate, or it is valid and its sink does not
raise. -/
def AlertManager.Delivers (manager : AlertManager σ) (fields : AlertFields)
    (lastSent : Dict String Timestamp) (s : σ) : Prop :=
  manager.Deduplicates lastSent fields.dedupKey fields.createdAt ∨
    ∃ h : fields.Valid, (manager.sink ⟨fields, h⟩ s).1 = .ok ()

theorem AlertManager.emit_ok_iff (manager : AlertManager σ) (fields : AlertFields)
    (lastSent : Dict String Timestamp) (s : σ) :
    (∃ alert, (manager.emit fields lastSent s).1 = .ok alert) ↔
      manager.Delivers fields lastSent s := by
  unfold emit Delivers
  by_cases hDuplicate : manager.Deduplicates lastSent fields.dedupKey fields.createdAt
  · simp [hDuplicate]
  · rw [if_neg hDuplicate, or_iff_right hDuplicate]
    by_cases hValid : fields.Valid
    · rw [dif_pos hValid]
      rcases hSent : manager.sink ⟨fields, hValid⟩ s with ⟨_ | _, s'⟩
      · simp [hSent]
      · simp [hSent, hValid]
    · rw [dif_neg hValid]
      simp [hValid]

/-- At most as many sinks raise as there are. -/
theorem sendAll_length (alert : AlertRecord) (sinks : List (AlertSink σ)) (s : σ) :
    (sendAll alert sinks s).1.length ≤ sinks.length := by
  induction sinks generalizing s with
  | nil => exact le_rfl
  | cons sink sinks ih =>
    rw [sendAll]
    rcases sink alert s with ⟨_ | _, s'⟩
    · exact Nat.succ_le_succ (ih s')
    · exact (ih s').trans (Nat.le_succ _)

theorem sendAll_length_lt {sinks : List (AlertSink σ)} {sink : AlertSink σ} (hSink : sink ∈ sinks)
    (hOk : ∀ alert s, (sink alert s).1 = .ok ()) (alert : AlertRecord) (s : σ) :
    (sendAll alert sinks s).1.length < sinks.length := by
  induction sinks generalizing s with
  | nil => cases hSink
  | cons first sinks ih =>
    rw [sendAll]
    rcases List.mem_cons.mp hSink with rfl | hLater
    · rcases hSent : sink alert s with ⟨_ | _, s'⟩
      · have hReturns := hOk alert s
        rw [hSent] at hReturns
        cases hReturns
      · exact Nat.lt_succ_of_le (sendAll_length alert sinks s')
    · rcases first alert s with ⟨_ | _, s'⟩
      · exact Nat.succ_lt_succ (ih hLater s')
      · exact (ih hLater s').trans (Nat.lt_succ_self _)

/-- A sink that never raises keeps the composite of its sinks from raising. -/
theorem compositeSend_ok {sinks : List (AlertSink σ)} {sink : AlertSink σ} (hSink : sink ∈ sinks)
    (hOk : ∀ alert s, (sink alert s).1 = .ok ()) (alert : AlertRecord) (s : σ) :
    (compositeSend sinks alert s).1 = .ok () := by
  have hFewer := sendAll_length_lt hSink hOk alert s
  unfold compositeSend
  simp only
  rw [if_neg fun h => hFewer.ne h.2]

end Daybreak.Orchestration
