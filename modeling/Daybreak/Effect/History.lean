import Daybreak.Effect.Program
import Mathlib.Data.List.Induction

/-! Histories of a service: calls run one after the other on one state, which may
drift between them. Proved: the invariant rule, and that what every step keeps
holds from the end of a call on. -/

namespace Daybreak.Effect

universe u

variable {κ σ ε α : Type u}

/-- A call with its outcome and the states around it. -/
structure Performed (κ σ ε α : Type u) where
  call : κ
  before : σ
  outcome : Except ε α
  after : σ

/-- The record of running a call. -/
def Performed.of (run : κ → Program σ ε α) (call : κ) (s : σ) : Performed κ σ ε α :=
  ⟨call, s, ((run call).exec s).1, ((run call).exec s).2⟩

/-- The calls performed from `start` on, latest first, and the state they lead to. -/
inductive History (run : κ → Program σ ε α) (drift : σ → σ → Prop) (start : σ) :
    List (Performed κ σ ε α) → σ → Prop
  | start : History run drift start [] start
  | call {records : List (Performed κ σ ε α)} {s t : σ} {r : Except ε α}
      (prior : History run drift start records s) (call : κ)
      (exec : (run call).exec s = (r, t)) :
    History run drift start (⟨call, s, r, t⟩ :: records) t
  | elapse {records : List (Performed κ σ ε α)} {s t : σ}
      (prior : History run drift start records s) (elapsed : drift s t) :
    History run drift start records t

namespace History

variable {run : κ → Program σ ε α} {drift : σ → σ → Prop} {start : σ}

/-- A history goes on with any call. -/
theorem next {records : List (Performed κ σ ε α)} {s : σ}
    (h : History run drift start records s) (call : κ) :
    History run drift start (.of run call s :: records) (Performed.of run call s).after :=
  h.call call rfl

theorem invariant {records : List (Performed κ σ ε α)} {s : σ}
    (h : History run drift start records s) (P : σ → Prop) (hStart : P start)
    (hCall : ∀ call s r t, P s → (run call).exec s = (r, t) → P t)
    (hDrift : ∀ s t, P s → drift s t → P t) : P s := by
  induction h with
  | start => exact hStart
  | call _ call hExec ih => exact hCall call _ _ _ ih hExec
  | elapse _ hElapsed ih => exact hDrift _ _ ih hElapsed

/-- Calls one after the other are a history of theirs. -/
theorem exists_of_calls (calls : List κ) : ∃ records,
    History run drift start records (calls.foldl (fun s call => ((run call).exec s).2) start) ∧
      ∀ record ∈ records, record.call ∈ calls := by
  induction calls using List.reverseRecOn with
  | nil => exact ⟨[], .start, fun _ hRecord => absurd hRecord List.not_mem_nil⟩
  | append_singleton calls call ih =>
    obtain ⟨records, hHistory, hCalls⟩ := ih
    rw [List.foldl_append]
    refine ⟨_, hHistory.next call, List.forall_mem_cons.mpr ⟨by simp [Performed.of], ?_⟩⟩
    exact fun record hRecord => List.mem_append_left _ (hCalls record hRecord)

/-- What the calls of a kind keep, a history of such calls keeps. -/
theorem invariant_of_calls {records : List (Performed κ σ ε α)} {s : σ}
    (h : History run drift start records s) (P : σ → Prop) {Q : κ → Prop}
    (hCalls : ∀ record ∈ records, Q record.call) (hStart : P start)
    (hCall : ∀ call s r t, Q call → P s → (run call).exec s = (r, t) → P t)
    (hDrift : ∀ s t, P s → drift s t → P t) : P s := by
  induction h with
  | start => exact hStart
  | call _ call hExec ih =>
    obtain ⟨hLast, hEarlier⟩ := List.forall_mem_cons.mp hCalls
    exact hCall call _ _ _ hLast (ih hEarlier) hExec
  | elapse _ hElapsed ih => exact hDrift _ _ (ih hCalls) hElapsed

/-- What a call keeps exactly when its record is as `Q` says holds exactly when every record is. -/
theorem iff_forall {records : List (Performed κ σ ε α)} {s : σ}
    (h : History run drift start records s) (P : σ → Prop) {Q : Performed κ σ ε α → Prop}
    (hStart : P start)
    (hCall : ∀ call s r t, (run call).exec s = (r, t) → (P t ↔ P s ∧ Q ⟨call, s, r, t⟩))
    (hDrift : ∀ s t, drift s t → (P t ↔ P s)) : P s ↔ ∀ record ∈ records, Q record := by
  induction h with
  | start => exact iff_of_true hStart fun _ hRecord => absurd hRecord List.not_mem_nil
  | call _ call hExec ih => rw [List.forall_mem_cons, hCall call _ _ _ hExec, ih, and_comm]
  | elapse _ hElapsed ih => rw [hDrift _ _ hElapsed, ih]

/-- A performed call ran from a state that the earlier calls lead to. -/
theorem prior {later earlier : List (Performed κ σ ε α)} {record : Performed κ σ ε α} {s : σ}
    (h : History run drift start (later ++ record :: earlier) s) :
    History run drift start earlier record.before ∧
      (run record.call).exec record.before = (record.outcome, record.after) := by
  generalize hRecords : later ++ record :: earlier = records at h
  induction h generalizing later with
  | start => simp at hRecords
  | call hPrior call hExec ih =>
    cases later with
    | nil =>
      obtain ⟨rfl, rfl⟩ := List.cons.inj hRecords
      exact ⟨hPrior, hExec⟩
    | cons _ later => exact ih (List.cons.inj hRecords).2
  | elapse _ _ ih => exact ih hRecords

/-- What every step keeps still holds after the calls that follow a record. -/
theorem persists {later earlier : List (Performed κ σ ε α)} {record : Performed κ σ ε α} {s : σ}
    (h : History run drift start (later ++ record :: earlier) s) (P : σ → Prop)
    (hRecord : P record.after) (hCall : ∀ call s r t, P s → (run call).exec s = (r, t) → P t)
    (hDrift : ∀ s t, P s → drift s t → P t) : P s := by
  generalize hRecords : later ++ record :: earlier = records at h
  induction h generalizing later with
  | start => simp at hRecords
  | call _ call hExec ih =>
    cases later with
    | nil =>
      obtain ⟨rfl, rfl⟩ := List.cons.inj hRecords
      exact hRecord
    | cons _ later => exact hCall call _ _ _ (ih (List.cons.inj hRecords).2) hExec
  | elapse _ hElapsed ih => exact hDrift _ _ (ih hRecords) hElapsed

end History

end Daybreak.Effect
