import Mathlib.Data.List.Basic
import Mathlib.Data.List.Induction
import Mathlib.Order.Lattice

/-! Readers of a log whose keys ascend. A reader remembers the key of the last item it handled and
asks for the items after it, so that its state is what the items up to that key make of its first
state, however often it was interrupted and however the log grew meanwhile. -/

namespace Daybreak.Effect.Cursor

variable {α κ σ : Type*} {key : α → κ} {log more done rest : List α} {c bound : κ}

/-- The key that a reader remembers after some more items. -/
def reached (key : α → κ) (c : κ) (done : List α) : κ := (done.getLast?.map key).getD c

@[simp] theorem reached_nil : reached key c [] = c := rfl

@[simp] theorem reached_concat (a : α) : reached key c (done ++ [a]) = key a := by
  simp [reached]

/-! ### Parts of a log -/

variable [LinearOrder κ]

def Ascending (key : α → κ) (log : List α) : Prop := log.Pairwise fun a b => key a < key b

def upTo (key : α → κ) (c : κ) (log : List α) : List α := log.filter (key · ≤ c)

def beyond (key : α → κ) (c : κ) (log : List α) : List α := log.filter (c < key ·)

theorem upTo_append_beyond (h : Ascending key log) : upTo key c log ++ beyond key c log = log := by
  induction log with
  | nil => rfl
  | cons a log ih =>
    obtain ⟨hFirst, hRest⟩ := List.pairwise_cons.mp h
    by_cases hUpTo : key a ≤ c
    · rw [upTo, List.filter_cons_of_pos (by simpa using hUpTo), beyond,
        List.filter_cons_of_neg (by simpa using hUpTo), List.cons_append]
      exact congrArg _ (ih hRest)
    · rw [upTo, beyond, List.filter_eq_nil_iff.mpr, List.filter_eq_self.mpr, List.nil_append]
      · intro b hb
        obtain rfl | hLater := List.mem_cons.mp hb
        · exact decide_eq_true (not_le.mp hUpTo)
        · exact decide_eq_true ((not_le.mp hUpTo).trans (hFirst b hLater))
      · intro b hb hLe
        rw [decide_eq_true_eq] at hLe
        obtain rfl | hLater := List.mem_cons.mp hb
        · exact hUpTo hLe
        · exact hUpTo ((hFirst b hLater).le.trans hLe)

/-- After the first items beyond its key, the reader is up to the last of them. -/
theorem upTo_reached (h : Ascending key log) (hAhead : beyond key c log = done ++ rest) :
    upTo key (reached key c done) log = upTo key c log ++ done := by
  have hLog : log = upTo key c log ++ done ++ rest := by
    rw [List.append_assoc, ← hAhead, upTo_append_beyond h]
  induction done using List.reverseRecOn with
  | nil => rw [reached_nil, List.append_nil]
  | append_singleton done last _ =>
    rw [reached_concat]
    have hSplit := h
    rw [hLog, Ascending, List.pairwise_append] at hSplit
    obtain ⟨hBefore, -, hCross⟩ := hSplit
    rw [← List.append_assoc, List.pairwise_append] at hBefore
    conv_lhs => rw [hLog]
    rw [upTo, List.filter_append, List.filter_eq_self.mpr, List.filter_eq_nil_iff.mpr,
      List.append_nil]
    · intro b hb hLe
      have hLast : last ∈ upTo key c log ++ (done ++ [last]) := by simp
      exact absurd (hCross last hLast b hb) (not_lt.mpr (of_decide_eq_true hLe))
    · intro b hb
      rw [← List.append_assoc] at hb
      obtain hEarly | hLast := List.mem_append.mp hb
      · exact decide_eq_true (hBefore.2.2 b hEarly last List.mem_cons_self).le
      · rw [List.mem_singleton.mp hLast]
        exact decide_eq_true le_rfl

theorem upTo_append_of_lt (hNew : ∀ a ∈ more, c < key a) :
    upTo key c (log ++ more) = upTo key c log := by
  have hNone : more.filter (key · ≤ c) = [] := by
    rw [List.filter_eq_nil_iff]
    intro a ha hLe
    exact absurd (hNew a ha) (not_lt.mpr (of_decide_eq_true hLe))
  rw [upTo, List.filter_append, hNone, List.append_nil, upTo]

/-! ### Readers -/

structure Reader (σ κ : Type*) where
  state : σ
  checkpoint : κ

/-- The reader after some more items. -/
def Reader.advance (key : α → κ) (apply : σ → α → σ) (reader : Reader σ κ) (done : List α) :
    Reader σ κ := ⟨done.foldl apply reader.state, reached key reader.checkpoint done⟩

/-- The state is what the items up to the checkpoint make of the first one, and the keys to come
are beyond the checkpoint. -/
structure CaughtUp (key : α → κ) (apply : σ → α → σ) (start : σ) (log : List α) (bound : κ)
    (reader : Reader σ κ) : Prop where
  told : reader.state = (upTo key reader.checkpoint log).foldl apply start
  within : reader.checkpoint ≤ bound

variable {apply : σ → α → σ} {start : σ} {reader : Reader σ κ}

/-- A log that grows beyond its bound. -/
theorem CaughtUp.grow {bound' : κ} (h : CaughtUp key apply start log bound reader)
    (hNew : ∀ a ∈ more, bound < key a) (hBound : bound ≤ bound') :
    CaughtUp key apply start (log ++ more) bound' reader := by
  refine ⟨?_, h.within.trans hBound⟩
  rw [upTo_append_of_lt fun a ha => h.within.trans_lt (hNew a ha)]
  exact h.told

/-- A reader that handles some of the items beyond its checkpoint. -/
theorem CaughtUp.advance (h : CaughtUp key apply start log bound reader)
    (hAscending : Ascending key log) (hBound : ∀ a ∈ log, key a ≤ bound)
    (hAhead : beyond key reader.checkpoint log = done ++ rest) :
    CaughtUp key apply start log bound (reader.advance key apply done) := by
  constructor
  · rw [Reader.advance, upTo_reached hAscending hAhead, List.foldl_append, ← h.told]
  · induction done using List.reverseRecOn with
    | nil => exact h.within
    | append_singleton done last _ =>
      rw [Reader.advance, reached_concat]
      have hMem : last ∈ beyond key reader.checkpoint log := by
        rw [hAhead]
        simp
      exact hBound last (List.mem_of_mem_filter hMem)

/-- A reader that handled all of them is up to the end of the log. -/
theorem CaughtUp.state_of_all (h : CaughtUp key apply start log bound reader)
    (hAscending : Ascending key log) (hAhead : beyond key reader.checkpoint log = done) :
    (reader.advance key apply done).state = log.foldl apply start := by
  rw [Reader.advance, h.told, ← List.foldl_append, ← hAhead, upTo_append_beyond hAscending]

end Daybreak.Effect.Cursor
