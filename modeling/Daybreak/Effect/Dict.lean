import Mathlib.Data.List.AList

/-! Dictionaries that only grow. `saveOnce` is the idempotent write of an
append-only store: a key that is taken keeps its value, and a value that differs
from it, under the equality that `norm` induces, is refused. -/

namespace Daybreak.Effect

universe u

variable {κ α γ ε : Type u} [DecidableEq κ]

abbrev Dict (κ α : Type u) := AList fun _ : κ => α

namespace Dict

/-- `d.setdefault(k, v)` -/
def setDefault (d : Dict κ α) (k : κ) (v : α) : Dict κ α :=
  match d.lookup k with
  | some _ => d
  | none => d.insert k v

/-- Refuse a value that differs from the one stored, then `setdefault`. -/
def saveOnce [DecidableEq γ] (norm : α → γ) (error : ε) (d : Dict κ α) (k : κ) (v : α) :
    Except ε (Dict κ α) :=
  match d.lookup k with
  | some existing => if norm existing = norm v then .ok (d.setDefault k v) else .error error
  | none => .ok (d.setDefault k v)

theorem lookup_insert_eq (d : Dict κ α) (k k' : κ) (v : α) :
    (d.insert k v).lookup k' = if k' = k then some v else d.lookup k' := by
  split_ifs with h
  · rw [h, AList.lookup_insert]
  · exact AList.lookup_insert_ne h

theorem mem_entries_insert {d : Dict κ α} {k : κ} {v : α} {entry : (_ : κ) × α}
    (h : entry ∈ (d.insert k v).entries) : entry = ⟨k, v⟩ ∨ entry ∈ d.entries := by
  rw [AList.entries_insert] at h
  exact (List.mem_cons.mp h).imp_right fun hRest => (List.kerase_sublist k d.entries).subset hRest

theorem setDefault_of_some {d : Dict κ α} {k : κ} {v existing : α}
    (h : d.lookup k = some existing) : d.setDefault k v = d := by
  simp [setDefault, h]

theorem setDefault_of_none {d : Dict κ α} {k : κ} {v : α} (h : d.lookup k = none) :
    d.setDefault k v = d.insert k v := by
  simp [setDefault, h]

theorem lookup_setDefault (d : Dict κ α) (k k' : κ) (v : α) :
    (d.setDefault k v).lookup k' = if k' = k then some ((d.lookup k).getD v) else d.lookup k' := by
  cases h : d.lookup k with
  | some existing =>
    rw [setDefault_of_some h]
    split_ifs with hk
    · rw [hk, h]
      rfl
    · rfl
  | none =>
    rw [setDefault_of_none h, lookup_insert_eq]
    rfl

/-- What is stored stays stored. -/
theorem lookup_setDefault_of_some {d : Dict κ α} {k k' : κ} {v existing : α}
    (h : d.lookup k' = some existing) : (d.setDefault k v).lookup k' = some existing := by
  rw [lookup_setDefault]
  split_ifs with hk
  · rw [← hk, h]
    rfl
  · exact h

theorem saveOnce_eq_ok [DecidableEq γ] {norm : α → γ} {error : ε} {d d' : Dict κ α} {k : κ}
    {v : α} : d.saveOnce norm error k v = .ok d' ↔
      d' = d.setDefault k v ∧ ∀ existing, d.lookup k = some existing → norm existing = norm v := by
  unfold saveOnce
  cases h : d.lookup k with
  | none => simp [eq_comm]
  | some existing =>
    by_cases hEq : norm existing = norm v
    · simp [hEq, eq_comm]
    · simp [hEq]

theorem saveOnce_eq [DecidableEq γ] (norm : α → γ) (error : ε) (d : Dict κ α) (k : κ) (v : α) :
    d.saveOnce norm error k v =
      if ∀ existing ∈ d.lookup k, norm existing = norm v then .ok (d.setDefault k v)
      else .error error := by
  unfold saveOnce
  cases h : d.lookup k with
  | none => simp
  | some existing => simp

end Dict

end Daybreak.Effect
