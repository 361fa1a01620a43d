import Daybreak.Effect.Fallible

/-! The first fault of a sequence of readings. Each reading has a fault that is told by what is
read; a computation that takes the readings in turn ends with the first of the faults, and so
raises an error of one kind exactly where the first fault is of it. -/

namespace Daybreak.Effect.Fallible

universe u

variable {α γ ε : Type u} {κ : Type*} {kind : ε → κ} {k : κ}

/-- The kind of error that a computation ends with, if it raises. -/
def faultOf (kind : ε → κ) : Except ε α → Option κ
  | .ok _ => none
  | .error e => some (kind e)

@[simp] theorem faultOf_ok {a : α} : faultOf kind (.ok a : Except ε α) = none := rfl

@[simp] theorem faultOf_error {e : ε} : faultOf kind (.error e : Except ε α) = some (kind e) := rfl

/-- The first of the faults, where there is one. -/
def firstFault (faults : List (Option κ)) : Option κ := faults.findSome? id

@[simp] theorem firstFault_nil : firstFault ([] : List (Option κ)) = none := rfl

@[simp] theorem firstFault_none (faults : List (Option κ)) :
    firstFault (none :: faults) = firstFault faults := rfl

@[simp] theorem firstFault_some (faults : List (Option κ)) :
    firstFault (some k :: faults) = some k := rfl

theorem firstFault_append (earlier later : List (Option κ)) :
    firstFault (earlier ++ later) = (firstFault earlier).or (firstFault later) :=
  List.findSome?_append

theorem mem_of_firstFault {faults : List (Option κ)} (h : firstFault faults = some k) :
    some k ∈ faults := by
  obtain ⟨fault, hFault, hk⟩ := List.exists_of_findSome?_eq_some h
  rwa [← show fault = some k from hk]

theorem raisesOnly_iff_faultOf {x : Except ε α} :
    RaisesOnly (kind · ≠ k) x ↔ faultOf kind x ≠ some k := by
  cases x with
  | ok a => simp
  | error e => simp

/-- A reading, and then the rest of them. -/
theorem faultOf_bind {x : Except ε α} {f : α → Except ε γ} {fault : Option κ}
    {faults : List (Option κ)} (hx : faultOf kind x = fault)
    (hf : ∀ a, x = .ok a → faultOf kind (f a) = firstFault faults) :
    faultOf kind (x >>= f) = firstFault (fault :: faults) := by
  cases x with
  | error e =>
    subst hx
    rfl
  | ok a =>
    subst hx
    exact hf a rfl

/-- Some readings, and then the rest of them. -/
theorem faultOf_bind_append {x : Except ε α} {f : α → Except ε γ} {earlier faults : List (Option κ)}
    (hx : faultOf kind x = firstFault earlier)
    (hf : ∀ a, x = .ok a → faultOf kind (f a) = firstFault faults) :
    faultOf kind (x >>= f) = firstFault (earlier ++ faults) := by
  rw [firstFault_append, ← hx]
  cases x with
  | error e => rfl
  | ok a => exact hf a rfl

/-- The readings of each item, in turn. -/
theorem faultOf_mapM {f : α → Except ε γ} {items : List α} {faults : α → List (Option κ)}
    (h : ∀ item, faultOf kind (f item) = firstFault (faults item)) :
    faultOf kind (items.mapM f) = firstFault (items.flatMap faults) := by
  induction items with
  | nil => rfl
  | cons item items ih =>
    rw [List.mapM_cons, List.flatMap_cons]
    refine faultOf_bind_append (h item) fun a _ => ?_
    rw [← List.append_nil (items.flatMap faults)]
    exact faultOf_bind_append ih fun as _ => rfl

end Daybreak.Effect.Fallible
