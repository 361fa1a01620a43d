import Mathlib.Tactic.Basic

/-! Runs of a step function that is not defined everywhere: the state that a sequence of
actions leads to, and conditions on every step of it. -/

namespace Daybreak.Effect.Steps

variable {σ α : Type*} {step : σ → α → Option σ} {s t : σ} {action : α} {actions later : List α}

/-- The state after the actions, where each of them is possible in its turn. -/
def run (step : σ → α → Option σ) (s : σ) : List α → Option σ
  | [] => some s
  | action :: rest =>
    match step s action with
    | some t => run step t rest
    | none => none

/-- Every action that is possible in its turn meets a condition on the state before it. -/
def Along (step : σ → α → Option σ) (P : σ → α → Prop) (s : σ) : List α → Prop
  | [] => True
  | action :: rest => P s action ∧ ∀ t, step s action = some t → Along step P t rest

instance Along.decidable {P : σ → α → Prop} [∀ s action, Decidable (P s action)] :
    ∀ s actions, Decidable (Along step P s actions)
  | _, [] => isTrue trivial
  | s, action :: rest =>
    match h : step s action with
    | some t =>
      have : Decidable (Along step P t rest) := Along.decidable t rest
      decidable_of_iff (P s action ∧ Along step P t rest) (by simp [Along, h])
    | none => decidable_of_iff (P s action) (by simp [Along, h])

@[simp] theorem run_nil : run step s [] = some s := rfl

theorem run_cons : run step s (action :: actions) = some t ↔
    ∃ middle, step s action = some middle ∧ run step middle actions = some t := by
  rw [run]
  cases step s action with
  | some middle => simp
  | none => simp

theorem along_append {P : σ → α → Prop} : Along step P s (actions ++ later) ↔
    Along step P s actions ∧ ∀ t, run step s actions = some t → Along step P t later := by
  induction actions generalizing s with
  | nil => simp [Along]
  | cons action rest ih =>
    rw [List.cons_append, Along, Along]
    simp only [run_cons, ih]
    constructor
    · rintro ⟨hFirst, hRest⟩
      refine ⟨⟨hFirst, fun t ht => (hRest t ht).1⟩, ?_⟩
      rintro t ⟨middle, hMiddle, hLater⟩
      exact (hRest middle hMiddle).2 t hLater
    · rintro ⟨⟨hFirst, hRest⟩, hLater⟩
      exact ⟨hFirst, fun t ht => ⟨hRest t ht, fun u hu => hLater u ⟨t, ht, hu⟩⟩⟩

theorem Along.and {P Q : σ → α → Prop} (hFirst : Along step P s actions)
    (hSecond : Along step Q s actions) :
    Along step (fun s action => P s action ∧ Q s action) s actions := by
  induction actions generalizing s with
  | nil => trivial
  | cons action rest ih =>
    exact ⟨⟨hFirst.1, hSecond.1⟩, fun t ht => ih (hFirst.2 t ht) (hSecond.2 t ht)⟩

/-- A condition that holds after every first part of a run, of the action that comes next. -/
theorem along_of_forall {P : σ → α → Prop} (h : ∀ before action after t,
    actions = before ++ action :: after → run step s before = some t → P t action) :
    Along step P s actions := by
  induction actions generalizing s with
  | nil => trivial
  | cons action rest ih =>
    refine ⟨h [] action rest s rfl rfl, fun t ht => ih fun before later after u hRest hRun => ?_⟩
    exact h (action :: before) later after u (by rw [hRest, List.cons_append])
      (run_cons.mpr ⟨t, ht, hRun⟩)

/-- Two conditions that say the same wherever an invariant holds, which every step that meets
them keeps. -/
theorem along_iff (Inv : σ → Prop) {P Q R : σ → α → Prop} (hAlong : Along step R s actions)
    (hSame : ∀ s action, Inv s → R s action → (P s action ↔ Q s action))
    (hStep : ∀ s action t, Inv s → R s action → P s action → step s action = some t → Inv t)
    (hStart : Inv s) : Along step P s actions ↔ Along step Q s actions := by
  induction actions generalizing s with
  | nil => rfl
  | cons action rest ih =>
    have hRest (hHere : P s action) : (∀ t, step s action = some t → Along step P t rest) ↔
        ∀ t, step s action = some t → Along step Q t rest :=
      forall₂_congr fun t ht => ih (hAlong.2 t ht) (hStep s action t hStart hAlong.1 hHere ht)
    rw [Along, Along, and_congr_right hRest, hSame s action hStart hAlong.1]

/-- A run that is not along a condition has a first part, after which an action breaks it. -/
theorem exists_of_not_along {P : σ → α → Prop} (hNot : ¬ Along step P s actions)
    (h : run step s actions = some t) : ∃ before action after u v,
      actions = before ++ action :: after ∧ run step s before = some u ∧
        ¬ P u action ∧ step u action = some v ∧ run step v after = some t := by
  induction actions generalizing s with
  | nil => exact absurd trivial hNot
  | cons action rest ih =>
    obtain ⟨middle, hFirst, hRest⟩ := run_cons.mp h
    by_cases hHere : P s action
    · have hLater : ¬ Along step P middle rest := by
        intro hAlong
        refine hNot ⟨hHere, fun other hOther => ?_⟩
        obtain rfl := Option.some.inj (hFirst.symm.trans hOther)
        exact hAlong
      obtain ⟨before, broken, after, u, v, rfl, hBefore, hBroken⟩ := ih hLater hRest
      exact ⟨action :: before, broken, after, u, v, rfl, run_cons.mpr ⟨middle, hFirst, hBefore⟩, hBroken⟩
    · exact ⟨[], action, rest, s, middle, rfl, rfl, hHere, hFirst, hRest⟩

/-- What a step that meets the condition keeps, a run along it keeps. -/
theorem run_along (Inv : σ → Prop) {P : σ → α → Prop}
    (hStep : ∀ s action t, Inv s → P s action → step s action = some t → Inv t)
    (hAlong : Along step P s actions) (hStart : Inv s) (h : run step s actions = some t) :
    Inv t := by
  induction actions generalizing s with
  | nil =>
    obtain rfl := Option.some.inj h
    exact hStart
  | cons action rest ih =>
    obtain ⟨middle, hFirst, hRest⟩ := run_cons.mp h
    exact ih (hAlong.2 middle hFirst) (hStep s action middle hStart hAlong.1 hFirst) hRest

/-- What every step keeps, every run keeps. -/
theorem run_invariant (Inv : σ → Prop)
    (hStep : ∀ s action t, Inv s → step s action = some t → Inv t) (hStart : Inv s)
    (h : run step s actions = some t) : Inv t := by
  induction actions generalizing s with
  | nil =>
    obtain rfl := Option.some.inj h
    exact hStart
  | cons action rest ih =>
    obtain ⟨middle, hFirst, hRest⟩ := run_cons.mp h
    exact ih (hStep s action middle hStart hFirst) hRest

end Daybreak.Effect.Steps
