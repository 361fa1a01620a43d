import Daybreak.Effect.Fallible

/-! Folds over items of two kinds that work on parts of the state of their own. The fold over
all of the items does to the part of one kind what the fold over that kind alone does to it. -/

namespace Daybreak.Effect.Fallible

universe u

section Related

variable {α ε : Type u} {E : ε → ε → Prop} {R S : α → α → Prop} {x y : Except ε α}

theorem Related.mono (h : Related E R x y) (hMore : ∀ a b, x = .ok a → y = .ok b → R a b → S a b) :
    Related E S x y := by
  cases x with
  | ok a =>
    cases y with
    | ok b => exact hMore a b rfl rfl h
    | error e => exact h.elim
  | error e =>
    cases y with
    | ok b => exact h.elim
    | error e' => exact h

/-- Related computations that raise the same errors go on alike where the relation says so. -/
theorem Related.bind_eq {γ : Type u} {f g : α → Except ε γ} (h : Related (· = ·) R x y)
    (hNext : ∀ a b, x = .ok a → y = .ok b → R a b → f a = g b) : x >>= f = y >>= g := by
  cases x with
  | ok a =>
    cases y with
    | ok b => exact hNext a b rfl rfl h
    | error e => exact h.elim
  | error e =>
    cases y with
    | ok b => exact h.elim
    | error e' => exact congrArg Except.error h

/-- What is related to a computation that returned, returned. -/
theorem Related.exists_ok {b : α} (h : Related E R x (.ok b)) : ∃ a, x = .ok a ∧ R a b := by
  cases x with
  | ok a => exact ⟨a, rfl, h⟩
  | error e => exact h.elim

end Related

variable {α σ ε : Type u} {step : σ → α → Except ε σ} {items : List α}

/-- `Own` relates the whole state to the part of one kind, `Other` to that of the other kind: an
item of the first kind does to the whole what it does to its own part, and leaves the other. -/
def Framed (step : σ → α → Except ε σ) (Own Other : σ → σ → Prop) (item : α) : Prop :=
  ∀ s own other, Own s own → Other s other →
    Related (· = ·) (fun s' own' => Own s' own' ∧ Other s' other) (step s item) (step own item)

/-- Where the items of one kind raise nothing on their own, they do not show in what the items
of the other kind do. -/
theorem foldlM_interleaved {kind : α → Bool} {Own Other : σ → σ → Prop} {s own other other' : σ}
    (hOwn : ∀ item ∈ items, kind item = true → Framed step Own Other item)
    (hOther : ∀ item ∈ items, kind item = false → Framed step Other Own item)
    (hs : Own s own) (hs' : Other s other)
    (hFold : (items.filter fun item => !kind item).foldlM step other = .ok other') :
    Related (· = ·) (fun t own' => Own t own' ∧ Other t other') (items.foldlM step s)
      ((items.filter kind).foldlM step own) := by
  induction items generalizing s own other with
  | nil =>
    obtain rfl := Except.ok.inj hFold
    exact ⟨hs, hs'⟩
  | cons first rest ih =>
    rw [List.forall_mem_cons] at hOwn hOther
    cases hKind : kind first with
    | true =>
      rw [List.filter_cons_of_pos hKind, List.foldlM_cons, List.foldlM_cons]
      rw [List.filter_cons_of_neg (by simp [hKind])] at hFold
      apply (hOwn.1 hKind s own other hs hs').bind
      intro t own' _ _ h
      exact ih hOwn.2 hOther.2 h.1 h.2 hFold
    | false =>
      rw [List.filter_cons_of_neg (by simp [hKind]), List.foldlM_cons]
      rw [List.filter_cons_of_pos (by simp [hKind])] at hFold
      obtain ⟨middle, hFirst, hRest⟩ := foldlM_cons_eq_ok.mp hFold
      have hStep := hOther.1 hKind s other own hs' hs
      rw [hFirst] at hStep
      obtain ⟨t, hTake, hOthers, hOwns⟩ := hStep.exists_ok
      rw [hTake, ok_bind]
      exact ih hOwn.2 hOther.2 hOwns hOthers hRest

/-- Items that a test refuses may be left out. -/
theorem filterOk_filter {α ε : Type} {p : α → Except ε Bool} {keep : α → Bool} {items : List α}
    (h : ∀ item ∈ items, keep item = false → p item = .ok false) :
    filterOk p items = filterOk p (items.filter keep) := by
  induction items with
  | nil => rfl
  | cons first rest ih =>
    rw [List.forall_mem_cons] at h
    cases hKeep : keep first with
    | true => rw [List.filter_cons_of_pos hKeep, filterOk, filterOk, ih h.2]
    | false =>
      rw [List.filter_cons_of_neg (by simp [hKeep]), filterOk, h.1 hKeep, ok_bind, ih h.2]
      cases filterOk p (rest.filter keep) <;> rfl

end Daybreak.Effect.Fallible
