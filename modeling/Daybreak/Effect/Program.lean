import Mathlib.Tactic.Basic

/-! Programs that read and write a state and may raise, where a write made before
an exception is not undone. `exec` runs a program on a state. Proved here: how
`exec` goes through the constructs of a program, the inversion of a sequence,
and the rules of two kinds of assertion, that every run of a program keeps an
invariant of the state, and that a program returns without changing an
observation of it. -/

namespace Daybreak.Effect

universe u

variable {σ ε α β : Type u}

abbrev Program (σ ε α : Type u) := ExceptT ε (StateM σ) α

namespace Program

/-- The outcome of a program and the state it leaves. -/
def exec (p : Program σ ε α) (s : σ) : Except ε α × σ := p.run.run s

/-- A program given by what it does to a state. -/
def step (f : σ → Except ε α × σ) : Program σ ε α := ExceptT.mk f

/-- A computation without state. -/
def ofExcept : Except ε α → Program σ ε α
  | .ok a => pure a
  | .error e => throw e

/-- Run a program and return its outcome, exceptions included. -/
def attempt (p : Program σ ε α) : Program σ ε (Except ε α) :=
  ExceptT.mk fun s => (.ok (p.exec s).1, (p.exec s).2)

@[simp] theorem exec_pure (a : α) (s : σ) : (pure a : Program σ ε α).exec s = (.ok a, s) := rfl

@[simp] theorem exec_step (f : σ → Except ε α × σ) (s : σ) : (step f).exec s = f s := rfl

@[simp] theorem exec_get (s : σ) : (get : Program σ ε σ).exec s = (.ok s, s) := rfl

@[simp] theorem exec_set (s t : σ) :
    (set t : Program σ ε PUnit).exec s = (.ok ⟨⟩, t) := rfl

@[simp] theorem exec_ofExcept (x : Except ε α) (s : σ) :
    (ofExcept x : Program σ ε α).exec s = (x, s) := by
  cases x <;> rfl

theorem exec_bind (p : Program σ ε α) (f : α → Program σ ε β) (s : σ) :
    (p >>= f).exec s = match p.exec s with
      | (.ok a, t) => (f a).exec t
      | (.error e, t) => (.error e, t) := by
  simp only [exec, bind, ExceptT.bind, ExceptT.run, ExceptT.mk, StateT.bind, StateT.run]
  rcases p s with ⟨_ | a, t⟩ <;> rfl

theorem exec_tryCatch (p : Program σ ε α) (h : ε → Program σ ε α) (s : σ) :
    (tryCatch p h).exec s = match p.exec s with
      | (.ok a, t) => (.ok a, t)
      | (.error e, t) => (h e).exec t := by
  simp only [exec, tryCatch, tryCatchThe, MonadExceptOf.tryCatch, ExceptT.tryCatch, ExceptT.run,
    ExceptT.mk, bind, StateT.bind, StateT.run]
  rcases p s with ⟨_ | a, t⟩ <;> rfl

theorem exec_attempt (p : Program σ ε α) (s : σ) :
    (attempt p).exec s = (.ok (p.exec s).1, (p.exec s).2) := rfl

/-! ### Inversion -/

/-- A sequence ends where its first part raises, or where its second part ends. -/
theorem exec_bind_cases {p : Program σ ε α} {f : α → Program σ ε β} {s t : σ} {r : Except ε β}
    (h : (p >>= f).exec s = (r, t)) :
    (∃ e, p.exec s = (.error e, t) ∧ r = .error e) ∨
      ∃ a u, p.exec s = (.ok a, u) ∧ (f a).exec u = (r, t) := by
  rw [exec_bind] at h
  split at h
  · next a u hp => exact .inr ⟨a, u, hp, h⟩
  · next e u hp =>
    obtain ⟨rfl, rfl⟩ := Prod.mk.inj h
    exact .inl ⟨e, hp, rfl⟩

theorem exec_bind_ok {p : Program σ ε α} {f : α → Program σ ε β} {s t : σ} {b : β} :
    (p >>= f).exec s = (.ok b, t) ↔ ∃ a u, p.exec s = (.ok a, u) ∧ (f a).exec u = (.ok b, t) := by
  constructor
  · intro h
    obtain ⟨e, -, he⟩ | h := exec_bind_cases h
    · cases he
    · exact h
  · rintro ⟨a, u, hp, hf⟩
    rw [exec_bind, hp]
    exact hf

theorem exec_tryCatch_cases {p : Program σ ε α} {h : ε → Program σ ε α} {s t : σ}
    {r : Except ε α} (hr : (tryCatch p h).exec s = (r, t)) :
    (∃ a, p.exec s = (.ok a, t) ∧ r = .ok a) ∨
      ∃ e u, p.exec s = (.error e, u) ∧ (h e).exec u = (r, t) := by
  rw [exec_tryCatch] at hr
  split at hr
  · next a u hp =>
    obtain ⟨rfl, rfl⟩ := Prod.mk.inj hr
    exact .inl ⟨a, hp, rfl⟩
  · next e u hp => exact .inr ⟨e, u, hp, hr⟩

/-! ### Programs that return without touching an observation -/

/-- `p` always returns, and `obs` does not see what it does. -/
def Returns {γ : Type u} (obs : σ → γ) (p : Program σ ε α) : Prop :=
  ∀ s, ∃ a t, p.exec s = (.ok a, t) ∧ obs t = obs s

section Returns

variable {γ : Type u} {obs : σ → γ}

theorem Returns.pure (a : α) : Returns obs (Pure.pure a : Program σ ε α) :=
  fun s => ⟨a, s, rfl, rfl⟩

theorem Returns.modify {f : σ → σ} (h : ∀ s, obs (f s) = obs s) :
    Returns obs (MonadState.modifyGet fun s => (PUnit.unit, f s) : Program σ ε PUnit) :=
  fun s => ⟨_, f s, rfl, h s⟩

/-- After a part that returns unseen, the rest runs from a state that looks the same. -/
theorem Returns.exec_bind {p : Program σ ε α} (hp : Returns obs p) {f : α → Program σ ε β}
    {s t : σ} {r : Except ε β} (h : (p >>= f).exec s = (r, t)) :
    ∃ a u, obs u = obs s ∧ (f a).exec u = (r, t) := by
  obtain ⟨a, u, hExec, hObs⟩ := hp s
  rw [Program.exec_bind, hExec] at h
  exact ⟨a, u, hObs, h⟩

end Returns

/-! ### Invariants -/

/-- Every run of `p`, however it ends, keeps `P`. -/
def Maintains (P : σ → Prop) (p : Program σ ε α) : Prop := ∀ s, P s → P (p.exec s).2

section Maintains

variable {P : σ → Prop}

theorem Maintains.of_exec {p : Program σ ε α} (h : Maintains P p) {s t : σ} {r : Except ε α}
    (hExec : p.exec s = (r, t)) (hs : P s) : P t := by
  have ht := h s hs
  rwa [hExec] at ht

theorem Maintains.pure (a : α) : Maintains P (Pure.pure a : Program σ ε α) :=
  fun _ hs => hs

theorem Maintains.ofExcept (x : Except ε α) : Maintains P (ofExcept x : Program σ ε α) := by
  intro s hs
  rw [exec_ofExcept]
  exact hs

theorem Maintains.modify {f : σ → σ} (h : ∀ s, P s → P (f s)) :
    Maintains P (MonadState.modifyGet fun s => (PUnit.unit, f s) : Program σ ε PUnit) :=
  h

/-- A sequence keeps what its first part keeps from `s`, and its second part from
where the first returns. -/
theorem bind_maintains {p : Program σ ε α} {f : α → Program σ ε β} {s : σ}
    (hp : P (p.exec s).2)
    (hf : ∀ a t, p.exec s = (.ok a, t) → P t → P ((f a).exec t).2) :
    P ((p >>= f).exec s).2 := by
  rw [exec_bind]
  cases h : p.exec s with
  | mk r t =>
    rw [h] at hp
    cases r with
    | ok a => exact hf a t h hp
    | error e => exact hp

theorem Maintains.bind {p : Program σ ε α} {f : α → Program σ ε β} (hp : Maintains P p)
    (hf : ∀ a, Maintains P (f a)) : Maintains P (p >>= f) :=
  fun s hs => bind_maintains (hp s hs) fun a t _ ht => hf a t ht

theorem Maintains.tryCatch {p : Program σ ε α} {h : ε → Program σ ε α} (hp : Maintains P p)
    (hh : ∀ e, Maintains P (h e)) : Maintains P (MonadExcept.tryCatch p h) := by
  intro s hs
  have ht := hp s hs
  rw [exec_tryCatch]
  cases hExec : p.exec s with
  | mk r t =>
    rw [hExec] at ht
    cases r with
    | ok a => exact ht
    | error e => exact hh e t ht

theorem Maintains.attempt {p : Program σ ε α} (hp : Maintains P p) : Maintains P (attempt p) := hp

end Maintains

end Program

end Daybreak.Effect
