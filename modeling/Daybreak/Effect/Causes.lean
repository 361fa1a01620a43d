import Daybreak.Effect.Program

/-! Programs whose exceptions say what they were raised for. Such a program is written
beside one without causes, part by part; proved here: the rules by which both run alike and
every exception fits its cause. -/

namespace Daybreak.Effect.Program

universe u

variable {σ κ ε α β : Type u}

/-- What the program raises is raised for this cause. -/
def ascribe (cause : κ) (p : Program σ ε α) : Program σ (κ × ε) α :=
  step fun s => ((p.exec s).1.mapError (cause, ·), (p.exec s).2)

theorem exec_ascribe (cause : κ) (p : Program σ ε α) (s : σ) :
    (ascribe cause p).exec s = ((p.exec s).1.mapError (cause, ·), (p.exec s).2) := rfl

/-- The first program says the causes of the second: without its causes it runs as the second,
and each of its exceptions fits the cause that it is raised for. -/
structure Ascribes (R : κ → ε → Prop) (p : Program σ (κ × ε) α) (q : Program σ ε α) : Prop where
  forgets : ∀ s, q.exec s = ((p.exec s).1.mapError Prod.snd, (p.exec s).2)
  fits : ∀ s cause e t, p.exec s = (.error (cause, e), t) → R cause e

namespace Ascribes

variable {R : κ → ε → Prop}

theorem ascribe {cause : κ} {p : Program σ ε α}
    (h : ∀ s e t, p.exec s = (.error e, t) → R cause e) : Ascribes R (ascribe cause p) p := by
  constructor
  · intro s
    rw [exec_ascribe]
    rcases p.exec s with ⟨_ | a, t⟩ <;> rfl
  · intro s cause' e t hExec
    rw [exec_ascribe] at hExec
    rcases hInner : p.exec s with ⟨e' | a, u⟩
    · rw [hInner] at hExec
      obtain ⟨hError, -⟩ := Prod.mk.inj hExec
      obtain ⟨rfl, rfl⟩ := Prod.mk.inj (Except.error.inj hError)
      exact h s e' u hInner
    · rw [hInner] at hExec
      cases (Prod.mk.inj hExec).1

theorem pure (a : α) : Ascribes R (Pure.pure a : Program σ (κ × ε) α) (Pure.pure a) :=
  ⟨fun _ => rfl, fun _ _ _ _ h => nomatch (Prod.mk.inj h).1⟩

theorem get : Ascribes R (MonadState.get : Program σ (κ × ε) σ) MonadState.get :=
  ⟨fun _ => rfl, fun _ _ _ _ h => nomatch (Prod.mk.inj h).1⟩

theorem bind {p : Program σ (κ × ε) α} {q : Program σ ε α} {f : α → Program σ (κ × ε) β}
    {g : α → Program σ ε β} (h : Ascribes R p q) (hRest : ∀ a, Ascribes R (f a) (g a)) :
    Ascribes R (p >>= f) (q >>= g) := by
  constructor
  · intro s
    rw [exec_bind, exec_bind, h.forgets s]
    rcases p.exec s with ⟨e | a, t⟩
    · rfl
    · exact (hRest a).forgets t
  · intro s cause e t hExec
    obtain ⟨_, hFirst, hError⟩ | ⟨a, u, -, hLater⟩ := exec_bind_cases hExec
    · obtain rfl := Except.error.inj hError
      exact h.fits s cause e t hFirst
    · exact (hRest a).fits u cause e t hLater

/-- What the program raises, it raises for one cause. -/
theorem exec_error_iff {p : Program σ (κ × ε) α} {q : Program σ ε α} (h : Ascribes R p q)
    {s t : σ} {e : ε} :
    q.exec s = (.error e, t) ↔ ∃ cause, p.exec s = (.error (cause, e), t) := by
  rw [h.forgets s]
  constructor
  · intro hRaises
    rcases hExec : p.exec s with ⟨⟨cause, e'⟩ | a, u⟩
    · rw [hExec] at hRaises
      obtain ⟨hError, rfl⟩ := Prod.mk.inj hRaises
      obtain rfl := Except.error.inj hError
      exact ⟨cause, rfl⟩
    · rw [hExec] at hRaises
      cases (Prod.mk.inj hRaises).1
  · rintro ⟨cause, hRaises⟩
    rw [hRaises]
    rfl

end Ascribes

end Daybreak.Effect.Program
