import Daybreak.Effect.Program
import Mathlib.Computability.Language
import Mathlib.Order.CompletePartialOrder

/-! Programs that add to a log. What a run adds is described by two languages: that of the runs
that return and that of the runs that raise. Both compose as the programs do. A program that
follows a language adds a word of it where it returns, and the first part of a word where it
raises. -/

namespace Daybreak.Effect.Program

universe u

variable {σ ε α β κ : Type u} {log : σ → List κ} {L M N K : Language κ}

/-! ### First parts -/

/-- The first parts of the words of a language. -/
def initial (L : Language κ) : Language κ :=
  {first : List κ | ∃ word ∈ L, first <+: word}

theorem le_initial : L ≤ initial L :=
  fun word hWord => ⟨word, hWord, List.prefix_rfl⟩

theorem initial_mono (h : L ≤ M) : initial L ≤ initial M := by
  rintro first ⟨word, hWord, hFirst⟩
  exact ⟨word, h hWord, hFirst⟩

theorem initial_one : initial (1 : Language κ) = 1 := by
  refine le_antisymm ?_ le_initial
  rintro first ⟨word, rfl, hFirst⟩
  exact List.prefix_nil.mp hFirst

theorem one_le_initial (hL : ∃ word, word ∈ L) : 1 ≤ initial L := by
  obtain ⟨word, hWord⟩ := hL
  rintro first rfl
  exact ⟨word, hWord, List.nil_prefix⟩

theorem exists_mem_mul (hL : ∃ word, word ∈ L) (hM : ∃ word, word ∈ M) : ∃ word, word ∈ L * M := by
  obtain ⟨first, hFirst⟩ := hL
  obtain ⟨last, hLast⟩ := hM
  exact ⟨first ++ last, Language.append_mem_mul hFirst hLast⟩

/-- Who stops in the first of two ways, or in the second after the whole first. -/
theorem initial_add_mul_le (hM : ∃ word, word ∈ M) :
    initial L + L * initial M ≤ initial (L * M) := by
  rintro word (⟨whole, hWhole, hFirst⟩ | ⟨first, hFirst, rest, ⟨whole, hWhole, hRest⟩, rfl⟩)
  · obtain ⟨last, hLast⟩ := hM
    exact ⟨whole ++ last, Language.append_mem_mul hWhole hLast,
      hFirst.trans (List.prefix_append _ _)⟩
  · exact ⟨first ++ whole, Language.append_mem_mul hFirst hWhole,
      (List.prefix_append_right_inj first).mpr hRest⟩

/-! ### Words without a letter -/

section Without

variable {x : κ}

/-- The words in which a letter does not occur. -/
def without (x : κ) : Language κ := {word : List κ | x ∉ word}

theorem one_le_without : 1 ≤ without x := by
  rintro word rfl
  exact List.not_mem_nil

theorem mul_le_without (hL : L ≤ without x) (hM : M ≤ without x) : L * M ≤ without x := by
  rintro word ⟨first, hFirst, last, hLast, rfl⟩ hMem
  exact (List.mem_append.mp hMem).elim (hL hFirst) (hM hLast)

theorem add_le_without (hL : L ≤ without x) (hM : M ≤ without x) : L + M ≤ without x :=
  fun _ hWord => hWord.elim (@hL _) (@hM _)

theorem initial_le_without (hL : L ≤ without x) : initial L ≤ without x := by
  rintro first ⟨word, hWord, hFirst⟩ hMem
  exact hL hWord (hFirst.subset hMem)

end Without

/-! ### What a program appends -/

/-- What a run adds to the log is in `L` where it returns, and in `M` where it raises. -/
def Appends (log : σ → List κ) (p : Program σ ε α) (L M : Language κ) : Prop :=
  ∀ s, ∃ more, log (p.exec s).2 = log s ++ more ∧
    (∀ a, (p.exec s).1 = .ok a → more ∈ L) ∧ ∀ e, (p.exec s).1 = .error e → more ∈ M

/-- A program that goes on along the words of a language, as far as it comes. -/
def Follows (log : σ → List κ) (p : Program σ ε α) (L : Language κ) : Prop :=
  Appends log p L (initial L)

/-- No run of the program adds anything. -/
def Silent (log : σ → List κ) (p : Program σ ε α) : Prop :=
  ∀ s, log (p.exec s).2 = log s

section Appends

variable {p : Program σ ε α} {f : α → Program σ ε β}

theorem Appends.mono {L' M' : Language κ} (h : Appends log p L M) (hL : L ≤ L') (hM : M ≤ M') :
    Appends log p L' M' := by
  intro s
  obtain ⟨more, hLog, hReturns, hRaises⟩ := h s
  exact ⟨more, hLog, fun a ha => hL (hReturns a ha), fun e he => hM (hRaises e he)⟩

theorem Appends.of_ok (h : Appends log p L M) {s t : σ} {a : α} (hExec : p.exec s = (.ok a, t)) :
    ∃ more ∈ L, log t = log s ++ more := by
  obtain ⟨more, hLog, hReturns, -⟩ := h s
  rw [hExec] at hLog hReturns
  exact ⟨more, hReturns a rfl, hLog⟩

theorem Appends.of_error (h : Appends log p L M) {s t : σ} {e : ε}
    (hExec : p.exec s = (.error e, t)) : ∃ more ∈ M, log t = log s ++ more := by
  obtain ⟨more, hLog, -, hRaises⟩ := h s
  rw [hExec] at hLog hRaises
  exact ⟨more, hRaises e rfl, hLog⟩

theorem Silent.of_exec (h : Silent log p) {s t : σ} {r : Except ε α} (hExec : p.exec s = (r, t)) :
    log t = log s := by
  have hLog := h s
  rwa [hExec] at hLog

theorem Appends.bind (hp : Appends log p L M) (hf : ∀ a, Appends log (f a) N K) :
    Appends log (p >>= f) (L * N) (M + L * K) := by
  intro s
  obtain ⟨first, hLog, hReturns, hRaises⟩ := hp s
  rw [exec_bind]
  cases hExec : p.exec s with
  | mk r t =>
    rw [hExec] at hLog hReturns hRaises
    cases r with
    | error e => exact ⟨first, hLog, nofun, fun _ _ => .inl (hRaises e rfl)⟩
    | ok a =>
      obtain ⟨rest, hLater, hReturnsLater, hRaisesLater⟩ := hf a t
      have hFirst := hReturns a rfl
      refine ⟨first ++ rest, ?_, fun b hb => ?_, fun e he => ?_⟩
      · rw [hLater, hLog, List.append_assoc]
      · exact Language.append_mem_mul hFirst (hReturnsLater b hb)
      · exact .inr (Language.append_mem_mul hFirst (hRaisesLater e he))

theorem Appends.tryCatch {handler : ε → Program σ ε α} (hp : Appends log p L M)
    (hHandler : ∀ e, Appends log (handler e) N K) :
    Appends log (MonadExcept.tryCatch p handler) (L + M * N) (M * K) := by
  intro s
  obtain ⟨first, hLog, hReturns, hRaises⟩ := hp s
  rw [exec_tryCatch]
  cases hExec : p.exec s with
  | mk r t =>
    rw [hExec] at hLog hReturns hRaises
    cases r with
    | ok a => exact ⟨first, hLog, fun _ _ => .inl (hReturns a rfl), nofun⟩
    | error e =>
      obtain ⟨rest, hLater, hReturnsLater, hRaisesLater⟩ := hHandler e t
      have hFirst := hRaises e rfl
      refine ⟨first ++ rest, ?_, fun b hb => ?_, fun e he => ?_⟩
      · rw [hLater, hLog, List.append_assoc]
      · exact .inr (Language.append_mem_mul hFirst (hReturnsLater b hb))
      · exact Language.append_mem_mul hFirst (hRaisesLater e he)

theorem Appends.attempt (hp : Appends log p L M) : Appends log (attempt p) (L + M) 0 := by
  intro s
  obtain ⟨more, hLog, hReturns, hRaises⟩ := hp s
  refine ⟨more, hLog, fun _ _ => ?_, nofun⟩
  cases hOutcome : (p.exec s).1 with
  | ok a => exact .inl (hReturns a hOutcome)
  | error e => exact .inr (hRaises e hOutcome)

/-- A write of something else, which does not raise. -/
theorem Appends.modify {g : σ → σ} (h : ∀ s, log (g s) = log s) :
    Appends log (MonadState.modifyGet fun s => (PUnit.unit, g s) : Program σ ε PUnit) 1 0 := by
  intro s
  exact ⟨[], (h s).trans (List.append_nil _).symm, fun _ _ => Language.nil_mem_one, nofun⟩

theorem Appends.throw (e : ε) : Appends log (throw e : Program σ ε α) 0 1 :=
  fun _ => ⟨[], (List.append_nil _).symm, nofun, fun _ _ => Language.nil_mem_one⟩

theorem Silent.appends (h : Silent log p) : Appends log p 1 1 := by
  intro s
  refine ⟨[], ?_, fun _ _ => Language.nil_mem_one, fun _ _ => Language.nil_mem_one⟩
  rw [h s, List.append_nil]

theorem Silent.throw (e : ε) : Silent log (throw e : Program σ ε α) :=
  fun _ => rfl

theorem Silent.pure (a : α) : Silent log (Pure.pure a : Program σ ε α) :=
  fun _ => rfl

theorem Silent.bind (hp : Silent log p) (hf : ∀ a, Silent log (f a)) : Silent log (p >>= f) := by
  intro s
  have hFirst := hp s
  rw [exec_bind]
  cases hExec : p.exec s with
  | mk r t =>
    rw [hExec] at hFirst
    cases r with
    | ok a => exact (hf a t).trans hFirst
    | error e => exact hFirst

end Appends

/-! ### Programs that follow a language -/

section Follows

variable {p : Program σ ε α} {f : α → Program σ ε β}

theorem Appends.follows (h : Appends log p L 1) (hL : ∃ word, word ∈ L) : Follows log p L :=
  h.mono le_rfl (one_le_initial hL)

theorem Silent.follows (h : Silent log p) : Follows log p 1 := by
  unfold Follows
  rw [initial_one]
  exact h.appends

theorem Follows.mono (h : Follows log p L) (hLM : L ≤ M) : Follows log p M :=
  Appends.mono h hLM (initial_mono hLM)

/-- The second of two programs may return more words than those along which it raises. -/
theorem Follows.bind_appends (hp : Follows log p L) (hf : ∀ a, Appends log (f a) M (initial N))
    (hN : ∃ word, word ∈ N) : Appends log (p >>= f) (L * M) (initial (L * N)) :=
  (Appends.bind hp hf).mono le_rfl (initial_add_mul_le hN)

theorem Follows.bind (hp : Follows log p L) (hf : ∀ a, Follows log (f a) M)
    (hM : ∃ word, word ∈ M) : Follows log (p >>= f) (L * M) :=
  hp.bind_appends hf hM

theorem Follows.bind_silent (hp : Follows log p L) (hf : ∀ a, Silent log (f a)) :
    Follows log (p >>= f) L := by
  have hBoth := hp.bind (fun a => (hf a).follows) ⟨[], Language.nil_mem_one⟩
  rwa [mul_one] at hBoth

theorem Silent.bind_appends (hp : Silent log p) (hf : ∀ a, Appends log (f a) M (initial N))
    (hN : ∃ word, word ∈ N) : Appends log (p >>= f) M (initial N) := by
  have hBoth := hp.follows.bind_appends hf hN
  rwa [one_mul, one_mul] at hBoth

theorem Silent.bind_follows (hp : Silent log p) (hf : ∀ a, Follows log (f a) L)
    (hL : ∃ word, word ∈ L) : Follows log (p >>= f) L :=
  hp.bind_appends hf hL

theorem Follows.throw (e : ε) (hL : ∃ word, word ∈ L) :
    Follows log (throw e : Program σ ε α) L :=
  (Appends.throw e).mono bot_le (one_le_initial hL)

end Follows

end Daybreak.Effect.Program
