import Mathlib.Data.List.Forall2
import Mathlib.Data.List.ReduceOption
import Mathlib.Data.List.Induction
import Mathlib.Tactic.Basic

/-! Computations that return or raise: the inversion of a sequence, and what holds of
a map and a fold over a list that returned. -/

namespace Daybreak.Effect.Fallible

universe u

variable {α γ σ ε : Type u} {items : List α} {item : α}

theorem bind_eq_ok {x : Except ε α} {f : α → Except ε γ} {c : γ} :
    x >>= f = .ok c ↔ ∃ a, x = .ok a ∧ f a = .ok c := by
  cases x with
  | error e => simp [bind, Except.bind]
  | ok a => simp [bind, Except.bind]

theorem ok_bind {a : α} {f : α → Except ε γ} : (Except.ok a >>= f) = f a := rfl

/-- A check that raises before the rest is run. -/
theorem guard_eq_ok {p : Prop} [Decidable p] {e : ε} {rest : Except ε α} {a : α} :
    (if p then (throw e : Except ε PUnit) >>= fun _ => rest else rest) = .ok a ↔
      ¬ p ∧ rest = .ok a := by
  split_ifs with hp
  · refine iff_of_false ?_ fun h => h.1 hp
    exact fun h => nomatch h
  · exact (and_iff_right hp).symm

/-- The items for which a test that may raise is true. -/
def filterOk {α ε : Type} (p : α → Except ε Bool) : List α → Except ε (List α)
  | [] => .ok []
  | item :: rest => do
    let keep ← p item
    let kept ← filterOk p rest
    return if keep then item :: kept else kept

/-- A test that returns for every item filters them as it is true of them. -/
theorem filterOk_eq_ok {α ε : Type} {p : α → Except ε Bool} {items kept : List α} :
    filterOk p items = .ok kept ↔ (∀ item ∈ items, ∃ keep, p item = .ok keep) ∧
      kept = items.filter fun item => (p item).toOption.getD false := by
  induction items generalizing kept with
  | nil => simp [filterOk, eq_comm]
  | cons item rest ih =>
    rw [filterOk, bind_eq_ok, List.forall_mem_cons]
    cases hItem : p item with
    | error e => simp
    | ok keep =>
      simp only [Except.ok.injEq, exists_eq_left', exists_eq', true_and, bind_eq_ok, ih, pure,
        Except.pure, List.filter_cons, hItem, Except.toOption, Option.getD_some]
      constructor
      · rintro ⟨kept', ⟨hRest, rfl⟩, rfl⟩
        exact ⟨hRest, rfl⟩
      · rintro ⟨hRest, rfl⟩
        exact ⟨_, ⟨hRest, rfl⟩, rfl⟩

theorem mapM_eq_ok {f : α → Except ε γ} {answers : List γ} :
    items.mapM f = .ok answers ↔
      List.Forall₂ (fun item answer => f item = .ok answer) items answers := by
  induction items generalizing answers with
  | nil => simp [pure, Except.pure, eq_comm]
  | cons first rest ih =>
    rw [List.mapM_cons, bind_eq_ok, List.forall₂_cons_left_iff]
    constructor
    · rintro ⟨a, hFirst, h⟩
      obtain ⟨as, hRest, h⟩ := bind_eq_ok.mp h
      exact ⟨a, as, hFirst, ih.mp hRest, (Except.ok.inj h).symm⟩
    · rintro ⟨a, as, hFirst, hRest, rfl⟩
      exact ⟨a, hFirst, bind_eq_ok.mpr ⟨as, ih.mpr hRest, rfl⟩⟩

theorem exists_mapM_iff {f : α → Except ε γ} :
    (∃ answers, items.mapM f = .ok answers) ↔ ∀ item ∈ items, ∃ answer, f item = .ok answer := by
  induction items with
  | nil => simp [pure, Except.pure]
  | cons first rest ih =>
    rw [List.forall_mem_cons, ← ih]
    simp only [mapM_eq_ok, List.forall₂_cons_left_iff]
    constructor
    · rintro ⟨_, a, as, hFirst, hRest, -⟩
      exact ⟨⟨a, hFirst⟩, as, hRest⟩
    · rintro ⟨⟨a, hFirst⟩, as, hRest⟩
      exact ⟨_, a, as, hFirst, hRest, rfl⟩

/-- What every answer keeps of its item, the list of answers keeps of the items. -/
theorem map_eq_of_mapM {ι : Type*} {f : α → Except ε γ} {answers : List γ} {key : α → ι}
    {key' : γ → ι} (h : items.mapM f = .ok answers)
    (hKeeps : ∀ item answer, f item = .ok answer → key' answer = key item) :
    answers.map key' = items.map key := by
  have hAnswers := mapM_eq_ok.mp h
  clear h
  induction hAnswers with
  | nil => rfl
  | cons hFirst _ ih => rw [List.map_cons, List.map_cons, hKeeps _ _ hFirst, ih]

/-- A map that returned has an answer for each item. -/
theorem mapM_ok_of_mem {f : α → Except ε γ} {answers : List γ}
    (h : items.mapM f = .ok answers) (hItem : item ∈ items) :
    ∃ answer ∈ answers, f item = .ok answer := by
  induction items generalizing answers with
  | nil => cases hItem
  | cons first rest ih =>
    rw [List.mapM_cons] at h
    obtain ⟨a, hFirst, h⟩ := bind_eq_ok.mp h
    obtain ⟨as, hRest, h⟩ := bind_eq_ok.mp h
    obtain rfl := Except.ok.inj h
    rcases List.mem_cons.mp hItem with rfl | hItem
    · exact ⟨a, List.mem_cons_self .., hFirst⟩
    · obtain ⟨answer, hMem, hAnswer⟩ := ih hRest hItem
      exact ⟨answer, List.mem_cons_of_mem _ hMem, hAnswer⟩

/-- A map that returned has only answers for its items. -/
theorem mapM_ok_mem {f : α → Except ε γ} {answers : List γ}
    (h : items.mapM f = .ok answers) {answer : γ} (hAnswer : answer ∈ answers) :
    ∃ item ∈ items, f item = .ok answer := by
  induction items generalizing answers with
  | nil =>
    obtain rfl := Except.ok.inj h
    cases hAnswer
  | cons first rest ih =>
    rw [List.mapM_cons] at h
    obtain ⟨a, hFirst, h⟩ := bind_eq_ok.mp h
    obtain ⟨as, hRest, h⟩ := bind_eq_ok.mp h
    obtain rfl := Except.ok.inj h
    rcases List.mem_cons.mp hAnswer with rfl | hAnswer
    · exact ⟨first, List.mem_cons_self .., hFirst⟩
    · obtain ⟨item, hMem, hItem⟩ := ih hRest hAnswer
      exact ⟨item, List.mem_cons_of_mem _ hMem, hItem⟩

/-- A map that keeps some of its answers returns where all answers do, and keeps them in order. -/
theorem filterMapM_eq_ok {f : α → Except ε (Option γ)} {kept : List γ} :
    items.filterMapM f = .ok kept ↔ ∃ answers,
      List.Forall₂ (fun item answer => f item = .ok answer) items answers ∧
        kept = answers.reduceOption := by
  induction items generalizing kept with
  | nil => simp [pure, Except.pure, eq_comm]
  | cons first rest ih =>
    simp only [List.filterMapM_cons, bind_eq_ok, List.forall₂_cons_left_iff]
    constructor
    · rintro ⟨answer, hFirst, h⟩
      cases answer with
      | none =>
        obtain ⟨answers, hRest, rfl⟩ := ih.mp h
        exact ⟨_, ⟨none, answers, hFirst, hRest, rfl⟩, rfl⟩
      | some a =>
        obtain ⟨later, hLater, h⟩ := bind_eq_ok.mp h
        obtain ⟨answers, hRest, rfl⟩ := ih.mp hLater
        exact ⟨_, ⟨some a, answers, hFirst, hRest, rfl⟩, (Except.ok.inj h).symm⟩
    · rintro ⟨_, ⟨answer, answers, hFirst, hRest, rfl⟩, rfl⟩
      refine ⟨answer, hFirst, ?_⟩
      have hLater := ih.mpr ⟨answers, hRest, rfl⟩
      cases answer with
      | none => exact hLater
      | some a => exact bind_eq_ok.mpr ⟨_, hLater, rfl⟩

/-! ### The errors that are raised -/

/-- Every error of the computation is one of those allowed. -/
def RaisesOnly (allowed : ε → Prop) (x : Except ε α) : Prop := ∀ e, x = .error e → allowed e

section RaisesOnly

variable {allowed : ε → Prop}

@[simp] theorem raisesOnly_ok {a : α} : RaisesOnly allowed (.ok a) := fun _ h => nomatch h

@[simp] theorem raisesOnly_pure {a : α} : RaisesOnly allowed (pure a) := raisesOnly_ok

@[simp] theorem raisesOnly_error {e : ε} :
    RaisesOnly allowed (.error e : Except ε α) ↔ allowed e := by
  constructor
  · intro h
    exact h e rfl
  · rintro h _ ⟨⟩
    exact h

@[simp] theorem raisesOnly_throw {e : ε} :
    RaisesOnly allowed (throw e : Except ε α) ↔ allowed e := raisesOnly_error

theorem raisesOnly_bind {x : Except ε α} {f : α → Except ε γ} :
    RaisesOnly allowed (x >>= f) ↔
      RaisesOnly allowed x ∧ ∀ a, x = .ok a → RaisesOnly allowed (f a) := by
  cases x with
  | error e => simp [bind, Except.bind]
  | ok a => simp [bind, Except.bind]

theorem RaisesOnly.guard {p : Prop} [Decidable p] {e : ε} {rest : Except ε α} (he : allowed e)
    (h : ¬ p → RaisesOnly allowed rest) : RaisesOnly allowed
      (if p then (throw e : Except ε PUnit) >>= fun _ => rest else rest) := by
  split_ifs with hp
  · exact raisesOnly_error.mpr he
  · exact h hp

theorem RaisesOnly.mono {allowed' : ε → Prop} {x : Except ε α} (h : RaisesOnly allowed x)
    (hMore : ∀ e, allowed e → allowed' e) : RaisesOnly allowed' x := fun e he => hMore e (h e he)

theorem RaisesOnly.bind {x : Except ε α} {f : α → Except ε γ} (hx : RaisesOnly allowed x)
    (hf : ∀ a, x = .ok a → RaisesOnly allowed (f a)) : RaisesOnly allowed (x >>= f) :=
  raisesOnly_bind.mpr ⟨hx, hf⟩

/-- The items are visited in turn, up to the first one that raises. -/
theorem raisesOnly_mapM {f : α → Except ε γ} : RaisesOnly allowed (items.mapM f) ↔
    ∀ earlier item later, items = earlier ++ item :: later →
      (∀ a ∈ earlier, ∃ c, f a = .ok c) → RaisesOnly allowed (f item) := by
  induction items with
  | nil => simp
  | cons first rest ih =>
    rw [List.mapM_cons, raisesOnly_bind]
    have hRest : ∀ a, RaisesOnly allowed (do let as ← rest.mapM f; pure (a :: as)) ↔
        RaisesOnly allowed (rest.mapM f) := by
      intro a
      rw [raisesOnly_bind]
      exact and_iff_left fun _ _ => raisesOnly_pure
    simp only [hRest, ih]
    constructor
    · rintro ⟨hFirst, hLater⟩ (_ | ⟨head, earlier⟩) item later hItems hEarlier
      · obtain ⟨rfl, -⟩ := List.cons.inj hItems
        exact hFirst
      · obtain ⟨rfl, hTail⟩ := List.cons.inj hItems
        rw [List.forall_mem_cons] at hEarlier
        obtain ⟨c, hc⟩ := hEarlier.1
        exact hLater c hc earlier item later hTail hEarlier.2
    · intro h
      refine ⟨h [] first rest rfl (by simp), fun c hc earlier item later hItems hEarlier => ?_⟩
      refine h (first :: earlier) item later (by rw [hItems, List.cons_append]) ?_
      exact List.forall_mem_cons.mpr ⟨⟨c, hc⟩, hEarlier⟩

theorem RaisesOnly.mapM {f : α → Except ε γ} (h : ∀ item ∈ items, RaisesOnly allowed (f item)) :
    RaisesOnly allowed (items.mapM f) := by
  refine raisesOnly_mapM.mpr fun earlier item later hItems _ => h item ?_
  rw [hItems]
  exact List.mem_append_right _ List.mem_cons_self

/-- Where no error of the test is allowed, the test returns for every item. -/
theorem raisesOnly_filterOk {α ε : Type} {allowed : ε → Prop} {p : α → Except ε Bool}
    {items : List α} (hTest : ∀ item e, p item = .error e → ¬ allowed e) :
    RaisesOnly allowed (filterOk p items) ↔ ∀ item ∈ items, ∃ keep, p item = .ok keep := by
  induction items with
  | nil => simp [filterOk]
  | cons item rest ih =>
    rw [filterOk, raisesOnly_bind, List.forall_mem_cons, ← ih]
    cases hItem : p item with
    | error e =>
      refine iff_of_false (fun h => hTest item e hItem (h.1 e rfl)) ?_
      rintro ⟨⟨keep, ⟨⟩⟩, -⟩
    | ok keep =>
      simp only [Except.ok.injEq, forall_eq', exists_eq', true_and, raisesOnly_ok]
      rw [raisesOnly_bind]
      exact and_iff_left fun _ _ => raisesOnly_pure

theorem RaisesOnly.foldlM {f : σ → α → Except ε σ}
    (h : ∀ s, ∀ item ∈ items, RaisesOnly allowed (f s item)) (s : σ) :
    RaisesOnly allowed (items.foldlM f s) := by
  induction items generalizing s with
  | nil => exact raisesOnly_ok
  | cons first rest ih =>
    rw [List.foldlM_cons, raisesOnly_bind]
    refine ⟨h s first List.mem_cons_self, fun s' _ => ih (fun s item hItem => ?_) s'⟩
    exact h s item (List.mem_cons_of_mem _ hItem)

end RaisesOnly

/-! ### Two runs -/

/-- Both computations return, with related results, or both raise, with related errors. -/
def Related (E : ε → ε → Prop) (R : α → α → Prop) : Except ε α → Except ε α → Prop
  | .ok a, .ok b => R a b
  | .error e, .error e' => E e e'
  | _, _ => False

section Related

variable {E : ε → ε → Prop} {R : γ → γ → Prop} {x y : Except ε α} {f g : α → Except ε γ}

theorem Related.bind {S : α → α → Prop} (h : Related E S x y)
    (hNext : ∀ a b, x = .ok a → y = .ok b → S a b → Related E R (f a) (g b)) :
    Related E R (x >>= f) (y >>= g) := by
  cases x with
  | ok a =>
    cases y with
    | ok b => exact hNext a b rfl rfl h
    | error e => exact h.elim
  | error e =>
    cases y with
    | ok b => exact h.elim
    | error e' => exact h

/-- Two equal computations, with two continuations. -/
theorem related_bind (hE : ∀ e, E e e) (h : x = y)
    (hNext : ∀ a, y = .ok a → Related E R (f a) (g a)) : Related E R (x >>= f) (y >>= g) := by
  rw [h]
  cases y with
  | ok a => exact hNext a rfl
  | error e => exact hE e

end Related

variable {f : σ → α → Except ε σ} {s t : σ} {P : σ → Prop}

theorem foldlM_keeps (h : items.foldlM f s = .ok t)
    (hStep : ∀ s item s', P s → f s item = .ok s' → P s') (hs : P s) : P t := by
  induction items generalizing s with
  | nil => exact Except.ok.inj h ▸ hs
  | cons first rest ih =>
    obtain ⟨s', hFirst, hRest⟩ := bind_eq_ok.mp ((List.foldlM_cons ..).symm.trans h)
    exact ih hRest (hStep s first s' hs hFirst)

/-- What one item brings about and every item keeps holds at the end. -/
theorem foldlM_establishes (h : items.foldlM f s = .ok t)
    (hStep : ∀ s item s', P s → f s item = .ok s' → P s') (hItem : item ∈ items)
    (hNew : ∀ s s', f s item = .ok s' → P s') : P t := by
  induction items generalizing s with
  | nil => cases hItem
  | cons first rest ih =>
    obtain ⟨s', hFirst, hRest⟩ := bind_eq_ok.mp ((List.foldlM_cons ..).symm.trans h)
    rcases List.mem_cons.mp hItem with rfl | hItem
    · exact foldlM_keeps hRest hStep (hNew s s' hFirst)
    · exact ih hRest hItem

theorem foldlM_append_eq_ok {later : List α} :
    (items ++ later).foldlM f s = .ok t ↔
      ∃ middle, items.foldlM f s = .ok middle ∧ later.foldlM f middle = .ok t := by
  rw [List.foldlM_append, bind_eq_ok]

theorem foldlM_cons_eq_ok : (item :: items).foldlM f s = .ok t ↔
    ∃ middle, f s item = .ok middle ∧ items.foldlM f middle = .ok t := by
  rw [List.foldlM_cons, bind_eq_ok]

/-- An invariant of a fold that may speak of the items seen so far. -/
theorem foldlM_prefix (Inv : List α → σ → Prop) (h : items.foldlM f s = .ok t) (hInit : Inv [] s)
    (hStep : ∀ before item after middle next, items = before ++ item :: after →
      before.foldlM f s = .ok middle → Inv before middle → f middle item = .ok next →
      Inv (before ++ [item]) next) : Inv items t := by
  suffices hPrefix : ∀ before after middle, items = before ++ after →
      before.foldlM f s = .ok middle → Inv before middle from
    hPrefix items [] t (List.append_nil _).symm h
  intro before
  induction before using List.reverseRecOn with
  | nil =>
    intro _ _ _ hMiddle
    exact Except.ok.inj hMiddle ▸ hInit
  | append_singleton before item ih =>
    intro after next hItems hNext
    rw [List.append_assoc] at hItems
    obtain ⟨middle, hMiddle, hLast⟩ := foldlM_append_eq_ok.mp hNext
    obtain ⟨_, hItem, hEnd⟩ := foldlM_cons_eq_ok.mp hLast
    obtain rfl := Except.ok.inj hEnd
    exact hStep before item after middle _ hItems hMiddle (ih _ _ hItems hMiddle) hItem

end Daybreak.Effect.Fallible
