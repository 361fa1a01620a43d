import Daybreak.Effect.NumberedLog
import Daybreak.Effect.Table

/-! Rows that are inserted under a unique key by writers that run at once. A writer inserts its row
where the key is neither taken nor being inserted by another, and else finds the key taken and
reads the row that is there. In the order of their answers the writers do what they would do one
after the other. -/

namespace Daybreak.Effect

variable {κ ρ ω : Type} [DecidableEq κ]

/-- What a transaction has done: it inserted its row, or found its key taken. -/
inductive Inserting (κ ρ : Type) where
  | inserted (key : κ) (row : ρ)
  | taken (key : κ) (row : ρ)

def Inserting.tried : Inserting κ ρ → κ × ρ
  | .inserted key row => (key, row)
  | .taken key row => (key, row)

/-- The rows that are committed, and the transactions under way. -/
structure KeyedInserts (κ ρ ω : Type) where
  rows : Dict κ ρ
  writing : ω → Option (Inserting κ ρ)

/-- A transaction that took effect: the row it found, if it did not insert its own, and whether
its writer was told. -/
structure Answered (κ ρ : Type) where
  key : κ
  row : ρ
  existing : Option ρ
  told : Bool

namespace KeyedInserts

def empty : KeyedInserts κ ρ ω := ⟨∅, fun _ => none⟩

variable [DecidableEq ω]

def goOn (s : KeyedInserts κ ρ ω) (w : ω) (x : Option (Inserting κ ρ)) : KeyedInserts κ ρ ω :=
  { s with writing := Function.update s.writing w x }

/-- One step of a writer, and what took effect with it. Where another transaction is inserting the
key, a writer waits; it may be stopped at any point. -/
inductive Step (s : KeyedInserts κ ρ ω) : List (Answered κ ρ) → KeyedInserts κ ρ ω → Prop
  | insert (w : ω) (key : κ) (row : ρ) : s.writing w = none → key ∉ s.rows →
      (∀ other row', s.writing other ≠ some (.inserted key row')) →
      Step s [] (s.goOn w (some (.inserted key row)))
  | conflict (w : ω) (key : κ) (row : ρ) : s.writing w = none → key ∈ s.rows →
      Step s [] (s.goOn w (some (.taken key row)))
  | commit (w : ω) (key : κ) (row : ρ) (told : Bool) : s.writing w = some (.inserted key row) →
      Step s [⟨key, row, none, told⟩]
        { rows := s.rows.insert key row, writing := Function.update s.writing w none }
  | read (w : ω) (key : κ) (row existing : ρ) : s.writing w = some (.taken key row) →
      s.rows.lookup key = some existing →
      Step s [⟨key, row, some existing, true⟩] (s.goOn w none)
  | leave (w : ω) : Step s [] (s.goOn w none)

inductive Run (s : KeyedInserts κ ρ ω) : List (Answered κ ρ) → KeyedInserts κ ρ ω → Prop
  | start : Run s [] s
  | step {history more : List (Answered κ ρ)} {t u : KeyedInserts κ ρ ω} :
      Run s history t → Step t more u → Run s (history ++ more) u

/-! ### One after the other -/

/-- The table after a transaction on its own. -/
def perform (rows : Dict κ ρ) (a : Answered κ ρ) : Dict κ ρ :=
  match rows.lookup a.key with
  | none => rows.insert a.key a.row
  | some _ => rows

/-- Transactions one after the other, each of which finds what is there. -/
inductive Sequential : List (Answered κ ρ) → Dict κ ρ → Prop
  | nil : Sequential [] ∅
  | concat {history : List (Answered κ ρ)} {rows : Dict κ ρ} (prior : Sequential history rows)
      (a : Answered κ ρ) (finds : a.existing = rows.lookup a.key) :
      Sequential (history ++ [a]) (perform rows a)

/-- A key that is being inserted is free, and is inserted by one transaction. -/
structure Sound (s : KeyedInserts κ ρ ω) : Prop where
  free : ∀ w key row, s.writing w = some (.inserted key row) → key ∉ s.rows
  alone : ∀ w other key row row', s.writing w = some (.inserted key row) →
    s.writing other = some (.inserted key row') → other = w
  taken : ∀ w key row, s.writing w = some (.taken key row) → key ∈ s.rows

variable {s t : KeyedInserts κ ρ ω} {history more : List (Answered κ ρ)} {rows : Dict κ ρ}

omit [DecidableEq κ] [DecidableEq ω] in
theorem sound_empty : (empty : KeyedInserts κ ρ ω).Sound :=
  ⟨fun _ _ _ h => (by cases h), fun _ _ _ _ _ h => (by cases h), fun _ _ _ h => (by cases h)⟩

omit [DecidableEq κ] in
theorem Sound.leave (h : s.Sound) (w : ω) : (s.goOn w none).Sound := by
  refine ⟨fun other key row hOther => ?_, fun other third key row row' hOther hThird => ?_,
    fun other key row hOther => ?_⟩
  · obtain ⟨-, hNone⟩ | ⟨-, hBefore⟩ := update_eq_some hOther
    · cases hNone
    · exact h.free other key row hBefore
  · obtain ⟨-, hNone⟩ | ⟨-, hBefore⟩ := update_eq_some hOther
    · cases hNone
    obtain ⟨-, hNone⟩ | ⟨-, hBefore'⟩ := update_eq_some hThird
    · cases hNone
    exact h.alone other third key row row' hBefore hBefore'
  · obtain ⟨-, hNone⟩ | ⟨-, hBefore⟩ := update_eq_some hOther
    · cases hNone
    · exact h.taken other key row hBefore

theorem Step.sound (hStep : Step s more t) (h : s.Sound) : t.Sound := by
  cases hStep with
  | insert w key row hIdle hFree hAlone =>
    refine ⟨fun other key' row' hOther => ?_, fun other third key' row₁ row₂ hOther hThird => ?_,
      fun other key' row' hOther => ?_⟩
    · obtain ⟨-, hNew⟩ | ⟨-, hBefore⟩ := update_eq_some hOther
      · cases hNew
        exact hFree
      · exact h.free other key' row' hBefore
    · obtain ⟨rfl, hNew⟩ | ⟨-, hBefore⟩ := update_eq_some hOther
      · cases hNew
        obtain ⟨rfl, -⟩ | ⟨-, hBefore'⟩ := update_eq_some hThird
        · rfl
        · exact absurd hBefore' (hAlone third row₂)
      · obtain ⟨-, hNew⟩ | ⟨-, hBefore'⟩ := update_eq_some hThird
        · cases hNew
          exact absurd hBefore (hAlone other row₁)
        · exact h.alone other third key' row₁ row₂ hBefore hBefore'
    · obtain ⟨-, hNew⟩ | ⟨-, hBefore⟩ := update_eq_some hOther
      · cases hNew
      · exact h.taken other key' row' hBefore
  | conflict w key row hIdle hTaken =>
    refine ⟨fun other key' row' hOther => ?_, fun other third key' row₁ row₂ hOther hThird => ?_,
      fun other key' row' hOther => ?_⟩
    · obtain ⟨-, hNew⟩ | ⟨-, hBefore⟩ := update_eq_some hOther
      · cases hNew
      · exact h.free other key' row' hBefore
    · obtain ⟨-, hNew⟩ | ⟨-, hBefore⟩ := update_eq_some hOther
      · cases hNew
      obtain ⟨-, hNew⟩ | ⟨-, hBefore'⟩ := update_eq_some hThird
      · cases hNew
      exact h.alone other third key' row₁ row₂ hBefore hBefore'
    · obtain ⟨-, hNew⟩ | ⟨-, hBefore⟩ := update_eq_some hOther
      · cases hNew
        exact hTaken
      · exact h.taken other key' row' hBefore
  | commit w key row told hInserted =>
    have hLeft := h.leave w
    refine ⟨fun other key' row' hOther hMem => ?_, hLeft.alone, fun other key' row' hOther => ?_⟩
    · rcases (AList.mem_insert _).mp hMem with rfl | hBefore
      · obtain ⟨-, hNone⟩ | ⟨hNe, hOther'⟩ := update_eq_some hOther
        · cases hNone
        · exact hNe (h.alone w other key' row row' hInserted hOther')
      · exact hLeft.free other key' row' hOther hBefore
    · exact (AList.mem_insert _).mpr (.inr (hLeft.taken other key' row' hOther))
  | read w key row existing hTaken hExisting => exact h.leave w
  | leave w => exact h.leave w

/-- A row is stored that a transaction inserted. -/
theorem Step.stored (hStep : Step s more t) {key : κ} {row : ρ}
    (h : t.rows.lookup key = some row) :
    s.rows.lookup key = some row ∨ ∃ w, s.writing w = some (.inserted key row) := by
  cases hStep with
  | commit w key' row' told hInserted =>
    by_cases hKey : key = key'
    · subst hKey
      rw [AList.lookup_insert] at h
      cases h
      exact .inr ⟨w, hInserted⟩
    · rw [AList.lookup_insert_ne hKey] at h
      exact .inl h
  | insert w key' row' _ _ _ => exact .inl h
  | conflict w key' row' _ _ => exact .inl h
  | read w key' row' existing _ _ => exact .inl h
  | leave w => exact .inl h

/-- What takes effect with a step is what the transaction does on its own. -/
theorem Step.sequential (hStep : Step s more t) (h : s.Sound)
    (hBefore : Sequential history s.rows) : Sequential (history ++ more) t.rows := by
  cases hStep with
  | insert w key row _ _ _ => rwa [List.append_nil]
  | conflict w key row _ _ => rwa [List.append_nil]
  | leave w => rwa [List.append_nil]
  | commit w key row told hInserted =>
    have hNone : s.rows.lookup key = none := AList.lookup_eq_none.mpr (h.free w key row hInserted)
    have hPerform : perform s.rows ⟨key, row, none, told⟩ = s.rows.insert key row := by
      rw [perform, hNone]
    rw [← hPerform]
    exact hBefore.concat ⟨key, row, none, told⟩ hNone.symm
  | read w key row existing hTaken hExisting =>
    have hPerform : perform s.rows ⟨key, row, some existing, true⟩ = s.rows := by
      rw [perform, hExisting]
    change Sequential _ s.rows
    rw [← hPerform]
    exact hBefore.concat ⟨key, row, some existing, true⟩ hExisting.symm

/-- In the order of their answers, the transactions are those of one writer. -/
theorem Run.sequential (h : Run empty history s) : s.Sound ∧ Sequential history s.rows := by
  induction h with
  | start => exact ⟨sound_empty, .nil⟩
  | step _ hStep ih => exact ⟨hStep.sound ih.1, hStep.sequential ih.1 ih.2⟩

omit [DecidableEq ω] in
theorem Sequential.mem_rows (h : Sequential history rows) {key : κ} :
    key ∈ rows ↔ ∃ a ∈ history, a.key = key := by
  induction h with
  | nil => exact ⟨fun h => absurd h (AList.notMem_empty key), fun ⟨_, h, _⟩ => (by cases h)⟩
  | @concat history rows prior a finds ih =>
    have hPerform : key ∈ perform rows a ↔ key ∈ rows ∨ a.key = key := by
      unfold perform
      cases hLookup : rows.lookup a.key with
      | none => rw [AList.mem_insert, or_comm, eq_comm]
      | some existing =>
        have hMem : a.key ∈ rows := AList.lookup_isSome.mp (by rw [hLookup]; rfl)
        exact ⟨.inl, fun h => h.elim id fun hKey => hKey ▸ hMem⟩
    rw [hPerform, ih]
    simp only [List.mem_append, List.mem_singleton, or_and_right, exists_or, exists_eq_left]

omit [DecidableEq ω] in
/-- Each transaction finds what the ones before it left. -/
theorem Sequential.of_append {a : Answered κ ρ} (h : Sequential (history ++ a :: more) rows) :
    ∃ before, Sequential history before ∧ a.existing = before.lookup a.key := by
  generalize hAll : history ++ a :: more = all at h
  induction h generalizing more with
  | nil => exact absurd hAll (List.append_ne_nil_of_right_ne_nil _ (List.cons_ne_nil _ _))
  | @concat earlier rows prior last finds ih =>
    rcases List.eq_nil_or_concat' more with rfl | ⟨more, b, rfl⟩
    · obtain ⟨rfl, rfl⟩ := List.append_singleton_inj.mp hAll
      exact ⟨rows, prior, finds⟩
    · rw [← List.cons_append, ← List.append_assoc] at hAll
      exact ih (List.append_singleton_inj.mp hAll).1

/-- A transaction under way can always be answered. -/
theorem Sound.can_answer (h : s.Sound) {w : ω} {x : Inserting κ ρ} (hWriting : s.writing w = some x) :
    ∃ a t, Step s [a] t ∧ (a.key, a.row) = x.tried ∧
      t.writing = Function.update s.writing w none := by
  cases x with
  | inserted key row => exact ⟨_, _, .commit w key row true hWriting, rfl, rfl⟩
  | taken key row =>
    obtain ⟨existing, hExisting⟩ :=
      Option.isSome_iff_exists.mp (AList.lookup_isSome.mpr (h.taken w key row hWriting))
    exact ⟨_, _, .read w key row existing hWriting hExisting, rfl, rfl⟩

end KeyedInserts

end Daybreak.Effect
