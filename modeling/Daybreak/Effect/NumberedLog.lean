import Daybreak.Numeric.Largest
import Mathlib.Algebra.GroupWithZero.Nat
import Mathlib.Data.List.Range

/-! Logs whose rows are numbered under their keys, by writers that take turns at will. A writer
claims a number that is not past the next one at that time, and inserts its row later, where no
other row has the key and the number. Then no number of a key is missing and none is given twice,
whoever claims when. Where claims past the first number are made under exclusion, none of them is
refused. -/

namespace Daybreak.Effect

open Numeric

variable {κ β ω : Type*} [DecidableEq κ]

/-- A row of a log. -/
structure Row (κ β : Type*) where
  key : κ
  number : ℕ
  body : β
  deriving DecidableEq

/-! ### Numbers -/

namespace Row

variable {rows : List (Row κ β)} {row : Row κ β} {key : κ} {n : ℕ}

/-- The rows of a key, in the order in which they were added. -/
def under (key : κ) (rows : List (Row κ β)) : List (Row κ β) := rows.filter (·.key = key)

def numbers (key : κ) (rows : List (Row κ β)) : List ℕ := (under key rows).map (·.number)

/-- `COALESCE(MAX(number), 0) + 1` -/
def next (key : κ) (rows : List (Row κ β)) : ℕ := largest (numbers key rows) + 1

/-- The numbers of a key are one, two and so on. -/
def Contiguous (rows : List (Row κ β)) : Prop :=
  ∀ key, numbers key rows = List.range' 1 (numbers key rows).length

theorem mem_numbers : n ∈ numbers key rows ↔ ∃ row ∈ rows, row.key = key ∧ row.number = n := by
  simp [numbers, under, and_assoc]

theorem under_append_self (rows : List (Row κ β)) (row : Row κ β) :
    under row.key (rows ++ [row]) = under row.key rows ++ [row] := by
  simp [under]

theorem under_append_of_ne (h : row.key ≠ key) : under key (rows ++ [row]) = under key rows := by
  simp [under, h]

theorem numbers_append_self (rows : List (Row κ β)) (row : Row κ β) :
    numbers row.key (rows ++ [row]) = numbers row.key rows ++ [row.number] := by
  rw [numbers, under_append_self, List.map_append]
  rfl

theorem numbers_append_of_ne (h : row.key ≠ key) :
    numbers key (rows ++ [row]) = numbers key rows := by
  rw [numbers, under_append_of_ne h, numbers]

theorem next_append_of_ne (h : row.key ≠ key) : next key (rows ++ [row]) = next key rows := by
  rw [next, numbers_append_of_ne h, next]

theorem next_le_append (key : κ) (rows : List (Row κ β)) (row : Row κ β) :
    next key rows ≤ next key (rows ++ [row]) := by
  by_cases h : row.key = key
  · subst h
    rw [next, next, numbers_append_self, largest_append]
    exact Nat.succ_le_succ (le_max_left _ _)
  · rw [next_append_of_ne h]

theorem one_le_next (key : κ) (rows : List (Row κ β)) : 1 ≤ next key rows := Nat.succ_pos _

theorem contiguous_nil : Contiguous ([] : List (Row κ β)) := fun _ => rfl

theorem largest_range' (n : ℕ) : largest (List.range' 1 n) = n := by
  induction n with
  | zero => rfl
  | succ n ih =>
    rw [List.range'_concat, largest_append, ih, largest_cons, largest_nil]
    omega

theorem Contiguous.next_eq (h : Contiguous rows) (key : κ) :
    next key rows = (numbers key rows).length + 1 := by
  rw [next, h key, largest_range', List.length_range']

theorem Contiguous.mem_iff (h : Contiguous rows) : n ∈ numbers key rows ↔ 1 ≤ n ∧ n < next key rows := by
  rw [h.next_eq key, h key, List.mem_range'_1, List.length_range']
  omega

/-- A number up to the next one that no row has is the next one. -/
theorem Contiguous.eq_next (h : Contiguous rows) (hBounds : 1 ≤ n ∧ n ≤ next key rows)
    (hFree : n ∉ numbers key rows) : n = next key rows := by
  rw [h.mem_iff] at hFree
  omega

theorem Contiguous.append (h : Contiguous rows) (hNext : row.number = next row.key rows) :
    Contiguous (rows ++ [row]) := by
  intro key
  by_cases hKey : row.key = key
  · subst hKey
    rw [numbers_append_self, List.length_append, List.length_singleton, List.range'_concat,
      ← h row.key, hNext, h.next_eq]
    simp [Nat.add_comm]
  · rw [numbers_append_of_ne hKey]
    exact h key

end Row

/-! ### Writers -/

open Row

/-- What is under way after a writer went on: that of the writer, or of another as before. -/
theorem update_eq_some {α : Type*} [DecidableEq ω] {f : ω → Option α} {w other : ω}
    {x : Option α} {a : α} (h : Function.update f w x other = some a) :
    (other = w ∧ x = some a) ∨ (other ≠ w ∧ f other = some a) := by
  by_cases hOther : other = w
  · subst hOther
    exact .inl ⟨rfl, by simpa using h⟩
  · rw [Function.update_of_ne hOther] at h
    exact .inr ⟨hOther, h⟩

/-- What a writer has under way. -/
inductive Writing (κ β : Type*) where
  | claimed (key : κ) (number : ℕ)
  | inserted (row : Row κ β)

/-- The writer goes on with a key that has rows. -/
def Writing.Follows (key : κ) : Writing κ β → Prop
  | .claimed k n => k = key ∧ 2 ≤ n
  | .inserted row => row.key = key ∧ 2 ≤ row.number

/-- The rows that are committed, and the writers. -/
structure NumberedLog (κ β ω : Type*) where
  rows : List (Row κ β)
  writing : ω → Option (Writing κ β)

namespace NumberedLog

variable [DecidableEq ω] {exclusive : Prop} {s t : NumberedLog κ β ω}

def empty : NumberedLog κ β ω := ⟨[], fun _ => none⟩

/-- No other writer goes on with the key. -/
def Alone (s : NumberedLog κ β ω) (w : ω) (key : κ) : Prop :=
  ∀ other ≠ w, ∀ writing ∈ s.writing other, ¬ writing.Follows key

/-- One step of the writers. Where the log is exclusive, a claim past the first number is for the
next one, and is made by the only writer that goes on with the key. -/
inductive Step (exclusive : Prop) (s : NumberedLog κ β ω) : NumberedLog κ β ω → Prop
  | still : Step exclusive s s
  | claim (w : ω) (key : κ) (n : ℕ) : 1 ≤ n → n ≤ next key s.rows →
      (exclusive → 2 ≤ n → n = next key s.rows ∧ s.Alone w key) →
      Step exclusive s { s with writing := Function.update s.writing w (some (.claimed key n)) }
  | insert (w : ω) (row : Row κ β) : s.writing w = some (.claimed row.key row.number) →
      row.number ∉ numbers row.key s.rows →
      (∀ other row', s.writing other = some (.inserted row') → row'.key = row.key →
        row'.number ≠ row.number) →
      Step exclusive s { s with writing := Function.update s.writing w (some (.inserted row)) }
  | commit (w : ω) (row : Row κ β) : s.writing w = some (.inserted row) →
      Step exclusive s ⟨s.rows ++ [row], Function.update s.writing w none⟩
  | leave (w : ω) : Step exclusive s { s with writing := Function.update s.writing w none }

/-! ### What every step keeps -/

/-- The rows are numbered without a gap, a claim is not past the next number, and a row that was
inserted has it, alone under its key. -/
structure Sound (s : NumberedLog κ β ω) : Prop where
  contiguous : Contiguous s.rows
  claimed : ∀ w key n, s.writing w = some (.claimed key n) → 1 ≤ n ∧ n ≤ next key s.rows
  inserted : ∀ w row, s.writing w = some (.inserted row) → row.number = next row.key s.rows
  apart : ∀ w w' row row', s.writing w = some (.inserted row) →
    s.writing w' = some (.inserted row') → row.key = row'.key → w = w'

omit [DecidableEq ω] in
theorem Sound.empty : (empty : NumberedLog κ β ω).Sound :=
  ⟨contiguous_nil, nofun, nofun, nofun⟩

/-- A writer that leaves, or claims a number, keeps what the others have inserted. -/
theorem Sound.replace (h : s.Sound) (w : ω) {x : Option (Writing κ β)}
    (hClaim : ∀ key n, x = some (.claimed key n) → 1 ≤ n ∧ n ≤ next key s.rows)
    (hNot : ∀ row, x ≠ some (.inserted row)) :
    Sound { s with writing := Function.update s.writing w x } := by
  refine ⟨h.contiguous, fun other key n hOther => ?_, fun other row hOther => ?_,
    fun other other' row row' hOther hOther' hKey => ?_⟩
  · obtain ⟨-, hNew⟩ | ⟨-, hOld⟩ := update_eq_some hOther
    · exact hClaim key n hNew
    · exact h.claimed other key n hOld
  · obtain ⟨-, hNew⟩ | ⟨-, hOld⟩ := update_eq_some hOther
    · exact absurd hNew (hNot row)
    · exact h.inserted other row hOld
  · obtain ⟨-, hNew⟩ | ⟨-, hOld⟩ := update_eq_some hOther
    · exact absurd hNew (hNot row)
    · obtain ⟨-, hNew'⟩ | ⟨-, hOld'⟩ := update_eq_some hOther'
      · exact absurd hNew' (hNot row')
      · exact h.apart other other' row row' hOld hOld' hKey

theorem Sound.insert (h : s.Sound) {w : ω} {row : Row κ β}
    (hClaimed : s.writing w = some (.claimed row.key row.number))
    (hFree : row.number ∉ numbers row.key s.rows)
    (hOthers : ∀ other row', s.writing other = some (.inserted row') → row'.key = row.key →
      row'.number ≠ row.number) :
    Sound { s with writing := Function.update s.writing w (some (.inserted row)) } := by
  have hNext : row.number = next row.key s.rows :=
    h.contiguous.eq_next (h.claimed w row.key row.number hClaimed) hFree
  -- Another row under the key would have the same number.
  have hAlone : ∀ other row', s.writing other = some (.inserted row') → row'.key ≠ row.key := by
    intro other row' hOther hKey
    refine hOthers other row' hOther hKey ?_
    rw [h.inserted other row' hOther, hKey, hNext]
  refine ⟨h.contiguous, fun other key n hOther => ?_, fun other row' hOther => ?_,
    fun other other' row₁ row₂ hOther hOther' hKey => ?_⟩
  · obtain ⟨-, hNew⟩ | ⟨-, hOld⟩ := update_eq_some hOther
    · cases hNew
    · exact h.claimed other key n hOld
  · obtain ⟨-, hNew⟩ | ⟨-, hOld⟩ := update_eq_some hOther
    · cases hNew
      exact hNext
    · exact h.inserted other row' hOld
  · obtain ⟨rfl, hNew⟩ | ⟨-, hOld⟩ := update_eq_some hOther
    · obtain ⟨rfl, -⟩ | ⟨-, hOld'⟩ := update_eq_some hOther'
      · rfl
      · cases hNew
        exact absurd hKey.symm (hAlone other' row₂ hOld')
    · obtain ⟨rfl, hNew'⟩ | ⟨-, hOld'⟩ := update_eq_some hOther'
      · cases hNew'
        exact absurd hKey (hAlone other row₁ hOld)
      · exact h.apart other other' row₁ row₂ hOld hOld' hKey

theorem Sound.commit (h : s.Sound) {w : ω} {row : Row κ β}
    (hInserted : s.writing w = some (.inserted row)) :
    Sound (⟨s.rows ++ [row], Function.update s.writing w none⟩ : NumberedLog κ β ω) := by
  refine ⟨h.contiguous.append (h.inserted w row hInserted), fun other key n hOther => ?_,
    fun other row' hOther => ?_, fun other other' row₁ row₂ hOther hOther' hKey => ?_⟩
  · obtain ⟨-, hNew⟩ | ⟨-, hOld⟩ := update_eq_some hOther
    · cases hNew
    · obtain ⟨hPos, hLe⟩ := h.claimed other key n hOld
      exact ⟨hPos, hLe.trans (next_le_append key s.rows row)⟩
  · obtain ⟨-, hNew⟩ | ⟨hNe, hOld⟩ := update_eq_some hOther
    · cases hNew
    · have hKey : row.key ≠ row'.key := fun hKey =>
        hNe (h.apart other w row' row hOld hInserted hKey.symm)
      rw [next_append_of_ne hKey]
      exact h.inserted other row' hOld
  · obtain ⟨-, hNew⟩ | ⟨-, hOld⟩ := update_eq_some hOther
    · cases hNew
    · obtain ⟨-, hNew'⟩ | ⟨-, hOld'⟩ := update_eq_some hOther'
      · cases hNew'
      · exact h.apart other other' row₁ row₂ hOld hOld' hKey

theorem Sound.step (h : s.Sound) (hStep : Step exclusive s t) : t.Sound := by
  cases hStep with
  | still => exact h
  | claim w key n hPos hLe _ =>
    refine h.replace w (fun key' n' hNew => ?_) nofun
    cases hNew
    exact ⟨hPos, hLe⟩
  | insert w row hClaimed hFree hOthers => exact h.insert hClaimed hFree hOthers
  | commit w row hInserted => exact h.commit hInserted
  | leave w => exact h.replace w nofun nofun

/-! ### Exclusive claims -/

/-- Who goes on with a key is alone in it, and has its next number. -/
structure Current (s : NumberedLog κ β ω) : Prop where
  alone : ∀ w key writing, s.writing w = some writing → writing.Follows key → s.Alone w key
  claimed : ∀ w key n, s.writing w = some (.claimed key n) → 2 ≤ n → n = next key s.rows

omit [DecidableEq ω] in
theorem Current.empty : (empty : NumberedLog κ β ω).Current := ⟨nofun, nofun⟩

/-- Where what a writer has under way goes on with less, and no row is added. -/
theorem Current.replace (h : s.Current) (w : ω) {x : Option (Writing κ β)}
    (hFollows : ∀ writing key, x = some writing → writing.Follows key →
      ∃ old, s.writing w = some old ∧ old.Follows key)
    (hClaim : ∀ key n, x = some (.claimed key n) → 2 ≤ n → n = next key s.rows) :
    Current { s with writing := Function.update s.writing w x } := by
  constructor
  · intro other key writing hOther hKey third hThird writing' hWriting' hKey'
    obtain ⟨rfl, hNew⟩ | ⟨hNe, hOld⟩ := update_eq_some hOther
    · obtain ⟨old, hBefore, hOldKey⟩ := hFollows writing key hNew hKey
      obtain ⟨hThirdEq, -⟩ | ⟨-, hOld'⟩ := update_eq_some hWriting'
      · exact hThird hThirdEq
      · exact h.alone other key old hBefore hOldKey third hThird writing' hOld' hKey'
    · obtain ⟨rfl, hNew'⟩ | ⟨-, hOld'⟩ := update_eq_some hWriting'
      · obtain ⟨old, hBefore, hOldKey⟩ := hFollows writing' key hNew' hKey'
        exact h.alone other key writing hOld hKey third hThird old hBefore hOldKey
      · exact h.alone other key writing hOld hKey third hThird writing' hOld' hKey'
  · intro other key n hOther hTwo
    obtain ⟨-, hNew⟩ | ⟨-, hOld⟩ := update_eq_some hOther
    · exact hClaim key n hNew hTwo
    · exact h.claimed other key n hOld hTwo

theorem Current.claim (h : s.Current) {w : ω} {key : κ} {n : ℕ}
    (hExclusive : 2 ≤ n → n = next key s.rows ∧ s.Alone w key) :
    Current { s with writing := Function.update s.writing w (some (.claimed key n)) } := by
  constructor
  · intro other key' writing hOther hKey third hThird writing' hWriting' hKey'
    obtain ⟨rfl, hNew⟩ | ⟨hNe, hOld⟩ := update_eq_some hOther
    · obtain rfl := Option.some.inj hNew
      obtain ⟨rfl, hTwo⟩ := hKey
      obtain ⟨hThirdEq, -⟩ | ⟨-, hOld'⟩ := update_eq_some hWriting'
      · exact hThird hThirdEq
      · exact (hExclusive hTwo).2 third hThird writing' hOld' hKey'
    · obtain ⟨rfl, hNew'⟩ | ⟨-, hOld'⟩ := update_eq_some hWriting'
      · obtain rfl := Option.some.inj hNew'
        obtain ⟨rfl, hTwo⟩ := hKey'
        exact (hExclusive hTwo).2 other hNe writing hOld hKey
      · exact h.alone other key' writing hOld hKey third hThird writing' hOld' hKey'
  · intro other key' n' hOther hTwo
    obtain ⟨-, hNew⟩ | ⟨-, hOld⟩ := update_eq_some hOther
    · cases hNew
      exact (hExclusive hTwo).1
    · exact h.claimed other key' n' hOld hTwo

/-- A row of another key changes no claim; under its own key, nobody else goes on. -/
theorem Current.commit (h : s.Current) (hSound : s.Sound) {w : ω} {row : Row κ β}
    (hInserted : s.writing w = some (.inserted row)) :
    Current (⟨s.rows ++ [row], Function.update s.writing w none⟩ : NumberedLog κ β ω) := by
  constructor
  · intro other key writing hOther hKey third hThird writing' hWriting' hKey'
    obtain ⟨-, hNew⟩ | ⟨-, hOld⟩ := update_eq_some hOther
    · cases hNew
    · obtain ⟨-, hNew'⟩ | ⟨-, hOld'⟩ := update_eq_some hWriting'
      · cases hNew'
      · exact h.alone other key writing hOld hKey third hThird writing' hOld' hKey'
  · intro other key n hOther hTwo
    obtain ⟨-, hNew⟩ | ⟨hNe, hOld⟩ := update_eq_some hOther
    · cases hNew
    have hClaimed := h.claimed other key n hOld hTwo
    by_cases hKey : row.key = key
    · subst hKey
      -- The row has the next number, which is not the first: its writer goes on with the key.
      have hFollows : (Writing.inserted row).Follows row.key :=
        ⟨rfl, by rw [hSound.inserted w row hInserted, ← hClaimed]; exact hTwo⟩
      exact absurd ⟨rfl, hTwo⟩ (h.alone w row.key _ hInserted hFollows other hNe _ hOld)
    · rw [next_append_of_ne hKey]
      exact hClaimed

theorem Current.step (h : s.Current) (hSound : s.Sound) (hExclusive : exclusive)
    (hStep : Step exclusive s t) : t.Current := by
  cases hStep with
  | still => exact h
  | claim w key n _ _ hAlone => exact h.claim (hAlone hExclusive)
  | insert w row hClaimed _ _ =>
    refine h.replace w (fun writing key hNew hKey => ?_) nofun
    obtain rfl := Option.some.inj hNew
    exact ⟨_, hClaimed, hKey⟩
  | commit w row hInserted => exact h.commit hSound hInserted
  | leave w => exact h.replace w nofun nofun

omit [DecidableEq ω] in
/-- A claim past the first number is not refused, and waits for nobody. -/
theorem Current.free (h : s.Current) (hSound : s.Sound) {w : ω} {key : κ} {n : ℕ}
    (hClaimed : s.writing w = some (.claimed key n)) (hTwo : 2 ≤ n) :
    n ∉ numbers key s.rows ∧ ∀ other row, s.writing other = some (.inserted row) →
      row.key = key → row.number ≠ n := by
  have hNext := h.claimed w key n hClaimed hTwo
  refine ⟨fun hMem => ?_, fun other row hInserted hKey hNumber => ?_⟩
  · have hLess := (hSound.contiguous.mem_iff.mp hMem).2
    omega
  · have hOther : other ≠ w := by
      rintro rfl
      rw [hClaimed] at hInserted
      cases hInserted
    exact h.alone w key _ hClaimed ⟨rfl, hTwo⟩ other hOther _ hInserted
      ⟨hKey, hNumber ▸ hTwo⟩

end NumberedLog

end Daybreak.Effect
