import Daybreak.Effect.Dict

/-! Tables with a primary key. A row that conflicts with the key of another is not inserted, and
nothing of it is checked; a row that is new has to meet the other constraints of its table. -/

namespace Daybreak.Effect.Dict

variable {κ ρ γ ε : Type} [DecidableEq κ] {table table' : Dict κ ρ} {key : κ} {row : ρ}

def rows (table : Dict κ ρ) : List ρ := table.entries.map (·.2)

/-- No row has the value in a column that is `UNIQUE`. -/
def Unused (table : Dict κ ρ) (column : ρ → γ) (c : γ) : Prop := ∀ row ∈ rows table, column row ≠ c

instance decidableUnused [DecidableEq γ] (table : Dict κ ρ) (column : ρ → γ) (c : γ) :
    Decidable (Unused table column c) := by
  unfold Unused
  infer_instance

/-- `INSERT … ON CONFLICT (key) DO NOTHING` -/
def insertOrIgnore (table : Dict κ ρ) (key : κ) (row : ρ) (constraints : Except ε Unit) :
    Except ε (Dict κ ρ) :=
  if key ∈ table then .ok table else constraints.map fun _ => table.insert key row

theorem mem_rows : row ∈ rows table ↔ ∃ key, table.lookup key = some row := by
  simp only [rows, List.mem_map]
  constructor
  · rintro ⟨⟨key, row⟩, hEntry, rfl⟩
    exact ⟨key, AList.mem_lookup_iff.mpr hEntry⟩
  · rintro ⟨key, hRow⟩
    exact ⟨⟨key, row⟩, AList.mem_lookup_iff.mp hRow, rfl⟩

theorem unused_iff {column : ρ → γ} {c : γ} :
    Unused table column c ↔ ∀ key row, table.lookup key = some row → column row ≠ c := by
  simp only [Unused, mem_rows]
  exact ⟨fun h key row hRow => h row ⟨key, hRow⟩, fun h row ⟨key, hRow⟩ => h key row hRow⟩

theorem setDefault_of_mem (h : key ∈ table) : table.setDefault key row = table := by
  obtain ⟨existing, hExisting⟩ := Option.isSome_iff_exists.mp (AList.lookup_isSome.mpr h)
  exact setDefault_of_some hExisting

theorem setDefault_of_notMem (h : key ∉ table) : table.setDefault key row = table.insert key row :=
  setDefault_of_none (AList.lookup_eq_none.mpr h)

/-- A row is inserted where there was none, and is checked only there. -/
theorem insertOrIgnore_eq_ok {constraints : Except ε Unit} :
    insertOrIgnore table key row constraints = .ok table' ↔
      (key ∉ table → constraints = .ok ()) ∧ table' = table.setDefault key row := by
  unfold insertOrIgnore
  split_ifs with hKey
  · rw [setDefault_of_mem hKey]
    simp [hKey, eq_comm]
  · rw [setDefault_of_notMem hKey]
    cases constraints with
    | ok u => simp [Except.map, eq_comm]
    | error e => simp [Except.map, hKey]

theorem mem_setDefault {key' : κ} :
    key' ∈ table.setDefault key row ↔ key' = key ∨ key' ∈ table := by
  rw [← AList.lookup_isSome, ← AList.lookup_isSome, lookup_setDefault]
  split_ifs with hKey
  · simp [hKey]
  · simp [hKey]

end Daybreak.Effect.Dict
