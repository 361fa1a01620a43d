import Daybreak.Serial.Decoded
import Mathlib.Data.List.Perm.Basic

/-! Values that are dumped as dictionaries, arrays and optional values. Two dumps have one
canonical form where their fields, their elements and what is optional have one. -/

namespace Daybreak.Serial.Decoded

open Daybreak.Order

variable {α : Type} {R : α → α → Prop} {write : α → Decoded} {a b : α}

/-- A tuple or a list. -/
def array (write : α → Decoded) (items : List α) : Decoded := .list (items.map write)

/-- `None`, or a value. -/
def optional (write : α → Decoded) : Option α → Decoded
  | .none => .none
  | .some a => write a

/-- A model as it is dumped: every field with what it is written as. -/
def record (fields : List (String × (α → Decoded))) (a : α) : Decoded :=
  .dict (fields.map fun field => (field.1, field.2 a))

/-! ### Canonical forms -/

theorem array_eq_iff (as bs : List α)
    (h : ∀ a ∈ as, ∀ b ∈ bs, ((write a).canonical = (write b).canonical ↔ R a b)) :
    (array write as).canonical = (array write bs).canonical ↔ List.Forall₂ R as bs := by
  unfold array
  rw [canonical, canonical, list.injEq]
  induction as generalizing bs with
  | nil =>
    cases bs with
    | nil => simp
    | cons b bs => simp [canonicalItems]
  | cons a as ih =>
    cases bs with
    | nil => simp [canonicalItems]
    | cons b bs =>
      have hFirst := h a List.mem_cons_self b List.mem_cons_self
      have hRest := ih bs fun a ha b hb =>
        h a (List.mem_cons_of_mem _ ha) b (List.mem_cons_of_mem _ hb)
      rw [List.map_cons, List.map_cons, canonicalItems, canonicalItems, List.cons.injEq, hFirst,
        hRest, List.forall₂_cons]

theorem optional_eq_iff {x y : Option α} (hNull : ∀ a, (write a).canonical ≠ .none)
    (h : ∀ a ∈ x, ∀ b ∈ y, ((write a).canonical = (write b).canonical ↔ R a b)) :
    (optional write x).canonical = (optional write y).canonical ↔ Option.Rel R x y := by
  cases x with
  | none =>
    cases y with
    | none => simp [optional]
    | some b => simpa [optional, canonical] using (hNull b).symm
  | some a =>
    cases y with
    | none => simpa [optional, canonical] using hNull a
    | some b => simpa [optional] using h a rfl b rfl

theorem canonicalEntries_eq_map (entries : List (String × Decoded)) :
    canonicalEntries entries = entries.map fun entry => (entry.1, entry.2.canonical) := by
  induction entries with
  | nil => rfl
  | cons entry entries ih =>
    obtain ⟨key, item⟩ := entry
    rw [canonicalEntries, ih, List.map_cons]

/-- A field of a record is found by its name. -/
theorem lookup_record {fields : List (String × (α → Decoded))} (hNodup : (fields.map (·.1)).Nodup)
    {field : String × (α → Decoded)} (hField : field ∈ fields) (a : α) :
    (fields.map fun field => (field.1, field.2 a)).lookup field.1 = some (field.2 a) := by
  induction fields with
  | nil => cases hField
  | cons first fields ih =>
    rw [List.map_cons, List.nodup_cons] at hNodup
    rw [List.map_cons, List.lookup_cons]
    rcases List.mem_cons.mp hField with rfl | hLater
    · rw [beq_self_eq_true]
    · have hOther : field.1 ≠ first.1 := by
        intro hSame
        exact hNodup.1 (hSame ▸ List.mem_map_of_mem hLater)
      rw [beq_false_of_ne hOther]
      exact ih hNodup.2 hLater

/-- A dump tells its fields, and no more. -/
theorem record_eq_iff {fields : List (String × (α → Decoded))} (hNodup : (fields.map (·.1)).Nodup) :
    (record fields a).canonical = (record fields b).canonical ↔
      ∀ field ∈ fields, (field.2 a).canonical = (field.2 b).canonical := by
  constructor
  · intro h field hField
    have hFound := lookup_of_canonical_eq h field.1
    rw [lookup_record hNodup hField, lookup_record hNodup hField] at hFound
    exact Option.some.inj hFound
  · intro h
    have hEntries : (fields.map fun field => (field.1, (field.2 a).canonical)) =
        fields.map fun field => (field.1, (field.2 b).canonical) :=
      List.map_congr_left fun field hField => by rw [h field hField]
    unfold record
    rw [canonical, canonical, canonicalEntries_eq_map, canonicalEntries_eq_map, List.map_map,
      List.map_map]
    exact congrArg (fun entries => dict (sortedBy Prod.fst entries)) hEntries

/-- Dictionaries of texts, each key once, have one canonical form where they have the same
entries. -/
theorem texts_eq_iff {as bs : List (String × String)} (has : (as.map (·.1)).Nodup) :
    (dict (as.map fun entry => (entry.1, .str entry.2))).canonical =
      (dict (bs.map fun entry => (entry.1, .str entry.2))).canonical ↔ as.Perm bs := by
  have hEntries (entries : List (String × String)) :
      canonicalEntries (entries.map fun entry => (entry.1, .str entry.2)) =
        entries.map fun entry => (entry.1, .str entry.2) := by
    rw [canonicalEntries_eq_map, List.map_map]
    rfl
  have hInjective : Function.Injective fun entry : String × String =>
      (entry.1, Decoded.str entry.2) := by
    rintro ⟨k, s⟩ ⟨l, t⟩ hSame
    simpa using hSame
  rw [canonical, canonical, dict.injEq, hEntries, hEntries]
  constructor
  · intro h
    have hPerm := (sortedBy_perm Prod.fst _).symm.trans (h ▸ sortedBy_perm Prod.fst _)
    exact ((List.map_perm_map_iff hInjective).mp hPerm).symm
  · intro hPerm
    refine (sortedBy_eq_of_perm ?_ (hPerm.symm.map _)).symm
    have hKeys : ((as.map fun entry => (entry.1, Decoded.str entry.2)).map Prod.fst).Nodup := by
      rwa [List.map_map]
    exact fun x hx y hy hSame => List.inj_on_of_nodup_map hKeys hx hy hSame

/-! ### Finite doubles -/

theorem finite_array {items : List α} :
    (array write items).finite = true ↔ ∀ a ∈ items, (write a).finite = true := by
  unfold array
  rw [finite]
  induction items with
  | nil => simp [finiteItems]
  | cons a items ih => simp [finiteItems, ih]

theorem finite_optional {x : Option α} :
    (optional write x).finite = true ↔ ∀ a ∈ x, (write a).finite = true := by
  cases x <;> simp [optional, finite]

theorem finite_record {fields : List (String × (α → Decoded))} :
    (record fields a).finite = true ↔ ∀ field ∈ fields, (field.2 a).finite = true := by
  unfold record
  rw [finite, finiteEntries_eq_all, List.all_map, List.all_eq_true]
  rfl

end Daybreak.Serial.Decoded
