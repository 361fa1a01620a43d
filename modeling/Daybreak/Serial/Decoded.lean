import Daybreak.Order.Sorting
import Mathlib.Data.String.Basic

/-! What a JSON text is decoded to: dictionaries in the order of the text, and doubles by
their texts. Two values with the same canonical form differ in the order of their keys only. -/

namespace Daybreak.Serial

open Daybreak.Order

/-- The texts of the doubles that are no finite numbers. -/
def nonFiniteTexts : List String := ["inf", "-inf", "nan"]

/-- The characters of the text of a finite double. -/
def isFloatChar (c : Char) : Bool := c.isDigit || c ∈ ['-', '+', '.', 'e']

/-- A finite double is written with a point or an exponent. -/
def isFloatText (text : String) : Bool :=
  text.toList.all isFloatChar && text.toList.any (· ∈ ['.', 'e'])

/-- A double, by its `repr`. -/
structure PyFloat where
  text : String
  wellFormed : text ∈ nonFiniteTexts ∨ isFloatText text = true
  deriving DecidableEq, Repr

/-- `math.isfinite(x)` -/
def PyFloat.isfinite (x : PyFloat) : Bool := x.text ∉ nonFiniteTexts

/-- `x == 0` -/
def PyFloat.isZero (x : PyFloat) : Bool := x.text ∈ ["0.0", "-0.0"]

inductive Decoded where
  | none
  | bool (b : Bool)
  | int (n : ℤ)
  | float (x : PyFloat)
  | str (s : String)
  | list (items : List Decoded)
  | dict (items : List (String × Decoded))
  deriving Repr

namespace Decoded

/-- `bool(value)` -/
def truthy : Decoded → Bool
  | .none => false
  | .bool b => b
  | .int n => n ≠ 0
  | .float x => !x.isZero
  | .str s => s ≠ ""
  | .list items => !items.isEmpty
  | .dict items => !items.isEmpty

/-- Whether the value is `None`. -/
def isNone : Decoded → Bool
  | .none => true
  | _ => false

mutual

/-- No double in the value is infinite or not a number. -/
def finite : Decoded → Bool
  | .float x => x.isfinite
  | .list items => finiteItems items
  | .dict items => finiteEntries items
  | _ => true

def finiteItems : List Decoded → Bool
  | [] => true
  | item :: items => item.finite && finiteItems items

def finiteEntries : List (String × Decoded) → Bool
  | [] => true
  | (_, item) :: items => item.finite && finiteEntries items

end

mutual

/-- The value with the keys of every dictionary sorted. -/
def canonical : Decoded → Decoded
  | .list items => .list (canonicalItems items)
  | .dict items => .dict (sortedBy Prod.fst (canonicalEntries items))
  | v => v

def canonicalItems : List Decoded → List Decoded
  | [] => []
  | item :: items => item.canonical :: canonicalItems items

def canonicalEntries : List (String × Decoded) → List (String × Decoded)
  | [] => []
  | (key, item) :: items => (key, item.canonical) :: canonicalEntries items

end

end Decoded

/-- A dictionary, by its entries. -/
abbrev Entries := List (String × Decoded)

/-- `value.get(key, default)` -/
def fieldOr (entries : Entries) (key : String) (default : Decoded) : Decoded :=
  (entries.lookup key).getD default

/-- `value.get(key)` -/
def field (entries : Entries) (key : String) : Decoded := fieldOr entries key .none

/-! ### Canonical forms -/

/-- An entry that is put among entries with other keys is found by its own key alone. -/
theorem lookup_orderedInsert {α : Type} (key : String) (entry : String × α)
    (entries : List (String × α)) :
    (entries.orderedInsert (fun a b => a.1 ≤ b.1) entry).lookup key =
      (entry :: entries).lookup key := by
  induction entries with
  | nil => rfl
  | cons first entries ih =>
    rw [List.orderedInsert_cons]
    split_ifs with hFront
    · rfl
    · have hOther : entry.1 ≠ first.1 := fun h => hFront h.le
      rw [List.lookup_cons, ih, List.lookup_cons, List.lookup_cons, List.lookup_cons]
      by_cases hKey : key = first.1
      · have hFirst : (key == first.1) = true := beq_iff_eq.mpr hKey
        have hEntry : (key == entry.1) = false := beq_false_of_ne fun h => hOther (h.symm.trans hKey)
        rw [hFirst, hEntry]
      · have hFirst : (key == first.1) = false := beq_false_of_ne hKey
        rw [hFirst]

/-- Sorting by the keys keeps what is found under a key. -/
theorem lookup_sortedBy {α : Type} (key : String) (entries : List (String × α)) :
    (sortedBy Prod.fst entries).lookup key = entries.lookup key := by
  induction entries with
  | nil => rfl
  | cons entry entries ih =>
    change ((sortedBy Prod.fst entries).orderedInsert (fun a b => a.1 ≤ b.1) entry).lookup key = _
    rw [lookup_orderedInsert, List.lookup_cons, List.lookup_cons, ih]

theorem lookup_canonicalEntries (key : String) (entries : Entries) :
    (Decoded.canonicalEntries entries).lookup key =
      (entries.lookup key).map Decoded.canonical := by
  induction entries with
  | nil => rfl
  | cons entry entries ih =>
    obtain ⟨name, item⟩ := entry
    rw [Decoded.canonicalEntries, List.lookup_cons, List.lookup_cons]
    cases key == name with
    | true => rfl
    | false => exact ih

/-- Values with one canonical form have values with one canonical form under each key. -/
theorem lookup_of_canonical_eq {as bs : Entries}
    (h : (Decoded.dict as).canonical = (Decoded.dict bs).canonical) (key : String) :
    (as.lookup key).map Decoded.canonical = (bs.lookup key).map Decoded.canonical := by
  simp only [Decoded.canonical, Decoded.dict.injEq] at h
  rw [← lookup_canonicalEntries, ← lookup_sortedBy, h, lookup_sortedBy, lookup_canonicalEntries]

theorem fieldOr_of_canonical_eq {as bs : Entries} {default default' : Decoded}
    (h : (Decoded.dict as).canonical = (Decoded.dict bs).canonical) (key : String)
    (hDefault : default.canonical = default'.canonical) :
    (fieldOr as key default).canonical = (fieldOr bs key default').canonical := by
  have hLookup := lookup_of_canonical_eq h key
  unfold fieldOr
  cases ha : as.lookup key with
  | none =>
    cases hb : bs.lookup key with
    | none => exact hDefault
    | some b => simp [ha, hb] at hLookup
  | some a =>
    cases hb : bs.lookup key with
    | none => simp [ha, hb] at hLookup
    | some b => simpa [ha, hb] using hLookup

/-- What a value is true of is told by its canonical form. -/
theorem truthy_of_canonical_eq {v w : Decoded} (h : v.canonical = w.canonical) :
    v.truthy = w.truthy := by
  have hTruthy (v : Decoded) : v.canonical.truthy = v.truthy := by
    cases v with
    | list items => cases items <;> rfl
    | dict items =>
      have hLength : (sortedBy Prod.fst (Decoded.canonicalEntries items)).length =
          (Decoded.canonicalEntries items).length := length_sortedBy _ _
      cases items with
      | nil => rfl
      | cons item items =>
        rw [Decoded.canonical, Decoded.truthy, Decoded.truthy, List.isEmpty_eq_false_iff.mpr]
        · rfl
        · intro hNil
          rw [hNil] at hLength
          cases hLength
    | _ => rfl
  rw [← hTruthy v, h, hTruthy w]

namespace Decoded

theorem finiteEntries_eq_all (entries : Entries) :
    finiteEntries entries = entries.all fun entry => entry.2.finite := by
  induction entries with
  | nil => rfl
  | cons entry entries ih => rw [finiteEntries, List.all_cons, ih]

mutual

/-- The keys' order does not make a double finite. -/
theorem finite_canonical (v : Decoded) : v.canonical.finite = v.finite := by
  cases v with
  | list items => exact finite_canonicalItems items
  | dict items =>
    have hEntries := finite_canonicalEntries items
    rw [finiteEntries_eq_all] at hEntries
    rw [canonical, finite, finite, finiteEntries_eq_all, (sortedBy_perm Prod.fst _).all_eq, hEntries]
  | _ => rfl
termination_by structural v

theorem finite_canonicalItems (items : List Decoded) :
    finiteItems (canonicalItems items) = finiteItems items := by
  cases items with
  | nil => rfl
  | cons item items =>
    rw [canonicalItems, finiteItems, finiteItems, finite_canonical item, finite_canonicalItems items]
termination_by structural items

theorem finite_canonicalEntries (items : List (String × Decoded)) :
    finiteEntries (canonicalEntries items) = finiteEntries items := by
  cases items with
  | nil => rfl
  | cons entry items =>
    rw [canonicalEntries, finiteEntries, finiteEntries, finite_canonical entry.2,
      finite_canonicalEntries items]
termination_by structural items

end

end Decoded

end Daybreak.Serial
