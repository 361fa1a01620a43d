import Mathlib.Data.Rat.Defs
import Mathlib.Tactic.Basic

/-! Values of a dynamic language, the JSON they are written as, and the strict models
that validate them. A strict field takes only values that are of its type already, so
what is written as a text is not read back as a date, a decimal or a member of an
enumeration, nor an array as a tuple. -/

namespace Daybreak.Serial

/-! ### Values and JSON -/

inductive Json where
  | null
  | bool (b : Bool)
  | int (n : ℤ)
  | float (x : ℚ)
  | str (s : String)
  | arr (items : List Json)
  | obj (items : List (String × Json))
  deriving Repr

/-- A value; those that are written as a text come with it, and `other` stands for any
further value, with what it is written as. -/
inductive PyValue where
  | none
  | bool (b : Bool)
  | int (n : ℤ)
  | float (x : ℚ)
  | str (s : String)
  | decimal (text : String)
  | date (text : String)
  | time (text : String)
  | datetime (text : String)
  | enum (value : String)
  | tuple (items : List PyValue)
  | list (items : List PyValue)
  | dict (items : List (String × PyValue))
  | model (items : List (String × PyValue))
  | other (json : Option Json)
  deriving Repr

mutual

def Json.beq : Json → Json → Bool
  | .null, .null => true
  | .bool a, .bool b => a = b
  | .int a, .int b => a = b
  | .float a, .float b => a = b
  | .str a, .str b => a = b
  | .arr a, .arr b => beqJsonItems a b
  | .obj a, .obj b => beqJsonEntries a b
  | _, _ => false

def beqJsonItems : List Json → List Json → Bool
  | [], [] => true
  | a :: as, b :: bs => a.beq b && beqJsonItems as bs
  | _, _ => false

def beqJsonEntries : List (String × Json) → List (String × Json) → Bool
  | [], [] => true
  | (key, a) :: as, (key', b) :: bs => key = key' && a.beq b && beqJsonEntries as bs
  | _, _ => false

end

mutual

theorem Json.beq_iff (a b : Json) : a.beq b = true ↔ a = b := by
  cases a <;> cases b <;> simp [Json.beq, beqJsonItems_iff, beqJsonEntries_iff]

theorem beqJsonItems_iff (a b : List Json) : beqJsonItems a b = true ↔ a = b := by
  cases a <;> cases b <;> simp [beqJsonItems, Json.beq_iff, beqJsonItems_iff]

theorem beqJsonEntries_iff (a b : List (String × Json)) : beqJsonEntries a b = true ↔ a = b := by
  cases a with
  | nil => cases b <;> simp [beqJsonEntries]
  | cons a as =>
    obtain ⟨key, a⟩ := a
    cases b with
    | nil => simp [beqJsonEntries]
    | cons b bs =>
      obtain ⟨key', b⟩ := b
      simp [beqJsonEntries, Json.beq_iff a b, beqJsonEntries_iff as bs]

end

instance : DecidableEq Json := fun a b => decidable_of_iff _ (Json.beq_iff a b)

mutual

def PyValue.beq : PyValue → PyValue → Bool
  | .none, .none => true
  | .bool a, .bool b => a = b
  | .int a, .int b => a = b
  | .float a, .float b => a = b
  | .str a, .str b => a = b
  | .decimal a, .decimal b => a = b
  | .date a, .date b => a = b
  | .time a, .time b => a = b
  | .datetime a, .datetime b => a = b
  | .enum a, .enum b => a = b
  | .tuple a, .tuple b => beqItems a b
  | .list a, .list b => beqItems a b
  | .dict a, .dict b => beqEntries a b
  | .model a, .model b => beqEntries a b
  | .other a, .other b => a = b
  | _, _ => false

def beqItems : List PyValue → List PyValue → Bool
  | [], [] => true
  | a :: as, b :: bs => a.beq b && beqItems as bs
  | _, _ => false

def beqEntries : List (String × PyValue) → List (String × PyValue) → Bool
  | [], [] => true
  | (key, a) :: as, (key', b) :: bs => key = key' && a.beq b && beqEntries as bs
  | _, _ => false

end

mutual

theorem PyValue.beq_iff (a b : PyValue) : a.beq b = true ↔ a = b := by
  cases a <;> cases b <;> simp [PyValue.beq, beqItems_iff, beqEntries_iff]

theorem beqItems_iff (a b : List PyValue) : beqItems a b = true ↔ a = b := by
  cases a <;> cases b <;> simp [beqItems, PyValue.beq_iff, beqItems_iff]

theorem beqEntries_iff (a b : List (String × PyValue)) : beqEntries a b = true ↔ a = b := by
  cases a with
  | nil => cases b <;> simp [beqEntries]
  | cons a as =>
    obtain ⟨key, a⟩ := a
    cases b with
    | nil => simp [beqEntries]
    | cons b bs =>
      obtain ⟨key', b⟩ := b
      simp [beqEntries, PyValue.beq_iff a b, beqEntries_iff as bs]

end

instance : DecidableEq PyValue := fun a b => decidable_of_iff _ (PyValue.beq_iff a b)

/-! ### Writing and reading -/

mutual

/-- `model_dump(mode="json")`, where it does not raise. -/
def PyValue.dump : PyValue → Option Json
  | .none => some .null
  | .bool b => some (.bool b)
  | .int n => some (.int n)
  | .float x => some (.float x)
  | .str s => some (.str s)
  | .decimal text => some (.str text)
  | .date text => some (.str text)
  | .time text => some (.str text)
  | .datetime text => some (.str text)
  | .enum value => some (.str value)
  | .tuple items => (dumpItems items).map .arr
  | .list items => (dumpItems items).map .arr
  | .dict items => (dumpEntries items).map .obj
  | .model items => (dumpEntries items).map .obj
  | .other json => json

def dumpItems : List PyValue → Option (List Json)
  | [] => some []
  | item :: items => do return (← item.dump) :: (← dumpItems items)

def dumpEntries : List (String × PyValue) → Option (List (String × Json))
  | [] => some []
  | (key, item) :: items => do return (key, ← item.dump) :: (← dumpEntries items)

end

mutual

/-- The value that decoded JSON is. -/
def Json.load : Json → PyValue
  | .null => .none
  | .bool b => .bool b
  | .int n => .int n
  | .float x => .float x
  | .str s => .str s
  | .arr items => .list (loadItems items)
  | .obj items => .dict (loadEntries items)

def loadItems : List Json → List PyValue
  | [] => []
  | item :: items => item.load :: loadItems items

def loadEntries : List (String × Json) → List (String × PyValue)
  | [] => []
  | (key, item) :: items => (key, item.load) :: loadEntries items

end

mutual

/-- The value is one of JSON already. -/
def PyValue.Native : PyValue → Prop
  | .none => True
  | .bool _ => True
  | .int _ => True
  | .float _ => True
  | .str _ => True
  | .list items => NativeItems items
  | .dict items => NativeEntries items
  | .decimal _ => False
  | .date _ => False
  | .time _ => False
  | .datetime _ => False
  | .enum _ => False
  | .tuple _ => False
  | .model _ => False
  | .other _ => False

def NativeItems : List PyValue → Prop
  | [] => True
  | item :: items => item.Native ∧ NativeItems items

def NativeEntries : List (String × PyValue) → Prop
  | [] => True
  | (_, item) :: items => item.Native ∧ NativeEntries items

end

mutual

/-- What is decoded is native. -/
theorem Json.native_load (json : Json) : json.load.Native := by
  cases json with
  | arr items => exact nativeItems_loadItems items
  | obj items => exact nativeEntries_loadEntries items
  | _ => exact trivial

theorem nativeItems_loadItems (items : List Json) : NativeItems (loadItems items) := by
  cases items with
  | nil => exact trivial
  | cons item items => exact ⟨item.native_load, nativeItems_loadItems items⟩

theorem nativeEntries_loadEntries (items : List (String × Json)) :
    NativeEntries (loadEntries items) := by
  cases items with
  | nil => exact trivial
  | cons entry items =>
    obtain ⟨key, item⟩ := entry
    exact ⟨item.native_load, nativeEntries_loadEntries items⟩

end

mutual

/-- A native value is read back as it was written. -/
theorem PyValue.dump_of_native (v : PyValue) (h : v.Native) :
    ∃ json, v.dump = some json ∧ json.load = v := by
  cases v with
  | none => exact ⟨.null, rfl, rfl⟩
  | bool b => exact ⟨.bool b, rfl, rfl⟩
  | int n => exact ⟨.int n, rfl, rfl⟩
  | float x => exact ⟨.float x, rfl, rfl⟩
  | str s => exact ⟨.str s, rfl, rfl⟩
  | list items =>
    obtain ⟨json, hDump, hLoad⟩ := dumpItems_of_native items h
    refine ⟨.arr json, ?_, ?_⟩
    · rw [PyValue.dump, hDump]
      rfl
    · rw [Json.load, hLoad]
  | dict items =>
    obtain ⟨json, hDump, hLoad⟩ := dumpEntries_of_native items h
    refine ⟨.obj json, ?_, ?_⟩
    · rw [PyValue.dump, hDump]
      rfl
    · rw [Json.load, hLoad]
  | _ => exact h.elim

theorem dumpItems_of_native (items : List PyValue) (h : NativeItems items) :
    ∃ json, dumpItems items = some json ∧ loadItems json = items := by
  cases items with
  | nil => exact ⟨[], rfl, rfl⟩
  | cons item items =>
    obtain ⟨json, hDump, hLoad⟩ := PyValue.dump_of_native item h.1
    obtain ⟨rest, hDumpRest, hLoadRest⟩ := dumpItems_of_native items h.2
    refine ⟨json :: rest, ?_, ?_⟩
    · rw [dumpItems, hDump, hDumpRest]
      rfl
    · rw [loadItems, hLoad, hLoadRest]

theorem dumpEntries_of_native (items : List (String × PyValue)) (h : NativeEntries items) :
    ∃ json, dumpEntries items = some json ∧ loadEntries json = items := by
  cases items with
  | nil => exact ⟨[], rfl, rfl⟩
  | cons entry items =>
    obtain ⟨key, item⟩ := entry
    obtain ⟨json, hDump, hLoad⟩ := PyValue.dump_of_native item h.1
    obtain ⟨rest, hDumpRest, hLoadRest⟩ := dumpEntries_of_native items h.2
    refine ⟨(key, json) :: rest, ?_, ?_⟩
    · rw [dumpEntries, hDump, hDumpRest]
      rfl
    · rw [loadEntries, hLoad, hLoadRest]

end

/-! ### Strict validation -/

inductive FieldType where
  | any
  | bool
  | int
  | float
  | str
  | decimal
  | date
  | time
  | datetime
  | enum
  | literal (value : PyValue)
  | optional (type : FieldType)
  | tuple (items : FieldType)
  | dict
  | model (fields : List (String × FieldType))

/-- `literal == value`, for the values that a literal type may list. -/
def literalEq : PyValue → PyValue → Bool
  | .bool a, .bool b => a = b
  | .int a, .int b => a = b
  | .str a, .str b => a = b
  | .enum a, .enum b => a = b
  | .enum a, .str b => a = b
  | _, _ => false

/-- No field but those of the model. -/
def onlyFields (fields : List (String × FieldType)) (items : List (String × PyValue)) : Bool :=
  items.all fun item => fields.any fun field => field.1 = item.1

mutual

/-- Strict validation in Python mode; what has been dumped has every field, so a missing
one is refused. -/
def FieldType.validate : FieldType → PyValue → Option PyValue
  | .any, v => some v
  | .bool, .bool b => some (.bool b)
  | .int, .int n => some (.int n)
  | .float, .float x => some (.float x)
  | .float, .int n => some (.float n)
  | .str, .str s => some (.str s)
  | .decimal, .decimal text => some (.decimal text)
  | .date, .date text => some (.date text)
  | .time, .time text => some (.time text)
  | .datetime, .datetime text => some (.datetime text)
  | .enum, .enum value => some (.enum value)
  | .literal value, v => if literalEq value v then some value else none
  | .optional type, v =>
    match v with
    | .none => some .none
    | v => type.validate v
  | .tuple type, .tuple items => (items.mapM type.validate).map .tuple
  | .dict, .dict items => some (.dict items)
  | .model fields, .dict items =>
    if onlyFields fields items then (validateFields fields items).map .model else none
  | .model fields, .model items =>
    if onlyFields fields items then (validateFields fields items).map .model else none
  | _, _ => none

def validateFields : List (String × FieldType) → List (String × PyValue) →
    Option (List (String × PyValue))
  | [], _ => some []
  | (name, type) :: fields, items => do
    return (name, ← type.validate (← items.lookup name)) :: (← validateFields fields items)

end

/-- The types all of whose values are written as something that they refuse. -/
inductive FieldType.Lossy : FieldType → Prop
  | decimal : Lossy .decimal
  | date : Lossy .date
  | time : Lossy .time
  | datetime : Lossy .datetime
  | enum : Lossy .enum
  | tuple (items : FieldType) : Lossy (.tuple items)

/-- A value of a lossy type is not read back. -/
theorem FieldType.Lossy.validate_load {type : FieldType} (h : type.Lossy) {v v' : PyValue}
    (hValue : type.validate v = some v') {json : Json} (hDump : v.dump = some json) :
    type.validate json.load = none := by
  cases h with
  | tuple items =>
    cases v with
    | tuple values =>
      obtain ⟨written, -, rfl⟩ := Option.map_eq_some_iff.mp hDump
      rfl
    | _ => cases hValue
  | _ =>
    cases v <;> cases hValue
    cases hDump
    rfl

theorem lookup_loadEntries {items : List (String × PyValue)} {json : List (String × Json)}
    (hDump : dumpEntries items = some json) (name : String) :
    (loadEntries json).lookup name =
      (items.lookup name).bind fun v => v.dump.map Json.load := by
  induction items generalizing json with
  | nil =>
    obtain rfl := Option.some.inj hDump
    rfl
  | cons entry items ih =>
    obtain ⟨key, item⟩ := entry
    simp only [dumpEntries, bind, pure, Option.bind_eq_some_iff] at hDump
    obtain ⟨first, hFirst, rest, hRest, hJson⟩ := hDump
    obtain rfl := Option.some.inj hJson
    rw [loadEntries, List.lookup_cons, List.lookup_cons]
    cases name == key with
    | true => simp [hFirst]
    | false => exact ih hRest

theorem validateFields_lookup {fields : List (String × FieldType)}
    {items validated : List (String × PyValue)} (h : validateFields fields items = some validated)
    {name : String} {type : FieldType} (hField : (name, type) ∈ fields) :
    ∃ v v', items.lookup name = some v ∧ type.validate v = some v' := by
  induction fields generalizing validated with
  | nil => cases hField
  | cons field fields ih =>
    obtain ⟨first, firstType⟩ := field
    simp only [validateFields, bind, pure, Option.bind_eq_some_iff] at h
    obtain ⟨v, hLookup, v', hValue, rest, hRest, -⟩ := h
    rcases List.mem_cons.mp hField with hFirst | hField
    · obtain ⟨rfl, rfl⟩ := Prod.mk.inj hFirst
      exact ⟨v, v', hLookup, hValue⟩
    · exact ih hRest hField

/-! ### Models -/

/-- A strict model: its fields, and its validators together. -/
structure StrictModel where
  fields : List (String × FieldType)
  check : List (String × PyValue) → Bool

namespace StrictModel

variable {m : StrictModel} {x : List (String × PyValue)}

/-- `Model.model_validate(v)` -/
def modelValidate (m : StrictModel) (v : PyValue) : Option PyValue :=
  (FieldType.model m.fields).validate v |>.filter fun
    | .model items => m.check items
    | _ => false

/-- The fields make an instance of the model. -/
def Instance (m : StrictModel) (x : List (String × PyValue)) : Prop :=
  m.modelValidate (.model x) = some (.model x)

/-- An instance is written as JSON, decoded, and validated. -/
def readBack (m : StrictModel) (x : List (String × PyValue)) : Option PyValue :=
  (PyValue.model x).dump.bind fun json => m.modelValidate json.load

theorem Instance.validateFields (h : m.Instance x) : validateFields m.fields x = some x := by
  obtain ⟨hValidate, -⟩ := Option.filter_eq_some_iff.mp h
  simp only [FieldType.validate] at hValidate
  split_ifs at hValidate
  obtain ⟨validated, hFields, hEq⟩ := Option.map_eq_some_iff.mp hValidate
  obtain rfl := PyValue.model.inj hEq
  exact hFields

theorem Instance.check (h : m.Instance x) : m.check x = true :=
  (Option.filter_eq_some_iff.mp h).2

/-- A model with a field that refuses what its value is written as is not read back. -/
theorem readBack_of_refused {name : String} {type : FieldType} {v : PyValue}
    (hField : (name, type) ∈ m.fields) (hLookup : x.lookup name = some v)
    (hRefused : ∀ json, v.dump = some json → type.validate json.load = none) :
    m.readBack x = none := by
  rw [readBack, Option.bind_eq_none_iff]
  intro json hDump
  obtain ⟨items, hItems, rfl⟩ := Option.map_eq_some_iff.mp hDump
  rw [modelValidate, Option.filter_eq_none_iff]
  intro read hRead
  simp only [Json.load, FieldType.validate] at hRead
  split_ifs at hRead
  obtain ⟨validated, hFields, -⟩ := Option.map_eq_some_iff.mp hRead
  obtain ⟨w, w', hDecoded, hAccepted⟩ := validateFields_lookup hFields hField
  rw [lookup_loadEntries hItems, hLookup] at hDecoded
  obtain ⟨written, hWritten, rfl⟩ := Option.map_eq_some_iff.mp hDecoded
  rw [hRefused written hWritten] at hAccepted
  cases hAccepted

/-- A model with a lossy field is never read back. -/
theorem Instance.readBack_of_lossy (h : m.Instance x) {name : String} {type : FieldType}
    (hField : (name, type) ∈ m.fields) (hLossy : type.Lossy) : m.readBack x = none := by
  obtain ⟨v, v', hLookup, hValue⟩ := validateFields_lookup h.validateFields hField
  exact readBack_of_refused hField hLookup fun json hDump => hLossy.validate_load hValue hDump

end StrictModel

end Daybreak.Serial
