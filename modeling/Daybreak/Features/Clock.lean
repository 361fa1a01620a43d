import Daybreak.Contracts.Types

/-! Calendar days and times of day. A day is its proleptic Gregorian ordinal and a
time of day its microseconds since midnight, so that both compare as they do in
the source; texts follow ISO 8601. -/

namespace Daybreak.Features

/-- `date.toordinal()` -/
abbrev Day := ℤ

/-- The order of the integers, which evaluates. -/
instance : Preorder Day := Int.instLinearOrder.toPreorder

/-- A date and a time of day without an offset, as `astimezone` and
`replace(tzinfo=None)` leave them. -/
structure LocalTime where
  date : Day
  time : ℕ
  deriving DecidableEq, Repr

def microsPerMinute : ℕ := 60000000

/-- `value.date()` of a timestamp in UTC. -/
def utcDate (value : Timestamp) : Day := 719163 + value / 86400000000

/-! ### Times of day -/

/-- A time of day, and whether its text gives an offset from UTC. -/
structure ClockTime where
  micros : ℕ
  aware : Bool
  deriving DecidableEq, Repr

def digitValue (c : Char) : ℕ := c.toNat - '0'.toNat

def twoDigits : List Char → Option (ℕ × List Char)
  | a :: b :: rest =>
    if a.isDigit && b.isDigit then some (10 * digitValue a + digitValue b, rest) else none
  | _ => none

/-- A further component, which may be left out. -/
def component (separated : Bool) : List Char → Option (ℕ × List Char)
  | [] => some (0, [])
  | ':' :: rest => if separated then twoDigits rest else none
  | rest => if separated then none else twoDigits rest

/-- Microseconds; digits after the sixth are cut off. -/
def fraction : List Char → Option ℕ
  | [] => some 0
  | point :: digits =>
    if (point = '.' ∨ point = ',') ∧ digits ≠ [] ∧ digits.all (·.isDigit) then
      some (((digits ++ List.replicate 6 '0').take 6).foldl (fun n d => 10 * n + digitValue d) 0)
    else none

/-- `HH[[:]MM[[:]SS[.ffffff]]]` -/
def naiveTime (cs : List Char) : Option ℕ := do
  let (hour, rest) ← twoDigits cs
  let separated := rest.head? == some ':'
  let (minute, rest) ← component separated rest
  let (second, rest) ← component separated rest
  let micros ← fraction rest
  guard (hour < 24 ∧ minute < 60 ∧ second < 60)
  return ((hour * 60 + minute) * 60 + second) * 1000000 + micros

def startsZone (c : Char) : Bool := c == 'Z' || c == '+' || c == '-'

/-- `time.fromisoformat` -/
def timeFromIsoformat (s : String) : Option ClockTime := do
  let cs := match s.toList with
    | 'T' :: cs => cs
    | cs => cs
  let micros ← naiveTime (cs.takeWhile (!startsZone ·))
  match cs.dropWhile (!startsZone ·) with
  | [] => return ⟨micros, false⟩
  | ['Z'] => return ⟨micros, true⟩
  | 'Z' :: _ => none
  | _ :: offset => do
    let _ ← naiveTime offset
    return ⟨micros, true⟩

example : timeFromIsoformat "04:00:00" = some ⟨14400000000, false⟩ := by decide

/-! ### Dates -/

def daysBeforeMonth (month : ℕ) : ℕ :=
  [0, 0, 31, 59, 90, 120, 151, 181, 212, 243, 273, 304, 334].getD month 0

def daysInMonth (month : ℕ) : ℕ :=
  [0, 31, 28, 31, 30, 31, 30, 31, 31, 30, 31, 30, 31].getD month 0

/-- `date.fromordinal`, by cycles of 400, 100 and 4 years. -/
def dateOfOrdinal (ordinal : ℕ) : Date :=
  let n := ordinal - 1
  let n400 := n / 146097
  let n := n % 146097
  let n100 := n / 36524
  let n := n % 36524
  let n4 := n / 1461
  let n := n % 1461
  let n1 := n / 365
  let n := n % 365
  let year := n400 * 400 + 1 + n100 * 100 + n4 * 4 + n1
  if n1 = 4 ∨ n100 = 4 then ⟨year - 1, 12, 31⟩
  else
    let leap := if n1 = 3 ∧ (n4 ≠ 24 ∨ n100 = 3) then 1 else 0
    let month := (n + 50) / 32
    let preceding := daysBeforeMonth month + if 2 < month then leap else 0
    if preceding > n then
      let preceding := preceding - (daysInMonth (month - 1) + if month - 1 = 2 then leap else 0)
      ⟨year, month - 1, n - preceding + 1⟩
    else ⟨year, month, n - preceding + 1⟩

/-- `str(day)` -/
def isoDate (day : Day) : String :=
  let date := dateOfOrdinal day.toNat
  zeroPad 4 date.year ++ "-" ++ zeroPad 2 date.month ++ "-" ++ zeroPad 2 date.day

/-- `value.isoformat(timespec="microseconds").replace("+00:00", "Z")` -/
def utcZ (value : Timestamp) : String :=
  let micros := (value % 86400000000).toNat
  let seconds := micros / 1000000
  isoDate (utcDate value) ++ "T" ++ zeroPad 2 (seconds / 3600) ++ ":" ++
    zeroPad 2 (seconds / 60 % 60) ++ ":" ++ zeroPad 2 (seconds % 60) ++ "." ++
    zeroPad 6 (micros % 1000000) ++ "Z"

example : utcZ 1709251199000001 = "2024-02-29T23:59:59.000001Z" := by decide

end Daybreak.Features
