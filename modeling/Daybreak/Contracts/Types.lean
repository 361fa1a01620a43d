import Daybreak.Numeric.Arithmetic

/-! Types shared by the risk and execution packages: the exceptions a call can
raise, calendar dates, canonical tickers and risk flags. Timestamps are
microseconds since the epoch, always in UTC. -/

namespace Daybreak

open Numeric

/-- The exceptions the modelled code raises or lets through. A pydantic
`ValidationError` is a `ValueError`; the two broker errors are `RuntimeError`s
that the callers catch by their own names. -/
inductive PyError where
  | valueError (message : String)
  | validationError (message : String)
  | assertionError
  | arithmeticError (signal : DecimalSignal)
  | runtimeError (message : String)
  | brokerNotFound
  | brokerTransportError (transient : Bool)
  | other (name : String)
  deriving DecidableEq, Repr

/-- Computations that may raise. -/
abbrev Result (α : Type) := Except PyError α

theorem Result.bind_eq_ok {α β : Type} {x : Result α} {f : α → Result β} {b : β} :
    x >>= f = .ok b ↔ ∃ a, x = .ok a ∧ f a = .ok b := by
  cases x with
  | error e => simp [bind, Except.bind]
  | ok a => simp [bind, Except.bind]

theorem Result.bind_eq_error {α β : Type} {x : Result α} {f : α → Result β} {e : PyError} :
    x >>= f = .error e ↔ x = .error e ∨ ∃ a, x = .ok a ∧ f a = .error e := by
  cases x with
  | error e => simp [bind, Except.bind]
  | ok a => simp [bind, Except.bind]

theorem Result.pure_eq_ok {α : Type} {a b : α} : (pure a : Result α) = .ok b ↔ a = b := by
  simp [pure, Except.pure]

/-- A property of a returned value is decided by running the computation. -/
instance {α : Type} (x : Result α) (p : α → Prop) [DecidablePred p] :
    Decidable (∃ a, x = .ok a ∧ p a) :=
  match x with
  | .ok a => decidable_of_iff (p a) (by simp)
  | .error _ => isFalse (by simp)

instance {α : Type} (x : Result α) (p : PyError → Prop) [DecidablePred p] :
    Decidable (∃ e, x = .error e ∧ p e) :=
  match x with
  | .ok _ => isFalse (by simp)
  | .error e => decidable_of_iff (p e) (by simp)

/-- Raise `error` unless `p` holds. -/
def ensure (p : Prop) [Decidable p] (error : PyError) : Result Unit :=
  if p then .ok () else .error error

@[simp] theorem ensure_eq_ok {p : Prop} [Decidable p] {error : PyError} {u : Unit} :
    ensure p error = .ok u ↔ p := by
  unfold ensure
  split_ifs with h <;> simp [h]

theorem ensure_eq_error {p : Prop} [Decidable p] {error e : PyError}
    (h : ensure p error = .error e) : e = error := by
  unfold ensure at h
  split_ifs at h
  exact (Except.error.inj h).symm

/-- A model whose validators are `p`, constructed from the fields of `a`. -/
def validated {α : Type} (p : α → Prop) [DecidablePred p] (error : PyError) (a : α) : Result α :=
  if p a then .ok a else .error error

theorem validated_eq_ok {α : Type} {p : α → Prop} [DecidablePred p] {error : PyError} {a b : α} :
    validated p error a = .ok b ↔ b = a ∧ p a := by
  unfold validated
  split_ifs with h
  · simp [h, eq_comm]
  · simp [h]

/-- A decimal signal is raised as an `ArithmeticError`, never a `ValueError`. -/
def signals {α : Type} : Except DecimalSignal α → Result α
  | .ok a => .ok a
  | .error s => .error (.arithmeticError s)

@[simp] theorem signals_eq_ok {α : Type} {x : Except DecimalSignal α} {a : α} :
    signals x = .ok a ↔ x = .ok a := by
  cases x <;> simp [signals]

/-- Microseconds since the epoch. -/
abbrev Timestamp := ℤ

/-- `(later - earlier).total_seconds() * 1000`: a division and a product, each
rounded to double precision. -/
def elapsedMs (later earlier : Timestamp) : ℚ :=
  binary64 (binary64 ((later - earlier : ℤ) / 1000000) * 1000)

/-- `(later - earlier).total_seconds()` -/
def elapsedSeconds (later earlier : Timestamp) : ℚ :=
  binary64 ((later - earlier : ℤ) / 1000000)

theorem le_of_elapsedSeconds {later earlier : Timestamp} (h : elapsedSeconds later earlier ≤ 0) :
    later ≤ earlier := by
  by_contra hLater
  have hPositive : (0 : ℚ) < (later - earlier : ℤ) / 1000000 := by
    have hDifference : 0 < later - earlier := sub_pos.mpr (not_le.mp hLater)
    positivity
  exact absurd (binary64_pos hPositive) (not_lt.mpr h)

theorem sub_lt_of_elapsedSeconds {later earlier : Timestamp} {seconds : ℕ}
    (hSeconds : seconds ≤ 2 ^ 52) (h : elapsedSeconds later earlier < seconds) :
    later - earlier < seconds * 1000000 := by
  by_contra hLater
  have hLong : (seconds : ℚ) ≤ (later - earlier : ℤ) / 1000000 := by
    rw [le_div_iff₀ (by norm_num)]
    exact_mod_cast not_lt.mp hLater
  exact absurd (natCast_le_binary64 hSeconds hLong) (not_le.mpr h)

theorem le_of_elapsedMs_nonneg {later earlier : Timestamp} (h : 0 ≤ elapsedMs later earlier) :
    earlier ≤ later := by
  by_contra hEarlier
  have hNegative : ((later - earlier : ℤ) : ℚ) / 1000000 < 0 := by
    have hDifference : later - earlier < 0 := sub_neg.mpr (not_le.mp hEarlier)
    exact div_neg_of_neg_of_pos (Int.cast_lt_zero.mpr hDifference) (by norm_num)
  have hScaled : binary64 ((later - earlier : ℤ) / 1000000) * 1000 < 0 :=
    mul_neg_of_neg_of_pos (binary64_neg hNegative) (by norm_num)
  exact absurd (binary64_neg hScaled) (not_lt.mpr h)

/-- One microsecond too many is a thousandth of the limit's unit, far above what
two roundings to fifty-three bits can lose. -/
theorem sub_le_of_elapsedMs {later earlier : Timestamp} {ms : ℕ} (hMs : ms ≤ 2 ^ 20)
    (h : elapsedMs later earlier ≤ ms) : later - earlier ≤ ms * 1000 := by
  by_contra hLater
  have hMsRat : (ms : ℚ) ≤ 2 ^ 20 := by exact_mod_cast hMs
  have hLong : ((ms * 1000 + 1 : ℕ) : ℚ) / 1000000 ≤ (later - earlier : ℤ) / 1000000 := by
    gcongr
    exact_mod_cast Int.add_one_le_of_lt (not_le.mp hLater)
  -- a dyadic number just below the limit and the microsecond
  obtain ⟨n, hn⟩ : ∃ n : ℕ, n = ⌊((ms * 1000 + 1 : ℕ) : ℚ) / 1000000 * 2 ^ 30⌋₊ := ⟨_, rfl⟩
  have hFloor : (n : ℚ) ≤ ((ms * 1000 + 1 : ℕ) : ℚ) / 1000000 * 2 ^ 30 := by
    rw [hn]
    exact Nat.floor_le (by positivity)
  have hNext : ((ms * 1000 + 1 : ℕ) : ℚ) / 1000000 * 2 ^ 30 < n + 1 := by
    rw [hn]
    exact Nat.lt_floor_add_one _
  push_cast at hFloor hNext
  have hSmall : n ≤ 2 ^ 52 := by
    have : (n : ℚ) ≤ 2 ^ 52 := by linarith
    exact_mod_cast this
  have hFirst : (n : ℚ) / 2 ^ 30 ≤ binary64 ((later - earlier : ℤ) / 1000000) := by
    refine dyadic_le_binary64 hSmall (le_trans ?_ hLong)
    rw [div_le_iff₀ (by positivity)]
    push_cast
    exact hFloor
  have hScaled : ((ms * 2 ^ 11 + 1 : ℕ) : ℚ) / 2 ^ 11 ≤
      binary64 ((later - earlier : ℤ) / 1000000) * 1000 := by
    refine le_trans ?_ (mul_le_mul_of_nonneg_right hFirst (by norm_num))
    push_cast
    linarith
  have hSecond := dyadic_le_binary64 (by omega) hScaled
  have hOver : (ms : ℚ) < ((ms * 2 ^ 11 + 1 : ℕ) : ℚ) / 2 ^ 11 := by
    push_cast
    linarith
  exact absurd (hOver.trans_le hSecond) (not_lt.mpr h)

structure Date where
  year : ℕ
  month : ℕ
  day : ℕ
  deriving DecidableEq, Repr

/-- Decimal digits of `n`, padded with zeros to `width`. -/
def zeroPad (width n : ℕ) : String :=
  let s := (toString n).toList
  String.ofList (List.replicate (width - s.length) '0' ++ s)

theorem length_zeroPad {width n : ℕ} (hWidth : 0 < width) (h : n < 10 ^ width) :
    (zeroPad width n).length = width := by
  have hDigits : (toString n).toList.length ≤ width := by
    rw [String.length_toList]
    exact (Nat.length_repr_le_iff hWidth).mpr h
  rw [zeroPad, String.length_ofList, List.length_append, List.length_replicate]
  omega

/-- `strftime('%Y%m%d')`. -/
def Date.compact (d : Date) : String :=
  zeroPad 4 d.year ++ zeroPad 2 d.month ++ zeroPad 2 d.day

/-- Python's `s[:n]`. -/
def slicePrefix (s : String) (n : ℕ) : String := String.ofList (s.toList.take n)

theorem length_slicePrefix_le (s : String) (n : ℕ) : (slicePrefix s n).length ≤ n := by
  rw [slicePrefix, String.length_ofList]
  exact List.length_take_le n _

theorem slicePrefix_of_length_le {s : String} {n : ℕ} (h : s.length ≤ n) :
    slicePrefix s n = s := by
  rw [slicePrefix, List.take_of_length_le (String.length_toList ▸ h), String.ofList_toList]

def tickerEdge (c : Char) : Bool := c.isUpper || c.isDigit

def tickerInner (c : Char) : Bool := tickerEdge c || c == '.' || c == '-'

/-- `^[A-Z0-9](?:[A-Z0-9.-]{0,13}[A-Z0-9])?$` -/
def isCanonicalTicker (s : String) : Bool :=
  let cs := s.toList
  cs.length ≤ 15 && cs.all tickerInner &&
    cs.head?.any tickerEdge && cs.getLast?.any tickerEdge

theorem length_le_of_isCanonicalTicker {s : String} (h : isCanonicalTicker s = true) :
    s.length ≤ 15 := by
  simp only [isCanonicalTicker, Bool.and_eq_true, decide_eq_true_eq] at h
  rw [← String.length_toList]
  exact h.1.1.1

inductive RiskFlag where
  | parabolic | hardToBorrow | unknownBorrow | lowFloat | spikyVolume | secondarySource
  deriving DecidableEq, Repr

end Daybreak
