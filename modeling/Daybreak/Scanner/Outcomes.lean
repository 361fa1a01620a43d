import Daybreak.Order.Timeline
import Daybreak.Scanner.Scorecard
import Daybreak.Scanner.Signals

/-! How a signal ends. The bars are walked in their order in time up to the first that touches the
stop or a target; what is found on the bars up to some moment is what is found on all of them, so
that it does not matter how often, or when, a signal is looked at. -/

namespace Daybreak.Scanner

open Contracts Daybreak.Order Effect.Fallible Features Numeric

/-! ### The walk -/

structure MinuteBar where
  timestamp : Timestamp
  openPrice : Money
  high : Money
  low : Money
  close : Money
  volume : ℕ

/-- A `SignalOutcome` with all of its fields, of which the scorecard reads some. -/
structure OutcomeRecord extends SignalOutcome where
  ticker : String
  tradingDate : Day
  resolvedAt : Timestamp
  exitPrice : Money

/-- `(exit_price - entry_price) / entry_price * 100` -/
def returnPct (entryPrice exitPrice : Decimal) : Result Decimal := do
  let quotient ← signals (Decimal.div (exitPrice.sub entryPrice) entryPrice)
  return quotient.mul (.ofInt 100)

/-- `SignalOutcome(...)` of a signal that left at a price. -/
def outcomeAt (signal : Signal) (outcome : Resolution) (targetHit : Option TargetLevel)
    (resolvedAt : Timestamp) (exitPrice : Money) : Result OutcomeRecord := do
  let returnPct ← returnPct signal.entryPrice.1 exitPrice.1
  return {
    outcome, targetHit, returnPct
    ticker := signal.ticker
    tradingDate := signal.tradingDate
    resolvedAt, exitPrice }

/-- The loop of `resolve_outcome`, over the bars that are left. -/
def walk (signal : Signal) : List MinuteBar → Result (Option OutcomeRecord)
  | [] => .ok none
  | bar :: rest =>
    if bar.low.1.toRat ≤ signal.stopPrice.1.toRat then
      some <$> outcomeAt signal .loss none bar.timestamp signal.stopPrice
    else if signal.targetPrice2.1.toRat ≤ bar.high.1.toRat then
      some <$> outcomeAt signal .win (some .target2) bar.timestamp signal.targetPrice2
    else if signal.targetPrice1.1.toRat ≤ bar.high.1.toRat then
      some <$> outcomeAt signal .win (some .target1) bar.timestamp signal.targetPrice1
    else walk signal rest

def resolveOutcome (signal : Signal) (bars : List MinuteBar) : Result (Option OutcomeRecord) :=
  walk signal (sortedBy (·.timestamp) bars)

def expireAtClose (signal : Signal) (closePrice : Money) (closedAt : Timestamp) :
    Result OutcomeRecord :=
  outcomeAt signal .expired none closedAt closePrice

/-! ### What the walk finds -/

/-- The bar reaches the stop or one of the targets. -/
def Touches (signal : Signal) (bar : MinuteBar) : Prop :=
  bar.low.1.toRat ≤ signal.stopPrice.1.toRat ∨ signal.targetPrice2.1.toRat ≤ bar.high.1.toRat ∨
    signal.targetPrice1.1.toRat ≤ bar.high.1.toRat

instance decidableTouches (signal : Signal) (bar : MinuteBar) : Decidable (Touches signal bar) :=
  inferInstanceAs (Decidable (_ ∨ _))

/-- How a bar that touches ends the signal: at the stop if it reaches it, else at the higher
target that it reaches. -/
def ending (signal : Signal) (bar : MinuteBar) : Resolution × Option TargetLevel × Money :=
  if bar.low.1.toRat ≤ signal.stopPrice.1.toRat then (.loss, none, signal.stopPrice)
  else if signal.targetPrice2.1.toRat ≤ bar.high.1.toRat then
    (.win, some .target2, signal.targetPrice2)
  else (.win, some .target1, signal.targetPrice1)

/-- The return of a signal that left at a price, as the context rounds it. -/
def roundedReturn (signal : Signal) (exitPrice : Money) : ℚ :=
  Decimal.round (Decimal.round (Decimal.round
    (exitPrice.1.toRat - signal.entryPrice.1.toRat) / signal.entryPrice.1.toRat) * 100)

variable {signal : Signal} {bars : List MinuteBar} {bar : MinuteBar}

theorem coefficient_ne_zero (price : Money) : price.1.coefficient ≠ 0 := by
  intro h
  have hPos := price.2.1
  rw [Decimal.toRat_eq_zero.mpr h] at hPos
  exact lt_irrefl 0 hPos

/-- The record says how, when and at which price the signal ended. -/
structure Tells (signal : Signal) (record : OutcomeRecord)
    (ended : Resolution × Option TargetLevel × Money) (resolvedAt : Timestamp) : Prop where
  ticker : record.ticker = signal.ticker
  tradingDate : record.tradingDate = signal.tradingDate
  outcome : record.outcome = ended.1
  targetHit : record.targetHit = ended.2.1
  exitPrice : record.exitPrice = ended.2.2
  resolvedAt : record.resolvedAt = resolvedAt
  returnPct : record.returnPct.toRat = roundedReturn signal ended.2.2

theorem exists_outcomeAt (signal : Signal) (outcome : Resolution)
    (targetHit : Option TargetLevel) (resolvedAt : Timestamp) (exitPrice : Money) :
    ∃ record, outcomeAt signal outcome targetHit resolvedAt exitPrice = .ok record ∧
      Tells signal record (outcome, targetHit, exitPrice) resolvedAt := by
  obtain ⟨quotient, hQuotient⟩ := Decimal.exists_div (exitPrice.1.sub signal.entryPrice.1)
    (coefficient_ne_zero signal.entryPrice)
  refine ⟨⟨⟨outcome, targetHit, quotient.mul (.ofInt 100)⟩, signal.ticker, signal.tradingDate,
    resolvedAt, exitPrice⟩, ?_, rfl, rfl, rfl, rfl, rfl, rfl, ?_⟩
  · simp only [outcomeAt, returnPct, hQuotient]
    rfl
  · rw [roundedReturn, Decimal.toRat_mul_eq, Decimal.toRat_div_eq hQuotient,
      Decimal.toRat_sub_eq, Decimal.toRat_ofInt]
    norm_num

/-- The walk ends at the first bar that touches. -/
theorem walk_eq (signal : Signal) (bars : List MinuteBar) :
    walk signal bars = match bars.find? (Touches signal ·) with
      | none => .ok none
      | some bar => some <$> outcomeAt signal (ending signal bar).1 (ending signal bar).2.1
          bar.timestamp (ending signal bar).2.2 := by
  induction bars with
  | nil => rfl
  | cons bar rest ih =>
    rw [walk, List.find?_cons]
    by_cases hStop : bar.low.1.toRat ≤ signal.stopPrice.1.toRat
    · have hTouches : Touches signal bar := .inl hStop
      simp only [hStop, hTouches, ending, decide_true, if_true]
    by_cases hTarget2 : signal.targetPrice2.1.toRat ≤ bar.high.1.toRat
    · have hTouches : Touches signal bar := .inr (.inl hTarget2)
      simp only [hStop, hTarget2, hTouches, ending, decide_true, if_true, if_false]
    by_cases hTarget1 : signal.targetPrice1.1.toRat ≤ bar.high.1.toRat
    · have hTouches : Touches signal bar := .inr (.inr hTarget1)
      simp only [hStop, hTarget2, hTarget1, hTouches, ending, decide_true, if_true, if_false]
    · have hNot : ¬ Touches signal bar := by
        rintro (h | h | h)
        · exact hStop h
        · exact hTarget2 h
        · exact hTarget1 h
      simp only [hStop, hTarget2, hTarget1, hNot, decide_false, if_false]
      exact ih

/-- The outcome on bars that touch, or none. -/
theorem resolveOutcome_cases (signal : Signal) (bars : List MinuteBar) :
    (firstBy (·.timestamp) (Touches signal ·) bars = none ∧ resolveOutcome signal bars = .ok none) ∨
      ∃ bar record, firstBy (·.timestamp) (Touches signal ·) bars = some bar ∧
        resolveOutcome signal bars = .ok (some record) ∧
        Tells signal record (ending signal bar) bar.timestamp := by
  rw [resolveOutcome, walk_eq, ← firstBy]
  cases hFirst : firstBy (·.timestamp) (Touches signal ·) bars with
  | none => exact .inl ⟨rfl, rfl⟩
  | some bar =>
    obtain ⟨record, hRecord, hTells⟩ := exists_outcomeAt signal (ending signal bar).1
      (ending signal bar).2.1 bar.timestamp (ending signal bar).2.2
    exact .inr ⟨bar, record, rfl, by simp only [hRecord]; rfl, hTells⟩

/-! ### Sessions -/

/-- How a signal ended in a session that closed: at a bar that touches, with none before it, or at
the last price when none touches. -/
inductive Ended (signal : Signal) (bars : List MinuteBar) (closedAt : Timestamp)
    (record : OutcomeRecord) : Prop
  | touched (bar : MinuteBar) (mem : bar ∈ bars) (touches : Touches signal bar)
      (first : ∀ other ∈ bars, Touches signal other → bar.timestamp ≤ other.timestamp)
      (tells : Tells signal record (ending signal bar) bar.timestamp)
  | expired (untouched : ∀ bar ∈ bars, ¬ Touches signal bar)
      (tells : Tells signal record
        (.expired, none, (bars.getLast?.map (·.close)).getD signal.entryPrice) closedAt)

theorem Ended.ticker {closedAt : Timestamp} {record : OutcomeRecord}
    (h : Ended signal bars closedAt record) : record.ticker = signal.ticker := by
  cases h with
  | touched _ _ _ _ tells => exact tells.ticker
  | expired _ tells => exact tells.ticker

/-- Exactly the wins name a target. -/
theorem Ended.targetHit_iff {closedAt : Timestamp} {record : OutcomeRecord}
    (h : Ended signal bars closedAt record) : record.targetHit.isSome ↔ record.outcome = .win := by
  cases h with
  | touched bar _ _ _ tells =>
    rw [tells.targetHit, tells.outcome, ending]
    split_ifs <;> simp
  | expired _ tells =>
    rw [tells.targetHit, tells.outcome]
    simp

/-- How a signal ends that is looked at once, after the session. -/
def sessionOutcome (signal : Signal) (session : List MinuteBar) (closedAt : Timestamp) :
    Result OutcomeRecord := do
  match ← resolveOutcome signal session with
  | some record => return record
  | none =>
    expireAtClose signal ((session.getLast?.map (·.close)).getD signal.entryPrice) closedAt

variable {session : List MinuteBar} {closedAt t : Timestamp} {record : OutcomeRecord}

/-- What is resolved on the bars up to a moment is resolved so on those of the session. -/
theorem resolveOutcome_of_filter
    (h : resolveOutcome signal (session.filter (·.timestamp ≤ t)) = .ok (some record)) :
    resolveOutcome signal session = .ok (some record) := by
  rw [resolveOutcome, walk_eq, ← firstBy] at h ⊢
  cases hFirst : firstBy (·.timestamp) (Touches signal ·) (session.filter (·.timestamp ≤ t)) with
  | none =>
    rw [hFirst] at h
    cases h
  | some bar =>
    rw [hFirst] at h
    rw [firstBy_of_filter hFirst]
    exact h

theorem sessionOutcome_of_resolved (h : resolveOutcome signal session = .ok (some record)) :
    sessionOutcome signal session closedAt = .ok record := by
  rw [sessionOutcome, h]
  rfl

theorem sessionOutcome_of_expired (hNone : resolveOutcome signal session = .ok none)
    (h : expireAtClose signal ((session.getLast?.map (·.close)).getD signal.entryPrice) closedAt =
      .ok record) : sessionOutcome signal session closedAt = .ok record := by
  rw [sessionOutcome, hNone]
  exact h

/-- A signal always ends. -/
theorem exists_sessionOutcome (signal : Signal) (session : List MinuteBar)
    (closedAt : Timestamp) : ∃ record, sessionOutcome signal session closedAt = .ok record ∧
      Ended signal session closedAt record := by
  obtain ⟨hFirst, hNone⟩ | ⟨bar, record, hFirst, hResolved, hTells⟩ :=
    resolveOutcome_cases signal session
  · obtain ⟨record, hRecord, hTells⟩ := exists_outcomeAt signal .expired none closedAt
      ((session.getLast?.map (·.close)).getD signal.entryPrice)
    refine ⟨record, sessionOutcome_of_expired hNone hRecord, .expired ?_ hTells⟩
    intro bar hBar hTouches
    exact firstBy_eq_none.mp hFirst bar hBar (decide_eq_true hTouches)
  · obtain ⟨hMem, hTouches, hEarliest⟩ := firstBy_eq_some hFirst
    refine ⟨record, sessionOutcome_of_resolved hResolved, .touched bar hMem ?_ ?_ hTells⟩
    · exact of_decide_eq_true hTouches
    · intro other hOther hTouched
      exact hEarliest other hOther (decide_eq_true hTouched)

theorem ended_of_sessionOutcome (h : sessionOutcome signal session closedAt = .ok record) :
    Ended signal session closedAt record := by
  obtain ⟨record', hRecord, hEnded⟩ := exists_sessionOutcome signal session closedAt
  obtain rfl := Except.ok.inj (hRecord.symm.trans h)
  exact hEnded

end Daybreak.Scanner
