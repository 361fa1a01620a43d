import Daybreak.Numeric.Quotient
import Daybreak.Serial.DecimalText

/-! The scorecard of resolved signals. The counts always add up; the rates of the two targets
are rounded one by one, so they add up to the win rate as far as what the three divisions leave
does. -/

namespace Daybreak.Scanner

open Numeric Serial

/-- How a signal was resolved. -/
inductive Resolution where
  | win | loss | expired
  deriving DecidableEq, Repr

inductive TargetLevel where
  | target1 | target2
  deriving DecidableEq, Repr

structure SignalOutcome where
  outcome : Resolution
  targetHit : Option TargetLevel := none
  returnPct : Decimal

structure Scorecard where
  totalSignals : ℕ
  wins : ℕ
  losses : ℕ
  expired : ℕ
  winsTarget1 : ℕ
  winsTarget2 : ℕ
  winRatePct : Option String
  target1HitRatePct : Option String
  target2HitRatePct : Option String
  averageReturnPct : Option String

def resolved (outcome : Resolution) (outcomes : List SignalOutcome) : ℕ :=
  outcomes.countP fun item => item.outcome = outcome

def hits (level : TargetLevel) (outcomes : List SignalOutcome) : ℕ :=
  outcomes.countP fun item => item.targetHit = some level

/-- The signals that touched the stop or a target. -/
def decided (outcomes : List SignalOutcome) : ℕ :=
  resolved .win outcomes + resolved .loss outcomes

/-- `(Decimal(count) / Decimal(decided) * 100) if decided else None` -/
def ratePct (count decided : ℕ) : Result (Option Decimal) :=
  if decided = 0 then .ok none else do
    let quotient ← signals (Decimal.div (.ofInt count) (.ofInt decided))
    return some (quotient.mul (.ofInt 100))

/-- The average of the returns, expired signals included. -/
def averageReturn (outcomes : List SignalOutcome) : Result (Option Decimal) :=
  if outcomes.length = 0 then .ok none else do
    let sum := outcomes.foldl (fun sum item => sum.add item.returnPct) (Decimal.literal 0 0)
    let average ← signals (sum.div (.ofInt outcomes.length))
    return some average

/-- `build_scorecard` -/
def buildScorecard (outcomes : List SignalOutcome) : Result Scorecard := do
  let winRate ← ratePct (resolved .win outcomes) (decided outcomes)
  let target1HitRate ← ratePct (hits .target1 outcomes) (decided outcomes)
  let target2HitRate ← ratePct (hits .target2 outcomes) (decided outcomes)
  let averageReturnPct ← averageReturn outcomes
  return {
    totalSignals := outcomes.length
    wins := resolved .win outcomes
    losses := resolved .loss outcomes
    expired := resolved .expired outcomes
    winsTarget1 := hits .target1 outcomes
    winsTarget2 := hits .target2 outcomes
    winRatePct := winRate.map scientificText
    target1HitRatePct := target1HitRate.map scientificText
    target2HitRatePct := target2HitRate.map scientificText
    averageReturnPct := averageReturnPct.map scientificText }

/-! ### Rates -/

/-- What a count is divided to. -/
theorem ratePct_of_pos (count : ℕ) {decided : ℕ} (hDecided : 0 < decided) :
    ∃ rate, ratePct count decided = .ok (some rate) ∧
      rate.toRat = Decimal.round (count / decided) * 100 := by
  obtain ⟨quotient, hQuotient, hValue⟩ :=
    Decimal.exists_div_ofInt (.ofInt count) (Int.natCast_ne_zero.mpr hDecided.ne')
  rw [Decimal.toRat_ofInt, Int.cast_natCast, Int.cast_natCast] at hValue
  refine ⟨quotient.mul (.ofInt 100), ?_, ?_⟩
  · rw [ratePct, if_neg hDecided.ne', hQuotient]
    rfl
  · have hHundred : (Decimal.ofInt 100).toRat = 100 := Decimal.toRat_ofInt 100
    rw [Decimal.toRat_mul, hHundred, hValue]
    rw [hHundred, hValue]
    exact Decimal.representable_mul_hundred (Decimal.representable_round _)

theorem exists_averageReturn (outcomes : List SignalOutcome) :
    ∃ average, averageReturn outcomes = .ok average := by
  unfold averageReturn
  split_ifs with hEmpty
  · exact ⟨none, rfl⟩
  · have hLength : (outcomes.length : ℤ) ≠ 0 := by simpa using hEmpty
    obtain ⟨average, hAverage, -⟩ := Decimal.exists_div_ofInt
      (outcomes.foldl (fun sum item => sum.add item.returnPct) (Decimal.literal 0 0)) hLength
    exact ⟨some average, by simp only [hAverage]; rfl⟩

/-- The text is that of a decimal with the value. -/
def Writes (text : Option String) (x : ℚ) : Prop :=
  ∃ d : Decimal, text = some (scientificText d) ∧ d.toRat = x

theorem writes_some {d : Decimal} {x : ℚ} : Writes (some (scientificText d)) x ↔ d.toRat = x := by
  constructor
  · rintro ⟨d', hText, rfl⟩
    rw [scientificText_injective (Option.some.inj hText)]
  · intro h
    exact ⟨d, rfl, h⟩

/-- The rates of the targets sum to the win rate, or there is none of the three. -/
def RatesAddUp (card : Scorecard) : Prop :=
  (card.target1HitRatePct = none ∧ card.target2HitRatePct = none ∧ card.winRatePct = none) ∨
    ∃ x y, Writes card.target1HitRatePct x ∧ Writes card.target2HitRatePct y ∧
      Writes card.winRatePct (x + y)

/-- What the divisions of `a` and of `b` by `d` leave, each in its last decimal place, is what
the division of their sum leaves. -/
def LeftoversAddUp (a b d : ℕ) : Prop :=
  (leftover (a * 10 ^ Decimal.quotientPlaces a d) d : ℚ) / 10 ^ Decimal.quotientPlaces a d +
      leftover (b * 10 ^ Decimal.quotientPlaces b d) d / 10 ^ Decimal.quotientPlaces b d =
    leftover ((a + b) * 10 ^ Decimal.quotientPlaces (a + b) d) d /
      10 ^ Decimal.quotientPlaces (a + b) d

instance decidableLeftoversAddUp (a b d : ℕ) : Decidable (LeftoversAddUp a b d) :=
  inferInstanceAs (Decidable (_ = _))

theorem round_add_iff {a b d : ℕ} (hd : 0 < d) (h : a + b ≤ d) :
    Decimal.round (a / d) + Decimal.round (b / d) = Decimal.round ((a + b : ℕ) / d) ↔
      LeftoversAddUp a b d := by
  have hdRat : (d : ℚ) ≠ 0 := by exact_mod_cast hd.ne'
  rw [Decimal.round_natCast_div hd (by omega), Decimal.round_natCast_div hd (by omega),
    Decimal.round_natCast_div hd h, LeftoversAddUp]
  generalize (leftover (a * 10 ^ Decimal.quotientPlaces a d) d : ℚ) = x
  generalize (leftover (b * 10 ^ Decimal.quotientPlaces b d) d : ℚ) = y
  generalize (leftover ((a + b) * 10 ^ Decimal.quotientPlaces (a + b) d) d : ℚ) = z
  generalize (10 : ℚ) ^ Decimal.quotientPlaces a d = p
  generalize (10 : ℚ) ^ Decimal.quotientPlaces b d = q
  generalize (10 : ℚ) ^ Decimal.quotientPlaces (a + b) d = r
  have hSplit : ∀ t u : ℚ, t / (d * u) = t / u / d := by
    intro t u
    rw [div_div, mul_comm]
  rw [hSplit, hSplit, hSplit, ← sub_div, ← sub_div, ← sub_div, ← add_div, div_left_inj' hdRat]
  push_cast
  constructor
  · intro hSum
    linarith
  · intro hSum
    linarith

/-- Quotients that end within the digits of the context leave nothing. -/
theorem leftoversAddUp_of_dvd {a b d : ℕ} (hd : 0 < d)
    (ha : d ∣ a * 10 ^ Decimal.quotientPlaces a d) (hb : d ∣ b * 10 ^ Decimal.quotientPlaces b d)
    (hab : d ∣ (a + b) * 10 ^ Decimal.quotientPlaces (a + b) d) : LeftoversAddUp a b d := by
  have hNothing : ∀ n, d ∣ n → leftover n d = 0 := by
    intro n hn
    simp [leftover, Nat.mod_eq_zero_of_dvd hn, hd]
  rw [LeftoversAddUp, hNothing _ ha, hNothing _ hb, hNothing _ hab]
  simp

/-! ### Counts -/

variable {outcomes : List SignalOutcome}

theorem resolved_total :
    resolved .win outcomes + resolved .loss outcomes + resolved .expired outcomes =
      outcomes.length := by
  unfold resolved
  induction outcomes with
  | nil => rfl
  | cons item outcomes ih =>
    rw [List.countP_cons, List.countP_cons, List.countP_cons, List.length_cons]
    cases item.outcome <;> simp <;> omega

/-- The hits are the wins, where the wins carry them. -/
theorem hits_eq_wins (h : ∀ item ∈ outcomes, item.targetHit.isSome ↔ item.outcome = .win) :
    hits .target1 outcomes + hits .target2 outcomes = resolved .win outcomes := by
  unfold hits resolved
  induction outcomes with
  | nil => rfl
  | cons item outcomes ih =>
    obtain ⟨hItem, hRest⟩ := List.forall_mem_cons.mp h
    have hSum := ih hRest
    rw [List.countP_cons, List.countP_cons, List.countP_cons]
    cases hHit : item.targetHit with
    | none =>
      have hNoWin : item.outcome ≠ .win := fun hWin => by simp [hHit] at hItem; exact hItem hWin
      simp [hNoWin, hSum]
    | some level =>
      have hWin : item.outcome = .win := hItem.mp (by simp [hHit])
      cases level <;> simp [hWin] <;> omega

/-- The scorecard is always made, and its counts add up; its rates add up if and only if no
signal was decided, or what the three divisions leave does. -/
theorem buildScorecard_addsUp (outcomes : List SignalOutcome)
    (hHits : ∀ item ∈ outcomes, item.targetHit.isSome ↔ item.outcome = .win) :
    ∃ card, buildScorecard outcomes = .ok card ∧
      card.winsTarget1 + card.winsTarget2 = card.wins ∧
      card.wins + card.losses + card.expired = card.totalSignals ∧
      (RatesAddUp card ↔ decided outcomes = 0 ∨
        LeftoversAddUp (hits .target1 outcomes) (hits .target2 outcomes) (decided outcomes)) := by
  have hWins := hits_eq_wins hHits
  obtain ⟨average, hAverage⟩ := exists_averageReturn outcomes
  rcases Nat.eq_zero_or_pos (decided outcomes) with hNone | hDecided
  · refine ⟨_, by simp only [buildScorecard, hNone, hAverage]; rfl, hWins, resolved_total, ?_⟩
    exact iff_of_true (.inl ⟨rfl, rfl, rfl⟩) (.inl hNone)
  · obtain ⟨win, hWin, hWinValue⟩ := ratePct_of_pos (resolved .win outcomes) hDecided
    obtain ⟨first, hFirst, hFirstValue⟩ := ratePct_of_pos (hits .target1 outcomes) hDecided
    obtain ⟨second, hSecond, hSecondValue⟩ :=
      ratePct_of_pos (hits .target2 outcomes) hDecided
    refine ⟨_, by simp only [buildScorecard, hWin, hFirst, hSecond, hAverage]; rfl, hWins,
      resolved_total, ?_⟩
    have hBound : hits .target1 outcomes + hits .target2 outcomes ≤ decided outcomes := by
      rw [hWins]
      exact Nat.le_add_right _ _
    rw [or_iff_right hDecided.ne', ← round_add_iff hDecided hBound, hWins]
    constructor
    · rintro (⟨hNo, -, -⟩ | ⟨x, y, hx, hy, hSum⟩)
      · cases hNo
      · have hFirstReported : first.toRat = x := writes_some.mp hx
        have hSecondReported : second.toRat = y := writes_some.mp hy
        have hWinReported : win.toRat = x + y := writes_some.mp hSum
        linarith
    · intro hSum
      have hReported : win.toRat = first.toRat + second.toRat := by linarith
      exact .inr ⟨first.toRat, second.toRat, writes_some.mpr rfl, writes_some.mpr rfl,
        writes_some.mpr hReported⟩

def resolvedAt (outcome : Resolution) (targetHit : Option TargetLevel) : SignalOutcome :=
  ⟨outcome, targetHit, Decimal.literal 1 0⟩

/-- One signal for each target, and a loss. -/
def sampleOutcomes : List SignalOutcome :=
  [resolvedAt .win (some .target1), resolvedAt .win (some .target2), resolvedAt .loss none]

theorem sampleOutcomes_addsUp_iff : ∃ card, buildScorecard sampleOutcomes = .ok card ∧
    card.winsTarget1 + card.winsTarget2 = card.wins ∧
    card.wins + card.losses + card.expired = card.totalSignals ∧
    (RatesAddUp card ↔ decided sampleOutcomes = 0 ∨ LeftoversAddUp (hits .target1 sampleOutcomes)
      (hits .target2 sampleOutcomes) (decided sampleOutcomes)) :=
  buildScorecard_addsUp sampleOutcomes (by decide)

/-- Two thirds are rounded up, and one third twice down. -/
theorem sampleOutcomes_do_not_addUp :
    (∀ item ∈ sampleOutcomes, item.targetHit.isSome ↔ item.outcome = .win) ∧
      ∃ card, buildScorecard sampleOutcomes = .ok card ∧ ¬ RatesAddUp card := by
  have hThirds : ∃ card, buildScorecard sampleOutcomes = .ok card ∧
      card.target1HitRatePct = some (scientificText ⟨false, 3333333333333333333333333333, -26⟩) ∧
      card.target2HitRatePct = some (scientificText ⟨false, 3333333333333333333333333333, -26⟩) ∧
      card.winRatePct = some (scientificText ⟨false, 6666666666666666666666666667, -26⟩) := by
    decide +kernel
  obtain ⟨card, hCard, hFirst, hSecond, hWin⟩ := hThirds
  refine ⟨by decide, card, hCard, ?_⟩
  rintro (⟨hNo, -, -⟩ | ⟨x, y, hx, hy, hSum⟩)
  · rw [hFirst] at hNo
    cases hNo
  · rw [hFirst, writes_some] at hx
    rw [hSecond, writes_some] at hy
    rw [hWin, writes_some, ← hx, ← hy] at hSum
    norm_num [Decimal.toRat, Decimal.signed] at hSum

end Daybreak.Scanner
