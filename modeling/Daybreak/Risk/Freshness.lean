import Daybreak.Numeric.Significant
import Daybreak.Risk.Sizing

/-! How exact the freshness gates are. The age of a snapshot is cut to whole milliseconds,
toward zero, before it is compared, so a snapshot up to a millisecond outside of its interval
passes at both ends. -/

namespace Daybreak

open Numeric

/-! ### Whole milliseconds -/

theorem binary64_symm (x : ℚ) : binary64 (-x) = -binary64 x := by
  unfold binary64 roundSignificant
  by_cases hx : x = 0
  · simp [hx]
  · rw [if_neg (neg_ne_zero.mpr hx), if_neg hx, abs_neg]
    simp only [roundTo, roundInt, neg_div, roundHalfEven_neg, Int.cast_neg, neg_mul]

variable {later earlier : Timestamp} {maxMs : ℕ}

theorem elapsedMs_symm (later earlier : Timestamp) :
    elapsedMs earlier later = -elapsedMs later earlier := by
  have hDifference : ((earlier - later : ℤ) : ℚ) / 1000000 =
      -(((later - earlier : ℤ) : ℚ) / 1000000) := by
    rw [← neg_sub later earlier, Int.cast_neg, neg_div]
  rw [elapsedMs, hDifference, binary64_symm, neg_mul, binary64_symm, elapsedMs]

/-- A millisecond is read as one. -/
theorem one_le_elapsedMs (h : later + 1000 ≤ earlier) : 1 ≤ elapsedMs earlier later := by
  rcases h.eq_or_lt with hEq | hLt
  · have hExact : binary64 (binary64 ((1000 : ℤ) / 1000000) * 1000) = 1 := by decide +kernel
    rw [elapsedMs, ← hEq, add_sub_cancel_left, hExact]
  · by_contra hLess
    have hOne : elapsedMs earlier later ≤ (1 : ℕ) := by
      rw [Nat.cast_one]
      exact (not_le.mp hLess).le
    have hMs : earlier - later ≤ (1 : ℕ) * 1000 := sub_le_of_elapsedMs (by norm_num) hOne
    push_cast at hMs
    linarith

namespace Risk

theorem lt_of_ageMs_nonneg (h : 0 ≤ ageMs later earlier) : earlier < later + 1000 := by
  by_contra hFuture
  have hMinus : elapsedMs later earlier ≤ -1 := by
    rw [elapsedMs_symm, neg_le_neg_iff]
    exact one_le_elapsedMs (not_lt.mp hFuture)
  have hAge : ageMs later earlier ≤ -1 := by
    rw [ageMs, truncate, if_neg (by linarith), Int.ceil_le]
    exact_mod_cast hMinus
  omega

theorem sub_le_of_ageMs (hMs : maxMs < 2 ^ 20) (h : ageMs later earlier ≤ maxMs) :
    later - earlier ≤ maxMs * 1000 + 1000 := by
  have hElapsed : elapsedMs later earlier ≤ (maxMs + 1 : ℕ) := by
    unfold ageMs truncate at h
    split_ifs at h with hNonneg
    · have hFloor : ⌊elapsedMs later earlier⌋ < (maxMs + 1 : ℕ) := by push_cast; omega
      exact_mod_cast (Int.floor_lt.mp hFloor).le
    · exact (not_le.mp hNonneg).le.trans (by positivity)
  have hSub := sub_le_of_elapsedMs hMs hElapsed
  push_cast at hSub
  linarith

/-! ### Intervals -/

/-- The age of `earlier` is at least zero and at most the maximum, in microseconds. -/
def WithinAge (maxMs : ℕ) (later earlier : Timestamp) : Prop :=
  0 ≤ later - earlier ∧ later - earlier ≤ maxMs * 1000

/-- The age is less than a millisecond below zero, or up to a millisecond over the maximum. -/
def NearlyWithinAge (maxMs : ℕ) (later earlier : Timestamp) : Prop :=
  (-1000 < later - earlier ∧ later - earlier < 0) ∨
    (maxMs * 1000 < later - earlier ∧ later - earlier ≤ maxMs * 1000 + 1000)

instance decidableWithinAge (maxMs : ℕ) (later earlier : Timestamp) :
    Decidable (WithinAge maxMs later earlier) :=
  inferInstanceAs (Decidable (_ ∧ _))

/-- What passes its gate is within its interval, or nearly. -/
theorem withinAge_iff_of_ageMs (hMs : maxMs < 2 ^ 20)
    (h : ¬ (ageMs later earlier < 0 ∨ maxMs < ageMs later earlier)) :
    WithinAge maxMs later earlier ↔ ¬ NearlyWithinAge maxMs later earlier := by
  push Not at h
  have hFuture := lt_of_ageMs_nonneg h.1
  have hPast := sub_le_of_ageMs hMs h.2
  unfold WithinAge NearlyWithinAge
  constructor
  · rintro ⟨hLow, hHigh⟩ (⟨-, hNegative⟩ | ⟨hOver, -⟩)
    · linarith
    · linarith
  · intro hNearly
    push Not at hNearly
    refine ⟨hNearly.1 (by linarith), ?_⟩
    by_contra hOver
    linarith [hNearly.2 (not_le.mp hOver)]

variable {D : Type} [DecimalArithmetic D]

/-- The timestamps of a request, each with its largest age in milliseconds. -/
def agedTimestamps (r : SizingRequest D) : List (ℕ × Timestamp) :=
  [(r.policy.maxAccountSnapshotAgeMs, r.account.snapshotTimestamp),
    (r.policy.maxQuoteAgeMs, r.quote.quoteTimestamp),
    (r.policy.maxLastTradeAgeMs, r.quote.lastTradeTimestamp)]

/-- Every timestamp is within its age. -/
def Fresh (r : SizingRequest D) : Prop :=
  ∀ aged ∈ agedTimestamps r, WithinAge aged.1 r.calculatedAt aged.2

theorem ageMs_of_nil {r : SizingRequest D} {c : Calculations D} (h : rejectionReasons r c = []) :
    ∀ aged ∈ agedTimestamps r,
      ¬ (ageMs r.calculatedAt aged.2 < 0 ∨ aged.1 < ageMs r.calculatedAt aged.2) := by
  simp only [agedTimestamps, List.forall_mem_cons]
  refine ⟨?_, ?_, ?_, nofun⟩
  · exact not_of_gate .accountSnapshotStale h (by simp only [gates, List.mem_cons, true_or, or_true])
  · exact not_of_gate .quoteSnapshotStale h (by simp only [gates, List.mem_cons, true_or, or_true])
  · exact not_of_gate .lastTradeStale h (by simp only [gates, List.mem_cons, true_or, or_true])

theorem maxMs_lt_of_valid {newYorkDate : Timestamp → Date} {r : SizingRequest D}
    (h : r.Valid newYorkDate) : ∀ aged ∈ agedTimestamps r, aged.1 < 2 ^ 20 := by
  have hPolicy := h.1.2.2.1.1
  simp only [agedTimestamps, List.forall_mem_cons]
  refine ⟨?_, ?_, ?_, nofun⟩
  · have hAccount := hPolicy.2.2.2.2.2.2.2.2.2.2.2.2.2.2.1.2
    omega
  · have hQuote := hPolicy.2.2.2.2.2.2.2.2.2.2.2.2.2.2.2.1.2
    omega
  · have hTrade := hPolicy.2.2.2.2.2.2.2.2.2.2.2.2.2.2.2.2.1.2
    omega

/-- An approved request is fresh if and only if none of its timestamps is less than a
millisecond in the future, or up to a millisecond older than its maximum. -/
theorem approved_fresh_iff (H : Canonical D) (newYorkDate : Timestamp → Date) (r : SizingRequest D)
    (d : RiskDecision D) (hr : r.Valid newYorkDate) (h : sizePosition H r = .ok d)
    (ha : d.decision = .approved) :
    Fresh r ↔ ∀ aged ∈ agedTimestamps r, ¬ NearlyWithinAge aged.1 r.calculatedAt aged.2 := by
  obtain ⟨c, -, -, hReasons, -⟩ := (sizePosition_approved_iff h).mp ha
  refine forall₂_congr fun aged hAged => ?_
  exact withinAge_iff_of_ageMs (maxMs_lt_of_valid hr aged hAged) (ageMs_of_nil hReasons aged hAged)

/-- A quote of a microsecond after the calculation. -/
def futureQuote : SizingRequest Decimal :=
  { sampleRequest Decimal with
    quote := { (sampleRequest Decimal).quote with quoteTimestamp := 1785763800500001 } }

theorem futureQuote_approved : futureQuote.Valid (fun _ => ⟨2026, 8, 3⟩) ∧
    ∃ d, sizePosition (sampleCanonical Decimal) futureQuote = .ok d ∧ d.decision = .approved := by
  decide +kernel

theorem futureQuote_fresh_iff : Fresh futureQuote ↔ ∀ aged ∈ agedTimestamps futureQuote,
    ¬ NearlyWithinAge aged.1 futureQuote.calculatedAt aged.2 := by
  obtain ⟨hValid, d, hd, ha⟩ := futureQuote_approved
  exact approved_fresh_iff _ _ _ d hValid hd ha

/-- The request is approved although its quote is not yet there. -/
theorem futureQuote_not_fresh : futureQuote.Valid (fun _ => ⟨2026, 8, 3⟩) ∧
    (∃ d, sizePosition (sampleCanonical Decimal) futureQuote = .ok d ∧ d.decision = .approved) ∧
    ¬ Fresh futureQuote := by
  refine ⟨futureQuote_approved.1, futureQuote_approved.2, fun hFresh => ?_⟩
  have hQuote := hFresh (1000, 1785763800500001) (by simp [agedTimestamps, futureQuote]; decide)
  exact absurd hQuote (by decide)

end Risk

end Daybreak
