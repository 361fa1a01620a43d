import Daybreak.Validation.Partition

/-! The evidence of the records of a valid run. Positions that are reported anchor the
excerpt in the catalyst text; an excerpt that is reported without positions is
only looked for in the text, so the evidence of a run is anchored exactly when no
such excerpt occurs. -/

namespace Daybreak.Validation

open Contracts

variable {payload : DaybreakInput} {output : DaybreakOutput} {record : TerminalRecord}
  {entry : TickerInput}

/-! ### Slices -/

theorem length_slice {text : String} {start stop : ℕ} (hStart : start ≤ stop)
    (hStop : stop ≤ text.length) : (slice text start stop).length = stop - start := by
  have hText : text.toList.length = text.length := String.length_toList
  have hNonneg : ¬ ((stop : ℤ) < 0) ∧ ¬ ((start : ℤ) < 0) := by omega
  simp only [slice, String.length_ofList, List.length_drop, List.length_take, hNonneg.1,
    hNonneg.2, if_false, Int.toNat_natCast, hText]
  omega

/-- Empty evidence, or the first code points of a span of the text. -/
def Anchored (text : String) (score : ScoreBreakdown) : Prop :=
  (score.magnitudeEvidenceExcerpt = "" ∧ score.magnitudeEvidenceTruncated = false ∧
    score.magnitudeEvidenceStartChar = none ∧ score.magnitudeEvidenceEndChar = none) ∨
  ∃ start stop : ℕ, score.magnitudeEvidenceStartChar = some (start : ℤ) ∧
    score.magnitudeEvidenceEndChar = some (stop : ℤ) ∧ start < stop ∧ stop ≤ text.length ∧
    score.magnitudeEvidenceExcerpt = slicePrefix (slice text start stop) (min 200 (stop - start)) ∧
    (score.magnitudeEvidenceTruncated = true ↔ 200 < stop - start)

/-- An excerpt comes with positions. -/
def Positioned (score : ScoreBreakdown) : Prop :=
  score.magnitudeEvidenceExcerpt ≠ "" → score.magnitudeEvidenceStartChar.isSome

/-! ### What the checks leave open -/

theorem score_valid (hRecord : record ∈ terminalRecords output) : record.score.Valid := by
  obtain ⟨hApproved, hQualified, hExcluded, -⟩ := output.valid.1
  obtain ⟨item, hItem, rfl⟩ | ⟨item, hItem, rfl⟩ | ⟨item, hItem, rfl⟩ :=
    mem_terminalRecords.mp hRecord
  · exact (hApproved item hItem).2.2.1
  · exact (hQualified item hItem).2.2.2.1
  · exact (hExcluded item hItem).2.1

/-- The evidence that passed every mode of the evidence checks. -/
def EvidencePassed (record : TerminalRecord) (entry : TickerInput) : Prop :=
  ∀ mode, ∃ number, evidenceViolations number mode record entry = []

theorem anchored_of_positions (hValid : record.score.Valid) (h : EvidencePassed record entry)
    {start stop : ℤ} (hStart : record.score.magnitudeEvidenceStartChar = some start)
    (hStop : record.score.magnitudeEvidenceEndChar = some stop) :
    Anchored entry.newsContext.catalystText record.score := by
  obtain ⟨_, hBounds⟩ := h .bounds
  obtain ⟨_, hFull⟩ := h .full
  obtain ⟨_, hTruncated⟩ := h .truncated
  simp only [evidenceViolations, hStart, hStop, violationUnless_eq_nil] at hBounds hFull hTruncated
  obtain ⟨start, rfl⟩ := Int.eq_ofNat_of_zero_le hBounds.1
  obtain ⟨stop, rfl⟩ := Int.eq_ofNat_of_zero_le (hBounds.1.trans hBounds.2.1.le)
  have hOrder : start < stop := Int.ofNat_lt.mp hBounds.2.1
  have hText : stop ≤ entry.newsContext.catalystText.length := Int.ofNat_le.mp hBounds.2.2
  have hSpan := length_slice hOrder.le hText
  refine .inr ⟨start, stop, hStart, hStop, hOrder, hText, ?_⟩
  cases hFlag : record.score.magnitudeEvidenceTruncated with
  | false =>
    -- the excerpt is the whole span, and the model bounds an excerpt by two hundred
    have hExcerpt := hFull hFlag
    have hShort : stop - start ≤ 200 := by
      rw [← hSpan]
      exact hExcerpt ▸ hValid.1.2.2.1
    rw [min_eq_right hShort]
    refine ⟨hExcerpt.trans (slicePrefix_of_length_le hSpan.le).symm, ?_⟩
    simpa using hShort
  | true =>
    obtain ⟨hLong, hExcerpt⟩ := hTruncated hFlag
    rw [hSpan] at hLong
    rw [min_eq_left hLong.le]
    exact ⟨hExcerpt, iff_of_true rfl hLong⟩

/-- Of the evidence that passed its checks, what is anchored has positions for its excerpt. -/
theorem anchored_iff (hValid : record.score.Valid) (h : EvidencePassed record entry) :
    Anchored entry.newsContext.catalystText record.score ↔ Positioned record.score := by
  have hPair := hValid.2.1
  cases hStart : record.score.magnitudeEvidenceStartChar with
  | some start =>
    rw [hStart, Option.isNone_some, eq_comm, Option.isNone_eq_false_iff] at hPair
    obtain ⟨stop, hStop⟩ := Option.isSome_iff_exists.mp hPair
    refine iff_of_true (anchored_of_positions hValid h hStart hStop) fun _ => ?_
    rw [hStart]
    rfl
  | none =>
    rw [hStart, Option.isNone_none, eq_comm, Option.isNone_iff_eq_none] at hPair
    obtain ⟨_, hTruncated⟩ := h .truncated
    simp only [evidenceViolations, hStart, violationUnless_eq_nil] at hTruncated
    simp [Anchored, Positioned, hStart, hPair, hTruncated]

/-- In a valid run the evidence of a record is anchored in the text of its catalyst
if and only if an excerpt that is not empty has positions. -/
theorem evidence_anchored_iff (payload : DaybreakInput) (output : DaybreakOutput)
    (rawInput : Option RawObject) (metadata : ValidationMetadata) (requireEvidence : Bool)
    (h : Validated payload output rawInput metadata requireEvidence) :
    ∀ record ∈ terminalRecords output, ∃ entry,
      inputByTicker payload record.ticker = some entry ∧
        (Anchored entry.newsContext.catalystText record.score ↔ Positioned record.score) := by
  intro record hRecord
  obtain ⟨entry, hEntry⟩ := h.accepted.exists_entry hRecord
  refine ⟨entry, hEntry, anchored_iff (score_valid hRecord) fun mode => ?_⟩
  obtain ⟨number, hNone⟩ := h.accepted.evidence mode
  exact ⟨number, hNone record hRecord entry hEntry⟩

/-! ### An excerpt without positions -/

/-- The sample answer with its positions left out. -/
def unanchoredOutput : DaybreakOutput :=
  ⟨sampleOutputFields [sampleApproval "AAAA" ⟨2, "2.0"⟩ { sampleScore with
      magnitudeEvidenceStartChar := none, magnitudeEvidenceEndChar := none }]
    [sampleExclusion "HALT"], by decide +kernel⟩

theorem sampleRun_anchored : ∃ record ∈ terminalRecords sampleOutput, ∃ entry,
    inputByTicker samplePayload record.ticker = some entry ∧
      (Anchored entry.newsContext.catalystText record.score ↔ Positioned record.score) :=
  ⟨_, List.mem_cons_self,
    evidence_anchored_iff samplePayload sampleOutput none {} false (by decide +kernel) _
      List.mem_cons_self⟩

theorem unanchoredOutput_valid : Validated samplePayload unanchoredOutput none {} false ∧
    ∃ record ∈ terminalRecords unanchoredOutput, ∀ text, ¬ Anchored text record.score := by
  refine ⟨by decide +kernel, _, List.mem_cons_self, ?_⟩
  rintro text (⟨hEmpty, -⟩ | ⟨start, stop, hStart, -⟩)
  · revert hEmpty
    decide
  · cases hStart

end Daybreak.Validation
