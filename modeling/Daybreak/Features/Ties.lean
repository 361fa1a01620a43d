import Daybreak.Features.Conservation
import Daybreak.Order.Ties

/-! Records that tie in a join. The float record and the catalyst are the first of the best ones,
so their order does not matter exactly where the best ones are the same record, or catalysts that
are all refused for their time. -/

namespace Daybreak.Features

open Contracts Daybreak.Order Effect Fallible Numeric DecimalArithmetic

variable {D : Type} [DecimalArithmetic D]

/-! ### What is made of a choice -/

/-- The float record that was chosen. -/
def chosenFloat : Option FloatRecord → FeatureResult FloatRecord
  | none => .error (.dataQuality .floatDataUnavailable "no valid point-in-time float record")
  | some record => .ok record

/-- An age in seconds, in hours of six decimal places. -/
def ageHours (ageSeconds : D) : FeatureResult D := do
  let hours ← arith (div ageSeconds (ofInt 3600))
  quantizeSix hours

/-- The catalyst that was chosen, with its age. -/
def chosenCatalyst (ofFloat : ℚ → D) (snapshot : Timestamp) :
    Option CatalystRecord → FeatureResult (CatalystRecord × D)
  | none => .error (.dataQuality .catalystDataUnavailable "no catalyst known by snapshot")
  | some selected =>
    let ageSeconds := ofFloat (elapsedSeconds snapshot selected.sourceTimestamp)
    if value ageSeconds < 0 then
      .error (.dataQuality .futureCatalystTimestamp "source timestamp is after snapshot")
    else (ageHours ageSeconds).map fun hours => (selected, hours)

theorem selectFloatRecord_eq (records : List FloatRecord) (ticker : String) (snapshot : Timestamp)
    (config : FeatureEngineConfig D) : selectFloatRecord records ticker snapshot config =
      chosenFloat ((records.filter (·.Usable ticker snapshot config)).argmax
        FloatRecord.recency) := by
  rw [selectFloatRecord]
  split
  · next h => rw [h, chosenFloat]
  · next h => rw [h, chosenFloat]

theorem selectCatalyst_eq (ofFloat : ℚ → D) (records : List CatalystRecord) (ticker : String)
    (snapshot : Timestamp) : selectCatalyst ofFloat records ticker snapshot =
      chosenCatalyst ofFloat snapshot ((sortedBy CatalystRecord.selectionKey
        (records.filter fun record => record.ticker = ticker ∧ record.observedAt ≤ snapshot)).head?) := by
  unfold selectCatalyst
  simp only
  split
  · next h => rw [h]; rfl
  · next selected h =>
    rw [h, chosenCatalyst]
    split_ifs
    · rfl
    · rw [ageHours]
      cases arith (div (ofFloat (elapsedSeconds snapshot selected.sourceTimestamp)) (ofInt 3600)) with
      | error e => rfl
      | ok hours =>
        simp only [ok_bind]
        cases quantizeSix hours <;> rfl

theorem elapsedSeconds_neg {later earlier : Timestamp} :
    elapsedSeconds later earlier < 0 ↔ later < earlier := by
  constructor
  · intro h
    refine lt_of_le_of_ne (le_of_elapsedSeconds h.le) ?_
    rintro rfl
    simp [elapsedSeconds, binary64, roundSignificant] at h
  · intro h
    refine binary64_neg (div_neg_of_neg_of_pos ?_ (by norm_num))
    exact_mod_cast sub_neg.mpr h

/-! ### Ties -/

/-- What `Decimal(str(x))` is relied on for: it keeps the sign, and the age of a catalyst that is
not after the snapshot can be expressed in hours. -/
structure AgesKnown (ofFloat : ℚ → D) (snapshot : Timestamp) (catalysts : List CatalystRecord) :
    Prop where
  sign : ∀ x, value (ofFloat x) < 0 ↔ x < 0
  hours : ∀ catalyst ∈ catalysts, catalyst.sourceTimestamp ≤ snapshot →
    ∃ hours, ageHours (ofFloat (elapsedSeconds snapshot catalyst.sourceTimestamp)) = .ok hours

/-- Every order of the records of a candidate is joined alike. -/
structure OrderFree (ofFloat : ℚ → D) (source : CandidateSourceData D) (snapshot : Timestamp)
    (config : FeatureEngineConfig D) : Prop where
  floats : ∀ records : List FloatRecord, records.Perm source.floatRecords →
    selectFloatRecord records source.ticker snapshot config =
      selectFloatRecord source.floatRecords source.ticker snapshot config
  catalysts : ∀ records : List CatalystRecord, records.Perm source.catalysts →
    selectCatalyst ofFloat records source.ticker snapshot =
      selectCatalyst ofFloat source.catalysts source.ticker snapshot

/-- A usable float record, with no other more recent. -/
abbrev MostRecent (source : CandidateSourceData D) (snapshot : Timestamp)
    (config : FeatureEngineConfig D) : FloatRecord → Prop :=
  IsGreatestOf (·.Usable source.ticker snapshot config) FloatRecord.recency source.floatRecords

/-- A catalyst that is known by the snapshot, with none before it. -/
abbrev Foremost (source : CandidateSourceData D) (snapshot : Timestamp) : CatalystRecord → Prop :=
  IsLeastOf (fun record => record.ticker = source.ticker ∧ record.observedAt ≤ snapshot)
    CatalystRecord.selectionKey source.catalysts

/-- No two records that differ are tied, but for catalysts after the snapshot. -/
structure NoTies (source : CandidateSourceData D) (snapshot : Timestamp)
    (config : FeatureEngineConfig D) : Prop where
  floats : ∀ a b, MostRecent source snapshot config a → MostRecent source snapshot config b → a = b
  catalysts : ∀ a b, Foremost source snapshot a → Foremost source snapshot b →
    a = b ∨ (snapshot < a.sourceTimestamp ∧ snapshot < b.sourceTimestamp)

/-- Two choices come to the same if and only if they are the same, or are both refused. -/
theorem chosenCatalyst_eq_iff {ofFloat : ℚ → D} {snapshot : Timestamp}
    {catalysts : List CatalystRecord} (hAges : AgesKnown ofFloat snapshot catalysts)
    {a b : CatalystRecord} (ha : a ∈ catalysts) (hb : b ∈ catalysts) :
    chosenCatalyst ofFloat snapshot (some a) = chosenCatalyst ofFloat snapshot (some b) ↔
      a = b ∨ (snapshot < a.sourceTimestamp ∧ snapshot < b.sourceTimestamp) := by
  have hRefused : ∀ c ∈ catalysts, snapshot < c.sourceTimestamp →
      chosenCatalyst ofFloat snapshot (some c) =
        .error (.dataQuality .futureCatalystTimestamp "source timestamp is after snapshot") := by
    intro c _ hFuture
    rw [chosenCatalyst]
    exact if_pos ((hAges.sign _).mpr (elapsedSeconds_neg.mpr hFuture))
  have hTaken : ∀ c ∈ catalysts, ¬ snapshot < c.sourceTimestamp →
      ∃ hours, chosenCatalyst ofFloat snapshot (some c) = .ok (c, hours) := by
    intro c hc hPast
    obtain ⟨hours, hHours⟩ := hAges.hours c hc (not_lt.mp hPast)
    refine ⟨hours, ?_⟩
    rw [chosenCatalyst, if_neg fun hNegative => hPast (elapsedSeconds_neg.mp ((hAges.sign _).mp hNegative)), hHours]
    rfl
  constructor
  · intro hSame
    by_cases haFuture : snapshot < a.sourceTimestamp
    · by_cases hbFuture : snapshot < b.sourceTimestamp
      · exact .inr ⟨haFuture, hbFuture⟩
      · obtain ⟨hours, hb⟩ := hTaken b hb hbFuture
        rw [hRefused a ha haFuture, hb] at hSame
        cases hSame
    · obtain ⟨hours, ha⟩ := hTaken a ha haFuture
      rw [ha] at hSame
      by_cases hbFuture : snapshot < b.sourceTimestamp
      · rw [hRefused b hb hbFuture] at hSame
        cases hSame
      · obtain ⟨hours', hb⟩ := hTaken b hb hbFuture
        rw [hb] at hSame
        exact .inl (Prod.mk.inj (Except.ok.inj hSame)).1
  · rintro (rfl | ⟨haFuture, hbFuture⟩)
    · rfl
    · rw [hRefused a ha haFuture, hRefused b hb hbFuture]

/-- The order of the records does not matter if and only if there are no ties. -/
theorem orderFree_iff {ofFloat : ℚ → D} (source : CandidateSourceData D) (snapshot : Timestamp)
    (config : FeatureEngineConfig D) (hAges : AgesKnown ofFloat snapshot source.catalysts) :
    OrderFree ofFloat source snapshot config ↔ NoTies source snapshot config := by
  have hFloats : (∀ records : List FloatRecord, records.Perm source.floatRecords →
      selectFloatRecord records source.ticker snapshot config =
        selectFloatRecord source.floatRecords source.ticker snapshot config) ↔
      ∀ a b, MostRecent source snapshot config a → MostRecent source snapshot config b → a = b := by
    simp only [selectFloatRecord_eq]
    rw [positionalChoice_argmax.forall_perm_iff chosenFloat]
    simp only [chosenFloat, Except.ok.injEq]
  have hCatalysts : (∀ records : List CatalystRecord, records.Perm source.catalysts →
      selectCatalyst ofFloat records source.ticker snapshot =
        selectCatalyst ofFloat source.catalysts source.ticker snapshot) ↔
      ∀ a b, Foremost source snapshot a → Foremost source snapshot b →
        a = b ∨ (snapshot < a.sourceTimestamp ∧ snapshot < b.sourceTimestamp) := by
    simp only [selectCatalyst_eq]
    rw [positionalChoice_sortedBy.forall_perm_iff (chosenCatalyst ofFloat snapshot)]
    refine forall₄_congr fun a b ha hb => ?_
    exact chosenCatalyst_eq_iff hAges ha.1.1 hb.1.1
  constructor
  · intro h
    exact ⟨hFloats.mp h.floats, hCatalysts.mp h.catalysts⟩
  · intro h
    exact ⟨hFloats.mpr h.floats, hCatalysts.mpr h.catalysts⟩

/-! ### Two floats and two catalysts of one moment -/

/-- A float record that ties with the first but has other shares, and a catalyst that ties with
the first but has another text. -/
def tiedSource : CandidateSourceData Decimal :=
  { sampleSource "AAAA" "FDA approval" [] canonical_AAAA approval_nonempty with
    floatRecords := [sampleFloat "AAAA", { sampleFloat "AAAA" with floatShares := 5 }]
    catalysts := [sampleCatalyst "AAAA" "FDA approval" approval_nonempty,
      sampleCatalyst "AAAA" "FDA refusal" (by decide)]
    float_ticker := List.forall_mem_cons.mpr ⟨rfl, List.forall_mem_singleton.mpr rfl⟩
    catalyst_ticker := List.forall_mem_cons.mpr ⟨rfl, List.forall_mem_singleton.mpr rfl⟩ }

theorem tiedSource_ages :
    AgesKnown sampleRuntime.ofFloat (sampleDay + hours 13) tiedSource.catalysts where
  sign x := by
    change Decimal.toRat ⟨decide (x < 0), (10 * ⌊x⌋).natAbs, -1⟩ < 0 ↔ x < 0
    rcases lt_or_ge x 0 with hx | hx
    · simp [Decimal.toRat, Decimal.signed, hx]
    · simp only [Decimal.toRat, Decimal.signed, not_lt.mpr hx, decide_false, Bool.false_eq_true,
        if_false, iff_false, not_lt]
      positivity
  hours := by
    have hTimes : ∀ catalyst ∈ tiedSource.catalysts,
        catalyst.sourceTimestamp = sampleDay + hours 11 := by
      simp [tiedSource, sampleCatalyst]
    intro catalyst hCatalyst _
    rw [hTimes catalyst hCatalyst]
    have hSeconds : elapsedSeconds (sampleDay + hours 13) (sampleDay + hours 11) = 7200 := by
      decide +kernel
    rw [hSeconds]
    exact ⟨_, rfl⟩

/-- In the other order the other float record is joined. -/
theorem tiedSource_not_orderFree : ¬ OrderFree sampleRuntime.ofFloat tiedSource
    (sampleDay + hours 13) sampleConfig := by
  intro h
  have hSame := h.floats [{ sampleFloat "AAAA" with floatShares := 5 }, sampleFloat "AAAA"]
    (.swap _ _ [])
  have hShares := congrArg (fun x : FeatureResult FloatRecord => x.map (·.floatShares)) hSame
  revert hShares
  decide +kernel

theorem tiedSource_orderFree_iff :
    OrderFree sampleRuntime.ofFloat tiedSource (sampleDay + hours 13) sampleConfig ↔
      NoTies tiedSource (sampleDay + hours 13) sampleConfig :=
  orderFree_iff tiedSource _ sampleConfig tiedSource_ages

end Daybreak.Features
