import Daybreak.Order.Anchored
import Daybreak.Validation.Partition

/-! The ranking of a valid run that was scored. The specification ranks the tickers
that pass by the catalyst ages of the payload; the replay ranks them by the ages that
the answer reports, which no check compares with the payload. -/

namespace Daybreak.Validation

open Contracts Daybreak.Order

variable {payload : DaybreakInput} {output : DaybreakOutput} {record : TerminalRecord}
  {entry : TickerInput} {records : List PassingRecord} {fuel : ℕ}

/-! ### The ranking of the specification -/

def recordOf (output : DaybreakOutput) (ticker : String) : Option TerminalRecord :=
  (terminalRecords output).find? (·.ticker = ticker)

/-- The ranking fields of a ticker of the payload that passes, all from its replay. -/
def replayedRecord (payload : DaybreakInput) (output : DaybreakOutput) (entry : TickerInput) :
    Option PassingRecord := do
  let record ← recordOf output entry.ticker
  let expected := expectedScoreFields payload entry record.score
  guard (expectedFailedGates entry expected.catalystScoreRaw = [])
  return {
    ticker := entry.ticker
    convictionScore := expected.catalystPoints + expected.volumePoints + expected.technicalPoints
    catalystAgeHours := entry.newsContext.catalystAgeHours.value
    catalystScoreRaw := expected.catalystScoreRaw
    volumePoints := expected.volumePoints
    technicalPoints := expected.technicalPoints }

def passingInputs (payload : DaybreakInput) (output : DaybreakOutput) : List PassingRecord :=
  payload.tickers.filterMap (replayedRecord payload output)

def specifiedOrder (payload : DaybreakInput) (output : DaybreakOutput) : List String :=
  (anchoredRanking (·.convictionScore) 2 PassingRecord.groupKey
    (passingInputs payload output)).map (·.ticker)

/-- The first three are approved, and the others are reported with their ranks. -/
structure RankedBySpecification (payload : DaybreakInput) (output : DaybreakOutput) : Prop where
  approved : output.approvedSetups.map (·.ticker) = (specifiedOrder payload output).take 3
  qualified : (output.qualifiedNotSelected.map fun item => (item.ticker, item.finalRank)) =
    ((specifiedOrder payload output).drop 3).zipIdx 4

/-- A reported record with the age that the payload gives its ticker. -/
def withInputAge (payload : DaybreakInput) (record : PassingRecord) : PassingRecord :=
  match inputByTicker payload record.ticker with
  | none => record
  | some entry => { record with catalystAgeHours := entry.newsContext.catalystAgeHours.value }

/-- Within every group, the reported ages order the tickers as those of the payload do. -/
def AgesKeepOrder (payload : DaybreakInput) (output : DaybreakOutput) : Prop :=
  let passing := passingRecords output
  ∀ group ∈ anchoredGroups (·.convictionScore) 2 passing.length passing,
    ∀ a ∈ group, ∀ b ∈ group, a.groupKey ≤ b.groupKey →
      (withInputAge payload a).groupKey ≤ (withInputAge payload b).groupKey

instance : Decidable (AgesKeepOrder payload output) := by
  unfold AgesKeepOrder; infer_instance

/-! ### The ranking of the replay -/

/-- The head of the remaining records anchors their group. -/
theorem inGroup_anchor {anchor : PassingRecord} {rest : List PassingRecord}
    (hSorted : (anchor :: rest).Pairwise fun a b => a.scoreKey ≤ b.scoreKey)
    (item : PassingRecord) :
    InGroup (·.convictionScore) 2 (anchor :: rest) item ↔
      (anchor.convictionScore : ℤ) - item.convictionScore ≤ 2 := by
  have hRest : Numeric.largest (rest.map (·.convictionScore)) ≤ anchor.convictionScore := by
    refine (Numeric.largest_le_iff (Nat.zero_le _)).mpr fun score hScore => ?_
    obtain ⟨other, hOther, rfl⟩ := List.mem_map.mp hScore
    have hKey := Prod.Lex.monotone_fst _ _ (List.rel_of_pairwise_cons hSorted hOther)
    have hNeg : -(anchor.convictionScore : ℤ) ≤ -(other.convictionScore : ℤ) := hKey
    omega
  have hTop : Numeric.largest ((anchor :: rest).map (·.convictionScore)) =
      anchor.convictionScore := by
    rw [List.map_cons, Numeric.largest_cons, max_eq_left hRest]
  rw [InGroup, hTop]
  omega

theorem rankRemaining_eq (hSorted : records.Pairwise fun a b => a.scoreKey ≤ b.scoreKey)
    (hNodup : (records.map (·.ticker)).Nodup) :
    rankRemaining fuel records =
      (anchoredGroups (·.convictionScore) 2 fuel records).flatMap
        (sortedBy PassingRecord.groupKey) := by
  induction fuel generalizing records with
  | zero => rfl
  | succ fuel ih =>
    cases records with
    | nil => rfl
    | cons anchor rest =>
      have hGroup := inGroup_anchor hSorted
      have hOut : (anchor :: rest).filter (fun item => item.ticker ∉
          ((anchor :: rest).filter fun other =>
            (anchor.convictionScore : ℤ) - other.convictionScore ≤ 2).map (·.ticker)) =
          (anchor :: rest).filter
            (¬ InGroup (·.convictionScore) 2 (anchor :: rest) ·) := by
        refine List.filter_congr fun item hItem => ?_
        rw [decide_eq_decide, not_iff_not, hGroup]
        constructor
        · intro hMem
          obtain ⟨other, hOther, hTicker⟩ := List.mem_map.mp hMem
          obtain ⟨hOther, hNear⟩ := List.mem_filter.mp hOther
          rw [← List.inj_on_of_nodup_map hNodup hOther hItem hTicker]
          exact of_decide_eq_true hNear
        · intro hNear
          exact List.mem_map_of_mem (List.mem_filter.mpr ⟨hItem, decide_eq_true hNear⟩)
      rw [rankRemaining, anchoredGroups, List.flatMap_cons, hOut, ih]
      · simp only [hGroup]
      · exact hSorted.filter _
      · exact hNodup.sublist (List.filter_sublist.map _)

/-- Tickers tell the records of an answer apart, in either key. -/
theorem keyOn_of_nodup {κ : Type} {key : PassingRecord → κ}
    (hTicker : ∀ a b, key a = key b → a.ticker = b.ticker)
    (hNodup : (records.map (·.ticker)).Nodup) : KeyOn key records :=
  fun a ha b hb h => List.inj_on_of_nodup_map hNodup ha hb (hTicker a b h)

theorem ticker_of_groupKey (a b : PassingRecord) (h : a.groupKey = b.groupKey) :
    a.ticker = b.ticker := by
  have hKey := congrArg (fun key => (ofLex (ofLex (ofLex (ofLex key).2).2).2).2) h
  exact hKey

theorem expectedPassingOrder_eq (hNodup : ((passingRecords output).map (·.ticker)).Nodup) :
    expectedPassingOrder output =
      (anchoredRanking (·.convictionScore) 2 PassingRecord.groupKey
        (passingRecords output)).map (·.ticker) := by
  have hPerm := sortedBy_perm PassingRecord.scoreKey (passingRecords output)
  have hSortedNodup := (hPerm.map (·.ticker)).nodup_iff.mpr hNodup
  rw [expectedPassingOrder, rankRemaining_eq (pairwise_sortedBy _ _) hSortedNodup,
    ← anchoredRanking_perm (keyOn_of_nodup ticker_of_groupKey hNodup) hPerm, anchoredRanking]

/-! ### The tickers that pass -/

/-- The ranking fields that a passing record reports. -/
def reportedRecord : TerminalRecord → Option PassingRecord
  | .approved setup => some
    { ticker := setup.ticker
      convictionScore := setup.convictionScore
      catalystAgeHours := setup.catalystAgeHours.value
      catalystScoreRaw := setup.scoreBreakdown.catalystScoreRaw
      volumePoints := setup.scoreBreakdown.volumePoints
      technicalPoints := setup.scoreBreakdown.technicalPoints }
  | .qualified record => some
    { ticker := record.ticker
      convictionScore := record.convictionScore
      catalystAgeHours := record.catalystAgeHours.value
      catalystScoreRaw := record.scoreBreakdown.catalystScoreRaw
      volumePoints := record.scoreBreakdown.volumePoints
      technicalPoints := record.scoreBreakdown.technicalPoints }
  | .excluded _ => none

theorem passingRecords_eq (output : DaybreakOutput) :
    passingRecords output = (terminalRecords output).filterMap reportedRecord := by
  simp only [passingRecords, terminalRecords, List.filterMap_append, List.filterMap_map]
  have hNone : output.excludedTickers.filterMap (reportedRecord ∘ .excluded) = [] :=
    List.filterMap_eq_nil_iff.mpr fun _ _ => rfl
  rw [hNone, List.append_nil, ← List.filterMap_eq_map, ← List.filterMap_eq_map]
  rfl

theorem Accepted.recordOf_eq (h : Accepted payload output)
    (hRecord : record ∈ terminalRecords output) : recordOf output record.ticker = some record :=
  find?_of_nodup h.trading_nodup hRecord

/-- The replay of a record is what it reports, with the age of the payload. -/
theorem Accepted.replayedRecord_eq (h : Accepted payload output)
    (hRecord : record ∈ terminalRecords output)
    (hEntry : inputByTicker payload record.ticker = some entry) :
    replayedRecord payload output entry = (reportedRecord record).map (withInputAge payload) := by
  have hTicker := (mem_of_inputByTicker hEntry).2
  have hSound := h.sound hRecord hEntry
  have hReplayed := hSound.replayed
  have hGates := hSound.excluded_iff
  have hRaw := hReplayed.catalystScoreRaw
  have hVolume := hReplayed.volumePoints
  have hTechnical := hReplayed.technicalPoints
  have hConviction := hReplayed.convictionScore
  rw [replayedGates] at hGates
  simp only [replayedRecord, hTicker, h.recordOf_eq hRecord, Option.bind_eq_bind, Option.bind_some]
  obtain ⟨item, hItem, rfl⟩ | ⟨item, hItem, rfl⟩ | ⟨item, hItem, rfl⟩ :=
    mem_terminalRecords.mp hRecord
  · have hOut := h.not_excluded (List.mem_append_left _ (List.mem_map_of_mem hItem))
    have hPass := not_not.mp (mt hGates.mpr hOut)
    have hSum := hConviction _ rfl
    simp only [TerminalRecord.score, TerminalRecord.ticker] at *
    simp only [hPass, guard_true, reportedRecord, Option.map_some, withInputAge, hEntry, hRaw,
      hVolume, hTechnical, hSum, Option.bind_some, Option.pure_def]
  · have hOut := h.not_excluded (List.mem_append_right _ (List.mem_map_of_mem hItem))
    have hPass := not_not.mp (mt hGates.mpr hOut)
    have hSum := hConviction _ rfl
    simp only [TerminalRecord.score, TerminalRecord.ticker] at *
    simp only [hPass, guard_true, reportedRecord, Option.map_some, withInputAge, hEntry, hRaw,
      hVolume, hTechnical, hSum, Option.bind_some, Option.pure_def]
  · have hFail := hGates.mp (List.mem_map_of_mem hItem)
    simp only [hFail, guard_false, reportedRecord, Option.map_none, Option.bind_none,
      Option.failure_eq_none]

/-- The tickers that pass are those reported as passing. -/
theorem Accepted.passingInputs_perm (h : Accepted payload output)
    (hStatus : output.runStatus ∈ [.approved, .noSetups]) :
    (passingInputs payload output).Perm
      ((passingRecords output).map (withInputAge payload)) := by
  let replayedOf := fun ticker =>
    (inputByTicker payload ticker).bind (replayedRecord payload output)
  have hInputs : passingInputs payload output =
      (payload.tickers.map (·.ticker)).filterMap replayedOf := by
    rw [passingInputs, List.filterMap_map]
    refine List.filterMap_congr fun entry hMem => ?_
    simp only [replayedOf, Function.comp_apply, inputByTicker_of_mem hMem, Option.bind_some]
  have hReported : (passingRecords output).map (withInputAge payload) =
      (tradingTickers output).filterMap replayedOf := by
    rw [passingRecords_eq, List.map_filterMap, tradingTickers, List.filterMap_map]
    refine List.filterMap_congr fun record hRecord => ?_
    obtain ⟨entry, hEntry⟩ := h.exists_entry hRecord
    simp only [replayedOf, Function.comp_apply, hEntry, Option.bind_some,
      h.replayedRecord_eq hRecord hEntry]
  rw [hInputs, hReported]
  exact ((h.trading_perm hStatus).filterMap _).symm

/-! ### The selection -/

/-- The answer splits its order after the third ticker, and its ranks go on from there. -/
theorem Accepted.selection (h : Accepted payload output) :
    output.approvedSetups.map (·.ticker) = (observedOrder output).take 3 ∧
      (output.qualifiedNotSelected.map fun item => (item.ticker, item.finalRank)) =
        ((observedOrder output).drop 3).zipIdx 4 := by
  have hThree : output.approvedSetups.length ≤ 3 := output.valid.2.1
  have hRank := h.ranks
  rw [← h.order] at hRank
  have hNodup := h.trading_nodup
  rw [tradingTickers_eq] at hNodup
  have hObserved := hNodup.of_append_left
  obtain ⟨-, hQualified, hDisjoint⟩ := List.nodup_append'.mp hObserved
  -- a fourth ticker waits for three approved ones
  have hFull : output.qualifiedNotSelected ≠ [] → output.approvedSetups.length = 3 := by
    intro hSome
    obtain ⟨first, others, hCons⟩ := List.exists_cons_of_ne_nil hSome
    have hMem : (first.ticker, 1 + output.approvedSetups.length) ∈
        (observedOrder output).zipIdx 1 := by
      rw [List.mk_add_mem_zipIdx_iff_getElem?, observedOrder, hCons]
      simp
    by_contra hFew
    have hTop := (List.append_eq_nil_iff.mp (hRank _ _ hMem)).1
    rw [violationUnless_eq_nil] at hTop
    exact hDisjoint (hTop (by omega)) (hCons ▸ List.mem_cons_self)
  by_cases hNone : output.qualifiedNotSelected = []
  · rw [observedOrder, hNone, List.map_nil, List.append_nil, List.take_of_length_le (by simpa),
      List.drop_of_length_le (by simpa)]
    exact ⟨rfl, rfl⟩
  · have hLength : (output.approvedSetups.map (·.ticker)).length = 3 := by
      rw [List.length_map, hFull hNone]
    rw [observedOrder, List.take_left' hLength, List.drop_left' hLength]
    refine ⟨rfl, List.ext_getElem (by simp) fun i hi hi' => ?_⟩
    rw [List.length_map] at hi
    let item := output.qualifiedNotSelected[i]
    have hItem : item ∈ output.qualifiedNotSelected := List.getElem_mem hi
    have hMem : (item.ticker, 1 + (3 + i)) ∈ (observedOrder output).zipIdx 1 := by
      rw [List.mk_add_mem_zipIdx_iff_getElem?, observedOrder,
        List.getElem?_append_right (by omega), hLength, Nat.add_sub_cancel_left,
        List.getElem?_map, List.getElem?_eq_getElem hi]
      rfl
    have hLow := (List.append_eq_nil_iff.mp (hRank _ _ hMem)).2
    rw [violationUnless_eq_nil, find?_of_nodup hQualified hItem] at hLow
    have hFinal : item.finalRank = 1 + (3 + i) := Option.some.inj (hLow (by omega))
    rw [List.getElem_map, List.getElem_zipIdx, List.getElem_map]
    exact Prod.ext rfl (hFinal.trans (by omega))

theorem Accepted.ranked_iff (h : Accepted payload output) :
    RankedBySpecification payload output ↔ observedOrder output = specifiedOrder payload output := by
  obtain ⟨hApproved, hQualified⟩ := h.selection
  constructor
  · intro hRanked
    have hHead := hApproved.symm.trans hRanked.approved
    have hTail := congrArg (List.map Prod.fst) (hQualified.symm.trans hRanked.qualified)
    rw [List.zipIdx_map_fst, List.zipIdx_map_fst] at hTail
    rw [← List.take_append_drop 3 (observedOrder output), hHead, hTail, List.take_append_drop]
  · intro hSame
    exact ⟨hSame ▸ hApproved, hSame ▸ hQualified⟩

/-! ### Two ages -/

theorem tickers_passingRecords (output : DaybreakOutput) :
    (passingRecords output).map (·.ticker) = observedOrder output := by
  rw [passingRecords, observedOrder, List.map_append, List.map_map, List.map_map]
  rfl

@[simp] theorem withInputAge_ticker (payload : DaybreakInput) (record : PassingRecord) :
    (withInputAge payload record).ticker = record.ticker := by
  unfold withInputAge
  split <;> rfl

@[simp] theorem withInputAge_convictionScore (payload : DaybreakInput) (record : PassingRecord) :
    (withInputAge payload record).convictionScore = record.convictionScore := by
  unfold withInputAge
  split <;> rfl

/-- Records that their tickers tell apart are known by the list of their tickers. -/
theorem map_ticker_inj {xs ys : List PassingRecord}
    (hNodup : (records.map (·.ticker)).Nodup) (hxs : xs ⊆ records) (hys : ys ⊆ records) :
    xs.map (·.ticker) = ys.map (·.ticker) ↔ xs = ys := by
  refine ⟨fun hSame => ?_, congrArg _⟩
  have hLength : xs.length = ys.length := by simpa using congrArg List.length hSame
  refine List.ext_getElem hLength fun i hi hi' => ?_
  have hTicker : xs[i].ticker = ys[i].ticker := by
    simpa [hi, hi'] using congrArg (·[i]?) hSame
  exact List.inj_on_of_nodup_map hNodup (hxs (List.getElem_mem hi)) (hys (List.getElem_mem hi'))
    hTicker

/-- The specification ranks the reported records, by the ages of the payload. -/
theorem Accepted.specifiedOrder_eq (h : Accepted payload output)
    (hStatus : output.runStatus ∈ [.approved, .noSetups])
    (hNodup : ((passingRecords output).map (·.ticker)).Nodup) :
    specifiedOrder payload output =
      (anchoredRanking (·.convictionScore) 2 (PassingRecord.groupKey ∘ withInputAge payload)
        (passingRecords output)).map (·.ticker) := by
  have hTicker : (·.ticker) ∘ withInputAge payload = PassingRecord.ticker := by
    funext record
    exact withInputAge_ticker payload record
  have hScore : (·.convictionScore) ∘ withInputAge payload = PassingRecord.convictionScore := by
    funext record
    exact withInputAge_convictionScore payload record
  have hKey : KeyOn PassingRecord.groupKey ((passingRecords output).map (withInputAge payload)) := by
    refine keyOn_of_nodup ticker_of_groupKey ?_
    rwa [List.map_map, hTicker]
  rw [specifiedOrder, anchoredRanking_perm hKey (h.passingInputs_perm hStatus),
    anchoredRanking_map hScore, List.map_map, hTicker]

/-- A valid run that was scored is ranked as specified if and only if the ages it
reports keep the order that the payload's ages give each group. -/
theorem ranked_by_specification_iff (payload : DaybreakInput) (output : DaybreakOutput)
    (rawInput : Option RawObject) (metadata : ValidationMetadata) (requireEvidence : Bool)
    (h : Validated payload output rawInput metadata requireEvidence)
    (hStatus : output.runStatus ∈ [.approved, .noSetups]) :
    RankedBySpecification payload output ↔ AgesKeepOrder payload output := by
  have hAccepted := h.accepted
  have hNodup : ((passingRecords output).map (·.ticker)).Nodup := by
    have hTrading := hAccepted.trading_nodup
    rw [tradingTickers_eq] at hTrading
    rw [tickers_passingRecords]
    exact hTrading.of_append_left
  have hKey := keyOn_of_nodup ticker_of_groupKey hNodup
  have hInputKey : KeyOn (PassingRecord.groupKey ∘ withInputAge payload) (passingRecords output) :=
    keyOn_of_nodup (fun a b hab => by simpa using ticker_of_groupKey _ _ hab) hNodup
  rw [hAccepted.ranked_iff, hAccepted.order, expectedPassingOrder_eq hNodup,
    hAccepted.specifiedOrder_eq hStatus hNodup,
    map_ticker_inj hNodup (anchoredRanking_subset _ _) (anchoredRanking_subset _ _),
    anchoredRanking_eq_iff hKey hInputKey]
  exact Iff.rfl

/-! ### Ages reported in reverse -/

/-- Four tickers with equal scores, the oldest catalyst first. -/
def fourTickersPayload : DaybreakInput :=
  ⟨samplePayloadFields
    [sampleTicker "AAAA" ⟨4, "4.0"⟩ false, sampleTicker "BBBB" ⟨3, "3.0"⟩ false,
      sampleTicker "CCCC" ⟨2, "2.0"⟩ false, sampleTicker "DDDD" ⟨1, "1.0"⟩ false],
    by decide +kernel⟩

def reversedAgesOutput : DaybreakOutput :=
  ⟨{ sampleOutputFields
      [sampleApproval "AAAA" ⟨1, "1.0"⟩ sampleScore, sampleApproval "BBBB" ⟨2, "2.0"⟩ sampleScore,
        sampleApproval "CCCC" ⟨3, "3.0"⟩ sampleScore] [] with
      qualifiedNotSelected := [
        { ticker := "DDDD"
          finalRank := 4
          convictionScore := 90
          scoreBreakdown := sampleScore
          catalystSource := "Business Wire"
          sourceType := .primary
          sourceTimestamp := "2026-08-03T11:00:00Z"
          catalystAgeHours := ⟨4, "4.0"⟩
          corroborated := true
          riskFlags := [] }] },
    by decide +kernel⟩

theorem sampleRun_ranked : RankedBySpecification samplePayload sampleOutput :=
  (ranked_by_specification_iff samplePayload sampleOutput none {} false (by decide +kernel)
    (by decide)).mpr (by decide)

theorem reversedAges_valid : Validated fourTickersPayload reversedAgesOutput none {} false ∧
    reversedAgesOutput.runStatus = .approved ∧
    ¬ RankedBySpecification fourTickersPayload reversedAgesOutput := by
  refine ⟨by decide +kernel, rfl, fun h => ?_⟩
  have hApproved := h.approved
  revert hApproved
  decide +kernel

end Daybreak.Validation
