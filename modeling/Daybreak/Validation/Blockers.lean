import Daybreak.Validation.Partition

/-! The blockers of a valid run. They are pinned down for a run without setups only:
an approved run may carry any, and a blocked or a stale one may repeat a code or
name one that does not apply. -/

namespace Daybreak.Validation

open Contracts

variable {payload : DaybreakInput} {output : DaybreakOutput}

/-! ### Two codes -/

section Codes

variable {codes : List BlockerCode}

/-- The codes are distinct and only the one that is there exactly when there is one. -/
theorem single_iff {present absent : BlockerCode} (hTwo : ∀ code, code = present ∨ code = absent)
    (hNe : present ≠ absent) (hPresent : present ∈ codes) :
    codes.Nodup ∧ absent ∉ codes ↔ codes.length = 1 := by
  constructor
  · rintro ⟨hNodup, hAbsent⟩
    have hSubset : codes ⊆ [present] := by
      intro code hCode
      rcases hTwo code with rfl | rfl
      · exact List.mem_singleton_self _
      · exact absurd hCode hAbsent
    have hLength := (List.subperm_of_subset hNodup hSubset).length_le
    have hPositive := List.length_pos_of_mem hPresent
    simp only [List.length_singleton] at hLength
    omega
  · intro hLength
    obtain ⟨code, rfl⟩ := List.length_eq_one_iff.mp hLength
    obtain rfl := List.mem_singleton.mp hPresent
    simp [hNe.symm]

/-- With both codes there, they are distinct exactly when there are two. -/
theorem pair_iff {first second : BlockerCode} (hTwo : ∀ code, code = first ∨ code = second)
    (hNe : first ≠ second) (hFirst : first ∈ codes) (hSecond : second ∈ codes) :
    codes.Nodup ↔ codes.length = 2 := by
  have hPair : [first, second].Nodup := by simp [hNe]
  have hBelow : [first, second].Subperm codes :=
    List.subperm_of_subset hPair (by simp [hFirst, hSecond])
  constructor
  · intro hNodup
    have hSubset : codes ⊆ [first, second] := fun code _ => by simpa using hTwo code
    exact le_antisymm (List.subperm_of_subset hNodup hSubset).length_le hBelow.length_le
  · intro hLength
    exact (hBelow.perm_of_length_le hLength.le).nodup_iff.mp hPair

end Codes

/-! ### Blockers of a run -/

/-- The blockers are the applicable ones, once each. -/
structure ExactBlockers (payload : DaybreakInput) (output : DaybreakOutput) : Prop where
  market : .marketNotNormal ∈ output.blockerCodes ↔ payload.marketStatus ≠ .normal
  stale : .payloadStale ∈ output.blockerCodes ↔ 180 < payload.payloadAgeSeconds
  nodup : output.blockerCodes.Nodup
  scored : output.runStatus ∈ [.approved, .noSetups] → output.runBlockers = []

/-- No blocker of an approved run, one of a stale one, and of a blocked run one, or
one of each kind if its payload is stale as well. -/
def BlockerCounts (payload : DaybreakInput) (output : DaybreakOutput) : Prop :=
  match output.runStatus with
  | .approved => output.runBlockers = []
  | .stalePayload => output.runBlockers.length = 1
  | .blockedMarket =>
    if 180 < payload.payloadAgeSeconds then
      output.runBlockers.length = 2 ∧ .payloadStale ∈ output.blockerCodes
    else output.runBlockers.length = 1
  | _ => True

theorem length_blockerCodes : output.blockerCodes.length = output.runBlockers.length :=
  List.length_map _

theorem blockerCode_cases (code : BlockerCode) : code = .marketNotNormal ∨ code = .payloadStale := by
  cases code <;> simp

/-- Without a reason to block, the blockers are exact when there are none. -/
theorem exactBlockers_open (hMarket : payload.marketStatus = .normal)
    (hFresh : ¬ 180 < payload.payloadAgeSeconds) :
    ExactBlockers payload output ↔ output.runBlockers = [] := by
  constructor
  · intro h
    have hNone : output.blockerCodes = [] := by
      refine List.eq_nil_iff_forall_not_mem.mpr fun code hCode => ?_
      rcases blockerCode_cases code with rfl | rfl
      · exact h.market.mp hCode hMarket
      · exact hFresh (h.stale.mp hCode)
    exact List.map_eq_nil_iff.mp hNone
  · intro h
    have hNone : output.blockerCodes = [] := List.map_eq_nil_iff.mpr h
    exact ⟨by simp [hNone, hMarket], by simp [hNone, hFresh], by simp [hNone], fun _ => h⟩

theorem exactBlockers_stale (hMarket : payload.marketStatus = .normal)
    (hOld : 180 < payload.payloadAgeSeconds) (hStatus : output.runStatus = .stalePayload) :
    ExactBlockers payload output ↔ output.runBlockers.length = 1 := by
  obtain ⟨hNot, hStale⟩ := output.valid.2.2.2.2.2.2.2.2.2 hStatus
  rw [← length_blockerCodes, ← single_iff (fun code => (blockerCode_cases code).symm) (by decide)
    hStale]
  constructor
  · exact fun h => ⟨h.nodup, hNot⟩
  · rintro ⟨hNodup, -⟩
    exact ⟨by simp [hNot, hMarket], by simp [hStale, hOld], hNodup, by simp [hStatus]⟩

theorem exactBlockers_blocked (hMarket : payload.marketStatus ≠ .normal)
    (hStatus : output.runStatus = .blockedMarket) :
    ExactBlockers payload output ↔ output.blockerCodes.Nodup ∧
      (.payloadStale ∈ output.blockerCodes ↔ 180 < payload.payloadAgeSeconds) := by
  have hBlocked := output.valid.2.2.2.2.2.2.2.2.1 hStatus
  constructor
  · exact fun h => ⟨h.nodup, h.stale⟩
  · rintro ⟨hNodup, hStale⟩
    exact ⟨by simp [hBlocked, hMarket], hStale, hNodup, by simp [hStatus]⟩

/-- The blockers of a valid run are exact if and only if they are as many as apply. -/
theorem exact_blockers_iff (payload : DaybreakInput) (output : DaybreakOutput)
    (rawInput : Option RawObject) (metadata : ValidationMetadata) (requireEvidence : Bool)
    (h : Validated payload output rawInput metadata requireEvidence) :
    ExactBlockers payload output ↔ BlockerCounts payload output := by
  have hStatus := h.accepted.status
  unfold expectedStatus at hStatus
  split_ifs at hStatus with hMarket hOld hApproved
  · rw [exactBlockers_blocked hMarket hStatus]
    have hBlocked := output.valid.2.2.2.2.2.2.2.2.1 hStatus
    simp only [BlockerCounts, hStatus, ← length_blockerCodes]
    split_ifs with hOld
    · simp only [hOld, iff_true]
      refine and_congr_left fun hStale => ?_
      exact pair_iff blockerCode_cases (by decide) hBlocked hStale
    · simp only [hOld, iff_false]
      exact single_iff blockerCode_cases (by decide) hBlocked
  · simp only [BlockerCounts, hStatus]
    exact exactBlockers_stale (not_not.mp hMarket) hOld hStatus
  · simp only [BlockerCounts, hStatus]
    exact exactBlockers_open (not_not.mp hMarket) hOld
  · simp only [BlockerCounts, hStatus, iff_true]
    refine (exactBlockers_open (not_not.mp hMarket) hOld).mpr ?_
    exact (output.valid.2.2.2.2.2.2.2.1 hStatus).2.2

/-! ### An approved run with a blocker -/

def staleBlocker : RunBlocker where
  blockerCode := .payloadStale
  field := "payload_age_seconds"
  observedValue := "60"
  requiredCondition := "payload_age_seconds must be less than or equal to 180"
  reason := "The payload is stale."

/-- The sample answer with a blocker that does not apply. -/
def blockedApproval : DaybreakOutput :=
  ⟨{ sampleOutput.toOutputFields with runBlockers := [staleBlocker] }, by decide +kernel⟩

theorem sampleRun_exact_blockers : ExactBlockers samplePayload sampleOutput :=
  (exact_blockers_iff samplePayload sampleOutput none {} false (by decide +kernel)).mpr rfl

theorem blockedApproval_valid : Validated samplePayload blockedApproval none {} false ∧
    blockedApproval.runStatus = .approved ∧ ¬ ExactBlockers samplePayload blockedApproval := by
  refine ⟨by decide +kernel, rfl, fun h => ?_⟩
  have hNone : [staleBlocker] = [] := h.scored (by decide)
  cases hNone

end Daybreak.Validation
