import Daybreak.Validation.Ranking

/-! The order of any records that pass: the one ranking by groups of fixed anchors that the
specification describes, whatever the order in which the records are given. -/

namespace Daybreak.Validation

open Contracts Daybreak.Order

variable {records : List PassingRecord} {groups : List (List PassingRecord)} {fuel : ℕ}

/-- `expected_passing_order`, from the passing records on. -/
def passingOrder (records : List PassingRecord) : List String :=
  let remaining := sortedBy PassingRecord.scoreKey records
  (rankRemaining remaining.length remaining).map (·.ticker)

theorem expectedPassingOrder_eq_passingOrder (output : DaybreakOutput) :
    expectedPassingOrder output = passingOrder (passingRecords output) := rfl

/-! ### The specification -/

/-- The order within a group: the lower age first, then the higher raw catalyst score, the
higher volume points, the higher technical points and the ticker. -/
def Precedes (a b : PassingRecord) : Prop :=
  a.catalystAgeHours < b.catalystAgeHours ∨ a.catalystAgeHours = b.catalystAgeHours ∧
    (b.catalystScoreRaw < a.catalystScoreRaw ∨ b.catalystScoreRaw = a.catalystScoreRaw ∧
      (b.volumePoints < a.volumePoints ∨ b.volumePoints = a.volumePoints ∧
        (b.technicalPoints < a.technicalPoints ∨ b.technicalPoints = a.technicalPoints ∧
          a.ticker < b.ticker)))

/-- The groups of 9.3, within two points of their anchors. -/
abbrev Specified : List PassingRecord → List (List PassingRecord) → Prop :=
  RankedBy (·.convictionScore) 2 Precedes

theorem precedes_iff (a b : PassingRecord) : Precedes a b ↔ a.groupKey < b.groupKey := by
  have hCast (m n : ℕ) : -(m : ℤ) < -(n : ℤ) ↔ n < m := by omega
  have hSame (m n : ℕ) : -(m : ℤ) = -(n : ℤ) ↔ n = m := by omega
  simp only [Precedes, PassingRecord.groupKey, Prod.Lex.toLex_lt_toLex, hCast, hSame]

/-- The groups of some records, as the loop forms them. -/
def groupsOf (records : List PassingRecord) : List (List PassingRecord) :=
  (anchoredGroups (·.convictionScore) 2 records.length records).map
    (sortedBy PassingRecord.groupKey)

theorem specified_groups (hNodup : (records.map (·.ticker)).Nodup) (hFuel : records.length ≤ fuel) :
    Specified records ((anchoredGroups (·.convictionScore) 2 fuel records).map
      (sortedBy PassingRecord.groupKey)) := by
  have hBefore : Precedes = fun a b => a.groupKey < b.groupKey := by
    funext a b
    exact propext (precedes_iff a b)
  rw [Specified, hBefore]
  exact rankedBy_anchoredGroups hNodup.of_map (keyOn_of_nodup ticker_of_groupKey hNodup) hFuel

theorem Specified.unique {others : List PassingRecord} {groups' : List (List PassingRecord)}
    (h : Specified records groups) (h' : Specified others groups') (hPerm : records.Perm others) :
    groups = groups' := by
  refine RankedBy.unique h h' hPerm fun a _ b _ hab hba => ?_
  rw [precedes_iff] at hab hba
  exact absurd hab hba.asymm

/-- Any number of rounds that suffices ends the loop with the groups. -/
theorem rankRemaining_groups (hNodup : (records.map (·.ticker)).Nodup)
    (hFuel : records.length ≤ fuel) :
    rankRemaining fuel (sortedBy PassingRecord.scoreKey records) = (groupsOf records).flatten := by
  have hPerm := sortedBy_perm PassingRecord.scoreKey records
  have hSorted : ((sortedBy PassingRecord.scoreKey records).map (·.ticker)).Nodup :=
    (hPerm.map _).nodup_iff.mpr hNodup
  rw [rankRemaining_eq (pairwise_sortedBy _ _) hSorted, List.flatMap_def]
  have hLoop := specified_groups hSorted (hPerm.length_eq.trans_le hFuel)
  rw [hLoop.unique (specified_groups hNodup le_rfl) hPerm, groupsOf]

/-! ### The ranking -/

/-- The one ranking that the specification describes, of groups with ever lower scores. -/
structure RankedAsSpecified (records : List PassingRecord) (groups : List (List PassingRecord)) :
    Prop where
  specified : Specified records groups
  unique : ∀ groups', Specified records groups' → groups' = groups
  descending : groups.Pairwise fun group later =>
    ∀ a ∈ group, ∀ b ∈ later, b.convictionScore < a.convictionScore

/-- The loop ends, with the tickers of the one ranking of the records in its order, however
the records were ordered before. -/
theorem passingOrder_ranked (records : List PassingRecord)
    (hNodup : (records.map (·.ticker)).Nodup) :
    (∀ fuel, records.length ≤ fuel →
      rankRemaining fuel (sortedBy PassingRecord.scoreKey records) =
        rankRemaining records.length (sortedBy PassingRecord.scoreKey records)) ∧
    (passingOrder records).Perm (records.map (·.ticker)) ∧
    (∀ others, others.Perm records → passingOrder others = passingOrder records) ∧
    ∃ groups, RankedAsSpecified records groups ∧
      passingOrder records = groups.flatten.map (·.ticker) := by
  have hSpecified : Specified records (groupsOf records) := specified_groups hNodup le_rfl
  have hOrder (others : List PassingRecord) (hPerm : others.Perm records) :
      passingOrder others = (groupsOf records).flatten.map (·.ticker) := by
    have hOthers : (others.map (·.ticker)).Nodup := (hPerm.map _).nodup_iff.mpr hNodup
    have hGroups : groupsOf others = groupsOf records :=
      (specified_groups hOthers le_rfl).unique hSpecified hPerm
    rw [passingOrder, rankRemaining_groups hOthers (length_sortedBy _ _).ge, hGroups]
  refine ⟨fun fuel hFuel => ?_, ?_, fun others hPerm => ?_, groupsOf records, ?_, ?_⟩
  · rw [rankRemaining_groups hNodup hFuel, rankRemaining_groups hNodup le_rfl]
  · rw [hOrder records (List.Perm.refl _)]
    exact hSpecified.perm.map _
  · rw [hOrder others hPerm, hOrder records (List.Perm.refl _)]
  · exact ⟨hSpecified, fun groups' h => h.unique hSpecified (List.Perm.refl _),
      hSpecified.descending⟩
  · exact hOrder records (List.Perm.refl _)

/-- The second of the group of 90 comes first for its age; 87 is a point too far from it. -/
def freshnessRecords : List PassingRecord :=
  [⟨"AAAA", 90, 4, 10, 35, 22⟩, ⟨"BBBB", 87, 1, 10, 35, 22⟩, ⟨"CCCC", 88, 1, 10, 35, 22⟩]

theorem freshnessRecords_ranked :
    passingOrder freshnessRecords = ["CCCC", "AAAA", "BBBB"] ∧
      (passingOrder freshnessRecords).Perm (freshnessRecords.map (·.ticker)) :=
  ⟨by decide, (passingOrder_ranked freshnessRecords (by decide)).2.1⟩

end Daybreak.Validation
