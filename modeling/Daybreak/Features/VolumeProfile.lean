import Daybreak.Features.Conservation
import Daybreak.Features.Windows
import Daybreak.Numeric.Histogram
import Daybreak.Numeric.Quotient

/-! The profile of the premarket volume. The window compares exact times and the
buckets whole minutes, so every trade of the window has a bucket of its own among those
that are counted, the clamp of the loop never moves one, and the buckets hold the volume.
What is compared with the limits of the configuration are the shares as the decimal
context rounds them. -/

namespace Daybreak.Features

open Contracts Daybreak.Order Effect Fallible Numeric DecimalArithmetic

variable {zone : TimeZone} {snapshot : Timestamp} {trades : List (MaterializedTrade Decimal)}
  {trade : MaterializedTrade Decimal} {start : ClockTime} {stop : ℕ}

/-! ### The buckets of the window -/

/-- The bucket of a time of day, counted from the minute of the start. -/
def bucketOf (start : ClockTime) (time : ℕ) : ℕ :=
  (time / microsPerMinute - start.micros / microsPerMinute) / FeatureEngineConfig.volumeBucketMinutes

/-- The index that a round of the loop computes. -/
def loopIndex (startMinutes bucketCount : ℤ) (time : ℕ) : ℤ :=
  min (((time : ℤ) / microsPerMinute - startMinutes) / FeatureEngineConfig.volumeBucketMinutes)
    (bucketCount - 1)

theorem bucketOf_mono (start : ClockTime) {time : ℕ} (h : time ≤ stop) :
    bucketOf start time ≤ bucketOf start stop := by
  unfold bucketOf
  gcongr

/-- The count of buckets that the source computes from the snapshot. -/
theorem bucketCount_eq (h : start.micros ≤ stop) :
    ((stop : ℤ) / microsPerMinute - (start.micros : ℤ) / microsPerMinute) /
      FeatureEngineConfig.volumeBucketMinutes + 1 = ((bucketOf start stop + 1 : ℕ) : ℤ) := by
  simp only [bucketOf, microsPerMinute, FeatureEngineConfig.volumeBucketMinutes]
  omega

/-- Within the window the index is that of the time's bucket: the clamp is not reached. -/
theorem loopIndex_eq {time : ℕ} (hLow : start.micros ≤ time) (hHigh : time ≤ stop) :
    loopIndex ((start.micros : ℤ) / microsPerMinute) (bucketOf start stop + 1 : ℕ) time =
      bucketOf start time := by
  have hBucket := bucketOf_mono start hHigh
  have hQuotient := bucketCount_eq hLow
  unfold loopIndex
  omega

/-- The bucket of a trade, at the time that the exchange's clock showed. -/
def tradeBucket (zone : TimeZone) (start : ClockTime) (trade : MaterializedTrade Decimal) : ℕ :=
  match zone trade.eventTimestamp with
  | .ok wall => bucketOf start wall.time
  | .error _ => 0

theorem tradeBucket_eq {wall : LocalTime} (h : zone trade.eventTimestamp = .ok wall) :
    tradeBucket zone start trade = bucketOf start wall.time := by rw [tradeBucket, h]

/-- The trade was made between the start and a time of the same day. -/
def Timed (zone : TimeZone) (start : ClockTime) (stop : ℕ) (trade : MaterializedTrade Decimal) :
    Prop :=
  ∃ wall, zone trade.eventTimestamp = .ok wall ∧ start.micros ≤ wall.time ∧ wall.time ≤ stop

theorem Timed.bucket_lt (h : Timed zone start stop trade) :
    tradeBucket zone start trade < bucketOf start stop + 1 := by
  obtain ⟨wall, hWall, -, hHigh⟩ := h
  rw [tradeBucket_eq hWall, Nat.lt_succ_iff]
  exact bucketOf_mono start hHigh

/-- A round of the loop adds the size of a trade to its bucket. -/
theorem addToBucket_eq (h : Timed zone start stop trade) (buckets : List ℕ) :
    addToBucket zone ((start.micros : ℤ) / microsPerMinute) (bucketOf start stop + 1 : ℕ)
        buckets trade =
      .ok (buckets.modify (tradeBucket zone start trade) (· + trade.size)) := by
  obtain ⟨wall, hWall, hLow, hHigh⟩ := h
  have hIndex := loopIndex_eq hLow hHigh
  unfold loopIndex at hIndex
  simp only [addToBucket, raising_eq_ok.mpr hWall, ok_bind, hIndex, tradeBucket_eq hWall,
    Int.natCast_nonneg, if_true, Int.toNat_natCast]
  rfl

/-- The loop collects the sizes by their buckets. -/
theorem foldlM_addToBucket (h : ∀ trade ∈ trades, Timed zone start stop trade)
    (buckets : List ℕ) :
    trades.foldlM (addToBucket zone ((start.micros : ℤ) / microsPerMinute)
        (bucketOf start stop + 1 : ℕ)) buckets =
      .ok (collect (tradeBucket zone start) (fun trade => (trade.size : ℕ)) buckets trades) := by
  induction trades generalizing buckets with
  | nil => rfl
  | cons trade trades ih =>
    obtain ⟨hFirst, hRest⟩ := List.forall_mem_cons.mp h
    rw [List.foldlM_cons, addToBucket_eq hFirst, ok_bind, ih hRest, collect_cons]

/-! ### What is counted -/

/-- What the loop leaves of the trades: the index of every trade is that of its own
bucket, a bucket holds the sizes of its trades, and together they hold the volume. -/
structure Counted (zone : TimeZone) (start : ClockTime)
    (trades : List (MaterializedTrade Decimal)) (buckets : List ℕ) : Prop where
  loop : trades.foldlM (addToBucket zone ((start.micros : ℤ) / microsPerMinute) buckets.length)
    (List.replicate buckets.length 0) = .ok buckets
  placed : ∀ trade ∈ trades, ∃ wall, zone trade.eventTimestamp = .ok wall ∧
    loopIndex ((start.micros : ℤ) / microsPerMinute) buckets.length wall.time =
      tradeBucket zone start trade ∧
    tradeBucket zone start trade < buckets.length
  sizes : ∀ i < buckets.length, buckets[i]? =
    some ((trades.filter (tradeBucket zone start · = i)).map fun trade => (trade.size : ℕ)).sum
  volume : buckets.sum = premarketVolume trades

theorem exists_counted (h : ∀ trade ∈ trades, Timed zone start stop trade) :
    ∃ buckets, buckets.length = bucketOf start stop + 1 ∧ Counted zone start trades buckets := by
  obtain ⟨buckets, hBuckets⟩ : ∃ buckets, collect (tradeBucket zone start)
      (fun trade => (trade.size : ℕ)) (List.replicate (bucketOf start stop + 1) 0) trades =
        buckets := ⟨_, rfl⟩
  have hLength : buckets.length = bucketOf start stop + 1 := by
    rw [← hBuckets, length_collect, List.length_replicate]
  refine ⟨buckets, hLength, ?_, ?_, ?_, ?_⟩
  · rw [hLength, foldlM_addToBucket h, hBuckets]
  · intro trade hTrade
    obtain ⟨wall, hWall, hLow, hHigh⟩ := h trade hTrade
    rw [hLength]
    refine ⟨wall, hWall, ?_, (h trade hTrade).bucket_lt⟩
    rw [loopIndex_eq hLow hHigh, tradeBucket_eq hWall]
  · intro i hi
    rw [hLength] at hi
    rw [← hBuckets, getElem?_collect (by simpa using hi), List.getElem_replicate, zero_add]
    rfl
  · rw [← hBuckets, sum_collect fun trade hTrade => by
      rw [List.length_replicate]; exact (h trade hTrade).bucket_lt]
    rw [List.sum_replicate, nsmul_zero, zero_add]
    rfl

/-! ### The profile -/

/-- The shares that the source compares, from the buckets that the loop left. -/
structure Shares (config : FeatureEngineConfig Decimal) (volume : ℕ) (buckets : List ℕ)
    (profile : VolumeProfile) : Prop where
  volume_ne : volume ≠ 0
  buckets_ne : buckets.length ≠ 0
  spiky_iff : profile = .spiky ↔
    value config.spikyMaxBucketShare < Decimal.round (((largest buckets : ℕ) : ℚ) / volume) ∨
    Decimal.round ((buckets.countP (0 < ·) : ℚ) / buckets.length) <
      value config.spikyMinNonemptyCoverage

theorem arith_div_ofInt (a : ℤ) {n : ℤ} (h : n ≠ 0) :
    ∃ r : Decimal, arith (DecimalArithmetic.div (ofInt a) (ofInt n)) = .ok r ∧
      value r = Decimal.round ((a : ℚ) / n) := by
  obtain ⟨r, hr, hValue⟩ := Decimal.exists_div_ofInt (.ofInt a) h
  have hDiv : DecimalArithmetic.div (ofInt a) (ofInt n) = .ok r := hr
  rw [Decimal.toRat_ofInt] at hValue
  exact ⟨r, by rw [hDiv]; rfl, hValue⟩

theorem timed_of_mem {events : List (TradeLedgerEvent Decimal)}
    {config : FeatureEngineConfig Decimal} {now : LocalTime}
    (hSelected : currentSessionTrades zone events snapshot config = .ok trades)
    (hNow : zone snapshot = .ok now)
    (hStart : timeFromIsoformat config.premarketStartEt = some start) (hTrade : trade ∈ trades) :
    Timed zone start now.time trade := by
  obtain ⟨wall, now', start', hWall, hNow', hStart', -, -, hLow, hHigh⟩ :=
    inside_iff.mp (inside_of_mem hSelected hTrade)
  obtain rfl := Except.ok.inj (hNow.symm.trans hNow')
  obtain rfl := Option.some.inj (hStart.symm.trans hStart')
  exact ⟨wall, hWall, hLow, hHigh⟩

/-- Every trade of the window is counted once, and the shares decide the profile. -/
theorem volumeProfile_counts {events : List (TradeLedgerEvent Decimal)}
    {config : FeatureEngineConfig Decimal}
    (hSelected : currentSessionTrades zone events snapshot config = .ok trades)
    (hTrades : trades ≠ []) :
    ∃ now start buckets profile, zone snapshot = .ok now ∧
      timeFromIsoformat config.premarketStartEt = some start ∧
      buckets.length = bucketOf start now.time + 1 ∧ Counted zone start trades buckets ∧
      volumeProfile zone trades snapshot config = .ok profile ∧
      Shares config (premarketVolume trades) buckets profile := by
  obtain ⟨first, hFirst⟩ := List.exists_mem_of_ne_nil trades hTrades
  obtain ⟨-, now, start, -, hNow, hStart, -⟩ := inside_iff.mp (inside_of_mem hSelected hFirst)
  have hTimed : ∀ trade ∈ trades, Timed zone start now.time trade := fun trade hTrade =>
    timed_of_mem hSelected hNow hStart hTrade
  obtain ⟨buckets, hLength, hCounted⟩ := exists_counted hTimed
  have hVolume := (premarketVolume_pos hTrades).ne'
  have hPositive : buckets.length ≠ 0 := by omega
  obtain ⟨share, hShare, hShareValue⟩ :=
    arith_div_ofInt (largest buckets : ℕ) (Int.natCast_ne_zero.mpr hVolume)
  obtain ⟨coverage, hCoverage, hCoverageValue⟩ :=
    arith_div_ofInt (buckets.countP (0 < ·) : ℕ) (Int.natCast_ne_zero.mpr hPositive)
  have hCount : ((now.time : ℤ) / microsPerMinute - (start.micros : ℤ) / microsPerMinute) /
      FeatureEngineConfig.volumeBucketMinutes + 1 = (buckets.length : ℕ) := by
    obtain ⟨wall, -, hLow, hHigh⟩ := hTimed first hFirst
    rw [bucketCount_eq (hLow.trans hHigh), hLength]
  have hProfile : volumeProfile zone trades snapshot config =
      .ok (if value config.spikyMaxBucketShare < value share ∨
        value coverage < value config.spikyMinNonemptyCoverage then .spiky else .clean) := by
    unfold volumeProfile
    rw [if_neg hVolume, raising_eq_ok.mpr hNow, ok_bind, premarketStart_eq_ok.mpr hStart, ok_bind]
    simp only [hCount, Int.toNat_natCast]
    rw [if_neg (by omega), hCounted.loop, ok_bind, hShare, ok_bind, hCoverage, ok_bind]
    rfl
  refine ⟨now, start, buckets, _, hNow, hStart, hLength, hCounted, hProfile, hVolume, hPositive, ?_⟩
  rw [hShareValue, hCoverageValue]
  simp only [Int.cast_natCast]
  split_ifs with h
  · exact iff_of_true rfl h
  · exact iff_of_false nofun h

/-! ### Three equal shares -/

/-- A share on `minute` past nine in New York. -/
def quietEvent (seq : ℕ) (id : String) (minute : ℤ) (h : ValidTradeId id) :
    TradeLedgerEvent Decimal where
  ingestSeq := seq.succPNat
  tradeId := id
  action := .new
  eventTimestamp := sampleDay + hours 13 + minute * 60000000
  price := some (dollars 20)
  size := some (Nat.succPNat 0)
  valid := ⟨⟨h, fun _ h => absurd h (Option.not_mem_none _)⟩, rfl, rfl, rfl⟩

theorem validTradeId_second : ValidTradeId "t2" := by decide

/-- At the start, in the second bucket and in the last one. -/
def quietEvents : List (TradeLedgerEvent Decimal) :=
  [quietEvent 0 "t1" 10 (by decide), quietEvent 1 "t2" 15 validTradeId_second,
    quietEvent 2 "t3" 20 (by decide)]

/-- A limit of a third, to the digits of the context. -/
def thirdConfig : FeatureEngineConfig Decimal :=
  { defaultConfig with
    premarketStartEt := "09:10:00"
    spikyMaxBucketShare := ⟨false, 3333333333333333333333333333, -28⟩
    share_unit := by decide +kernel }

def quietSnapshot : Timestamp := sampleDay + hours 13 + 23 * 60000000

/-- The trades of the window, what the loop leaves of them, and their profile. -/
def quietProfile : FeatureResult (List (MaterializedTrade Decimal) × List ℕ × VolumeProfile) := do
  let trades ← currentSessionTrades sampleZone quietEvents quietSnapshot thirdConfig
  let buckets ← trades.foldlM (addToBucket sampleZone 550 3) [0, 0, 0]
  let profile ← volumeProfile sampleZone trades quietSnapshot thirdConfig
  return (trades, buckets, profile)

theorem quietProfile_summary : quietProfile.toOption.map
    (fun p => (premarketVolume p.1, p.2)) = some (3, [1, 1, 1], .clean) := by decide +kernel

theorem exists_quietTrades : ∃ trades,
    currentSessionTrades sampleZone quietEvents quietSnapshot thirdConfig = .ok trades ∧
    trades ≠ [] ∧ premarketVolume trades = 3 ∧
    trades.foldlM (addToBucket sampleZone 550 3) [0, 0, 0] = .ok [1, 1, 1] ∧
    volumeProfile sampleZone trades quietSnapshot thirdConfig = .ok .clean := by
  obtain ⟨⟨trades, buckets, profile⟩, hProfile, hSummary⟩ :=
    Option.map_eq_some_iff.mp quietProfile_summary
  have hOk : quietProfile = .ok (trades, buckets, profile) := by
    cases h : quietProfile with
    | error e => rw [h] at hProfile; cases hProfile
    | ok p => rw [h] at hProfile; exact congrArg Except.ok (Option.some.inj hProfile)
  obtain ⟨trades', hTrades, hOk⟩ := bind_eq_ok.mp hOk
  obtain ⟨buckets', hBuckets, hOk⟩ := bind_eq_ok.mp hOk
  obtain ⟨profile', hProfile', hOk⟩ := bind_eq_ok.mp hOk
  cases hOk
  simp only [Prod.mk.injEq] at hSummary
  obtain ⟨hVolume, rfl, rfl⟩ := hSummary
  refine ⟨trades, hTrades, ?_, hVolume, hBuckets, hProfile'⟩
  rintro rfl
  cases hVolume

theorem quietTrades_volumeProfile_counts : ∃ trades,
    currentSessionTrades sampleZone quietEvents quietSnapshot thirdConfig = .ok trades ∧
    ∃ now start buckets profile, sampleZone quietSnapshot = .ok now ∧
      timeFromIsoformat thirdConfig.premarketStartEt = some start ∧
      buckets.length = bucketOf start now.time + 1 ∧
      Counted sampleZone start trades buckets ∧
      volumeProfile sampleZone trades quietSnapshot thirdConfig = .ok profile ∧
      Shares thirdConfig (premarketVolume trades) buckets profile := by
  obtain ⟨trades, hSelected, hTrades, -⟩ := exists_quietTrades
  exact ⟨trades, hSelected, volumeProfile_counts hSelected hTrades⟩

/-- A bucket with a third of the volume exceeds the limit, and the profile is clean. -/
theorem quietTrades_not_spiky : ∃ trades buckets,
    currentSessionTrades sampleZone quietEvents quietSnapshot thirdConfig = .ok trades ∧
    trades ≠ [] ∧ trades.foldlM (addToBucket sampleZone 550 3) [0, 0, 0] = .ok buckets ∧
    ¬ (volumeProfile sampleZone trades quietSnapshot thirdConfig = .ok .spiky ↔
      value thirdConfig.spikyMaxBucketShare <
        ((largest buckets : ℕ) : ℚ) / premarketVolume trades ∨
      (buckets.countP (0 < ·) : ℚ) / buckets.length <
        value thirdConfig.spikyMinNonemptyCoverage) := by
  obtain ⟨trades, hSelected, hTrades, hVolume, hLoop, hProfile⟩ := exists_quietTrades
  refine ⟨trades, [1, 1, 1], hSelected, hTrades, hLoop, fun h => ?_⟩
  have hExceeds : value thirdConfig.spikyMaxBucketShare <
      ((largest [1, 1, 1] : ℕ) : ℚ) / premarketVolume trades := by
    rw [hVolume]
    decide +kernel
  have hSpiky := h.mpr (Or.inl hExceeds)
  rw [hProfile] at hSpiky
  cases hSpiky

end Daybreak.Features
