import Daybreak.Features.Faults
import Daybreak.Numeric.Quantized

/-! The exceptions of what looks at the time of day: the conversion of a time may
raise, the start time of the configuration may be no time or one with an offset,
and none of these errors is caught. -/

namespace Daybreak.Features

open Contracts Daybreak.Order Effect Fallible Numeric DecimalArithmetic

variable {D : Type} [DecimalArithmetic D] {α : Type} {zone : TimeZone} {snapshot : Timestamp}
  {config : FeatureEngineConfig D} {trade : MaterializedTrade D} {trades : List (MaterializedTrade D)}

/-! ### The premarket window -/

/-- The times of a trade and of the snapshot can be converted and compared. -/
def Windowed (zone : TimeZone) (snapshot : Timestamp) (config : FeatureEngineConfig D)
    (trade : MaterializedTrade D) : Prop :=
  ∃ wall now start, zone trade.eventTimestamp = .ok wall ∧ zone snapshot = .ok now ∧
    timeFromIsoformat config.premarketStartEt = some start ∧
    (wall.date = now.date → start.aware = false)

theorem between_eq_ok {start : ClockTime} {time stop : ℕ} {inside : Bool} :
    between start time stop = .ok inside ↔
      start.aware = false ∧ inside = (decide (start.micros ≤ time) && decide (time ≤ stop)) := by
  unfold between
  cases start.aware <;> simp [eq_comm]

theorem premarketStart_eq_ok {config : FeatureEngineConfig D} {start : ClockTime} :
    premarketStart config = .ok start ↔ timeFromIsoformat config.premarketStartEt = some start := by
  unfold premarketStart
  cases timeFromIsoformat config.premarketStartEt <;> simp

theorem raising_eq_ok {x : Result α} {a : α} : raising x = .ok a ↔ x = .ok a := by
  cases x <;> simp [raising, Except.mapError]

theorem windowed_iff : Windowed zone snapshot config trade ↔
    ∃ inside, inPremarketWindow zone snapshot config trade = .ok inside := by
  simp only [inPremarketWindow, bind_eq_ok, raising_eq_ok, premarketStart_eq_ok, Windowed]
  constructor
  · rintro ⟨wall, now, start, hWall, hNow, hStart, hAware⟩
    obtain ⟨inside, hInside⟩ : ∃ inside, (if wall.date = now.date then
        between start wall.time now.time else pure false) = .ok inside := by
      split_ifs with hDate
      · exact ⟨_, between_eq_ok.mpr ⟨hAware hDate, rfl⟩⟩
      · exact ⟨false, rfl⟩
    exact ⟨inside, wall, hWall, now, hNow, start, hStart, hInside⟩
  · rintro ⟨inside, wall, hWall, now, hNow, start, hStart, h⟩
    refine ⟨wall, now, start, hWall, hNow, hStart, fun hDate => ?_⟩
    rw [if_pos hDate] at h
    exact (between_eq_ok.mp h).1

theorem raising_uncaught (x : Result α) : RaisesOnly (¬ ·.IsDataQuality) (raising x) := by
  cases x with
  | ok a => exact raisesOnly_ok
  | error e => exact raisesOnly_error.mpr id

theorem premarketStart_uncaught (config : FeatureEngineConfig D) :
    RaisesOnly (¬ ·.IsDataQuality) (premarketStart config) := by
  unfold premarketStart
  split
  · exact raisesOnly_ok
  · exact raisesOnly_error.mpr id

theorem between_uncaught (start : ClockTime) (time stop : ℕ) :
    RaisesOnly (¬ ·.IsDataQuality) (between start time stop) := by
  unfold between
  split_ifs
  · exact raisesOnly_error.mpr id
  · exact raisesOnly_ok

/-- No error of the window test is caught. -/
theorem inPremarketWindow_uncaught (trade : MaterializedTrade D) :
    RaisesOnly (¬ ·.IsDataQuality) (inPremarketWindow zone snapshot config trade) := by
  refine .bind (raising_uncaught _) fun wall _ => ?_
  refine .bind (raising_uncaught _) fun now _ => ?_
  refine .bind (premarketStart_uncaught config) fun start _ => ?_
  split_ifs
  · exact between_uncaught _ _ _
  · exact raisesOnly_pure

theorem currentSessionTrades_caught_iff {events : List (TradeLedgerEvent D)} :
    Caught (currentSessionTrades zone events snapshot config) ↔
      ∀ trades, materializeTrades events = .ok trades →
        ∀ trade ∈ trades, Windowed zone snapshot config trade := by
  unfold currentSessionTrades
  rw [caught_bind, and_iff_right (materializeTrades_caught events)]
  simp only [Caught, raisesOnly_filterOk inPremarketWindow_uncaught, windowed_iff]

/-- The trade is in the premarket window of the snapshot. -/
def Inside (zone : TimeZone) (snapshot : Timestamp) (config : FeatureEngineConfig D)
    (trade : MaterializedTrade D) : Prop :=
  inPremarketWindow zone snapshot config trade = .ok true

theorem inside_iff : Inside zone snapshot config trade ↔
    ∃ wall now start, zone trade.eventTimestamp = .ok wall ∧ zone snapshot = .ok now ∧
      timeFromIsoformat config.premarketStartEt = some start ∧ start.aware = false ∧
      wall.date = now.date ∧ start.micros ≤ wall.time ∧ wall.time ≤ now.time := by
  simp only [Inside, inPremarketWindow, bind_eq_ok, raising_eq_ok, premarketStart_eq_ok]
  constructor
  · rintro ⟨wall, hWall, now, hNow, start, hStart, h⟩
    split_ifs at h with hDate
    · obtain ⟨hNaive, hTime⟩ := between_eq_ok.mp h
      obtain ⟨hLow, hHigh⟩ := Bool.and_eq_true_iff.mp hTime.symm
      exact ⟨wall, now, start, hWall, hNow, hStart, hNaive, hDate, of_decide_eq_true hLow,
        of_decide_eq_true hHigh⟩
    · cases h
  · rintro ⟨wall, now, start, hWall, hNow, hStart, hNaive, hDate, hLow, hHigh⟩
    refine ⟨wall, hWall, now, hNow, start, hStart, ?_⟩
    rw [if_pos hDate, between_eq_ok]
    exact ⟨hNaive, by simp [hLow, hHigh]⟩

theorem inside_of_mem {events : List (TradeLedgerEvent D)}
    (h : currentSessionTrades zone events snapshot config = .ok trades) (hTrade : trade ∈ trades) :
    Inside zone snapshot config trade := by
  obtain ⟨all, -, h⟩ := bind_eq_ok.mp h
  obtain ⟨hTests, rfl⟩ := filterOk_eq_ok.mp h
  obtain ⟨hMem, hKept⟩ := List.mem_filter.mp hTrade
  obtain ⟨keep, hKeep⟩ := hTests trade hMem
  rw [hKeep] at hKept
  exact hKeep.trans (congrArg Except.ok hKept)

/-! ### Historical sessions -/

/-- The times of the trades of a complete session can be converted. -/
def Convertible (zone : TimeZone) (session : PremarketSession D) : Prop :=
  session.complete = true → ∀ trades, materializeTrades session.events = .ok trades →
    ∀ trade ∈ trades, ∃ wall, zone trade.eventTimestamp = .ok wall

/-- The sessions of the lookback are convertible, up to the first that is refused. -/
def SessionsConvertible (zone : TimeZone) (snapshot : Timestamp) (config : FeatureEngineConfig D)
    (sessions : List (PremarketSession D)) : Prop :=
  config.rvolLookbackSessions ≤ sessions.length → ∀ earlier session later,
    (sortedBy (·.sessionDate) sessions).drop (sessions.length - config.rvolLookbackSessions) =
      earlier ++ session :: later →
    (∀ refused ∈ earlier, ∃ volume, historicalSessionVolume zone snapshot config refused = .ok volume) →
    Convertible zone session

theorem inSessionWindow_uncaught (session : PremarketSession D) (start : ClockTime) (cutoff : ℕ)
    (trade : MaterializedTrade D) :
    RaisesOnly (¬ ·.IsDataQuality) (inSessionWindow zone session start cutoff trade) := by
  refine .bind (raising_uncaught _) fun wall _ => ?_
  split_ifs
  · exact between_uncaught _ _ _
  · exact raisesOnly_pure

theorem exists_inSessionWindow_iff {session : PremarketSession D} {start : ClockTime} {cutoff : ℕ}
    (h : start.aware = false) : (∃ keep, inSessionWindow zone session start cutoff trade = .ok keep) ↔
      ∃ wall, zone trade.eventTimestamp = .ok wall := by
  simp only [inSessionWindow, bind_eq_ok, raising_eq_ok]
  constructor
  · rintro ⟨-, wall, hWall, -⟩
    exact ⟨wall, hWall⟩
  · rintro ⟨wall, hWall⟩
    by_cases hDate : wall.date = session.sessionDate
    · exact ⟨_, wall, hWall, by rw [if_pos hDate, between_eq_ok]; exact ⟨h, rfl⟩⟩
    · exact ⟨false, wall, hWall, if_neg hDate⟩

/-- Within the window of some trade, a session is caught where its times are convertible. -/
theorem historicalSessionVolume_caught_iff (h : Inside zone snapshot config trade)
    (session : PremarketSession D) :
    Caught (historicalSessionVolume zone snapshot config session) ↔ Convertible zone session := by
  obtain ⟨-, now, start, -, hNow, hStart, hNaive, -⟩ := inside_iff.mp h
  unfold historicalSessionVolume Convertible
  cases session.complete with
  | false => exact iff_of_true (.guard trivial fun h => absurd rfl h) fun h => nomatch h
  | true =>
    rw [if_neg (by decide), raising_eq_ok.mpr hNow, ok_bind,
      premarketStart_eq_ok.mpr hStart, ok_bind, caught_bind, forall_prop_of_true rfl,
      and_iff_right (materializeTrades_caught session.events)]
    refine forall₂_congr fun trades _ => ?_
    have hTests : Caught (filterOk (inSessionWindow zone session start now.time) trades) ↔
        ∀ trade ∈ trades, ∃ wall, zone trade.eventTimestamp = .ok wall := by
      simp only [Caught, raisesOnly_filterOk (inSessionWindow_uncaught session start now.time),
        exists_inSessionWindow_iff hNaive]
    rw [caught_bind, hTests]
    exact and_iff_left fun _ _ => raisesOnly_pure

theorem rvolTimeMatched_raises (h : Inside zone snapshot config trade) (volume : ℕ)
    {sessions : List (PremarketSession D)}
    (hSessions : SessionsConvertible zone snapshot config sessions) :
    RaisesOnly FeatureError.IsArithmetic
      (rvolTimeMatched zone volume sessions snapshot config) := by
  refine .guard trivial fun hEnough => ?_
  have hVolumes : Caught (((sortedBy (·.sessionDate) sessions).drop
      (sessions.length - config.rvolLookbackSessions)).mapM
        (historicalSessionVolume zone snapshot config)) :=
    raisesOnly_mapM.mpr fun earlier session later hSplit hEarlier =>
      (historicalSessionVolume_caught_iff h session).mpr
        (hSessions (not_lt.mp hEnough) earlier session later hSplit hEarlier)
  refine .bind (hVolumes.mono fun e he => ?_) fun volumes _ => ?_
  · cases e with
    | dataQuality => trivial
    | raised => exact he.elim
  · refine .bind (arith_raises _) fun _ _ => ?_
    refine .guard trivial fun _ => ?_
    exact .bind (arith_raises _) fun _ _ => quantizeSix_raises _

theorem rvolTimeMatched_caught_iff (h : Inside zone snapshot config trade) (volume : ℕ)
    {sessions : List (PremarketSession D)} :
    Caught (rvolTimeMatched zone volume sessions snapshot config) ↔
      SessionsConvertible zone snapshot config sessions ∧
        ¬ Signals (rvolTimeMatched zone volume sessions snapshot config) := by
  constructor
  · intro hCaught
    refine ⟨fun hEnough earlier session later hSplit hEarlier => ?_, ?_⟩
    · unfold rvolTimeMatched at hCaught
      rw [if_neg (not_lt.mpr hEnough), caught_bind] at hCaught
      have hSession := raisesOnly_mapM.mp hCaught.1 earlier session later hSplit hEarlier
      exact (historicalSessionVolume_caught_iff h session).mp hSession
    · rintro ⟨signal, hSignal⟩
      exact hCaught _ hSignal
  · rintro ⟨hSessions, hNone⟩
    exact (caught_iff_not_signals (rvolTimeMatched_raises h volume hSessions)).mpr hNone

/-! ### The volume profile -/

theorem premarketVolume_pos (h : trades ≠ []) : 0 < premarketVolume trades := by
  obtain ⟨trade, rest, rfl⟩ := List.exists_cons_of_ne_nil h
  rw [premarketVolume, List.map_cons, List.sum_cons]
  exact Nat.add_pos_left trade.size.pos _

theorem div_ofInt_caught (a : Decimal) {n : ℤ} (h : n ≠ 0) :
    Caught (arith (DecimalArithmetic.div a (ofInt n))) := by
  have hCoefficient : (Decimal.ofInt n).coefficient ≠ 0 := Int.natAbs_ne_zero.mpr h
  obtain ⟨r, hr⟩ := Decimal.exists_div a hCoefficient
  have hDiv : DecimalArithmetic.div a (ofInt n) = .ok r := hr
  rw [hDiv]
  exact raisesOnly_ok

theorem volumeProfile_caught {config : FeatureEngineConfig Decimal}
    {trades : List (MaterializedTrade Decimal)} (hTrades : trades ≠ [])
    (h : ∀ trade ∈ trades, Inside zone snapshot config trade) :
    Caught (volumeProfile zone trades snapshot config) := by
  have hVolume := premarketVolume_pos hTrades
  obtain ⟨first, hFirst⟩ := List.exists_mem_of_ne_nil trades hTrades
  obtain ⟨-, now, start, -, hNow, hStart, -⟩ := inside_iff.mp (h first hFirst)
  refine .guard trivial fun _ => ?_
  rw [raising_eq_ok.mpr hNow, ok_bind, premarketStart_eq_ok.mpr hStart, ok_bind]
  refine .guard trivial fun hCount => ?_
  refine .bind (.foldlM (fun buckets trade hTrade => ?_) _) fun buckets _ => ?_
  · obtain ⟨wall, -, -, hWall, -⟩ := inside_iff.mp (h trade hTrade)
    rw [addToBucket, raising_eq_ok.mpr hWall]
    exact raisesOnly_pure
  · refine .bind (div_ofInt_caught _ (by exact_mod_cast hVolume.ne')) fun _ _ => ?_
    exact .bind (div_ofInt_caught _ (not_le.mp hCount).ne') fun _ _ => raisesOnly_pure

end Daybreak.Features
