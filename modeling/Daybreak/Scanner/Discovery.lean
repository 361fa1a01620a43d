import Daybreak.Effect.Dict
import Daybreak.Scanner.Signals
import Daybreak.Serial.DecimalText

/-! The qualification of the gainers, their ranking, and the scan that publishes both the
capped ranking and the signals. The ranking is cut at the cap, the candidates that signals
are built from are not. -/

namespace Daybreak.Scanner

open Contracts Daybreak.Order Effect Effect.Fallible Features Numeric Serial

/-! ### Relative volume -/

/-- `average_daily_volume` -/
def averageDailyVolume (bars : List (DailyBar Decimal)) (lookbackSessions : ℕ) :
    Result (Option Decimal) := do
  if bars = [] then return none
  let ordered := sortedBy (·.sessionDate) bars
  let recent := ordered.drop (ordered.length - lookbackSessions)
  let average ← signals
    (Decimal.div (.ofInt (recent.map (·.volume)).sum) (.ofInt recent.length))
  return some average

/-- `relative_volume`, for an average that is known. -/
def relativeVolume (currentVolume : ℤ) (averageVolume : Decimal) : Result (Option Decimal) := do
  if averageVolume.toRat = 0 then return none
  let rvol ← signals (Decimal.div (.ofInt currentVolume) averageVolume)
  return some rvol

/-! ### Qualification -/

abbrev Volumes := Dict String ℤ

abbrev Averages := Dict String Decimal

/-- The relative volume of a mover, where both volumes are known. -/
def rvolOf (volumes : Volumes) (averages : Averages) (mover : MarketMover) :
    Result (Option Decimal) :=
  match volumes.lookup mover.ticker, averages.lookup mover.ticker with
  | some volume, some average => relativeVolume volume average
  | _, _ => .ok none

/-- The reasons against a mover, in the order in which they are found. -/
def reasonsAgainst (policy : ScannerPolicy) (volume : Option ℤ) (rvol : Option Decimal)
    (mover : MarketMover) : List String :=
  (if mover.percentChange.toRat < policy.gapMinPct.toRat then
    [s!"percent_change {scientificText mover.percentChange} below gap_min_pct " ++
      scientificText policy.gapMinPct] else []) ++
  (match volume with
    | none => ["ticker had no current-session volume in the snapshot response"]
    | some volume =>
      if volume < policy.premarketVolumeMin then
        [s!"volume {volume} below premarket_volume_min {policy.premarketVolumeMin}"] else []) ++
  (match rvol with
    | none => []
    | some rvol =>
      if rvol.toRat < policy.rvolMin.toRat then
        [s!"relative_volume {scientificText rvol} below rvol_min " ++
          scientificText policy.rvolMin] else [])

/-- A round of the loop of `qualify_candidates`; a volume must not be negative. -/
def qualify (policy : ScannerPolicy) (volumes : Volumes) (averages : Averages)
    (mover : MarketMover) : Result CandidateQualification := do
  let volume := volumes.lookup mover.ticker
  let rvol ← rvolOf volumes averages mover
  let reasons := reasonsAgainst policy volume rvol mover
  if volume.getD 0 < 0 then throw (.validationError "CandidateQualification")
  return {
    ticker := mover.ticker
    percentChange := mover.percentChange
    price := mover.price
    volume := (volume.getD 0).toNat
    relativeVolume := rvol
    qualifies := reasons.isEmpty
    disqualificationReasons := reasons
    canonical := mover.canonical }

def qualifyCandidates (policy : ScannerPolicy) (volumes : Volumes) (averages : Averages)
    (gainers : List MarketMover) : Result (List CandidateQualification) :=
  gainers.mapM (qualify policy volumes averages)

/-- The largest change first; candidates with equal changes keep their order. -/
def ranked (candidates : List CandidateQualification) : List CandidateQualification :=
  sortedBy (fun item => -item.percentChange.toRat) (candidates.filter (·.qualifies))

def qualifyingTickers (candidates : List CandidateQualification) (limit : ℕ) : List String :=
  ((ranked candidates).take limit).map (·.ticker)

/-! ### The scan -/

/-- The averages of the tickers that have bars. -/
def averageVolumes (policy : ScannerPolicy) (bars : Dict String (List (DailyBar Decimal))) :
    Result Averages :=
  bars.entries.foldlM (fun averages entry => do
    match ← averageDailyVolume entry.2 policy.rvolLookbackSessions with
    | none => return averages
    | some average => return averages.insert entry.1 average) ∅

/-- What the two files of a scan hold. -/
structure ScanResult where
  candidates : List CandidateQualification
  qualifying : List String
  signals : List Signal

/-- The scan, from the market data on. -/
def scan (policy : ScannerPolicy) (gainers : List MarketMover) (volumes : Volumes)
    (bars : Dict String (List (DailyBar Decimal))) (tradingDate : Day) (generatedAt : Timestamp)
    (trend : String → Option Decimal) : Result ScanResult := do
  let averages ← averageVolumes policy bars
  let candidates ← qualifyCandidates policy volumes averages gainers
  let qualifying := qualifyingTickers candidates policy.maxCandidates
  let signals ← buildSignals candidates bars.lookup tradingDate generatedAt trend
  return ⟨candidates, qualifying, signals⟩

/-! ### The ranking of the movers -/

/-- The mover meets every threshold of the policy. -/
def Qualifies (policy : ScannerPolicy) (volumes : Volumes) (averages : Averages)
    (mover : MarketMover) : Prop :=
  ∃ rvol ∈ (rvolOf volumes averages mover).toOption,
    reasonsAgainst policy (volumes.lookup mover.ticker) rvol mover = []

instance decidableQualifies (policy : ScannerPolicy) (volumes : Volumes) (averages : Averages)
    (mover : MarketMover) : Decidable (Qualifies policy volumes averages mover) :=
  inferInstanceAs (Decidable (∃ rvol ∈ (rvolOf volumes averages mover).toOption, _))

/-- The tickers of the movers that qualify, the largest change first. -/
def ranking (policy : ScannerPolicy) (volumes : Volumes) (averages : Averages)
    (gainers : List MarketMover) : List String :=
  (sortedBy (fun mover => -mover.percentChange.toRat)
    (gainers.filter (Qualifies policy volumes averages ·))).map (·.ticker)

variable {policy : ScannerPolicy} {volumes : Volumes} {averages : Averages}
  {gainers : List MarketMover} {mover : MarketMover} {candidate : CandidateQualification}
  {candidates : List CandidateQualification}

theorem qualify_eq_ok (h : qualify policy volumes averages mover = .ok candidate) :
    candidate.ticker = mover.ticker ∧ candidate.percentChange = mover.percentChange ∧
      candidate.qualifies = decide (Qualifies policy volumes averages mover) := by
  obtain ⟨rvol, hRvol, h⟩ := bind_eq_ok.mp h
  obtain ⟨-, h⟩ := guard_eq_ok.mp h
  obtain rfl := Except.ok.inj h
  refine ⟨rfl, rfl, ?_⟩
  rw [Bool.eq_iff_iff, decide_eq_true_iff]
  unfold Qualifies
  simp [hRvol, Except.toOption]

/-- What of a candidate its rank depends on, and its ticker. -/
abbrev Standing := String × ℚ × Bool

def rankStandings (standings : List Standing) : List String :=
  (sortedBy (fun standing => -standing.2.1) (standings.filter (·.2.2))).map (·.1)

/-- The ranking of a list is that of its standings. -/
theorem map_sortedBy_filter {α : Type} (standing : α → Standing) (xs : List α) :
    (sortedBy (fun x => -(standing x).2.1) (xs.filter fun x => (standing x).2.2)).map
      (fun x => (standing x).1) = rankStandings (xs.map standing) := by
  have hSort := List.map_insertionSort (fun x y => -(standing x).2.1 ≤ -(standing y).2.1)
    (fun a b : Standing => -a.2.1 ≤ -b.2.1) standing (xs.filter fun x => (standing x).2.2)
    fun _ _ _ _ => Iff.rfl
  have hFilter : (xs.map standing).filter (·.2.2) =
      (xs.filter fun x => (standing x).2.2).map standing := List.filter_map
  rw [rankStandings, hFilter, sortedBy, sortedBy, ← hSort, List.map_map]
  rfl

/-- The candidates are ranked as their movers. -/
theorem map_ranked (h : qualifyCandidates policy volumes averages gainers = .ok candidates) :
    (ranked candidates).map (·.ticker) = ranking policy volumes averages gainers := by
  have hStandings : candidates.map (fun candidate =>
        (candidate.ticker, candidate.percentChange.toRat, candidate.qualifies)) =
      gainers.map fun mover => (mover.ticker, mover.percentChange.toRat,
        decide (Qualifies policy volumes averages mover)) := by
    refine map_eq_of_mapM h fun mover candidate hOk => ?_
    obtain ⟨hTicker, hChange, hQualifies⟩ := qualify_eq_ok hOk
    rw [hTicker, hChange, hQualifies]
  have hCandidates := map_sortedBy_filter (fun candidate : CandidateQualification =>
    (candidate.ticker, candidate.percentChange.toRat, candidate.qualifies)) candidates
  have hGainers := map_sortedBy_filter (fun mover : MarketMover => (mover.ticker,
    mover.percentChange.toRat, decide (Qualifies policy volumes averages mover))) gainers
  rw [ranked, ranking]
  exact hCandidates.trans ((congrArg rankStandings hStandings).trans hGainers.symm)

/-! ### The cap -/

/-- The ticker moves enough to have a range, so that its candidate gets a signal. -/
def HasRange (bars : Bars) (ticker : String) : Prop := ∃ atr ∈ rangeFor bars ticker, 0 < atr

instance decidableHasRange (bars : Bars) (ticker : String) : Decidable (HasRange bars ticker) :=
  inferInstanceAs (Decidable (∃ atr ∈ rangeFor bars ticker, _))

/-- The signals are of reported tickers, no more than the cap, and of tickers that fewer than the
cap have left behind. -/
structure CapRespected (policy : ScannerPolicy) (result : ScanResult) : Prop where
  reported : ∀ signal ∈ result.signals, signal.ticker ∈ result.qualifying
  count : result.signals.length ≤ policy.maxCandidates
  rank : ∀ signal ∈ result.signals, ∃ candidate ∈ result.candidates,
    candidate.qualifies = true ∧ candidate.ticker = signal.ticker ∧
    ((result.candidates.filter (·.qualifies)).filter fun other =>
      candidate.percentChange.toRat < other.percentChange.toRat).length < policy.maxCandidates

/-- Fewer than `n` elements stand before one of the first `n`. -/
theorem length_filter_lt_of_mem_take {α : Type} {key : α → ℚ} {xs : List α} {n : ℕ} {a : α}
    (hSorted : xs.Pairwise fun a b => key a ≤ key b) (h : a ∈ xs.take n) :
    (xs.filter fun b => key b < key a).length < n := by
  induction xs generalizing n with
  | nil => simp at h
  | cons x xs ih =>
    obtain ⟨hFirst, hRest⟩ := List.pairwise_cons.mp hSorted
    cases n with
    | zero => simp at h
    | succ n =>
      rw [List.take_succ_cons] at h
      rcases List.mem_cons.mp h with rfl | h
      · have hNone : (a :: xs).filter (fun b => key b < key a) = [] := by
          simpa using hFirst
        simp [hNone]
      · have hLess := ih hRest h
        by_cases hx : key x < key a
        · rw [List.filter_cons_of_pos (by simpa using hx), List.length_cons]
          omega
        · rw [List.filter_cons_of_neg (by simpa using hx)]
          omega

theorem rank_of_mem_take {n : ℕ} (h : candidate ∈ (ranked candidates).take n) :
    candidate ∈ candidates ∧ candidate.qualifies = true ∧
      ((candidates.filter (·.qualifies)).filter fun other =>
        candidate.percentChange.toRat < other.percentChange.toRat).length < n := by
  obtain ⟨hMem, hQualifies⟩ := List.mem_filter.mp (mem_sortedBy.mp (List.mem_of_mem_take h))
  refine ⟨hMem, hQualifies, ?_⟩
  have hLess := length_filter_lt_of_mem_take (pairwise_sortedBy _ _) h
  rw [((sortedBy_perm _ _).filter _).length_eq] at hLess
  simpa only [neg_lt_neg_iff] using hLess

theorem map_ticker {signals : List Signal} (h : List.Forall₂ SignalOf candidates signals) :
    signals.map (·.ticker) = candidates.map (·.ticker) := by
  induction h with
  | nil => rfl
  | cons hFirst _ ih => rw [List.map_cons, List.map_cons, ih, hFirst.ticker]

/-- The tickers of the signals are those of the ranking that have a range. -/
theorem signals_perm {bars : Bars} {signals : List Signal}
    (h : List.Forall₂ SignalOf (candidates.filter (Signalled bars ·)) signals) :
    (signals.map (·.ticker)).Perm
      (((ranked candidates).map (·.ticker)).filter (HasRange bars ·)) := by
  have hSplit : candidates.filter (Signalled bars ·) =
      (candidates.filter (·.qualifies)).filter (fun c => HasRange bars c.ticker) := by
    rw [List.filter_filter]
    refine List.filter_congr fun c _ => ?_
    rw [Bool.and_comm, Bool.eq_iff_iff, Bool.and_eq_true, decide_eq_true_iff, decide_eq_true_iff]
    exact Iff.rfl
  rw [map_ticker h, hSplit, List.filter_map]
  exact (((sortedBy_perm _ _).symm).filter _).map _

theorem capRespected_iff {bars : Bars} {result : ScanResult}
    (hReported : result.qualifying = qualifyingTickers result.candidates policy.maxCandidates)
    (hSignals : List.Forall₂ SignalOf (result.candidates.filter (Signalled bars ·))
      result.signals) :
    CapRespected policy result ↔
      (∀ ticker ∈ ((ranked result.candidates).map (·.ticker)).drop policy.maxCandidates,
        HasRange bars ticker → ticker ∈ result.qualifying) ∧
      ((ranked result.candidates).map (·.ticker)).countP (HasRange bars ·) ≤
        policy.maxCandidates := by
  have hPerm := signals_perm hSignals
  have hCount : result.signals.length =
      ((ranked result.candidates).map (·.ticker)).countP (HasRange bars ·) := by
    rw [List.countP_eq_length_filter, ← hPerm.length_eq, List.length_map]
  have hMem (ticker : String) : (∃ signal ∈ result.signals, signal.ticker = ticker) ↔
      ticker ∈ (ranked result.candidates).map (·.ticker) ∧ HasRange bars ticker := by
    rw [← List.mem_map, hPerm.mem_iff, List.mem_filter, decide_eq_true_iff]
  constructor
  · intro h
    refine ⟨fun ticker hPast hRange => ?_, hCount ▸ h.count⟩
    obtain ⟨signal, hSignal, rfl⟩ := (hMem ticker).mpr ⟨List.mem_of_mem_drop hPast, hRange⟩
    exact h.reported signal hSignal
  · rintro ⟨hPast, hFew⟩
    have hAll : ∀ signal ∈ result.signals, signal.ticker ∈ result.qualifying := by
      intro signal hSignal
      obtain ⟨hTicker, hRange⟩ := (hMem signal.ticker).mp ⟨signal, hSignal, rfl⟩
      rw [← List.take_append_drop policy.maxCandidates
        ((ranked result.candidates).map (·.ticker)), List.mem_append] at hTicker
      rcases hTicker with hTop | hLater
      · rwa [hReported, qualifyingTickers, List.map_take]
      · exact hPast _ hLater hRange
    refine ⟨hAll, hCount.trans_le hFew, fun signal hSignal => ?_⟩
    have hTop := hAll signal hSignal
    rw [hReported] at hTop
    obtain ⟨candidate, hCandidate, hTicker⟩ := List.mem_map.mp hTop
    obtain ⟨hMember, hQualifies, hRank⟩ := rank_of_mem_take hCandidate
    exact ⟨candidate, hMember, hQualifies, hTicker, hRank⟩

/-- Where the tickers differ, the signals respect the cap exactly when no ticker that is ranked
past it has a range. -/
theorem forall_drop_iff {tickers : List String} {bars : Bars} {n : ℕ} (hNodup : tickers.Nodup) :
    ((∀ ticker ∈ tickers.drop n, HasRange bars ticker → ticker ∈ tickers.take n) ∧
        tickers.countP (HasRange bars ·) ≤ n) ↔
      ∀ ticker ∈ tickers.drop n, ¬ HasRange bars ticker := by
  constructor
  · rintro ⟨h, -⟩ ticker hPast hRange
    exact List.disjoint_take_drop hNodup le_rfl (h ticker hPast hRange) hPast
  · intro h
    refine ⟨fun ticker hPast hRange => absurd hRange (h ticker hPast), ?_⟩
    have hNone : (tickers.drop n).countP (HasRange bars ·) = 0 :=
      List.countP_eq_zero.mpr fun ticker hPast => by simpa using h ticker hPast
    rw [← List.take_append_drop n tickers, List.countP_append, hNone, add_zero]
    exact List.countP_le_length.trans (List.length_take_le n tickers)

theorem scan_eq_ok {bars : Dict String (List (DailyBar Decimal))} {tradingDate : Day}
    {generatedAt : Timestamp} {trend : String → Option Decimal} {result : ScanResult}
    (h : scan policy gainers volumes bars tradingDate generatedAt trend = .ok result)
    (hAverages : averageVolumes policy bars = .ok averages) :
    qualifyCandidates policy volumes averages gainers = .ok result.candidates ∧
      result.qualifying = qualifyingTickers result.candidates policy.maxCandidates ∧
      buildSignals result.candidates bars.lookup tradingDate generatedAt trend =
        .ok result.signals := by
  rw [scan, hAverages, ok_bind] at h
  obtain ⟨candidates, hCandidates, h⟩ := bind_eq_ok.mp h
  obtain ⟨signals, hSignals, h⟩ := bind_eq_ok.mp h
  obtain rfl := Except.ok.inj h
  exact ⟨hCandidates, rfl, hSignals⟩

/-- The signals of a scan respect the cap exactly when the tickers with a range that are ranked
past it are reported too, and no more than the cap have a range; where the tickers of the gainers
differ, exactly when no ticker ranked past the cap has one. -/
theorem scan_capRespected_iff {bars : Dict String (List (DailyBar Decimal))} {tradingDate : Day}
    {generatedAt : Timestamp} {trend : String → Option Decimal} {result : ScanResult}
    (h : scan policy gainers volumes bars tradingDate generatedAt trend = .ok result)
    (hAverages : averageVolumes policy bars = .ok averages) :
    (CapRespected policy result ↔
      (∀ ticker ∈ (ranking policy volumes averages gainers).drop policy.maxCandidates,
        HasRange bars.lookup ticker →
          ticker ∈ (ranking policy volumes averages gainers).take policy.maxCandidates) ∧
      (ranking policy volumes averages gainers).countP (HasRange bars.lookup ·) ≤
        policy.maxCandidates) ∧
    ((gainers.map (·.ticker)).Nodup → (CapRespected policy result ↔
      ∀ ticker ∈ (ranking policy volumes averages gainers).drop policy.maxCandidates,
        ¬ HasRange bars.lookup ticker)) := by
  obtain ⟨hCandidates, hReported, hSignals⟩ := scan_eq_ok h hAverages
  have hRanking := map_ranked hCandidates
  have hIff := capRespected_iff hReported (buildSignals_eq_ok hSignals)
  rw [hReported, qualifyingTickers, List.map_take, hRanking] at hIff
  refine ⟨hIff, fun hNodup => hIff.trans (forall_drop_iff ?_)⟩
  have hSublist : ((gainers.filter (Qualifies policy volumes averages ·)).map (·.ticker)).Nodup :=
    hNodup.sublist (List.filter_sublist.map _)
  exact ((sortedBy_perm _ _).map _).nodup_iff.mpr hSublist

/-! ### Two movers and a cap of one -/

theorem lookback_valid : 1 ≤ 20 := by decide

theorem candidates_valid : 1 ≤ 1 ∧ 1 ≤ 25 := by decide

def moverPolicy : ScannerPolicy where
  maxCandidates := 1
  lookback_pos := lookback_valid
  candidates_bounds := candidates_valid

def risingMover (ticker : String) (h : isCanonicalTicker ticker = true) (percent : ℤ) :
    MarketMover where
  ticker := ticker
  percentChange := .ofInt percent
  change := .ofInt 1
  price := ⟨.ofInt 20, isPrice_twenty⟩
  canonical := h

def twoMovers : List MarketMover :=
  [risingMover "AAAA" canonical_AAAA 10, risingMover "BBBB" canonical_BBBB 9]

def moverVolumes : Volumes := ((∅ : Volumes).insert "BBBB" 600000).insert "AAAA" 600000

def moverBars : Dict String (List (DailyBar Decimal)) :=
  ((∅ : Dict String (List (DailyBar Decimal))).insert "BBBB"
    ((List.range 15).map fun i => volatileBar i)).insert "AAAA"
      ((List.range 15).map fun i => volatileBar i)

def moverScan : Result ScanResult :=
  scan moverPolicy twoMovers moverVolumes moverBars 0 0 fun _ => none

theorem moverScan_summary : moverScan.toOption.map (fun result =>
    (result.qualifying, result.signals.map (·.ticker))) = some (["AAAA"], ["AAAA", "BBBB"]) := by
  decide +kernel

theorem averageVolumes_isSome : (averageVolumes moverPolicy moverBars).toOption.isSome := by
  decide +kernel

theorem exists_moverScan : ∃ result, moverScan = .ok result ∧ result.qualifying = ["AAAA"] ∧
    result.signals.map (·.ticker) = ["AAAA", "BBBB"] := by
  obtain ⟨result, hResult, hSummary⟩ := Option.map_eq_some_iff.mp moverScan_summary
  obtain ⟨hQualifying, hSignals⟩ := Prod.mk.inj hSummary
  cases h : moverScan with
  | error e =>
    rw [h] at hResult
    cases hResult
  | ok result' =>
    rw [h] at hResult
    obtain rfl := Option.some.inj hResult
    exact ⟨result', rfl, hQualifying, hSignals⟩

/-- The scan reports one ticker and publishes the signals of two. -/
theorem moverScan_exceeds_cap : ∃ result,
    scan moverPolicy twoMovers moverVolumes moverBars 0 0 (fun _ => none) = .ok result ∧
      ¬ CapRespected moverPolicy result := by
  obtain ⟨result, hResult, -, hSignals⟩ := exists_moverScan
  refine ⟨result, hResult, fun h => ?_⟩
  have hLength : result.signals.length = 2 := by
    rw [← List.length_map (·.ticker), hSignals]
    rfl
  have hCount := h.count
  rw [hLength] at hCount
  exact absurd hCount (by decide)

theorem moverScan_capRespected_iff : ∃ result averages,
    scan moverPolicy twoMovers moverVolumes moverBars 0 0 (fun _ => none) = .ok result ∧
    averageVolumes moverPolicy moverBars = .ok averages ∧
    (CapRespected moverPolicy result ↔
      ∀ ticker ∈ (ranking moverPolicy moverVolumes averages twoMovers).drop
        moverPolicy.maxCandidates, ¬ HasRange moverBars.lookup ticker) := by
  obtain ⟨result, hResult, -⟩ := exists_moverScan
  cases h : averageVolumes moverPolicy moverBars with
  | error e =>
    have hSome := averageVolumes_isSome
    rw [h] at hSome
    cases hSome
  | ok averages =>
    have hIff := (scan_capRespected_iff hResult h).2 (by decide)
    exact ⟨result, averages, hResult, rfl, hIff⟩

end Daybreak.Scanner
